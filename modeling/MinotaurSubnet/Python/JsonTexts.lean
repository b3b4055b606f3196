import Mathlib
import MinotaurSubnet.Library.Delimited
import MinotaurSubnet.Python.Json

/-! # A value is determined by its JSON text

`dumps` writes the members of an object in the order of their names, so equal texts mean equal
values up to that order. A value in a text is followed by its end, a comma or a closing bracket,
which no number or word contains.
-/

namespace MinotaurSubnet.Python

open Library

namespace Value

mutual

/-- The value with the members of its objects in the order of `sort_keys`. -/
def sorted : Value → Value
  | .none => .none
  | .bool b => .bool b
  | .int i => .int i
  | .float f => .float f
  | .str s => .str s
  | .list items => .list (sortedItems items)
  | .dict fields => .dict (sortedBy Prod.fst (sortedFields fields))

def sortedItems : List Value → List Value
  | [] => []
  | v :: rest => sorted v :: sortedItems rest

def sortedFields : List (String × Value) → List (String × Value)
  | [] => []
  | (name, v) :: rest => (name, sorted v) :: sortedFields rest

end

theorem sortedItems_eq_map (items : List Value) : sortedItems items = items.map sorted := by
  induction items with
  | nil => rfl
  | cons v rest ih => rw [sortedItems, ih, List.map_cons]

theorem sortedFields_eq_map (fields : List (String × Value)) :
    sortedFields fields = fields.map fun field => (field.1, field.2.sorted) := by
  induction fields with
  | nil => rfl
  | cons field rest ih => rw [sortedFields, ih, List.map_cons]

variable [FloatRepr]

theorem dumpsItems_eq_map (items : List Value) :
    dumpsItems items = items.map dumps := by
  induction items with
  | nil => rfl
  | cons v rest ih => rw [dumpsItems, ih, List.map_cons]

theorem dumpsFields_eq_map (fields : List (String × Value)) :
    dumpsFields fields = fields.map fun field => (field.1, field.2.dumps) := by
  induction fields with
  | nil => rfl
  | cons field rest ih => rw [dumpsFields, ih, List.map_cons]

end Value

namespace PyStr

def hexDigit (c : Char) : Nat := if c.isDigit then c.toNat - 48 else c.toNat - 87

def codeUnit (a b c d : Char) : Nat :=
  ((hexDigit a * 16 + hexDigit b) * 16 + hexDigit c) * 16 + hexDigit d

def unescapeLetter (letter : Char) : Nat :=
  if letter = 'n' then 10 else if letter = 'r' then 13 else if letter = 't' then 9
  else if letter = 'b' then 8 else if letter = 'f' then 12 else letter.toNat

/-- The first code unit of a text inside quotes, and what follows it. -/
def unescape : List Char → Option (Nat × List Char)
  | '\\' :: 'u' :: a :: b :: c :: d :: rest => some (codeUnit a b c d, rest)
  | '\\' :: letter :: rest => some (unescapeLetter letter, rest)
  | c :: rest => some (c.toNat, rest)
  | [] => none

theorem hexDigit_digitChar {d} (digit : d < 16) : hexDigit d.digitChar = d := by
  revert digit
  revert d
  decide

theorem hexDigits_eq {n} (unit : n < 0x10000) : (hexDigits n).toList =
    [(n / 4096).digitChar, (n / 256 % 16).digitChar, (n / 16 % 16).digitChar, (n % 16).digitChar] := by
  unfold hexDigits
  rw [String.toList_ofList]
  by_cases one : n < 16
  · rw [Nat.toDigits_of_lt_base one]
    have high : n / 4096 = 0 ∧ n / 256 % 16 = 0 ∧ n / 16 % 16 = 0 ∧ n % 16 = n := by omega
    rw [high.1, high.2.1, high.2.2.1, high.2.2.2]
    rfl
  by_cases two : n < 256
  · rw [Nat.toDigits_of_base_le (by decide) (by omega), Nat.toDigits_of_lt_base (by omega)]
    have high : n / 4096 = 0 ∧ n / 256 % 16 = 0 ∧ n / 16 % 16 = n / 16 := by omega
    rw [high.1, high.2.1, high.2.2]
    rfl
  by_cases three : n < 4096
  · rw [Nat.toDigits_of_base_le (by decide) (by omega),
      Nat.toDigits_of_base_le (by decide) (by omega), Nat.toDigits_of_lt_base (by omega)]
    have high : n / 4096 = 0 ∧ n / 256 % 16 = n / 16 / 16 := by omega
    rw [high.1, high.2]
    rfl
  · rw [Nat.toDigits_of_base_le (by decide) (by omega),
      Nat.toDigits_of_base_le (by decide) (by omega),
      Nat.toDigits_of_base_le (by decide) (by omega), Nat.toDigits_of_lt_base (by omega)]
    have high : n / 4096 = n / 16 / 16 / 16 ∧ n / 256 % 16 = n / 16 / 16 % 16 := by omega
    rw [high.1, high.2]
    rfl

theorem codeUnit_hexDigits {n} (unit : n < 0x10000) :
    codeUnit (n / 4096).digitChar (n / 256 % 16).digitChar (n / 16 % 16).digitChar
      (n % 16).digitChar = n := by
  unfold codeUnit
  rw [hexDigit_digitChar (by omega), hexDigit_digitChar (by omega), hexDigit_digitChar (by omega),
    hexDigit_digitChar (by omega)]
  omega

theorem unescape_unit {n} (unit : n < 0x10000) (rest : List Char) :
    unescape (("\\u" ++ hexDigits n).toList ++ rest) = some (n, rest) := by
  rw [String.toList_append, hexDigits_eq unit]
  show some (codeUnit _ _ _ _, rest) = _
  rw [codeUnit_hexDigits unit]

theorem unescape_plain {c} (plain : c ≠ '\\') (rest : List Char) :
    unescape (c :: rest) = some (c.toNat, rest) := by
  unfold unescape
  split
  · next same => exact absurd (List.cons.inj same).1 plain
  · next same => exact absurd (List.cons.inj same).1 plain
  · next same =>
      obtain ⟨rfl, rfl⟩ := List.cons.inj same
      rfl
  · next same => cases same

theorem unescape_letter {letter} (short : letter ≠ 'u') (rest : List Char) :
    unescape ('\\' :: letter :: rest) = some (unescapeLetter letter, rest) := by
  unfold unescape
  split
  · next same => exact absurd (List.cons.inj (List.cons.inj same).2).1 short
  · next same =>
      obtain ⟨rfl, rfl⟩ := List.cons.inj (List.cons.inj same).2
      rfl
  · next other same =>
      obtain ⟨rfl, rfl⟩ := List.cons.inj same
      exact absurd rfl (other letter rest rfl)
  · next same => cases same

theorem toNat_ofNat_ascii {n} (ascii : n ≤ 126) : (Char.ofNat n).toNat = n := by
  have each : ∀ m < 127, (Char.ofNat m).toNat = m := by decide
  exact each n (by omega)

theorem unescape_escape {n} (unit : n < 0x10000) (rest : List Char) :
    unescape ((escape n).toList ++ rest) = some (n, rest) := by
  unfold escape
  split
  · next same => exact same ▸ unescape_letter (by decide) rest
  split
  · next same => exact same ▸ unescape_letter (by decide) rest
  split
  · next same => exact same ▸ unescape_letter (by decide) rest
  split
  · next same => exact same ▸ unescape_letter (by decide) rest
  split
  · next same => exact same ▸ unescape_letter (by decide) rest
  split
  · next same => exact same ▸ unescape_letter (by decide) rest
  split
  · next same => exact same ▸ unescape_letter (by decide) rest
  split
  · next slash _ _ _ _ _ ascii =>
      have number := toNat_ofNat_ascii ascii.2
      have plain : Char.ofNat n ≠ '\\' := by
        intro same
        rw [same] at number
        exact slash number.symm
      rw [String.toList_ofList, List.singleton_append, unescape_plain plain, number]
  · exact unescape_unit unit rest

def escaped (units : List Nat) : List Char := units.flatMap fun unit => (escape unit).toList

theorem quote_toList (s : PyStr) : s.quote.toList = '"' :: (escaped s.units ++ ['"']) := by
  unfold quote escaped
  rw [String.toList_append, String.toList_append, String.toList_join, List.flatMap_map]
  rfl

theorem escape_ne_quote {n} (unit : n < 0x10000) (x y : List Char) :
    (escape n).toList ++ x ≠ '"' :: y := by
  intro same
  have decoded := unescape_escape unit x
  rw [same, unescape_plain (by decide)] at decoded
  obtain ⟨rfl, rfl⟩ := Prod.mk.inj (Option.some.inj decoded)
  exact absurd same (by simp [escape])

theorem escaped_inj {us vs x y} (small : ∀ u ∈ us, u < 0x10000) (small' : ∀ v ∈ vs, v < 0x10000)
    (same : escaped us ++ '"' :: x = escaped vs ++ '"' :: y) :
    us = vs ∧ x = y := by
  unfold escaped at same
  induction us generalizing vs with
  | nil =>
    cases vs with
    | nil => exact ⟨rfl, (List.cons.inj same).2⟩
    | cons v vs =>
      rw [List.flatMap_cons, List.append_assoc] at same
      exact absurd same.symm (escape_ne_quote (small' v List.mem_cons_self) _ x)
  | cons u us ih =>
    cases vs with
    | nil =>
      rw [List.flatMap_cons, List.append_assoc] at same
      exact absurd same (escape_ne_quote (small u List.mem_cons_self) _ y)
    | cons v vs =>
      rw [List.flatMap_cons, List.flatMap_cons, List.append_assoc, List.append_assoc] at same
      have decoded := congrArg unescape same
      rw [unescape_escape (small u List.mem_cons_self),
        unescape_escape (small' v List.mem_cons_self)] at decoded
      obtain ⟨rfl, later⟩ := Prod.mk.inj (Option.some.inj decoded)
      obtain ⟨rfl, after⟩ := ih (fun w inside => small w (List.mem_cons_of_mem u inside))
        (fun w inside => small' w (List.mem_cons_of_mem u inside)) later
      exact ⟨rfl, after⟩

theorem pointUnits_lt {point} (valid : point < 0x110000) :
    ∀ u ∈ pointUnits point, u < 0x10000 := by
  unfold pointUnits
  split
  · simpa using ‹point < 0x10000›
  · simp
    omega

theorem units_lt (s : PyStr) : ∀ u ∈ s.units, u < 0x10000 := by
  intro u inside
  obtain ⟨point, -, unit⟩ := List.mem_flatMap.mp inside
  exact pointUnits_lt point.isLt u unit

@[simp] theorem units_nil : units [] = [] := rfl

theorem units_cons (point : Fin 0x110000) (s : PyStr) :
    units (point :: s) = pointUnits point.val ++ s.units := rfl

theorem pointUnits_ne_nil (point : Nat) : pointUnits point ≠ [] := by
  unfold pointUnits
  split <;> simp

/-- The code unit after a lone high surrogate is not a low one. -/
theorem lone_of_unpaired {a : Fin 0x110000} {s : PyStr} (unpaired : Unpaired (a :: s))
    (high : 0xd800 ≤ a.val ∧ a.val < 0xdc00) {u us} (next : s.units = u :: us)
    (low : 0xdc00 ≤ u ∧ u < 0xe000) : False := by
  cases s with
  | nil => cases next
  | cons b s =>
    have apart := (List.isChain_cons_cons.mp unpaired).1
    rw [units_cons, pointUnits] at next
    split at next
    · obtain ⟨rfl, -⟩ := List.cons.inj next
      exact apart ⟨high, low⟩
    · obtain ⟨rfl, -⟩ := List.cons.inj next
      omega

theorem units_inj {s t : PyStr} (unpaired : s.Unpaired) (unpaired' : t.Unpaired)
    (same : s.units = t.units) : s = t := by
  induction s generalizing t with
  | nil =>
    cases t with
    | nil => rfl
    | cons b t =>
      rw [units_cons, units_nil] at same
      exact absurd (List.append_eq_nil_iff.mp same.symm).1 (pointUnits_ne_nil _)
  | cons a s ih =>
    cases t with
    | nil =>
      rw [units_cons, units_nil] at same
      exact absurd (List.append_eq_nil_iff.mp same).1 (pointUnits_ne_nil _)
    | cons b t =>
      have bounds := a.isLt
      have bounds' := b.isLt
      have heads : a = b ∧ units s = units t := by
        rw [units_cons, units_cons, pointUnits, pointUnits] at same
        split at same <;> split at same
        · obtain ⟨points, later⟩ := List.cons.inj same
          exact ⟨Fin.ext points, later⟩
        · obtain ⟨high, later⟩ := List.cons.inj same
          exact (lone_of_unpaired unpaired (by omega) later (by omega)).elim
        · obtain ⟨high, later⟩ := List.cons.inj same
          exact (lone_of_unpaired unpaired' (by omega) later.symm (by omega)).elim
        · obtain ⟨high, later⟩ := List.cons.inj same
          obtain ⟨low, rest⟩ := List.cons.inj later
          exact ⟨Fin.ext (by omega), rest⟩
      have rest : Unpaired s := unpaired.tail
      have rest' : Unpaired t := unpaired'.tail
      rw [heads.1, ih rest rest' heads.2]

theorem units_of_quote {s t : PyStr} {x y} (same : s.quote.toList ++ x = t.quote.toList ++ y) :
    s.units = t.units ∧ x = y := by
  rw [quote_toList, quote_toList, List.cons_append, List.cons_append, List.append_assoc,
    List.append_assoc] at same
  exact escaped_inj (units_lt s) (units_lt t) (List.cons.inj same).2

theorem unpaired_ofString (s : String) : (ofString s).Unpaired := by
  apply List.Pairwise.isChain
  apply List.pairwise_map.mpr
  apply List.pairwise_of_forall
  rintro c d ⟨high, -⟩
  have valid := c.valid
  change c.toNat < 0xd800 ∨ 0xdfff < c.toNat ∧ _ at valid
  simp only at high
  omega

theorem ofString_injective : Function.Injective ofString := by
  intro s t same
  apply String.toList_injective
  refine List.map_injective_iff.mpr (fun c d points => ?_) same
  exact Char.toNat_inj.mp (Fin.mk.inj points)

end PyStr

namespace Value

open PyStr

variable [FloatRepr]

omit [FloatRepr] in
theorem quote_inj {s t x y} (same : (quote s).toList ++ x = (quote t).toList ++ y) :
    s = t ∧ x = y := by
  obtain ⟨units, after⟩ := units_of_quote same
  exact ⟨ofString_injective (units_inj (unpaired_ofString s) (unpaired_ofString t) units), after⟩

def words : List (String × Value) :=
  [("null", .none), ("true", .bool true), ("false", .bool false), ("NaN", .float .nan),
    ("-Infinity", .float .negInf), ("Infinity", .float .posInf)]

inductive Scalar : Value → Prop
  | word {v : Value} (listed : (v.dumps, v) ∈ words) : Scalar v
  | int (i : Int) : Scalar (.int i)
  | fraction (q : ℚ) : Scalar (.float (.fin q))

def Numeric (c : Char) : Prop := c.isDigit = true ∨ c ∈ ['-', '+', '.', 'e']

def Whole (c : Char) : Prop := c.isDigit = true ∨ c = '-'

omit [FloatRepr] in
theorem numeric_natText {n : Nat} {c : Char} (inside : c ∈ (toString n).toList) :
    c.isDigit = true := by
  have digits : c ∈ Nat.toDigits 10 n := by simpa [Nat.toList_repr] using inside
  exact Nat.isDigit_of_mem_toDigits (by decide) (by decide) digits

omit [FloatRepr] in
theorem whole_intText {i : Int} {c : Char} (inside : c ∈ (toString i).toList) : Whole c := by
  change c ∈ i.repr.toList at inside
  rw [Int.repr_eq_if] at inside
  split at inside
  · exact .inl (numeric_natText inside)
  · rw [String.toList_append, List.mem_append] at inside
    cases inside with
    | inl sign => exact .inr (List.mem_singleton.mp sign)
    | inr digit => exact .inl (numeric_natText digit)

omit [FloatRepr] in
theorem Whole.numeric {c : Char} (whole : Whole c) : Numeric c := by
  rcases whole with digit | rfl
  · exact .inl digit
  · exact .inr (by decide)

theorem int_ne_fraction (i : Int) (q : ℚ) : toString i ≠ FloatRepr.text q := by
  intro same
  have whole {c : Char} (inside : c ∈ (FloatRepr.text q).toList) : Whole c :=
    whole_intText (same ▸ inside)
  rcases FloatRepr.marked q with point | exponent
  · exact absurd (whole point) (by unfold Whole; decide)
  · exact absurd (whole exponent) (by unfold Whole; decide)

theorem word_ne_number {text : String} (word : text ∈ words.map Prod.fst) (i : Int) (q : ℚ) :
    text ≠ toString i ∧ text ≠ FloatRepr.text q := by
  have letter : ∃ c ∈ text.toList, ¬Numeric c := by
    have spelled : ∀ t ∈ words.map Prod.fst, t.toList.any (fun c =>
        !(c.isDigit || decide (c ∈ ['-', '+', '.', 'e']))) = true := by decide
    obtain ⟨c, inside, other⟩ := List.any_eq_true.mp (spelled text word)
    refine ⟨c, inside, fun number => ?_⟩
    rcases number with digit | sign
    · simp [digit] at other
    · simp [sign] at other
  obtain ⟨c, inside, foreign⟩ := letter
  constructor
  · rintro rfl
    exact foreign (whole_intText inside).numeric
  · rintro rfl
    exact foreign (FloatRepr.numeric q c inside)

theorem scalar_inj {v w : Value} (scalar : Scalar v) (scalar' : Scalar w)
    (same : v.dumps = w.dumps) : v = w := by
  have word (u : Value) (listed : (u.dumps, u) ∈ words) :
      u.dumps ∈ words.map Prod.fst := List.mem_map_of_mem listed
  cases scalar with
  | word listed =>
    cases scalar' with
    | word listed' =>
      have distinct : (words.map Prod.fst).Nodup := by decide
      exact (Prod.mk.inj (List.inj_on_of_nodup_map distinct listed listed' same)).2
    | int i => exact absurd same (word_ne_number (word v listed) i 0).1
    | fraction q => exact absurd same (word_ne_number (word v listed) 0 q).2
  | int i =>
    cases scalar' with
    | word listed' => exact absurd same.symm (word_ne_number (word w listed') i 0).1
    | int j => exact congrArg Value.int (Int.repr_injective same)
    | fraction q => exact absurd same (int_ne_fraction i q)
  | fraction q =>
    cases scalar' with
    | word listed' => exact absurd same.symm (word_ne_number (word w listed') 0 q).2
    | int i => exact absurd same.symm (int_ne_fraction i q)
    | fraction r => rw [FloatRepr.injective same]

/-- What ends a scalar. -/
def Stop (c : Char) : Prop := c = ',' ∨ c = ']' ∨ c = '\x7d'

def text (v : Value) : List Char := (v.dumps).toList

def memberText (field : String × Value) : List Char :=
  (quote field.1).toList ++ ':' :: field.2.text

/-- How the text of a value begins when it has quotes or brackets. -/
def opener : Value → Option Char
  | .str _ => some '"'
  | .list _ => some '['
  | .dict _ => some '\x7b'
  | _ => Option.none

theorem text_list (items : List Value) :
    (Value.list items).text = '[' :: sequence text ',' ']' items := by
  unfold text
  rw [dumps, dumpsItems_eq_map, String.toList_append, String.toList_append,
    String.toList_intercalate, List.map_map, ← intercalate_append]
  rfl

variable (fields : List (String × Value))

theorem text_dict :
    (Value.dict fields).text =
      '\x7b' :: sequence memberText ',' '\x7d' (sortedBy Prod.fst fields) := by
  unfold text
  rw [dumps, dumpsFields_eq_map, sortedBy_map, String.toList_append, String.toList_append,
    String.toList_intercalate, List.map_map, List.map_map, ← intercalate_append]
  have each : (String.toList ∘ fun field : String × String => quote field.1 ++ ":" ++ field.2) ∘
      (fun field => (field.1, field.2.dumps)) = memberText := by
    funext field
    simp [memberText, text, String.toList_append]
  rw [each]
  rfl

variable {v : Value}

theorem scalar_of_opener (bare : v.opener = Option.none) : Scalar v := by
  cases v with
  | none => exact .word (by simp [words, dumps])
  | bool b => cases b <;> exact .word (by simp [words, dumps])
  | int i => exact .int i
  | float f =>
    cases f with
    | fin q => exact .fraction q
    | nan => exact .word (by simp [words, dumps, floatText])
    | negInf => exact .word (by simp [words, dumps, floatText])
    | posInf => exact .word (by simp [words, dumps, floatText])
  | str s => cases bare
  | list items => cases bare
  | dict fields => cases bare

def scalarChar (c : Char) : Bool := c.isAlphanum || decide (c ∈ ['-', '+', '.'])

omit [FloatRepr] in
theorem scalarChar_of_numeric {c} (number : Numeric c) : scalarChar c = true := by
  rcases number with digit | sign
  · simp [scalarChar, Char.isAlphanum, digit]
  · simp only [List.mem_cons, List.not_mem_nil, or_false] at sign
    rcases sign with rfl | rfl | rfl | rfl <;> rfl

theorem scalar_char (scalar : Scalar v) {c : Char} (inside : c ∈ v.text) :
    scalarChar c = true := by
  cases scalar with
  | word listed =>
    have spelled : ∀ t ∈ words.map Prod.fst, t.toList.all scalarChar = true := by decide
    exact List.all_eq_true.mp (spelled _ (List.mem_map_of_mem listed)) c inside
  | int i => exact scalarChar_of_numeric (whole_intText inside).numeric
  | fraction q => exact scalarChar_of_numeric (FloatRepr.numeric q c inside)

theorem scalar_not_stop (scalar : Scalar v) {c} (inside : c ∈ v.text) :
    ¬Stop c := by
  have plain := scalar_char scalar inside
  unfold Stop
  rintro (rfl | rfl | rfl) <;> cases plain

omit [FloatRepr] in
theorem natText_ne_nil (n : Nat) : (toString n).toList ≠ [] := by
  change n.repr.toList ≠ []
  rw [Nat.toList_repr]
  exact Nat.toDigits_ne_nil

omit [FloatRepr] in
theorem intText_ne_nil (i : Int) : (toString i).toList ≠ [] := by
  change i.repr.toList ≠ []
  rw [Int.repr_eq_if]
  split
  · exact natText_ne_nil _
  · simp [String.toList_append]

theorem scalar_text_ne_nil (scalar : Scalar v) : v.text ≠ [] := by
  cases scalar with
  | word listed =>
    have spelled : ∀ t ∈ words.map Prod.fst, t.toList ≠ [] := by decide
    exact spelled _ (List.mem_map_of_mem listed)
  | int i => exact intText_ne_nil i
  | fraction q =>
    rcases FloatRepr.marked q with point | exponent
    · exact List.ne_nil_of_mem point
    · exact List.ne_nil_of_mem exponent

theorem text_cons (v : Value) : ∃ c rest, v.text = c :: rest ∧
    v.opener = if scalarChar c then Option.none else some c := by
  cases kind : v.opener with
  | none =>
    have scalar : Scalar v := scalar_of_opener kind
    cases spelled : v.text with
    | nil => exact absurd spelled (scalar_text_ne_nil scalar)
    | cons c rest =>
      have plain := scalar_char scalar (spelled ▸ List.mem_cons_self)
      exact ⟨c, rest, rfl, by rw [if_pos plain]⟩
  | some c =>
    cases v with
    | str s =>
      cases kind
      exact ⟨_, _, PyStr.quote_toList _, rfl⟩
    | list items =>
      cases kind
      exact ⟨_, _, text_list items, rfl⟩
    | dict fields =>
      cases kind
      exact ⟨_, _, text_dict fields, rfl⟩
    | _ => cases kind

theorem opener_eq {v w : Value} {x y} (same : v.text ++ x = w.text ++ y) :
    v.opener = w.opener := by
  obtain ⟨c, rest, spelled, kind⟩ := text_cons v
  obtain ⟨d, rest', spelled', kind'⟩ := text_cons w
  rw [spelled, spelled'] at same
  rw [kind, kind', (List.cons.inj same).1]

theorem text_ne_bracket (v : Value) (x y : List Char) : v.text ++ x ≠ ']' :: y := by
  intro same
  obtain ⟨c, rest, spelled, kind⟩ := text_cons v
  rw [spelled] at same
  rw [(List.cons.inj same).1] at kind
  cases v <;> cases kind

theorem memberText_ne_brace (field : String × Value) (x y : List Char) :
    memberText field ++ x ≠ '\x7d' :: y := by
  unfold memberText quote
  rw [PyStr.quote_toList]
  intro same
  exact absurd (List.cons.inj same).1 (by decide)

theorem readable_scalar (scalar : Scalar v) (bare : v.opener = Option.none) :
    Readable text sorted (StopsAt Stop) v := by
  intro w x y ends ends' same
  have scalar' : Scalar w := scalar_of_opener ((opener_eq same).symm.trans bare)
  obtain ⟨texts, after⟩ := append_inj_of_stops (fun c inside => scalar_not_stop scalar inside)
    (fun c inside => scalar_not_stop scalar' inside) ends ends' same
  exact ⟨congrArg sorted (scalar_inj scalar scalar' (String.toList_injective texts)), after⟩

theorem readable_str (s : String) : Readable text sorted (StopsAt Stop) (.str s) := by
  intro w x y _ _ same
  have kind := opener_eq same
  cases w with
  | str t =>
    obtain ⟨rfl, after⟩ := quote_inj same
    exact ⟨rfl, after⟩
  | _ => cases kind

theorem readable_list {items} (each : ∀ v ∈ items, Readable text sorted (StopsAt Stop) v) :
    Readable text sorted (StopsAt Stop) (.list items) := by
  intro w x y _ _ same
  have kind := opener_eq same
  cases w with
  | list items' =>
    rw [text_list, text_list] at same
    obtain ⟨values, after⟩ := sequence_inj (by decide) (fun _ => .inl rfl) (fun _ => .inr (.inl rfl))
      text_ne_bracket each (List.cons.inj same).2
    rw [sorted, sorted, sortedItems_eq_map, sortedItems_eq_map, values]
    exact ⟨rfl, after⟩
  | _ => cases kind

theorem readable_member {field} (value : Readable text sorted (StopsAt Stop) field.2) :
    Readable memberText (fun f => (f.1, f.2.sorted)) (StopsAt Stop) field := by
  intro other x y ends ends' same
  unfold memberText at same
  rw [List.append_assoc, List.append_assoc] at same
  obtain ⟨names, later⟩ := quote_inj same
  obtain ⟨values, after⟩ := value other.2 x y ends ends' (List.cons.inj later).2
  exact ⟨Prod.ext names values, after⟩

theorem readable_dict {fields}
    (each : ∀ field ∈ fields, Readable text sorted (StopsAt Stop) field.2) :
    Readable text sorted (StopsAt Stop) (.dict fields) := by
  intro w x y _ _ same
  have kind := opener_eq same
  cases w with
  | dict fields' =>
    rw [text_dict, text_dict] at same
    obtain ⟨values, after⟩ := sequence_inj (by decide) (fun _ => .inl rfl) (fun _ => .inr (.inr rfl))
      memberText_ne_brace (fun field inside => readable_member (each field (mem_sortedBy.mp inside)))
      (List.cons.inj same).2
    rw [sorted, sorted, sortedFields_eq_map, sortedFields_eq_map, sortedBy_map, sortedBy_map]
    exact ⟨congrArg Value.dict values, after⟩
  | _ => cases kind

theorem readable_text : ∀ v : Value, Readable text sorted (StopsAt Stop) v
  | .none => readable_scalar (scalar_of_opener rfl) rfl
  | .bool _ => readable_scalar (scalar_of_opener rfl) rfl
  | .int _ => readable_scalar (scalar_of_opener rfl) rfl
  | .float _ => readable_scalar (scalar_of_opener rfl) rfl
  | .str s => readable_str s
  | .list items => readable_list fun v _ => readable_text v
  | .dict fields => readable_dict fun field _ => readable_text field.2
termination_by v => sizeOf v
decreasing_by
  · next inside =>
    have smaller := List.sizeOf_lt_of_mem inside
    simp only [Value.list.sizeOf_spec]
    omega
  · next inside =>
    have smaller := List.sizeOf_lt_of_mem inside
    simp only [Value.dict.sizeOf_spec]
    cases field
    simp only [Prod.mk.sizeOf_spec] at smaller ⊢
    omega

theorem sorted_of_dumps {v w : Value} (same : v.dumps = w.dumps) :
    v.sorted = w.sorted := by
  have texts : v.text ++ [] = w.text ++ [] := by rw [text, text, same]
  exact (readable_text v w [] [] trivial trivial texts).1

theorem dumps_dict :
    (Value.dict fields).dumps = "\x7b" ++ ",".intercalate ((sortedBy Prod.fst fields).map
      fun field => quote field.1 ++ ":" ++ field.2.dumps) ++ "\x7d" := by
  rw [dumps, dumpsFields_eq_map, sortedBy_map, List.map_map]
  rfl

theorem dumps_object (fields : List (String × Value)) :
    ∃ rest, (dict fields).dumps = "\x7b" ++ rest := by
  rw [dumps_dict, String.append_assoc]
  exact ⟨_, rfl⟩

theorem dumps_sorted : ∀ v : Value, v.sorted.dumps = v.dumps
  | .none => rfl
  | .bool _ => rfl
  | .int _ => rfl
  | .float _ => rfl
  | .str _ => rfl
  | .list items => by
    have each : (items.map sorted).map dumps = items.map dumps := by
      rw [List.map_map]
      exact List.map_congr_left fun v _ => dumps_sorted v
    rw [sorted, dumps, dumps, dumpsItems_eq_map, dumpsItems_eq_map, sortedItems_eq_map, each]
  | .dict fields => by
    rw [sorted, dumps_dict, dumps_dict, sortedBy_idem, sortedFields_eq_map, sortedBy_map,
      List.map_map]
    congr 3
    apply List.map_congr_left
    intro field inside
    have listed : field ∈ fields := mem_sortedBy.mp inside
    exact congrArg (quote field.1 ++ ":" ++ ·) (dumps_sorted field.2)
termination_by v => sizeOf v
decreasing_by
  · have smaller := List.sizeOf_lt_of_mem ‹_ ∈ items›
    simp only [Value.list.sizeOf_spec]
    omega
  · have smaller := List.sizeOf_lt_of_mem listed
    simp only [Value.dict.sizeOf_spec]
    cases field
    simp only [Prod.mk.sizeOf_spec] at smaller ⊢
    omega

theorem dumps_eq_iff {v w : Value} : v.dumps = w.dumps ↔ v.sorted = w.sorted := by
  constructor
  · exact sorted_of_dumps
  · intro same
    rw [← dumps_sorted v, same, dumps_sorted w]

omit [FloatRepr] in
theorem perm_of_sorted {fields fields'}
    (same : (Value.dict fields).sorted = (Value.dict fields').sorted) :
    (sortedFields fields).Perm (sortedFields fields') := by
  simp only [sorted, Value.dict.injEq] at same
  exact (sortedBy_perm Prod.fst _).symm.trans (same ▸ sortedBy_perm Prod.fst _)

omit [FloatRepr] in
theorem sortedFields_keys :
    (sortedFields fields).map Prod.fst = fields.map Prod.fst := by
  rw [sortedFields_eq_map, List.map_map]
  rfl

omit [FloatRepr] in
theorem fields_of_sorted {fields fields'} (names : fields.map Prod.fst = fields'.map Prod.fst)
    (distinct : (fields.map Prod.fst).Nodup)
    (same : (Value.dict fields).sorted = (Value.dict fields').sorted) :
    sortedFields fields = sortedFields fields' := by
  have perm := perm_of_sorted same
  rw [← sortedFields_keys, ← sortedFields_keys fields'] at names
  rw [← sortedFields_keys] at distinct
  generalize sortedFields fields = l at *
  generalize sortedFields fields' = m at *
  induction l generalizing m with
  | nil => exact (List.map_eq_nil_iff.mp names.symm).symm
  | cons field rest ih =>
    cases m with
    | nil => cases names
    | cons field' rest' =>
      obtain ⟨_, later⟩ := List.cons.inj names
      obtain ⟨fresh, others⟩ := List.nodup_cons.mp distinct
      have here : field = field' := by
        cases List.mem_cons.mp (perm.subset List.mem_cons_self) with
        | inl same => exact same
        | inr elsewhere => exact absurd (later ▸ List.mem_map_of_mem elsewhere) fresh
      subst here
      rw [ih others rest' later (List.Perm.cons_inv perm)]

omit [FloatRepr] in
theorem newline_not_mem_hexDigits {n} (unit : n < 0x10000) : '\n' ∉ (hexDigits n).toList := by
  have digit {d : Nat} (small : d < 16) : '\n' ≠ d.digitChar := by
    revert small
    revert d
    decide
  rw [hexDigits_eq unit]
  simp only [List.mem_cons, List.not_mem_nil, or_false, not_or]
  exact ⟨digit (by omega), digit (by omega), digit (by omega), digit (by omega)⟩

omit [FloatRepr] in
theorem newline_not_mem_escape {unit} (small : unit < 0x10000) :
    '\n' ∉ (escape unit).toList := by
  unfold escape
  split_ifs with _ _ _ _ _ _ _ ascii
  · decide
  · decide
  · decide
  · decide
  · decide
  · decide
  · decide
  · rw [String.toList_ofList, List.mem_singleton]
    intro same
    have number := toNat_ofNat_ascii ascii.2
    rw [← same] at number
    exact absurd (number ▸ ascii.1 : 32 ≤ '\n'.toNat) (by decide)
  · rw [String.toList_append, List.mem_append, not_or]
    exact ⟨by decide, newline_not_mem_hexDigits small⟩

omit [FloatRepr] in
theorem newline_not_mem_quote (s : PyStr) : '\n' ∉ s.quote.toList := by
  rw [PyStr.quote_toList]
  simp only [List.mem_cons, List.mem_append, List.not_mem_nil, or_false, not_or]
  refine ⟨by decide, ?_, by decide⟩
  intro inside
  obtain ⟨unit, listed, broken⟩ := List.mem_flatMap.mp inside
  exact newline_not_mem_escape (units_lt s unit listed) broken

theorem newline_not_mem_scalar (bare : v.opener = Option.none) : '\n' ∉ v.text := by
  intro inside
  exact absurd (scalar_char (scalar_of_opener bare) inside) (by decide)

theorem newline_not_mem_text : ∀ v : Value, '\n' ∉ v.text
  | .none => newline_not_mem_scalar rfl
  | .bool _ => newline_not_mem_scalar rfl
  | .int _ => newline_not_mem_scalar rfl
  | .float _ => newline_not_mem_scalar rfl
  | .str s => newline_not_mem_quote (ofString s)
  | .list items => by
    rw [text_list]
    intro inside
    rcases List.mem_cons.mp inside with bracket | later
    · exact absurd bracket (by decide)
    rcases mem_sequence later with comma | close | ⟨v, member, broken⟩
    · exact absurd comma (by decide)
    · exact absurd close (by decide)
    · exact newline_not_mem_text v broken
  | .dict fields => by
    rw [text_dict]
    intro inside
    rcases List.mem_cons.mp inside with brace | later
    · exact absurd brace (by decide)
    rcases mem_sequence later with comma | close | ⟨field, member, broken⟩
    · exact absurd comma (by decide)
    · exact absurd close (by decide)
    have listed : field ∈ fields := mem_sortedBy.mp member
    rcases List.mem_append.mp broken with name | value
    · exact newline_not_mem_quote (ofString field.1) name
    rcases List.mem_cons.mp value with colon | value
    · exact absurd colon (by decide)
    · exact newline_not_mem_text field.2 value
termination_by v => sizeOf v
decreasing_by
  · have smaller := List.sizeOf_lt_of_mem member
    simp only [Value.list.sizeOf_spec]
    omega
  · have smaller := List.sizeOf_lt_of_mem listed
    simp only [Value.dict.sizeOf_spec]
    cases field
    simp only [Prod.mk.sizeOf_spec] at smaller ⊢
    omega

end Value

theorem fraction_toList (q : ℚ) : (toString q.num ++ "e" ++ toString q.den).toList =
    (toString q.num).toList ++ 'e' :: (toString q.den).toList := by
  simp [String.toList_append]

/-- A spelling with these laws, for the examples, which write no float. -/
abbrev fractions : FloatRepr where
  text q := toString q.num ++ "e" ++ toString q.den
  injective := by
    intro q r same
    have chars := congrArg String.toList same
    simp only [fraction_toList] at chars
    have whole (i : Int) : ∀ c ∈ (toString i).toList, ¬c = 'e' := by
      intro c inside letter
      have number := Value.whole_intText inside
      rw [letter] at number
      exact absurd number (by unfold Value.Whole; decide)
    have stop (z : List Char) : StopsAt (· = 'e') ('e' :: z) := rfl
    obtain ⟨num, den⟩ := append_inj_of_stops (whole q.num) (whole r.num) (stop _) (stop _) chars
    exact Rat.ext (Int.repr_injective (String.toList_injective num))
      (Nat.repr_injective (String.toList_injective (List.cons.inj den).2))
  numeric := by
    intro q c inside
    rw [fraction_toList, List.mem_append, List.mem_cons] at inside
    rcases inside with num | letter | den
    · exact (Value.whole_intText num).numeric
    · exact .inr (by simp [letter])
    · exact .inl (Value.numeric_natText den)
  marked q := .inr (by rw [fraction_toList]; simp)

attribute [local instance] fractions in
example : (Value.dict [("to", .str "0x1"), ("data", .list [.int 2, .none])]).dumps =
    "\x7b\"data\":[2,null],\"to\":\"0x1\"\x7d" := by decide +kernel

end MinotaurSubnet.Python
