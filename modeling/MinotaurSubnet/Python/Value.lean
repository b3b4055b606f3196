import Mathlib.Data.Rat.Floor
import Mathlib.Data.String.Basic

/-! # Dynamic values of the host language

Rows, bodies and parameter dictionaries are untyped: a field may be absent, `None`, a number,
a decimal string or a nested container. This is the fragment of Python the modelled functions
rely on: truthiness, `int(...)`, comparison and the exceptions these raise. Strings are
sequences of code points, so the helpers work on `String.toList`.
-/

namespace MinotaurSubnet.Python

/-- Exceptions by the class an `except` clause can tell apart. -/
inductive PyError where
  | typeError
  | valueError
  | overflowError
  | attributeError
  | keyError
  | sandboxOverloaded
  | other (name : String)
  deriving DecidableEq

/-- A double. Finite doubles are exact rationals and comparison with an `int`
    is exact in Python, so only the special values need their own cases. -/
inductive PyFloat where
  | nan
  | negInf
  | fin (q : ℚ)
  | posInf
  deriving DecidableEq

namespace PyFloat

/-- `a < b`; every comparison with `nan` is false. -/
def lt : PyFloat → PyFloat → Bool
  | .nan, _ | _, .nan => false
  | .negInf, .negInf => false
  | .negInf, _ => true
  | .fin _, .negInf => false
  | .fin a, .fin b => decide (a < b)
  | .fin _, .posInf => true
  | .posInf, _ => false

/-- `a <= b`; not the negation of `b < a`, because of `nan`. -/
def le : PyFloat → PyFloat → Bool
  | .nan, _ | _, .nan => false
  | .negInf, _ => true
  | .fin _, .negInf => false
  | .fin a, .fin b => decide (a ≤ b)
  | .fin _, .posInf => true
  | .posInf, .posInf => true
  | .posInf, _ => false

/-- `int(f)` truncates toward zero. -/
def toInt : PyFloat → Except PyError Int
  | .nan => .error .valueError
  | .negInf | .posInf => .error .overflowError
  | .fin q => .ok (if 0 ≤ q then ⌊q⌋ else ⌈q⌉)

end PyFloat

/-- JSON-shaped values. Dictionary keys are strings and lookup takes the first
    entry, which is the only one a parsed object has. -/
inductive Value where
  | none
  | bool (b : Bool)
  | int (i : Int)
  | float (f : PyFloat)
  | str (s : String)
  | list (items : List Value)
  | dict (fields : List (String × Value))

/-- Code points `c` with `chr(c).isspace()`; `str.strip` drops these. -/
def isSpace (c : Char) : Bool :=
  let n := c.toNat
  (0x9 ≤ n && n ≤ 0xd) || (0x1c ≤ n && n ≤ 0x20) || n == 0x85 || n == 0xa0 || n == 0x1680
    || (0x2000 ≤ n && n ≤ 0x200a) || n == 0x2028 || n == 0x2029 || n == 0x202f
    || n == 0x205f || n == 0x3000

/-- The zero of every decimal digit run of Unicode 15 (category `Nd`); the other
    nine digits of the run follow it. -/
def digitZeros : List Nat :=
  [0x30, 0x660, 0x6f0, 0x7c0, 0x966, 0x9e6, 0xa66, 0xae6, 0xb66, 0xbe6, 0xc66, 0xce6,
   0xd66, 0xde6, 0xe50, 0xed0, 0xf20, 0x1040, 0x1090, 0x17e0, 0x1810, 0x1946, 0x19d0,
   0x1a80, 0x1a90, 0x1b50, 0x1bb0, 0x1c40, 0x1c50, 0xa620, 0xa8d0, 0xa900, 0xa9d0,
   0xa9f0, 0xaa50, 0xabf0, 0xff10, 0x104a0, 0x10d30, 0x11066, 0x110f0, 0x11136, 0x111d0,
   0x112f0, 0x11450, 0x114d0, 0x11650, 0x116c0, 0x11730, 0x118e0, 0x11950, 0x11c50,
   0x11d50, 0x11da0, 0x11f50, 0x16a60, 0x16ac0, 0x16b50, 0x1d7ce, 0x1d7d8, 0x1d7e2,
   0x1d7ec, 0x1d7f6, 0x1e140, 0x1e2f0, 0x1e4f0, 0x1e950, 0x1fbf0]

def digitValue (c : Char) : Option Nat :=
  (digitZeros.find? (fun start => start ≤ c.toNat && c.toNat < start + 10)).map (c.toNat - ·)

/-- A digit of a base-16 literal: the letters are the ASCII ones. -/
def hexDigitValue (c : Char) : Option Nat :=
  if 'a' ≤ c ∧ c ≤ 'f' then some (c.toNat - 'a'.toNat + 10)
  else if 'A' ≤ c ∧ c ≤ 'F' then some (c.toNat - 'A'.toNat + 10)
  else digitValue c

/-- The digits of an integer literal: at least one, with single underscores
    allowed between two digits. -/
def digitsOf (digit : Char → Option Nat) : List Char → Option (List Nat)
  | [] => none
  | [c] => (fun d => [d]) <$> digit c
  | c :: '_' :: more => do return (← digit c) :: (← digitsOf digit more)
  | c :: next :: more => do return (← digit c) :: (← digitsOf digit (next :: more))

/-- The interpreter's default bound on the digits `int(str)` converts. -/
def intMaxStrDigits : Nat := 4300

def strip (cs : List Char) : List Char :=
  ((cs.dropWhile isSpace).reverse.dropWhile isSpace).reverse

/-- What `int` skips around a literal: the information separators are not among it. -/
def isBlank (c : Char) : Bool := isSpace c && !decide (0x1c ≤ c.toNat ∧ c.toNat ≤ 0x1f)

def literal (cs : List Char) : List Char :=
  ((cs.dropWhile isBlank).reverse.dropWhile isBlank).reverse

def signOf : List Char → Bool × List Char
  | '-' :: rest => (true, rest)
  | '+' :: rest => (false, rest)
  | cs => (false, cs)

def intOfDigits (negative : Bool) (base : Nat) (digits : List Nat) : Int :=
  let n : Nat := digits.foldl (fun acc d => base * acc + d) 0
  if negative then -(n : Int) else (n : Int)

/-- `int(s)` on a string; `none` is the `ValueError`. -/
def intOfStr (s : String) : Option Int := do
  let (negative, body) := signOf (literal s.toList)
  let digits ← digitsOf digitValue body
  if intMaxStrDigits < digits.length then none else some (intOfDigits negative 10 digits)

/-- The optional `0x` of a base-16 literal, with one underscore allowed after it. -/
def dropHexPrefix : List Char → List Char
  | '0' :: 'x' :: '_' :: rest | '0' :: 'X' :: '_' :: rest => rest
  | '0' :: 'x' :: rest | '0' :: 'X' :: rest => rest
  | cs => cs

/-- `int(s, 16)`; a base that is a power of two has no digit bound. -/
def hexOfStr (s : String) : Option Int := do
  let (negative, body) := signOf (literal s.toList)
  let digits ← digitsOf hexDigitValue (dropHexPrefix body)
  some (intOfDigits negative 16 digits)

/-- `s.replace("0x", "")`. -/
def removeHexMarks (s : String) : String := String.ofList (go s.toList)
where
  go : List Char → List Char
    | '0' :: 'x' :: rest => go rest
    | c :: rest => c :: go rest
    | [] => []

/-- `bytes.fromhex(s)`: pairs of ASCII hex digits, ASCII whitespace allowed
    between pairs; `none` is the `ValueError`. -/
def bytesFromHex (s : String) : Option (List UInt8) := go s.toList
where
  nibble (c : Char) : Option Nat := if c.toNat < 128 then hexDigitValue c else none
  go : List Char → Option (List UInt8)
    | [] => some []
    | c :: rest =>
      if c.toNat < 128 ∧ isSpace c ∧ ¬ (0x1c ≤ c.toNat ∧ c.toNat ≤ 0x1f) then go rest
      else match rest with
        | [] => none
        | d :: more => do
            let high ← nibble c
            let low ← nibble d
            return UInt8.ofNat (16 * high + low) :: (← go more)

/-- `b.hex()`. -/
def hexOfBytes (bytes : List UInt8) : String :=
  String.ofList (bytes.flatMap fun b => [digit (b.toNat / 16), digit (b.toNat % 16)])
where
  digit (n : Nat) : Char := if n < 10 then Char.ofNat (48 + n) else Char.ofNat (87 + n)

namespace Value

/-- `bool(v)`. -/
def truthy : Value → Bool
  | .none => false
  | .bool b => b
  | .int i => i != 0
  | .float (.fin q) => q != 0
  | .float _ => true
  | .str s => s != ""
  | .list items => !items.isEmpty
  | .dict fields => !fields.isEmpty

/-- `int(v)`. -/
def toInt : Value → Except PyError Int
  | .none | .list _ | .dict _ => .error .typeError
  | .bool b => .ok (if b then 1 else 0)
  | .int i => .ok i
  | .float f => f.toInt
  | .str s => match intOfStr s with
      | Option.some i => .ok i
      | Option.none => .error .valueError

/-- `v is None`. -/
def isNone : Value → Bool
  | .none => true
  | _ => false

end Value

example : intOfStr " -1_000 " = some (-1000) := by decide
example : intOfStr "1__0" = none := by decide
example : intOfStr "\x1c7" = none := by decide
example : hexOfStr (removeHexMarks "0x0B") = some 11 := by decide
example : bytesFromHex "0a ff" = some [10, 255] := by decide

theorem trim_eq_self {space : Char → Bool} {cs : List Char} (plain : ∀ c ∈ cs, space c = false) :
    ((cs.dropWhile space).reverse.dropWhile space).reverse = cs := by
  have kept (ds : List Char) (plain : ∀ c ∈ ds, space c = false) : ds.dropWhile space = ds := by
    cases ds with
    | nil => rfl
    | cons d rest => rw [List.dropWhile_cons, plain d List.mem_cons_self]; rfl
  rw [kept cs plain, kept cs.reverse (by simpa using plain), List.reverse_reverse]

theorem strip_eq_self {cs} (plain : ∀ c ∈ cs, isSpace c = false) : strip cs = cs :=
  trim_eq_self plain

theorem literal_eq_self {cs} (plain : ∀ c ∈ cs, isSpace c = false) : literal cs = cs :=
  trim_eq_self fun c inside => by rw [isBlank, plain c inside, Bool.false_and]

theorem decimal_range {c : Char} (digit : c.isDigit = true) : 48 ≤ c.toNat ∧ c.toNat ≤ 57 := by
  simp only [Char.isDigit, Bool.and_eq_true, decide_eq_true_eq] at digit
  exact ⟨UInt32.le_iff_toNat_le.mp digit.1, UInt32.le_iff_toNat_le.mp digit.2⟩

theorem digitValue_decimal {c : Char} (digit : c.isDigit = true) :
    digitValue c = some (c.toNat - 48) := by
  obtain ⟨low, high⟩ := decimal_range digit
  unfold digitValue digitZeros
  rw [List.find?_cons_of_pos (by simp; omega)]
  rfl

theorem isSpace_decimal {c : Char} (digit : c.isDigit = true) : isSpace c = false := by
  obtain ⟨low, high⟩ := decimal_range digit
  simp [isSpace]
  omega

theorem digitsOf_decimal {cs} (digits : ∀ c ∈ cs, c.isDigit = true) (inhabited : cs ≠ []) :
    digitsOf digitValue cs = some (cs.map fun c => c.toNat - 48) := by
  induction cs with
  | nil => exact absurd rfl inhabited
  | cons c rest ih =>
    have here := digitValue_decimal (digits c List.mem_cons_self)
    have later := ih fun d inside => digits d (List.mem_cons_of_mem c inside)
    cases rest with
    | nil => simp [digitsOf, here]
    | cons next more =>
      have plain : next ≠ '_' := by
        rintro rfl
        exact absurd (digits '_' (by simp)) (by decide)
      rw [digitsOf.eq_4 _ _ _ _ plain]
      simp [here, later]

/-- `str` writes an integer of at most this many digits, and raises on a longer one. -/
def Printable (v : Int) : Prop := (Nat.toDigits 10 v.natAbs).length ≤ intMaxStrDigits

instance : DecidablePred Printable := fun v =>
  inferInstanceAs (Decidable ((Nat.toDigits 10 v.natAbs).length ≤ intMaxStrDigits))

theorem printable_iff {v} : Printable v ↔ v.natAbs < 10 ^ intMaxStrDigits :=
  Nat.length_toDigits_le_iff (by decide) (by decide)

theorem digitValue_lt {c d} (read : digitValue c = some d) : d < 10 := by
  obtain ⟨start, found, rfl⟩ := Option.map_eq_some_iff.mp read
  have run := List.find?_some found
  simp only [Bool.and_eq_true, decide_eq_true_eq] at run
  omega

theorem mem_digitsOf {cs ds} (read : digitsOf digitValue cs = some ds) :
    ∀ d ∈ ds, d < 10 := by
  induction cs using digitsOf.induct generalizing ds with
  | case1 => cases read
  | case2 c =>
    obtain ⟨d, here, rfl⟩ := Option.map_eq_some_iff.mp read
    simpa using digitValue_lt here
  | case3 c more ih =>
    simp only [digitsOf, Option.bind_eq_bind, Option.bind_eq_some_iff, Option.pure_def,
      Option.some.injEq] at read
    obtain ⟨d, here, later, rest, rfl⟩ := read
    exact List.forall_mem_cons.mpr ⟨digitValue_lt here, ih rest⟩
  | case4 c next more plain ih =>
    rw [digitsOf.eq_4 _ _ _ _ plain] at read
    simp only [Option.bind_eq_bind, Option.bind_eq_some_iff, Option.pure_def,
      Option.some.injEq] at read
    obtain ⟨d, here, later, rest, rfl⟩ := read
    exact List.forall_mem_cons.mpr ⟨digitValue_lt here, ih rest⟩

theorem natAbs_intOfDigits_lt (negative : Bool) {ds} (digits : ∀ d ∈ ds, d < 10) :
    (intOfDigits negative 10 ds).natAbs < 10 ^ ds.length := by
  have bound (acc : Nat) : ds.foldl (fun acc d => 10 * acc + d) acc < (acc + 1) * 10 ^ ds.length := by
    induction ds generalizing acc with
    | nil => simp
    | cons d rest ih =>
      have here := digits d List.mem_cons_self
      calc rest.foldl (fun acc d => 10 * acc + d) (10 * acc + d)
          < (10 * acc + d + 1) * 10 ^ rest.length :=
            ih (fun e inside => digits e (List.mem_cons_of_mem d inside)) _
        _ ≤ ((acc + 1) * 10) * 10 ^ rest.length := Nat.mul_le_mul_right _ (by omega)
        _ = (acc + 1) * 10 ^ (rest.length + 1) := by rw [pow_succ', mul_assoc]
  have whole := bound 0
  rw [zero_add, one_mul] at whole
  unfold intOfDigits
  cases negative <;> simpa using whole

/-- What `int` reads from a text, `str` writes. -/
theorem printable_of_intOfStr {s v} (read : intOfStr s = some v) : Printable v := by
  simp only [intOfStr, Option.bind_eq_bind, Option.bind_eq_some_iff] at read
  obtain ⟨ds, digits, fits⟩ := read
  split at fits
  · cases fits
  · next short =>
    cases fits
    exact printable_iff.mpr ((natAbs_intOfDigits_lt _ (mem_digitsOf digits)).trans_le
      (Nat.pow_le_pow_right (by decide) (not_lt.mp short)))

theorem intOfDigits_toDigits (negative : Bool) (n : Nat) :
    intOfDigits negative 10 ((Nat.toDigits 10 n).map fun c => c.toNat - 48) =
      if negative then -(n : Int) else n := by
  have value : ((Nat.toDigits 10 n).map fun c => c.toNat - 48).foldl (fun acc d => 10 * acc + d) 0 = n := by
    rw [List.foldl_map]
    exact (@Nat.ofDigitChars_eq_foldl 10 _ 0).symm.trans Nat.ofDigitChars_ten_toDigits
  simp only [intOfDigits, value]

theorem signOf_decimal {cs} (digits : ∀ c ∈ cs, c.isDigit = true) :
    signOf cs = (false, cs) := by
  cases cs with
  | nil => rfl
  | cons c rest =>
    have digit := digits c List.mem_cons_self
    unfold signOf
    split
    · next here => cases here; cases digit
    · next here => cases here; cases digit
    · rfl

theorem intOfStr_toString {v} (short : Printable v) : intOfStr (toString v) = some v := by
  have digits (n : Nat) : ∀ c ∈ Nat.toDigits 10 n, c.isDigit = true := fun c inside =>
    Nat.isDigit_of_mem_toDigits (by decide) (by decide) inside
  have read (n : Nat) := digitsOf_decimal (digits n) Nat.toDigits_ne_nil
  cases v with
  | ofNat n =>
    have text : (toString (Int.ofNat n)).toList = Nat.toDigits 10 n := Nat.toList_repr
    have stripped := literal_eq_self fun c inside => isSpace_decimal (digits n c inside)
    have fits : (Nat.toDigits 10 n).length ≤ intMaxStrDigits := short
    rw [intOfStr, text, stripped, signOf_decimal (digits n)]
    simpa [read, intOfDigits_toDigits] using fits
  | negSucc n =>
    have text : (toString (Int.negSucc n)).toList = '-' :: Nat.toDigits 10 (n + 1) := by
      change ("-" ++ (n + 1).repr).toList = _
      rw [String.toList_append, Nat.toList_repr]
      rfl
    have stripped : literal ('-' :: Nat.toDigits 10 (n + 1)) = '-' :: Nat.toDigits 10 (n + 1) := by
      refine literal_eq_self ?_
      rintro c (_ | ⟨_, inside⟩)
      · decide
      · exact isSpace_decimal (digits _ c inside)
    have fits : (Nat.toDigits 10 (n + 1)).length ≤ intMaxStrDigits := short
    rw [intOfStr, text, stripped]
    simp only [signOf]
    simpa [read, intOfDigits_toDigits, Int.negSucc_eq] using fits

namespace Value

/-- `v.get(key, default)`; only dictionaries have it. -/
def get (v : Value) (key : String) (default : Value := .none) : Except PyError Value :=
  match v with
  | .dict fields => .ok ((fields.lookup key).getD default)
  | _ => .error .attributeError

/-- `v or fallback`. -/
def or (v fallback : Value) : Value := if v.truthy then v else fallback

def number? : Value → Option PyFloat
  | .bool b => some (.fin (if b then 1 else 0))
  | .int i => some (.fin i)
  | .float f => some f
  | _ => Option.none

/-- `v < bound` for a number `bound`. -/
def lt (v : Value) (bound : PyFloat) : Except PyError Bool :=
  match v.number? with
  | some x => .ok (x.lt bound)
  | Option.none => .error .typeError

/-- The elements a `for` loop sees. -/
def iterate : Value → Except PyError (List Value)
  | .list items => .ok items
  | .dict fields => .ok (fields.map fun field => .str field.1)
  | .str s => .ok (s.toList.map fun c => .str (String.ofList [c]))
  | _ => .error .typeError

def asStr : Value → Except PyError String
  | .str s => .ok s
  | _ => .error .attributeError

/-- `len(v)` succeeds. -/
def sized : Value → Bool
  | .str _ | .list _ | .dict _ => true
  | _ => false

/-- `hash(v)` succeeds. -/
def hashable : Value → Bool
  | .list _ | .dict _ => false
  | _ => true

/-- `v == text`. -/
def isStr (v : Value) (text : String) : Bool :=
  match v with
  | .str s => s == text
  | _ => false

/-- `int(v or 0)`. -/
def toIntOr (v : Value) (fallback : Int) : Except PyError Int :=
  if v.truthy then v.toInt else .ok fallback

theorem get_eq_ok {v d r : Value} {key} :
    v.get key d = .ok r ↔ ∃ fields, v = .dict fields ∧ (fields.lookup key).getD d = r := by
  cases v <;> simp [get]

theorem lt_eq_ok {v : Value} {bound b} :
    v.lt bound = .ok b ↔ ∃ x, v.number? = some x ∧ x.lt bound = b := by
  unfold lt
  cases v.number? <;> simp

theorem isStr_iff {v : Value} {text} : v.isStr text = true ↔ v = .str text := by
  cases v <;> simp [isStr]

end Value

/-- `s[from:to]`. -/
def slice (s : String) (start stop : Nat) : String :=
  String.ofList ((s.toList.take stop).drop start)

/-- `s.startswith(start)`. -/
def startsWith (s start : String) : Bool := start.toList.isPrefixOf s.toList

example : (Value.dict [("leg_index", .int 2)]).get "leg_index" = .ok (.int 2) := rfl
example : slice "0x81b4e8b4ff" 2 10 = "81b4e8b4" := by decide

end MinotaurSubnet.Python
