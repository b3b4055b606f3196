import MinotaurSubnet.Library.Dict
import MinotaurSubnet.Library.SortedBy
import MinotaurSubnet.Python.Value

/-! # JSON objects and their texts

Reading and writing the members of a parsed object, and `json.dumps` with sorted keys.
The texts only serve as keys and are only compared, so how a finite float is spelled is a
parameter, with what `float.__repr__` is documented to do.
-/

namespace MinotaurSubnet.Python

open Library

namespace Value

/-- `fields.get(key)` of a dictionary. -/
def member (fields : List (String × Value)) (key : String) : Value := (fields.lookup key).getD .none

/-- `fields[key] = v`. -/
def setMember (fields : List (String × Value)) (key : String) (v : Value) : List (String × Value) :=
  Dict.assign key v fields

/-- `fields.pop(key, None)`. -/
def popMember (fields : List (String × Value)) (key : String) : List (String × Value) :=
  fields.filter fun field => field.1 ≠ key

variable (fields : List (String × Value))

theorem lookup_setMember (key other : String) (v : Value) :
    (setMember fields key v).lookup other = if other = key then some v else fields.lookup other :=
  Dict.lookup_assign key other v fields

theorem member_setMember (key other : String) (v : Value) :
    member (setMember fields key v) other = if other = key then v else member fields other := by
  unfold member
  rw [lookup_setMember]
  split <;> rfl

theorem lookup_popMember_of_ne {key other} (different : other ≠ key) :
    (popMember fields key).lookup other = fields.lookup other := by
  unfold popMember
  induction fields with
  | nil => rfl
  | cons field rest ih =>
    obtain ⟨name, v⟩ := field
    by_cases popped : name = key
    · subst popped
      have later : (other == name) = false := by simpa using different
      simpa [List.lookup_cons, later] using ih
    · simp [popped]
      by_cases here : other = name
      · simp [here]
      · have later : (other == name) = false := by simpa using here
        simpa [List.lookup_cons, later] using ih

theorem member_popMember_of_ne {key other} (different : other ≠ key) :
    member (popMember fields key) other = member fields other := by
  unfold member
  rw [lookup_popMember_of_ne fields different]

theorem member_popMember_self (key : String) :
    member (popMember fields key) key = .none := by
  unfold member popMember
  induction fields with
  | nil => rfl
  | cons field rest ih =>
    obtain ⟨name, v⟩ := field
    by_cases popped : name = key
    · simpa [popped] using ih
    · have later : (key == name) = false := by simpa using Ne.symm popped
      simpa [List.filter_cons, popped, List.lookup_cons, later] using ih

mutual

/-- A value that JSON carries: its numbers are finite and its dictionaries have distinct keys. -/
def isJson : Value → Bool
  | .float (.fin _) => true
  | .float _ => false
  | .list items => isJsonItems items
  | .dict fields => decide (fields.map Prod.fst).Nodup && isJsonFields fields
  | _ => true

def isJsonItems : List Value → Bool
  | [] => true
  | v :: rest => isJson v && isJsonItems rest

def isJsonFields : List (String × Value) → Bool
  | [] => true
  | (_, v) :: rest => isJson v && isJsonFields rest

end

theorem isJsonFields_iff :
    isJsonFields fields = true ↔ ∀ field ∈ fields, field.2.isJson = true := by
  induction fields with
  | nil => simp [isJsonFields]
  | cons field rest ih =>
    obtain ⟨key, v⟩ := field
    simp [isJsonFields, ih]

theorem isJson_dict : (dict fields).isJson = true ↔
    (fields.map Prod.fst).Nodup ∧ ∀ field ∈ fields, field.2.isJson = true := by
  rw [isJson, Bool.and_eq_true, decide_eq_true_eq, isJsonFields_iff]

theorem isJson_popMember {fields} (json : (dict fields).isJson = true) (key : String) :
    (dict (popMember fields key)).isJson = true := by
  obtain ⟨distinct, each⟩ := (isJson_dict fields).mp json
  apply (isJson_dict _).mpr
  constructor
  · exact distinct.sublist (List.filter_sublist.map Prod.fst)
  · intro field member
    exact each field (List.mem_of_mem_filter member)

theorem isJson_of_lookup {fields} (json : (dict fields).isJson = true) {key v}
    (found : fields.lookup key = some v) : v.isJson = true := by
  obtain ⟨_, each⟩ := (isJson_dict fields).mp json
  obtain ⟨before, after, rfl, _⟩ := List.lookup_eq_some_iff.mp found
  exact each (key, v) (by simp)

/-- Whether a dictionary finds one value under the other. `json.loads` has one NaN object, which is
    found by identity although it is not equal to itself. -/
def sameKey (a b : Value) : Bool :=
  match a, b with
  | .none, .none => true
  | .str s, .str t => s == t
  | a, b =>
    match a.number?, b.number? with
    | some x, some y => decide (x = y)
    | _, _ => false

end Value

/-- `float.__repr__` on the finite values: each has a text of its own, and none is a text of an `int`. -/
class FloatRepr where
  text : ℚ → String
  injective : Function.Injective text
  numeric : ∀ q, ∀ c ∈ (text q).toList, c.isDigit = true ∨ c ∈ ['-', '+', '.', 'e']
  marked : ∀ q, '.' ∈ (text q).toList ∨ 'e' ∈ (text q).toList

/-- A `str`: its code points, surrogates included. -/
abbrev PyStr := List (Fin 0x110000)

theorem toNat_bounded (c : Char) : c.toNat < 0x110000 := by
  cases c.valid with
  | inl low => exact low.trans (by decide)
  | inr high => exact high.2

namespace PyStr

def ofString (s : String) : PyStr := s.toList.map fun c => ⟨c.toNat, toNat_bounded c⟩

/-- The UTF-16 code units of a code point. -/
def pointUnits (point : Nat) : List Nat :=
  if point < 0x10000 then [point]
  else [0xd800 + (point - 0x10000) / 0x400, 0xdc00 + (point - 0x10000) % 0x400]

def units (s : PyStr) : List Nat := s.flatMap fun point => pointUnits point.val

/-- No high surrogate is followed by a low one. -/
def Unpaired (s : PyStr) : Prop :=
  s.IsChain fun a b =>
    ¬((0xd800 ≤ a.val ∧ a.val < 0xdc00) ∧ 0xdc00 ≤ b.val ∧ b.val < 0xe000)

end PyStr

def hexDigits (n : Nat) : String := String.ofList ((Nat.toDigits 16 n).leftpad 4 '0')

/-- One code unit of a string. -/
def escape (unit : Nat) : String :=
  if unit = 34 then "\\\"" else if unit = 92 then "\\\\"
  else if unit = 10 then "\\n" else if unit = 13 then "\\r" else if unit = 9 then "\\t"
  else if unit = 8 then "\\b" else if unit = 12 then "\\f"
  else if 32 ≤ unit ∧ unit ≤ 126 then String.ofList [Char.ofNat unit]
  else "\\u" ++ hexDigits unit

/-- `json.dumps` of a string. -/
def PyStr.quote (s : PyStr) : String := "\"" ++ String.join (s.units.map escape) ++ "\""

/-- `json.dumps` of a dictionary of strings. -/
def PyStr.dumpsObject (fields : List (String × PyStr)) : String :=
  "\x7b" ++ ",".intercalate ((sortedBy Prod.fst fields).map
    fun field => (PyStr.ofString field.1).quote ++ ":" ++ field.2.quote) ++ "\x7d"

namespace Value

def quote (s : String) : String := (PyStr.ofString s).quote

variable [FloatRepr]

def floatText : PyFloat → String
  | .nan => "NaN"
  | .negInf => "-Infinity"
  | .posInf => "Infinity"
  | .fin q => FloatRepr.text q

mutual

/-- `json.dumps(v, sort_keys=True, separators=(",", ":"))`. -/
def dumps : Value → String
  | .none => "null"
  | .bool b => if b then "true" else "false"
  | .int i => toString i
  | .float f => floatText f
  | .str s => quote s
  | .list items => "[" ++ ",".intercalate (dumpsItems items) ++ "]"
  | .dict fields => "\x7b" ++ ",".intercalate ((sortedBy Prod.fst (dumpsFields fields)).map
      fun field => quote field.1 ++ ":" ++ field.2) ++ "\x7d"

def dumpsItems : List Value → List String
  | [] => []
  | v :: rest => dumps v :: dumpsItems rest

def dumpsFields : List (String × Value) → List (String × String)
  | [] => []
  | (name, v) :: rest => (name, dumps v) :: dumpsFields rest

end

end Value

/-- The string of two surrogates and the character that they stand for have one text. -/
example : PyStr.quote [0xd83d, 0xde00] = PyStr.quote [0x1f600] := by decide +kernel

end MinotaurSubnet.Python
