import Mathlib.Tactic

/-! # Words and byte strings of an encoder

An encoder that writes numbers as words of 32 bytes and a byte string as its length and its bytes,
filled up to whole words. Two such strings one after the other can be told apart again.
-/

namespace MinotaurSubnet.Library

/-- The last `width` bytes of a number, the highest first. -/
def bigEndian : Nat → Nat → List UInt8
  | 0, _ => []
  | width + 1, n => bigEndian width (n / 256) ++ [UInt8.ofNat (n % 256)]

@[simp] theorem length_bigEndian (width n : Nat) : (bigEndian width n).length = width := by
  induction width generalizing n with
  | zero => rfl
  | succ width ih => rw [bigEndian, List.length_append, ih, List.length_singleton]

theorem ofNat_inj {m n : Nat} (small : m < 256) (small' : n < 256) (same : UInt8.ofNat m = UInt8.ofNat n) :
    m = n := by
  have values := congrArg UInt8.toNat same
  rw [UInt8.toNat_ofNat', UInt8.toNat_ofNat'] at values
  omega

theorem bigEndian_inj {width m n : Nat} (fits : m < 256 ^ width) (fits' : n < 256 ^ width)
    (same : bigEndian width m = bigEndian width n) : m = n := by
  induction width generalizing m n with
  | zero => simp at fits fits'; omega
  | succ width ih =>
    obtain ⟨high, low⟩ := List.append_inj' same rfl
    have lowest : m % 256 = n % 256 :=
      ofNat_inj (Nat.mod_lt _ (by decide)) (Nat.mod_lt _ (by decide)) (List.cons.inj low).1
    have rest : m / 256 = n / 256 := by
      refine ih ?_ ?_ high
      · rw [pow_succ] at fits
        omega
      · rw [pow_succ] at fits'
        omega
    omega

def abiWord (n : Nat) : List UInt8 := bigEndian 32 n

@[simp] theorem length_abiWord (n : Nat) : (abiWord n).length = 32 := length_bigEndian 32 n

theorem abiWord_inj {m n : Nat} (fits : m < 2 ^ 256) (fits' : n < 2 ^ 256)
    (same : abiWord m = abiWord n) : m = n := by
  have range : 2 ^ 256 = 256 ^ 32 := by norm_num
  exact bigEndian_inj (range ▸ fits) (range ▸ fits') same

theorem flatten_inj_of_length {α : Type} {width : Nat} (wide : 0 < width) {xs ys : List (List α)}
    (blocks : ∀ x ∈ xs, x.length = width) (blocks' : ∀ y ∈ ys, y.length = width)
    (same : xs.flatten = ys.flatten) : xs = ys := by
  induction xs generalizing ys with
  | nil =>
    cases ys with
    | nil => rfl
    | cons y ys =>
      have length := congrArg List.length same
      have here := blocks' y List.mem_cons_self
      simp only [List.flatten_nil, List.length_nil, List.flatten_cons, List.length_append] at length
      omega
  | cons x xs ih =>
    have here := blocks x List.mem_cons_self
    cases ys with
    | nil =>
      have length := congrArg List.length same
      simp only [List.flatten_nil, List.length_nil, List.flatten_cons, List.length_append] at length
      omega
    | cons y ys =>
      have here' := blocks' y List.mem_cons_self
      obtain ⟨first, rest⟩ := List.append_inj same (here.trans here'.symm)
      rw [first, ih (fun x inside => blocks x (List.mem_cons_of_mem _ inside))
        (fun y inside => blocks' y (List.mem_cons_of_mem _ inside)) rest]

def padded (bytes : List UInt8) : List UInt8 :=
  bytes ++ List.replicate ((32 - bytes.length % 32) % 32) 0

def dynamicBytes (bytes : List UInt8) : List UInt8 := abiWord bytes.length ++ padded bytes

/-- Two byte strings: where each begins, then both. -/
def abiPair (a b : List UInt8) : List UInt8 :=
  abiWord 64 ++ abiWord (64 + (dynamicBytes a).length) ++ dynamicBytes a ++ dynamicBytes b

theorem dynamicBytes_inj {a b x y : List UInt8} (short : a.length < 2 ^ 256) (short' : b.length < 2 ^ 256)
    (same : dynamicBytes a ++ x = dynamicBytes b ++ y) : a = b ∧ x = y := by
  simp only [dynamicBytes, padded, List.append_assoc] at same
  obtain ⟨lengths, rest⟩ := List.append_inj same (by simp)
  have length := abiWord_inj short short' lengths
  obtain ⟨bytes, rest⟩ := List.append_inj rest length
  rw [length] at rest
  exact ⟨bytes, List.append_cancel_left rest⟩

theorem abiPair_inj {a b c d : List UInt8} (first : a.length < 2 ^ 256) (second : b.length < 2 ^ 256)
    (first' : c.length < 2 ^ 256) (second' : d.length < 2 ^ 256) (same : abiPair a b = abiPair c d) :
    a = c ∧ b = d := by
  simp only [abiPair, List.append_assoc] at same
  obtain ⟨-, rest⟩ := List.append_inj same (by simp)
  obtain ⟨-, rest⟩ := List.append_inj rest (by simp)
  obtain ⟨same, rest⟩ := dynamicBytes_inj first first' rest
  have rest : dynamicBytes b ++ [] = dynamicBytes d ++ [] := by simpa using rest
  exact ⟨same, (dynamicBytes_inj second second' rest).1⟩

/-- A hash given by a table. What a text outside the table has for a digest fits into no word. -/
def tabled (rows : List (List UInt8 × Nat)) (text : List UInt8) : List UInt8 :=
  match rows.lookup text with
  | some digest => abiWord digest
  | none => List.replicate 33 0 ++ text

theorem mem_of_lookup {rows : List (List UInt8 × Nat)} {text digest} (listed : rows.lookup text = some digest) :
    (text, digest) ∈ rows := by
  obtain ⟨before, after, rfl, -⟩ := List.lookup_eq_some_iff.mp listed
  exact List.mem_append_right _ List.mem_cons_self

theorem tabled_inj {rows : List (List UInt8 × Nat)} (fits : ∀ row ∈ rows, row.2 < 2 ^ 256)
    (distinct : (rows.map Prod.snd).Nodup) {a b} (same : tabled rows a = tabled rows b) : a = b := by
  have length := congrArg List.length same
  unfold tabled at same length
  cases here : rows.lookup a with
  | none =>
    cases there : rows.lookup b with
    | none => simpa [here, there] using same
    | some n => simp [here, there] at length
  | some m =>
    cases there : rows.lookup b with
    | none => simp [here, there] at length
    | some n =>
      simp only [here, there] at same
      have listed := mem_of_lookup here
      have listed' := mem_of_lookup there
      have digests : m = n := abiWord_inj (fits _ listed) (fits _ listed') same
      exact congrArg Prod.fst (List.inj_on_of_nodup_map distinct listed listed' digests)

theorem head_abiPair (a b : List UInt8) : (abiPair a b).head? = some 0 := by
  have offset : abiWord 64 = 0 :: (abiWord 64).tail := by decide +kernel
  rw [abiPair, offset]
  rfl

theorem length_le_abiPair (a b : List UInt8) :
    a.length ≤ (abiPair a b).length ∧ b.length ≤ (abiPair a b).length := by
  simp [abiPair, dynamicBytes, padded]
  omega

end MinotaurSubnet.Library
