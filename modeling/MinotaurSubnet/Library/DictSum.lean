import Mathlib.Algebra.BigOperators.Ring.List
import Mathlib.Algebra.Field.Basic
import MinotaurSubnet.Library.Dict
import MinotaurSubnet.Library.SortedBy

/-! # Dictionaries of amounts

What assignment, filtering, sorting, proportional splitting and gathering along a route do to the
sum of a dictionary's values.
-/

namespace MinotaurSubnet.Library

namespace Dict

variable {κ : Type*} [DecidableEq κ]

section

variable {α : Type*}

omit [DecidableEq κ] in
theorem filter_filter (d : Dict κ α) (p q : κ → α → Bool) :
    (d.filter p).filter q = d.filter fun k v => p k v && q k v := by
  simp only [filter, List.filter_filter, Bool.and_comm]

omit [DecidableEq κ] in
theorem filter_congr {d : Dict κ α} {p q : κ → α → Bool} (same : ∀ k v, p k v = q k v) :
    d.filter p = d.filter q := by
  rw [funext₂ same]

end

section

variable {M : Type*}

theorem sum_values_set_of_none [AddCommMonoid M] {d : Dict κ M} {k} (v : M)
    (absent : d.get? k = none) : (d.set k v).values.sum = d.values.sum + v := by
  simpa using sum_map_set_of_none id v absent

theorem sum_values_set_of_some [AddCommMonoid M] {d : Dict κ M} {k w} (v : M)
    (found : d.get? k = some w) : (d.set k v).values.sum + w = d.values.sum + v := by
  simpa using sum_map_set_of_some id v found

variable (d : Dict κ M)

theorem sum_values_add [AddCommGroup M] (k : κ) (more : M) :
    (d.set k ((d.get? k).getD 0 + more)).values.sum = d.values.sum + more := by
  cases found : d.get? k with
  | none => simp [sum_values_set_of_none _ found]
  | some w =>
    have traded := sum_values_set_of_some (w + more) found
    rw [add_comm w more, ← add_assoc] at traded
    rw [Option.getD_some, add_comm w more]
    exact add_right_cancel traded

theorem sum_values_filter_ne [AddCommMonoid M] (k : κ) :
    (d.filter fun k' _ => decide (k' ≠ k)).values.sum + (d.get? k).getD 0 = d.values.sum := by
  obtain ⟨entries, nodup⟩ := d
  simp only [values, filter, get?]
  induction entries with
  | nil => simp
  | cons entry rest ih =>
    obtain ⟨head, value⟩ := entry
    rw [List.map_cons, List.nodup_cons] at nodup
    by_cases here : head = k
    · subst here
      have others : rest.filter (fun e => decide (e.1 ≠ head)) = rest := by
        apply List.filter_eq_self.mpr
        intro e member
        have other : e.1 ≠ head := fun eq => nodup.1 (List.mem_map.mpr ⟨e, member, eq⟩)
        simpa using other
      have dropped : ((head, value) :: rest).filter (fun e => decide (e.1 ≠ head)) = rest := by
        rw [List.filter_cons_of_neg (by simp), others]
      rw [dropped, List.lookup_cons_self, List.map_cons, List.sum_cons, Option.getD_some, add_comm]
    · simp [List.lookup_cons, beq_eq_false_iff_ne.mpr (Ne.symm here), here, add_assoc, ← ih nodup.2]

omit [DecidableEq κ] in
theorem sum_values_filter_add_not [AddCommMonoid M] (p : κ → Bool) :
    (d.filter fun k _ => p k).values.sum + (d.filter fun k _ => !p k).values.sum = d.values.sum := by
  obtain ⟨entries, nodup⟩ := d
  simp only [values, filter]
  clear nodup
  induction entries with
  | nil => simp
  | cons entry rest ih =>
    cases kept : p entry.1 with
    | true => simp [kept, add_assoc, ← ih]
    | false => simp [kept, add_left_comm, ← ih]

theorem sum_values_filter_eq [AddCommGroup M] (k : κ) :
    (d.filter fun k' _ => decide (k' = k)).values.sum = (d.get? k).getD 0 := by
  have split := sum_values_filter_add_not d fun k' => decide (k' ≠ k)
  rw [← sum_values_filter_ne d k] at split
  simpa using add_left_cancel split

end

section

variable {M : Type*} [AddCommGroup M] {ι : Type*} [DecidableEq ι]

/-- Add each amount to what its route already holds; an amount without a route is lost. -/
def collect (route : κ → Option ι) (acc : Dict ι M) (entry : κ × M) : Dict ι M :=
  match route entry.1 with
  | some i => acc.set i ((acc.get? i).getD 0 + entry.2)
  | none => acc

def gather (d : Dict κ M) (route : κ → Option ι) : Dict ι M :=
  d.entries.foldl (collect route) empty

variable {route : κ → Option ι}

omit [DecidableEq κ] in
theorem getD_foldl_collect (entries : List (κ × M)) (acc : Dict ι M) (i : ι) :
    ((entries.foldl (collect route) acc).get? i).getD 0 = (acc.get? i).getD 0 +
      ((entries.filter fun e => decide (route e.1 = some i)).map Prod.snd).sum := by
  induction entries generalizing acc with
  | nil => simp
  | cons entry rest ih =>
    rw [List.foldl_cons, ih, collect]
    cases routed : route entry.1 with
    | none => simp [routed]
    | some j =>
      rw [get?_set]
      by_cases here : i = j
      · simp [here, routed, add_assoc]
      · simp [here, routed, Ne.symm here]

omit [DecidableEq κ] in
theorem sum_foldl_collect (entries : List (κ × M)) (acc : Dict ι M) :
    (entries.foldl (collect route) acc).values.sum = acc.values.sum +
      ((entries.filter fun e => (route e.1).isSome).map Prod.snd).sum := by
  induction entries generalizing acc with
  | nil => simp
  | cons entry rest ih =>
    rw [List.foldl_cons, ih, collect]
    cases routed : route entry.1 with
    | none => simp [routed]
    | some j => simp [routed, sum_values_add, add_assoc]

omit [DecidableEq κ] in
theorem mem_foldl_collect (entries : List (κ × M)) (acc : Dict ι M) (i : ι) :
    ((entries.foldl (collect route) acc).get? i).isSome = true ↔
      (acc.get? i).isSome = true ∨ ∃ e ∈ entries, route e.1 = some i := by
  induction entries generalizing acc with
  | nil => simp
  | cons entry rest ih =>
    rw [List.foldl_cons, ih, collect]
    cases routed : route entry.1 with
    | none => simp [routed]
    | some j =>
      rw [get?_set]
      by_cases here : i = j
      · simp [here, routed]
      · simp [here, routed, Ne.symm here]

variable (d : Dict κ M) (route) in
omit [DecidableEq κ] in
theorem getD_gather (i : ι) : ((d.gather route).get? i).getD 0 =
    (d.filter fun k _ => decide (route k = some i)).values.sum := by
  rw [gather, getD_foldl_collect, get?_empty, Option.getD_none, zero_add]
  rfl

variable (d : Dict κ M) (route) in
omit [DecidableEq κ] in
theorem sum_gather :
    (d.gather route).values.sum = (d.filter fun k _ => (route k).isSome).values.sum := by
  rw [gather, sum_foldl_collect]
  simp [values, empty, filter]

variable (d : Dict κ M) (route) in
theorem get?_gather_isSome (i : ι) :
    ((d.gather route).get? i).isSome = true ↔ ∃ k v, d.get? k = some v ∧ route k = some i := by
  rw [gather, mem_foldl_collect, get?_empty]
  simp [get?_eq_some]

end

def sortedItems {α : Type*} [LinearOrder κ] (d : Dict κ α) : Dict κ α where
  entries := sortedBy Prod.fst d.entries
  keysNodup := ((sortedBy_perm Prod.fst d.entries).map Prod.fst).nodup_iff.mpr d.keysNodup

theorem get?_sortedItems {α : Type*} [LinearOrder κ] (d : Dict κ α) (k : κ) :
    d.sortedItems.get? k = d.get? k := by
  apply Option.ext
  intro v
  simp only [get?_eq_some, sortedItems, mem_sortedBy]

omit [DecidableEq κ] in
theorem sum_sortedItems {M : Type*} [AddCommMonoid M] [LinearOrder κ] (d : Dict κ M) :
    d.sortedItems.values.sum = d.values.sum :=
  ((sortedBy_perm Prod.fst d.entries).map Prod.snd).sum_eq

omit [DecidableEq κ] in
theorem sum_proportional {F : Type*} [Field F] {d : Dict κ F} (nonzero : d.values.sum ≠ 0) (whole : F) :
    (d.image fun w => w / d.values.sum * whole).values.sum = whole := by
  have mapped : (d.image fun w => w / d.values.sum * whole).values =
      d.values.map fun w => w * (whole / d.values.sum) := by
    simp [values, image, div_mul_eq_mul_div, mul_div_assoc]
  rw [mapped, List.sum_map_mul_right, List.map_id', mul_div_cancel₀ _ nonzero]

end Dict

end MinotaurSubnet.Library
