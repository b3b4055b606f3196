import Mathlib.Data.List.Nodup
import Mathlib.Data.List.Perm.Basic
import Mathlib.Data.List.Range

/-! # Picking, chunking and dealing

The elements of a list at some positions, a list cut into chunks of one length, the elements
of several lists taken in turn, and the window that a page shows of a list.
-/

namespace MinotaurSubnet.Library

variable {α : Type*}

def picked (items : List α) (positions : List Nat) : List α :=
  positions.filterMap (items[·]?)

def chunks (size : Nat) (items : List α) : List (List α) :=
  (List.range ((items.length + size - 1) / size)).map fun i => (items.drop (i * size)).take size

/-- The first of every column, then the second of those that have one, and so on. -/
def dealt (columns : List (List α)) : List α :=
  (List.range ((columns.map List.length).foldr max 0)).flatMap fun i => columns.filterMap (·[i]?)

section

variable {items : List α} {positions : List Nat}

theorem mem_of_mem_picked {a} (inside : a ∈ picked items positions) : a ∈ items := by
  obtain ⟨i, -, found⟩ := List.mem_filterMap.mp inside
  exact List.mem_of_getElem? found

theorem picked_nodup (distinct : items.Nodup) (different : positions.Nodup) :
    (picked items positions).Nodup := by
  refine different.filterMap fun i j a at_i at_j => ?_
  obtain ⟨inside, found⟩ := List.getElem?_eq_some_iff.mp at_i
  exact (List.getElem?_inj inside distinct).mp (at_i.trans at_j.symm)

theorem picked_range (items : List α) : ∀ {n : Nat}, items.length ≤ n →
    picked items (List.range n) = items := by
  unfold picked
  induction items with
  | nil => simp
  | cons a items ih =>
    intro n long
    obtain ⟨n, rfl⟩ := Nat.exists_eq_add_one_of_ne_zero (Nat.ne_zero_of_lt long)
    have rest := ih (Nat.le_of_succ_le_succ long)
    simp_all [List.range_succ_eq_map, List.filterMap_map]

theorem picked_perm (all : positions.Perm (List.range items.length)) :
    (picked items positions).Perm items :=
  (all.filterMap _).trans (List.Perm.of_eq (picked_range items le_rfl))

end

section

variable {size : Nat}

@[simp] theorem chunks_nil (positive : 0 < size) : chunks size ([] : List α) = [] := by
  have none : (([] : List α).length + size - 1) / size = 0 := Nat.div_eq_of_lt (by simp; omega)
  unfold chunks
  rw [none, List.range_zero, List.map_nil]

theorem chunks_of_ne_nil (positive : 0 < size) {items : List α} (some : items ≠ []) :
    chunks size items = items.take size :: chunks size (items.drop size) := by
  have length := List.length_pos_of_ne_nil some
  have count : (items.length + size - 1) / size = ((items.drop size).length + size - 1) / size + 1 := by
    rw [List.length_drop, ← Nat.add_div_right _ positive]
    rcases Nat.lt_or_ge items.length size with short | long
    · have one : (items.length + size - 1) / size = 1 := Nat.div_eq_of_lt_le (by omega) (by omega)
      have one' : (items.length - size + size - 1 + size) / size = 1 :=
        Nat.div_eq_of_lt_le (by omega) (by omega)
      rw [one, one']
    · congr 1
      omega
  unfold chunks
  rw [count, List.range_succ_eq_map, List.map_cons, List.map_map, Nat.zero_mul, List.drop_zero]
  congr 1
  refine List.map_congr_left fun i _ => ?_
  simp only [Function.comp_apply, List.drop_drop, Nat.succ_mul, Nat.add_comm]

theorem chunks_induction (positive : 0 < size) {motive : List α → Prop} (nil : motive [])
    (cut : ∀ items, items ≠ [] → motive (items.drop size) → motive items) (items : List α) :
    motive items := by
  induction length : items.length using Nat.strong_induction_on generalizing items with
  | _ n ih =>
    by_cases empty : items = []
    · exact empty ▸ nil
    · have inhabited := List.length_pos_of_ne_nil empty
      exact cut items empty (ih _ (by rw [List.length_drop]; omega) _ rfl)

theorem chunks_flatten (positive : 0 < size) (items : List α) : (chunks size items).flatten = items := by
  induction items using chunks_induction positive with
  | nil => rw [chunks_nil positive, List.flatten_nil]
  | cut items some ih =>
    rw [chunks_of_ne_nil positive some, List.flatten_cons, ih, List.take_append_drop]

theorem chunks_bounds (positive : 0 < size) (items : List α) :
    ∀ chunk ∈ chunks size items, chunk ≠ [] ∧ chunk.length ≤ size := by
  induction items using chunks_induction positive with
  | nil => simp [chunks_nil positive]
  | cut items some ih =>
    intro chunk inside
    rw [chunks_of_ne_nil positive some, List.mem_cons] at inside
    rcases inside with rfl | later
    · have length := List.length_pos_of_ne_nil some
      exact ⟨List.ne_nil_of_length_pos (by rw [List.length_take]; omega), List.length_take_le _ _⟩
    · exact ih chunk later

end

theorem dealt_perm (columns : List (List α)) : (dealt columns).Perm columns.flatten := by
  have deal (columns : List (List α)) : ∀ n, (columns.map List.length).foldr max 0 ≤ n →
      ((List.range n).flatMap fun i => columns.filterMap (·[i]?)).Perm columns.flatten := by
    induction columns with
    | nil => simp
    | cons column columns ih =>
      intro n tall
      obtain ⟨first, rest⟩ := Nat.max_le.mp tall
      have split : ((List.range n).flatMap fun i => (column :: columns).filterMap (·[i]?)) =
          (List.range n).flatMap fun i => (column[i]?).toList ++ columns.filterMap (·[i]?) := by
        refine List.flatMap_congr fun i _ => ?_
        rw [List.filterMap_cons]
        cases column[i]? <;> rfl
      have front : ((List.range n).flatMap fun i => (column[i]?).toList) = column := by
        rw [← List.filterMap_eq_flatMap_toList]
        exact picked_range column first
      rw [split, List.flatten_cons]
      refine (List.flatMap_append_perm _ _ _).symm.trans ?_
      rw [front]
      exact (ih n rest).append_left column
  exact deal columns _ le_rfl

section

theorem mem_window [DecidableEq α] {items : List α} (distinct : items.Nodup) {offset size a} :
    a ∈ (items.drop offset).take size ↔
      a ∈ items ∧ offset ≤ items.idxOf a ∧ items.idxOf a < offset + size := by
  constructor
  · intro inside
    obtain ⟨i, bound, here⟩ := List.mem_iff_getElem.mp inside
    rw [List.getElem_take, List.getElem_drop] at here
    rw [List.length_take, List.length_drop] at bound
    have place : items.idxOf a = offset + i := by
      rw [← here]
      exact distinct.idxOf_getElem (offset + i) (by omega)
    exact ⟨here ▸ List.getElem_mem _, by omega, by omega⟩
  · rintro ⟨inside, first, last⟩
    have bound := List.idxOf_lt_length_of_mem inside
    apply List.mem_iff_getElem.mpr
    refine ⟨items.idxOf a - offset, by rw [List.length_take, List.length_drop]; omega, ?_⟩
    simp only [List.getElem_take, List.getElem_drop, Nat.add_sub_cancel' first, List.getElem_idxOf]

end

end MinotaurSubnet.Library
