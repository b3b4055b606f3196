import Mathlib.Data.List.Sort

/-! # Stable sorting by a key

`sortedBy` keeps elements with equal keys in their order, as the `sorted` of the
modelled programs does. A descending sort is a sort by the dual key.
-/

namespace MinotaurSubnet.Library

variable {α κ : Type*} [LinearOrder κ]

def sortedBy (key : α → κ) (items : List α) : List α :=
  items.insertionSort fun a b => key a ≤ key b

theorem sortedBy_perm (key : α → κ) (items : List α) : (sortedBy key items).Perm items :=
  List.perm_insertionSort _ items

variable {key : α → κ}

theorem mem_sortedBy {items a} :
    a ∈ sortedBy key items ↔ a ∈ items :=
  (sortedBy_perm key items).mem_iff

theorem pairwise_sortedBy (key : α → κ) (items : List α) :
    (sortedBy key items).Pairwise fun a b => key a ≤ key b := by
  have total : Std.Total fun a b : α => key a ≤ key b := ⟨fun a b => le_total (key a) (key b)⟩
  have trans : IsTrans α fun a b => key a ≤ key b := ⟨fun _ _ _ => le_trans⟩
  exact List.pairwise_insertionSort _ items

theorem sortedBy_congr {μ : Type*} [LinearOrder μ] {key' : α → μ} {items}
    (same : ∀ a ∈ items, ∀ b ∈ items, key a ≤ key b ↔ key' a ≤ key' b) :
    sortedBy key items = sortedBy key' items := by
  have mapped := List.map_insertionSort (fun a b => key a ≤ key b) (fun a b => key' a ≤ key' b) id
    items same
  rw [List.map_id, List.map_id] at mapped
  exact mapped

theorem sortedBy_map {β : Type*} (key : α → κ) (f : β → α) (items : List β) :
    sortedBy key (items.map f) = (sortedBy (fun b => key (f b)) items).map f := by
  have mapped := List.map_insertionSort (fun a b => key (f a) ≤ key (f b))
    (fun a b => key a ≤ key b) f items (fun _ _ _ _ => Iff.rfl)
  exact mapped.symm

theorem sortedBy_id_eq_of_perm {items items' : List κ} (perm : items.Perm items') :
    sortedBy id items = sortedBy id items' := by
  have same := ((sortedBy_perm id items).trans perm).trans (sortedBy_perm id items').symm
  exact same.eq_of_pairwise (fun _ _ _ _ => le_antisymm) (pairwise_sortedBy id items)
    (pairwise_sortedBy id items')

theorem sortedBy_eq_of_perm {items items'} (distinct : (items.map key).Nodup)
    (perm : items.Perm items') : sortedBy key items = sortedBy key items' := by
  have same := ((sortedBy_perm key items).trans perm).trans (sortedBy_perm key items').symm
  refine same.eq_of_pairwise (fun a b inside inside' le le' => ?_) (pairwise_sortedBy key items)
    (pairwise_sortedBy key items')
  exact List.inj_on_of_nodup_map distinct (mem_sortedBy.mp inside)
    (perm.mem_iff.mpr (mem_sortedBy.mp inside')) (le_antisymm le le')

theorem sortedBy_idem (key : α → κ) (items : List α) :
    sortedBy key (sortedBy key items) = sortedBy key items :=
  (pairwise_sortedBy key items).insertionSort_eq

theorem key_head_le {items a b} (first : (sortedBy key items).head? = some a) (inside : b ∈ items) :
    key a ≤ key b := by
  obtain ⟨rest, spelled⟩ := List.head?_eq_some_iff.mp first
  have sorted := pairwise_sortedBy key items
  rw [spelled, List.pairwise_cons] at sorted
  have listed : b ∈ a :: rest := spelled ▸ mem_sortedBy.mpr inside
  cases List.mem_cons.mp listed with
  | inl same => rw [same]
  | inr later => exact sorted.1 b later

theorem key_le_of_mem_take_drop {items n a b} (taken : a ∈ (sortedBy key items).take n)
    (left : b ∈ (sortedBy key items).drop n) :
    key a ≤ key b := by
  have sorted := pairwise_sortedBy key items
  rw [← List.take_append_drop n (sortedBy key items)] at sorted
  exact (List.pairwise_append.mp sorted).2.2 a taken b left

end MinotaurSubnet.Library
