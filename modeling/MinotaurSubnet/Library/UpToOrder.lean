import Mathlib.Data.Multiset.Bind

/-! # Lists up to order

Two lists hold the same elements when one is a permutation of the other. A list of two kinds of
elements falls apart into its kinds, and what a text determines is the same when the texts are.
Two keyed lists are joined from either side.
-/

namespace MinotaurSubnet.Library

variable {α β γ : Type*}

theorem perm_append_iff {kind : α → Bool} {l l' m m' : List α} (first : ∀ a ∈ l, kind a = false)
    (first' : ∀ a ∈ l', kind a = false) (second : ∀ a ∈ m, kind a = true)
    (second' : ∀ a ∈ m', kind a = true) : (l ++ m).Perm (l' ++ m') ↔ l.Perm l' ∧ m.Perm m' := by
  have seconds {l m : List α} (first : ∀ a ∈ l, kind a = false) (second : ∀ a ∈ m, kind a = true) :
      (l ++ m).filter kind = m := by
    have none : l.filter kind = [] := List.filter_eq_nil_iff.mpr fun a inside => by simp [first a inside]
    rw [List.filter_append, none, List.filter_eq_self.mpr second, List.nil_append]
  have firsts {l m : List α} (first : ∀ a ∈ l, kind a = false) (second : ∀ a ∈ m, kind a = true) :
      (l ++ m).filter (!kind ·) = l := by
    have none : m.filter (!kind ·) = [] :=
      List.filter_eq_nil_iff.mpr fun a inside => by simp [second a inside]
    have all : l.filter (!kind ·) = l := List.filter_eq_self.mpr fun a inside => by simp [first a inside]
    rw [List.filter_append, none, all, List.append_nil]
  constructor
  · intro perm
    have left := perm.filter (!kind ·)
    have right := perm.filter kind
    rw [firsts first second, firsts first' second'] at left
    rw [seconds first second, seconds first' second'] at right
    exact ⟨left, right⟩
  · rintro ⟨left, right⟩
    exact left.append right

theorem flatMap_filter_perm [DecidableEq β] {key : α → β} {keys : List β} (distinct : keys.Nodup)
    {l : List α} (all : ∀ a ∈ l, key a ∈ keys) : (keys.flatMap fun k => l.filter (key · = k)).Perm l := by
  induction keys generalizing l with
  | nil =>
    obtain rfl := List.eq_nil_iff_forall_not_mem.mpr fun a inside => List.not_mem_nil (all a inside)
    exact .nil
  | cons k keys ih =>
    obtain ⟨fresh, distinct⟩ := List.nodup_cons.mp distinct
    have others : ∀ a ∈ l.filter (fun a => !decide (key a = k)), key a ∈ keys := by
      intro a inside
      obtain ⟨listed, other⟩ := List.mem_filter.mp inside
      exact (List.mem_cons.mp (all a listed)).resolve_left (by simpa using other)
    have rest : (keys.flatMap fun k' => l.filter (key · = k')) =
        keys.flatMap fun k' => (l.filter (fun a => !decide (key a = k))).filter (key · = k') := by
      refine List.flatMap_congr fun k' inside => ?_
      rw [List.filter_filter]
      refine List.filter_congr fun a _ => ?_
      by_cases here : key a = k'
      · have other : k' ≠ k := fun same => fresh (same ▸ inside)
        simp [here, other]
      · simp [here]
    rw [List.flatMap_cons, rest]
    exact ((ih distinct others).append_left _).trans (List.filter_append_perm _ l)

theorem toList_find?_bind [DecidableEq β] {key : α → β} {l : List α} (distinct : (l.map key).Nodup)
    (k : β) (f : α → Option γ) : ((l.find? (key · = k)).bind f).toList =
      l.flatMap fun a => if key a = k then (f a).toList else [] := by
  induction l with
  | nil => rfl
  | cons a l ih =>
    obtain ⟨fresh, distinct⟩ := List.nodup_cons.mp distinct
    rw [List.flatMap_cons]
    by_cases here : key a = k
    · have others : (l.flatMap fun b => if key b = k then (f b).toList else []) = [] := by
        refine List.flatMap_eq_nil_iff.mpr fun b inside => if_neg fun same => fresh ?_
        exact here.trans same.symm ▸ List.mem_map_of_mem inside
      simp [here, others]
    · rw [List.find?_cons_of_neg (by simpa using here), ih distinct, if_neg here, List.nil_append]

theorem join_perm {κ : Type*} [DecidableEq κ] {key : α → κ} {label : β → κ} {l : List α} {m : List β}
    (keys : (l.map key).Nodup) (labels : (m.map label).Nodup) (g : β → α → Option γ) :
    (l.filterMap fun a => (m.find? (label · = key a)).bind (g · a)).Perm
      (m.filterMap fun b => (l.find? (key · = label b)).bind (g b)) := by
  simp only [List.filterMap_eq_flatMap_toList, toList_find?_bind keys, toList_find?_bind labels]
  have swapped := Multiset.bind_bind (l : Multiset α) (m : Multiset β) (f := fun a b =>
    ((if label b = key a then (g b a).toList else [] : List γ) : Multiset γ))
  simp only [Multiset.coe_bind] at swapped
  refine (Multiset.coe_eq_coe.mp swapped).trans (.of_eq ?_)
  simp only [eq_comm]

theorem perm_map_of_determined {f : α → β} {g : α → γ} {l m : List α}
    (determined : ∀ a ∈ l, ∀ b ∈ m, f a = f b → g a = g b) (perm : (l.map f).Perm (m.map f)) :
    (l.map g).Perm (m.map g) := by
  induction l generalizing m with
  | nil =>
    obtain rfl := List.map_eq_nil_iff.mp perm.symm.eq_nil
    exact .nil
  | cons a l ih =>
    obtain ⟨b, member, same⟩ := List.mem_map.mp (perm.subset List.mem_cons_self)
    obtain ⟨before, after, rfl⟩ := List.append_of_mem member
    have moved : (before ++ b :: after).Perm (b :: (before ++ after)) := List.perm_middle
    have rest : (l.map f).Perm ((before ++ after).map f) := by
      have front := perm.trans (moved.map f)
      rw [List.map_cons, List.map_cons, same] at front
      exact front.cons_inv
    have others : ∀ c ∈ l, ∀ d ∈ before ++ after, f c = f d → g c = g d := by
      intro c inside d inside'
      exact determined c (List.mem_cons_of_mem a inside) d
        (moved.symm.subset (List.mem_cons_of_mem b inside'))
    have here : g a = g b := determined a List.mem_cons_self b member same.symm
    rw [List.map_cons, here]
    exact ((ih others rest).cons (g b)).trans (moved.map g).symm

theorem map_eq_of_determined {f : α → β} {g : α → γ} {l m : List α}
    (determined : ∀ a b, f a = f b → g a = g b) (same : l.map f = m.map f) : l.map g = m.map g := by
  induction l generalizing m with
  | nil =>
    obtain rfl := List.map_eq_nil_iff.mp same.symm
    rfl
  | cons a l ih =>
    cases m with
    | nil => cases same
    | cons b m =>
      obtain ⟨here, later⟩ := List.cons.inj same
      rw [List.map_cons, List.map_cons, determined a b here, ih later]

end MinotaurSubnet.Library
