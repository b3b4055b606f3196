import Mathlib.Data.List.Forall2
import MinotaurSubnet.Library.Dict

/-! # Read-through caches

A cache in front of a source is faithful when every entry is what the source answers for its
key. It then does not matter what is dropped, refreshed or restored: whatever the cache
serves, the source would have answered too.
-/

namespace MinotaurSubnet.Library

variable {κ α : Type*} [DecidableEq κ]

namespace Dict

/-- The entry of `k` last, as the most recently used one. -/
def refresh (d : Dict κ α) (k : κ) : Dict κ α :=
  match d.get? k with
  | some v => (d.erase k).set k v
  | none => d

/-- The `n` newest entries. -/
def newest (d : Dict κ α) (n : Nat) : Dict κ α := d.dropOldest (d.size - n)

/-- The `n` oldest entries. -/
def oldest (d : Dict κ α) (n : Nat) : Dict κ α where
  entries := d.entries.take n
  keysNodup := d.keysNodup.sublist ((List.take_sublist n d.entries).map Prod.fst)

theorem get?_oldest_some {d : Dict κ α} {n k v} (kept : (d.oldest n).get? k = some v) :
    d.get? k = some v :=
  get?_eq_some.mpr (List.mem_of_mem_take (get?_eq_some.mp kept))

theorem get?_refresh (d : Dict κ α) (k k' : κ) : (d.refresh k).get? k' = d.get? k' := by
  unfold refresh
  cases found : d.get? k with
  | none => rfl
  | some v =>
    rw [get?_set, get?_erase]
    by_cases same : k' = k
    · rw [if_pos same, same, found]
    · rw [if_neg same, if_neg same]

/-- Every entry is what its key stands for. -/
def Faithful (d : Dict κ α) (source : κ → α → Prop) : Prop := ∀ k v, d.get? k = some v → source k v

namespace Faithful

variable {d : Dict κ α} {source : κ → α → Prop} {κ' : Type*} {β : Type*} [DecidableEq κ']

theorem empty : (Dict.empty : Dict κ α).Faithful source := by
  intro k v found
  cases found

theorem set (faithful : d.Faithful source) {k v} (answered : source k v) :
    (d.set k v).Faithful source := by
  intro k' v' found
  rw [get?_set] at found
  split at found
  next same =>
    cases found
    exact same ▸ answered
  next => exact faithful k' v' found

theorem refresh (faithful : d.Faithful source) (k : κ) : (d.refresh k).Faithful source := by
  intro k' v' found
  rw [get?_refresh] at found
  exact faithful k' v' found

theorem dropOldest (faithful : d.Faithful source) (n : Nat) : (d.dropOldest n).Faithful source :=
  fun k v found => faithful k v (get?_dropOldest_some found)

theorem filter (faithful : d.Faithful source) (p : κ → α → Bool) : (d.filter p).Faithful source :=
  fun k v found => faithful k v (get?_filter_some found)

theorem oldest (faithful : d.Faithful source) (n : Nat) : (d.oldest n).Faithful source :=
  fun k v found => faithful k v (get?_oldest_some found)

theorem getD {caches : Dict κ (Dict κ' β)} {inner : κ → κ' → β → Prop}
    (faithful : caches.Faithful fun k cache => cache.Faithful (inner k)) (k : κ) :
    ((caches.get? k).getD Dict.empty).Faithful (inner k) := by
  cases found : caches.get? k with
  | none => exact empty
  | some cache => exact faithful k cache found

theorem newest (faithful : d.Faithful source) (n : Nat) : (d.newest n).Faithful source :=
  faithful.dropOldest _

end Faithful

end Dict

variable {β : Type*} {R : α → β → Prop} {as : List α} {bs : List β}

theorem getElem?_of_forall₂ (side : List.Forall₂ R as bs) (k : Nat) :
    (as[k]? = none ∧ bs[k]? = none) ∨ ∃ a b, as[k]? = some a ∧ bs[k]? = some b ∧ R a b := by
  induction side generalizing k with
  | nil => exact .inl ⟨rfl, rfl⟩
  | cons head _ ih =>
    cases k with
    | zero => exact .inr ⟨_, _, rfl, rfl, head⟩
    | succ k => simpa using ih k

theorem exists_left_of_forall₂ (side : List.Forall₂ R as bs) {b} (inside : b ∈ bs) :
    ∃ a ∈ as, R a b := by
  induction side with
  | nil => cases inside
  | @cons a _ as _ head _ ih =>
    cases inside with
    | head => exact ⟨a, List.mem_cons_self, head⟩
    | tail _ later =>
      obtain ⟨a', before, related⟩ := ih later
      exact ⟨a', List.mem_cons_of_mem _ before, related⟩

theorem forall₂_set (side : List.Forall₂ R as bs) (k : Nat) {a b} (agree : R a b) :
    List.Forall₂ R (as.set k a) (bs.set k b) := by
  induction side generalizing k with
  | nil => exact .nil
  | cons head tail ih =>
    cases k with
    | zero => exact .cons agree tail
    | succ k => exact .cons head (ih k)

theorem forall₂_set_right (side : List.Forall₂ R as bs) {k a b} (left : as[k]? = some a)
    (agree : R a b) : List.Forall₂ R as (bs.set k b) := by
  have same : as.set k a = as := by
    obtain ⟨inside, rfl⟩ := List.getElem?_eq_some_iff.mp left
    exact List.set_getElem_self inside
  rw [← same]
  exact forall₂_set side k agree

end MinotaurSubnet.Library
