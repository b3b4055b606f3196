import MinotaurSubnet.Library.Dict

/-! # One representative for each key

Of the elements with one key the first of least rank is kept. When no two elements share key and
rank, which elements are kept does not depend on the order they come in.
-/

namespace MinotaurSubnet.Library

variable {α κ ρ : Type*} [DecidableEq κ] [LinearOrder ρ]

section

variable (key : α → κ) (rank : α → ρ)

def keepBest (best : Dict κ α) (a : α) : Dict κ α :=
  match best.get? (key a) with
  | none => best.set (key a) a
  | some current => if rank a < rank current then best.set (key a) a else best

def bestPerKey (items : List α) : List α := (items.foldl (keepBest key rank) .empty).values

end

variable {key : α → κ} {rank : α → ρ}

/-- What the dictionary holds once it has seen some elements: for each of their keys an element of
    least rank. -/
structure Best (key : α → κ) (rank : α → ρ) (seen : List α) (best : Dict κ α) : Prop where
  sound : ∀ k a, best.get? k = some a → a ∈ seen ∧ key a = k
  least : ∀ k a, best.get? k = some a → ∀ b ∈ seen, key b = k → rank a ≤ rank b
  full : ∀ a ∈ seen, (best.get? (key a)).isSome

theorem Best.empty : Best key rank [] .empty where
  sound _ _ found := nomatch found
  least _ _ found := nomatch found
  full _ inside := nomatch inside

theorem Best.replace {seen best} (kept : Best key rank seen best) {a}
    (better : ∀ b ∈ seen, key b = key a → rank a ≤ rank b) :
    Best key rank (seen ++ [a]) (best.set (key a) a) where
  sound k b found := by
    rw [Dict.get?_set] at found
    split at found
    · next same =>
        cases found
        exact ⟨by simp, same.symm⟩
    · obtain ⟨inside, keyed⟩ := kept.sound k b found
      exact ⟨List.mem_append_left _ inside, keyed⟩
  least k b found c inside keyed := by
    rw [Dict.get?_set] at found
    rcases List.mem_append.mp inside with before | now
    · split at found
      · next same =>
          cases found
          exact better c before (keyed.trans same)
      · exact kept.least k b found c before keyed
    · obtain rfl := List.mem_singleton.mp now
      rw [if_pos keyed.symm] at found
      rw [Option.some.inj found]
  full b inside := by
    rw [Dict.get?_set]
    rcases List.mem_append.mp inside with before | now
    · split
      · rfl
      · exact kept.full b before
    · obtain rfl := List.mem_singleton.mp now
      simp

theorem Best.keep {seen best} (kept : Best key rank seen best) {a current}
    (found : best.get? (key a) = some current) (worse : rank current ≤ rank a) :
    Best key rank (seen ++ [a]) best where
  sound k b found :=
    ⟨List.mem_append_left _ (kept.sound k b found).1, (kept.sound k b found).2⟩
  least k b found' c inside keyed := by
    rcases List.mem_append.mp inside with before | now
    · exact kept.least k b found' c before keyed
    · obtain rfl := List.mem_singleton.mp now
      rw [← keyed, found] at found'
      rwa [← Option.some.inj found']
  full b inside := by
    rcases List.mem_append.mp inside with before | now
    · exact kept.full b before
    · obtain rfl := List.mem_singleton.mp now
      simp [found]

theorem Best.step {seen best} (kept : Best key rank seen best) (a : α) :
    Best key rank (seen ++ [a]) (keepBest key rank best a) := by
  unfold keepBest
  split
  · next absent =>
      refine kept.replace fun b inside keyed => ?_
      have present := kept.full b inside
      rw [keyed, absent] at present
      cases present
  · next current found =>
      split
      · next better =>
          exact kept.replace fun b inside keyed => better.le.trans (kept.least _ _ found b inside keyed)
      · next worse =>
          exact kept.keep found (not_lt.mp worse)

theorem best_of_items (items : List α) :
    Best key rank items (items.foldl (keepBest key rank) .empty) := by
  have loop (later : List α) : ∀ seen best, Best key rank seen best →
      Best key rank (seen ++ later) (later.foldl (keepBest key rank) best) := by
    induction later with
    | nil => simp
    | cons a later ih =>
      intro seen best kept
      have next := ih _ _ (kept.step a)
      rwa [List.append_assoc, List.singleton_append] at next
  exact loop items [] .empty Best.empty

theorem mem_of_mem_bestPerKey {items a} (inside : a ∈ bestPerKey key rank items) :
    a ∈ items := by
  obtain ⟨k, found⟩ := Dict.mem_values.mp inside
  exact ((best_of_items items).sound k a found).1

theorem rank_le_of_mem_bestPerKey {items a b} (inside : a ∈ bestPerKey key rank items)
    (listed : b ∈ items) (same : key b = key a) : rank a ≤ rank b := by
  obtain ⟨k, found⟩ := Dict.mem_values.mp inside
  have keyed := ((best_of_items items).sound k a found).2
  exact (best_of_items items).least k a found b listed (same.trans keyed)

theorem exists_mem_bestPerKey {items a} (listed : a ∈ items) :
    ∃ b ∈ bestPerKey key rank items, key b = key a := by
  have kept : Best key rank items _ := best_of_items items
  obtain ⟨b, found⟩ := Option.isSome_iff_exists.mp (kept.full a listed)
  exact ⟨b, Dict.mem_values.mpr ⟨key a, found⟩, (kept.sound _ b found).2⟩

theorem bestPerKey_keys_nodup (items : List α) : ((bestPerKey key rank items).map key).Nodup := by
  let best := items.foldl (keepBest key rank) .empty
  have kept : Best key rank items best := best_of_items items
  have keyed : ∀ entry ∈ best.entries, key entry.2 = entry.1 := fun entry inside =>
    (kept.sound entry.1 entry.2 (Dict.get?_eq_some.mpr inside)).2
  have keys : (bestPerKey key rank items).map key = best.entries.map Prod.fst := by
    show (best.entries.map Prod.snd).map key = best.entries.map Prod.fst
    rw [List.map_map]
    exact List.map_congr_left keyed
  exact keys ▸ best.keysNodup

theorem mem_bestPerKey {items}
    (distinct : ∀ a ∈ items, ∀ b ∈ items, key a = key b → rank a = rank b → a = b) {a} :
    a ∈ bestPerKey key rank items ↔ a ∈ items ∧ ∀ b ∈ items, key b = key a → rank a ≤ rank b := by
  constructor
  · intro inside
    exact ⟨mem_of_mem_bestPerKey inside, fun b listed => rank_le_of_mem_bestPerKey inside listed⟩
  · rintro ⟨listed, least⟩
    obtain ⟨b, inside, same⟩ : ∃ b ∈ bestPerKey key rank items, key b = key a :=
      exists_mem_bestPerKey listed
    have listed' := mem_of_mem_bestPerKey inside
    have ranks := le_antisymm (least b listed' same) (rank_le_of_mem_bestPerKey inside listed same.symm)
    rwa [distinct a listed b listed' same.symm ranks]

theorem bestPerKey_perm {items items'}
    (distinct : ∀ a ∈ items, ∀ b ∈ items, key a = key b → rank a = rank b → a = b)
    (same : ∀ a, a ∈ items ↔ a ∈ items') :
    (bestPerKey key rank items).Perm (bestPerKey key rank items') := by
  have distinct' : ∀ a ∈ items', ∀ b ∈ items', key a = key b → rank a = rank b → a = b :=
    fun a inside b inside' => distinct a ((same a).mpr inside) b ((same b).mpr inside')
  refine (List.perm_ext_iff_of_nodup (bestPerKey_keys_nodup items).of_map
    (bestPerKey_keys_nodup items').of_map).mpr fun a => ?_
  rw [mem_bestPerKey distinct, mem_bestPerKey distinct', same a]
  simp only [same]

end MinotaurSubnet.Library
