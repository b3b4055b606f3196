import MinotaurSubnet.Harness.RoundLifecycle

/-! # What eviction keeps

`_evict_rounds` ranks the rounds that nothing protects and keeps the newest of them, as far
as the protected ones leave room under the cap. A protected id that the store does not know
takes no room.
-/

namespace MinotaurSubnet.Harness.RoundStore

open Library Python

variable {s : RoundStore} {cap : Int} {roundId : String} {r : RoundState}

/-- The current round, the rounds of the standing and the previous champion, and every round
    of the newest epoch. -/
def Protected (s : RoundStore) (roundId : String) (r : RoundState) : Prop :=
  roundId ∈ s.pinned ∨ ∀ other ∈ s.rounds.values, other.openedEpoch ≤ r.openedEpoch

instance : Decidable (s.Protected roundId r) := inferInstanceAs (Decidable (_ ∨ _))

def protectedCount (s : RoundStore) : ℕ :=
  s.rounds.entries.countP fun entry => s.Protected entry.1 entry.2

def age (roundId : String) (r : RoundState) : ℤ ×ₗ ℚ ×ₗ String :=
  toLex (r.openedEpoch, toLex (r.createdAt, roundId))

/-- What an eviction under `cap` leaves of the store. -/
structure Evicts (s : RoundStore) (cap : Int) (s' : RoundStore) : Prop where
  unchanged : ∀ roundId r, s'.rounds.get? roundId = some r → s.rounds.get? roundId = some r
  elsewhere : s' = { s with rounds := s'.rounds }
  protects : ∀ roundId r, s.rounds.get? roundId = some r → s.Protected roundId r →
    s'.rounds.get? roundId = some r
  whole : cap ≤ 0 ∨ (s.rounds.size : Int) ≤ cap → s' = s
  fills : 0 < cap → cap < s.rounds.size → (s'.rounds.size : Int) = max cap s.protectedCount
  oldest : ∀ roundId r kept r', s.rounds.get? roundId = some r → s'.rounds.get? roundId = none →
    s'.rounds.get? kept = some r' → ¬ s.Protected kept r' → age roundId r < age kept r'

theorem maxEpoch_le_iff (found : s.rounds.get? roundId = some r) {epoch} :
    s.maxEpoch ≤ epoch ↔ ∀ other ∈ s.rounds.values, other.openedEpoch ≤ epoch := by
  have member : r.openedEpoch ∈ s.rounds.values.map (·.openedEpoch) :=
    List.mem_map.mpr ⟨r, Dict.mem_values.mpr ⟨roundId, found⟩, rfl⟩
  obtain ⟨newest, greatest⟩ := Option.isSome_iff_exists.mp
    (List.isSome_max?_of_mem member)
  rw [maxEpoch, greatest, Option.getD_some, List.max?_le_iff greatest]
  simp

theorem protected_iff (found : s.rounds.get? roundId = some r) :
    (decide (roundId ∈ s.pinned) || decide (s.maxEpoch ≤ r.openedEpoch)) = true ↔
      s.Protected roundId r := by
  rw [Bool.or_eq_true, decide_eq_true_eq, decide_eq_true_eq, maxEpoch_le_iff found, Protected]

theorem mem_protectedIds :
    roundId ∈ s.protectedIds ↔ ∃ r, s.rounds.get? roundId = some r ∧ s.Protected roundId r := by
  simp only [protectedIds, List.mem_map, List.mem_filter]
  constructor
  · rintro ⟨⟨key, r⟩, ⟨member, guarded⟩, rfl⟩
    have found := Dict.get?_eq_some.mpr member
    exact ⟨r, found, (protected_iff found).mp guarded⟩
  · rintro ⟨r, found, guarded⟩
    exact ⟨(roundId, r), ⟨Dict.get?_eq_some.mp found, (protected_iff found).mpr guarded⟩, rfl⟩

theorem length_protectedIds (s : RoundStore) : s.protectedIds.length = s.protectedCount := by
  rw [protectedIds, List.length_map, ← List.countP_eq_length_filter, protectedCount]
  apply List.countP_congr
  rintro ⟨key, r⟩ member
  rw [protected_iff (Dict.get?_eq_some.mpr member), decide_eq_true_eq]

theorem protectedIds_nodup (s : RoundStore) : s.protectedIds.Nodup :=
  s.rounds.keysNodup.sublist (List.filter_sublist.map Prod.fst)

def rankedEntries (s : RoundStore) : List (String × RoundState) :=
  sortedBy (fun entry : String × RoundState => OrderDual.toDual (age entry.1 entry.2))
    (s.rounds.entries.filter fun entry => decide (entry.1 ∉ s.protectedIds))

theorem ranked_eq (s : RoundStore) : s.ranked = s.rankedEntries.map Prod.fst := rfl

theorem mem_rankedEntries :
    (roundId, r) ∈ s.rankedEntries ↔ s.rounds.get? roundId = some r ∧ ¬ s.Protected roundId r := by
  rw [rankedEntries, mem_sortedBy, List.mem_filter, ← Dict.get?_eq_some, decide_eq_true_eq,
    mem_protectedIds]
  constructor
  · rintro ⟨found, unprotected⟩
    exact ⟨found, fun guarded => unprotected ⟨r, found, guarded⟩⟩
  · rintro ⟨found, unprotected⟩
    refine ⟨found, ?_⟩
    rintro ⟨r', found', guarded⟩
    cases found.symm.trans found'
    exact unprotected guarded

theorem ranked_nodup (s : RoundStore) : s.ranked.Nodup := by
  rw [ranked_eq, rankedEntries, ((sortedBy_perm _ _).map Prod.fst).nodup_iff]
  exact s.rounds.keysNodup.sublist (List.filter_sublist.map Prod.fst)

theorem length_ranked (s : RoundStore) : s.ranked.length + s.protectedCount = s.rounds.size := by
  have split : s.rounds.entries.length = s.protectedCount +
      s.rounds.entries.countP fun entry => ¬ decide (s.Protected entry.1 entry.2) :=
    List.length_eq_countP_add_countP _
  have rest : s.ranked.length =
      s.rounds.entries.countP fun entry => ¬ decide (s.Protected entry.1 entry.2) := by
    rw [ranked_eq, List.length_map, rankedEntries, (sortedBy_perm _ _).length_eq,
      ← List.countP_eq_length_filter]
    apply List.countP_congr
    rintro ⟨key, r⟩ member
    have found := Dict.get?_eq_some.mpr member
    simp [mem_protectedIds]
    simp [found]
  rw [rest, Dict.size, split]
  omega

theorem mem_keys_of_mem_ranked (member : roundId ∈ s.ranked) : roundId ∈ s.rounds.keys := by
  rw [ranked_eq] at member
  obtain ⟨⟨key, r⟩, entry, rfl⟩ := List.mem_map.mp member
  exact Dict.mem_keys.mpr ⟨r, (mem_rankedEntries.mp entry).1⟩

theorem mem_keys_of_mem_survivors (member : roundId ∈ s.survivors cap) : roundId ∈ s.rounds.keys := by
  unfold survivors at member
  cases List.mem_append.mp member with
  | inl guarded =>
    obtain ⟨r, found, _⟩ := mem_protectedIds.mp guarded
    exact Dict.mem_keys.mpr ⟨r, found⟩
  | inr ranked =>
    split at ranked
    · exact mem_keys_of_mem_ranked (List.mem_of_mem_take ranked)
    · cases ranked

theorem survivors_nodup (s : RoundStore) (cap : Int) : (s.survivors cap).Nodup := by
  unfold survivors
  dsimp only
  split
  · apply List.nodup_append.mpr
    refine ⟨protectedIds_nodup s, (ranked_nodup s).sublist (List.take_sublist _ _), ?_⟩
    rintro key guarded _ taken rfl
    obtain ⟨⟨_, r⟩, entry, rfl⟩ := List.mem_map.mp (List.mem_of_mem_take taken)
    obtain ⟨found, unprotected⟩ := mem_rankedEntries.mp entry
    obtain ⟨r', found', guarded⟩ := mem_protectedIds.mp guarded
    cases found.symm.trans found'
    exact unprotected guarded
  · rw [List.append_nil]
    exact protectedIds_nodup s

theorem length_survivors (full : cap < s.rounds.size) :
    ((s.survivors cap).length : Int) = max cap s.protectedCount := by
  have ranked := length_ranked s
  unfold survivors
  rw [List.length_append, length_protectedIds]
  split
  · rw [List.length_take]
    omega
  · rw [List.length_nil]
    omega

theorem mem_take_of_survivor (found : s.rounds.get? roundId = some r) (unprotected : ¬ s.Protected roundId r)
    (member : roundId ∈ s.survivors cap) :
    0 < cap - s.protectedIds.length ∧
      (roundId, r) ∈ s.rankedEntries.take (cap - s.protectedIds.length).toNat := by
  unfold survivors at member
  cases List.mem_append.mp member with
  | inl guarded =>
    obtain ⟨r', found', guarded⟩ := mem_protectedIds.mp guarded
    cases found.symm.trans found'
    exact absurd guarded unprotected
  | inr taken =>
    split at taken
    · next room =>
      refine ⟨room, ?_⟩
      rw [ranked_eq, ← List.map_take] at taken
      obtain ⟨⟨_, r'⟩, entry, rfl⟩ := List.mem_map.mp taken
      obtain ⟨found', _⟩ := mem_rankedEntries.mp (List.mem_of_mem_take entry)
      cases found.symm.trans found'
      exact entry
    · cases taken

theorem age_lt_of_evicted {kept r'} (found : s.rounds.get? roundId = some r)
    (evicted : roundId ∉ s.survivors cap) (found' : s.rounds.get? kept = some r')
    (unprotected : ¬ s.Protected kept r') (survives : kept ∈ s.survivors cap) :
    age roundId r < age kept r' := by
  obtain ⟨room, taken⟩ := mem_take_of_survivor found' unprotected survives
  have ranked : (roundId, r) ∈ s.rankedEntries := by
    apply mem_rankedEntries.mpr
    refine ⟨found, fun guarded => evicted ?_⟩
    exact List.mem_append_left _ (mem_protectedIds.mpr ⟨r, found, guarded⟩)
  have left : (roundId, r) ∈ s.rankedEntries.drop (cap - s.protectedIds.length).toNat := by
    rw [← List.take_append_drop (cap - s.protectedIds.length).toNat s.rankedEntries] at ranked
    cases List.mem_append.mp ranked with
    | inr left => exact left
    | inl taken =>
      refine absurd (List.mem_append_right _ ?_) evicted
      rw [if_pos room, ranked_eq, ← List.map_take]
      exact List.mem_map.mpr ⟨_, taken, rfl⟩
  have older : age roundId r ≤ age kept r' := key_le_of_mem_take_drop taken left
  refine lt_of_le_of_ne older fun same => evicted ?_
  have sameId : roundId = kept := congrArg (fun key => (ofLex (ofLex key).2).2) same
  exact sameId ▸ survives

theorem evicts_self (fits : ¬ (0 < cap ∧ cap < s.rounds.size) ∨ (s.rounds.size : Int) = max cap s.protectedCount) :
    s.Evicts cap s where
  unchanged _ _ found := found
  elsewhere := rfl
  protects _ _ found _ := found
  whole _ := rfl
  fills positive full := by
    cases fits with
    | inl inside => exact absurd ⟨positive, full⟩ inside
    | inr same => exact same
  oldest _ _ _ _ found evicted _ _ := by
    rw [found] at evicted
    cases evicted

/-- Eviction protects what it should, forgets nothing while the store fits, and otherwise
    leaves as many rounds as the cap and the protected ones ask for, the newest ones. -/
theorem evictRounds_evicts (s : RoundStore) (cap : Int) : s.Evicts cap (s.evictRounds cap) := by
  unfold evictRounds
  split
  · next fits =>
    apply evicts_self
    left
    omega
  · next full =>
    obtain ⟨positive, full⟩ := not_or.mp full
    have length := @length_survivors s cap (by omega)
    split
    · next complete =>
      apply evicts_self
      right
      have ranked := length_ranked s
      omega
    · constructor
      · exact fun _ _ kept => Dict.get?_filter_some kept
      · rfl
      · intro roundId r found guarded
        have survives : roundId ∈ s.survivors cap :=
          List.mem_append_left _ (mem_protectedIds.mpr ⟨r, found, guarded⟩)
        rw [Dict.get?_filter_key, if_pos (decide_eq_true survives), found]
      · intro fits
        omega
      · intro _ _
        rw [Dict.size_filter_mem (survivors_nodup s cap) fun _ => mem_keys_of_mem_survivors, length]
      · intro roundId r kept r' found evicted survives unprotected
        simp only [Dict.get?_filter_key, decide_eq_true_eq] at evicted survives
        split at evicted
        · rw [found] at evicted
          cases evicted
        · next gone =>
          split at survives
          · next stays => exact age_lt_of_evicted found gone survives unprotected stays
          · cases survives

end MinotaurSubnet.Harness.RoundStore
