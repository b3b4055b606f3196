import Mathlib
import MinotaurSubnet.Harness.RoundLifecycle
import MinotaurSubnet.Library.Machine

/-! # Fresh round ids

Ids are minted from the number of known rounds of the epoch. That number is a fresh
suffix as long as no suffix of the epoch exceeds it, which adopting a round out of turn
and evicting a part of the epoch can both break.
-/

namespace MinotaurSubnet.Harness

open Library Python Consensus

theorem n_not_mem_repr (k : ℕ) : 'n' ∉ k.repr.toList := by
  intro member
  rw [Nat.toList_repr] at member
  have digit := Nat.isDigit_of_mem_toDigits (by omega) (by omega) member
  exact absurd digit (by decide)

theorem n_not_mem_toString (epoch : Int) : 'n' ∉ (toString epoch).toList := by
  change 'n' ∉ epoch.repr.toList
  rw [Int.repr_eq_if]
  split
  · exact n_not_mem_repr _
  · rw [String.toList_append, List.mem_append, not_or]
    exact ⟨by decide, n_not_mem_repr _⟩

theorem roundIdOf_inj {epoch epoch' k k'}
    (same : RoundStore.roundIdOf epoch k = RoundStore.roundIdOf epoch' k') :
    epoch = epoch' ∧ k = k' := by
  have chars := congrArg String.toList same
  simp only [RoundStore.roundIdOf, String.toList_append, List.append_assoc, List.append_cancel_left_eq]
    at chars
  change (toString epoch).toList ++ ('-' :: 'n' :: (toString k).toList) =
    (toString epoch').toList ++ ('-' :: 'n' :: (toString k').toList) at chars
  have split : ((toString epoch).toList ++ ['-']) ++ 'n' :: (toString k).toList =
      ((toString epoch').toList ++ ['-']) ++ 'n' :: (toString k').toList := by
    simpa using chars
  have fence : 'n' ∉ (toString epoch).toList ++ ['-'] := by
    rw [List.mem_append, not_or]
    exact ⟨n_not_mem_toString epoch, by decide⟩
  obtain ⟨epochs, _, suffixes⟩ :=
    (List.append_cons_inj_of_notMem fence (n_not_mem_repr k)).mp split
  constructor
  · apply Int.repr_injective
    apply String.toList_inj.mp
    exact (List.append_left_inj _).mp epochs
  · apply Nat.repr_injective
    exact String.toList_inj.mp suffixes

namespace RoundStore

variable {s s' : RoundStore} {exempt : List Int}

theorem epochCount_rewrite {roundId r r'} (found : s.rounds.get? roundId = some r)
    (records : s'.rounds = s.rounds.set roundId r') (sameEpoch : r'.openedEpoch = r.openedEpoch)
    (epoch : Int) :
    s'.epochCount epoch = s.epochCount epoch := by
  unfold epochCount
  rw [records]
  exact Dict.countP_set_of_some found (by rw [sameEpoch])

theorem epochCount_insert {roundId r} (absent : s.rounds.get? roundId = none)
    (records : s'.rounds = s.rounds.set roundId r) (epoch : Int) :
    s'.epochCount epoch = s.epochCount epoch + if r.openedEpoch = epoch then 1 else 0 := by
  unfold epochCount
  rw [records, Dict.countP_set_of_none r absent]
  simp

theorem supersede_records (s : RoundStore) (roundId : String) :
    (s.supersede roundId).rounds = s.rounds ∨ ∃ key r r', s.rounds.get? key = some r ∧
      (s.supersede roundId).rounds = s.rounds.set key r' ∧ r'.openedEpoch = r.openedEpoch := by
  unfold supersede
  split
  · next current pointer =>
    split
    · obtain ⟨key, currentKey, _, record⟩ := getCurrentRound_some pointer
      rw [currentKey]
      exact Or.inr ⟨key, current, _, record, rfl, rfl⟩
    · exact Or.inl rfl
  · exact Or.inl rfl

/-- Every record sits under an id of its epoch, with a suffix that is at most the number
    of rounds of the epoch unless the epoch is exempt. -/
def Numbered (s : RoundStore) (exempt : List Int) : Prop :=
  ∀ roundId r, s.rounds.get? roundId = some r →
    ∃ k, roundId = roundIdOf r.openedEpoch k ∧
      (r.openedEpoch ∉ exempt → k ≤ s.epochCount r.openedEpoch)

variable {s : RoundStore}

theorem Numbered.fresh {epoch} (numbered : s.Numbered exempt) (whole : epoch ∉ exempt) :
    s.rounds.get? (s.buildRoundId epoch) = none := by
  cases found : s.rounds.get? (s.buildRoundId epoch) with
  | none => rfl
  | some r =>
    obtain ⟨k, same, bound⟩ := numbered _ r found
    obtain ⟨sameEpoch, suffix⟩ := roundIdOf_inj same
    rw [← sameEpoch, ← suffix] at bound
    have short := bound whole
    omega

theorem Numbered.rewrite {roundId r r'} (numbered : s.Numbered exempt)
    (found : s.rounds.get? roundId = some r) (records : s'.rounds = s.rounds.set roundId r')
    (sameEpoch : r'.openedEpoch = r.openedEpoch) :
    s'.Numbered exempt := by
  intro key state member
  rw [epochCount_rewrite found records sameEpoch]
  rw [records, Dict.get?_set] at member
  split at member
  · next same =>
    cases member
    rw [sameEpoch, same]
    exact numbered roundId r found
  · exact numbered key state member

theorem Numbered.insert {epoch k r} (numbered : s.Numbered exempt)
    (absent : s.rounds.get? (roundIdOf epoch k) = none)
    (records : s'.rounds = s.rounds.set (roundIdOf epoch k) r) (opened : r.openedEpoch = epoch)
    (inTurn : k ≤ s.epochCount epoch + 1) : s'.Numbered exempt := by
  intro key state member
  rw [epochCount_insert absent records]
  rw [records, Dict.get?_set] at member
  split at member
  · next same =>
    cases member
    rw [if_pos rfl, opened]
    exact ⟨k, same, fun _ => inTurn⟩
  · obtain ⟨j, named, bound⟩ := numbered key state member
    exact ⟨j, named, fun whole => (bound whole).trans (Nat.le_add_right _ _)⟩

theorem Numbered.congr (numbered : s.Numbered exempt) (records : s'.rounds = s.rounds) :
    s'.Numbered exempt := by
  unfold Numbered epochCount at *
  rw [records]
  exact numbered

theorem Numbered.supersede (numbered : s.Numbered exempt) (roundId : String) :
    (s.supersede roundId).Numbered exempt := by
  cases s.supersede_records roundId with
  | inl same => exact numbered.congr same
  | inr rewritten =>
    obtain ⟨key, r, r', found, records, sameEpoch⟩ := rewritten
    exact numbered.rewrite found records sameEpoch

theorem supersede_get?_isSome (s : RoundStore) (roundId key : String) :
    ((s.supersede roundId).rounds.get? key).isSome = (s.rounds.get? key).isSome := by
  cases s.supersede_records roundId with
  | inl same => rw [same]
  | inr rewritten =>
    obtain ⟨other, r, r', found, records, _⟩ := rewritten
    rw [records, Dict.get?_set]
    split
    · next same => simp [same, found]
    · rfl

theorem supersede_epochCount (s : RoundStore) (roundId : String) (epoch : Int) :
    (s.supersede roundId).epochCount epoch = s.epochCount epoch := by
  cases s.supersede_records roundId with
  | inl same => rw [epochCount, epochCount, same]
  | inr rewritten =>
    obtain ⟨key, r, r', found, records, sameEpoch⟩ := rewritten
    exact epochCount_rewrite found records sameEpoch epoch

theorem syncIncumbent?_openedEpoch (r : RoundState) (incumbent : Option ChampionSnapshot) :
    (r.syncIncumbent? incumbent).openedEpoch = r.openedEpoch := by
  cases incumbent <;> rfl

theorem Numbered.adoptRoundWith {k openedEpoch} (numbered : s.Numbered exempt)
    (inTurn : s.rounds.get? (roundIdOf openedEpoch k) = none → k ≤ s.epochCount openedEpoch + 1)
    (status : RoundStatus) (incumbent : Option ChampionSnapshot) (fields : RoundFields) (now : ℚ) :
    (s.adoptRoundWith (roundIdOf openedEpoch k) openedEpoch status incumbent fields now).Numbered
      exempt := by
  have before := numbered.supersede (roundIdOf openedEpoch k)
  have opened : ∀ r : RoundState, r.openedEpoch = openedEpoch →
      ((r.assign fields).syncIncumbent? incumbent).openedEpoch = openedEpoch := by
    intro r epoch
    rw [syncIncumbent?_openedEpoch]
    exact epoch
  cases known : (s.supersede (roundIdOf openedEpoch k)).rounds.get? (roundIdOf openedEpoch k) with
  | none =>
    have absent : s.rounds.get? (roundIdOf openedEpoch k) = none := by
      have same := supersede_get?_isSome s (roundIdOf openedEpoch k) (roundIdOf openedEpoch k)
      rw [known] at same
      exact Option.not_isSome_iff_eq_none.mp (by simp [← same])
    apply before.insert known rfl
    · apply opened
      rw [known]
    · rw [supersede_epochCount]
      exact inTurn absent
  | some old =>
    obtain ⟨_, same, _⟩ := before _ old known
    apply before.rewrite known rfl
    rw [← (roundIdOf_inj same).1]
    apply opened
    rw [known]

def Op.AdoptsLeaderId : Op → Prop
  | .adoptRound roundId openedEpoch _ _ _ => ∃ k, roundId = roundIdOf openedEpoch k
  | _ => True

def Op.AdoptsInTurn (s : RoundStore) : Op → Prop
  | .adoptRound roundId openedEpoch _ _ _ => ∀ k, roundId = roundIdOf openedEpoch k →
      s.rounds.get? roundId = none → k ≤ s.epochCount openedEpoch + 1
  | _ => True

def Op.OpensOutside (s : RoundStore) (epochs : List Int) : Op → Prop
  | .ensureOpenRound openedEpoch _ | .openNextRound openedEpoch _ =>
    s.currentIsOpen = false → openedEpoch ∉ epochs
  | _ => True

theorem Numbered.change {now op} (numbered : s.Numbered exempt) (leader : op.AdoptsLeaderId)
    (inTurn : op.AdoptsInTurn s) (outside : op.OpensOutside s exempt)
    (change : s.Change now op s') : s'.Numbered exempt := by
  cases change with
  | records same current => exact numbered.congr same
  | rewrite key r r' found records current how =>
    exact numbered.rewrite found records how.sameEpoch
  | opened openedEpoch incumbent call idle result =>
    have whole : openedEpoch ∉ exempt := by
      cases call with
      | inl ensured =>
        subst ensured
        exact outside idle
      | inr next =>
        subst next
        exact outside idle
    subst result
    apply numbered.insert (numbered.fresh whole) rfl
    · exact syncIncumbent?_openedEpoch _ incumbent
    · exact le_refl _
  | adopted roundId openedEpoch status incumbent fields call result =>
    subst call result
    obtain ⟨k, rfl⟩ := leader
    exact numbered.adoptRoundWith (inTurn k rfl) status incumbent fields now

def evictedEpochs (before after : RoundStore) : List Int :=
  (before.rounds.entries.filter fun entry => (after.rounds.get? entry.1).isNone).map
    fun entry => entry.2.openedEpoch

/-- The epochs that lost some of their rounds and still have others. -/
def thin (thinned : List Int) (before after : RoundStore) : List Int :=
  (thinned ++ evictedEpochs before after).filter fun epoch => after.epochCount epoch != 0

theorem epochCount_pos {roundId r} (found : s.rounds.get? roundId = some r) :
    s.epochCount r.openedEpoch ≠ 0 := by
  apply Nat.pos_iff_ne_zero.mp
  apply List.countP_pos_iff.mpr
  exact ⟨r, Dict.mem_values.mpr ⟨roundId, found⟩, by simp⟩

theorem epochCount_evictRounds {cap epoch} (whole : epoch ∉ evictedEpochs s (s.evictRounds cap)) :
    (s.evictRounds cap).epochCount epoch = s.epochCount epoch := by
  have kept : ∀ roundId r, s.rounds.get? roundId = some r → r.openedEpoch = epoch →
      ((s.evictRounds cap).rounds.get? roundId).isSome := by
    intro roundId r found opened
    by_contra lost
    apply whole
    apply List.mem_map.mpr
    refine ⟨(roundId, r), List.mem_filter.mpr ⟨Dict.get?_eq_some.mp found, ?_⟩, opened⟩
    simpa using lost
  unfold evictRounds at kept ⊢
  split
  · rfl
  · next excess =>
    rw [if_neg excess] at kept
    split
    · rfl
    · next fewer =>
      rw [if_neg fewer] at kept
      apply Dict.countP_filter_of_kept
      intro roundId r found counted
      have survives := kept roundId r found (by simpa using counted)
      simp only [Dict.get?_filter, found, Option.filter_some] at survives
      by_contra lost
      rw [if_neg lost] at survives
      cases survives

end RoundStore

theorem RoundPersistence.epochCount_evict {s : RoundStore} {p : RoundPersistence} {epoch}
    (whole : epoch ∉ RoundStore.evictedEpochs s (p.evict s)) :
    (p.evict s).epochCount epoch = s.epochCount epoch := by
  unfold RoundPersistence.evict at whole ⊢
  split
  · next path =>
    rw [if_pos path] at whole
    exact RoundStore.epochCount_evictRounds whole
  · rfl

theorem RoundStore.Numbered.evict {s : RoundStore} {thinned} (p : RoundPersistence)
    (numbered : s.Numbered thinned) :
    (p.evict s).Numbered (RoundStore.thin thinned s (p.evict s)) := by
  intro roundId r kept
  obtain ⟨k, named, bound⟩ := numbered roundId r (p.evict_some kept)
  refine ⟨k, named, fun outside => ?_⟩
  have whole : r.openedEpoch ∉ thinned ++ evictedEpochs s (p.evict s) := by
    intro member
    apply outside
    exact List.mem_filter.mpr ⟨member, by simpa using epochCount_pos kept⟩
  rw [List.mem_append, not_or] at whole
  rw [p.epochCount_evict whole.2]
  exact bound whole.1

/-- A store in memory together with the epochs that eviction thinned so far. -/
structure RoundHistory where
  store : RoundStore := {}
  thinned : List Int := []

namespace RoundHistory

def step (p : RoundPersistence) (h : RoundHistory) (call : RoundStore.Op × ℚ) :
    RoundHistory × Option PyError :=
  match h.store.run call.2 call.1 with
  | .error e => (h, some e)
  | .ok none => (h, none)
  | .ok (some s) =>
    ({ store := p.evict s, thinned := RoundStore.thin h.thinned s (p.evict s) }, none)

/-- Adoptions take leader ids, unknown ones in turn, and no round is opened in a thinned
    epoch. -/
structure InTurn (h : RoundHistory) (call : RoundStore.Op × ℚ) : Prop where
  leader : call.1.AdoptsLeaderId
  adopts : call.1.AdoptsInTurn h.store
  opens : call.1.OpensOutside h.store h.thinned

def OpensFresh (h : RoundHistory) (call : RoundStore.Op × ℚ) : Prop :=
  ∀ openedEpoch incumbent, (call.1 = .ensureOpenRound openedEpoch incumbent ∨
      call.1 = .openNextRound openedEpoch incumbent) → h.store.currentIsOpen = false →
    h.store.rounds.get? (h.store.buildRoundId openedEpoch) = none ∧
      ∀ roundId r, h.store.rounds.get? roundId = some r →
        (h.store.openRound openedEpoch incumbent call.2).rounds.get? roundId = some r

theorem numbered_step {p} {h : RoundHistory} {call} (numbered : h.store.Numbered h.thinned)
    (inTurn : h.InTurn call) :
    (h.step p call).1.store.Numbered (h.step p call).1.thinned := by
  simp only [step]
  split
  · exact numbered
  · exact numbered
  · next s ran =>
    have after := numbered.change inTurn.leader inTurn.adopts inTurn.opens
      (RoundStore.run_change ran)
    exact after.evict p

end RoundHistory

/-- In a run whose calls are all in turn, every opened round is fresh. -/
theorem opened_round_is_fresh (p : RoundPersistence) (h : RoundHistory)
    (reached : Reaches (RoundHistory.step p) RoundHistory.InTurn {} h)
    (call : RoundStore.Op × ℚ) (inTurn : h.InTurn call) : h.OpensFresh call := by
  have numbered : h.store.Numbered h.thinned := by
    apply reached.invariant fun h => h.store.Numbered h.thinned
    · intro roundId r found
      simp at found
    · intro h call numbered inTurn
      exact RoundHistory.numbered_step numbered inTurn
  intro openedEpoch incumbent opening idle
  have whole : openedEpoch ∉ h.thinned := by
    have outside := inTurn.opens
    cases opening with
    | inl ensured =>
      rw [ensured] at outside
      exact outside idle
    | inr next =>
      rw [next] at outside
      exact outside idle
  have fresh := numbered.fresh whole
  refine ⟨fresh, fun roundId r found => ?_⟩
  have other : roundId ≠ h.store.buildRoundId openedEpoch := by
    intro same
    rw [same, fresh] at found
    cases found
  exact (Dict.get?_set_ne _ _ other).trans found

def closedHistory : RoundHistory :=
  runEvents (RoundHistory.step ⟨true, 2000⟩) {}
    [(.ensureOpenRound 5 none, 300), (.closeCurrentRound { closeEpoch := some 5 }, 301)]

theorem opened_round_is_fresh_second_round :
    closedHistory.store.buildRoundId 5 = "round-e5-n2" ∧
      closedHistory.OpensFresh (.openNextRound 5 none, 302) := by
  have opening : RoundHistory.InTurn {} (.ensureOpenRound 5 none, 300) :=
    ⟨trivial, trivial, fun _ => by decide⟩
  have reached : Reaches (RoundHistory.step ⟨true, 2000⟩) RoundHistory.InTurn {} closedHistory := by
    have first : Reaches (RoundHistory.step ⟨true, 2000⟩) RoundHistory.InTurn {} _ :=
      .next (RoundStore.Op.ensureOpenRound 5 none, 300) .refl opening
    exact .next (RoundStore.Op.closeCurrentRound { closeEpoch := some 5 }, 301) first
      ⟨trivial, trivial, trivial⟩
  constructor
  · decide +kernel
  · exact opened_round_is_fresh ⟨true, 2000⟩ closedHistory reached _
      ⟨trivial, trivial, fun _ => by decide +kernel⟩

def skippedHistory : RoundHistory :=
  runEvents (RoundHistory.step ⟨true, 2000⟩) {}
    [(.adoptRound "round-e5-n2" 5 .closed none {}, 300)]

theorem opened_round_overwrites_adopted :
    ¬ ∀ (p : RoundPersistence) (h : RoundHistory),
      Reaches (RoundHistory.step p) (fun _ call => call.1.AdoptsLeaderId) {} h →
      ∀ call, call.1.AdoptsLeaderId → h.OpensFresh call := by
  intro claim
  have leader : RoundStore.Op.AdoptsLeaderId (.adoptRound "round-e5-n2" 5 .closed none {}) :=
    ⟨2, by decide⟩
  have reached : Reaches (RoundHistory.step ⟨true, 2000⟩)
      (fun _ call => call.1.AdoptsLeaderId) {} skippedHistory := by
    apply reaches_runEvents_of
    intro call member h
    obtain rfl := List.mem_singleton.mp member
    exact leader
  have fresh := claim ⟨true, 2000⟩ skippedHistory reached (.ensureOpenRound 5 none, 301) trivial 5 none
    (Or.inl rfl) (by decide +kernel)
  have known : (skippedHistory.store.rounds.get? (skippedHistory.store.buildRoundId 5)).isSome =
      true := by decide +kernel
  rw [fresh.1] at known
  cases known

end MinotaurSubnet.Harness
