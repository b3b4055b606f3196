import MinotaurSubnet.Harness.RoundLifecycle
import MinotaurSubnet.Library.Machine

/-! # Fork pins stay fixed

Once set, the fork pins of a round are folded into the signed pack hash, so
`set_round_fork_pins` refuses to replace them by different ones. They stay as long as
they are not cleared on purpose, no adoption carries pins of its own and the record
itself stays in the store.
-/

namespace MinotaurSubnet.Harness

open Library

theorem sameItems.trans {d e f} (first : sameItems d e) (second : sameItems e f) :
    sameItems d f := List.Perm.trans first second

theorem truthyPins_of_sameItems {pins held} (nonempty : held.entries ≠ [])
    (same : sameItems pins held) : truthyPins (some pins) = some pins := by
  have truthy : pins.entries ≠ [] := by
    intro empty
    have perm : pins.entries.Perm held.entries := same
    rw [empty] at perm
    exact nonempty perm.nil_eq.symm
  simp [truthyPins, truthy]

namespace RoundStore

/-- The round's pins are `held`. -/
def PinnedTo (s : RoundStore) (roundId : String) (held : Dict Int Int) : Prop :=
  ∃ r pins, s.rounds.get? roundId = some r ∧ r.forkPins = some pins ∧ sameItems pins held

theorem supersede_forkPins {s : RoundStore} {k} {r : RoundState} (roundId : String)
    (found : s.rounds.get? k = some r) :
    ∃ r', (s.supersede roundId).rounds.get? k = some r' ∧ r'.forkPins = r.forkPins := by
  unfold supersede
  split
  · next current pointer =>
    split
    · obtain ⟨key, currentKey, _, record⟩ := getCurrentRound_some pointer
      by_cases same : k = key
      · subst same
        rw [found] at record
        cases record
        simp only [currentKey, Option.getD_some, Dict.get?_set_self]
        exact ⟨_, rfl, rfl⟩
      · simp only [currentKey, Option.getD_some]
        rw [Dict.get?_set_ne _ _ same]
        exact ⟨r, found, rfl⟩
    · exact ⟨r, found, rfl⟩
  · exact ⟨r, found, rfl⟩

theorem PinnedTo.adoptRoundWith {s : RoundStore} {roundId k held} (pinned : s.PinnedTo k held)
    {fields : RoundFields} (silent : roundId = k → fields.forkPins = none) (openedEpoch : Int)
    (status : RoundStatus) (incumbent : Option ChampionSnapshot) (now : ℚ) :
    (s.adoptRoundWith roundId openedEpoch status incumbent fields now).PinnedTo k held := by
  obtain ⟨r, pins, found, holds, same⟩ := pinned
  obtain ⟨r', kept, keeps⟩ := supersede_forkPins roundId found
  by_cases mine : roundId = k
  · subst mine
    refine ⟨_, pins, Dict.get?_set_self _ _ _, ?_, same⟩
    rw [kept]
    cases incumbent with
    | none => simp [RoundState.syncIncumbent?, RoundState.assign, silent rfl, keeps, holds]
    | some champion =>
      simp [RoundState.syncIncumbent?, RoundState.syncIncumbent, RoundState.assign, silent rfl,
        keeps, holds]
  · refine ⟨r', pins, ?_, keeps.trans holds, same⟩
    simp only [RoundStore.adoptRoundWith]
    rw [Dict.get?_set_ne _ _ (Ne.symm mine)]
    exact kept

/-- A call that neither clears the pins of `roundId`, nor adopts it with pins, nor opens
    another round under its id. -/
def Op.LeavesPins (s : RoundStore) (roundId : String) : Op → Prop
  | .setRoundForkPins k pins => k = roundId → (truthyPins pins).isSome
  | .adoptRound k _ _ _ fields => k = roundId → fields.forkPins = none
  | .ensureOpenRound openedEpoch _ | .openNextRound openedEpoch _ =>
    s.currentIsOpen = false → s.buildRoundId openedEpoch ≠ roundId
  | _ => True

theorem PinnedTo.change {s s' : RoundStore} {now} {op : Op} {roundId} {held : Dict Int Int}
    (nonempty : held.entries ≠ []) (pinned : s.PinnedTo roundId held)
    (leaves : op.LeavesPins s roundId) (change : s.Change now op s') :
    s'.PinnedTo roundId held := by
  cases change with
  | records same current =>
    obtain ⟨r, pins, found, rest⟩ := pinned
    exact ⟨r, pins, same ▸ found, rest⟩
  | rewrite key r r' found records current how =>
    obtain ⟨old, pins, record, holds, same⟩ := pinned
    by_cases mine : key = roundId
    · subst mine
      rw [record] at found
      obtain rfl := Option.some.inj found
      have now' : s'.rounds.get? key = some r' := by
        rw [records]
        exact Dict.get?_set_self _ _ _
      cases how.forkPins with
      | inl kept => exact ⟨r', pins, now', kept.trans holds, same⟩
      | inr set =>
        obtain ⟨given, rfl, written, agrees⟩ := set
        obtain ⟨newPins, truthy⟩ := Option.isSome_iff_exists.mp (leaves rfl)
        have existing : truthyPins old.forkPins = some pins := by
          rw [holds]
          exact truthyPins_of_sameItems nonempty same
        exact ⟨r', newPins, now', written.trans truthy,
          (agrees pins newPins existing truthy).trans same⟩
    · refine ⟨old, pins, ?_, holds, same⟩
      rw [records, Dict.get?_set_ne _ _ (Ne.symm mine)]
      exact record
  | opened openedEpoch incumbent call idle result =>
    subst result
    obtain ⟨r, pins, found, rest⟩ := pinned
    have other : s.buildRoundId openedEpoch ≠ roundId := by
      cases call with
      | inl ensured =>
        subst ensured
        exact leaves idle
      | inr next =>
        subst next
        exact leaves idle
    refine ⟨r, pins, ?_, rest⟩
    simp only [RoundStore.openRound]
    rw [Dict.get?_set_ne _ _ (Ne.symm other)]
    exact found
  | adopted key openedEpoch status incumbent fields call result =>
    subst call result
    exact pinned.adoptRoundWith leaves openedEpoch status incumbent now

theorem PinnedTo.load {file : RoundStore} {roundId} {held : Dict Int Int}
    (nonempty : held.entries ≠ []) (pinned : file.PinnedTo roundId held) (now : ℚ) :
    (file.load now).PinnedTo roundId held := by
  obtain ⟨r, pins, found, holds, same⟩ := pinned
  refine ⟨reparse now r, pins, ?_, ?_, same⟩
  · simp [RoundStore.load, Dict.get?_mapValues, found]
  · simp only [reparse, holds]
    exact truthyPins_of_sameItems nonempty same

end RoundStore

theorem RoundPersistence.pinnedTo_evict {s roundId held} (p : RoundPersistence)
    (pinned : s.PinnedTo roundId held) (stays : ((p.evict s).rounds.get? roundId).isSome) :
    (p.evict s).PinnedTo roundId held := by
  obtain ⟨r, pins, found, rest⟩ := pinned
  obtain ⟨r', kept⟩ := Option.isSome_iff_exists.mp stays
  have same : s.rounds.get? roundId = some r' := RoundPersistence.evict_some kept
  rw [found] at same
  cases same
  exact ⟨r, pins, kept, rest⟩

namespace RoundNode

structure PinnedTo (n : RoundNode) (roundId : String) (held : Dict Int Int) : Prop where
  mem : n.mem.PinnedTo roundId held
  file : ∀ file, n.file = some file → file.PinnedTo roundId held

def KeepsRecord (p : RoundPersistence) (roundId : String) (n : RoundNode) (e : RoundEvent) : Prop :=
  ((n.step p e).1.mem.rounds.get? roundId).isSome ∧
    match e with
    | .call op _ _ => op.LeavesPins n.mem roundId
    | _ => True

theorem PinnedTo.step {p} {n : RoundNode} {e roundId} {held : Dict Int Int}
    (nonempty : held.entries ≠ []) (pinned : n.PinnedTo roundId held)
    (keeps : KeepsRecord p roundId n e) : (n.step p e).1.PinnedTo roundId held := by
  obtain ⟨stays, leaves⟩ := keeps
  cases e with
  | call op now lands =>
    simp only [RoundNode.step] at stays ⊢
    split at stays
    · exact pinned
    · exact pinned
    · next s ran =>
      have after := p.pinnedTo_evict
        (pinned.mem.change nonempty leaves (RoundStore.run_change ran)) stays
      constructor
      · exact after
      · intro file written
        simp only [RoundNode.persist] at written
        split at written
        · exact Option.some.inj written ▸ after
        · exact pinned.file file written
  | reload now =>
    simp only [RoundNode.step]
    split
    · exact pinned
    · next file written => exact ⟨(pinned.file file written).load nonempty now, pinned.file⟩
  | restartEmpty => simp [RoundNode.step] at stays

end RoundNode

/-- Pins that memory and file hold are the round's pins ever after, as long as the record
    stays and no call clears them, adopts the round with pins or opens over it. -/
theorem fork_pins_stay (p : RoundPersistence) (roundId : String) (held : Dict Int Int)
    (nonempty : held.entries ≠ []) (start n : RoundNode) (pinned : start.PinnedTo roundId held)
    (reached : Reaches (RoundNode.step p) (RoundNode.KeepsRecord p roundId) start n) :
    ∃ r pins, n.mem.rounds.get? roundId = some r ∧ r.forkPins = some pins ∧
      sameItems pins held := by
  have inv : n.PinnedTo roundId held := by
    apply reached.invariant fun n => n.PinnedTo roundId held
    · exact pinned
    · intro n e pinned keeps
      exact pinned.step nonempty keeps
  exact inv.mem

def RoundStore.pinItems (s : RoundStore) (roundId : String) : List (Int × Int) :=
  match s.rounds.get? roundId with
  | some r => r.forkPins.elim [] Dict.entries
  | none => []

theorem RoundStore.pinItems_eq {s : RoundStore} {roundId} {pins : Dict Int Int}
    (nonempty : pins.entries ≠ []) (items : s.pinItems roundId = pins.entries) :
    ∃ r, s.rounds.get? roundId = some r ∧ r.forkPins = some pins := by
  unfold pinItems at items
  cases found : s.rounds.get? roundId with
  | none =>
    simp only [found] at items
    exact absurd items.symm nonempty
  | some r =>
    simp only [found] at items
    cases held : r.forkPins with
    | none =>
      simp only [held, Option.elim_none] at items
      exact absurd items.symm nonempty
    | some pins' =>
      simp only [held, Option.elim_some] at items
      refine ⟨r, rfl, ?_⟩
      rw [held, Option.some.injEq]
      cases pins
      cases pins'
      simpa using items

def firstPins : Dict Int Int := Dict.empty.set 1 100

def secondPins : Dict Int Int := Dict.empty.set 1 200

def pinning : List RoundEvent :=
  [.call (.ensureOpenRound 5 none) 300 true,
    .call (.setRoundForkPins "round-e5-n1" (some firstPins)) 301 true]

def pinnedNode : RoundNode := runEvents (RoundNode.step ⟨true, 2000⟩) {} pinning

def repinning : List RoundEvent :=
  [.call (.setRoundForkPins "round-e5-n1" (some secondPins)) 302 true, .reload 360]

theorem pinnedNode_pinnedTo : pinnedNode.PinnedTo "round-e5-n1" firstPins := by
  have items : pinnedNode.mem.pinItems "round-e5-n1" = firstPins.entries := by decide +kernel
  have written : (pinnedNode.file.map fun file => file.pinItems "round-e5-n1") =
      some firstPins.entries := by decide +kernel
  have nonempty : firstPins.entries ≠ [] := by decide
  constructor
  · obtain ⟨r, found, pins⟩ := RoundStore.pinItems_eq nonempty items
    exact ⟨r, firstPins, found, pins, List.Perm.refl _⟩
  · intro file saved
    rw [saved] at written
    obtain ⟨r, found, pins⟩ := RoundStore.pinItems_eq nonempty (Option.some.inj written)
    exact ⟨r, firstPins, found, pins, List.Perm.refl _⟩

theorem fork_pins_stay_refused_overwrite :
    ∃ r pins, (runEvents (RoundNode.step ⟨true, 2000⟩) pinnedNode repinning).mem.rounds.get?
      "round-e5-n1" = some r ∧ r.forkPins = some pins ∧ sameItems pins firstPins := by
  apply fork_pins_stay ⟨true, 2000⟩ "round-e5-n1" firstPins (by decide) pinnedNode
  · exact pinnedNode_pinnedTo
  · have kept : ((RoundNode.step ⟨true, 2000⟩ pinnedNode
        (.call (.setRoundForkPins "round-e5-n1" (some secondPins)) 302 true)).1.mem.rounds.get?
        "round-e5-n1").isSome := by decide +kernel
    have reread : ((RoundNode.step ⟨true, 2000⟩ (RoundNode.step ⟨true, 2000⟩ pinnedNode
        (.call (.setRoundForkPins "round-e5-n1" (some secondPins)) 302 true)).1
        (.reload 360)).1.mem.rounds.get? "round-e5-n1").isSome := by decide +kernel
    have first : Reaches (RoundNode.step ⟨true, 2000⟩)
        (RoundNode.KeepsRecord ⟨true, 2000⟩ "round-e5-n1") pinnedNode _ :=
      .next (RoundEvent.call (.setRoundForkPins "round-e5-n1" (some secondPins)) 302 true) .refl
        ⟨kept, fun _ => by decide⟩
    exact .next (RoundEvent.reload 360) first ⟨reread, trivial⟩

def clearing : List RoundEvent :=
  [.call (.setRoundForkPins "round-e5-n1" none) 302 true,
    .call (.setRoundForkPins "round-e5-n1" (some secondPins)) 303 true]

theorem cleared_fork_pins_are_replaced :
    ¬ ∀ (p : RoundPersistence) (start n : RoundNode) (roundId : String) (r r' : RoundState)
      (held pins : Dict Int Int),
      Reaches (RoundNode.step p) (fun _ _ => True) {} start →
      start.mem.rounds.get? roundId = some r → truthyPins r.forkPins = some held →
      Reaches (RoundNode.step p) (fun _ _ => True) start n →
      n.mem.rounds.get? roundId = some r' → truthyPins r'.forkPins = some pins →
      sameItems pins held := by
  intro claim
  have before : pinnedNode.mem.pinItems "round-e5-n1" = firstPins.entries := by decide +kernel
  have after : (runEvents (RoundNode.step ⟨true, 2000⟩) pinnedNode clearing).mem.pinItems
      "round-e5-n1" = secondPins.entries := by decide +kernel
  obtain ⟨r, found, held⟩ := RoundStore.pinItems_eq (by decide) before
  obtain ⟨r', found', pins⟩ := RoundStore.pinItems_eq (by decide) after
  have same := claim ⟨true, 2000⟩ pinnedNode _ "round-e5-n1" r r' firstPins secondPins
    (reaches_runEvents _ _ pinning) found (by rw [held]; decide) (reaches_runEvents _ _ clearing)
    found' (by rw [pins]; decide)
  exact absurd same (by decide)

end MinotaurSubnet.Harness
