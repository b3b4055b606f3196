import MinotaurSubnet.Api.VetoPasses

/-! # Coverage before a clean verdict

The invariant of a round's veto phase: at most one pass is in flight, a covered responder was
benched in full by one completed pass, a reproduced violation blocks at once, and a terminal
record that does not block was written when every recorded veto was covered.
-/

namespace MinotaurSubnet.Veto

open Library

variable {l : Leader} {s : State} {phase phase' : VetoPhaseState} {st : StreamState}

def Landed.Reproduced (pass : Landed) (oid : String) : Prop :=
  pass.outcome.result.orders.get? oid = some true

def Covers (phase : VetoPhaseState) (pass : Landed) (evm : String) : Prop :=
  evm ∈ pass.includeResponders ∧ ∃ r, phase.responses.get? evm = some r ∧ planReverification r ≠ [] ∧
    ∀ v ∈ planReverification r, v.orderId ∈ pass.outcome.benched

structure TaskOk (phase : VetoPhaseState) (t : ReverifyTask) : Prop where
  someone : t.includeResponders ≠ []
  vetoes : ∀ evm ∈ t.includeResponders, ∃ r, phase.responses.get? evm = some r ∧
    r.verdict = some verdictVeto
  planned : ∀ work, t.stage = .benching (some work) → WorkOf phase t.includeResponders work

/-- What the passes know, whatever was written. -/
structure Core (l : Leader) (s : State) (phase : VetoPhaseState) (st : StreamState) : Prop where
  bound : Bound l.host phase
  uniform : Uniform phase
  tasks : s.tasks = [] ∨
    ∃ t, s.tasks = [t] ∧ st.inflight = true ∧ l.reverifyEnabled = true ∧ TaskOk phase t
  passes : ∀ pass ∈ s.passes, ∀ work, pass.work = some work → WorkOf phase pass.includeResponders work
  covered : ∀ evm ∈ st.covered, ∃ pass ∈ s.passes, Covers phase pass evm
  result : ∀ r, st.result = some r → ∀ oid, r.orders.get? oid = some true →
    ∃ pass ∈ s.passes, pass.Reproduced oid
  confirmed : ∀ r, st.result = some r → (0 < r.confirmed ↔ ∃ oid, r.orders.get? oid = some true)

def State.BlockStored (s : State) : Prop := s.observe.bind ObserveRecord.wouldGateConfirmed = some true

def HeldOpen (s : State) (phase : VetoPhaseState) : Prop :=
  (∃ id n, s.observe = some (.opened id n)) ∨
    phase.assignments = [] ∧ ∃ id, s.observe = some (.skipped id)

/-- A terminal record that does not block: nothing runs, and nothing in time is left uncovered. -/
structure Clean (l : Leader) (s : State) (phase : VetoPhaseState) (st : StreamState) : Prop where
  quiet : s.tasks = []
  complete : l.reverifyEnabled = true → ∀ evm r, phase.responses.get? evm = some r →
    r.verdict = some verdictVeto → evm ∉ s.late → evm ∈ st.covered

structure Verdicts (l : Leader) (s : State) (phase : VetoPhaseState) (st : StreamState) : Prop where
  reproduced : ∀ pass ∈ s.passes, ∀ oid, pass.Reproduced oid → st.done = true ∧ s.BlockStored
  held : st.done = false → HeldOpen s phase
  blocking : st.done = true → s.BlockStored → ∃ pass ∈ s.passes, ∃ oid, pass.Reproduced oid
  clean : st.done = true → ¬ s.BlockStored → Clean l s phase st

inductive Inv (l : Leader) (s : State) : Prop where
  | dormant : s.phase = none → s.stream = none → s.tasks = [] → s.passes = [] →
      s.fanning = none → Inv l s
  | live {phase : VetoPhaseState} {st : StreamState} : s.phase = some phase → s.stream = some st →
      Core l s phase st → Verdicts l s phase st → Inv l s

structure Grows (phase phase' : VetoPhaseState) : Prop where
  assignments : phase'.assignments = phase.assignments
  kept : ∀ evm r, phase.responses.get? evm = some r → phase'.responses.get? evm = some r

theorem WorkOf.grow {responders work} (of : WorkOf phase responders work)
    (grows : Grows phase phase') : WorkOf phase' responders work where
  issued := grows.assignments ▸ of.issued
  carried := grows.assignments ▸ of.carried
  claimed := by
    intro v member
    obtain ⟨evm, r, recorded, planned⟩ := of.claimed v member
    exact ⟨evm, r, grows.kept evm r recorded, planned⟩
  answered := by
    intro evm included
    obtain ⟨r, recorded, planned⟩ := of.answered evm included
    exact ⟨r, grows.kept evm r recorded, planned⟩
  grouped := of.grouped

theorem TaskOk.grow {t} (ok : TaskOk phase t) (grows : Grows phase phase') :
    TaskOk phase' t where
  someone := ok.someone
  vetoes := by
    intro evm included
    obtain ⟨r, recorded, veto⟩ := ok.vetoes evm included
    exact ⟨r, grows.kept evm r recorded, veto⟩
  planned := fun work stage => (ok.planned work stage).grow grows

variable {evm : String}

theorem Covers.grow {pass} (covers : Covers phase pass evm) (grows : Grows phase phase') :
    Covers phase' pass evm := by
  obtain ⟨included, r, recorded, planned, benched⟩ := covers
  exact ⟨included, r, grows.kept evm r recorded, planned, benched⟩

theorem Core.grow {s'} (core : Core l s phase st) (grows : Grows phase phase')
    (bound : Bound l.host phase') (tasks : s'.tasks = s.tasks) (passes : s'.passes = s.passes) :
    Core l s' phase' st where
  bound := bound
  uniform := by
    rw [Uniform, grows.assignments]
    exact core.uniform
  tasks := by
    rw [tasks]
    rcases core.tasks with none | ⟨t, single, inflight, enabled, ok⟩
    · exact .inl none
    · exact .inr ⟨t, single, inflight, enabled, ok.grow grows⟩
  passes := by
    rw [passes]
    exact fun pass member work planned => (core.passes pass member work planned).grow grows
  covered := by
    rw [passes]
    intro evm member
    obtain ⟨pass, inPasses, covers⟩ := core.covered evm member
    exact ⟨pass, inPasses, covers.grow grows⟩
  result := passes ▸ core.result
  confirmed := core.confirmed

theorem Bound.same (bound : Bound l.host phase) (assignments : phase'.assignments = phase.assignments)
    (responses : phase'.responses = phase.responses) : Bound l.host phase' := by
  intro evm r recorded
  rw [responses] at recorded
  obtain ⟨a, found, wellBound⟩ := bound evm r recorded
  exact ⟨a, by rw [assignmentOf, assignments]; exact found, wellBound⟩

theorem Grows.same (assignments : phase'.assignments = phase.assignments)
    (responses : phase'.responses = phase.responses) : Grows phase phase' :=
  ⟨assignments, fun _ _ recorded => responses ▸ recorded⟩

theorem markUnsupported_same (host : Host) (phase : VetoPhaseState) (evm : String) :
    (markUnsupported host phase evm).assignments = phase.assignments ∧
      (markUnsupported host phase evm).responses = phase.responses := by
  unfold markUnsupported
  dsimp only
  split <;> exact ⟨rfl, rfl⟩

theorem markRejected_same (rejectTerminal : String → Bool) (phase : VetoPhaseState) :
    (markRejected l rejectTerminal phase).assignments = phase.assignments ∧
      (markRejected l rejectTerminal phase).responses = phase.responses := by
  have walk : ∀ (marked : List SliceAssignment) (p : VetoPhaseState),
      let q := marked.foldl (fun p a =>
        if rejectTerminal a.validatorEvm then markUnsupported l.host p a.validatorEvm else p) p
      q.assignments = p.assignments ∧ q.responses = p.responses := by
    intro marked
    induction marked with
    | nil => exact fun p => ⟨rfl, rfl⟩
    | cons a rest ih =>
      intro p
      obtain ⟨assignments, responses⟩ := markUnsupported_same l.host p a.validatorEvm
      simp
      split
      · exact ⟨(ih _).1.trans assignments, (ih _).2.trans responses⟩
      · exact ih p
  exact walk phase.assignments phase

theorem recordResponse_cases (host : Host) (bound : Bound host phase) (r : VetoResponse) :
    ((recordResponse host phase r).1 = phase ∧ (recordResponse host phase r).2 ≠ .ok "accepted") ∨
    (phase.responses.get? (host.lower r.validatorEvm) = none ∧
      (recordResponse host phase r).1 =
        { phase with responses := phase.responses.set (host.lower r.validatorEvm) r } ∧
      (recordResponse host phase r).2 = .ok "accepted" ∧
      ∃ a, assignmentOf host phase (host.lower r.validatorEvm) = some a ∧ WellBound host a r) := by
  unfold recordResponse
  dsimp only
  split
  · exact .inl ⟨rfl, fun h => nomatch h⟩
  · next a assigned =>
    split
    · exact .inl ⟨rfl, fun h => nomatch h⟩
    · next current =>
      split
      · exact .inl ⟨rfl, fun h => nomatch h⟩
      · next valid =>
        split
        · exact .inl ⟨rfl, by simp⟩
        · next unseen =>
          refine .inr ⟨?_, rfl, rfl, a, assigned, validateResponse_ok valid⟩
          -- an answer already there would be to the same assignment
          cases existing : phase.responses.get? (host.lower r.validatorEvm) with
          | none => rfl
          | some old =>
            obtain ⟨b, same, wellBound⟩ := bound _ old existing
            obtain rfl : a = b := Option.some.inj (assigned.symm.trans same)
            exact absurd (by simp [existing, wellBound.answers, not_not.mp current]) unseen

theorem Bound.set {host} (bound : Bound host phase) {r a}
    (assigned : assignmentOf host phase evm = some a) (wellBound : WellBound host a r) :
    Bound host { phase with responses := phase.responses.set evm r } := by
  intro other r' recorded
  simp only [Dict.get?_set] at recorded
  split at recorded
  · next here =>
    cases recorded
    exact ⟨a, here ▸ assigned, wellBound⟩
  · exact bound other r' recorded

theorem Grows.set {r} (absent : phase.responses.get? evm = none) :
    Grows phase { phase with responses := phase.responses.set evm r } where
  assignments := rfl
  kept := by
    intro other r' recorded
    simp only [Dict.get?_set]
    split
    · next here =>
      rw [here, absent] at recorded
      cases recorded
    · exact recorded

/-- The verdicts move to a state with the same record, tasks and passes; an answer that is new
    after the terminal record is late. -/
theorem Verdicts.move {s' : State} (verdicts : Verdicts l s phase st)
    (assignments : phase'.assignments = phase.assignments) (tasks : s'.tasks = s.tasks)
    (passes : s'.passes = s.passes) (observe : s'.observe = s.observe)
    (late : ∀ evm ∈ s.late, evm ∈ s'.late)
    (fresh : st.done = true → ∀ evm r, phase'.responses.get? evm = some r →
      phase.responses.get? evm = some r ∨ evm ∈ s'.late) : Verdicts l s' phase' st where
  reproduced := by
    rw [passes, State.BlockStored, observe]
    exact verdicts.reproduced
  held := by
    rw [HeldOpen, observe, assignments]
    exact verdicts.held
  blocking := by
    rw [passes, State.BlockStored, observe]
    exact verdicts.blocking
  clean := by
    rw [State.BlockStored, observe]
    intro written unblocked
    obtain ⟨quiet, complete⟩ := verdicts.clean written unblocked
    refine ⟨tasks.trans quiet, ?_⟩
    intro enabled evm r recorded veto inTime
    rcases fresh written evm r recorded with before | after
    · exact complete enabled evm r before veto fun early => inTime (late evm early)
    · exact absurd after inTime

theorem observe_blocks {roundId resolution reverify} :
    (ObserveRecord.summary (observeSummary roundId phase resolution reverify)).wouldGateConfirmed =
      some true ↔ ∃ r, reverify = some r ∧ r.ran = true ∧ 0 < r.confirmed := by
  simp only [ObserveRecord.wouldGateConfirmed, observeSummary, Option.map_eq_some_iff,
    Option.filter_eq_some_iff, decide_eq_true_eq, and_assoc]

theorem Core.write (core : Core l s phase st) (resolution : Resolution)
    (reverify : Option ReverifyResult) :
    Core l (writeRecord l s phase st resolution reverify)
      { phase with resolved := true, resolution := some resolution } { st with done := true } where
  bound := core.bound.same rfl rfl
  uniform := core.uniform
  tasks := by
    rcases core.tasks with none | ⟨t, single, inflight, enabled, ok⟩
    · exact .inl none
    · exact .inr ⟨t, single, inflight, enabled, ok.grow (.same rfl rfl)⟩
  passes := fun pass member work planned => (core.passes pass member work planned).grow (.same rfl rfl)
  covered := core.covered
  result := core.result
  confirmed := core.confirmed

theorem Inv.writeBlock (core : Core l s phase st) (resolution : Resolution) {r} (ran : r.ran = true)
    (confirmed : 0 < r.confirmed) (reproduced : ∃ pass ∈ s.passes, ∃ oid, pass.Reproduced oid) :
    Inv l (writeRecord l s phase st resolution (some r)) := by
  have blocks : (writeRecord l s phase st resolution (some r)).BlockStored :=
    observe_blocks.mpr ⟨r, rfl, ran, confirmed⟩
  apply Inv.live rfl rfl (core.write resolution (some r))
  refine ⟨fun _ _ _ _ => ⟨rfl, blocks⟩, (fun undone => nomatch undone), fun _ _ => reproduced, ?_⟩
  exact fun _ unblocked => absurd blocks unblocked

theorem Inv.writeClean (core : Core l s phase st) (resolution : Resolution) {reverify}
    (unconfirmed : ∀ r, reverify = some r → r.confirmed = 0)
    (unreproduced : ∀ pass ∈ s.passes, ∀ oid, ¬ pass.Reproduced oid) (clean : Clean l s phase st) :
    Inv l (writeRecord l s phase st resolution reverify) := by
  have unblocked : ¬ (writeRecord l s phase st resolution reverify).BlockStored := by
    intro blocks
    obtain ⟨r, written, -, confirmed⟩ := observe_blocks.mp blocks
    exact absurd (unconfirmed r written) confirmed.ne'
  apply Inv.live rfl rfl (core.write resolution reverify)
  refine ⟨?_, (fun undone => nomatch undone), fun _ blocks => absurd blocks unblocked, ?_⟩
  · exact fun pass member oid reproduced => absurd reproduced (unreproduced pass member oid)
  · exact fun _ _ => ⟨clean.quiet, clean.complete⟩

theorem spawn_only : ∀ reverifyEnabled hasVeto resolved inflight uncovered resultPresent confirmed,
    vetoStreamAction reverifyEnabled hasVeto resolved inflight uncovered resultPresent confirmed = .spawn →
      reverifyEnabled = true ∧ inflight = false ∧ uncovered = true := by decide

theorem writeResult_only : ∀ reverifyEnabled hasVeto resolved inflight uncovered resultPresent confirmed,
    vetoStreamAction reverifyEnabled hasVeto resolved inflight uncovered resultPresent confirmed =
      .writeResult → confirmed = true ∨ (inflight = false ∧ uncovered = false) := by decide

theorem writeNone_only : ∀ reverifyEnabled hasVeto resolved inflight uncovered resultPresent confirmed,
    vetoStreamAction reverifyEnabled hasVeto resolved inflight uncovered resultPresent confirmed =
      .writeNone → reverifyEnabled = false ∨ hasVeto = false := by decide

theorem mem_vetoResponders :
    evm ∈ vetoResponders phase ↔
      ∃ r, phase.responses.get? evm = some r ∧ r.verdict = some verdictVeto := by
  unfold vetoResponders
  constructor
  · intro member
    obtain ⟨⟨evm, r⟩, entry, rfl⟩ := List.mem_map.mp member
    obtain ⟨recorded, veto⟩ := List.mem_filter.mp entry
    exact ⟨r, Dict.get?_eq_some.mpr recorded, of_decide_eq_true veto⟩
  · rintro ⟨r, recorded, veto⟩
    refine List.mem_map.mpr ⟨(evm, r), List.mem_filter.mpr ⟨Dict.get?_eq_some.mp recorded, ?_⟩, rfl⟩
    exact decide_eq_true veto

theorem covered_of_none_uncovered (none : (uncoveredResponders phase st).isEmpty = true) {r}
    (recorded : phase.responses.get? evm = some r) (veto : r.verdict = some verdictVeto) :
    evm ∈ st.covered := by
  by_contra missing
  have uncovered : evm ∈ uncoveredResponders phase st :=
    List.mem_filter.mpr ⟨mem_vetoResponders.mpr ⟨r, recorded, veto⟩, decide_eq_true missing⟩
  rw [List.isEmpty_iff.mp none] at uncovered
  cases uncovered

theorem Verdicts.unreproduced (verdicts : Verdicts l s phase st) (undone : st.done = false) :
    ∀ pass ∈ s.passes, ∀ oid, ¬ pass.Reproduced oid := by
  intro pass member oid reproduced
  exact nomatch undone.symm.trans (verdicts.reproduced pass member oid reproduced).1

theorem Core.unconfirmed (core : Core l s phase st)
    (unreproduced : ∀ pass ∈ s.passes, ∀ oid, ¬ pass.Reproduced oid) :
    ∀ r, st.result = some r → r.confirmed = 0 := by
  intro r landed
  by_contra nonzero
  obtain ⟨oid, found⟩ := (core.confirmed r landed).mp (Nat.pos_of_ne_zero nonzero)
  obtain ⟨pass, member, reproduced⟩ := core.result r landed oid found
  exact unreproduced pass member oid reproduced

theorem Core.quiet (core : Core l s phase st)
    (idle : st.inflight = false ∨ l.reverifyEnabled = false ∨ (vetoResponders phase).isEmpty = true) :
    s.tasks = [] := by
  rcases core.tasks with none | ⟨t, -, inflight, enabled, ok⟩
  · exact none
  · rcases idle with off | off | off
    · exact nomatch off.symm.trans inflight
    · exact nomatch off.symm.trans enabled
    · obtain ⟨evm, included⟩ := List.exists_mem_of_ne_nil _ ok.someone
      have member := mem_vetoResponders.mpr (ok.vetoes evm included)
      rw [List.isEmpty_iff.mp off] at member
      cases member

theorem Core.spawn (core : Core l s phase st) (idle : st.inflight = false)
    (enabled : l.reverifyEnabled = true) (uncovered : uncoveredResponders phase st ≠ []) :
    Core l { s with
      phase := some phase
      stream := some { st with inflight := true }
      tasks := s.tasks ++ [{ includeResponders := uncoveredResponders phase st }] }
      phase { st with inflight := true } where
  bound := core.bound
  uniform := core.uniform
  tasks := by
    refine .inr ⟨{ includeResponders := uncoveredResponders phase st }, ?_, rfl, enabled, uncovered, ?_, ?_⟩
    · rw [core.quiet (.inl idle), List.nil_append]
    · exact fun evm member => mem_vetoResponders.mp (List.mem_of_mem_filter member)
    · exact fun work stage => nomatch stage
  passes := core.passes
  covered := core.covered
  result := core.result
  confirmed := core.confirmed

theorem Inv.streamStep (atPhase : s.phase = some phase) (atStream : s.stream = some st)
    (core : Core l s phase st) (verdicts : Verdicts l s phase st) {now} :
    Inv l (vetoStreamStep l s now) := by
  have unchanged : Inv l s := .live atPhase atStream core verdicts
  unfold vetoStreamStep
  rw [atStream, atPhase]
  dsimp only
  split
  · exact unchanged
  · next open_ =>
    have undone : st.done = false := by simpa using open_
    have unreproduced := verdicts.unreproduced undone
    have unconfirmed := core.unconfirmed unreproduced
    have notConfirmed : st.confirmed ≠ true := by
      intro confirmed
      cases landed : st.result with
      | none => simp [StreamState.confirmed, landed] at confirmed
      | some r => simp [StreamState.confirmed, landed, unconfirmed r landed] at confirmed
    split
    · next spawns =>
      obtain ⟨enabled, idle, uncovered⟩ := spawn_only _ _ _ _ _ _ _ spawns
      have uncovered : uncoveredResponders phase st ≠ [] := by simpa using uncovered
      refine Inv.live rfl rfl (core.spawn idle enabled uncovered) ?_
      refine ⟨verdicts.reproduced, verdicts.held, verdicts.blocking, ?_⟩
      exact fun written => nomatch undone.symm.trans written
    · next writes =>
      rcases writeResult_only _ _ _ _ _ _ _ writes with confirmed | ⟨idle, covered⟩
      · exact absurd confirmed notConfirmed
      · refine Inv.writeClean core _ unconfirmed unreproduced ⟨core.quiet (.inl idle), ?_⟩
        intro _ evm r recorded veto _
        exact covered_of_none_uncovered (by simpa using covered) recorded veto
    · next writes =>
      refine Inv.writeClean core _ (fun _ none => nomatch none) unreproduced ⟨?_, ?_⟩
      · rcases writeNone_only _ _ _ _ _ _ _ writes with off | none
        · exact core.quiet (.inr (.inl off))
        · exact core.quiet (.inr (.inr (by simpa using none)))
      · intro enabled evm r recorded veto _
        rcases writeNone_only _ _ _ _ _ _ _ writes with off | none
        · exact nomatch off.symm.trans enabled
        · have member := mem_vetoResponders.mpr ⟨r, recorded, veto⟩
          have nobody : vetoResponders phase = [] := by simpa using none
          rw [nobody] at member
          cases member
    · exact unchanged
    · exact unchanged

theorem committed_covers {pass} (included : evm ∈ pass.includeResponders)
    (all : committed phase pass.outcome.benched evm = true) : Covers phase pass evm := by
  unfold committed at all
  split at all
  · cases all
  · next r recorded =>
    simp only [Bool.and_eq_true, Bool.not_eq_true', List.all_eq_true, decide_eq_true_eq] at all
    refine ⟨included, r, recorded, ?_, fun v member => all.2 _ (List.mem_map_of_mem member)⟩
    intro nothing
    simp [nothing] at all

theorem Core.land {pass} (core : Core l s phase st)
    (work : ∀ work, pass.work = some work → WorkOf phase pass.includeResponders work) :
    Core l { s with tasks := [], passes := s.passes ++ [pass] } phase (st.land phase pass) where
  bound := core.bound
  uniform := core.uniform
  tasks := .inl rfl
  passes := by
    intro p member
    rcases List.mem_append.mp member with earlier | new
    · exact core.passes p earlier
    · obtain rfl := List.mem_singleton.mp new
      exact work
  covered := by
    intro evm member
    rcases List.mem_append.mp member with earlier | new
    · obtain ⟨p, inPasses, covers⟩ := core.covered evm earlier
      exact ⟨p, List.mem_append_left _ inPasses, covers⟩
    · obtain ⟨included, all⟩ := List.mem_filter.mp new
      exact ⟨pass, by simp, committed_covers included all⟩
  result := by
    intro r landed oid found
    cases landed
    rcases merge_orders found with here | ⟨old, earlier, stored⟩
    · exact ⟨pass, by simp, here⟩
    · obtain ⟨p, inPasses, reproduced⟩ := core.result old earlier oid stored
      exact ⟨p, List.mem_append_left _ inPasses, reproduced⟩
  confirmed := by
    intro r landed
    cases landed
    exact merge_confirmed

theorem Inv.land {t work} (single : s.tasks = [t]) (stage : t.stage = .benching work)
    (atPhase : s.phase = some phase) (atStream : s.stream = some st) (core : Core l s phase st)
    (verdicts : Verdicts l s phase st) (bench : Bench) :
    Inv l (landPass l { s with tasks := [] }
      { includeResponders := t.includeResponders, work, bench }) := by
  generalize passIs : ({ includeResponders := t.includeResponders, work, bench } : Landed) = pass
  have ok : TaskOk phase t := by
    rcases core.tasks with none | ⟨t', single', -, -, ok⟩
    · exact nomatch single.symm.trans none
    · obtain rfl := List.singleton_injective (single.symm.trans single')
      exact ok
  have workOf : ∀ w, pass.work = some w → WorkOf phase pass.includeResponders w := by
    subst passIs
    rintro w rfl
    exact ok.planned w stage
  have core' := core.land workOf
  have last : pass ∈ s.passes ++ [pass] := by simp
  unfold landPass
  simp only [atStream, atPhase]
  cases written : st.done with
  | true =>
    have busy : ¬ Clean l s phase st := fun clean => nomatch single.symm.trans clean.quiet
    have blocks : s.BlockStored := by
      by_contra unblocked
      exact busy (verdicts.clean written unblocked)
    have keeps : (st.land phase pass).done = true := written
    simp [keeps]
    refine .live rfl rfl (core'.grow (.same rfl rfl) core'.bound rfl rfl)
      ⟨fun _ _ _ _ => ⟨written, blocks⟩, ?_, ?_, ?_⟩
    · exact fun undone => nomatch undone.symm.trans written
    · intro _ _
      obtain ⟨p, member, reproduced⟩ := verdicts.blocking written blocks
      exact ⟨p, List.mem_append_left _ member, reproduced⟩
    · exact fun _ unblocked => absurd blocks unblocked
  | false =>
    have keeps : (st.land phase pass).done = false := written
    have old := verdicts.unreproduced written
    split
    · next writes =>
      have confirmed : 0 < (mergeReverifyResults st.result pass.outcome.result).confirmed := by
        simpa [StreamState.confirmed, StreamState.land] using (Bool.and_eq_true_iff.mp writes).1
      obtain ⟨oid, found⟩ := merge_confirmed.mp confirmed
      obtain ⟨p, member, reproduced⟩ := core'.result _ rfl oid found
      -- no earlier pass reproduced anything, so this one did, and it ran
      have here : p = pass := by
        rcases List.mem_append.mp member with earlier | new
        · exact absurd reproduced (old p earlier oid)
        · exact List.mem_singleton.mp new
      obtain ⟨_, -, -, ran⟩ := outcome_verdict (here ▸ reproduced)
      exact Inv.writeBlock core' _ (by simp [mergeReverifyResults, ran]) confirmed
        ⟨p, member, oid, reproduced⟩
    · next silent =>
      have fresh : ∀ oid, ¬ pass.Reproduced oid := by
        intro oid reproduced
        have confirmed : 0 < (mergeReverifyResults st.result pass.outcome.result).confirmed :=
          merge_confirmed.mpr ⟨oid, merge_keeps_new reproduced⟩
        exact silent (by simp [StreamState.confirmed, StreamState.land, confirmed, written])
      refine .live rfl rfl (core'.grow (.same rfl rfl) core'.bound rfl rfl) ⟨?_, verdicts.held, ?_, ?_⟩
      · intro p member oid reproduced
        rcases List.mem_append.mp member with earlier | new
        · exact absurd reproduced (old p earlier oid)
        · exact absurd (List.mem_singleton.mp new ▸ reproduced) (fresh oid)
      · exact fun written' => nomatch keeps.symm.trans written'
      · exact fun written' => nomatch keeps.symm.trans written'

theorem mem_snoc_if {α : Type} {xs x} (c : Bool) (y : α) (member : x ∈ xs) :
    x ∈ if c then xs ++ [y] else xs := by
  cases c with
  | true => exact List.mem_append_left _ member
  | false => exact member

theorem Inv.ingest (inv : Inv l s) (r : VetoResponse) : Inv l (ingest l s r).1 := by
  cases inv with
  | dormant noPhase noStream noTasks noPasses noFan =>
    unfold Veto.ingest
    rw [noPhase]
    exact .dormant noPhase noStream noTasks noPasses noFan
  | @live phase st atPhase atStream core verdicts =>
    unfold Veto.ingest
    simp only [atPhase]
    rcases recordResponse_cases l.host core.bound r with
      ⟨same, refused⟩ | ⟨absent, added, accepted, a, assigned, wellBound⟩
    · rw [same]
      refine .live rfl atStream (core.grow (.same rfl rfl) core.bound rfl rfl) ?_
      refine verdicts.move rfl rfl rfl rfl ?_ fun _ _ _ recorded => .inl recorded
      exact fun evm member => mem_snoc_if _ _ member
    · rw [added, accepted]
      refine .live rfl atStream ?_ ?_
      · exact core.grow (.set absent) (core.bound.set assigned wellBound) rfl rfl
      refine verdicts.move rfl rfl rfl rfl ?_ ?_
      · exact fun evm member => mem_snoc_if _ _ member
      · intro written evm r' recorded
        simp only [Dict.get?_set] at recorded
        split at recorded
        · next here =>
          right
          simp [here, atStream, written]
        · exact .inl recorded

theorem Inv.begin (inv : Inv l s) (atPhase : s.phase = some phase) (i : Nat)
    (orderLookup : String → Option OrderRecord) :
    Inv l { s with tasks := s.tasks.modify i (beginPass phase orderLookup) } := by
  cases inv with
  | dormant noPhase => exact nomatch noPhase.symm.trans atPhase
  | @live phase' st atPhase' atStream core verdicts =>
    obtain rfl : phase = phase' := Option.some.inj (atPhase.symm.trans atPhase')
    rcases core.tasks with none | ⟨t, single, inflight, enabled, ok⟩
    · rw [none, List.modify_nil, ← none]
      exact .live atPhase atStream core verdicts
    · have begun : TaskOk phase (beginPass phase orderLookup t) := by
        unfold beginPass
        split
        · refine ⟨ok.someone, ok.vetoes, fun work stage => ?_⟩
          refine reverifyWork_spec core.bound core.uniform ?_ (TaskStage.benching.inj stage)
          intro evm included
          obtain ⟨r, recorded, -⟩ := ok.vetoes evm included
          exact ⟨r, recorded⟩
        · exact ok
      have tasks : ∃ t', s.tasks.modify i (beginPass phase orderLookup) = [t'] ∧ TaskOk phase t' := by
        rw [single]
        cases i with
        | zero => exact ⟨_, rfl, begun⟩
        | succ n => exact ⟨t, by simp, ok⟩
      obtain ⟨t', single', ok'⟩ := tasks
      refine .live atPhase atStream ?_ ?_
      · exact ⟨core.bound, core.uniform, .inr ⟨t', single', inflight, enabled, ok'⟩, core.passes,
          core.covered, core.result, core.confirmed⟩
      · refine ⟨verdicts.reproduced, verdicts.held, verdicts.blocking, fun written unblocked => ?_⟩
        exact nomatch single.symm.trans (verdicts.clean written unblocked).quiet

theorem Inv.turn (atPhase : s.phase = some phase) (core : Core l s phase (s.stream.getD {}))
    (verdicts : Verdicts l s phase (s.stream.getD {})) (now : Int) (network : Bool) :
    Inv l (driveTurn l s now network) := by
  have core' : ∀ fanning, Core l
      { s with phase := some phase, stream := some (s.stream.getD {}), fanning } phase
      (s.stream.getD {}) := fun _ => core.grow (.same rfl rfl) core.bound rfl rfl
  have verdicts' : ∀ fanning, Verdicts l
      { s with phase := some phase, stream := some (s.stream.getD {}), fanning } phase
      (s.stream.getD {}) := fun _ =>
    verdicts.move rfl rfl rfl rfl (fun _ member => member) fun _ _ _ recorded => .inl recorded
  unfold driveTurn
  rw [atPhase]
  dsimp only
  split
  · exact .live rfl rfl (core' _) (verdicts' _)
  · split
    · exact .live rfl rfl (core' _) (verdicts' _)
    · exact Inv.streamStep rfl rfl (core' _) (verdicts' _)

theorem openVetoPhase_fresh (view : RoundView) (now : Int) :
    (openVetoPhase l view now).1.responses = Dict.empty ∧ Uniform (openVetoPhase l view now).1 ∧
      HeldOpen { s with observe := some (openVetoPhase l view now).2 } (openVetoPhase l view now).1 := by
  unfold openVetoPhase
  dsimp only
  split
  · exact ⟨rfl, (fun a member => nomatch member), .inr ⟨rfl, _, rfl⟩⟩
  · refine ⟨rfl, ?_, .inl ⟨_, _, rfl⟩⟩
    intro a inA b inB
    obtain ⟨candidateRef, incumbentRef, carried⟩ := buildAssignments_uniform l.host l.repo view.corpus _
    obtain ⟨candA, incA, pinsA⟩ := carried a inA
    obtain ⟨candB, incB, pinsB⟩ := carried b inB
    exact ⟨candA.trans candB.symm, incA.trans incB.symm, pinsA.trans pinsB.symm⟩

theorem Inv.drive (inv : Inv l s) (now : Int) (view : RoundView) (network : Bool) :
    Inv l (driveTurn l (openIfDue l s now view) now network) := by
  cases inv with
  | @live phase st atPhase atStream core verdicts =>
    have kept : openIfDue l s now view = s := by simp [openIfDue, vetoOpenDecision, atPhase]
    rw [kept]
    exact Inv.turn atPhase (by simpa [atStream] using core) (by simpa [atStream] using verdicts)
      now network
  | dormant noPhase noStream noTasks noPasses noFan =>
    have dormant : Inv l s := .dormant noPhase noStream noTasks noPasses noFan
    have skipped : Inv l (driveTurn l s now network) := by simpa [driveTurn, noPhase] using dormant
    unfold openIfDue
    split
    · obtain ⟨noResponses, uniform, held⟩ := openVetoPhase_fresh (l := l) (s := s) view now
      refine Inv.turn rfl ?_ ?_ now network
      · simp [noStream]
        refine ⟨?_, uniform, .inl noTasks, ?_, (fun evm member => nomatch member),
          (fun r landed => nomatch landed), fun r landed => nomatch landed⟩
        · intro evm r recorded
          rw [noResponses] at recorded
          cases recorded
        · rw [noPasses]
          exact fun pass member => nomatch member
      · simp [noStream]
        refine ⟨?_, fun _ => held, (fun written => nomatch written), fun written => nomatch written⟩
        rw [noPasses]
        exact fun pass member => nomatch member
    · exact skipped
    · exact skipped

theorem Inv.fan (inv : Inv l s) (atPhase : s.phase = some phase) (rejectTerminal : String → Bool)
    (now : Int) :
    Inv l (vetoStreamStep l
      { s with phase := some (markRejected l rejectTerminal phase), fanning := none } now) := by
  cases inv with
  | dormant noPhase => exact nomatch noPhase.symm.trans atPhase
  | @live phase' st atPhase' atStream core verdicts =>
    obtain rfl : phase = phase' := Option.some.inj (atPhase.symm.trans atPhase')
    obtain ⟨assignments, responses⟩ := markRejected_same (l := l) rejectTerminal phase
    apply Inv.streamStep rfl
    · exact atStream
    · exact core.grow (.same assignments responses) (core.bound.same assignments responses) rfl rfl
    · refine verdicts.move assignments rfl rfl rfl (fun _ member => member) ?_
      exact fun _ evm r recorded => .inl (responses ▸ recorded)

theorem Inv.boot (observe : Option ObserveRecord) : Inv l (State.boot observe) :=
  .dormant rfl rfl rfl rfl rfl

theorem Inv.step (inv : Inv l s) (event : Event) : Inv l (step l s event).1 := by
  cases event with
  | drive now network view =>
    simp only [Veto.step]
    split
    · exact inv
    · exact inv.drive now view network
  | fanned rejectTerminal =>
    simp only [Veto.step]
    split
    · next atPhase => exact inv.fan atPhase rejectTerminal _
    · exact inv
  | poll now decisionDeadlineEpoch peers =>
    simp only [Veto.step]
    split <;> exact inv
  | response r =>
    simp only [Veto.step]
    split
    · exact inv
    · exact inv.ingest r
  | passBegins i orderLookup =>
    simp only [Veto.step]
    split
    · exact inv
    · next atPhase => exact inv.begin atPhase i orderLookup
  | passLands i bench =>
    simp only [Veto.step]
    split
    · next found =>
      cases inv with
      | dormant noPhase noStream noTasks => simp [noTasks] at found
      | @live phase st atPhase atStream core verdicts =>
        rcases core.tasks with none | ⟨t, single, -⟩
        · simp [none] at found
        · rw [single] at found
          cases i with
          | succ n => simp at found
          | zero =>
            cases found
            have erased : s.tasks.eraseIdx 0 = [] := by
              rw [single, List.eraseIdx_zero, List.tail_cons]
            rw [erased]
            exact Inv.land single rfl atPhase atStream core verdicts bench
    · exact inv
  | restart => exact Inv.boot s.observe

theorem inv_of_reaches {observe}
    (reached : Reaches (step l) (fun _ _ => True) (State.boot observe) s) : Inv l s :=
  reached.invariant (Inv l) (Inv.boot observe) fun _ event inv _ => inv.step event

end MinotaurSubnet.Veto
