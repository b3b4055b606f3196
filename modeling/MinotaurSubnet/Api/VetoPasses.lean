import MinotaurSubnet.Api.VetoPhase

/-! # What one re-verify pass can conclude

A violation in the extracted evidence is a row of the leader's own verdict; an order a pass
confirms was claimed and benched in it; a pass plans everything its responders claim within
their budgets.
-/

namespace MinotaurSubnet.Veto

open Library Epoch

def HardViolation (chalResults : List Row) (row : OrderRow) : Prop :=
  (row.mark.verdict = .dropped ∧ (chalErrored chalResults).get? row.intentId ≠ some true) ∨
  (row.mark.verdict = .regression ∧ ∃ champ chal, row.champ = some champ ∧ row.chal = some chal ∧
    0 < champ ∧ chal * bps < champ * (bps - floorBps))

theorem isCatastrophic_cut {champ chal} (cut : isCatastrophic champ chal = true) :
    ∃ v w, champ = some v ∧ chal = some w ∧ 0 < v ∧ w * bps < v * (bps - floorBps) := by
  unfold isCatastrophic at cut
  split at cut
  · next v w =>
    split at cut
    · cases cut
    · next positive => exact ⟨v, w, rfl, rfl, by omega, of_decide_eq_true cut⟩
  · cases cut

variable {v : SliceViolation} {oid : String} {phase : VetoPhaseState}

theorem mem_addViolation {e oid kind row} (member : v ∈ (addViolation e oid kind row).violations) :
    v ∈ e.violations ∨ v.orderId = oid := by
  rcases List.mem_append.mp member with earlier | new
  · exact .inl earlier
  · obtain rfl := List.mem_singleton.mp new
    exact .inr rfl

variable {orders : List OrderRecord} {confirmed benched : List String}
  {planned : List SliceViolation} {prev : Option ReverifyResult}

theorem mem_countSliceRow {chal e row}
    (member : v ∈ (countSliceRow (evidenceTables orders [] chal) oid e row).violations) :
    v ∈ e.violations ∨ (v.orderId = oid ∧ HardViolation chal row) := by
  unfold countSliceRow at member
  cases verdict : row.mark.verdict with
  | win | matched | blindSpotCover | blindSpotRepeat | skip =>
    simp only [verdict] at member
    exact .inl member
  | dropped =>
    simp only [verdict, reduceCtorEq, if_false] at member
    split at member
    · exact .inl member
    · next clean =>
      rcases mem_addViolation member with earlier | here
      · exact .inl earlier
      · refine .inr ⟨here, .inl ⟨verdict, ?_⟩⟩
        intro failed
        exact clean (by simp [evidenceTables, failed])
  | regression =>
    simp only [verdict, reduceCtorEq, if_false] at member
    split at member
    · next cut =>
      rcases mem_addViolation member with earlier | here
      · exact .inl earlier
      · exact .inr ⟨here, .inr ⟨verdict, isCatastrophic_cut cut⟩⟩
    · exact .inl member

theorem mem_evidenceRow {chal e row}
    (member : v ∈ (evidenceRow (evidenceTables orders [] chal) e row).violations) :
    v ∈ e.violations ∨ ∃ o ∈ orders, o.idText = v.orderId ∧ row.intentId = o.label ∧
      HardViolation chal row := by
  unfold evidenceRow at member
  split at member
  · exact .inl member
  · next oid found =>
    rw [if_neg (by simp [evidenceTables])] at member
    rcases mem_countSliceRow member with earlier | ⟨here, hard⟩
    · exact .inl earlier
    · rcases Dict.get?_assignAll_some found with listed | none
      · rw [List.append_nil] at listed
        obtain ⟨o, inOrders, pair⟩ := List.mem_map.mp listed
        obtain ⟨label, text⟩ := Prod.mk.inj pair
        exact .inr ⟨o, inOrders, text.trans here.symm, label.symm, hard⟩
      · cases none

theorem mem_extractSliceEvidence {verdict chal}
    (member : v ∈ (extractSliceEvidence verdict orders [] chal).violations) :
    ∃ o ∈ orders, o.idText = v.orderId ∧
      ∃ row ∈ verdict.tally.perOrder, row.intentId = o.label ∧ HardViolation chal row := by
  have walk : ∀ (rows : List OrderRow) (e : SliceEvidence),
      v ∈ (rows.foldl (evidenceRow (evidenceTables orders [] chal)) e).violations →
      v ∈ e.violations ∨ ∃ o ∈ orders, o.idText = v.orderId ∧
        ∃ row ∈ rows, row.intentId = o.label ∧ HardViolation chal row := by
    intro rows
    induction rows with
    | nil => exact fun _ member => .inl member
    | cons row rest ih =>
      intro e member
      rcases ih _ member with here | ⟨o, inOrders, text, later, inRest, label, hard⟩
      · rcases mem_evidenceRow here with earlier | ⟨o, inOrders, text, label, hard⟩
        · exact .inl earlier
        · exact .inr ⟨o, inOrders, text, row, List.mem_cons_self, label, hard⟩
      · exact .inr ⟨o, inOrders, text, later, List.mem_cons_of_mem row inRest, label, hard⟩
  rcases walk _ _ member with none | backed
  · cases none
  · exact backed

/-- The leader's own bench of `orders`, with these images at this block, shows the order violated. -/
structure ShowsViolation (bench : Bench) (candidateRef incumbentRef : String) (pin : Int)
    (orders : List OrderRecord) (o : OrderRecord) : Prop where
  benched : o ∈ orders
  shown : ∃ champ chal verdict, bench.champion incumbentRef pin orders = some champ ∧
    bench.challenger candidateRef pin orders = some chal ∧
    evaluateRelativeAdoption champ chal = .ok verdict ∧
    ∃ row ∈ verdict.tally.perOrder, row.intentId = o.label ∧ HardViolation chal row

theorem benchChain_confirmed {bench work group outcome}
    (ran : benchChain bench work group = some outcome) (confirmed : oid ∈ outcome.1) :
    ∃ pin, work.forkPins.get? (chainText group.1) = some pin ∧ pin ≠ 0 ∧ ∃ o, o.idText = oid ∧
      ShowsViolation bench work.candidateImageRef work.incumbentImageRef pin group.2 o := by
  unfold benchChain at ran
  split at ran
  · cases ran
    cases confirmed
  · cases ran
    cases confirmed
  · next pin unpinned pinned =>
    obtain ⟨champ, champRows, ran⟩ := Option.bind_eq_some_iff.mp ran
    obtain ⟨chal, chalRows, ran⟩ := Option.bind_eq_some_iff.mp ran
    obtain ⟨verdict, evaluated, ran⟩ := Option.bind_eq_some_iff.mp ran
    cases ran
    obtain ⟨v, violation, rfl⟩ := List.mem_map.mp confirmed
    obtain ⟨o, member, text, row⟩ := mem_extractSliceEvidence violation
    refine ⟨pin, pinned, ?_, o, text, member, champ, chal, verdict, champRows, chalRows,
      toOption_eq_some.mp evaluated, row⟩
    intro zero
    exact unpinned (zero ▸ rfl)

theorem get?_passResult_orders {b}
    (found : (passResult planned confirmed benched).result.orders.get? oid = some b) :
    oid ∈ planned.map SliceViolation.orderId ∧ b = decide (oid ∈ confirmed) := by
  unfold passResult at found
  split at found
  · cases found
  · rcases Dict.get?_assignAll_some found with listed | none
    · obtain ⟨v, member, pair⟩ := List.mem_map.mp listed
      obtain ⟨rfl, rfl⟩ := Prod.mk.inj pair
      exact ⟨List.mem_map_of_mem member, rfl⟩
    · cases none

theorem passResult_judges {oid other}
    (anything : other ∈ (passResult planned confirmed benched).benched)
    (member : oid ∈ planned.map SliceViolation.orderId) :
    ∃ b, (passResult planned confirmed benched).result.orders.get? oid = some b := by
  unfold passResult at anything ⊢
  split at anything
  · cases anything
  · next some =>
    rw [if_neg some]
    refine ⟨decide (oid ∈ confirmed), Dict.get?_assignAll_of_mem ?_ ?_⟩
    · simpa using member
    · intro pair listed same
      obtain ⟨v, -, rfl⟩ := List.mem_map.mp listed
      exact congrArg (fun id => decide (id ∈ confirmed)) same

theorem passResult_ran {b}
    (found : (passResult planned confirmed benched).result.orders.get? oid = some b) :
    (passResult planned confirmed benched).result.ran = true := by
  unfold passResult at found ⊢
  split at found
  · cases found
  · next some => rw [if_neg some]

theorem outcome_cases (pass : Landed) :
    pass.outcome = {} ∨ ∃ work chains, pass.work = some work ∧
      work.byChain.mapM (benchChain pass.bench work) = some chains ∧
      pass.outcome = passResult work.planned (chains.flatMap Prod.fst) (chains.flatMap Prod.snd) := by
  unfold Landed.outcome reverifyDissents
  cases planned : pass.work with
  | none => exact .inl rfl
  | some work =>
    simp only [reverifyBench]
    split
    · exact .inl rfl
    · split
      · exact .inl rfl
      · next chains ran => exact .inr ⟨work, chains, rfl, ran, rfl⟩

variable {pass : Landed}

theorem outcome_verdict {b} (found : pass.outcome.result.orders.get? oid = some b) :
    ∃ work, pass.work = some work ∧ oid ∈ work.planned.map SliceViolation.orderId ∧
      pass.outcome.result.ran = true := by
  rcases outcome_cases pass with empty | ⟨work, chains, planned, -, outcome⟩
  · rw [empty] at found
    cases found
  · rw [outcome] at found ⊢
    exact ⟨work, planned, (get?_passResult_orders found).1, passResult_ran found⟩

theorem outcome_reproduced (found : pass.outcome.result.orders.get? oid = some true) :
    ∃ work group pin o, pass.work = some work ∧ group ∈ work.byChain ∧
      work.forkPins.get? (chainText group.1) = some pin ∧ pin ≠ 0 ∧ o.idText = oid ∧
      ShowsViolation pass.bench work.candidateImageRef work.incumbentImageRef pin group.2 o := by
  rcases outcome_cases pass with empty | ⟨work, chains, planned, ran, outcome⟩
  · rw [empty] at found
    cases found
  · rw [outcome] at found
    have confirmed := of_decide_eq_true (get?_passResult_orders found).2.symm
    obtain ⟨chain, inChains, inChain⟩ := List.mem_flatMap.mp confirmed
    obtain ⟨group, inGroups, benched⟩ := mem_mapM_some ran inChains
    obtain ⟨pin, pinned, nonzero, o, text, shows⟩ := benchChain_confirmed benched inChain
    exact ⟨work, group, pin, o, planned, inGroups, pinned, nonzero, text, shows⟩

theorem outcome_judges {work : ReverifyWork} (planned : pass.work = some work) {oid other}
    (anything : other ∈ pass.outcome.benched)
    (member : oid ∈ work.planned.map SliceViolation.orderId) :
    ∃ b, pass.outcome.result.orders.get? oid = some b := by
  rcases outcome_cases pass with empty | ⟨work', chains, planned', -, outcome⟩
  · rw [empty] at anything
    cases anything
  · obtain rfl : work' = work := Option.some.inj (planned'.symm.trans planned)
    rw [outcome] at anything ⊢
    exact passResult_judges anything member

theorem outcome_work (anything : oid ∈ pass.outcome.benched) :
    ∃ work, pass.work = some work := by
  rcases outcome_cases pass with empty | ⟨work, _, planned, -, -⟩
  · rw [empty] at anything
    cases anything
  · exact ⟨work, planned⟩

/-- Every recorded response answers its validator's assignment. -/
def Bound (host : Host) (phase : VetoPhaseState) : Prop :=
  ∀ evm r, phase.responses.get? evm = some r →
    ∃ a, assignmentOf host phase evm = some a ∧ WellBound host a r

def Uniform (phase : VetoPhaseState) : Prop :=
  ∀ a ∈ phase.assignments, ∀ b ∈ phase.assignments, a.candidateImageRef = b.candidateImageRef ∧
    a.incumbentImageRef = b.incumbentImageRef ∧ a.forkPins = b.forkPins

theorem responses_length {host} (bound : Bound host phase) :
    phase.responses.entries.length ≤ phase.assignments.length := by
  have assigned : phase.responses.keys ⊆ phase.assignments.map fun a => host.lower a.validatorEvm := by
    intro evm member
    obtain ⟨r, recorded⟩ := Dict.mem_keys.mp member
    obtain ⟨a, found, -⟩ := bound evm r recorded
    have same : host.lower a.validatorEvm = evm := by simpa using List.find?_some found
    exact List.mem_map.mpr ⟨a, List.mem_of_find?_eq_some found, same⟩
  have distinct : phase.responses.keys.Nodup := phase.responses.keysNodup
  have fewer := (distinct.subperm assigned).length_le
  simpa [Dict.keys] using fewer

theorem flatMap_length_le {α β : Type} {f : α → List β} {n} (short : ∀ x, (f x).length ≤ n)
    (xs : List α) : (xs.flatMap f).length ≤ n * xs.length := by
  induction xs with
  | nil => simp
  | cons x rest ih =>
    have head := short x
    rw [List.flatMap_cons, List.length_append, List.length_cons, Nat.mul_succ]
    omega

/-- The fleet-scaled ceiling never cuts a responder's budget. -/
theorem plannedViolations_eq {host} (bound : Bound host phase)
    (includeResponders : Option (List String)) :
    plannedViolations phase includeResponders = unionOfPlans phase includeResponders := by
  apply List.take_of_length_le
  calc (unionOfPlans phase includeResponders).length
      ≤ _ := (firstSeen_sublist _ _).length_le
    _ ≤ vetoVerifyBudgetOrders * _ := flatMap_length_le (fun _ => length_planReverification _) _
    _ ≤ vetoVerifyBudgetOrders * phase.responses.entries.length :=
        Nat.mul_le_mul_left _ (List.length_filter_le _ _)
    _ ≤ vetoVerifyBudgetOrders * max 1 phase.assignments.length :=
        Nat.mul_le_mul_left _ ((responses_length bound).trans (Nat.le_max_right _ _))

theorem mem_unionOfPlans {includeResponders} (member : v ∈ unionOfPlans phase includeResponders) :
    ∃ evm r, phase.responses.get? evm = some r ∧ v ∈ planReverification r := by
  obtain ⟨⟨evm, r⟩, entry, planned⟩ := List.mem_flatMap.mp ((firstSeen_sublist _ _).subset member)
  exact ⟨evm, r, Dict.get?_eq_some.mpr (List.mem_of_mem_filter entry), planned⟩

theorem unionOfPlans_includes {responders evm} (included : evm ∈ responders) {r}
    (recorded : phase.responses.get? evm = some r) (planned : v ∈ planReverification r) :
    v.orderId ∈ (unionOfPlans phase (some responders)).map SliceViolation.orderId := by
  apply key_mem_firstSeen
  refine List.mem_flatMap.mpr ⟨(evm, r), ?_, planned⟩
  refine List.mem_filter.mpr ⟨Dict.get?_eq_some.mp recorded, ?_⟩
  simpa using included

theorem mem_groupByChain {group} (member : group ∈ groupByChain orders) :
    ∀ o ∈ group.2, o.chainId = group.1 := by
  obtain ⟨chain, -, rfl⟩ := List.mem_map.mp member
  intro o inGroup
  simpa using (List.mem_filter.mp inGroup).2

structure WorkOf (phase : VetoPhaseState) (includeResponders : List String) (work : ReverifyWork) :
    Prop where
  issued : phase.assignments ≠ []
  carried : ∀ a ∈ phase.assignments, a.candidateImageRef = work.candidateImageRef ∧
    a.incumbentImageRef = work.incumbentImageRef ∧ a.forkPins = work.forkPins
  claimed : ∀ v ∈ work.planned, ∃ evm r, phase.responses.get? evm = some r ∧ v ∈ planReverification r
  answered : ∀ evm ∈ includeResponders, ∃ r, phase.responses.get? evm = some r ∧
    ∀ v ∈ planReverification r, v.orderId ∈ work.planned.map SliceViolation.orderId
  grouped : ∀ group ∈ work.byChain, ∀ o ∈ group.2, o.chainId = group.1

theorem reverifyWork_spec {host} (bound : Bound host phase) (uniform : Uniform phase) {responders}
    (answered : ∀ evm ∈ responders, ∃ r, phase.responses.get? evm = some r)
    {orderLookup : String → Option OrderRecord} {work}
    (planned : reverifyWork phase (some responders) orderLookup = some work) :
    WorkOf phase responders work := by
  unfold reverifyWork at planned
  split at planned
  · cases planned
  · next a0 rest assignments =>
    simp only [plannedViolations_eq bound] at planned
    split at planned
    · cases planned
    · split at planned
      · cases planned
      · split at planned
        · cases planned
        · cases planned
          have first : a0 ∈ phase.assignments := by simp [assignments]
          refine ⟨?_, fun a member => uniform a member a0 first, ?_, ?_, ?_⟩
          · rw [assignments]
            exact List.cons_ne_nil a0 rest
          · exact fun v member => mem_unionOfPlans member
          · intro evm included
            obtain ⟨r, recorded⟩ := answered evm included
            exact ⟨r, recorded, fun v member => unionOfPlans_includes included recorded member⟩
          · exact fun group member => mem_groupByChain member

theorem buildAssignments_uniform (host : Host) (repo : String) (corpus : Corpus)
    (request : BuildRequest) :
    ∃ candidateRef incumbentRef, ∀ a ∈ buildAssignments host repo corpus request,
      a.candidateImageRef = candidateRef ∧ a.incumbentImageRef = incumbentRef ∧
        a.forkPins = request.forkPins := by
  unfold buildAssignments
  split
  · exact ⟨"", "", fun a member => nomatch member⟩
  · split
    · next candidateRef incumbentRef _ _ =>
      refine ⟨candidateRef, incumbentRef, fun a member => ?_⟩
      obtain ⟨entry, -, rfl⟩ := List.mem_map.mp member
      exact ⟨rfl, rfl, rfl⟩
    · exact ⟨"", "", fun a member => nomatch member⟩

theorem merge_confirmed {new} :
    0 < (mergeReverifyResults prev new).confirmed ↔
      ∃ oid, (mergeReverifyResults prev new).orders.get? oid = some true := by
  simp only [mergeReverifyResults, List.countP_pos_iff]
  constructor
  · rintro ⟨b, member, rfl⟩
    exact Dict.mem_values.mp member
  · rintro ⟨oid, found⟩
    exact ⟨true, Dict.mem_values.mpr ⟨oid, found⟩, rfl⟩

theorem merge_orders {new b} (found : (mergeReverifyResults prev new).orders.get? oid = some b) :
    new.orders.get? oid = some b ∨ ∃ old, prev = some old ∧ old.orders.get? oid = some b := by
  rcases Dict.get?_update_some found with here | earlier
  · exact .inl here
  · cases prev with
    | none => cases earlier
    | some old => exact .inr ⟨old, rfl, earlier⟩

theorem merge_keeps_new {new b} (found : new.orders.get? oid = some b) :
    (mergeReverifyResults prev new).orders.get? oid = some b :=
  Dict.get?_update_of_some found

end MinotaurSubnet.Veto
