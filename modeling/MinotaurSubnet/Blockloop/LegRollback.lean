import MinotaurSubnet.Blockloop.CrashRecovery

/-! # What a rollback leaves behind

A rollback goes through the completed legs from the last to the first and submits the first
rollback leg made for each. A leg nothing was made for is skipped, as the compiler makes
rollback legs for bridges only.
-/

namespace MinotaurSubnet.Blockloop

open Library Python Orderbook

def Action.submission? : Action → Option Submission
  | .submit what _ => some what
  | _ => none

def Action.update? : Action → Option OrderUpdate
  | .update u => some u
  | _ => none

/-- The relayer took the submission. -/
def Succeeded : Except PyError SubmitResult → Prop
  | .ok result => result.success = true
  | .error _ => False

instance (answer : Except PyError SubmitResult) : Decidable (Succeeded answer) :=
  match answer with
  | .ok result => inferInstanceAs (Decidable (result.success = true))
  | .error _ => inferInstanceAs (Decidable False)

section

variable (order : BookOrder) (plan : MultiLegPlan) (rollbackAnswers : Nat → Except PyError SubmitResult)

def rollbackOf (leg : LegPlan) : Option LegPlan :=
  plan.rollbackLegs.find? fun r => r.rollbackFor == some leg.legIndex

/-- What a rollback of `completed` leaves: its calls of the relayer and the order's status. -/
structure RollsBack (completed : List LegPlan) (status : OrderStatus) (run : Pipeline Unit) : Prop where
  returns : run.result = .ok ()
  reversed : run.trace.filterMap Action.submission? =
    (completed.reverse.filterMap (rollbackOf plan)).map .rollbackLeg
  rolledBack : statusAfter status run.trace = .rolledBack ↔
    ∀ entry ∈ completed.reverse.zipIdx, (rollbackOf plan entry.1).isSome →
      Succeeded (rollbackAnswers entry.2)
  partialRollback : statusAfter status run.trace ≠ .rolledBack →
    statusAfter status run.trace = .partialRollback

variable {order plan rollbackAnswers}

theorem rollbackLeg_eq {deadline} (finite : order.deadline.toInt = .ok deadline) (position : Nat)
    (rollback : LegPlan) :
    rollbackLeg order rollbackAnswers position rollback =
      ⟨[.submit (.rollbackLeg rollback) none, .suspend],
        .ok (if Succeeded (rollbackAnswers position) then none else some rollback.legIndex)⟩ := by
  have planned : ∃ p, legExecutionPlan order rollback [("is_rollback", .bool true)] = .ok p := by
    simp [legExecutionPlan, finite]
  obtain ⟨p, planned⟩ := planned
  unfold rollbackLeg
  rw [planned]
  cases answer : rollbackAnswers position with
  | error e => rfl
  | ok result => rfl

variable (plan) in
theorem rollbackLegs_spec {deadline} (finite : order.deadline.toInt = .ok deadline)
    (legs : List LegPlan) (position : Nat) :
    ∃ trace failures, rollbackLegs order plan rollbackAnswers position legs = ⟨trace, .ok failures⟩ ∧
      trace.filterMap Action.submission? = (legs.filterMap (rollbackOf plan)).map .rollbackLeg ∧
      trace.filterMap Action.update? = [] ∧
      (failures = [] ↔ ∀ entry ∈ legs.zipIdx position, (rollbackOf plan entry.1).isSome →
        Succeeded (rollbackAnswers entry.2)) := by
  induction legs generalizing position with
  | nil => exact ⟨[], [], rfl, rfl, rfl, by simp⟩
  | cons leg rest ih =>
    obtain ⟨trace, failures, ran, submitted, silent, clean⟩ := ih (position + 1)
    cases made : rollbackOf plan leg with
    | none =>
      refine ⟨trace, failures, ?_, ?_, silent, ?_⟩
      · rw [rollbackLegs, ← ran]
        rw [rollbackOf] at made
        rw [made]
      · simp [made, submitted]
      · simp [made, clean]
    | some rollback =>
      have ran' : rollbackLegs order plan rollbackAnswers position (leg :: rest) =
          ⟨.submit (.rollbackLeg rollback) none :: .suspend :: trace,
            .ok ((if Succeeded (rollbackAnswers position) then none
              else some rollback.legIndex).toList ++ failures)⟩ := by
        have found := made
        rw [rollbackOf] at found
        rw [rollbackLegs, found]
        dsimp only
        rw [rollbackLeg_eq finite, Traced.bind_ok rfl, ran, Traced.bind_ok rfl]
        simp
      refine ⟨_, _, ran', ?_, ?_, ?_⟩
      · rw [List.filterMap_cons_some made, List.map_cons, ← submitted]
        rfl
      · exact silent
      · by_cases taken : Succeeded (rollbackAnswers position)
        · simp [taken, clean]
        · simp [taken, made]

theorem statusAfter_of_silent {status trace} (silent : trace.filterMap Action.update? = []) :
    statusAfter status trace = status := by
  induction trace with
  | nil => rfl
  | cons a rest ih =>
    cases a with
    | update u => simp [Action.update?] at silent
    | suspend | propose | submit | broadcast | substrate | track | recordExecution => exact ih silent

theorem statusAfter_append {status} (done more : List Action) :
    statusAfter status (done ++ more) = statusAfter (statusAfter status done) more := by
  simp [statusAfter]

/-- A rollback ends ROLLED_BACK when every rollback leg there was for a completed leg went
    through, and PARTIAL_ROLLBACK otherwise. -/
theorem rollback_undoes_in_reverse {deadline : Int} (finite : order.deadline.toInt = .ok deadline)
    (completed : List LegPlan) (status : OrderStatus) :
    RollsBack plan rollbackAnswers completed status
      (executeRollback order plan rollbackAnswers completed) := by
  obtain ⟨trace, failures, ran, submitted, silent, clean⟩ :=
    rollbackLegs_spec plan finite completed.reverse 0
  have judged : executeRollback order plan rollbackAnswers completed =
      ⟨[.update { status := some .rollingBack }] ++ trace ++
        [.update (if failures = [] then { status := some .rolledBack } else
          { status := some .partialRollback
            error := some (some ("Rollback failed for legs: " ++ renderIndices failures)) })],
        .ok ()⟩ := by
    unfold executeRollback
    rw [ran, setStatus, Traced.bind_ok rfl, Traced.bind_ok rfl]
    cases failures <;> rfl
  have status' : statusAfter status (executeRollback order plan rollbackAnswers completed).trace =
      if failures = [] then .rolledBack else .partialRollback := by
    rw [judged, statusAfter_append, statusAfter_append, statusAfter_of_silent silent]
    split <;> rfl
  constructor
  · rw [judged]
  · rw [judged, List.filterMap_append, List.filterMap_append, submitted]
    exact List.append_nil _
  · rw [status', ← clean]
    by_cases done : failures = []
    · simp [done]
    · simp [done]
  · rw [status']
    by_cases done : failures = []
    · simp [done]
    · simp [done]

end

def oneLeg : LegPlan := { legIndex := 0, chainId := 1 }

def secondLeg : LegPlan := { legIndex := 1, chainId := 8453 }

def undoesLegs : MultiLegPlan :=
  { forwardLegs := [oneLeg, secondLeg]
    rollbackLegs := [
      { legIndex := 100, chainId := 1, rollbackFor := some 0 },
      { legIndex := 101, chainId := 8453, rollbackFor := some 1 }] }

def undoneOrder : BookOrder :=
  { orderId := "o", appId := "app", intentFunction := "swap", params := [], submittedBy := "user" }

/-- The second leg is undone first, and the relayer refuses to undo the first. -/
def secondUndone (position : Nat) : Except PyError SubmitResult :=
  .ok { success := position = 0 }

theorem rollback_undoes_in_reverse_two_legs :
    RollsBack undoesLegs secondUndone [oneLeg, secondLeg] .executingLeg
        (executeRollback undoneOrder undoesLegs secondUndone [oneLeg, secondLeg]) ∧
      statusAfter .executingLeg
        (executeRollback undoneOrder undoesLegs secondUndone [oneLeg, secondLeg]).trace =
          .partialRollback :=
  ⟨rollback_undoes_in_reverse rfl [oneLeg, secondLeg] .executingLeg, by decide⟩

/-- A completed leg without a rollback leg is skipped, and the order ends ROLLED_BACK. -/
theorem missing_rollback_leg_ends_rolled_back :
    ¬ ∀ (order : BookOrder) (plan : MultiLegPlan) (rollbackAnswers : Nat → Except PyError SubmitResult)
        (completed : List LegPlan) (status : OrderStatus),
      statusAfter status (executeRollback order plan rollbackAnswers completed).trace = .rolledBack ↔
        ∀ entry ∈ completed.reverse.zipIdx, (rollbackOf plan entry.1).isSome ∧
          Succeeded (rollbackAnswers entry.2) := by
  intro claim
  have wanted := claim undoneOrder { forwardLegs := [oneLeg] } (fun _ => .ok { success := true })
    [oneLeg] .executingLeg
  revert wanted
  decide

end MinotaurSubnet.Blockloop
