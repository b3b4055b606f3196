import MinotaurSubnet.Blockloop.MultiLegProposals
import MinotaurSubnet.Blockloop.OrderPipeline

/-! # The fills of a perpetual order

The block loop claims the open orders that are not resting and takes them through the pipeline one
after the other, one call of the pipeline at a time; users submit and cancel orders in between.
A fill is counted, and its time taken, on the path of an order that is submitted as a whole.
-/

namespace MinotaurSubnet.Blockloop

open Library Python Consensus Shared Orderbook

def settled : Except PyError SubmitResult → Bool
  | .ok result => result.success
  | .error _ => false

/-- The relayer reports success; undoing a leg is no fill. -/
def OrderAnswers.succeeds (answers : OrderAnswers) : Submission → Bool
  | .order => settled answers.submit
  | .sourceLegs => settled answers.crossChain.submit
  | .forwardLeg position _ => settled (answers.leg position).submit
  | .rollbackLeg _ => false

structure OrderPass where
  orderId : String
  answers : OrderAnswers
  rest : List Action
  /-- The submission the relayer was handed with the last call. -/
  awaiting : Option Submission := none

def OrderPass.writes (pass : OrderPass) : Option ℚ :=
  match pass.rest with
  | .update u :: _ => u.lastFilledAt
  | _ => none

structure BlockLoop where
  book : Book
  clock : ℚ
  /-- What the tick has claimed and not processed yet. -/
  claimed : List String := []
  pass : Option OrderPass := none
  /-- The order and the time of every successful submission. No step reads it. -/
  fills : List (String × ℚ) := []

def BlockLoop.act (s : BlockLoop) (pass : OrderPass) : BlockLoop :=
  match pass.rest with
  | [] => { s with pass := none }
  | a :: rest =>
    let s := { s with pass := some { pass with rest, awaiting := none } }
    match a with
    | .update u => { s with book := s.book.updateOrder pass.orderId u }
    | .submit what _ => { s with pass := some { pass with rest, awaiting := some what } }
    | .suspend =>
      if pass.awaiting.any pass.answers.succeeds
      then { s with fills := s.fills ++ [(pass.orderId, s.clock)] } else s
    | _ => s

inductive TickEvent where
  | wait (now : ℚ)
  | submitted (order : BookOrder)
  | cancel (orderId submittedBy : String)
  | expireStale
  | snapshotOpen (maxCount : Int)
  /-- The next claimed order goes to `process`. -/
  | process (answers : OrderAnswers)
  | act

namespace TickEvent

section

variable (lower : String → String) (str : PyError → String) (node : Processor) (floor : PyFloat)

def step (s : BlockLoop) : TickEvent → BlockLoop × Unit
  | .wait now => ({ s with clock := now }, ())
  | .submitted order => ({ s with book := s.book.set order.orderId order }, ())
  | .cancel orderId submittedBy =>
    ({ s with book := (Book.cancel lower s.book orderId submittedBy).1 }, ())
  | .expireStale => ({ s with book := s.book.expireStale s.clock }, ())
  | .snapshotOpen maxCount =>
    let (book, claimed) := s.book.snapshotOpen s.clock floor maxCount
    ({ s with book, claimed }, ())
  | .process answers =>
    match s.claimed with
    | [] => (s, ())
    | orderId :: claimed =>
      match s.book.get? orderId with
      | none => ({ s with claimed }, ())
      | some order =>
        ({ s with
          claimed
          pass := some { orderId, answers, rest := tickTrace node order answers str } }, ())
  | .act => (s.pass.elim s s.act, ())

end

/-- Clocks do not go back, ids are fresh, ticks and passes follow each other, and what is written as
    the time is read off the clock. -/
def Happens (s : BlockLoop) : TickEvent → Prop
  | .wait now => s.clock ≤ now
  | .submitted order => s.book.get? order.orderId = none
  | .snapshotOpen _ => s.claimed = [] ∧ s.pass = none
  | .process _ => s.pass = none
  | .act => ∀ at_ ∈ s.pass.bind OrderPass.writes, at_ = s.clock
  | _ => True

instance (s : BlockLoop) : ∀ e, Decidable (Happens s e)
  | .wait now => inferInstanceAs (Decidable (s.clock ≤ now))
  | .submitted order => inferInstanceAs (Decidable (s.book.get? order.orderId = none))
  | .snapshotOpen _ => inferInstanceAs (Decidable (s.claimed = [] ∧ s.pass = none))
  | .process _ => inferInstanceAs (Decidable (s.pass = none))
  | .act => inferInstanceAs (Decidable (∀ at_ ∈ s.pass.bind OrderPass.writes, at_ = s.clock))
  | .cancel _ _ | .expireStale => .isTrue trivial

end TickEvent

def OrderAnswers.SubmitsWhole (node : Processor) (answers : OrderAnswers) : Prop :=
  ∀ generated, answers.generate = .ok (some generated) →
    if generated.crossChainPlan && node.hasCompiler then ∃ text, answers.compile = .error text
    else generated.crossChain = false ∧
      ∀ plan, generated.multiLeg = .ok (some plan) → plan.forwardLegs.length ≤ 1

/-- No pass over the order leaves the pipeline with legs. -/
def TickEvent.Whole (node : Processor) (orderId : String) (s : BlockLoop) : TickEvent → Prop
  | .process answers => s.claimed.head? = some orderId → answers.SubmitsWhole node
  | _ => True

/-- A pass goes on, waits for the relayer, has the answer, or has a fill to count. -/
inductive FillPhase where
  | running
  | asked
  | answered
  | filled

/-- The call counts no fill, and an order with `k` of `m` executions is put back only if one is left. -/
def Action.Calm (answers : OrderAnswers) (m k : Int) : Action → Prop
  | .update u => u.executionCount = none ∧ (u.status = some .open_ → k < m)
  | .submit what _ => answers.succeeds what = false
  | _ => True

/-- `Course answers m phase k rest`: what is left of a pass over an order with `k` of `m` executions.
    A fill is counted right after the relayer has answered. -/
inductive Course (answers : OrderAnswers) (m : Int) : FillPhase → Int → List Action → Prop
  | done {k : Int} : Course answers m .running k []
  | calm {k : Int} {a : Action} {rest : List Action} : a.Calm answers m k →
      Course answers m .running k rest → Course answers m .running k (a :: rest)
  | asks {k : Int} {consensus : Option ConsensusResult} {rest : List Action} :
      answers.succeeds .order = true → Course answers m .asked k rest →
      Course answers m .running k (.submit .order consensus :: rest)
  | answers {k : Int} {rest : List Action} : k < m → Course answers m .answered k rest →
      Course answers m .asked k (.suspend :: rest)
  | filled {k : Int} {u : OrderUpdate} {rest : List Action} : u.status = some .filled →
      u.executionCount = none → u.lastFilledAt = none → Course answers m .filled k rest →
      Course answers m .answered k (.update u :: rest)
  | counted {k : Int} {u : OrderUpdate} {at_ : ℚ} {rest : List Action} : u.status = none →
      u.executionCount = some (k + 1) → u.lastFilledAt = some at_ →
      Course answers m .running (k + 1) rest → Course answers m .filled k (.update u :: rest)

section

variable {answers : OrderAnswers} {m k : Int} {α β : Type}

theorem Action.Staged.calm {a : Action} (staged : a.Staged) : a.Calm answers m k := by
  cases a with
  | update u => exact ⟨staged.2.1, fun back => absurd back staged.1⟩
  | submit what consensus => exact staged.elim
  | suspend | propose | broadcast | substrate | track | recordExecution => trivial

theorem Action.Waiting.calm (left : k < m) {a : Action} (waiting : a.Waiting) : a.Calm answers m k := by
  cases a with
  | update u => exact ⟨waiting, fun _ => left⟩
  | submit what consensus => exact waiting.elim
  | suspend | propose | broadcast | substrate | track | recordExecution => trivial

theorem Course.append {phase calls more} (course : Course answers m phase k calls)
    (later : ∀ k, Course answers m .running k more) : Course answers m phase k (calls ++ more) := by
  induction course with
  | done => exact later _
  | calm here _ ih => exact .calm here ih
  | asks sent _ ih => exact .asks sent ih
  | answers left _ ih => exact .answers left ih
  | filled status count time _ ih => exact .filled status count time ih
  | counted status count time _ ih => exact .counted status count time ih

theorem course_of_calm {calls rest} (calm : ∀ a ∈ calls, a.Calm answers m k)
    (course : Course answers m .running k rest) : Course answers m .running k (calls ++ rest) := by
  induction calls with
  | nil => exact course
  | cons a calls ih =>
    exact .calm (calm a List.mem_cons_self) (ih fun b member => calm b (List.mem_cons_of_mem _ member))

theorem course_of_all {x : Pipeline α} (calm : x.All (Action.Calm answers m k)) :
    Course answers m .running k x.trace := by
  have course := course_of_calm calm .done
  rwa [List.append_nil] at course

theorem course_bind {x : Pipeline α} {f : α → Pipeline β} (calm : x.All (Action.Calm answers m k))
    (rest : ∀ a, x.result = .ok a → Course answers m .running k (f a).trace) :
    Course answers m .running k (x >>= f).trace := by
  cases ended : x.result with
  | error e =>
    rw [Traced.bind_error ended]
    exact course_of_all calm
  | ok a =>
    rw [Traced.bind_ok ended]
    exact course_of_calm calm (rest a ended)

variable {node : Processor}

theorem recordSettlement_calm {score result} :
    (recordSettlement node score result).All (Action.Calm answers m k) := by
  unfold recordSettlement
  split
  · exact Traced.all_emit.mpr trivial
  · split
    · exact Traced.all_pure _
    · exact Traced.all_emit.mpr trivial

theorem records_course {score result approved} :
    Course answers m .running k (do
      recordSettlement node score result
      return approved : Pipeline Bool).trace :=
  course_bind recordSettlement_calm fun _ _ => .done

end

section

variable {node : Processor} {order : BookOrder} {answers : OrderAnswers}

theorem settle_course (perpetual : order.perpetual = true)
    (left : order.executionCount < order.maxExecutions) {score consensus} :
    Course answers order.maxExecutions .running order.executionCount
      (settle node order answers score consensus).trace := by
  have awaited : (settle node order answers score consensus).trace =
      .submit .order consensus :: .suspend :: (Pipeline.raising answers.submit >>= fun result =>
        (if result.success then do
          .emit (.update {
            status := some .filled
            txHash := some result.txHash
            feePaid := some (node.feeEnabled && decide (0 < feeAmount node order)) })
          reopenPerpetual order answers
          recordSettlement node score result
          return true
        else do
          setStatusError .rejected (some (settlementError node result.error))
          recordSettlement node score result
          return false : Pipeline Bool)).trace := rfl
  rw [awaited]
  cases submitted : answers.submit with
  | error e =>
    have failed : answers.succeeds .order = false := by rw [OrderAnswers.succeeds, submitted, settled]
    exact .calm failed (.calm trivial .done)
  | ok result =>
    have outcome : answers.succeeds .order = result.success := by
      rw [OrderAnswers.succeeds, submitted, settled]
    rw [Traced.bind_ok (show (Pipeline.raising (.ok result)).result = .ok result from rfl)]
    by_cases success : result.success = true
    · rw [if_pos success]
      refine .asks (outcome.trans success) (.answers left (.filled rfl rfl rfl ?_))
      rw [reopenPerpetual, if_pos perpetual]
      by_cases again : order.executionCount + 1 < order.maxExecutions
      · rw [if_pos again]
        refine .counted rfl rfl rfl (.calm ⟨rfl, fun _ => again⟩ ?_)
        exact records_course
      · rw [if_neg again]
        exact .counted rfl rfl rfl records_course
    · rw [if_neg success]
      refine .calm (outcome.trans (Bool.eq_false_of_not_eq_true success)) (.calm trivial ?_)
      exact .calm ⟨rfl, by simp⟩ records_course

theorem submitApproved_course (perpetual : order.perpetual = true)
    (left : order.executionCount < order.maxExecutions) {plan : GeneratedPlan}
    (home : plan.crossChain = false) {simulation consensus} :
    Course answers order.maxExecutions .running order.executionCount
      (submitApproved node order answers plan simulation consensus).trace := by
  refine course_bind ((setStatusError_staged (by decide)).imp fun _ => Action.Staged.calm) fun _ _ => ?_
  refine course_bind (autoSign_staged.imp fun _ => Action.Staged.calm) fun _ _ => ?_
  rw [home]
  split
  · exact .done
  · exact settle_course perpetual left

theorem generate_of_planned {generated}
    (planned : (generatePlan order answers).result = .ok generated) :
    answers.generate = .ok (some generated) := by
  obtain ⟨_, -, planned⟩ := Traced.result_bind_eq_ok.mp planned
  obtain ⟨found, read, planned⟩ := Traced.result_bind_eq_ok.mp planned
  cases found with
  | none =>
    dsimp only [requeueOr] at planned
    split at planned <;> cases planned
  | some plan =>
    cases planned
    cases answered : answers.generate with
    | error e =>
      rw [answered] at read
      cases read
    | ok plan =>
      rw [answered] at read
      exact congrArg Except.ok (Except.ok.inj read)

theorem compiled_whole {generated plan : GeneratedPlan} (whole : answers.SubmitsWhole node)
    (planned : answers.generate = .ok (some generated))
    (compiled : (compilePlan node answers generated).result = .ok plan) :
    plan.crossChain = false ∧
      ∀ legs, plan.multiLeg = .ok (some legs) → legs.forwardLegs.length ≤ 1 := by
  have whole := whole generated planned
  unfold compilePlan at compiled
  split at compiled
  · next compiles =>
    rw [if_pos compiles] at whole
    obtain ⟨text, refused⟩ := whole
    rw [refused] at compiled
    cases compiled
  · next kept =>
    rw [if_neg kept] at whole
    cases compiled
    exact whole

theorem multiLegPath_calm {plan : GeneratedPlan} {m k}
    (single : ∀ legs, plan.multiLeg = .ok (some legs) → legs.forwardLegs.length ≤ 1) :
    (multiLegPath node order answers plan).All (Action.Calm answers m k) := by
  unfold multiLegPath
  cases legs : plan.multiLeg with
  | error e => exact (Traced.all_lift _).bind fun _ ended => by cases ended
  | ok split =>
    refine (Traced.all_lift _).bind fun multiLeg read => ?_
    cases read
    cases split with
    | none => exact Traced.all_pure _
    | some multiLeg =>
      dsimp only
      rw [if_neg (Nat.not_lt.mpr (single multiLeg legs))]
      exact Traced.all_pure _

theorem tickTrace_course (perpetual : order.perpetual = true)
    (left : order.executionCount < order.maxExecutions) (whole : answers.SubmitsWhole node)
    (str : PyError → String) :
    Course answers order.maxExecutions .running order.executionCount
      (tickTrace node order answers str) := by
  have staged {α : Type} {x : Pipeline α} (all : x.All Action.Staged) :
      x.All (Action.Calm answers order.maxExecutions order.executionCount) :=
    all.imp fun _ => Action.Staged.calm
  have waiting {α : Type} {x : Pipeline α} (all : x.All Action.Waiting) :
      x.All (Action.Calm answers order.maxExecutions order.executionCount) :=
    all.imp fun _ => Action.Waiting.calm left
  have processed : Course answers order.maxExecutions .running order.executionCount
      (processOrder node order answers).trace := by
    unfold processOrder
    split
    · exact course_of_all (staged reject_staged)
    · refine course_bind (staged fundsGate_staged) fun _ _ => ?_
      refine course_bind (waiting generatePlan_waiting) fun generated planned => ?_
      refine course_bind (Traced.all_lift _) fun fee _ => ?_
      refine course_bind (staged policyGate_staged) fun _ _ => ?_
      refine course_bind (staged (setStatus_staged (by decide))) fun _ _ => ?_
      refine course_bind (staged compilePlan_staged) fun plan compiled => ?_
      obtain ⟨home, single⟩ := compiled_whole whole (generate_of_planned planned) compiled
      refine course_bind (multiLegPath_calm single) fun _ _ => ?_
      refine course_bind (staged simulatePlan_staged) fun simulation _ => ?_
      refine course_bind (staged certifyFeeGate_staged) fun _ _ => ?_
      refine course_bind (staged scorePlan_staged) fun _ _ => ?_
      refine course_bind (waiting onChainScoreGate_waiting) fun _ _ => ?_
      refine course_bind (waiting consultOrder_waiting) fun consensus _ => ?_
      exact submitApproved_course perpetual left home
  unfold tickTrace
  dsimp only
  split
  · exact processed.append fun k => .calm ⟨rfl, by simp⟩ .done
  · exact processed

end

def BlockLoop.fillsOf (s : BlockLoop) (orderId : String) : List ℚ :=
  (s.fills.filter fun fill => fill.1 = orderId).map Prod.snd

structure Counted (o : BookOrder) (fills : List ℚ) : Prop where
  count : o.executionCount = fills.length
  time : ∀ t ∈ fills, t ≤ o.lastFilledAt

def FillPhase.Holds (pass : OrderPass) (o : BookOrder) (fills : List ℚ) : FillPhase → Prop
  | .running => Counted o fills ∧ pass.awaiting.any pass.answers.succeeds = false
  | .asked => Counted o fills ∧ pass.awaiting.any pass.answers.succeeds = true
  | .answered => (fills.length : Int) = o.executionCount + 1
  | .filled => (fills.length : Int) = o.executionCount + 1 ∧ o.status ≠ .open_

/-- An order with at most `m` executions, as the loop holds it. -/
structure Standing (orderId : String) (m : Int) (s : BlockLoop) (o : BookOrder) : Prop where
  times : ∀ t ∈ s.fillsOf orderId, 0 < t ∧ t ≤ s.clock
  bounded : ((s.fillsOf orderId).length : Int) ≤ m
  back : o.status = .open_ → o.executionCount < m
  claimed : orderId ∈ s.claimed → o.executionCount < m
  idle : (∀ pass, s.pass = some pass → pass.orderId ≠ orderId) → Counted o (s.fillsOf orderId)
  running : ∀ pass, s.pass = some pass → pass.orderId = orderId → orderId ∉ s.claimed ∧
    ∃ phase, Course pass.answers m phase o.executionCount pass.rest ∧
      phase.Holds pass o (s.fillsOf orderId)

structure FillInvariant (orderId : String) (order : Order) (s : BlockLoop) : Prop where
  clock : 0 < s.clock
  nodup : s.claimed.Nodup
  record : ∃ o, s.book.get? orderId = some o ∧ o.toOrder = order ∧
    Standing orderId order.maxExecutions s o

structure Untouched (o o' : BookOrder) : Prop where
  order : o'.toOrder = o.toOrder
  count : o'.executionCount = o.executionCount
  time : o'.lastFilledAt = o.lastFilledAt
  back : o'.status = .open_ → o.status = .open_

section

variable {book : Book} {orderId other : String} {o o' : BookOrder}

theorem Untouched.refl (o : BookOrder) : Untouched o o := ⟨rfl, rfl, rfl, id⟩

theorem Untouched.counted {fills} (same : Untouched o o') (counted : Counted o fills) :
    Counted o' fills :=
  ⟨same.count.trans counted.count, fun t filled => (counted.time t filled).trans_eq same.time.symm⟩

theorem untouched_cancel (lower : String → String) (found : book.get? orderId = some o)
    (submittedBy : String) :
    ∃ o', (Book.cancel lower book other submittedBy).1.get? orderId = some o' ∧ Untouched o o' := by
  unfold Book.cancel
  cases held : book.get? other with
  | none => exact ⟨o, found, .refl o⟩
  | some theirs =>
    dsimp only
    split
    · exact ⟨o, found, .refl o⟩
    · split
      · by_cases same : orderId = other
        · subst same
          cases found.symm.trans held
          exact ⟨_, Dict.get?_set_self _ _ _, rfl, rfl, rfl, fun back => by cases back⟩
        · exact ⟨o, (Dict.get?_set_ne _ _ same).trans found, .refl o⟩
      · exact ⟨o, found, .refl o⟩

theorem untouched_expireStale (found : book.get? orderId = some o) (now : ℚ) :
    ∃ o', (Book.expireStale book now).get? orderId = some o' ∧ Untouched o o' := by
  refine ⟨_, (Dict.get?_mapValues ..).trans (congrArg _ found), ?_⟩
  dsimp only
  split
  · exact ⟨rfl, rfl, rfl, fun back => by cases back⟩
  · exact .refl o

theorem untouched_snapshotOpen (found : book.get? orderId = some o) (now : ℚ) (floor : PyFloat)
    (maxCount : Int) :
    ∃ o', (Book.snapshotOpen book now floor maxCount).1.get? orderId = some o' ∧ Untouched o o' ∧
      (orderId ∈ (Book.snapshotOpen book now floor maxCount).2 → o.status = .open_) := by
  refine ⟨_, (Dict.get?_mapValues ..).trans (congrArg _ found), ?_, ?_⟩
  · dsimp only
    split
    · exact ⟨rfl, rfl, rfl, fun back => by cases back⟩
    · exact .refl o
  · intro claimed
    have opened := Book.open_of_claimable claimed
    rw [Book.statusOf, found] at opened
    exact Option.some.inj opened

end

section

variable {s : BlockLoop} {orderId : String} {m : Int} {o o' : BookOrder}

theorem Standing.untouched (standing : Standing orderId m s o) (same : Untouched o o') {book clock}
    (later : s.clock ≤ clock) : Standing orderId m { s with book, clock } o' where
  times := fun t filled => ⟨(standing.times t filled).1, (standing.times t filled).2.trans later⟩
  bounded := standing.bounded
  back := fun back => same.count ▸ standing.back (same.back back)
  claimed := fun claimed => same.count ▸ standing.claimed claimed
  idle := fun idle => same.counted (standing.idle idle)
  running := by
    intro pass going own
    obtain ⟨unclaimed, phase, course, holds⟩ := standing.running pass going own
    refine ⟨unclaimed, phase, same.count ▸ course, ?_⟩
    cases phase with
    | running => exact ⟨same.counted holds.1, holds.2⟩
    | asked => exact ⟨same.counted holds.1, holds.2⟩
    | answered => exact holds.trans (congrArg (· + 1) same.count.symm)
    | filled =>
      exact ⟨holds.1.trans (congrArg (· + 1) same.count.symm), fun back => holds.2 (same.back back)⟩

theorem Standing.elsewhere (standing : Standing orderId m s o)
    (other : ∀ pass, s.pass = some pass → pass.orderId ≠ orderId) {book pass fills}
    (theirs : ∀ p, pass = some p → p.orderId ≠ orderId)
    (added : ({ s with book, pass, fills } : BlockLoop).fillsOf orderId = s.fillsOf orderId) :
    Standing orderId m { s with book, pass, fills } o where
  times := by rw [added]; exact standing.times
  bounded := by rw [added]; exact standing.bounded
  back := standing.back
  claimed := standing.claimed
  idle := by rw [added]; exact fun _ => standing.idle other
  running := fun p going own => absurd own (theirs p going)

theorem untouched_of_calm {answers k u fills} (calm : (Action.update u).Calm answers m k)
    (counted : Counted o fills) (count : o.executionCount = k) (back : o.status = .open_ → k < m)
    (time : ∀ at_, u.lastFilledAt = some at_ → ∀ t ∈ fills, t ≤ at_) :
    Counted (o.update u) fills ∧ (o.update u).executionCount = k ∧
      ((o.update u).status = .open_ → k < m) := by
  have kept : (o.update u).executionCount = o.executionCount := by
    rw [BookOrder.update, calm.1, Option.getD_none]
  refine ⟨⟨kept.trans counted.count, ?_⟩, kept.trans count, ?_⟩
  · intro t filled
    rw [BookOrder.update]
    cases written : u.lastFilledAt with
    | none => exact counted.time t filled
    | some at_ => exact time at_ written t filled
  · rw [BookOrder.update_status]
    cases written : u.status with
    | none => exact back
    | some status => exact fun opened => calm.2 (written.trans (congrArg some opened))

theorem standing_of_pass {pass} (going : s.pass = some pass) (own : pass.orderId = orderId)
    (unclaimed : orderId ∉ s.claimed) (times : ∀ t ∈ s.fillsOf orderId, 0 < t ∧ t ≤ s.clock)
    (bounded : ((s.fillsOf orderId).length : Int) ≤ m)
    (back : o.status = .open_ → o.executionCount < m) {phase}
    (course : Course pass.answers m phase o.executionCount pass.rest)
    (holds : phase.Holds pass o (s.fillsOf orderId)) : Standing orderId m s o where
  times := times
  bounded := bounded
  back := back
  claimed := fun claimed => absurd claimed unclaimed
  idle := fun idle => absurd own (idle pass going)
  running := by
    intro p going' _
    cases going.symm.trans going'
    exact ⟨unclaimed, phase, course, holds⟩

theorem fillsOf_filled {s s' : BlockLoop} {at_} (added : s'.fills = s.fills ++ [(orderId, at_)]) :
    s'.fillsOf orderId = s.fillsOf orderId ++ [at_] := by
  simp [BlockLoop.fillsOf, added]

theorem get?_updateOrder {book : Book} (found : book.get? orderId = some o) (u : OrderUpdate) :
    (book.updateOrder orderId u).get? orderId = some (o.update u) := by
  rw [Book.updateOrder, found, Dict.get?_set_self]

theorem standing_act {pass : OrderPass} (standing : Standing orderId m s o)
    (found : s.book.get? orderId = some o) (going : s.pass = some pass) (own : pass.orderId = orderId)
    (clock : 0 < s.clock) (happens : TickEvent.Happens s .act) :
    ∃ o', (s.act pass).book.get? orderId = some o' ∧ o'.toOrder = o.toOrder ∧
      Standing orderId m (s.act pass) o' := by
  obtain ⟨unclaimed, phase, course, holds⟩ := standing.running pass going own
  have times := standing.times
  have bounded := standing.bounded
  have back := standing.back
  have read : ∀ u rest at_, pass.rest = .update u :: rest → u.lastFilledAt = some at_ → at_ = s.clock := by
    intro u rest at_ next written
    apply happens
    rw [going, Option.bind_some, OrderPass.writes, next]
    exact written
  subst own
  unfold BlockLoop.act
  generalize count : o.executionCount = k at course back
  generalize left : pass.rest = calls at course read ⊢
  cases course with
  | done =>
    refine ⟨o, found, rfl, times, bounded, count ▸ back, fun claimed => absurd claimed unclaimed, ?_, ?_⟩
    · exact fun _ => holds.1
    · exact fun _ gone => by cases gone
  | @calm k a rest calm course =>
    obtain ⟨counted, quiet⟩ := holds
    cases a with
    | update u =>
      have time : ∀ at_, u.lastFilledAt = some at_ → ∀ t ∈ s.fillsOf pass.orderId, t ≤ at_ :=
        fun at_ written t filled => (times t filled).2.trans_eq (read u rest at_ rfl written).symm
      obtain ⟨counted, count, back⟩ := untouched_of_calm calm counted count back time
      refine ⟨o.update u, get?_updateOrder found u, rfl, ?_⟩
      refine standing_of_pass rfl rfl unclaimed times bounded (count ▸ back) (count ▸ course) ?_
      exact ⟨counted, rfl⟩
    | submit what consensus =>
      refine ⟨o, found, rfl, ?_⟩
      refine standing_of_pass rfl rfl unclaimed times bounded (count ▸ back) (count ▸ course) ?_
      exact ⟨counted, calm⟩
    | suspend =>
      dsimp only
      rw [quiet, if_neg (by simp)]
      refine ⟨o, found, rfl, ?_⟩
      refine standing_of_pass rfl rfl unclaimed times bounded (count ▸ back) (count ▸ course) ?_
      exact ⟨counted, rfl⟩
    | propose | broadcast | substrate | track | recordExecution =>
      refine ⟨o, found, rfl, ?_⟩
      refine standing_of_pass rfl rfl unclaimed times bounded (count ▸ back) (count ▸ course) ?_
      exact ⟨counted, rfl⟩
  | @asks k consensus rest sent course =>
    refine ⟨o, found, rfl, ?_⟩
    refine standing_of_pass rfl rfl unclaimed times bounded (count ▸ back) (count ▸ course) ?_
    exact ⟨holds.1, sent⟩
  | @answers k rest left course =>
    obtain ⟨counted, answered⟩ := holds
    have added := @fillsOf_filled pass.orderId s { s with
      pass := some { pass with rest, awaiting := none }
      fills := s.fills ++ [(pass.orderId, s.clock)] } s.clock rfl
    have length := counted.count
    dsimp only
    rw [answered, if_pos rfl]
    refine ⟨o, found, rfl, standing_of_pass rfl rfl unclaimed ?_ ?_ (count ▸ back) (count ▸ course) ?_⟩
    · rw [added]
      intro t filled
      rcases List.mem_append.mp filled with earlier | now
      · exact times t earlier
      · obtain rfl := List.mem_singleton.mp now
        exact ⟨clock, le_rfl⟩
    · rw [added, List.length_append, List.length_singleton]
      omega
    · show ((BlockLoop.fillsOf _ _).length : Int) = _
      rw [added, List.length_append, List.length_singleton]
      omega
  | @filled k u rest status uncounted untimed course =>
    have kept : (o.update u).executionCount = k := by
      rw [BookOrder.update, uncounted, Option.getD_none, count]
    have filled : (o.update u).status = .filled := by
      rw [BookOrder.update_status, status, Option.getD_some]
    refine ⟨o.update u, get?_updateOrder found u, rfl, ?_⟩
    refine standing_of_pass rfl rfl unclaimed times bounded ?_ (kept ▸ course) ?_
    · exact fun opened => absurd (filled.symm.trans opened) (by decide)
    · refine ⟨holds.trans (by rw [kept, count]), ?_⟩
      rw [filled]
      decide
  | @counted k u at_ rest status counts written course =>
    obtain ⟨behind, shut⟩ := holds
    have added : (o.update u).executionCount = k + 1 := by
      rw [BookOrder.update, counts, Option.getD_some]
    have kept : (o.update u).status = o.status := by
      rw [BookOrder.update_status, status, Option.getD_none]
    refine ⟨o.update u, get?_updateOrder found u, rfl, ?_⟩
    refine standing_of_pass rfl rfl unclaimed times bounded ?_ (added ▸ course) ?_
    · exact fun opened => absurd (kept.symm.trans opened) shut
    · refine ⟨⟨added.trans (by rw [← count]; exact behind.symm), ?_⟩, rfl⟩
      intro t filled
      have now := read u rest at_ rfl written
      rw [BookOrder.update, written, Option.getD_some, now]
      exact (times t filled).2

theorem act_claimed (s : BlockLoop) (pass : OrderPass) :
    (s.act pass).claimed = s.claimed ∧ (s.act pass).clock = s.clock := by
  unfold BlockLoop.act
  split
  · exact ⟨rfl, rfl⟩
  · dsimp only
    split
    · exact ⟨rfl, rfl⟩
    · exact ⟨rfl, rfl⟩
    · split <;> exact ⟨rfl, rfl⟩
    · exact ⟨rfl, rfl⟩

theorem standing_act_elsewhere {pass} (standing : Standing orderId m s o)
    (found : s.book.get? orderId = some o) (going : s.pass = some pass)
    (other : pass.orderId ≠ orderId) :
    (s.act pass).book.get? orderId = some o ∧ Standing orderId m (s.act pass) o := by
  have outside : ∀ p, s.pass = some p → p.orderId ≠ orderId := by
    intro p going'
    cases going.symm.trans going'
    exact other
  have still : ∀ rest awaiting p, some { pass with rest, awaiting } = some p → p.orderId ≠ orderId := by
    rintro rest awaiting p going'
    cases going'
    exact other
  unfold BlockLoop.act
  split
  · exact ⟨found, standing.elsewhere outside (fun _ gone => by cases gone) rfl⟩
  · next a rest _ =>
    dsimp only
    split
    · refine ⟨?_, standing.elsewhere outside (still rest none) rfl⟩
      unfold Book.updateOrder
      split
      · exact found
      · exact (Dict.get?_set_ne _ _ other.symm).trans found
    · exact ⟨found, standing.elsewhere outside (still rest _) rfl⟩
    · split
      · refine ⟨found, standing.elsewhere outside (still rest none) ?_⟩
        simp [BlockLoop.fillsOf, other]
      · exact ⟨found, standing.elsewhere outside (still rest none) rfl⟩
    · exact ⟨found, standing.elsewhere outside (still rest none) rfl⟩

end

section

variable {lower : String → String} {str : PyError → String} {node : Processor} {floor : PyFloat}
  {orderId : String} {order : Order} {s : BlockLoop}

theorem claimable_nodup (now : ℚ) (floor : PyFloat) (slots : Nat) (book : Book) :
    (Book.claimable now floor slots book).Nodup :=
  book.keysNodup.sublist (((List.take_sublist _ _).trans List.filter_sublist).map Prod.fst)

theorem FillInvariant.step (invariant : FillInvariant orderId order s) (perpetual : order.perpetual = true)
    {e : TickEvent} (happens : e.Happens s) (whole : e.Whole node orderId s) :
    FillInvariant orderId order (e.step lower str node floor s).1 := by
  obtain ⟨clock, nodup, o, found, same, standing⟩ := invariant
  cases e with
  | wait now =>
    exact ⟨clock.trans_le happens, nodup, o, found, same, standing.untouched (.refl o) happens⟩
  | submitted fresh =>
    have other : orderId ≠ fresh.orderId := by
      rintro rfl
      rw [TickEvent.Happens, found] at happens
      cases happens
    refine ⟨clock, nodup, o, (Dict.get?_set_ne _ _ other).trans found, same, ?_⟩
    exact standing.untouched (.refl o) le_rfl
  | cancel other submittedBy =>
    obtain ⟨o', found', alike⟩ := @untouched_cancel _ _ other _ lower found submittedBy
    exact ⟨clock, nodup, o', found', alike.order.trans same, standing.untouched alike le_rfl⟩
  | expireStale =>
    obtain ⟨o', found', alike⟩ := untouched_expireStale found s.clock
    exact ⟨clock, nodup, o', found', alike.order.trans same, standing.untouched alike le_rfl⟩
  | snapshotOpen maxCount =>
    obtain ⟨_, idle⟩ := happens
    obtain ⟨o', found', alike, opened⟩ := untouched_snapshotOpen found s.clock floor maxCount
    have unheld : ∀ p, s.pass = some p → p.orderId ≠ orderId := fun p going => by
      rw [idle] at going
      cases going
    refine ⟨clock, claimable_nodup _ _ _ _, o', found', alike.order.trans same, ?_⟩
    have standing' := @Standing.untouched _ _ _ _ o' standing alike
      (Book.snapshotOpen s.book s.clock floor maxCount).1 _ le_rfl
    exact {
      times := standing'.times
      bounded := standing'.bounded
      back := standing'.back
      claimed := fun claimed => alike.count ▸ standing.back (opened claimed)
      idle := standing'.idle
      running := fun p going own => absurd own (unheld p going) }
  | process answers =>
    have unheld : ∀ p, s.pass = some p → p.orderId ≠ orderId := fun p going => by
      rw [show s.pass = none from happens] at going
      cases going
    have counted := standing.idle unheld
    cases claimed : s.claimed with
    | nil =>
      simp only [TickEvent.step, claimed]
      exact ⟨clock, nodup, o, found, same, standing⟩
    | cons head rest =>
      rw [claimed] at nodup
      obtain ⟨fresh, nodup⟩ := List.nodup_cons.mp nodup
      have left : orderId ∈ head :: rest → o.executionCount < order.maxExecutions :=
        fun member => standing.claimed (claimed ▸ member)
      have shorter : ∀ pass, (∀ p, pass = some p → p.orderId ≠ orderId) →
          Standing orderId order.maxExecutions { s with claimed := rest, pass } o :=
        fun pass theirs => {
          times := standing.times
          bounded := standing.bounded
          back := standing.back
          claimed := fun member => left (List.mem_cons_of_mem _ member)
          idle := fun _ => counted
          running := fun p going own => absurd own (theirs p going) }
      cases held : s.book.get? head with
      | none =>
        simp only [TickEvent.step, claimed, held]
        exact ⟨clock, nodup, o, found, same, shorter s.pass unheld⟩
      | some theirs =>
        simp only [TickEvent.step, claimed, held]
        refine ⟨clock, nodup, o, found, same, ?_⟩
        by_cases own : head = orderId
        · subst own
          cases found.symm.trans held
          subst same
          have course := tickTrace_course perpetual (left List.mem_cons_self)
            (whole (by rw [claimed]; rfl)) str
          exact standing_of_pass rfl rfl fresh standing.times standing.bounded standing.back course
            ⟨counted, rfl⟩
        · apply shorter
          rintro p going
          cases going
          exact own
  | act =>
    cases going : s.pass with
    | none =>
      have stays : (TickEvent.step lower str node floor s .act).1 = s := by
        rw [TickEvent.step, going]
        rfl
      rw [stays]
      exact ⟨clock, nodup, o, found, same, standing⟩
    | some pass =>
      have acts : (TickEvent.step lower str node floor s .act).1 = s.act pass := by
        rw [TickEvent.step, going]
        rfl
      obtain ⟨claimed, ticks⟩ := act_claimed s pass
      rw [acts]
      by_cases own : pass.orderId = orderId
      · obtain ⟨o', found', alike, standing'⟩ :=
          standing_act standing found going own clock happens
        exact ⟨ticks ▸ clock, claimed ▸ nodup, o', found', alike.trans same, standing'⟩
      · obtain ⟨found', standing'⟩ := standing_act_elsewhere standing found going own
        exact ⟨ticks ▸ clock, claimed ▸ nodup, o, found', same, standing'⟩

/-- `max(order.cooldown, floor)`. -/
def effectiveCooldown (order : Order) (floor : PyFloat) : PyFloat :=
  if order.cooldown.lt floor then floor else order.cooldown

theorem FillInvariant.rested (invariant : FillInvariant orderId order s)
    (perpetual : order.perpetual = true) {maxCount} (idle : s.pass = none)
    (claimed : orderId ∈ (Book.snapshotOpen s.book s.clock floor maxCount).2) :
    ∀ t ∈ s.fillsOf orderId, (PyFloat.fin (s.clock - t)).lt (effectiveCooldown order floor) = false := by
  obtain ⟨-, -, o, found, rfl, standing⟩ := invariant
  intro t filled
  obtain ⟨⟨k, o'⟩, taken, rfl⟩ := List.mem_map.mp claimed
  obtain ⟨member, kept⟩ := List.mem_filter.mp (List.mem_of_mem_take taken)
  obtain rfl : o = o' := Option.some.inj (found.symm.trans (Dict.get?_eq_some.mpr member))
  have counted := standing.idle fun p going => by
    rw [idle] at going
    cases going
  have before := counted.time t filled
  have positive := (standing.times t filled).1.trans_le before
  have rested : (PyFloat.fin (s.clock - o.lastFilledAt)).lt (effectiveCooldown o.toOrder floor) = false := by
    simp only [Bool.and_eq_true, Bool.not_eq_true'] at kept
    simpa [Book.cooling, perpetual, positive, effectiveCooldown] using kept.2
  have longer : s.clock - o.lastFilledAt ≤ s.clock - t := by linarith
  revert rested
  cases effectiveCooldown o.toOrder floor with
  | fin q =>
    simp [PyFloat.lt]
    exact fun rested => rested.trans longer
  | nan | negInf | posInf => simp [PyFloat.lt]

structure BlockLoop.Submitted (s : BlockLoop) (orderId : String) (order : BookOrder) : Prop where
  clock : 0 < s.clock
  known : s.book.get? orderId = some order
  unfilled : order.executionCount = 0 ∧ s.fillsOf orderId = []
  unclaimed : s.claimed.Nodup ∧ orderId ∉ s.claimed
  unheld : ∀ pass, s.pass = some pass → pass.orderId ≠ orderId

theorem BlockLoop.Submitted.invariant {order} (submitted : s.Submitted orderId order)
    (executions : 1 ≤ order.maxExecutions) : FillInvariant orderId order.toOrder s := by
  obtain ⟨count, unfilled⟩ := submitted.unfilled
  refine ⟨submitted.clock, submitted.unclaimed.1, order, submitted.known, rfl, ?_⟩
  constructor
  · simp [unfilled]
  · rw [unfilled]
    exact (by decide : (0 : Int) ≤ 1).trans executions
  · exact fun _ => by omega
  · exact fun claimed => absurd claimed submitted.unclaimed.2
  · exact fun _ => ⟨by simp [count, unfilled], by simp [unfilled]⟩
  · exact fun pass going own => absurd own (submitted.unheld pass going)

/-- Along every run in which the passes over a perpetual order submit it as a whole, it is filled at
    most `max_executions` times, `execution_count` is the number of its fills, and after a fill it is
    claimed only when it has rested. -/
theorem perpetual_fills_bounded {start : BlockLoop} {order : BookOrder}
    (submitted : start.Submitted orderId order) (perpetual : order.perpetual = true)
    (executions : 1 ≤ order.maxExecutions)
    (reached : Reaches (TickEvent.step lower str node floor)
      (fun s e => e.Happens s ∧ e.Whole node orderId s) start s) :
    ((s.fillsOf orderId).length : Int) ≤ order.maxExecutions ∧
      ((∀ pass, s.pass = some pass → pass.orderId ≠ orderId) → ∃ o, s.book.get? orderId = some o ∧
        o.executionCount = (s.fillsOf orderId).length) ∧
      ∀ maxCount, TickEvent.Happens s (.snapshotOpen maxCount) →
        orderId ∈ (Book.snapshotOpen s.book s.clock floor maxCount).2 → ∀ t ∈ s.fillsOf orderId,
          (PyFloat.fin (s.clock - t)).lt (effectiveCooldown order.toOrder floor) = false := by
  have invariant : FillInvariant orderId order.toOrder s :=
    reached.invariant (FillInvariant orderId order.toOrder) (submitted.invariant executions)
      fun _ _ held allowed => held.step perpetual allowed.1 allowed.2
  have rested := @FillInvariant.rested floor _ _ _ invariant perpetual
  obtain ⟨_, _, o, found, _, standing⟩ := invariant
  refine ⟨standing.bounded, fun idle => ⟨o, found, (standing.idle idle).count⟩, ?_⟩
  exact fun maxCount happens claimed => rested happens.2 claimed

end

def plainProcessor : Processor where
  orchestrator := twoLegNode
  hasConsensus := false
  hasWallets := false

def perpetualOrder (maxExecutions : Int) : BookOrder :=
  { twoLegOrder with perpetual := true, maxExecutions, cooldown := .fin 60 }

def goodPass (plan : GeneratedPlan) : OrderAnswers where
  app := some 1
  generate := .ok (some plan)
  simulate := .ok { success := true, onChainScore := some 9000 }
  score := .ok (some (.fin 1))
  planHash := .ok "0x"
  propose := .ok { reached := true }
  crossChain := { submit := .ok { success := true } }
  submit := .ok { success := true, txHash := some "0xaa" }
  leg := legAnswers (.ok { reached := true })
  rollback := fun _ => .ok { success := true }
  now := 100

def oneOrder (maxExecutions : Int) : BlockLoop where
  book := Dict.empty.set "ord_1" (perpetualOrder maxExecutions)
  clock := 100

def oneTick (plan : GeneratedPlan) : List TickEvent :=
  .snapshotOpen 50 :: .process (goodPass plan) :: List.replicate 40 .act

def tickStep : BlockLoop → TickEvent → BlockLoop × Unit :=
  TickEvent.step id (fun _ => "") plainProcessor (.fin 60)

theorem oneOrder_submitted (maxExecutions : Int) :
    (oneOrder maxExecutions).Submitted "ord_1" (perpetualOrder maxExecutions) where
  clock := (by decide : (0 : ℚ) < 100)
  known := rfl
  unfilled := ⟨rfl, rfl⟩
  unclaimed := ⟨List.nodup_nil, List.not_mem_nil⟩
  unheld := fun _ going => by cases going

/-- After its first fill at 100 the order rests until 160. -/
theorem perpetual_fills_bounded_once :
    ((runEvents tickStep (oneOrder 2) (oneTick {})).fillsOf "ord_1").length = 1 ∧
    ∃ o, (runEvents tickStep (oneOrder 2) (oneTick {})).book.get? "ord_1" = some o ∧
      o.executionCount = 1 := by
  have along : AllowedAlong tickStep TickEvent.Happens (oneOrder 2) (oneTick {}) := by decide +kernel
  have whole : ∀ e ∈ oneTick {}, ∀ s, TickEvent.Whole plainProcessor "ord_1" s e := by
    intro e member s
    cases e with
    | process answers =>
      rintro - generated planned
      simp only [oneTick, List.mem_cons, reduceCtorEq, List.mem_replicate, and_false, or_false,
        false_or, TickEvent.process.injEq] at member
      subst member
      cases planned
      exact ⟨rfl, fun plan split => by cases split⟩
    | wait | submitted | cancel | expireStale | snapshotOpen | act => trivial
  have filled : ((runEvents tickStep (oneOrder 2) (oneTick {})).fillsOf "ord_1").length = 1 := by
    decide +kernel
  have over_ : (runEvents tickStep (oneOrder 2) (oneTick {})).pass = none := by decide +kernel
  obtain ⟨-, counted, -⟩ := perpetual_fills_bounded (oneOrder_submitted 2) rfl (by decide)
    (along.and_of_forall whole).reaches
  obtain ⟨o, found, count⟩ := counted fun pass going => by
    rw [over_] at going
    cases going
  rw [filled] at count
  exact ⟨filled, o, found, count⟩

/-- Both legs of a split plan are filled for one execution, and nothing is counted. -/
theorem split_perpetual_uncounted :
    (oneOrder 1).Submitted "ord_1" (perpetualOrder 1) ∧
    AllowedAlong tickStep TickEvent.Happens (oneOrder 1) (oneTick { multiLeg := .ok (some twoLegPlan) }) ∧
    (runEvents tickStep (oneOrder 1) (oneTick { multiLeg := .ok (some twoLegPlan) })).pass = none ∧
    ((runEvents tickStep (oneOrder 1) (oneTick { multiLeg := .ok (some twoLegPlan) })).fillsOf
      "ord_1").length = 2 ∧
    ((runEvents tickStep (oneOrder 1) (oneTick { multiLeg := .ok (some twoLegPlan) })).book.get?
      "ord_1").map (·.executionCount) = some 0 :=
  ⟨oneOrder_submitted 1, by decide +kernel, by decide +kernel, by decide +kernel, by decide +kernel⟩

end MinotaurSubnet.Blockloop
