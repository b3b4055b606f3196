import MinotaurSubnet.Harness.RpcProxy.MeteredForwards

/-! # Budgets over whole runs

A run is watched with what each session id forwarded, and whether it was refused, since it was
last opened or reset. The meter of an enforcing session covers both. A reset that is refused
for its blocks has already cleared the meter, so the account holds as long as none of those
finds anything to clear.
-/

namespace MinotaurSubnet.Harness.RpcProxy

open Library Python BudgetProxy

structure MeterRun where
  run : ProxyRun
  /-- The cost of the requests forwarded since the last open or reset. -/
  forwarded : String → Nat := fun _ => 0
  refused : String → Bool := fun _ => false

def BudgetProxy.refuses (cfg : ProxyConfig) (p : BudgetProxy) (sessionId : String)
    (chain : Option String) (body : Body) : Bool :=
  (cfg.upstreams.get? (chainKey cfg chain)).isSome &&
    ((p.sessions.get? sessionId).any fun session => !(charge session (costAndShape body.json).1).2)

namespace MeterRun

def clear (s : MeterRun) (id : String) : MeterRun :=
  { s with
    forwarded := Function.update s.forwarded id 0
    refused := Function.update s.refused id false }

/-- What a data-plane request adds to the account of its session. -/
def book (s : MeterRun) (cfg : ProxyConfig) (id : String) (chain : Option String) (body : Body) :
    MeterRun :=
  match s.run.proxy.sessions.get? id, (s.run.proxy.handleRpc cfg id chain body).2 with
  | some _, .forward _ => { s with
      forwarded := Function.update s.forwarded id (s.forwarded id + (costAndShape body.json).1) }
  | some _, .answered _ =>
    if s.run.proxy.refuses cfg id chain body then
      { s with refused := Function.update s.refused id true }
    else s
  | none, _ => s

def account (s : MeterRun) (cfg : ProxyConfig) : ProxyEvent → MeterRun
  | .open request =>
    match (s.run.proxy.controlOpen cfg request).2 with
    | .ok _ => s.clear request.sessionId
    | .error _ => s
  | .reset id blocks =>
    match (s.run.proxy.controlReset id blocks).2 with
    | .ok _ => s.clear id
    | .error _ => s
  | .rpc id chain body => s.book cfg id chain body
  | _ => s

def step (cfg : ProxyConfig) (s : MeterRun) (e : ProxyEvent) : MeterRun × Option Served :=
  let stepped := ProxyRun.step cfg s.run e
  ({ s.account cfg e with run := stepped.1 }, stepped.2)

end MeterRun

/-- The budget a `control_open` asks for. -/
def requestedBudget (cfg : ProxyConfig) (request : OpenRequest) : Except PyError Int :=
  (request.budget.map Value.toInt).getD (.ok cfg.defaultBudget)

def KeepsMeter (cfg : ProxyConfig) (s : MeterRun) : ProxyEvent → Prop
  | .open request => ∀ budget, requestedBudget cfg request = .ok budget → 0 ≤ budget
  | .reset id (some raw) => ∀ session e, s.run.proxy.sessions.get? id = some session →
      normalizeBlocks raw = .error e → session.spent = 0 ∧ session.exhausted = false
  | _ => True

def ControlFails (cfg : ProxyConfig) (p : BudgetProxy) : ProxyEvent → Prop
  | .open request => ∃ e, (p.controlOpen cfg request).2 = .error e
  | .reset id blocks => ∃ e, (p.controlReset id blocks).2 = .error e
  | .close id => ∃ e, (p.controlClose id).2 = .error e
  | _ => False

/-- The budget is kept, a refused session stays refused, and a failed control call changes no
    session. -/
structure MeterHolds (cfg : ProxyConfig) (s : MeterRun) : Prop where
  within : ∀ id session, s.run.proxy.sessions.get? id = some session → session.mode = .enforce →
    (s.forwarded id : Int) ≤ session.budget
  stays : ∀ id session, s.run.proxy.sessions.get? id = some session → session.mode = .enforce →
    s.refused id = true → ∀ chain body, ∃ reply,
      (s.run.proxy.handleRpc cfg id chain body).2 = .answered reply ∧
      ((cfg.upstreams.get? (chainKey cfg chain)).isSome →
        reply = budgetExceeded (costAndShape body.json).2.1 (costAndShape body.json).2.2)
  atomic : ∀ e, KeepsMeter cfg s e → ControlFails cfg s.run.proxy e → ∀ id,
    (ProxyRun.step cfg s.run e).1.proxy.sessions.get? id = s.run.proxy.sessions.get? id

def Session.Covers (session : Session) (forwarded : Nat) (refused : Bool) : Prop :=
  session.mode = .enforce → forwarded ≤ session.spent ∧ (forwarded : Int) ≤ session.budget ∧
    (refused = true → session.exhausted = true)

def Accounted (s : MeterRun) : Prop :=
  ∀ id session, s.run.proxy.sessions.get? id = some session →
    session.Covers (s.forwarded id) (s.refused id)

section

variable {cfg : ProxyConfig} {s : MeterRun} {p : BudgetProxy} {session : Session}

theorem Session.Covers.fresh {forwarded refused} {session' : Session}
    (covers : session.Covers forwarded refused) (mode : session'.mode = session.mode)
    (budget : session'.budget = session.budget) : session'.Covers 0 false := by
  intro enforced
  obtain ⟨-, within, -⟩ := covers (mode ▸ enforced)
  refine ⟨Nat.zero_le _, ?_, by simp⟩
  rw [budget]
  omega

theorem Session.Covers.clear {id other} (covers : session.Covers (s.forwarded id) (s.refused id)) :
    session.Covers ((s.clear other).forwarded id) ((s.clear other).refused id) := by
  simp only [MeterRun.clear, Function.update_apply]
  split
  · exact covers.fresh rfl rfl
  · exact covers

theorem controlOpen_ok {request} (opened : (p.controlOpen cfg request).2 = .ok session) :
    requestedBudget cfg request = .ok session.budget ∧ session.spent = 0 := by
  unfold controlOpen at opened
  unfold requestedBudget
  split at opened
  · cases opened
  · split at opened
    · cases opened
    · cases opened
    next budget read =>
      dsimp only at opened
      split at opened
      · cases opened
      · cases opened
        exact ⟨read, rfl⟩

theorem controlOpen_failed {request e} (failed : (p.controlOpen cfg request).2 = .error e) :
    (p.controlOpen cfg request).1 = p := by
  unfold controlOpen at failed ⊢
  split
  · rfl
  · next named =>
    rw [if_neg named] at failed
    split
    · rfl
    · rfl
    · next budget read =>
      simp only [read] at failed
      dsimp only
      split
      · rfl
      · next blocks normalized =>
        rw [normalized] at failed
        cases failed

theorem accounted_open (inv : Accounted s) {request} (allowed : KeepsMeter cfg s (.open request)) :
    Accounted (s.step cfg (.open request)).1 := by
  intro id session found
  simp only [MeterRun.step, MeterRun.account, ProxyRun.step] at found ⊢
  cases get?_controlOpen found with
  | inl new =>
    obtain ⟨opened, made, rfl, rfl⟩ := new
    simp [made, MeterRun.clear]
    obtain ⟨budget, -⟩ := controlOpen_ok made
    exact fun _ => ⟨Nat.zero_le _, allowed _ budget, by simp⟩
  | inr old =>
    cases (s.run.proxy.controlOpen cfg request).2 with
    | ok opened => exact (inv id session old).clear
    | error e => exact inv id session old

theorem controlReset_cases {id} (blocks : Option Value)
    (known : p.sessions.get? id = some session) :
    (∃ session', (p.controlReset id blocks).2 = .ok session' ∧
        (p.controlReset id blocks).1 = p.withSession id session' ∧
        session'.mode = session.mode ∧ session'.budget = session.budget) ∨
      ∃ raw e, blocks = some raw ∧ normalizeBlocks raw = .error e ∧
        (p.controlReset id blocks).2 = .error e ∧
        (p.controlReset id blocks).1 = p.withSession id { session with spent := 0, exhausted := false } := by
  cases blocks with
  | none => exact .inl ⟨{ session with spent := 0, exhausted := false },
      by simp only [controlReset, known], by simp only [controlReset, known], rfl, rfl⟩
  | some raw =>
    cases read : normalizeBlocks raw with
    | error e =>
      exact .inr ⟨raw, e, rfl, read, by simp only [controlReset, known, read],
        by simp only [controlReset, known, read]⟩
    | ok blocks =>
      exact .inl ⟨{ session with spent := 0, exhausted := false, blocks := blocks },
        by simp only [controlReset, known, read], by simp only [controlReset, known, read], rfl, rfl⟩

theorem controlReset_unknown {id blocks} (unknown : p.sessions.get? id = none) :
    p.controlReset id blocks = (p, .error .unknownSession) := by
  unfold controlReset
  rw [unknown]

theorem get?_controlReset_refused {id blocks e} (allowed : KeepsMeter cfg s (.reset id blocks))
    (refused : (s.run.proxy.controlReset id blocks).2 = .error e) (other : String) :
    (s.run.proxy.controlReset id blocks).1.sessions.get? other =
      s.run.proxy.sessions.get? other := by
  cases known : s.run.proxy.sessions.get? id with
  | none => rw [controlReset_unknown known]
  | some session =>
    cases controlReset_cases blocks known with
    | inl accepted =>
      obtain ⟨session', answered, -⟩ := accepted
      rw [answered] at refused
      cases refused
    | inr invalid =>
      obtain ⟨raw, e, rfl, read, -, left⟩ := invalid
      obtain ⟨unspent, open_⟩ := allowed session e known read
      have same : { session with spent := 0, exhausted := false } = session := by
        rw [← unspent, ← open_]
      rw [left, same, withSession, Dict.get?_set]
      split
      · next here => rw [here, known]
      · rfl

theorem accounted_reset (inv : Accounted s) {id blocks}
    (allowed : KeepsMeter cfg s (.reset id blocks)) :
    Accounted (s.step cfg (.reset id blocks)).1 := by
  intro other session' found
  simp only [MeterRun.step, MeterRun.account, ProxyRun.step] at found ⊢
  cases answered : (s.run.proxy.controlReset id blocks).2 with
  | error e =>
    rw [get?_controlReset_refused allowed answered] at found
    exact inv other session' found
  | ok reset =>
    cases known : s.run.proxy.sessions.get? id with
    | none =>
      rw [controlReset_unknown known] at answered
      cases answered
    | some session =>
      cases controlReset_cases blocks known with
      | inr invalid =>
        obtain ⟨raw, e, -, -, refused, -⟩ := invalid
        rw [refused] at answered
        cases answered
      | inl accepted =>
        obtain ⟨session'', -, left, mode, budget⟩ := accepted
        rw [left] at found
        cases get?_withSession found with
        | inl here =>
          obtain ⟨rfl, rfl⟩ := here
          simp [MeterRun.clear]
          exact (inv other session known).fresh mode budget
        | inr before => exact (inv other session' before).clear

theorem accounted_close (inv : Accounted s) (id : String) :
    Accounted (s.step cfg (.close id)).1 := by
  intro other session found
  apply inv other session
  simp only [MeterRun.step, ProxyRun.step, controlClose] at found
  split at found
  · exact found
  · exact Dict.get?_erase_some found

theorem charge_refuses {cost} (refused : (charge session cost).2 = false) :
    (charge session cost).1 = { session with exhausted := true } := by
  obtain ⟨_, budget, mode, _, spent, exhausted, _⟩ := session
  cases mode with
  | observe => cases refused
  | enforce =>
    cases exhausted with
    | true => rfl
    | false =>
      by_cases exceeds : budget < (spent : Int) + cost
      · simp [charge, exceeds]
      · simp [charge, exceeds] at refused

structure Session.Grows (session session' : Session) : Prop where
  mode : session'.mode = session.mode
  budget : session'.budget = session.budget
  spent : session.spent ≤ session'.spent
  exhausted : session.exhausted = true → session'.exhausted = true

theorem Session.Covers.grows {forwarded refused session'}
    (covers : session.Covers forwarded refused) (grows : session.Grows session') :
    session'.Covers forwarded refused := by
  intro enforced
  obtain ⟨spent, within, stays⟩ := covers (grows.mode ▸ enforced)
  refine ⟨spent.trans grows.spent, ?_, fun marked => grows.exhausted (stays marked)⟩
  rw [grows.budget]
  exact within

theorem charge_grows (session : Session) (cost : Nat) : session.Grows (charge session cost).1 := by
  cases allowed : (charge session cost).2 with
  | false =>
    rw [charge_refuses allowed]
    exact ⟨rfl, rfl, le_rfl, fun _ => rfl⟩
  | true =>
    cases mode : session.mode with
    | observe =>
      rw [charge_observe cost mode]
      exact ⟨rfl, rfl, Nat.le_add_right _ _, id⟩
    | enforce =>
      rw [(charge_enforce mode allowed).2.2]
      exact ⟨rfl, rfl, Nat.le_add_right _ _, id⟩

theorem Session.Covers.charged {forwarded cost refused} (covers : session.Covers forwarded refused)
    (allowed : (charge session cost).2 = true) :
    (charge session cost).1.Covers (forwarded + cost) refused := by
  intro enforced
  rw [(charge_same session cost).2] at enforced
  obtain ⟨spent, -, stays⟩ := covers enforced
  obtain ⟨open_, within, left⟩ := charge_enforce enforced allowed
  rw [left]
  refine ⟨by dsimp only; omega, by dsimp only; omega, ?_⟩
  intro marked
  rw [stays marked] at open_
  cases open_

variable {sessionId : String} {chain : Option String} {body : Body}

/-- A request only ever raises a meter, but for a bucket it makes. -/
theorem get?_handleRpc {id session'}
    (found : (p.handleRpc cfg sessionId chain body).1.sessions.get? id = some session') :
    (∃ session, p.sessions.get? id = some session ∧ session.Grows session') ∨
      session'.mode = .observe := by
  have unchanged {session : Session} (same : p.sessions.get? id = some session) :
      ∃ session', p.sessions.get? id = some session' ∧ session'.Grows session :=
    ⟨session, same, rfl, rfl, le_rfl, fun spent => spent⟩
  unfold handleRpc at found
  split at found
  · exact .inl (unchanged found)
  · dsimp only at found
    split at found
    · unfold chargeAnon at found
      cases get?_withSession found with
      | inr before => exact .inl (unchanged before)
      | inl here =>
        obtain ⟨rfl, rfl⟩ := here
        cases p.sessions.get? anonSession with
        | none => exact .inr rfl
        | some anon => exact .inl ⟨anon, rfl, rfl, rfl, Nat.le_add_right _ _, fun spent => spent⟩
    · next session known =>
      have left : (p.withSession sessionId (charge session (costAndShape body.json).1).1).sessions.get? id =
          some session' := by
        split at found
        · rw [sessions_handleCharged] at found
          exact found
        · exact found
      cases get?_withSession left with
      | inr before => exact .inl (unchanged before)
      | inl here =>
        obtain ⟨rfl, rfl⟩ := here
        exact .inl ⟨session, known, charge_grows session _⟩

theorem handleRpc_refused (refuses : p.refuses cfg sessionId chain body = true) :
    ∃ session, p.sessions.get? sessionId = some session ∧
      p.handleRpc cfg sessionId chain body =
        (p.withSession sessionId { session with exhausted := true },
          .answered (budgetExceeded (costAndShape body.json).2.1 (costAndShape body.json).2.2)) := by
  unfold BudgetProxy.refuses at refuses
  rw [Bool.and_eq_true, Option.isSome_iff_exists, Option.any_eq_true] at refuses
  obtain ⟨⟨upstream, configured⟩, session, known, refused⟩ := refuses
  rw [Bool.not_eq_true'] at refused
  refine ⟨session, known, ?_⟩
  unfold handleRpc
  simp only [configured, known, refused, charge_refuses refused]
  rfl

theorem accounted_rpc (inv : Accounted s) : Accounted (s.step cfg (.rpc sessionId chain body)).1 := by
  intro id session' found
  simp only [MeterRun.step, MeterRun.account, ProxyRun.step] at found ⊢
  have kept : session'.Covers (s.forwarded id) (s.refused id) := by
    cases get?_handleRpc found with
    | inl grown =>
      obtain ⟨session, known, grows⟩ := grown
      exact (inv id session known).grows grows
    | inr observed =>
      intro enforced
      rw [observed] at enforced
      cases enforced
  unfold MeterRun.book
  split
  · next session f known served =>
    dsimp only
    rw [Function.update_apply]
    split
    · next here =>
      subst here
      obtain ⟨-, allowed, left, -⟩ := handleRpc_session known served
      rw [left] at found
      cases found
      exact (inv id session known).charged allowed
    · exact kept
  · next session reply known served =>
    split
    · next refuses =>
      dsimp only
      rw [Function.update_apply]
      split
      · next here =>
        subst here
        obtain ⟨session, -, handled⟩ := handleRpc_refused refuses
        rw [handled, withSession, Dict.get?_set_self] at found
        cases found
        intro enforced
        obtain ⟨spent, within, -⟩ := kept enforced
        exact ⟨spent, within, fun _ => rfl⟩
      · exact kept
    · exact kept
  · exact kept

theorem accounted_step (s : MeterRun) (e : ProxyEvent) (inv : Accounted s)
    (allowed : KeepsMeter cfg s e) : Accounted (s.step cfg e).1 := by
  cases e with
  | «open» request => exact accounted_open inv allowed
  | reset id blocks => exact accounted_reset inv allowed
  | close id => exact accounted_close inv id
  | rpc id chain body => exact accounted_rpc inv
  | arrive k arrival =>
    intro id session found
    simp only [MeterRun.step, ProxyRun.step] at found
    split at found
    · rw [sessions_arrive] at found
      exact inv id session found
    · exact inv id session found
  | snapshot => exact inv
  | restore =>
    intro id session found
    simp only [MeterRun.step, ProxyRun.step] at found
    split at found
    · exact inv id session found
    · exact inv id session found

theorem handleRpc_exhausted (known : p.sessions.get? sessionId = some session)
    (enforced : session.mode = .enforce) (exhausted : session.exhausted = true) :
    ∃ reply, (p.handleRpc cfg sessionId chain body).2 = .answered reply ∧
      ((cfg.upstreams.get? (chainKey cfg chain)).isSome →
        reply = budgetExceeded (costAndShape body.json).2.1 (costAndShape body.json).2.2) := by
  have refused : (charge session (costAndShape body.json).1).2 = false := by
    unfold charge
    simp [enforced, exhausted]
  cases configured : cfg.upstreams.get? (chainKey cfg chain) with
  | none =>
    unfold handleRpc
    rw [configured]
    exact ⟨_, rfl, by simp⟩
  | some upstream =>
    have refuses : p.refuses cfg sessionId chain body = true := by
      simp [BudgetProxy.refuses, configured, known, refused]
    obtain ⟨_, -, handled⟩ := handleRpc_refused refuses
    rw [handled]
    exact ⟨_, rfl, fun _ => rfl⟩

theorem controlFails_unchanged {e} (allowed : KeepsMeter cfg s e)
    (fails : ControlFails cfg s.run.proxy e) (id : String) :
    (ProxyRun.step cfg s.run e).1.proxy.sessions.get? id = s.run.proxy.sessions.get? id := by
  cases e with
  | «open» request =>
    obtain ⟨e, failed⟩ := fails
    simp only [ProxyRun.step, controlOpen_failed failed]
  | reset id' blocks =>
    obtain ⟨e, failed⟩ := fails
    exact get?_controlReset_refused allowed failed id
  | close id' =>
    obtain ⟨e, failed⟩ := fails
    simp only [ProxyRun.step, controlClose] at failed ⊢
    split
    · rfl
    · next session known =>
      rw [known] at failed
      cases failed
  | rpc | arrive | snapshot | restore => exact fails.elim

/-- In a run that keeps the meters every budget is kept, a refused session stays refused, and a
    failed control call changes no session. -/
theorem meters_hold {disk : PinCache} (run : Reaches (MeterRun.step cfg) (KeepsMeter cfg)
    { run := ⟨.empty, [], disk⟩ } s) : MeterHolds cfg s := by
  have accounted : Accounted s := by
    refine run.invariant Accounted ?_ fun s e => accounted_step s e
    intro id session found
    cases found
  constructor
  · exact fun id session known enforced => (accounted id session known enforced).2.1
  · intro id session known enforced marked chain body
    exact handleRpc_exhausted known enforced ((accounted id session known enforced).2.2 marked)
  · exact fun e allowed fails id => controlFails_unchanged allowed fails id

end

def spendFive : List ProxyEvent := [.open openFive, .rpc "run-1" (some "eth") headCall]

def spentRun : MeterRun := runEvents (MeterRun.step (oneChain true)) { run := idleRun } spendFive

theorem meters_hold_spent_run : MeterHolds (oneChain true) spentRun := by
  have along : AllowedAlong (MeterRun.step (oneChain true)) (KeepsMeter (oneChain true))
      { run := idleRun } spendFive := by
    refine ⟨?_, trivial, trivial⟩
    intro budget asked
    cases asked
    decide
  exact meters_hold along.reaches

/-- A reset that answers 400 for its blocks has cleared the meter. -/
theorem refused_reset_clears_the_meter :
    ¬ ∀ (cfg : ProxyConfig) (s : MeterRun),
      Reaches (MeterRun.step cfg) (fun _ _ => True) { run := idleRun } s →
      ∀ e, ControlFails cfg s.run.proxy e → ∀ id,
        (ProxyRun.step cfg s.run e).1.proxy.sessions.get? id = s.run.proxy.sessions.get? id := by
  intro claim
  have unchanged := claim (oneChain true) spentRun (reaches_runEvents _ _ _)
    (.reset "run-1" (some (.str "latest"))) ⟨.blocksNotObject, rfl⟩ "run-1"
  have spent := congrArg (Option.map Session.spent) unchanged
  revert spent
  decide +kernel

end MinotaurSubnet.Harness.RpcProxy
