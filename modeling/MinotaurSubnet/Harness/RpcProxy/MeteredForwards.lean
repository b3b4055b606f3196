import MinotaurSubnet.Harness.RpcProxy.BudgetProxy
import MinotaurSubnet.Python.JsonTexts

/-! # What is forwarded, and on whose account

While every opened session enforces a budget and pins every chain, a request that names a
registered session goes upstream only within that budget and as the pin rewrites it. Any
other id is counted on the anonymous bucket and goes upstream as it came; an id whose
session has been evicted is one of these.
-/

namespace MinotaurSubnet.Harness.RpcProxy

open Library Python BudgetProxy

structure Session.Guards (cfg : ProxyConfig) (session : Session) : Prop where
  enforced : session.mode = .enforce
  pinned : ∀ chain url, cfg.upstreams.get? chain = some url → (session.blocks.get? chain).isSome

structure Session.IsBucket (session : Session) : Prop where
  observed : session.mode = .observe
  unpinned : ∀ chain, session.blocks.get? chain = none

def AllGuard (cfg : ProxyConfig) (p : BudgetProxy) : Prop :=
  ∀ id session, p.sessions.get? id = some session →
    session.Guards cfg ∨ (id = anonSession ∧ session.IsBucket)

def OpensGuarding (cfg : ProxyConfig) (s : ProxyRun) : ProxyEvent → Prop
  | .open request => ∀ session, (s.proxy.controlOpen cfg request).2 = .ok session → session.Guards cfg
  | .reset sessionId blocks =>
    ∀ session, (s.proxy.controlReset sessionId blocks).2 = .ok session → session.Guards cfg
  | _ => True

/-- The cost was charged to the session the request names, within its budget, and the body
    goes upstream as the session's pin has it. -/
def Metered (cfg : ProxyConfig) (p : BudgetProxy) (sessionId : String) (chain : Option String)
    (body : Body) (f : Forward) : Prop :=
  ∃ session block, p.sessions.get? sessionId = some session ∧ session.Guards cfg ∧
    session.exhausted = false ∧
    ((session.spent + (costAndShape body.json).1 : Nat) : Int) ≤ session.budget ∧
    ((p.handleRpc cfg sessionId chain body).1.sessions.get? sessionId).map (·.spent) =
      some (session.spent + (costAndShape body.json).1) ∧
    session.blocks.get? (chainKey cfg chain) = some block ∧ ForwardedAs (some block) body f.payload

/-- No guarding session has the id; the cost is counted on the bucket and the body goes
    upstream as it came. -/
def Anonymous (cfg : ProxyConfig) (p : BudgetProxy) (sessionId : String) (chain : Option String)
    (body : Body) (f : Forward) : Prop :=
  (∀ session, p.sessions.get? sessionId = some session → ¬ session.Guards cfg) ∧
    ((p.handleRpc cfg sessionId chain body).1.sessions.get? anonSession).map (·.spent) =
      some (((p.sessions.get? anonSession).map (·.spent)).getD 0 + (costAndShape body.json).1) ∧
    f.payload = .raw body

section

variable {cfg : ProxyConfig} {p : BudgetProxy} {sessionId : String} {chain : Option String}
  {body : Body} {f : Forward}

theorem anonymous_of_unknown (unknown : p.sessions.get? sessionId = none)
    (served : (p.handleRpc cfg sessionId chain body).2 = .forward f) :
    Anonymous cfg p sessionId chain body f := by
  unfold Anonymous handleRpc at *
  split at served
  · cases served
  next upstream configured =>
    rw [unknown] at served ⊢
    cases served
    refine ⟨fun session found => by simp at found, ?_, rfl⟩
    simp [chargeAnon, withSession, Dict.get?_set_self]
    cases p.sessions.get? anonSession with
    | none => rfl
    | some anon => rfl

theorem metered_of_guards {session} (known : p.sessions.get? sessionId = some session)
    (guards : session.Guards cfg) (served : (p.handleRpc cfg sessionId chain body).2 = .forward f) :
    Metered cfg p sessionId chain body f := by
  obtain ⟨⟨url, configured⟩, allowed, left, forwarded⟩ := handleRpc_session known served
  obtain ⟨unexhausted, within, charged⟩ := charge_enforce guards.enforced allowed
  obtain ⟨block, pinned⟩ := Option.isSome_iff_exists.mp (guards.pinned _ url configured)
  refine ⟨session, block, known, guards, unexhausted, within, ?_, pinned, ?_⟩
  · rw [left, charged]
    rfl
  · rw [pinned] at forwarded
    exact forwarded

theorem anonymous_of_bucket {session} (known : p.sessions.get? anonSession = some session)
    (bucket : session.IsBucket) (served : (p.handleRpc cfg anonSession chain body).2 = .forward f) :
    Anonymous cfg p anonSession chain body f := by
  obtain ⟨-, -, left, forwarded⟩ := handleRpc_session known served
  refine ⟨?_, ?_, ?_⟩
  · intro session' found guards
    rw [known] at found
    cases found
    exact absurd (bucket.observed.symm.trans guards.enforced) (by decide)
  · rw [left, charge_observe _ bucket.observed, known]
    rfl
  · rw [bucket.unpinned] at forwarded
    generalize f.payload = payload at forwarded ⊢
    cases forwarded with
    | unpinned | unparsed | constant => rfl
    | single pinned => cases pinned
    | batch pinned => cases pinned

theorem metered_or_anonymous (guard : AllGuard cfg p)
    (served : (p.handleRpc cfg sessionId chain body).2 = .forward f) :
    Metered cfg p sessionId chain body f ∨ Anonymous cfg p sessionId chain body f := by
  cases known : p.sessions.get? sessionId with
  | none => exact .inr (anonymous_of_unknown known served)
  | some session =>
    cases guard sessionId session known with
    | inl guards => exact .inl (metered_of_guards known guards served)
    | inr bucket =>
      obtain ⟨rfl, bucket⟩ := bucket
      exact .inr (anonymous_of_bucket known bucket served)

end

theorem Session.Guards.congr {cfg} {session session' : Session} (guards : session.Guards cfg)
    (mode : session'.mode = session.mode) (blocks : session'.blocks = session.blocks) :
    session'.Guards cfg :=
  ⟨mode.trans guards.enforced, blocks ▸ guards.pinned⟩

theorem Session.IsBucket.congr {session session' : Session} (bucket : session.IsBucket)
    (mode : session'.mode = session.mode) (blocks : session'.blocks = session.blocks) :
    session'.IsBucket :=
  ⟨mode.trans bucket.observed, blocks ▸ bucket.unpinned⟩

section

variable {cfg : ProxyConfig} {p p' : BudgetProxy}

variable {session : Session}

theorem AllGuard.set (guard : AllGuard cfg p) {id}
    (sessions : ∀ id' session', p'.sessions.get? id' = some session' →
      (id' = id ∧ session' = session) ∨ p.sessions.get? id' = some session')
    (guards : session.Guards cfg ∨ (id = anonSession ∧ session.IsBucket)) : AllGuard cfg p' := by
  intro id' session' found
  cases sessions id' session' found with
  | inl here =>
    obtain ⟨rfl, rfl⟩ := here
    exact guards
  | inr before => exact guard id' session' before

theorem get?_withSession {id id' session session'}
    (found : (p.withSession id session).sessions.get? id' = some session') :
    (id' = id ∧ session' = session) ∨ p.sessions.get? id' = some session' := by
  simp only [withSession, Dict.get?_set] at found
  split at found
  next same => exact .inl ⟨same, (Option.some.inj found).symm⟩
  next => exact .inr found

theorem AllGuard.chargeAnon (guard : AllGuard cfg p) (cost : Nat) : AllGuard cfg (p.chargeAnon cfg cost) := by
  unfold BudgetProxy.chargeAnon
  refine guard.set (fun _ _ found => get?_withSession found) ?_
  cases known : p.sessions.get? anonSession with
  | none => exact .inr ⟨rfl, rfl, fun _ => rfl⟩
  | some anon =>
    cases guard anonSession anon known with
    | inl guards => exact .inl (guards.congr rfl rfl)
    | inr bucket => exact .inr ⟨rfl, bucket.2.congr rfl rfl⟩

theorem AllGuard.handleRpc (guard : AllGuard cfg p) (sessionId : String) (chain : Option String)
    (body : Body) : AllGuard cfg (p.handleRpc cfg sessionId chain body).1 := by
  unfold BudgetProxy.handleRpc
  split
  · exact guard
  · cases known : p.sessions.get? sessionId with
    | none => exact guard.chargeAnon _
    | some session =>
      have same := charge_same session (costAndShape body.json).1
      have metered : AllGuard cfg
          (p.withSession sessionId (charge session (costAndShape body.json).1).1) := by
        refine guard.set (fun _ _ found => get?_withSession found) ?_
        cases guard sessionId session known with
        | inl guards => exact .inl (guards.congr same.2 same.1)
        | inr bucket => exact .inr ⟨bucket.1, bucket.2.congr same.2 same.1⟩
      simp only
      split
      · intro id session' found
        rw [sessions_handleCharged] at found
        exact metered id session' found
      · exact metered

theorem get?_evict {id} (rounds : Nat) (sessions : Dict String Session)
    (kept : (evict sessions rounds).get? id = some session) : sessions.get? id = some session := by
  induction rounds generalizing sessions with
  | zero => exact kept
  | succ rounds ih =>
    unfold evict at kept
    split at kept
    · exact kept
    · split at kept
      · exact kept
      · exact Dict.get?_erase_some (ih _ kept)

theorem evict_of_room {sessions} (room : sessions.size < maxSessions) (rounds : Nat) :
    evict sessions rounds = sessions := by
  cases rounds with
  | zero => rfl
  | succ rounds =>
    unfold evict
    rw [if_pos room]

theorem get?_controlOpen {request : OpenRequest} {id}
    (found : (p.controlOpen cfg request).1.sessions.get? id = some session) :
    (∃ opened, (p.controlOpen cfg request).2 = .ok opened ∧ id = request.sessionId ∧ session = opened) ∨
      p.sessions.get? id = some session := by
  unfold controlOpen at *
  split at found
  · exact .inr found
  next named =>
    rw [if_neg named]
    split at found
    · exact .inr found
    · exact .inr found
    next budget read =>
      simp only at found ⊢
      split at found
      · exact .inr found
      next blocks normalized =>
        simp only
        rw [Dict.get?_set] at found
        split at found
        next same =>
          cases found
          exact .inl ⟨_, rfl, same, rfl⟩
        next =>
          split at found
          · exact .inr found
          · exact .inr (get?_evict _ _ found)

theorem get?_controlOpen_of_room {request : OpenRequest} {id}
    (known : p.sessions.get? id = some session)
    (room : p.sessions.size < maxSessions ∨ (p.sessions.get? request.sessionId).isSome) :
    ((p.controlOpen cfg request).1.sessions.get? id).isSome := by
  have stays : (p.sessions.get? id).isSome := by rw [known]; rfl
  unfold controlOpen
  split
  · exact stays
  · split
    · exact stays
    · exact stays
    · simp only
      split
      · exact stays
      · rw [Dict.get?_set]
        split
        · rfl
        · split
          · exact stays
          next unknown =>
            rw [evict_of_room (room.resolve_right unknown)]
            exact stays

theorem AllGuard.controlOpen (guard : AllGuard cfg p) {request}
    (opens : ∀ session, (p.controlOpen cfg request).2 = .ok session → session.Guards cfg) :
    AllGuard cfg (p.controlOpen cfg request).1 := by
  intro id session found
  cases get?_controlOpen found with
  | inl opened =>
    obtain ⟨session, made, -, rfl⟩ := opened
    exact .inl (opens session made)
  | inr before => exact guard id session before

theorem AllGuard.controlReset (guard : AllGuard cfg p) {sessionId blocks}
    (resets : ∀ session, (p.controlReset sessionId blocks).2 = .ok session → session.Guards cfg) :
    AllGuard cfg (p.controlReset sessionId blocks).1 := by
  unfold BudgetProxy.controlReset at *
  cases known : p.sessions.get? sessionId with
  | none => exact guard
  | some session =>
    rw [known] at resets
    simp only at resets ⊢
    split
    · exact guard.set (fun _ _ found => get?_withSession found) (.inl (resets _ rfl))
    · split
      next e refused =>
        refine guard.set (fun _ _ found => get?_withSession found) ?_
        cases guard sessionId session known with
        | inl guards => exact .inl (guards.congr rfl rfl)
        | inr bucket => exact .inr ⟨bucket.1, bucket.2.congr rfl rfl⟩
      next normal read =>
        simp only [read] at resets
        exact guard.set (fun _ _ found => get?_withSession found) (.inl (resets _ rfl))

theorem AllGuard.controlClose (guard : AllGuard cfg p) (sessionId : String) :
    AllGuard cfg (p.controlClose sessionId).1 := by
  unfold BudgetProxy.controlClose
  split
  · exact guard
  · exact fun id session found => guard id session (Dict.get?_erase_some found)

theorem sessions_arrive (cfg : ProxyConfig) (p : BudgetProxy) (fill : Fill) (arrival : Arrival) :
    (p.arrive cfg fill arrival).sessions = p.sessions := by
  unfold arrive
  split
  · split <;> rfl
  · rfl
  · rfl

end

theorem allGuard_step {cfg s} (guard : AllGuard cfg s.proxy) (e : ProxyEvent)
    (allowed : OpensGuarding cfg s e) : AllGuard cfg (ProxyRun.step cfg s e).1.proxy := by
  cases e with
  | «open» request => exact guard.controlOpen allowed
  | reset sessionId blocks => exact guard.controlReset allowed
  | close sessionId => exact guard.controlClose sessionId
  | rpc sessionId chain body => exact guard.handleRpc sessionId chain body
  | arrive k arrival =>
    simp only [ProxyRun.step]
    split
    · intro id session found
      rw [sessions_arrive] at found
      exact guard id session found
    · exact guard
  | snapshot => exact guard
  | restore =>
    simp only [ProxyRun.step]
    split
    · exact guard
    · exact guard

theorem isSome_withSession {p : BudgetProxy} {id other session}
    (known : (p.sessions.get? id).isSome) :
    ((p.withSession other session).sessions.get? id).isSome := by
  simp only [withSession, Dict.get?_set]
  split
  · rfl
  · exact known

theorem isSome_handleRpc {cfg} {p : BudgetProxy} {id} (known : (p.sessions.get? id).isSome)
    (sessionId : String) (chain : Option String) (body : Body) :
    ((p.handleRpc cfg sessionId chain body).1.sessions.get? id).isSome := by
  unfold handleRpc
  split
  · exact known
  · simp only
    split
    · exact isSome_withSession known
    · split
      · rw [sessions_handleCharged]
        exact isSome_withSession known
      · exact isSome_withSession known

/-- A session leaves only by being closed, or when a new id is opened with the registry full. -/
theorem registered_step (cfg : ProxyConfig) (s : ProxyRun) (e : ProxyEvent) (id : String)
    (known : (s.proxy.sessions.get? id).isSome) :
    ((ProxyRun.step cfg s e).1.proxy.sessions.get? id).isSome ∨ e = .close id ∨
      ∃ request, e = .open request ∧ maxSessions ≤ s.proxy.sessions.size ∧
        s.proxy.sessions.get? request.sessionId = none := by
  cases e with
  | «open» request =>
    by_cases room : s.proxy.sessions.size < maxSessions ∨
        (s.proxy.sessions.get? request.sessionId).isSome
    · obtain ⟨session, found⟩ := Option.isSome_iff_exists.mp known
      exact .inl (get?_controlOpen_of_room found room)
    · rw [not_or, Nat.not_lt, Option.not_isSome_iff_eq_none] at room
      exact .inr (.inr ⟨request, rfl, room⟩)
  | reset sessionId blocks =>
    left
    simp only [ProxyRun.step, controlReset]
    split
    · exact known
    · split
      · exact isSome_withSession known
      · split <;> exact isSome_withSession known
  | close sessionId =>
    by_cases here : id = sessionId
    · exact .inr (.inl (here ▸ rfl))
    · left
      simp only [ProxyRun.step, controlClose]
      split
      · exact known
      · simp only [Dict.get?_erase, if_neg here]
        exact known
  | rpc sessionId chain body => exact .inl (isSome_handleRpc known sessionId chain body)
  | arrive k arrival =>
    left
    simp only [ProxyRun.step]
    split
    · rw [sessions_arrive]
      exact known
    · exact known
  | snapshot => exact .inl known
  | restore =>
    left
    simp only [ProxyRun.step]
    split <;> exact known

/-- As long as sessions are opened to enforce and pin, a request is forwarded on the budget of the
    session it names and as that pins it, or it names no such session and is counted on the
    bucket; a session leaves the registry only when it is closed or the registry is full. -/
theorem metered_forwards (cfg : ProxyConfig) (start s : ProxyRun) (guard : AllGuard cfg start.proxy)
    (run : Reaches (ProxyRun.step cfg) (OpensGuarding cfg) start s) :
    (∀ sessionId chain body f, (s.proxy.handleRpc cfg sessionId chain body).2 = .forward f →
        Metered cfg s.proxy sessionId chain body f ∨ Anonymous cfg s.proxy sessionId chain body f) ∧
      ∀ e id, (s.proxy.sessions.get? id).isSome →
        ((ProxyRun.step cfg s e).1.proxy.sessions.get? id).isSome ∨ e = .close id ∨
          ∃ request, e = .open request ∧ maxSessions ≤ s.proxy.sessions.size ∧
            s.proxy.sessions.get? request.sessionId = none := by
  have guards : AllGuard cfg s.proxy := by
    refine run.invariant (fun s => AllGuard cfg s.proxy) guard ?_
    exact fun _ e guard allowed => allGuard_step guard e allowed
  constructor
  · exact fun sessionId chain body f served => metered_or_anonymous guards served
  · exact fun e id known => registered_step cfg s e id known

def oneChain (responseCacheEnabled : Bool) : ProxyConfig where
  upstreams := Dict.empty.set "eth" "http://upstream"
  defaultChain := "eth"
  first := rfl
  defaultMode := .observe
  defaultBudget := 1000
  responseCacheEnabled := responseCacheEnabled
  pinBounds := ⟨4, 250000, 131072⟩
  repr := @Value.dumps fractions
  canonicalJson := @Value.dumps fractions

def idleRun : ProxyRun := ⟨.empty, [], .empty⟩

theorem allGuard_idle (cfg : ProxyConfig) : AllGuard cfg idleRun.proxy := by
  intro id session found
  cases found

def headCall : Body := ⟨"", some (.dict [("id", .int 1), ("method", .str "eth_call"),
  ("params", .list [.dict [("to", .str "0x1")], .str "latest"])])⟩

theorem unknown_id_not_metered :
    ¬ ∀ (cfg : ProxyConfig) (start s : ProxyRun), AllGuard cfg start.proxy →
        Reaches (ProxyRun.step cfg) (OpensGuarding cfg) start s →
          ∀ sessionId chain body f, (s.proxy.handleRpc cfg sessionId chain body).2 = .forward f →
            Metered cfg s.proxy sessionId chain body f := by
  intro metered
  obtain ⟨session, block, found, -⟩ := metered (oneChain true) idleRun idleRun (allGuard_idle _) .refl
    "unknown" none headCall ⟨"eth", "http://upstream", .raw headCall, .nothing⟩ rfl
  cases found

def openFive : OpenRequest :=
  ⟨"run-1", some (.int 5), some (.str "enforce"), some (.dict [("eth", .int 16)])⟩

theorem opened_run_metered :
    let s := (ProxyRun.step (oneChain true) idleRun (.open openFive)).1
    ∃ f, (s.proxy.handleRpc (oneChain true) "run-1" (some "eth") headCall).2 = .forward f ∧
      (Metered (oneChain true) s.proxy "run-1" (some "eth") headCall f ∨
        Anonymous (oneChain true) s.proxy "run-1" (some "eth") headCall f) := by
  intro s
  have opened : OpensGuarding (oneChain true) idleRun (.open openFive) := by
    intro session made
    cases made
    refine ⟨rfl, fun chain url configured => ?_⟩
    have only : chain = "eth" := by
      by_contra other
      rw [oneChain, Dict.get?_set, if_neg other] at configured
      cases configured
    subst only
    decide +kernel
  have metered := (metered_forwards (oneChain true) idleRun s (allGuard_idle _)
    (.next (ProxyEvent.open openFive) .refl opened)).1 "run-1" (some "eth") headCall
  exact ⟨_, rfl, metered _ rfl⟩

end MinotaurSubnet.Harness.RpcProxy
