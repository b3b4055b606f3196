import MinotaurSubnet.Harness.RpcProxy.PinCache
import MinotaurSubnet.Library.Machine

/-! # The budget proxy

Sessions, metering, the control plane and `handle_rpc` of `proxy.py`. A data-plane request
runs without a pause up to its answer or its forward; what the upstream answers is handled
in a step of its own, with anything in between.
-/

namespace MinotaurSubnet.Harness.RpcProxy

open Library Python

/-- `BUDGET_EXCEEDED_CODE`, `BUDGET_EXCEEDED_MESSAGE`. -/
def budgetExceededCode : Int := -32099
def budgetExceededMessage : String := "MINOTAUR_BUDGET_EXCEEDED"

def anonSession : String := "__anon__"

def immutableChainMethods : List String := ["eth_chainId", "net_version"]

theorem classify_immutable {method} (immutable : method ∈ immutableChainMethods) :
    classify (.str method) = .passthrough := by
  have each : ∀ m ∈ immutableChainMethods, classify (.str m) = .passthrough := by decide
  exact each method immutable

def maxSessions : Nat := 64

inductive Mode where
  | observe
  | enforce
  deriving DecidableEq

structure Session where
  sessionId : String
  budget : Int
  mode : Mode
  blocks : Dict String String
  spent : Nat := 0
  exhausted : Bool := false
  peak : Nat := 0

/-- `_charge`: whether the request may proceed. -/
def charge (session : Session) (cost : Nat) : Session × Bool :=
  let spent := session.spent + cost
  match session.mode with
  | .observe => ({ session with spent, peak := max session.peak spent }, true)
  | .enforce =>
    if session.exhausted then (session, false)
    else if session.budget < (spent : Int) then ({ session with exhausted := true }, false)
    else ({ session with spent, peak := max session.peak spent }, true)

/-- A request body as it was sent, and what `json.loads` makes of it. -/
structure Body where
  text : String
  json : Option Value

inductive Payload where
  | raw (body : Body)
  | encoded (value : Value)

def Payload.json : Payload → Option Value
  | .raw body => body.json
  | .encoded value => some value

/-- `_cost_and_shape`: cost, whether it is a batch, and the ids. -/
def costAndShape : Option Value → Nat × Bool × List Value
  | none => (defaultCost, false, [.none])
  | some (.list items) =>
    (batchCost (items.map fun
        | .dict fields => Value.member fields "method"
        | _ => .str ""), true,
      items.map fun
        | .dict fields => Value.member fields "id"
        | _ => .none)
  | some (.dict fields) =>
    (requestCost ((fields.lookup "method").getD (.str "")), false, [Value.member fields "id"])
  | some _ => (defaultCost, false, [.none])

/-- What the client gets: a synthetic answer, the upstream's, or a server error. -/
inductive Reply where
  | json (status : Int) (payload : Value)
  | relayed (response : Response)
  | raised (error : PyError)

def resultPayload (id result : Value) : Value :=
  .dict [("jsonrpc", .str "2.0"), ("id", id), ("result", result)]

def errorPayload (id : Value) (code : Int) (message : String) : Value :=
  .dict [("jsonrpc", .str "2.0"), ("id", id),
    ("error", .dict [("code", .int code), ("message", .str message)])]

/-- `_budget_exceeded_response`. -/
def budgetExceeded (isBatch : Bool) (ids : List Value) : Reply :=
  if isBatch then
    .json 200 (.list (ids.map fun id => errorPayload id budgetExceededCode budgetExceededMessage))
  else .json 200 (errorPayload (ids.headD .none) budgetExceededCode budgetExceededMessage)

structure ProxyConfig where
  upstreams : Dict String String
  defaultChain : String
  first : upstreams.keys.head? = some defaultChain
  defaultMode : Mode
  defaultBudget : Int
  responseCacheEnabled : Bool
  pinBounds : PinBounds
  /-- `repr` of the host. -/
  repr : Value → String
  /-- `json.dumps(v, sort_keys=True, separators=(",", ":"))`. -/
  canonicalJson : Value → String

structure BudgetProxy where
  sessions : Dict String Session
  /-- `(chain, method)` to the constant. -/
  chainConstants : Dict (String × String) Value
  pinCache : PinCache

/-- What happens to a forwarded answer besides relaying it. -/
inductive Fill where
  | nothing
  | constant (chain method : String)
  | pinned (chain block : String) (key : PinKey)

structure Forward where
  chain : String
  upstream : String
  payload : Payload
  fill : Fill

inductive Served where
  | answered (reply : Reply)
  | forward (forward : Forward)

namespace BudgetProxy

variable (cfg : ProxyConfig)

def empty : BudgetProxy := ⟨.empty, .empty, .empty⟩

/-- `chain or self._default_chain`. -/
def chainKey (chain : Option String) : String := (chain.filter (· ≠ "")).getD cfg.defaultChain

def withSession (p : BudgetProxy) (id : String) (session : Session) : BudgetProxy :=
  { p with sessions := p.sessions.set id session }

/-- `_pinned_single`, up to its forward. -/
def pinnedSingle (p : BudgetProxy) (upstream : String) (fields : List (String × Value))
    (block chain : String) : BudgetProxy × Served :=
  match rewriteSingle (.dict fields) block with
  | .blockNumber block =>
    (p, .answered (.json 200 (resultPayload (Value.member fields "id") (.str block))))
  | .reject method =>
    (p, .answered (.json 200 (errorPayload (Value.member fields "id") (-32601)
      s!"method {cfg.repr method} not allowed (read-only block-pinned proxy)")))
  | .forward (.dict payload) =>
    match Value.member payload "method" with
    | .str method =>
      if cfg.responseCacheEnabled ∧
          (classify (.str method) = .rewrite ∨ classify (.str method) = .getLogs) then
        let key := pinKey cfg.canonicalJson method (Value.member payload "params")
        match p.pinCache.find cfg.pinBounds chain block key with
        | (touched, some result) => ({ p with pinCache := touched },
            .answered (.json 200 (resultPayload (Value.member fields "id") result)))
        | (touched, none) => ({ p with pinCache := touched },
            .forward ⟨chain, upstream, .encoded (.dict payload), .pinned chain block key⟩)
      else (p, .forward ⟨chain, upstream, .encoded (.dict payload), .nothing⟩)
    | _ => (p, .forward ⟨chain, upstream, .encoded (.dict payload), .nothing⟩)
  | .forward payload => (p, .forward ⟨chain, upstream, .encoded payload, .nothing⟩)

/-- The members of a batch rewritten, or `none` for one that cannot be forwarded. -/
def rewriteMembers (block : String) : List Value → Option (List Value)
  | [] => some []
  | request :: rest =>
    match rewriteSingle request block with
    | .forward payload => (rewriteMembers block rest).map (payload :: ·)
    | _ => none

/-- `_block_pin` and what follows it. -/
def pinnedBatch (p : BudgetProxy) (upstream : String) (parsed : Value) (block chain : String) :
    BudgetProxy × Served :=
  match parsed.iterate with
  | .error e => (p, .answered (.raised e))
  | .ok members =>
    match rewriteMembers block members with
    | none => (p, .answered (.json 200 (errorPayload .none (-32601)
        ("eth_blockNumber / state-changing methods must be "
          ++ "single calls under block-pin"))))
    | some out => (p, .forward ⟨chain, upstream, .encoded (.list out), .nothing⟩)

/-- The block-pin part of `handle_rpc`; `block` is the session's pin on the chain. -/
def handlePin (p : BudgetProxy) (upstream : String) (block : Option String) (chain : String)
    (body : Body) : BudgetProxy × Served :=
  match block, body.json with
  | some block, some (.dict fields) => p.pinnedSingle cfg upstream fields block chain
  | some block, some parsed => p.pinnedBatch upstream parsed block chain
  | _, _ => (p, .forward ⟨chain, upstream, .raw body, .nothing⟩)

/-- The constants part of `handle_rpc`, and what follows it. -/
def handleCharged (p : BudgetProxy) (upstream : String) (block : Option String) (chain : String)
    (body : Body) : BudgetProxy × Served :=
  match cfg.responseCacheEnabled, body.json with
  | true, some (.dict fields) =>
    match Value.member fields "method" with
    | .str method =>
      if method ∈ immutableChainMethods then
        match p.chainConstants.get? (chain, method) with
        | some cached =>
          (p, .answered (.json 200 (resultPayload (Value.member fields "id") cached)))
        | none => (p, .forward ⟨chain, upstream, .raw body, .constant chain method⟩)
      else p.handlePin cfg upstream block chain body
    -- a method that cannot be hashed
    | .list _ | .dict _ => (p, .answered (.raised .typeError))
    | _ => p.handlePin cfg upstream block chain body
  | _, _ => p.handlePin cfg upstream block chain body

def chargeAnon (p : BudgetProxy) (cost : Nat) : BudgetProxy :=
  let anon := (p.sessions.get? anonSession).getD ⟨anonSession, cfg.defaultBudget, .observe, .empty, 0, false, 0⟩
  p.withSession anonSession
    { anon with spent := anon.spent + cost, peak := max anon.peak (anon.spent + cost) }

def handleRpc (p : BudgetProxy) (sessionId : String) (chain : Option String) (body : Body) :
    BudgetProxy × Served :=
  match cfg.upstreams.get? (chainKey cfg chain) with
  | none =>
    let asked := chain.getD "None"
    (p, .answered (.json 400 (errorPayload .none (-32602) s!"unknown chain '{asked}'")))
  | some upstream =>
    let shape := costAndShape body.json
    match p.sessions.get? sessionId with
    | none => (p.chargeAnon cfg shape.1,
        .forward ⟨chainKey cfg chain, upstream, .raw body, .nothing⟩)
    | some session =>
      let charged := charge session shape.1
      let metered := p.withSession sessionId charged.1
      if charged.2 then
        metered.handleCharged cfg upstream (charged.1.blocks.get? (chainKey cfg chain))
          (chainKey cfg chain) body
      else (metered, .answered (budgetExceeded shape.2.1 shape.2.2))

/-- What `_forward` comes back with. -/
inductive Arrival where
  | response (r : Response)
  | timeout
  | unreachable

def Arrival.reply : Arrival → Reply
  | .response r => .relayed r
  | .timeout => .json 504 (errorPayload .none (-32000) "upstream timeout")
  | .unreachable => .json 502 (errorPayload .none (-32000) "upstream unreachable")

/-- The `result` `_maybe_cache_constant` takes from an answer. -/
def constantOf (r : Response) : Option Value :=
  match r.json with
  | some (.dict fields) =>
    if r.status = 200 ∧ ¬ (Value.member fields "result").isNone then fields.lookup "result" else none
  | _ => none

/-- The end of `handle_rpc`: the caches are filled and the answer is relayed. -/
def arrive (p : BudgetProxy) (fill : Fill) (arrival : Arrival) : BudgetProxy :=
  match fill, arrival with
  | .constant chain method, .response r =>
    match constantOf r with
    | some constant => { p with chainConstants := p.chainConstants.set (chain, method) constant }
    | none => p
  | .pinned chain block key, .response r =>
    { p with pinCache := p.pinCache.putFromResponse cfg.pinBounds chain block key r }
  | _, _ => p

/-- The body of a control request; absent fields are `none`. -/
structure OpenRequest where
  sessionId : String
  budget : Option Value
  mode : Option Value
  blocks : Option Value

inductive ControlError where
  | sessionIdRequired
  | budgetNotInteger
  | blocksNotObject
  | invalidBlock (chain : String)
  | negativeBlock (chain : String)
  | unknownSession
  | raised (error : PyError)

def normalizeMode : Value → Mode
  | .str s => if (strip s.toList).map Char.toLower = "enforce".toList then .enforce else .observe
  | _ => .observe

/-- `hex(n)`. -/
def hex (n : Nat) : String := "0x" ++ String.ofList (Nat.toDigits 16 n)

/-- One entry of `_normalize_blocks`. -/
def normalizeBlock (chain : String) (block : Value) : Except ControlError String :=
  let number : Except PyError Int := match block with
    | .str s =>
      match if startsWith s "0x" || startsWith s "0X" then hexOfStr s else intOfStr s with
      | some n => .ok n
      | none => .error .valueError
    | other => other.toInt
  match number with
  | .error .overflowError => .error (.raised .overflowError)
  | .error _ => .error (.invalidBlock chain)
  | .ok n => if n < 0 then .error (.negativeBlock chain) else .ok (hex n.toNat)

def normalizeBlocks : Value → Except ControlError (Dict String String)
  | .none => .ok .empty
  | .dict fields => fields.foldlM (fun out field => do
      let block ← normalizeBlock field.1 field.2
      pure (out.set field.1 block)) .empty
  | _ => .error .blocksNotObject

/-- The eviction loop of `control_open`: the oldest session but the bucket goes, as long as
    the registry is full. -/
def evict (sessions : Dict String Session) : Nat → Dict String Session
  | 0 => sessions
  | rounds + 1 =>
    if sessions.size < maxSessions then sessions
    else match sessions.keys.find? (· ≠ anonSession) with
      | none => sessions
      | some oldest => evict (sessions.erase oldest) rounds

def controlOpen (p : BudgetProxy) (request : OpenRequest) : BudgetProxy × Except ControlError Session :=
  if request.sessionId = "" then (p, .error .sessionIdRequired)
  else match (request.budget.map Value.toInt).getD (.ok cfg.defaultBudget) with
    | .error .overflowError => (p, .error (.raised .overflowError))
    | .error _ => (p, .error .budgetNotInteger)
    | .ok budget =>
      let mode := (request.mode.map normalizeMode).getD cfg.defaultMode
      match normalizeBlocks (request.blocks.getD .none) with
      | .error e => (p, .error e)
      | .ok blocks =>
        let kept := if (p.sessions.get? request.sessionId).isSome then p.sessions
          else evict p.sessions p.sessions.size
        let session : Session := ⟨request.sessionId, budget, mode, blocks, 0, false, 0⟩
        ({ p with sessions := kept.set request.sessionId session }, .ok session)

/-- `control_reset`; the meter is reset before the blocks are looked at. -/
def controlReset (p : BudgetProxy) (sessionId : String) (blocks : Option Value) :
    BudgetProxy × Except ControlError Session :=
  match p.sessions.get? sessionId with
  | none => (p, .error .unknownSession)
  | some session =>
    let reset := { session with spent := 0, exhausted := false }
    match blocks with
    | none => (p.withSession sessionId reset, .ok reset)
    | some raw =>
      match normalizeBlocks raw with
      | .error e => (p.withSession sessionId reset, .error e)
      | .ok blocks => (p.withSession sessionId { reset with blocks }, .ok { reset with blocks })

def controlClose (p : BudgetProxy) (sessionId : String) : BudgetProxy × Except ControlError Session :=
  match p.sessions.get? sessionId with
  | none => (p, .error .unknownSession)
  | some session => ({ p with sessions := p.sessions.erase sessionId }, .ok session)

end BudgetProxy

open BudgetProxy

inductive CallState where
  | answered (reply : Reply)
  | waiting (forward : Forward)

structure ProxyRun where
  proxy : BudgetProxy
  calls : List CallState
  disk : PinCache

inductive ProxyEvent where
  | open (request : OpenRequest)
  | reset (sessionId : String) (blocks : Option Value)
  | close (sessionId : String)
  | rpc (sessionId : String) (chain : Option String) (body : Body)
  /-- The upstream's answer to the `k`-th request arrives. -/
  | arrive (k : Nat) (arrival : Arrival)
  | snapshot
  | restore

namespace ProxyRun

def callOf : Served → CallState
  | .answered reply => .answered reply
  | .forward f => .waiting f

def step (cfg : ProxyConfig) (s : ProxyRun) : ProxyEvent → ProxyRun × Option Served
  | .open request => ({ s with proxy := (s.proxy.controlOpen cfg request).1 }, none)
  | .reset sessionId blocks => ({ s with proxy := (s.proxy.controlReset sessionId blocks).1 }, none)
  | .close sessionId => ({ s with proxy := (s.proxy.controlClose sessionId).1 }, none)
  | .rpc sessionId chain body =>
    let handled := s.proxy.handleRpc cfg sessionId chain body
    ({ s with proxy := handled.1, calls := s.calls ++ [callOf handled.2] }, some handled.2)
  | .arrive k arrival =>
    match s.calls[k]? with
    | some (.waiting f) =>
      ({ s with proxy := s.proxy.arrive cfg f.fill arrival
                calls := s.calls.set k (.answered arrival.reply) }, none)
    | _ => (s, none)
  | .snapshot => ({ s with disk := s.proxy.pinCache }, none)
  | .restore =>
    if cfg.responseCacheEnabled then
      ({ s with proxy := { s.proxy with pinCache := .restore cfg.pinBounds s.disk } }, none)
    else (s, none)

end ProxyRun

/-- A body as it goes upstream for a session that pins `block`, or nothing, on the chain. -/
inductive ForwardedAs (block : Option String) (body : Body) : Payload → Prop where
  | unpinned (without : block = none) : ForwardedAs block body (.raw body)
  | unparsed (unread : body.json = none) : ForwardedAs block body (.raw body)
  | constant {fields : List (String × Value)} {method : String} (object : body.json = some (.dict fields))
      (named : Value.member fields "method" = .str method) (immutable : method ∈ immutableChainMethods) :
      ForwardedAs block body (.raw body)
  | single {b : String} {fields : List (String × Value)} {request : Value} (pinned : block = some b)
      (object : body.json = some (.dict fields))
      (rewritten : rewriteSingle (.dict fields) b = .forward request) :
      ForwardedAs block body (.encoded request)
  | batch {b : String} {parsed : Value} {members out : List Value} (pinned : block = some b)
      (read : body.json = some parsed) (noObject : ∀ fields, parsed ≠ .dict fields)
      (iterated : parsed.iterate = .ok members) (rewritten : rewriteMembers b members = some out) :
      ForwardedAs block body (.encoded (.list out))

namespace BudgetProxy

variable {cfg : ProxyConfig} {p : BudgetProxy} {upstream chain : String} {body : Body} {f : Forward}

theorem sessions_pinnedSingle (cfg : ProxyConfig) (p : BudgetProxy) (upstream : String)
    (fields : List (String × Value)) (block chain : String) :
    (p.pinnedSingle cfg upstream fields block chain).1.sessions = p.sessions := by
  unfold pinnedSingle
  split
  · rfl
  · rfl
  · split
    · split
      · simp only
        split <;> rfl
      · rfl
    · rfl
  · rfl

theorem pinnedSingle_forward {fields block}
    (served : (p.pinnedSingle cfg upstream fields block chain).2 = .forward f) :
    ∃ request, rewriteSingle (.dict fields) block = .forward request ∧ f.payload = .encoded request := by
  unfold pinnedSingle at served
  split at served
  · cases served
  · cases served
  next payload rewritten =>
    refine ⟨.dict payload, rewritten, ?_⟩
    split at served
    · split at served
      · simp only at served
        split at served
        · cases served
        · cases served
          rfl
      · cases served
        rfl
    · cases served
      rfl
  next payload _ rewritten =>
    cases served
    exact ⟨payload, rewritten, rfl⟩

theorem sessions_pinnedBatch (p : BudgetProxy) (upstream : String) (parsed : Value)
    (block chain : String) : (p.pinnedBatch upstream parsed block chain).1 = p := by
  unfold pinnedBatch
  split
  · rfl
  · split <;> rfl

theorem pinnedBatch_forward {parsed block}
    (served : (p.pinnedBatch upstream parsed block chain).2 = .forward f) :
    ∃ members out, parsed.iterate = .ok members ∧ rewriteMembers block members = some out ∧
      f.payload = .encoded (.list out) := by
  unfold pinnedBatch at served
  split at served
  · cases served
  next members iterated =>
    split at served
    · cases served
    next out rewritten =>
      cases served
      exact ⟨members, out, iterated, rewritten, rfl⟩

theorem sessions_handlePin (cfg : ProxyConfig) (p : BudgetProxy) (upstream : String)
    (block : Option String) (chain : String) (body : Body) :
    (p.handlePin cfg upstream block chain body).1.sessions = p.sessions := by
  unfold handlePin
  split
  · exact sessions_pinnedSingle cfg p _ _ _ _
  · rw [sessions_pinnedBatch]
  · rfl

theorem handlePin_forward {block}
    (served : (p.handlePin cfg upstream block chain body).2 = .forward f) :
    ForwardedAs block body f.payload := by
  cases block with
  | none =>
    cases served
    exact .unpinned rfl
  | some b =>
    unfold handlePin at served
    split at served
    next same object =>
      cases same
      obtain ⟨request, rewritten, sent⟩ := pinnedSingle_forward served
      exact sent ▸ .single rfl object rewritten
    next noObject same read =>
      cases same
      obtain ⟨members, out, iterated, rewritten, sent⟩ := pinnedBatch_forward served
      exact sent ▸ .batch rfl read (fun fields object => noObject fields object) iterated rewritten
    next noBatch =>
      cases served
      cases read : body.json with
      | none => exact .unparsed read
      | some parsed => exact (noBatch b parsed rfl read).elim

theorem sessions_handleCharged (cfg : ProxyConfig) (p : BudgetProxy) (upstream : String)
    (block : Option String) (chain : String) (body : Body) :
    (p.handleCharged cfg upstream block chain body).1.sessions = p.sessions := by
  unfold handleCharged
  split
  · split
    · split
      · split <;> rfl
      · exact sessions_handlePin cfg p _ _ _ _
    · rfl
    · rfl
    · exact sessions_handlePin cfg p _ _ _ _
  · exact sessions_handlePin cfg p _ _ _ _

theorem handleCharged_forward {block}
    (served : (p.handleCharged cfg upstream block chain body).2 = .forward f) :
    ForwardedAs block body f.payload := by
  unfold handleCharged at served
  split at served
  next fields _ object =>
    split at served
    next method named =>
      split at served
      next immutable =>
        split at served
        · cases served
        · cases served
          exact .constant object named immutable
      · exact handlePin_forward served
    · cases served
    · cases served
    · exact handlePin_forward served
  · exact handlePin_forward served

theorem charge_enforce {session cost} (enforced : session.mode = .enforce)
    (allowed : (charge session cost).2 = true) :
    session.exhausted = false ∧ ((session.spent + cost : Nat) : Int) ≤ session.budget ∧
      (charge session cost).1 = { session with
        spent := session.spent + cost, peak := max session.peak (session.spent + cost) } := by
  unfold charge at allowed ⊢
  rw [enforced] at allowed ⊢
  simp only at allowed ⊢
  split at allowed
  · cases allowed
  next open_ =>
    split at allowed
    · cases allowed
    next within =>
      rw [if_neg open_, if_neg within]
      exact ⟨by simpa using open_, Int.not_lt.mp within, rfl⟩

theorem charge_observe {session} (cost : Nat) (observed : session.mode = .observe) :
    charge session cost = ({ session with
      spent := session.spent + cost, peak := max session.peak (session.spent + cost) }, true) := by
  unfold charge
  rw [observed]

theorem charge_same (session : Session) (cost : Nat) :
    (charge session cost).1.blocks = session.blocks ∧ (charge session cost).1.mode = session.mode := by
  unfold charge
  simp only
  split
  · exact ⟨rfl, rfl⟩
  · split
    · exact ⟨rfl, rfl⟩
    · split <;> exact ⟨rfl, rfl⟩

theorem handleRpc_session {sessionId chain session}
    (known : p.sessions.get? sessionId = some session)
    (served : (p.handleRpc cfg sessionId chain body).2 = .forward f) :
    (∃ url, cfg.upstreams.get? (chainKey cfg chain) = some url) ∧
      (charge session (costAndShape body.json).1).2 = true ∧
      (p.handleRpc cfg sessionId chain body).1.sessions.get? sessionId =
        some (charge session (costAndShape body.json).1).1 ∧
      ForwardedAs (session.blocks.get? (chainKey cfg chain)) body f.payload := by
  unfold handleRpc at *
  split at served
  · cases served
  next url configured =>
    rw [known] at served ⊢
    simp only at served ⊢
    split at served
    next allowed =>
      refine ⟨⟨url, configured⟩, allowed, ?_, ?_⟩
      · rw [if_pos allowed, sessions_handleCharged]
        exact Dict.get?_set_self _ _ _
      · rw [← (charge_same session (costAndShape body.json).1).1]
        exact handleCharged_forward served
    next => cases served

end BudgetProxy

end MinotaurSubnet.Harness.RpcProxy
