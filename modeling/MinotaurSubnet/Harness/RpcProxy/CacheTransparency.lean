import MinotaurSubnet.Harness.RpcProxy.MeteredForwards

/-! # The response caches do not show

Two proxies get the same events, one with the response caches and one without. The upstream
answers pinned reads and chain constants by functions, or with errors. The cached results
are then values of these functions, so a request that is served from a cache gets what the
other proxy gets for it, unless the upstream failed there.
-/

namespace MinotaurSubnet.Harness.RpcProxy

open Library Python BudgetProxy

def ProxyConfig.withCaches (cfg : ProxyConfig) (enabled : Bool) : ProxyConfig :=
  { cfg with responseCacheEnabled := enabled }

/-- The `result` of an answer, if it is one. -/
def Reply.result? : Reply → Option Value
  | .json status payload => Response.result? ⟨status, 0, some payload⟩
  | .relayed r => r.result?
  | .raised _ => none

/-- What the upstream's answers are functions of. -/
structure Source where
  reads : String → PinKey → Value
  constants : String → String → Value

def IsPinned (method : String) : Prop :=
  classify (.str method) = .rewrite ∨ classify (.str method) = .getLogs

variable (cfg : ProxyConfig)

/-- A result for a pinned read or for a chain constant is the source's, and a request whose
    method is a list or an object gets none. -/
structure Honest (source : Source) (sent : Forward) (r : Response) : Prop where
  read : ∀ fields method, sent.payload = .encoded (.dict fields) →
    Value.member fields "method" = .str method → IsPinned method →
      ∀ v, r.result? = some v →
        v = source.reads sent.chain (pinKey cfg.canonicalJson method (Value.member fields "params"))
  constant : ∀ fields method, sent.payload.json = some (.dict fields) →
    Value.member fields "method" = .str method → method ∈ immutableChainMethods →
      ∀ v, r.result? = some v ∨ constantOf r = some v → v = source.constants sent.chain method
  refused : ∀ fields, sent.payload.json = some (.dict fields) →
    (Value.member fields "method").hashable = false → r.result? = none

inductive SameAnswer : Reply → Reply → Prop where
  | same (reply : Reply) : SameAnswer reply reply
  | cached (id : Value) {v : Value} {reply : Reply} (agrees : ∀ w, reply.result? = some w → w = v) :
      SameAnswer (.json 200 (resultPayload id v)) reply
  | refused {reply : Reply} (nothing : reply.result? = none) : SameAnswer (.raised .typeError) reply

/-- The two proxies, with and without caches, side by side. -/
def twinStep (cfg : ProxyConfig) (s : ProxyRun × ProxyRun) (e : ProxyEvent) :
    (ProxyRun × ProxyRun) × Unit :=
  (((ProxyRun.step (cfg.withCaches true) s.1 e).1, (ProxyRun.step (cfg.withCaches false) s.2 e).1), ())

def HonestEvent (source : Source) (s : ProxyRun × ProxyRun) : ProxyEvent → Prop
  | .arrive k (.response r) => ∀ sent, s.2.calls[k]? = some (.waiting sent) → Honest cfg source sent r
  | _ => True

structure Warm (source : Source) (p : BudgetProxy) : Prop where
  pins : p.pinCache.Holds fun chain key v => v = source.reads chain key
  constants : p.chainConstants.Faithful fun at_ v => v = source.constants at_.1 at_.2

inductive Expected (source : Source) (sent : Forward) : Value → Prop where
  | read {fields : List (String × Value)} {method : String}
      (payload : sent.payload = .encoded (.dict fields))
      (named : Value.member fields "method" = .str method) (pinned : IsPinned method) :
      Expected source sent (source.reads sent.chain (pinKey cfg.canonicalJson method (Value.member fields "params")))
  | constant {fields : List (String × Value)} {method : String}
      (object : sent.payload.json = some (.dict fields))
      (named : Value.member fields "method" = .str method) (immutable : method ∈ immutableChainMethods) :
      Expected source sent (source.constants sent.chain method)

/-- What the cached proxy does with the answer to a request that the other has sent too. -/
inductive FillFits (sent : Forward) : Fill → Prop where
  | nothing : FillFits sent .nothing
  | constant {fields : List (String × Value)} {method : String}
      (object : sent.payload.json = some (.dict fields))
      (named : Value.member fields "method" = .str method) (immutable : method ∈ immutableChainMethods) :
      FillFits sent (.constant sent.chain method)
  | pinned {fields : List (String × Value)} {method : String} (block : String)
      (payload : sent.payload = .encoded (.dict fields))
      (named : Value.member fields "method" = .str method) (pinned : IsPinned method) :
      FillFits sent (.pinned sent.chain block (pinKey cfg.canonicalJson method (Value.member fields "params")))

inductive CallTwin (source : Source) : CallState → CallState → Prop where
  | answered {a b : Reply} (agree : SameAnswer a b) : CallTwin source (.answered a) (.answered b)
  | waiting {f sent : Forward} (fits : FillFits cfg sent f.fill) : CallTwin source (.waiting f) (.waiting sent)
  | cached (id : Value) {v : Value} {sent : Forward} (expected : Expected cfg source sent v) :
      CallTwin source (.answered (.json 200 (resultPayload id v))) (.waiting sent)
  | raised {fields : List (String × Value)} {sent : Forward}
      (object : sent.payload.json = some (.dict fields))
      (unhashable : (Value.member fields "method").hashable = false) :
      CallTwin source (.answered (.raised .typeError)) (.waiting sent)

structure Twins (source : Source) (s : ProxyRun × ProxyRun) : Prop where
  sessions : s.1.proxy.sessions = s.2.proxy.sessions
  warm : Warm source s.1.proxy
  disk : s.1.disk.Holds fun chain key v => v = source.reads chain key
  calls : List.Forall₂ (CallTwin cfg source) s.1.calls s.2.calls

section

variable {cfg} {source : Source} {on off : BudgetProxy} {upstream chain : String} {body : Body}

structure Served.Twin (cfg : ProxyConfig) (source : Source) (on off : BudgetProxy × Served) : Prop where
  sessions : on.1.sessions = off.1.sessions
  warm : Warm source on.1
  call : CallTwin cfg source (ProxyRun.callOf on.2) (ProxyRun.callOf off.2)

theorem Warm.pinCache {p} (warm : Warm source p) {cache}
    (pins : cache.Holds fun chain key v => v = source.reads chain key) :
    Warm source { p with pinCache := cache } :=
  ⟨pins, warm.constants⟩

theorem Served.Twin.same (sessions : on.sessions = off.sessions) (warm : Warm source on) (reply : Reply) :
    Served.Twin cfg source (on, .answered reply) (off, .answered reply) :=
  ⟨sessions, warm, .answered (.same reply)⟩

theorem Served.Twin.forward (sessions : on.sessions = off.sessions) (warm : Warm source on)
    (chain upstream : String) (payload : Payload) :
    Served.Twin cfg source (on, .forward ⟨chain, upstream, payload, .nothing⟩)
      (off, .forward ⟨chain, upstream, payload, .nothing⟩) :=
  ⟨sessions, warm, .waiting .nothing⟩

theorem twin_pinnedSingle (sessions : on.sessions = off.sessions) (warm : Warm source on)
    (fields : List (String × Value)) (block : String) :
    Served.Twin cfg source (on.pinnedSingle (cfg.withCaches true) upstream fields block chain)
      (off.pinnedSingle (cfg.withCaches false) upstream fields block chain) := by
  unfold pinnedSingle
  cases rewriteSingle (.dict fields) block with
  | blockNumber block => exact .same sessions warm _
  | reject method => exact .same sessions warm _
  | forward request =>
    cases request with
    | dict payload =>
      simp only
      cases named : Value.member payload "method" with
      | str method =>
        by_cases pinned : classify (.str method) = .rewrite ∨ classify (.str method) = .getLogs
        · simp [ProxyConfig.withCaches, pinned]
          have touched : (on.pinCache.touch cfg.pinBounds (chain, block)).Holds
              fun chain key v => v = source.reads chain key := warm.pins.touch (chain, block)
          let sent : Forward := ⟨chain, upstream, .encoded (.dict payload), .nothing⟩
          simp only [PinCache.find]
          cases found : (on.pinCache.group (chain, block)).get?
              (pinKey cfg.canonicalJson method (Value.member payload "params")) with
          | some result =>
            have known : result = source.reads chain _ := warm.pins.group (chain, block) _ _ found
            subst known
            have expected : Expected cfg source sent _ := .read rfl named pinned
            exact ⟨sessions, warm.pinCache touched, .cached _ expected⟩
          | none =>
            have fits : FillFits cfg sent (.pinned chain block _) := .pinned block rfl named pinned
            exact ⟨sessions, warm.pinCache touched, .waiting fits⟩
        · simp [pinned]
          exact .forward sessions warm _ _ _
      | none | bool | int | float | list | dict => exact .forward sessions warm _ _ _
    | none | bool | int | float | str | list => exact .forward sessions warm _ _ _

theorem twin_pinnedBatch (sessions : on.sessions = off.sessions) (warm : Warm source on)
    (parsed : Value) (block : String) :
    Served.Twin cfg source (on.pinnedBatch upstream parsed block chain)
      (off.pinnedBatch upstream parsed block chain) := by
  unfold pinnedBatch
  split
  · exact .same sessions warm _
  · split
    · exact .same sessions warm _
    · exact .forward sessions warm _ _ _

theorem twin_handlePin (sessions : on.sessions = off.sessions) (warm : Warm source on)
    (block : Option String) (body : Body) :
    Served.Twin cfg source (on.handlePin (cfg.withCaches true) upstream block chain body)
      (off.handlePin (cfg.withCaches false) upstream block chain body) := by
  unfold handlePin
  split
  · exact twin_pinnedSingle sessions warm _ _
  · exact twin_pinnedBatch sessions warm _ _
  · exact .forward sessions warm _ _ _

theorem handlePin_passthrough {fields} (object : body.json = some (.dict fields))
    (free : classify (Value.member fields "method") = .passthrough) (block : Option String) :
    ∃ sent, off.handlePin (cfg.withCaches false) upstream block chain body = (off, .forward sent) ∧
      sent.payload.json = some (.dict fields) ∧ sent.chain = chain := by
  cases block with
  | none => exact ⟨⟨chain, upstream, .raw body, .nothing⟩, rfl, object, rfl⟩
  | some b =>
    refine ⟨⟨chain, upstream, .encoded (.dict fields), .nothing⟩, ?_, rfl, rfl⟩
    have same : rewriteSingle (.dict fields) b = .forward (.dict fields) := by
      simp [rewriteSingle, free]
    simp only [handlePin, object, pinnedSingle, same]
    split
    next method named =>
      rw [named] at free
      simp [free]
    next => rfl

theorem passthrough_waiting {fields : List (String × Value)} (object : body.json = some (.dict fields))
    (free : classify (Value.member fields "method") = .passthrough) (block : Option String)
    (served : Served) (cfg : ProxyConfig) (upstream chain : String) (off : BudgetProxy)
    (sessions : on.sessions = off.sessions) (warm : Warm source on)
    (call : ∀ sent : Forward, sent.payload.json = some (.dict fields) → sent.chain = chain →
      CallTwin cfg source (ProxyRun.callOf served) (.waiting sent)) :
    Served.Twin cfg source (on, served) (off.handlePin (cfg.withCaches false) upstream block chain body) := by
  have through : ∃ sent : Forward, off.handlePin (cfg.withCaches false) upstream block chain body =
      (off, .forward sent) ∧ sent.payload.json = some (.dict fields) ∧ sent.chain = chain :=
    handlePin_passthrough object free block
  obtain ⟨sent, alone, same, there⟩ := through
  rw [alone]
  exact ⟨sessions, warm, call sent same there⟩

theorem twin_handleCharged (sessions : on.sessions = off.sessions) (warm : Warm source on)
    (block : Option String) (body : Body) :
    Served.Twin cfg source (on.handleCharged (cfg.withCaches true) upstream block chain body)
      (off.handleCharged (cfg.withCaches false) upstream block chain body) := by
  have without : off.handleCharged (cfg.withCaches false) upstream block chain body =
      off.handlePin (cfg.withCaches false) upstream block chain body := rfl
  rw [without]
  unfold handleCharged
  cases read : body.json with
  | none => exact twin_handlePin sessions warm block body
  | some parsed =>
    cases parsed with
    | none | bool | int | float | str | list => exact twin_handlePin sessions warm block body
    | dict fields =>
      simp only [ProxyConfig.withCaches]
      cases named : Value.member fields "method" with
      | none | bool | int | float => exact twin_handlePin sessions warm block body
      | list | dict =>
        have free : classify (Value.member fields "method") = .passthrough := by rw [named]; rfl
        have unhashable : (Value.member fields "method").hashable = false := by rw [named]; rfl
        exact passthrough_waiting read free block _ cfg upstream chain off sessions warm
          fun sent object _ => .raised object unhashable
      | str method =>
        simp only
        split
        next immutable =>
          have free : classify (Value.member fields "method") = .passthrough := by
            rw [named]
            exact classify_immutable immutable
          have through (served : Served) := passthrough_waiting read free block served cfg
            upstream chain off sessions warm
          cases found : on.chainConstants.get? (chain, method) with
          | some constant =>
            have known : constant = source.constants chain method := warm.constants _ _ found
            subst known
            refine through _ fun sent object there => ?_
            subst there
            exact .cached _ (.constant object named immutable)
          | none =>
            refine through _ fun sent object there => ?_
            subst there
            exact .waiting (.constant object named immutable)
        next => exact twin_handlePin sessions warm block body

theorem Warm.withSession {p} (warm : Warm source p) (id : String) (session : Session) :
    Warm source (p.withSession id session) := ⟨warm.pins, warm.constants⟩

theorem sessions_withSession (sessions : on.sessions = off.sessions) (id : String) (session : Session) :
    (on.withSession id session).sessions = (off.withSession id session).sessions :=
  congrArg (·.set id session) sessions

theorem twin_handleRpc (cfg : ProxyConfig) (sessions : on.sessions = off.sessions) (warm : Warm source on)
    (sessionId : String) (chain : Option String) (body : Body) :
    Served.Twin cfg source (on.handleRpc (cfg.withCaches true) sessionId chain body)
      (off.handleRpc (cfg.withCaches false) sessionId chain body) := by
  unfold handleRpc
  have upstreams caches : (cfg.withCaches caches).upstreams = cfg.upstreams := rfl
  have key caches : chainKey (cfg.withCaches caches) chain = chainKey cfg chain := rfl
  simp only [upstreams, key]
  cases cfg.upstreams.get? (chainKey cfg chain) with
  | none => exact .same sessions warm _
  | some upstream =>
    simp only [sessions]
    cases off.sessions.get? sessionId with
    | none =>
      have charged : (on.chargeAnon (cfg.withCaches true) (costAndShape body.json).1).sessions =
          (off.chargeAnon (cfg.withCaches false) (costAndShape body.json).1).sessions := by
        unfold chargeAnon
        rw [sessions]
        exact sessions_withSession sessions _ _
      exact .forward charged (warm.withSession _ _) _ _ _
    | some session =>
      simp only
      let after := (charge session (costAndShape body.json).1).1
      have charged := sessions_withSession sessions sessionId after
      have stillWarm := warm.withSession sessionId after
      split
      · exact twin_handleCharged charged stillWarm _ body
      · exact .same charged stillWarm _

end

section

variable {cfg} {source : Source} {sent : Forward} {r : Response}

theorem Expected.of_honest {v w} (expected : Expected cfg source sent v)
    (honest : Honest cfg source sent r) (result : r.result? = some w) : w = v := by
  cases expected with
  | read payload named pinned => exact honest.read _ _ payload named pinned w result
  | constant object named immutable =>
    exact honest.constant _ _ object named immutable w (.inl result)

theorem response_of_result {arrival : Arrival} {v} (result : arrival.reply.result? = some v) :
    ∃ r, arrival = .response r ∧ r.result? = some v := by
  cases arrival with
  | response r => exact ⟨r, rfl, result⟩
  | timeout => cases result
  | unreachable => cases result

theorem no_result_of_refused {arrival : Arrival} {fields}
    (object : sent.payload.json = some (.dict fields))
    (unhashable : (Value.member fields "method").hashable = false)
    (honest : ∀ r, arrival = .response r → Honest cfg source sent r) :
    arrival.reply.result? = none := by
  cases result : arrival.reply.result? with
  | none => rfl
  | some v =>
    obtain ⟨r, answer, result⟩ := response_of_result result
    rw [(honest r answer).refused _ object unhashable] at result
    cases result

theorem Warm.arrive {p : BudgetProxy} (warm : Warm source p) {fill} (fits : FillFits cfg sent fill)
    (cfg' : ProxyConfig) {arrival}
    (honest : ∀ r, arrival = .response r → Honest cfg source sent r) :
    Warm source (p.arrive cfg' fill arrival) := by
  cases arrival with
  | timeout => cases fits <;> exact warm
  | unreachable => cases fits <;> exact warm
  | response r =>
    have honest := honest r rfl
    cases fits with
    | nothing => exact warm
    | constant object named immutable =>
      simp only [BudgetProxy.arrive]
      cases known : constantOf r with
      | none => exact warm
      | some v =>
        have same := honest.constant _ _ object named immutable v (.inr known)
        exact ⟨warm.pins, Dict.Faithful.set warm.constants same⟩
    | pinned block payload named pinned =>
      apply warm.pinCache
      apply warm.pins.putFromResponse
      exact fun v result => honest.read _ _ payload named pinned v result

end

section

variable {on off : BudgetProxy}

theorem twin_controlOpen (sessions : on.sessions = off.sessions) (cfg : ProxyConfig)
    (request : OpenRequest) :
    (on.controlOpen (cfg.withCaches true) request).1.sessions =
      (off.controlOpen (cfg.withCaches false) request).1.sessions := by
  unfold controlOpen
  simp only [ProxyConfig.withCaches, sessions]
  split
  · exact sessions
  · split
    · exact sessions
    · exact sessions
    · split
      · exact sessions
      · rfl

theorem twin_controlReset (sessions : on.sessions = off.sessions) (sessionId : String)
    (blocks : Option Value) :
    (on.controlReset sessionId blocks).1.sessions = (off.controlReset sessionId blocks).1.sessions := by
  unfold controlReset
  simp only [sessions]
  split
  · exact sessions
  · split
    · exact sessions_withSession sessions _ _
    · split
      · exact sessions_withSession sessions _ _
      · exact sessions_withSession sessions _ _

theorem twin_controlClose (sessions : on.sessions = off.sessions) (sessionId : String) :
    (on.controlClose sessionId).1.sessions = (off.controlClose sessionId).1.sessions := by
  unfold controlClose
  simp only [sessions]
  split
  · exact sessions
  · rfl

variable {source : Source}

theorem Warm.congr (warm : Warm source on) (pins : off.pinCache = on.pinCache)
    (constants : off.chainConstants = on.chainConstants) : Warm source off :=
  ⟨pins ▸ warm.pins, constants ▸ warm.constants⟩

theorem caches_controlOpen (cfg : ProxyConfig) (p : BudgetProxy) (request : OpenRequest) :
    (p.controlOpen cfg request).1.pinCache = p.pinCache ∧
      (p.controlOpen cfg request).1.chainConstants = p.chainConstants := by
  unfold controlOpen
  split
  · exact ⟨rfl, rfl⟩
  · split
    · exact ⟨rfl, rfl⟩
    · exact ⟨rfl, rfl⟩
    · simp only
      split <;> exact ⟨rfl, rfl⟩

theorem caches_controlReset (p : BudgetProxy) (sessionId : String) (blocks : Option Value) :
    (p.controlReset sessionId blocks).1.pinCache = p.pinCache ∧
      (p.controlReset sessionId blocks).1.chainConstants = p.chainConstants := by
  unfold controlReset
  split
  · exact ⟨rfl, rfl⟩
  · split
    · exact ⟨rfl, rfl⟩
    · split <;> exact ⟨rfl, rfl⟩

theorem caches_controlClose (p : BudgetProxy) (sessionId : String) :
    (p.controlClose sessionId).1.pinCache = p.pinCache ∧
      (p.controlClose sessionId).1.chainConstants = p.chainConstants := by
  unfold controlClose
  split <;> exact ⟨rfl, rfl⟩

end

section

variable {cfg} {source : Source} {s : ProxyRun × ProxyRun}

theorem twins_arrive (twins : Twins cfg source s) (k : Nat) (arrival : Arrival)
    (honest : HonestEvent cfg source s (.arrive k arrival)) :
    Twins cfg source (twinStep cfg s (.arrive k arrival)).1 := by
  have answers (sent : Forward) (waits : s.2.calls[k]? = some (.waiting sent)) (r : Response)
      (answer : arrival = .response r) : Honest cfg source sent r := by
    subst answer
    exact honest sent waits
  simp only [twinStep, ProxyRun.step]
  obtain ⟨onNone, offNone⟩ | ⟨a, b, onCall, offCall, twin⟩ := getElem?_of_forall₂ twins.calls k
  · rw [onNone, offNone]
    exact twins
  · rw [onCall, offCall]
    cases twin with
    | answered agree => exact twins
    | waiting fits =>
      refine ⟨?_, ?_, twins.disk, ?_⟩
      · simp only [sessions_arrive]
        exact twins.sessions
      · exact twins.warm.arrive fits _ (answers _ offCall)
      · exact forall₂_set twins.calls k (.answered (.same _))
    | cached id expected =>
      refine ⟨twins.sessions.trans (sessions_arrive _ _ _ _).symm, twins.warm, twins.disk, ?_⟩
      refine forall₂_set_right twins.calls onCall (.answered (.cached id fun w result => ?_))
      obtain ⟨r, answer, result⟩ := response_of_result result
      exact expected.of_honest (answers _ offCall r answer) result
    | raised object unhashable =>
      refine ⟨twins.sessions.trans (sessions_arrive _ _ _ _).symm, twins.warm, twins.disk, ?_⟩
      have nothing := no_result_of_refused object unhashable (answers _ offCall)
      exact forall₂_set_right twins.calls onCall (.answered (.refused nothing))

theorem twins_step (twins : Twins cfg source s) (e : ProxyEvent) (honest : HonestEvent cfg source s e) :
    Twins cfg source (twinStep cfg s e).1 := by
  cases e with
  | «open» request =>
    obtain ⟨pins, constants⟩ := caches_controlOpen (cfg.withCaches true) s.1.proxy request
    exact ⟨twin_controlOpen twins.sessions cfg request, twins.warm.congr pins constants, twins.disk,
      twins.calls⟩
  | reset sessionId blocks =>
    obtain ⟨pins, constants⟩ := caches_controlReset s.1.proxy sessionId blocks
    exact ⟨twin_controlReset twins.sessions sessionId blocks, twins.warm.congr pins constants,
      twins.disk, twins.calls⟩
  | close sessionId =>
    obtain ⟨pins, constants⟩ := caches_controlClose s.1.proxy sessionId
    exact ⟨twin_controlClose twins.sessions sessionId, twins.warm.congr pins constants, twins.disk,
      twins.calls⟩
  | rpc sessionId chain body =>
    have handled := twin_handleRpc cfg twins.sessions twins.warm sessionId chain body
    exact ⟨handled.sessions, handled.warm, twins.disk,
      List.rel_append twins.calls (.cons handled.call .nil)⟩
  | arrive k arrival => exact twins_arrive twins k arrival honest
  | snapshot => exact ⟨twins.sessions, twins.warm, twins.warm.pins, twins.calls⟩
  | restore => exact ⟨twins.sessions, twins.warm.pinCache twins.disk.restore, twins.disk, twins.calls⟩

/-- From a start with a snapshot of an earlier run on disk, the two proxies charge their sessions
    the same at every point and give every request the same answer, or the one with caches gives
    a result where the upstream gave the other an error; and what it leaves on disk can start
    the next run. -/
theorem caches_transparent (source : Source) (cfg : ProxyConfig) (disk : PinCache)
    (earlier : disk.Holds fun chain key v => v = source.reads chain key) (s : ProxyRun × ProxyRun)
    (run : Reaches (twinStep cfg) (HonestEvent cfg source) (⟨.empty, [], disk⟩, ⟨.empty, [], disk⟩) s) :
    s.1.proxy.sessions = s.2.proxy.sessions ∧
      (∀ (k : Nat) (b : Reply), s.2.calls[k]? = some (.answered b) →
        ∃ a, s.1.calls[k]? = some (.answered a) ∧ SameAnswer a b) ∧
      s.1.disk.Holds fun chain key v => v = source.reads chain key := by
  have twins : Twins cfg source s := by
    refine run.invariant (Twins cfg source) ?_ fun s e twins honest => twins_step twins e honest
    exact ⟨rfl, ⟨.empty, .empty⟩, earlier, .nil⟩
  refine ⟨twins.sessions, ?_, twins.disk⟩
  intro k b answered
  obtain ⟨-, offNone⟩ | ⟨a, b', onCall, offCall, twin⟩ := getElem?_of_forall₂ twins.calls k
  · rw [offNone] at answered
    cases answered
  · rw [offCall] at answered
    cases answered
    cases twin with
    | answered agree => exact ⟨_, onCall, agree⟩

end

def tens : Source := ⟨fun _ _ => .str "0x0a", fun _ _ => .str "0x1"⟩

def ten : Response := ⟨200, 60, some (resultPayload (.int 1) (.str "0x0a"))⟩

def twoCalls : List ProxyEvent :=
  [.open openFive, .rpc "run-1" (some "eth") headCall, .arrive 0 (.response ten),
    .rpc "run-1" (some "eth") headCall, .arrive 1 .unreachable]

theorem ten_honest (sent : Forward) (call : sent.payload = .encoded (.dict [("id", .int 1),
    ("method", .str "eth_call"), ("params", .list [.dict [("to", .str "0x1")], .str "0x10"])])) :
    Honest (oneChain true) tens sent ten := by
  obtain ⟨chain, upstream, payload, fill⟩ := sent
  subst call
  constructor
  · intro fields method payload named pinned v result
    cases result
    rfl
  · intro fields method object named immutable
    cases object
    cases named
    exact absurd immutable (by decide)
  · intro fields object unhashable
    cases object
    cases unhashable

theorem second_call_cached :
    let s := runEvents (twinStep (oneChain true)) (idleRun, idleRun) twoCalls
    s.2.calls[1]? = some (.answered Arrival.unreachable.reply) ∧
      s.1.calls[1]? = some (.answered (.json 200 (resultPayload (.int 1) (.str "0x0a")))) ∧
      s.1.proxy.sessions = s.2.proxy.sessions ∧
      ∃ a, s.1.calls[1]? = some (.answered a) ∧ SameAnswer a Arrival.unreachable.reply := by
  intro s
  have run : Reaches (twinStep (oneChain true)) (HonestEvent (oneChain true) tens) (idleRun, idleRun) s := by
    apply AllowedAlong.reaches
    refine ⟨trivial, trivial, ?_, trivial, trivial, trivial⟩
    intro sent waits
    apply ten_honest
    cases waits
    rfl
  have transparent := caches_transparent tens (oneChain true) .empty .empty s run
  have failed : s.2.calls[1]? = some (.answered Arrival.unreachable.reply) := rfl
  exact ⟨failed, rfl, transparent.1, transparent.2.1 1 _ failed⟩

end MinotaurSubnet.Harness.RpcProxy
