import MinotaurSubnet.Harness.RpcProxy.MeteredForwards

/-! # Which forwarded reads carry the pinned block

The rewrite covers the methods of its table and nothing else: a method that is missing from
it, and a request inside a list inside a batch, goes upstream with whatever block it had.
`blockArguments` says where the Ethereum JSON-RPC methods take a block; it is not part of
the proxy.
-/

namespace MinotaurSubnet.Harness.RpcProxy

open Library Python BudgetProxy

inductive BlockArgument where
  | position (index : Nat)
  /-- The `fromBlock` and `toBlock` of the first argument. -/
  | filter
  deriving DecidableEq

def blockArguments : List (String × BlockArgument) :=
  [("eth_call", .position 1), ("eth_estimateGas", .position 1), ("eth_createAccessList", .position 1),
   ("eth_simulateV1", .position 1), ("eth_getBalance", .position 1), ("eth_getCode", .position 1),
   ("eth_getTransactionCount", .position 1), ("eth_getStorageAt", .position 2),
   ("eth_getProof", .position 2), ("eth_feeHistory", .position 1), ("eth_getBlockByNumber", .position 0),
   ("eth_getBlockTransactionCountByNumber", .position 0), ("eth_getUncleCountByBlockNumber", .position 0),
   ("eth_getTransactionByBlockNumberAndIndex", .position 0),
   ("eth_getUncleByBlockNumberAndIndex", .position 0), ("eth_getBlockReceipts", .position 0),
   ("debug_getRawHeader", .position 0), ("debug_getRawBlock", .position 0),
   ("debug_getRawReceipts", .position 0), ("debug_traceBlockByNumber", .position 0),
   ("debug_traceCall", .position 1), ("eth_getLogs", .filter), ("eth_newFilter", .filter)]

/-- The request's method takes no block, or its block is `block`. -/
def Carries (block : String) (request : List (String × Value)) : Prop :=
  match Value.member request "method" with
  | .str method =>
    match blockArguments.lookup method with
    | none => True
    | some (.position index) =>
      ∃ items, Value.member request "params" = .list items ∧ items[index]? = some (.str block)
    | some .filter =>
      ∃ filter rest, Value.member request "params" = .list (.dict filter :: rest) ∧
        Value.member filter "fromBlock" = .str block ∧ Value.member filter "toBlock" = .str block ∧
        Value.member filter "blockHash" = .none
  | _ => True

mutual

def requestObjects : Value → List (List (String × Value))
  | .dict fields => [fields]
  | .list items => requestObjectsOf items
  | _ => []

def requestObjectsOf : List Value → List (List (String × Value))
  | [] => []
  | v :: rest => requestObjects v ++ requestObjectsOf rest

end

def AllCarry (block : String) (v : Value) : Prop := ∀ request ∈ requestObjects v, Carries block request

def leftAloneIn : Value → List (List (String × Value))
  | .dict fields => if classify (Value.member fields "method") = .passthrough then [fields] else []
  | v => requestObjects v

def leftAlone : Value → List (List (String × Value))
  | .list items => items.flatMap leftAloneIn
  | v => leftAloneIn v

theorem position_of_index {method index} (listed : blockParamIndex.lookup method = some index) :
    blockArguments.lookup method = some (.position index) := by
  have each : ∀ entry ∈ blockParamIndex, blockArguments.lookup entry.1 = some (.position entry.2) := by
    decide
  obtain ⟨before, after, whole, -⟩ := List.lookup_eq_some_iff.mp listed
  exact each (method, index) (by rw [whole]; exact List.mem_append_right _ List.mem_cons_self)

theorem pinAt_getElem (index : Nat) (params : Value) (block : String) :
    ∃ items, pinAt index params block = .list items ∧ items[index]? = some (.str block) := by
  refine ⟨_, rfl, ?_⟩
  apply List.getElem?_set_self
  rw [List.length_append, List.length_replicate]
  omega

theorem pinLogs_filter (params : Value) (block : String) :
    ∃ filter, pinLogs params block = .list [.dict filter] ∧
      Value.member filter "fromBlock" = .str block ∧ Value.member filter "toBlock" = .str block ∧
      Value.member filter "blockHash" = .none := by
  refine ⟨_, rfl, ?_, ?_, ?_⟩
  · rw [Value.member_popMember_of_ne _ (by decide), Value.member_setMember, if_neg (by decide),
      Value.member_setMember, if_pos rfl]
  · rw [Value.member_popMember_of_ne _ (by decide), Value.member_setMember, if_pos rfl]
  · exact Value.member_popMember_self _ _

theorem classify_getLogs {method} (kind : classify (.str method) = .getLogs) :
    method = getLogs := by
  by_contra other
  simp only [classify, if_neg other] at kind
  split at kind
  · cases kind
  · split at kind
    · cases kind
    · split at kind <;> cases kind

theorem classify_rewrite {method} (kind : classify (.str method) = .rewrite) :
    method ≠ getLogs ∧ ∃ index, blockParamIndex.lookup method = some index := by
  simp only [classify] at kind
  split at kind
  · cases kind
  · split at kind
    · cases kind
    · split at kind
      · cases kind
      next other =>
        split at kind
        next listed => exact ⟨other, Option.isSome_iff_exists.mp listed⟩
        next => cases kind

theorem carries_pinned {fields pinned : List (String × Value)} {method : String} (block : String)
    (kind : classify (.str method) = .getLogs ∨ classify (.str method) = .rewrite)
    (named : Value.member pinned "method" = .str method)
    (params : Value.member pinned "params" =
      rewriteParams method (Value.member fields "params") block) : Carries block pinned := by
  unfold Carries
  rw [named]
  cases kind with
  | inl logs =>
    obtain rfl := classify_getLogs logs
    obtain ⟨filter, clamped, lower, upper, hash⟩ := pinLogs_filter (Value.member fields "params") block
    rw [rewriteParams, if_pos rfl, clamped] at params
    exact ⟨filter, [], params, lower, upper, hash⟩
  | inr positional =>
    obtain ⟨other, index, listed⟩ := classify_rewrite positional
    obtain ⟨items, placed, found⟩ := pinAt_getElem index (Value.member fields "params") block
    rw [rewriteParams, if_neg other, listed, Option.getD_some, placed] at params
    simp only [position_of_index listed]
    exact ⟨items, params, found⟩

theorem allCarry_rewriteSingle {member request block}
    (rewritten : rewriteSingle member block = .forward request) :
    AllCarry block request ↔ ∀ alone ∈ leftAloneIn member, Carries block alone := by
  cases member with
  | dict fields =>
    obtain ⟨-, refused⟩ | ⟨-, refused⟩ | ⟨method, named, kind, pinned⟩ | ⟨kind, same⟩ :=
      rewriteSingle_dict fields block
    · rw [refused] at rewritten
      cases rewritten
    · rw [refused] at rewritten
      cases rewritten
    · rw [pinned] at rewritten
      cases rewritten
      obtain ⟨sent, whole, sameMethod, params⟩ := method_pinnedRequest fields method block
      have carried := carries_pinned block kind (sameMethod.trans named) params
      have touched : leftAloneIn (.dict fields) = [] := by
        apply if_neg
        rw [named]
        cases kind with
        | inl logs =>
          rw [logs]
          decide
        | inr positional =>
          rw [positional]
          decide
      rw [whole, touched]
      simpa [AllCarry, requestObjects] using carried
    · rw [same] at rewritten
      cases rewritten
      simp [AllCarry, requestObjects, leftAloneIn, kind]
  | none | bool | int | float | str | list =>
    cases rewritten
    exact Iff.rfl

theorem mem_requestObjectsOf {request items} :
    request ∈ requestObjectsOf items ↔ ∃ v ∈ items, request ∈ requestObjects v := by
  induction items with
  | nil => simp [requestObjectsOf]
  | cons v rest ih => simp [requestObjectsOf, ih]

theorem allCarry_rewriteMembers {block members out}
    (rewritten : rewriteMembers block members = some out) :
    AllCarry block (.list out) ↔ ∀ alone ∈ members.flatMap leftAloneIn, Carries block alone := by
  induction members generalizing out with
  | nil =>
    cases rewritten
    simp [AllCarry, requestObjects, requestObjectsOf]
  | cons member rest ih =>
    unfold rewriteMembers at rewritten
    split at rewritten
    next request single =>
      obtain ⟨later, restRewritten, rfl⟩ := Option.map_eq_some_iff.mp rewritten
      have here := allCarry_rewriteSingle single
      have there := ih restRewritten
      simp only [AllCarry, requestObjects, mem_requestObjectsOf] at here there ⊢
      simp only [List.flatMap_cons, List.mem_append, List.mem_cons]
      constructor
      · intro carried alone member
        cases member with
        | inl alone' => exact here.mp (fun r found => carried r ⟨request, .inl rfl, found⟩) alone alone'
        | inr alone' =>
          refine there.mp (fun r found => ?_) alone alone'
          obtain ⟨v, listed, inside⟩ := found
          exact carried r ⟨v, .inr listed, inside⟩
      · rintro carried r ⟨v, rfl | listed, inside⟩
        · exact here.mpr (fun alone found => carried alone (.inl found)) r inside
        · exact there.mpr (fun alone found => carried alone (.inr found)) r ⟨v, listed, inside⟩
    next => cases rewritten

theorem leftAlone_of_iterate {parsed members} (noObject : ∀ fields, parsed ≠ .dict fields)
    (iterated : parsed.iterate = .ok members) :
    members.flatMap leftAloneIn = leftAlone parsed := by
  cases parsed with
  | list items =>
    cases iterated
    rfl
  | dict fields => exact absurd rfl (noObject fields)
  | str s =>
    cases iterated
    simp [leftAlone, leftAloneIn, requestObjects, List.flatMap_map]
  | none | bool | int | float => cases iterated

/-- What goes upstream for a session that pins `block` carries it exactly when what the rewrite
    leaves alone does. -/
theorem allCarry_forwardedAs {block body parsed sent payload}
    (forwarded : ForwardedAs (some block) body payload) (read : body.json = some parsed)
    (sends : payload.json = some sent) :
    AllCarry block sent ↔ ∀ alone ∈ leftAlone parsed, Carries block alone := by
  cases forwarded with
  | unpinned without => cases without
  | unparsed unread =>
    rw [unread] at read
    cases read
  | @constant fields method object named immutable =>
    rw [object] at read
    cases read
    rw [Payload.json, object] at sends
    cases sends
    have free : classify (Value.member fields "method") = .passthrough := by
      rw [named]
      exact classify_immutable immutable
    simp [AllCarry, requestObjects, leftAlone, leftAloneIn, free]
  | single pinned object rewritten =>
    cases pinned
    rw [object] at read
    cases read
    cases sends
    exact allCarry_rewriteSingle rewritten
  | batch pinned read' noObject iterated rewritten =>
    cases pinned
    rw [read'] at read
    cases read
    cases sends
    rw [← leftAlone_of_iterate noObject iterated]
    exact allCarry_rewriteMembers rewritten

/-- For a session that pins `block` on the chain, every forwarded request object carries it exactly
    when the objects that the rewrite leaves alone carry it already. -/
theorem block_pin_iff (cfg : ProxyConfig) (p : BudgetProxy) (sessionId : String) (chain : Option String)
    (body : Body) (session : Session) (block : String) (parsed : Value) (f : Forward)
    (known : p.sessions.get? sessionId = some session)
    (pinned : session.blocks.get? (chainKey cfg chain) = some block) (read : body.json = some parsed)
    (served : (p.handleRpc cfg sessionId chain body).2 = .forward f) :
    ∃ sent, f.payload.json = some sent ∧
      (AllCarry block sent ↔ ∀ alone ∈ leftAlone parsed, Carries block alone) := by
  obtain ⟨-, -, -, forwarded⟩ := handleRpc_session known served
  rw [pinned] at forwarded
  have sends : ∃ sent, f.payload.json = some sent := by
    generalize f.payload = payload at forwarded ⊢
    cases forwarded with
    | unpinned | unparsed | constant => exact ⟨parsed, read⟩
    | single => exact ⟨_, rfl⟩
    | batch => exact ⟨_, rfl⟩
  obtain ⟨sent, sends⟩ := sends
  exact ⟨sent, sends, allCarry_forwardedAs forwarded read sends⟩

def pinnedProxy : BudgetProxy := (BudgetProxy.empty.controlOpen (oneChain true) openFive).1

def estimateGas : Body := ⟨"", some (.dict [("id", .int 1), ("method", .str "eth_estimateGas"),
  ("params", .list [.dict [("to", .str "0x1")]])])⟩

theorem estimate_not_pinned :
    ¬ ∀ (cfg : ProxyConfig) (p : BudgetProxy) (sessionId : String) (chain : Option String) (body : Body)
        (session : Session) (block : String) (f : Forward), p.sessions.get? sessionId = some session →
        session.blocks.get? (chainKey cfg chain) = some block →
        (p.handleRpc cfg sessionId chain body).2 = .forward f →
          ∀ sent, f.payload.json = some sent → AllCarry block sent := by
  intro pins
  have carried := pins (oneChain true) pinnedProxy "run-1" (some "eth") estimateGas
    ⟨"run-1", 5, .enforce, Dict.empty.set "eth" "0x10", 0, false, 0⟩ "0x10" _ rfl (by decide +kernel) rfl
    _ rfl _ List.mem_cons_self
  obtain ⟨items, params, found⟩ := carried
  cases params
  cases found

theorem head_call_pinned :
    ∃ f, (pinnedProxy.handleRpc (oneChain true) "run-1" (some "eth") headCall).2 = .forward f ∧
      ∃ sent, f.payload.json = some sent ∧
        (AllCarry "0x10" sent ↔ ∀ alone ∈ leftAlone (headCall.json.getD .none), Carries "0x10" alone) := by
  refine ⟨_, rfl, ?_⟩
  exact block_pin_iff (oneChain true) pinnedProxy "run-1" (some "eth") headCall
    ⟨"run-1", 5, .enforce, Dict.empty.set "eth" "0x10", 0, false, 0⟩ "0x10" _ _ rfl (by decide +kernel)
    rfl rfl

end MinotaurSubnet.Harness.RpcProxy
