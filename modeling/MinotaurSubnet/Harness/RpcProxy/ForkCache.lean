import MinotaurSubnet.Harness.RpcProxy.BudgetProxy

/-! # The cache in front of the forks

`fork_cache.py`: requests that name a fixed state are answered from the cache, all others go
to the upstream, and its answers fill the cache. A batch is answered from the cache when all
its members can be; else it goes upstream whole, and its answers are told apart by their ids.
A key is the chain, the method and the text of the params.
-/

namespace MinotaurSubnet.Harness.RpcProxy

open Library Python

def hashKeyedMethods : List String :=
  ["eth_getBlockByHash", "eth_getTransactionByHash", "eth_getTransactionReceipt",
   "eth_getRawTransactionByHash"]

def constantMethods : List String := ["eth_chainId", "net_version"]

def movingTags : List String := ["latest", "pending", "earliest", "safe", "finalized"]

def isExplicitBlock : Value → Bool
  | .int i => 0 ≤ i
  | .str s =>
    let v := String.ofList ((strip s.toList).map Char.toLower)
    if movingTags.contains v then false
    else (if startsWith v "0x" then hexOfStr v else intOfStr v).isSome
  | _ => false

structure CacheKey where
  chain : String
  method : String
  params : String
  deriving DecidableEq

structure ForkConfig where
  upstreams : Dict String String
  maxEntries : Nat
  positive : 0 < maxEntries
  maxResultBytes : Nat
  disabled : Bool
  /-- `len(json.dumps(v))`. -/
  textLength : Value → Nat
  /-- `json.dumps(v, sort_keys=True, separators=(",", ":"))`. -/
  canonicalJson : Value → String

def cacheKey (cfg : ForkConfig) (chain : String) : Value → Option CacheKey
  | .dict fields =>
    match Value.member fields "method" with
    | .str method =>
      let params := Value.member fields "params"
      let key : CacheKey := ⟨chain, method, cfg.canonicalJson params⟩
      if constantMethods.contains method || hashKeyedMethods.contains method then some key
      else match blockParamIndex.lookup method, params with
        | some index, .list items =>
          match items[index]? with
          | some block => if isExplicitBlock block then some key else none
          | none => none
        | _, _ => none
    | _ => none
  | _ => none

/-- `member.get("id") if isinstance(member, dict) else None`. -/
def requestId : Value → Value
  | .dict fields => Value.member fields "id"
  | _ => .none

/-- What happens to a forwarded answer besides relaying it. -/
inductive Harvest where
  | nothing
  | single (key : CacheKey)
  | batch (members : List Value)

structure ForkForward where
  chain : String
  upstream : String
  body : Body
  harvest : Harvest

inductive ForkServed where
  | answered (reply : Reply)
  | forward (forward : ForkForward)

/-- The results, least recently used first. -/
abbrev ForkCache := Dict CacheKey Value

namespace ForkCache

variable (cfg : ForkConfig)

def put (cache : ForkCache) (key : CacheKey) (result : Value) : ForkCache :=
  if result.isNone ∨ cfg.maxResultBytes < cfg.textLength result then cache
  else Dict.set (cache.newest (cfg.maxEntries - 1)) key result

/-- `_restore` of a snapshot. -/
def restore (rows : ForkCache) : ForkCache := rows.newest cfg.maxEntries

def handleSingle (cache : ForkCache) (upstream chain : String) (request : Value) (body : Body) :
    ForkCache × ForkServed :=
  match cacheKey cfg chain request with
  | none => (cache, .forward ⟨chain, upstream, body, .nothing⟩)
  | some key =>
    match cache.get? key with
    | some result =>
      (cache.refresh key, .answered (.json 200 (resultPayload (requestId request) result)))
    | none => (cache, .forward ⟨chain, upstream, body, .single key⟩)

/-- The first loop of `_handle_batch`: the answers, or `none` at the first member without one. -/
def gather (chain : String) (cache : ForkCache) : List Value → ForkCache × Option (List Value)
  | [] => (cache, some [])
  | member :: rest =>
    match cacheKey cfg chain member with
    | none => (cache, none)
    | some key =>
      match cache.get? key with
      | none => (cache, none)
      | some result =>
        let later := gather chain (cache.refresh key) rest
        (later.1, later.2.map (resultPayload (requestId member) result :: ·))

def handleBatch (cache : ForkCache) (upstream chain : String) (batch : List Value) (body : Body) :
    ForkCache × ForkServed :=
  match cache.gather cfg chain batch with
  | (cache, some (answer :: answers)) => (cache, .answered (.json 200 (.list (answer :: answers))))
  | (cache, _) => (cache, .forward ⟨chain, upstream, body, .batch batch⟩)

def handleRpc (cache : ForkCache) (chain : String) (body : Body) : ForkCache × ForkServed :=
  match cfg.upstreams.get? chain with
  | none => (cache, .answered (.json 400 (errorPayload .none (-32602) s!"unknown chain '{chain}'")))
  | some upstream =>
    if cfg.disabled then (cache, .forward ⟨chain, upstream, body, .nothing⟩)
    else match body.json with
      | some (.dict fields) => cache.handleSingle cfg upstream chain (.dict fields) body
      | some (.list batch) => cache.handleBatch cfg upstream chain batch body
      | _ => (cache, .forward ⟨chain, upstream, body, .nothing⟩)

/-- The responses that `by_id` is made of. -/
def answeredOnes (data : List Value) : List (List (String × Value)) :=
  data.filterMap fun
    | .dict fields =>
      if (Value.member fields "error").isNone ∧ (fields.lookup "result").isSome then some fields
      else none
    | _ => none

/-- `by_id.get(id)`: of the responses with an equal id, the last one. -/
def findById (responses : List (List (String × Value))) (id : Value) : Option (List (String × Value)) :=
  responses.reverse.find? fun response => (Value.member response "id").sameKey id

/-- The second loop of `_harvest_batch`; an id that cannot be hashed ends it. -/
def harvestMembers (chain : String) (responses : List (List (String × Value))) (cache : ForkCache) :
    List Value → ForkCache × Option PyError
  | [] => (cache, none)
  | member :: rest =>
    match cacheKey cfg chain member with
    | none => harvestMembers chain responses cache rest
    | some key =>
      if (requestId member).hashable then
        match findById responses (requestId member) with
        | some response =>
          harvestMembers chain responses (cache.put cfg key (Value.member response "result")) rest
        | none => harvestMembers chain responses cache rest
      else (cache, some .typeError)

def harvestBatch (cache : ForkCache) (chain : String) (batch : List Value) (r : Response) :
    ForkCache × Option PyError :=
  match r.json with
  | some (.list data) =>
    if r.status ≠ 200 then (cache, none)
    else if (answeredOnes data).all fun response => (Value.member response "id").hashable then
      cache.harvestMembers cfg chain (answeredOnes data) batch
    else (cache, some .typeError)
  | _ => (cache, none)

/-- The end of a forwarded request; `none` is an upstream out of reach. -/
def arrive (cache : ForkCache) (f : ForkForward) : Option Response → ForkCache × Reply
  | none => (cache, .json 502 (errorPayload .none (-32000) "upstream unreachable"))
  | some r =>
    match f.harvest with
    | .nothing => (cache, .relayed r)
    | .single key => ((r.result?.map (cache.put cfg key)).getD cache, .relayed r)
    | .batch batch =>
      match cache.harvestBatch cfg f.chain batch r with
      | (cache, none) => (cache, .relayed r)
      | (cache, some e) => (cache, .raised e)

end ForkCache

inductive ForkCall where
  | answered (reply : Reply)
  | waiting (forward : ForkForward)

structure ForkRun where
  cache : ForkCache
  calls : List ForkCall
  disk : ForkCache

inductive ForkEvent where
  | request (chain : String) (body : Body)
  /-- The upstream's answer to the `k`-th request arrives. -/
  | arrive (k : Nat) (response : Option Response)
  | snapshot
  | restore

namespace ForkRun

def callOf : ForkServed → ForkCall
  | .answered reply => .answered reply
  | .forward f => .waiting f

def step (cfg : ForkConfig) (s : ForkRun) : ForkEvent → ForkRun × Option ForkServed
  | .request chain body =>
    let handled := s.cache.handleRpc cfg chain body
    ({ s with cache := handled.1, calls := s.calls ++ [callOf handled.2] }, some handled.2)
  | .arrive k response =>
    match s.calls[k]? with
    | some (.waiting f) =>
      let arrived := s.cache.arrive cfg f response
      ({ s with cache := arrived.1, calls := s.calls.set k (.answered arrived.2) }, none)
    | _ => (s, none)
  | .snapshot => ({ s with disk := s.cache }, none)
  | .restore => ({ s with cache := .restore cfg s.disk }, none)

end ForkRun

end MinotaurSubnet.Harness.RpcProxy
