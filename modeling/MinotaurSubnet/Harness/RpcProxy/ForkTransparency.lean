import MinotaurSubnet.Harness.RpcProxy.ForkCache
import MinotaurSubnet.Python.JsonTexts

/-! # What the fork cache serves

The upstream answers requests that name a fixed state by a function of their keys. Every
entry of the cache is a value of that function, as long as the ids of a batch lead from each
response to a member with the key it answers.
-/

namespace MinotaurSubnet.Harness.RpcProxy

open Library Python

variable (cfg : ForkConfig)

/-- A response to one member of a batch: it carries its id, and a result for a cacheable request
    is the one `upstream` gives its key. -/
def AnswersMember (upstream : CacheKey → Value) (chain : String) (member response : Value) : Prop :=
  ∃ fields, response = .dict fields ∧ Value.member fields "id" = requestId member ∧
    ∀ key v, cacheKey cfg chain member = some key → (Value.member fields "error").isNone →
      fields.lookup "result" = some v → v = upstream key

def AnswersBatch (upstream : CacheKey → Value) (chain : String) (batch data : List Value) : Prop :=
  ∃ responses, data.Perm responses ∧ List.Forall₂ (AnswersMember cfg upstream chain) batch responses

def FixedAnswer (upstream : CacheKey → Value) (f : ForkForward) (r : Response) : Prop :=
  match f.harvest with
  | .nothing => True
  | .single key => ∀ v, r.result? = some v → v = upstream key
  | .batch batch => ∀ data, r.status = 200 → r.json = some (.list data) →
      AnswersBatch cfg upstream f.chain batch data

def FixedEvent (upstream : CacheKey → Value) (s : ForkRun) : ForkEvent → Prop
  | .arrive k (some r) => ∀ f, s.calls[k]? = some (.waiting f) → FixedAnswer cfg upstream f r
  | _ => True

def IdsTellApart (chain : String) (batch : List Value) : Prop :=
  ∀ member ∈ batch, ∀ other ∈ batch, ∀ key, cacheKey cfg chain member = some key →
    (requestId other).sameKey (requestId member) = true → cacheKey cfg chain other = some key

def DistinctIds (s : ForkRun) : ForkEvent → Prop
  | .arrive k (some _) => ∀ f batch, s.calls[k]? = some (.waiting f) → f.harvest = .batch batch →
      IdsTellApart cfg f.chain batch
  | _ => True

inductive UpstreamAnswer (upstream : CacheKey → Value) (chain : String) : Value → Value → Prop where
  | single {fields : List (String × Value)} {key : CacheKey}
      (cacheable : cacheKey cfg chain (.dict fields) = some key) :
      UpstreamAnswer upstream chain (.dict fields)
        (resultPayload (Value.member fields "id") (upstream key))
  | batch {members answers : List Value}
      (each : List.Forall₂ (fun member answer => ∃ key, cacheKey cfg chain member = some key ∧
        answer = resultPayload (requestId member) (upstream key)) members answers) :
      UpstreamAnswer upstream chain (.list members) (.list answers)

def ForkCache.KeepsTo (upstream : CacheKey → Value) (cache : ForkCache) : Prop :=
  cache.Faithful fun key v => v = upstream key

namespace ForkCache

variable {cfg : ForkConfig} {upstream : CacheKey → Value} {cache : ForkCache} {chain : String}

theorem KeepsTo.put (keeps : cache.KeepsTo upstream) {key v} (same : v = upstream key) :
    (cache.put cfg key v).KeepsTo upstream := by
  unfold ForkCache.put
  split
  · exact keeps
  · exact Dict.Faithful.set (Dict.Faithful.newest keeps _) same

theorem KeepsTo.gather (keeps : cache.KeepsTo upstream) (chain : String) (members : List Value) :
    (cache.gather cfg chain members).1.KeepsTo upstream ∧
      ∀ answers, (cache.gather cfg chain members).2 = some answers →
        List.Forall₂ (fun member answer => ∃ key, cacheKey cfg chain member = some key ∧
          answer = resultPayload (requestId member) (upstream key)) members answers := by
  induction members generalizing cache with
  | nil =>
    refine ⟨keeps, fun answers served => ?_⟩
    cases served
    exact .nil
  | cons member rest ih =>
    rw [ForkCache.gather]
    cases cacheable : cacheKey cfg chain member with
    | none => exact ⟨keeps, fun answers served => by cases served⟩
    | some key =>
      simp only
      cases found : cache.get? key with
      | none => exact ⟨keeps, fun answers served => by cases served⟩
      | some result =>
        have same : result = upstream key := keeps key result found
        obtain ⟨later, each⟩ := ih (Dict.Faithful.refresh keeps key)
        refine ⟨later, fun answers served => ?_⟩
        obtain ⟨others, all, rfl⟩ := Option.map_eq_some_iff.mp served
        exact .cons ⟨key, cacheable, by rw [same]⟩ (each others all)

theorem answersMember_of_findById {batch data id response}
    (answers : AnswersBatch cfg upstream chain batch data)
    (found : findById (answeredOnes data) id = some response) :
    ∃ other ∈ batch, (requestId other).sameKey id = true ∧
      ∀ key, cacheKey cfg chain other = some key → Value.member response "result" = upstream key := by
  have answered : response ∈ answeredOnes data := List.mem_reverse.mp (List.mem_of_find?_eq_some found)
  have equal : (Value.member response "id").sameKey id = true := by simpa using List.find?_some found
  obtain ⟨d, arrived, kept⟩ := List.mem_filterMap.mp answered
  obtain ⟨responses, perm, each⟩ := answers
  obtain ⟨other, inside, fields, rfl, id_, results⟩ :=
    exists_left_of_forall₂ each (perm.mem_iff.mp arrived)
  simp only at kept
  split at kept
  next clean =>
    cases kept
    obtain ⟨v, result⟩ := Option.isSome_iff_exists.mp clean.2
    refine ⟨other, inside, id_ ▸ equal, fun key cacheable => ?_⟩
    rw [Value.member, result]
    exact results key v cacheable clean.1 result
  next => cases kept

theorem KeepsTo.harvestMembers (keeps : cache.KeepsTo upstream)
    {responses : List (List (String × Value))} (members : List Value)
    (own : ∀ member ∈ members, ∀ key response, cacheKey cfg chain member = some key →
      findById responses (requestId member) = some response →
        Value.member response "result" = upstream key) :
    (cache.harvestMembers cfg chain responses members).1.KeepsTo upstream := by
  induction members generalizing cache with
  | nil => exact keeps
  | cons member rest ih =>
    have later (cache : ForkCache) (keeps : cache.KeepsTo upstream) :
        (cache.harvestMembers cfg chain responses rest).1.KeepsTo upstream := by
      apply ih keeps
      exact fun member inside => own member (List.mem_cons_of_mem _ inside)
    rw [ForkCache.harvestMembers]
    cases cacheable : cacheKey cfg chain member with
    | none => exact later cache keeps
    | some key =>
      simp only
      split
      · cases found : findById responses (requestId member) with
        | none => exact later cache keeps
        | some response =>
          apply later
          exact keeps.put (own member List.mem_cons_self key response cacheable found)
      · exact keeps

theorem KeepsTo.harvestBatch (keeps : cache.KeepsTo upstream) {batch : List Value} {r : Response}
    (apart : IdsTellApart cfg chain batch)
    (answers : ∀ data, r.status = 200 → r.json = some (.list data) →
      AnswersBatch cfg upstream chain batch data) :
    (cache.harvestBatch cfg chain batch r).1.KeepsTo upstream := by
  unfold ForkCache.harvestBatch
  split
  next data arrived =>
    split
    · exact keeps
    next status =>
      split
      · apply keeps.harvestMembers batch
        intro member inside key response cacheable found
        obtain ⟨other, asked, equal, results⟩ :=
          answersMember_of_findById (answers data (not_not.mp status) arrived) found
        exact results key (apart member inside other asked key cacheable equal)
      · exact keeps
  · exact keeps

theorem KeepsTo.arrive (keeps : cache.KeepsTo upstream) (f : ForkForward) {response}
    (fixed : ∀ r, response = some r → FixedAnswer cfg upstream f r)
    (apart : ∀ batch, response.isSome → f.harvest = .batch batch → IdsTellApart cfg f.chain batch) :
    (cache.arrive cfg f response).1.KeepsTo upstream := by
  cases response with
  | none => exact keeps
  | some r =>
    have fixed := fixed r rfl
    obtain ⟨chain, url, body, harvest⟩ := f
    cases harvest with
    | nothing => exact keeps
    | single key =>
      simp only [ForkCache.arrive]
      cases result : r.result? with
      | none => exact keeps
      | some v => exact keeps.put (fixed v result)
    | batch batch =>
      have harvested : (cache.harvestBatch cfg chain batch r).1.KeepsTo upstream :=
        keeps.harvestBatch (apart batch rfl rfl) fixed
      simp only [ForkCache.arrive]
      split
      next after eq =>
        rw [eq] at harvested
        exact harvested
      next after e eq =>
        rw [eq] at harvested
        exact harvested

theorem KeepsTo.handleSingle (keeps : cache.KeepsTo upstream) (url chain : String)
    (fields : List (String × Value)) (body : Body) :
    (cache.handleSingle cfg url chain (.dict fields) body).1.KeepsTo upstream ∧
      ∀ payload, (cache.handleSingle cfg url chain (.dict fields) body).2 = .answered (.json 200 payload) →
        UpstreamAnswer cfg upstream chain (.dict fields) payload := by
  unfold ForkCache.handleSingle
  cases cacheable : cacheKey cfg chain (.dict fields) with
  | none => exact ⟨keeps, fun payload served => by cases served⟩
  | some key =>
    simp only
    cases found : cache.get? key with
    | none => exact ⟨keeps, fun payload served => by cases served⟩
    | some result =>
      have same : result = upstream key := keeps key result found
      refine ⟨Dict.Faithful.refresh keeps key, fun payload served => ?_⟩
      cases served
      rw [same]
      exact .single cacheable

theorem KeepsTo.handleBatch (keeps : cache.KeepsTo upstream) (url chain : String)
    (batch : List Value) (body : Body) :
    (cache.handleBatch cfg url chain batch body).1.KeepsTo upstream ∧
      ∀ payload, (cache.handleBatch cfg url chain batch body).2 = .answered (.json 200 payload) →
        UpstreamAnswer cfg upstream chain (.list batch) payload := by
  obtain ⟨stays, each⟩ := keeps.gather chain batch
  unfold ForkCache.handleBatch
  split
  next after answer answers eq =>
    rw [eq] at stays each
    refine ⟨stays, fun payload served => ?_⟩
    cases served
    exact .batch (each _ rfl)
  next after gathered _ eq =>
    rw [eq] at stays
    exact ⟨stays, fun payload served => by cases served⟩

theorem KeepsTo.handleRpc (keeps : cache.KeepsTo upstream) (cfg : ForkConfig) (chain : String)
    (body : Body) :
    (cache.handleRpc cfg chain body).1.KeepsTo upstream ∧
      ∀ payload, (cache.handleRpc cfg chain body).2 = .answered (.json 200 payload) →
        ∃ request, body.json = some request ∧ UpstreamAnswer cfg upstream chain request payload := by
  unfold ForkCache.handleRpc
  cases cfg.upstreams.get? chain with
  | none => exact ⟨keeps, fun payload served => by cases served⟩
  | some url =>
    simp only
    split
    · exact ⟨keeps, fun payload served => by cases served⟩
    · split
      next fields object =>
        have single := @KeepsTo.handleSingle cfg _ _ keeps url chain fields body
        exact ⟨single.1, fun payload served => ⟨_, object, single.2 payload served⟩⟩
      next batch list =>
        have batched := @KeepsTo.handleBatch cfg _ _ keeps url chain batch body
        exact ⟨batched.1, fun payload served => ⟨_, list, batched.2 payload served⟩⟩
      next => exact ⟨keeps, fun payload served => by cases served⟩

end ForkCache

section

variable {cfg : ForkConfig} {upstream : CacheKey → Value}

theorem keepsTo_step {s} (keeps : s.cache.KeepsTo upstream) (disk : s.disk.KeepsTo upstream)
    (e : ForkEvent) (fixed : FixedEvent cfg upstream s e) (apart : DistinctIds cfg s e) :
    (ForkRun.step cfg s e).1.cache.KeepsTo upstream ∧
      (ForkRun.step cfg s e).1.disk.KeepsTo upstream := by
  cases e with
  | request chain body => exact ⟨(keeps.handleRpc cfg chain body).1, disk⟩
  | arrive k response =>
    simp only [ForkRun.step]
    split
    next f waits =>
      refine ⟨keeps.arrive f ?_ ?_, disk⟩
      · intro r answer
        subst answer
        exact fixed f waits
      · intro batch answer asked
        obtain ⟨r, rfl⟩ := Option.isSome_iff_exists.mp answer
        exact apart f batch waits asked
    · exact ⟨keeps, disk⟩
  | snapshot => exact ⟨keeps, keeps⟩
  | restore => exact ⟨Dict.Faithful.newest disk _, disk⟩

/-- As long as the ids of a batch tell its members apart, what is served from the cache is what
    the upstream answers, whatever was evicted, saved or loaded in between. -/
theorem served_answers (upstream : CacheKey → Value) (cfg : ForkConfig) (disk : ForkCache)
    (earlier : disk.KeepsTo upstream) (s : ForkRun)
    (run : Reaches (ForkRun.step cfg) (fun s e => FixedEvent cfg upstream s e ∧ DistinctIds cfg s e)
      ⟨.empty, [], disk⟩ s) :
    (∀ chain body payload, (s.cache.handleRpc cfg chain body).2 = .answered (.json 200 payload) →
        ∃ request, body.json = some request ∧ UpstreamAnswer cfg upstream chain request payload) ∧
      s.disk.KeepsTo upstream := by
  have keeps : s.cache.KeepsTo upstream ∧ s.disk.KeepsTo upstream := by
    refine run.invariant (fun s => s.cache.KeepsTo upstream ∧ s.disk.KeepsTo upstream) ?_ ?_
    · exact ⟨.empty, earlier⟩
    · exact fun s e keeps allowed => keepsTo_step keeps.1 keeps.2 e allowed.1 allowed.2
  exact ⟨fun chain body => (keeps.1.handleRpc cfg chain body).2, keeps.2⟩

end

def oneFork : ForkConfig where
  upstreams := Dict.empty.set "eth" "http://upstream"
  maxEntries := 200000
  positive := by decide
  maxResultBytes := 131072
  disabled := false
  textLength v := (@Value.dumps fractions v).length
  canonicalJson := @Value.dumps fractions

def balanceOf (id : Int) (account : String) : Value :=
  .dict [("id", .int id), ("method", .str "eth_getBalance"),
    ("params", .list [.str account, .str "0x10"])]

/-- One unit at `0xa`, two everywhere else. -/
def balances (key : CacheKey) : Value :=
  if key.params = "[\"0xa\",\"0x10\"]" then .str "0x1" else .str "0x2"

def twoBalances (id : Int) : List Value := [balanceOf 1 "0xa", balanceOf id "0xb"]

def twoAnswers (id : Int) : List Value :=
  [resultPayload (.int 1) (.str "0x1"), resultPayload (.int id) (.str "0x2")]

def balanceEvents (id : Int) (data : List Value) : List ForkEvent :=
  [.request "eth" ⟨"", some (.list (twoBalances id))⟩, .arrive 0 (some ⟨200, 90, some (.list data)⟩)]

def servedFirst (id : Int) (data : List Value) : ForkServed :=
  ((runEvents (ForkRun.step oneFork) ⟨.empty, [], .empty⟩ (balanceEvents id data)).cache.handleRpc
    oneFork "eth" ⟨"", some (balanceOf 7 "0xa")⟩).2

theorem key_balanceOf (id : Int) (account : String) :
    cacheKey oneFork "eth" (balanceOf id account) =
      some ⟨"eth", "eth_getBalance", oneFork.canonicalJson (.list [.str account, .str "0x10"])⟩ := by
  rfl

theorem answersMember_balanceOf (id : Int) (account : String) {result : Value}
    (same : result = balances ⟨"eth", "eth_getBalance", oneFork.canonicalJson (.list [.str account, .str "0x10"])⟩) :
    AnswersMember oneFork balances "eth" (balanceOf id account) (resultPayload (.int id) result) := by
  refine ⟨_, rfl, rfl, fun key v cacheable _ answered => ?_⟩
  rw [key_balanceOf] at cacheable
  cases cacheable
  cases answered
  exact same

theorem twoAnswers_answer (id : Int) :
    AnswersBatch oneFork balances "eth" (twoBalances id) (twoAnswers id) := by
  have first := answersMember_balanceOf 1 "0xa" rfl
  have second := answersMember_balanceOf id "0xb" rfl
  exact ⟨twoAnswers id, .refl _, .cons first (.cons second .nil)⟩

theorem fixed_balances (id : Int) {data : List Value} (order : data.Perm (twoAnswers id))
    {f : ForkForward} (waits : (ForkRun.step oneFork ⟨.empty, [], .empty⟩
      (.request "eth" ⟨"", some (.list (twoBalances id))⟩)).1.calls[0]? = some (.waiting f)) :
    f.harvest = .batch (twoBalances id) ∧ f.chain = "eth" ∧
      FixedAnswer oneFork balances f ⟨200, 90, some (.list data)⟩ := by
  cases waits
  refine ⟨rfl, rfl, fun arrived _ same => ?_⟩
  cases same
  obtain ⟨responses, perm, each⟩ := twoAnswers_answer id
  exact ⟨responses, order.trans perm, each⟩

/-- Two members with one id: the second's balance is served for the first. -/
theorem repeated_id_not_apart :
    ¬ ∀ (upstream : CacheKey → Value) (cfg : ForkConfig) (s : ForkRun),
        Reaches (ForkRun.step cfg) (FixedEvent cfg upstream) ⟨.empty, [], .empty⟩ s →
          ∀ chain body payload, (s.cache.handleRpc cfg chain body).2 = .answered (.json 200 payload) →
            ∃ request, body.json = some request ∧ UpstreamAnswer cfg upstream chain request payload := by
  intro answers
  have run : Reaches (ForkRun.step oneFork) (FixedEvent oneFork balances) ⟨.empty, [], .empty⟩
      (runEvents (ForkRun.step oneFork) ⟨.empty, [], .empty⟩ (balanceEvents 1 (twoAnswers 1))) := by
    apply AllowedAlong.reaches
    exact ⟨trivial, fun f waits => (fixed_balances 1 (.refl _) waits).2.2, trivial⟩
  have wrong : servedFirst 1 (twoAnswers 1) =
      .answered (.json 200 (resultPayload (.int 7) (.str "0x2"))) := rfl
  obtain ⟨request, asked, answer⟩ := answers balances oneFork _ run "eth"
    ⟨"", some (balanceOf 7 "0xa")⟩ _ wrong
  cases asked
  generalize same : resultPayload (.int 7) (.str "0x2") = payload at answer
  cases answer with
  | single cacheable =>
    have key := cacheable.symm.trans (key_balanceOf 7 "0xa")
    cases key
    have results : some (Value.str "0x2") = some (.str "0x1") :=
      congrArg (fun payload => Response.result? ⟨200, 0, some payload⟩) same
    simp at results

/-- With two ids the answers may come in any order. -/
theorem swapped_answers_served :
    servedFirst 2 (twoAnswers 2).reverse = .answered (.json 200 (resultPayload (.int 7) (.str "0x1"))) ∧
      UpstreamAnswer oneFork balances "eth" (balanceOf 7 "0xa") (resultPayload (.int 7) (.str "0x1")) := by
  have run : Reaches (ForkRun.step oneFork) (fun s e => FixedEvent oneFork balances s e ∧ DistinctIds oneFork s e)
      ⟨.empty, [], .empty⟩
      (runEvents (ForkRun.step oneFork) ⟨.empty, [], .empty⟩ (balanceEvents 2 (twoAnswers 2).reverse)) := by
    apply AllowedAlong.reaches
    have order : (twoAnswers 2).reverse.Perm (twoAnswers 2) := List.reverse_perm _
    refine ⟨⟨trivial, trivial⟩, ⟨fun f waits => (fixed_balances 2 order waits).2.2, ?_⟩, trivial⟩
    intro f batch waits asked
    obtain ⟨same, there, -⟩ := fixed_balances 2 order waits
    rw [same] at asked
    cases asked
    rw [there]
    intro member inside other also key cacheable equal
    simp only [twoBalances, List.mem_cons, List.not_mem_nil, or_false] at inside also
    obtain rfl | rfl := inside
    · obtain rfl | rfl := also
      · exact cacheable
      · exact absurd equal (by decide)
    · obtain rfl | rfl := also
      · exact absurd equal (by decide)
      · exact cacheable
  have served : servedFirst 2 (twoAnswers 2).reverse =
      .answered (.json 200 (resultPayload (.int 7) (.str "0x1"))) := rfl
  obtain ⟨request, asked, answer⟩ := (served_answers balances oneFork .empty .empty _ run).1 "eth"
    ⟨"", some (balanceOf 7 "0xa")⟩ _ served
  cases asked
  exact ⟨served, answer⟩

end MinotaurSubnet.Harness.RpcProxy
