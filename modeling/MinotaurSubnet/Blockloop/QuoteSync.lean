import Mathlib.Data.Prod.Lex
import MinotaurSubnet.Library.Dict
import MinotaurSubnet.Library.Slicing
import MinotaurSubnet.Library.SortedBy
import MinotaurSubnet.Python.Value

/-! # Mirroring the leader's quotes

A follower asks for the leader's quotes page by page, writes what it got and deletes every
quote it did not get. The leader serves a page of its listing as it stands when it is asked.
What happens at one request, the leader's quotes and the answer, is a `Request`; a pull is the
list of its requests.
-/

namespace MinotaurSubnet.Blockloop

open Library Python

/-- A quote case; `created_at` is the leader's clock. -/
structure Quote where
  quoteId : String
  createdAt : ℚ
  body : Value

/-- The `quotes` table. The ids are hashes of the contents, never empty. -/
structure QuoteStore where
  quotes : Dict String Quote
  keyed : ∀ id quote, quotes.get? id = some quote → quote.quoteId = id ∧ id ≠ ""

namespace QuoteStore

variable (store : QuoteStore)

def listQuoteIds : List String := store.quotes.keys

/-- `save_quote`: insert or overwrite. -/
def saveQuote (quote : Quote) (named : quote.quoteId ≠ "") : QuoteStore where
  quotes := store.quotes.set quote.quoteId quote
  keyed := by
    intro id saved found
    rw [Dict.get?_set] at found
    split at found
    · next here =>
      cases found
      exact ⟨here.symm, here ▸ named⟩
    · exact store.keyed id saved found

def deleteQuotes (ids : List String) : QuoteStore where
  quotes := store.quotes.filter fun id _ => !ids.contains id
  keyed := fun id quote found => store.keyed id quote (Dict.get?_filter_some found)

def listing : List Quote :=
  sortedBy (fun quote => toLex (-quote.createdAt, quote.quoteId)) store.quotes.values

def listQuotes (limit offset : Int) : List Quote :=
  let limit := max 1 (min limit 500)
  let offset := max 0 offset
  (store.listing.drop offset.toNat).take limit.toNat

end QuoteStore

def syncPageSize : Nat := 500

inductive Answer where
  | status200
  | otherStatus
  | raised

structure Request where
  leader : QuoteStore
  answer : Answer

/-- `_default_http_get`; `none` when it raises. -/
def Request.httpGet (request : Request) (pageOffset : Nat) : Option (List Quote) :=
  match request.answer with
  | .status200 => some (request.leader.listQuotes syncPageSize pageOffset)
  | .otherStatus => some []
  | .raised => none

/-- How a loop of requests goes: it asks for more than the list answers, it raises, or it ends;
    `rest` was not asked for. -/
inductive Pull (α : Type) where
  | asking
  | raised (rest : List Request)
  | ended (result : α) (rest : List Request)

/-- `seen` holds the ids of `quotes`. -/
def freshOf (quotes page : List Quote) : List Quote :=
  page.filter fun quote => quote.quoteId ≠ "" && !(quotes.map Quote.quoteId).contains quote.quoteId

def pullPages (pageOffset : Nat) (quotes : List Quote) : List Request → Pull (List Quote)
  | [] => .asking
  | request :: rest =>
    match request.httpGet pageOffset with
    | none => .raised rest
    | some page =>
      if (freshOf quotes page).isEmpty then .ended quotes rest
      else if page.length < syncPageSize then .ended (quotes ++ freshOf quotes page) rest
      else pullPages (pageOffset + syncPageSize) (quotes ++ freshOf quotes page) rest

def saveNamed (store : QuoteStore) (quote : Quote) : QuoteStore :=
  if named : quote.quoteId = "" then store else store.saveQuote quote named

/-- What is written: the pulled quotes, without whatever else the follower held. -/
def mirrored (store : QuoteStore) (quotes : List Quote) : QuoteStore :=
  let saved := quotes.foldl saveNamed store
  saved.deleteQuotes (saved.listQuoteIds.filter fun id => !(quotes.map Quote.quoteId).contains id)

/-- `(url or "").rstrip("/")`. -/
def leaderUrl (leaderApiUrl : Option String) : String :=
  String.ofList ((leaderApiUrl.getD "").toList.reverse.dropWhile (· = '/')).reverse

def syncOnce (isFollower : Bool) (leaderApiUrl : Option String) (store : QuoteStore)
    (requests : List Request) : Pull (QuoteStore × Nat) :=
  if !isFollower || leaderUrl leaderApiUrl = "" then .ended (store, 0) requests
  else
    match pullPages 0 [] requests with
    | .asking => .asking
    | .raised rest => .raised rest
    | .ended quotes rest =>
      if quotes.isEmpty then .ended (store, 0) rest
      else .ended (mirrored store quotes, quotes.countP fun quote => quote.quoteId ≠ "") rest

variable {store : QuoteStore}

theorem mem_listQuoteIds_saveNamed {quote id} :
    id ∈ (saveNamed store quote).listQuoteIds ↔
      id ∈ store.listQuoteIds ∨ (id ≠ "" ∧ id = quote.quoteId) := by
  unfold saveNamed
  split
  · next blank => simp [blank]
  · next named =>
    simp only [QuoteStore.listQuoteIds, QuoteStore.saveQuote, Dict.mem_keys, Dict.get?_set]
    by_cases here : id = quote.quoteId
    · simp [here, named]
    · simp [here]

theorem mem_listQuoteIds_foldl {quotes : List Quote} {id} :
    id ∈ (quotes.foldl saveNamed store).listQuoteIds ↔
      id ∈ store.listQuoteIds ∨ (id ≠ "" ∧ id ∈ quotes.map Quote.quoteId) := by
  induction quotes generalizing store with
  | nil => simp
  | cons quote rest ih =>
    rw [List.foldl_cons, ih, mem_listQuoteIds_saveNamed, List.map_cons, List.mem_cons]
    tauto

theorem QuoteStore.mem_deleteQuotes {ids id} :
    id ∈ (store.deleteQuotes ids).listQuoteIds ↔ id ∈ store.listQuoteIds ∧ id ∉ ids := by
  simp only [listQuoteIds, deleteQuotes, Dict.mem_keys, Dict.get?_filter_key]
  by_cases stale : id ∈ ids <;> simp [stale]

theorem QuoteStore.named {id : String} (held : id ∈ store.listQuoteIds) :
    id ≠ "" := by
  obtain ⟨quote, found⟩ := Dict.mem_keys.mp held
  exact (store.keyed id quote found).2

theorem mem_mirrored {quotes : List Quote} {id} :
    id ∈ (mirrored store quotes).listQuoteIds ↔ id ≠ "" ∧ id ∈ quotes.map Quote.quoteId := by
  unfold mirrored
  rw [QuoteStore.mem_deleteQuotes, List.mem_filter, mem_listQuoteIds_foldl]
  have named := @QuoteStore.named store id
  by_cases pulled : id ∈ quotes.map Quote.quoteId
  · simp only [pulled, List.contains_eq_mem, decide_true, Bool.not_true]
    tauto
  · simp only [pulled, List.contains_eq_mem, decide_false, Bool.not_false]
    tauto

namespace QuoteStore

variable (store : QuoteStore)

def listed : List String := store.listing.map Quote.quoteId

def place (id : String) : Nat := store.listed.idxOf id

variable {store}

theorem quoteIds_values : store.quotes.values.map Quote.quoteId = store.listQuoteIds := by
  simp only [Dict.values, listQuoteIds, Dict.keys, List.map_map]
  apply List.map_congr_left
  intro entry member
  exact (store.keyed entry.1 entry.2 (Dict.get?_eq_some.mpr member)).1

theorem listed_perm : store.listed.Perm store.listQuoteIds := by
  rw [← quoteIds_values]
  exact (sortedBy_perm _ _).map Quote.quoteId

theorem listed_nodup : store.listed.Nodup :=
  listed_perm.nodup_iff.mpr store.quotes.keysNodup

theorem listQuotes_page (offset : Nat) :
    store.listQuotes syncPageSize offset = (store.listing.drop offset).take syncPageSize := by
  simp [listQuotes, syncPageSize]

theorem mem_page {offset : Nat} {id : String} :
    id ∈ (store.listQuotes syncPageSize offset).map Quote.quoteId ↔
      id ∈ store.listQuoteIds ∧ offset ≤ store.place id ∧ store.place id < offset + syncPageSize := by
  rw [listQuotes_page, List.map_take, List.map_drop, ← listed_perm.mem_iff]
  exact mem_window listed_nodup

end QuoteStore

section

variable {offset : Nat} {quotes pulled : List Quote} {requests rest : List Request} {id : String}

variable {page : List Quote}

theorem mem_append_freshOf (named : id ≠ "") :
    id ∈ (quotes ++ freshOf quotes page).map Quote.quoteId ↔
      id ∈ quotes.map Quote.quoteId ∨ id ∈ page.map Quote.quoteId := by
  simp [freshOf]
  constructor
  · rintro (held | ⟨quote, ⟨listed, _⟩, rfl⟩)
    · exact .inl held
    · exact .inr ⟨quote, listed, rfl⟩
  · rintro (held | ⟨quote, listed, rfl⟩)
    · exact .inl held
    · by_cases seen : ∃ a ∈ quotes, a.quoteId = quote.quoteId
      · exact .inl seen
      · exact .inr ⟨quote, ⟨listed, by simpa [named] using seen⟩, rfl⟩

theorem mem_of_freshOf_nil (stale : (freshOf quotes page).isEmpty = true) (named : id ≠ "")
    (listed : id ∈ page.map Quote.quoteId) : id ∈ quotes.map Quote.quoteId := by
  have shown := (@mem_append_freshOf quotes _ _ named).mpr (.inr listed)
  rwa [List.isEmpty_iff.mp stale, List.append_nil] at shown

theorem pullPages_cons {request : Request} (got : request.httpGet offset = some page) :
    pullPages offset quotes (request :: rest) =
      if (freshOf quotes page).isEmpty then .ended quotes rest
      else if page.length < syncPageSize then .ended (quotes ++ freshOf quotes page) rest
      else pullPages (offset + syncPageSize) (quotes ++ freshOf quotes page) rest := by
  rw [pullPages, got]

theorem pullPages_grows (ended : pullPages offset quotes requests = .ended pulled rest) :
    quotes <+: pulled := by
  induction requests generalizing offset quotes with
  | nil => cases ended
  | cons request more ih =>
    rw [pullPages] at ended
    split at ended
    · cases ended
    · split at ended
      · cases ended
        exact List.prefix_refl _
      · split at ended
        · cases ended
          exact List.prefix_append _ _
        · exact (List.prefix_append _ _).trans (ih ended)

def HeldThroughout (requests : List Request) (id : String) : Prop :=
  ∀ request ∈ requests, id ∈ request.leader.listQuoteIds

def Settled (earlier later : QuoteStore) : Prop :=
  ∀ id ∈ earlier.listQuoteIds, id ∈ later.listQuoteIds → earlier.place id ≤ later.place id

def Orderly (offset : Nat) : List Request → Prop
  | [] => True
  | [request] => request.answer = .status200 ∧
      (request.leader.listQuotes syncPageSize offset).length < syncPageSize
  | request :: next :: rest => request.answer = .status200 ∧ Settled request.leader next.leader ∧
      Orderly (offset + syncPageSize) (next :: rest)

theorem Orderly.served {request : Request} (orderly : Orderly offset (request :: rest)) :
    request.httpGet offset = some (request.leader.listQuotes syncPageSize offset) := by
  cases rest with
  | nil => simp [Request.httpGet, orderly.1]
  | cons next more => simp [Request.httpGet, orderly.1]

theorem QuoteStore.page_full {store : QuoteStore} (held : id ∈ store.listQuoteIds)
    (later : offset + syncPageSize ≤ store.place id) :
    (store.listQuotes syncPageSize offset).length = syncPageSize := by
  have bound := List.idxOf_lt_length_of_mem (store.listed_perm.mem_iff.mpr held)
  rw [QuoteStore.listed, List.length_map] at bound
  rw [QuoteStore.listQuotes_page, List.length_take, List.length_drop]
  have place : offset + syncPageSize ≤ store.listed.idxOf id := later
  rw [QuoteStore.listed] at place
  omega

theorem pulled_of_shown {request : Request} (got : request.httpGet offset = some page)
    (ended : pullPages offset quotes (request :: requests) = .ended pulled rest) (named : id ≠ "")
    (shown : id ∈ page.map Quote.quoteId) : id ∈ pulled.map Quote.quoteId := by
  have added := (@mem_append_freshOf quotes _ _ named).mpr (.inr shown)
  rw [pullPages_cons got] at ended
  split at ended
  · next stale =>
    cases ended
    exact mem_of_freshOf_nil stale named shown
  · split at ended
    · cases ended
      exact added
    · exact List.map_subset _ (pullPages_grows ended).subset added

theorem Orderly.shows (orderly : Orderly offset requests)
    (ended : pullPages offset quotes requests = .ended pulled [])
    (held : HeldThroughout requests id)
    (ahead : ∀ request, requests.head? = some request → offset ≤ request.leader.place id) :
    id ∈ pulled.map Quote.quoteId := by
  induction requests generalizing offset quotes with
  | nil => cases ended
  | cons request more ih =>
    have here := held request List.mem_cons_self
    by_cases later : offset + syncPageSize ≤ request.leader.place id
    · -- the page is full, so an orderly pull goes on
      have full := QuoteStore.page_full here later
      rw [pullPages_cons orderly.served] at ended
      cases more with
      | nil => exact absurd orderly.2 (by omega)
      | cons next rest =>
        rw [full, if_neg (lt_irrefl _)] at ended
        split at ended
        · cases ended
        · apply ih orderly.2.2 ended fun r later => held r (List.mem_cons_of_mem _ later)
          intro r first
          cases first
          exact later.trans (orderly.2.1 id here (held _ (by simp)))
    · apply pulled_of_shown orderly.served ended (QuoteStore.named here)
      exact QuoteStore.mem_page.mpr ⟨here, ahead request rfl, not_le.mp later⟩

theorem QuoteStore.take_append_page (store : QuoteStore) (offset : Nat) :
    store.listing.take offset ++ store.listQuotes syncPageSize offset =
      store.listing.take (offset + syncPageSize) := by
  rw [listQuotes_page, ← List.take_add]

/-- All that a page shows is fresh while only the pages before it were pulled. -/
theorem freshOf_page {store : QuoteStore} :
    freshOf (store.listing.take offset) (store.listQuotes syncPageSize offset) =
      store.listQuotes syncPageSize offset := by
  apply List.filter_eq_self.mpr
  intro quote shown
  have inside : quote.quoteId ∈ (store.listQuotes syncPageSize offset).map Quote.quoteId :=
    List.mem_map_of_mem shown
  have place := (QuoteStore.mem_page.mp inside).2.1
  have named := QuoteStore.named (QuoteStore.mem_page.mp inside).1
  have unseen : quote.quoteId ∉ store.listed.take offset := by
    intro before
    have window := (@mem_window _ _ _ store.listed_nodup 0 offset _).mp before
    have below : store.place quote.quoteId < 0 + offset := window.2.2
    omega
  rw [QuoteStore.listed, ← List.map_take] at unseen
  rw [List.contains_eq_mem, decide_eq_false unseen, decide_eq_true named]
  rfl

theorem pullPages_unchanged (leader : QuoteStore) (page left : Nat)
    (pages : page + left = leader.listing.length / syncPageSize) :
    pullPages (page * syncPageSize) (leader.listing.take (page * syncPageSize))
      (List.replicate (left + 1) ⟨leader, .status200⟩) = .ended leader.listing [] := by
  have length : ∀ offset : Nat, (leader.listQuotes syncPageSize offset).length =
      min syncPageSize (leader.listing.length - offset) := by
    intro offset
    rw [QuoteStore.listQuotes_page, List.length_take, List.length_drop]
  induction left generalizing page with
  | zero =>
    have short := length (page * syncPageSize)
    rw [List.replicate_one, pullPages_cons rfl, freshOf_page, QuoteStore.take_append_page]
    have all : leader.listing.take (page * syncPageSize + syncPageSize) = leader.listing := by
      apply List.take_of_length_le
      simp only [syncPageSize] at *
      omega
    split
    · next empty =>
      have none_left := QuoteStore.take_append_page leader (page * syncPageSize)
      rw [List.isEmpty_iff.mp empty, List.append_nil, all] at none_left
      rw [none_left]
    · rw [if_pos, all]
      simp only [syncPageSize] at *
      omega
  | succ left ih =>
    have full : (leader.listQuotes syncPageSize (page * syncPageSize : Nat)).length = syncPageSize := by
      rw [length]
      simp only [syncPageSize] at *
      omega
    have fresh : ¬ (leader.listQuotes syncPageSize (page * syncPageSize : Nat)).isEmpty = true := by
      rw [List.isEmpty_iff_length_eq_zero, full]
      decide
    rw [List.replicate_succ, pullPages_cons rfl, freshOf_page, if_neg fresh]
    rw [full, if_neg (lt_irrefl _), QuoteStore.take_append_page, ← Nat.succ_mul]
    exact ih (page + 1) (by omega)

end

section

variable {store after : QuoteStore} {requests : List Request} {leader : QuoteStore}
  {url : Option String}
  {count : Nat} {isFollower : Bool}

theorem syncOnce_ended (ended : syncOnce isFollower url store requests = .ended (after, count) []) :
    after = store ∨ ∃ quotes, pullPages 0 [] requests = .ended quotes [] ∧ quotes ≠ [] ∧
      after = mirrored store quotes := by
  unfold syncOnce at ended
  split at ended
  · cases ended
    exact .inl rfl
  · split at ended
    · cases ended
    · cases ended
    · next quotes rest pulled =>
      split at ended
      · cases ended
        exact .inl rfl
      · next some_pulled =>
        cases ended
        exact .inr ⟨quotes, pulled, by simpa using some_pulled, rfl⟩

/-- The first request fails or finds an empty table. -/
def NothingListed (requests : List Request) : Prop :=
  ∀ request, requests.head? = some request →
    request.answer ≠ .status200 ∨ request.leader.listQuoteIds = []

theorem nothing_pulled (nothing : NothingListed requests) {quotes}
    (pulled : pullPages 0 [] requests = .ended quotes []) : quotes = [] := by
  cases requests with
  | nil => cases pulled
  | cons request rest =>
    cases got : request.httpGet 0 with
    | none =>
      rw [pullPages, got] at pulled
      cases pulled
    | some page =>
      have empty : page = [] := by
        unfold Request.httpGet at got
        split at got
        · next answered =>
          cases got
          have none := (nothing request rfl).resolve_left (not_not.mpr answered)
          have unlisted := request.leader.listed_perm
          rw [none, List.perm_nil, QuoteStore.listed, List.map_eq_nil_iff] at unlisted
          rw [QuoteStore.listQuotes_page, unlisted]
          rfl
        · exact (Option.some.inj got).symm
        · cases got
      rw [pullPages_cons got, empty] at pulled
      cases pulled
      rfl

/-- An orderly pull deletes no quote that the leader held throughout, a pull that lists nothing
    deletes none, and from a leader that does not change the follower gets the ids it holds. -/
theorem sync_mirrors (isFollower : Bool) (url : Option String) (store : QuoteStore) :
    (∀ requests after count, syncOnce isFollower url store requests = .ended (after, count) [] →
      Orderly 0 requests →
      ∀ id ∈ store.listQuoteIds, HeldThroughout requests id → id ∈ after.listQuoteIds) ∧
    (∀ requests after count, syncOnce isFollower url store requests = .ended (after, count) [] →
      NothingListed requests → after = store) ∧
    (isFollower = true → leaderUrl url ≠ "" → ∀ leader, ∃ after count,
      syncOnce isFollower url store
        (List.replicate (leader.listing.length / syncPageSize + 1) ⟨leader, .status200⟩) =
          .ended (after, count) [] ∧
      (leader.listQuoteIds = [] → after = store) ∧
      (leader.listQuoteIds ≠ [] → ∀ id, id ∈ after.listQuoteIds ↔ id ∈ leader.listQuoteIds)) := by
  refine ⟨?_, ?_, ?_⟩
  · intro requests after count ended orderly id held throughout
    rcases syncOnce_ended ended with rfl | ⟨quotes, pulled, _, rfl⟩
    · exact held
    · apply mem_mirrored.mpr
      exact ⟨QuoteStore.named held, orderly.shows pulled throughout fun _ _ => Nat.zero_le _⟩
  · intro requests after count ended nothing
    rcases syncOnce_ended ended with rfl | ⟨quotes, pulled, some_pulled, -⟩
    · rfl
    · exact absurd (nothing_pulled nothing pulled) some_pulled
  · intro follower known leader
    have pulled := pullPages_unchanged leader 0 (leader.listing.length / syncPageSize) (Nat.zero_add _)
    rw [Nat.zero_mul, List.take_zero] at pulled
    have perm := leader.listed_perm
    unfold syncOnce
    rw [if_neg (by simp [follower, known]), pulled]
    dsimp only
    by_cases empty : leader.listing = []
    · have none_held : leader.listQuoteIds = [] := by
        rw [QuoteStore.listed, empty] at perm
        exact List.nil_perm.mp perm
      rw [if_pos (by rw [empty]; rfl)]
      exact ⟨store, 0, rfl, fun _ => rfl, fun held => absurd none_held held⟩
    · have some_held : leader.listQuoteIds ≠ [] := by
        intro none
        rw [none, List.perm_nil, QuoteStore.listed, List.map_eq_nil_iff] at perm
        exact empty perm
      rw [if_neg (by simpa using empty)]
      refine ⟨_, _, rfl, fun none => absurd none some_held, ?_⟩
      intro _ id
      rw [mem_mirrored, ← perm.mem_iff]
      constructor
      · exact fun found => found.2
      · exact fun listed => ⟨QuoteStore.named (perm.mem_iff.mp listed), listed⟩

def oneQuote : QuoteStore :=
  QuoteStore.saveQuote ⟨Dict.empty, nofun⟩ ⟨"qt_1", 10, .none⟩ (by decide)

def twoQuotes : QuoteStore := oneQuote.saveQuote ⟨"qt_2", 20, .none⟩ (by decide)

theorem sync_mirrors_twoQuotes : ∃ after count,
    syncOnce true (some "http://leader") oneQuote [⟨twoQuotes, .status200⟩] = .ended (after, count) [] ∧
      "qt_1" ∈ after.listQuoteIds := by
  have length : twoQuotes.listing.length = 2 := by decide +kernel
  have known : leaderUrl (some "http://leader") ≠ "" := by decide
  obtain ⟨after, count, ended, -, -⟩ :=
    (sync_mirrors true (some "http://leader") oneQuote).2.2 rfl known twoQuotes
  rw [length] at ended
  have orderly : Orderly 0 [⟨twoQuotes, .status200⟩] := by
    refine ⟨rfl, ?_⟩
    rw [QuoteStore.listQuotes_page, List.length_take, List.length_drop, length]
    decide
  refine ⟨after, count, ended, (sync_mirrors true _ oneQuote).1 _ _ _ ended orderly "qt_1" ?_ ?_⟩
  · decide
  · intro request inside
    obtain rfl := List.mem_singleton.mp inside
    decide

/-- An empty table is not mirrored. -/
theorem empty_leader_diverges :
    ¬ ∀ (store leader : QuoteStore) (pages : Nat) (after : QuoteStore) (count : Nat),
      syncOnce true (some "http://leader") store (List.replicate pages ⟨leader, .status200⟩) =
        .ended (after, count) [] → ∀ id, id ∈ after.listQuoteIds ↔ id ∈ leader.listQuoteIds := by
  intro mirrors
  have same := mirrors oneQuote ⟨Dict.empty, nofun⟩ 1 oneQuote 0 rfl "qt_1"
  revert same
  decide

end

end MinotaurSubnet.Blockloop
