import MinotaurSubnet.Library.UpToOrder
import MinotaurSubnet.Python.JsonTexts

/-! # What a pack hash identifies

`compute_pack_hash` of `harness/benchmark_pack.py` in its single-flat-set layout. The digest is
over one text of lines: a head, the scenarios and the order ids as sorted tokens, and up to three
sections that are there only when their argument is. An id is any string; `json.dumps` writes its
UTF-16 code units, so that two surrogates in a row and the character they stand for are one token.
The other strings are Unicode text, and texts stand for their UTF-8 bytes.
-/

namespace MinotaurSubnet.Harness

open Library Python

section

variable [FloatRepr]

def canonicalKeys : List String := ["app_id", "name", "intent_function", "params", "chains", "fund"]

def canonicalScenario (scenario : List (String × Value)) : List (String × Value) :=
  canonicalKeys.filterMap fun key => (scenario.lookup key).map (key, ·)

def scenarioToken (scenario : List (String × Value)) : String :=
  (Value.dict (canonicalScenario scenario)).dumps

def idToken (key : String) (id : PyStr) : String := PyStr.dumpsObject [(key, id)]

def sectionText (header : String) (body : List String) : String :=
  header ++ "\n" ++ String.join (body.map (· ++ "\n"))

def optionalSection (header : String) : Option (List String) → String
  | none => ""
  | some body => sectionText header body

/-- The arguments of `compute_pack_hash`; scenarios and records are JSON objects. -/
structure Pack where
  roundId : String
  syntheticScenarios : List (List (String × Value)) := []
  historicalOrderIds : List PyStr := []
  computeBudget : Option (List (String × Value)) := none
  blockRewrite : Option (List (String × Value)) := none
  historicalQuoteIds : Option (List PyStr) := none

namespace Pack

variable (pack : Pack)

def tokens : List String :=
  pack.syntheticScenarios.map scenarioToken ++ pack.historicalOrderIds.map (idToken "order_id")

def quoteSection : String :=
  optionalSection "QUOTES_V1"
    (pack.historicalQuoteIds.map fun ids => sortedBy id (ids.map (idToken "quote_id")))

def budgetSection : String :=
  optionalSection "COMPUTE_BUDGET_V1" (pack.computeBudget.map fun budget => [(Value.dict budget).dumps])

def rewriteSection : String :=
  optionalSection "BLOCK_REWRITE_V1" (pack.blockRewrite.map fun rules => [(Value.dict rules).dumps])

def text : String :=
  "MINOTAUR_BENCHMARK_PACK_V2\n" ++ pack.roundId ++ "\n" ++
    sectionText "SCENARIOS" (sortedBy id pack.tokens) ++ pack.quoteSection ++
    pack.budgetSection ++ pack.rewriteSection

def scenarioValues : List Value :=
  pack.syntheticScenarios.map fun scenario => (Value.dict (canonicalScenario scenario)).sorted

def budgetValue : Option Value := pack.computeBudget.map fun budget => (Value.dict budget).sorted

def rewriteValue : Option Value := pack.blockRewrite.map fun rules => (Value.dict rules).sorted

end Pack

def computePackHash (sha256Hex : String → String) (pack : Pack) : String :=
  "0x" ++ sha256Hex pack.text

end

/-- The text of an object, on one line. -/
structure IsToken (text : String) : Prop where
  head : ∃ c ∈ text.toList.head?, c = '\x7b'
  oneLine : '\n' ∉ text.toList

theorem idToken_toList (key : String) (id : PyStr) : (idToken key id).toList =
    '\x7b' :: ((Value.quote key).toList ++ ':' :: (id.quote.toList ++ ['\x7d'])) := by
  unfold idToken PyStr.dumpsObject
  simp [sortedBy, Value.quote]

theorem isToken_idToken (key : String) (id : PyStr) : IsToken (idToken key id) where
  head := ⟨'\x7b', by rw [idToken_toList]; rfl, rfl⟩
  oneLine := by
    have name := Value.newline_not_mem_quote (PyStr.ofString key)
    have value := Value.newline_not_mem_quote id
    rw [idToken_toList]
    simp [Value.quote, name, value]

theorem idToken_eq_iff {key id id'} :
    idToken key id = idToken key id' ↔ id.units = id'.units := by
  constructor
  · intro same
    have chars := congrArg String.toList same
    rw [idToken_toList, idToken_toList] at chars
    have values := List.append_cancel_left (List.cons.inj chars).2
    exact (PyStr.units_of_quote (List.cons.inj values).2).1
  · intro units
    unfold idToken PyStr.dumpsObject PyStr.quote
    simp [sortedBy, units]

theorem ids_perm_iff {key} {ids ids' : List PyStr} :
    (ids.map (idToken key)).Perm (ids'.map (idToken key)) ↔
      (ids.map PyStr.units).Perm (ids'.map PyStr.units) := by
  constructor
  · exact perm_map_of_determined fun _ _ _ _ same => idToken_eq_iff.mp same
  · exact perm_map_of_determined fun _ _ _ _ same => idToken_eq_iff.mpr same

theorem canonicalScenario_keys (scenario : List (String × Value)) :
    ∀ field ∈ canonicalScenario scenario, field.1 ∈ canonicalKeys := by
  intro field inside
  obtain ⟨key, listed, found⟩ := List.mem_filterMap.mp inside
  obtain ⟨v, _, rfl⟩ := Option.map_eq_some_iff.mp found
  exact listed

theorem sectionText_toList (header : String) (body : List String) :
    (sectionText header body).toList =
      header.toList ++ '\n' :: lines '\n' (body.map String.toList) := by
  simp [sectionText, lines, String.toList_append, String.toList_join, List.flatMap_map]

theorem sectionText_inj {header body body'} {rest rest' : String} (each : ∀ t ∈ body, IsToken t)
    (each' : ∀ t ∈ body', IsToken t) (ends : StopsAt (¬· = '\x7b') rest.toList)
    (ends' : StopsAt (¬· = '\x7b') rest'.toList)
    (same : sectionText header body ++ rest = sectionText header body' ++ rest') :
    body = body' ∧ rest = rest' := by
  have chars := congrArg String.toList same
  rw [String.toList_append, String.toList_append, sectionText_toList, sectionText_toList,
    List.append_assoc, List.append_assoc, List.append_cancel_left_eq] at chars
  have inLines {body : List String} (each : ∀ t ∈ body, IsToken t) :
      ∀ t ∈ body.map String.toList, '\n' ∉ t ∧ ∃ c ∈ t.head?, c = '\x7b' := by
    intro t line
    obtain ⟨token, inside, rfl⟩ := List.mem_map.mp line
    exact ⟨(each token inside).oneLine, (each token inside).head⟩
  obtain ⟨texts, after⟩ := lines_inj (fun t line => (inLines each t line).1)
    (fun t line => (inLines each' t line).1) (fun t line => (inLines each t line).2)
    (fun t line => (inLines each' t line).2) ends ends' (List.cons.inj chars).2
  have lines := List.map_injective_iff.mpr (fun _ _ chars => String.toList_injective chars) texts
  exact ⟨lines, String.toList_injective after⟩

section

variable {header : String} {c : Char} {body body' : Option (List String)} {rest rest' : String}

theorem stopsAt_optionalSection {P : Char → Prop} (opens : header.toList.head? = some c)
    (allowed : P c) (ends : StopsAt P rest.toList) :
    StopsAt P (optionalSection header body ++ rest).toList := by
  cases body with
  | none => simpa [optionalSection] using ends
  | some body =>
    obtain ⟨tail, spelled⟩ := List.head?_eq_some_iff.mp opens
    rw [optionalSection, String.toList_append, sectionText_toList, spelled]
    exact allowed

theorem optionalSection_inj (opens : header.toList.head? = some c)
    (each : ∀ l ∈ body, ∀ t ∈ l, IsToken t) (each' : ∀ l ∈ body', ∀ t ∈ l, IsToken t)
    (ends : StopsAt (fun d => d ≠ '\x7b' ∧ d ≠ c) rest.toList)
    (ends' : StopsAt (fun d => d ≠ '\x7b' ∧ d ≠ c) rest'.toList)
    (same : optionalSection header body ++ rest = optionalSection header body' ++ rest') :
    body = body' ∧ rest = rest' := by
  have weaker {s : String} (ends : StopsAt (fun d => d ≠ '\x7b' ∧ d ≠ c) s.toList) :
      StopsAt (¬· = '\x7b') s.toList := by
    cases spelled : s.toList with
    | nil => trivial
    | cons d tail =>
      rw [spelled] at ends
      exact ends.1
  have absent {s s' : String} {l : List String}
      (ends : StopsAt (fun d => d ≠ '\x7b' ∧ d ≠ c) s.toList) : s ≠ sectionText header l ++ s' := by
    rintro rfl
    obtain ⟨tail, spelled⟩ := List.head?_eq_some_iff.mp opens
    rw [String.toList_append, sectionText_toList, spelled] at ends
    exact ends.2 rfl
  cases body with
  | none =>
    cases body' with
    | none => exact ⟨rfl, by simpa [optionalSection] using same⟩
    | some l' =>
      rw [optionalSection, String.empty_append] at same
      exact absurd same (absent ends)
  | some l =>
    cases body' with
    | none =>
      rw [optionalSection, optionalSection, String.empty_append] at same
      exact absurd same.symm (absent ends')
    | some l' =>
      obtain ⟨rfl, after⟩ := sectionText_inj (each l rfl) (each' l' rfl) (weaker ends)
        (weaker ends') same
      exact ⟨rfl, after⟩

end

namespace Pack

variable {a b : Pack}

theorem sorted_tokens_eq_iff {texts texts' : List String} :
    sortedBy id texts = sortedBy id texts' ↔ texts.Perm texts' := by
  constructor
  · intro same
    exact (sortedBy_perm id texts).symm.trans (same ▸ sortedBy_perm id texts')
  · exact sortedBy_id_eq_of_perm

def SameIds {α : Type} : Option (List α) → Option (List α) → Prop
  | none, none => True
  | some ids, some ids' => ids.Perm ids'
  | _, _ => False

/-- Presence and ids of two quote draws, as they are written. -/
abbrev SameQuotes {α : Type} (written : PyStr → α) (ids ids' : Option (List PyStr)) : Prop :=
  SameIds (ids.map (List.map written)) (ids'.map (List.map written))

theorem quotes_eq_iff {ids ids' : Option (List PyStr)} :
    ids.map (fun l => sortedBy id (l.map (idToken "quote_id"))) =
        ids'.map (fun l => sortedBy id (l.map (idToken "quote_id"))) ↔ SameQuotes PyStr.units ids ids' := by
  cases ids <;> cases ids' <;> simp [SameQuotes, SameIds, sorted_tokens_eq_iff, ids_perm_iff]

theorem isToken_quotes (pack : Pack) :
    ∀ l ∈ pack.historicalQuoteIds.map (fun ids => sortedBy id (ids.map (idToken "quote_id"))),
      ∀ t ∈ l, IsToken t := by
  intro l present t inside
  obtain ⟨ids, _, rfl⟩ := Option.map_eq_some_iff.mp present
  obtain ⟨id, _, rfl⟩ := List.mem_map.mp (mem_sortedBy.mp inside)
  exact isToken_idToken "quote_id" id

theorem roundId_of_text (oneLine : '\n' ∉ a.roundId.toList) (oneLine' : '\n' ∉ b.roundId.toList)
    {rest rest'} (same : a.roundId ++ ("\n" ++ rest) = b.roundId ++ ("\n" ++ rest')) :
    a.roundId = b.roundId ∧ rest = rest' := by
  have chars := congrArg String.toList same
  simp only [String.toList_append] at chars
  have free {s : String} (oneLine : '\n' ∉ s.toList) : ∀ c ∈ s.toList, ¬c = '\n' :=
    fun c inside broken => oneLine (broken ▸ inside)
  have stop (z : List Char) : StopsAt (· = '\n') ("\n".toList ++ z) := rfl
  obtain ⟨ids, after⟩ := append_inj_of_stops (free oneLine) (free oneLine') (stop _) (stop _) chars
  exact ⟨String.toList_injective ids,
    String.toList_injective (List.append_cancel_left after)⟩

/-- Two packs agree on what is hashed, the ids as they are written. -/
structure Same {α : Type} (written : PyStr → α) (a b : Pack) : Prop where
  roundId : a.roundId = b.roundId
  scenarios : a.scenarioValues.Perm b.scenarioValues
  orders : (a.historicalOrderIds.map written).Perm (b.historicalOrderIds.map written)
  quotes : SameQuotes written a.historicalQuoteIds b.historicalQuoteIds
  budget : a.budgetValue = b.budgetValue
  rewrite : a.rewriteValue = b.rewriteValue

/-- No id has a high surrogate followed by a low one. -/
structure Unpaired (pack : Pack) : Prop where
  orders : ∀ id ∈ pack.historicalOrderIds, id.Unpaired
  quotes : ∀ ids ∈ pack.historicalQuoteIds, ∀ id ∈ ids, id.Unpaired

theorem units_perm_iff {ids ids' : List PyStr} (unpaired : ∀ id ∈ ids, id.Unpaired)
    (unpaired' : ∀ id ∈ ids', id.Unpaired) :
    (ids.map PyStr.units).Perm (ids'.map PyStr.units) ↔ (ids.map id).Perm (ids'.map id) := by
  constructor
  · exact perm_map_of_determined fun a listed b listed' same =>
      PyStr.units_inj (unpaired a listed) (unpaired' b listed') same
  · exact perm_map_of_determined fun _ _ _ _ same => congrArg PyStr.units same

theorem same_units_iff (unpaired : a.Unpaired) (unpaired' : b.Unpaired) :
    Same PyStr.units a b ↔ Same id a b := by
  have orders := units_perm_iff unpaired.orders unpaired'.orders
  have quotes : SameQuotes PyStr.units a.historicalQuoteIds b.historicalQuoteIds ↔
      SameQuotes id a.historicalQuoteIds b.historicalQuoteIds := by
    have each := unpaired.quotes
    have each' := unpaired'.quotes
    cases drawn : a.historicalQuoteIds with
    | none => cases b.historicalQuoteIds <;> exact Iff.rfl
    | some ids =>
      cases drawn' : b.historicalQuoteIds with
      | none => exact Iff.rfl
      | some ids' => exact units_perm_iff (each ids drawn) (each' ids' drawn')
  constructor
  · intro same
    exact ⟨same.roundId, same.scenarios, orders.mp same.orders, quotes.mp same.quotes, same.budget,
      same.rewrite⟩
  · intro same
    exact ⟨same.roundId, same.scenarios, orders.mpr same.orders, quotes.mpr same.quotes, same.budget,
      same.rewrite⟩

end Pack

section

variable [FloatRepr]

theorem isToken_dumps (fields : List (String × Value)) : IsToken (Value.dict fields).dumps where
  head := ⟨'\x7b', by rw [← Value.text, Value.text_dict]; rfl, rfl⟩
  oneLine := Value.newline_not_mem_text _

theorem scenarioToken_ne_idToken (scenario : List (String × Value)) {key}
    (other : key ∉ canonicalKeys) (id : PyStr) : scenarioToken scenario ≠ idToken key id := by
  intro same
  have chars := congrArg String.toList same
  rw [idToken_toList, scenarioToken, ← Value.text, Value.text_dict] at chars
  have members := (List.cons.inj chars).2
  cases sorted : sortedBy Prod.fst (canonicalScenario scenario) with
  | nil =>
    rw [sorted, Value.quote, PyStr.quote_toList] at members
    exact absurd (List.cons.inj members).1 (by decide)
  | cons field rest =>
    rw [sorted] at members
    change Value.memberText field ++ _ = _ at members
    rw [Value.memberText, List.append_assoc] at members
    obtain ⟨rfl, -⟩ := Value.quote_inj members
    have listed : field ∈ sortedBy Prod.fst (canonicalScenario scenario) := sorted ▸ List.mem_cons_self
    exact other (canonicalScenario_keys scenario field (mem_sortedBy.mp listed))

namespace Pack

variable {a b : Pack}

theorem isToken_of_mem_tokens (pack : Pack) : ∀ t ∈ pack.tokens, IsToken t := by
  intro t inside
  cases List.mem_append.mp inside with
  | inl scenario =>
    obtain ⟨fields, _, rfl⟩ := List.mem_map.mp scenario
    exact isToken_dumps _
  | inr order =>
    obtain ⟨id, _, rfl⟩ := List.mem_map.mp order
    exact isToken_idToken "order_id" id

theorem scenarioValues_dumps (pack : Pack) :
    pack.scenarioValues.map Value.dumps = pack.syntheticScenarios.map scenarioToken := by
  unfold scenarioValues
  rw [List.map_map]
  exact List.map_congr_left fun scenario _ => Value.dumps_sorted _

theorem tokens_perm_iff : a.tokens.Perm b.tokens ↔
    a.scenarioValues.Perm b.scenarioValues ∧
      (a.historicalOrderIds.map PyStr.units).Perm (b.historicalOrderIds.map PyStr.units) := by
  classical
  let isOrder (t : String) : Bool := decide (∃ id, t = idToken "order_id" id)
  have order (ids : List PyStr) : ∀ t ∈ ids.map (idToken "order_id"), isOrder t = true := by
    intro t inside
    obtain ⟨id, _, rfl⟩ := List.mem_map.mp inside
    exact decide_eq_true ⟨id, rfl⟩
  have scenario (l : List (List (String × Value))) : ∀ t ∈ l.map scenarioToken, isOrder t = false := by
    intro t inside
    obtain ⟨fields, _, rfl⟩ := List.mem_map.mp inside
    apply decide_eq_false
    rintro ⟨id, same⟩
    exact scenarioToken_ne_idToken fields (by decide) id same
  have kinds := perm_append_iff (scenario a.syntheticScenarios) (scenario b.syntheticScenarios)
    (order a.historicalOrderIds) (order b.historicalOrderIds)
  have values : (a.syntheticScenarios.map scenarioToken).Perm (b.syntheticScenarios.map scenarioToken) ↔
      a.scenarioValues.Perm b.scenarioValues := by
    constructor
    · exact perm_map_of_determined fun _ _ _ _ same => Value.sorted_of_dumps same
    · intro perm
      rw [← scenarioValues_dumps, ← scenarioValues_dumps]
      exact perm.map Value.dumps
  exact kinds.trans (and_congr values ids_perm_iff)

theorem record_eq_iff {record record' : Option (List (String × Value))} :
    record.map (fun fields => [(Value.dict fields).dumps]) =
        record'.map (fun fields => [(Value.dict fields).dumps]) ↔
      record.map (fun fields => (Value.dict fields).sorted) =
        record'.map (fun fields => (Value.dict fields).sorted) := by
  cases record <;> cases record' <;> simp [Value.dumps_eq_iff]

theorem isToken_record (record : Option (List (String × Value))) :
    ∀ l ∈ record.map (fun fields => [(Value.dict fields).dumps]), ∀ t ∈ l, IsToken t := by
  intro l present t inside
  obtain ⟨fields, _, rfl⟩ := Option.map_eq_some_iff.mp present
  obtain rfl := List.mem_singleton.mp inside
  exact isToken_dumps fields

theorem stopsAt_rewriteSection {P : Char → Prop} (allowed : P 'B') (pack : Pack) :
    StopsAt P pack.rewriteSection.toList := by
  have ends : StopsAt P (pack.rewriteSection ++ "").toList :=
    stopsAt_optionalSection rfl allowed trivial
  rwa [String.append_empty] at ends

theorem stopsAt_budgetSection {P : Char → Prop} (allowed : P 'C') (allowed' : P 'B') (pack : Pack) :
    StopsAt P (pack.budgetSection ++ pack.rewriteSection).toList :=
  stopsAt_optionalSection rfl allowed (stopsAt_rewriteSection allowed' pack)

theorem stopsAt_quoteSection {P : Char → Prop} (first : P 'Q') (allowed : P 'C') (allowed' : P 'B')
    (pack : Pack) :
    StopsAt P (pack.quoteSection ++ (pack.budgetSection ++ pack.rewriteSection)).toList :=
  stopsAt_optionalSection rfl first (stopsAt_budgetSection allowed allowed' pack)

theorem rewriteSection_eq_iff : a.rewriteSection = b.rewriteSection ↔ a.rewriteValue = b.rewriteValue := by
  constructor
  · intro same
    have padded : a.rewriteSection ++ "" = b.rewriteSection ++ "" := congrArg (· ++ "") same
    have ended : StopsAt (fun d => d ≠ '\x7b' ∧ d ≠ 'B') "".toList := trivial
    exact record_eq_iff.mp (optionalSection_inj rfl (isToken_record _) (isToken_record _) ended ended
      padded).1
  · intro values
    exact congrArg (optionalSection _) (record_eq_iff.mpr values)

theorem budgetSection_eq_iff :
    a.budgetSection ++ a.rewriteSection = b.budgetSection ++ b.rewriteSection ↔
      a.budgetValue = b.budgetValue ∧ a.rewriteValue = b.rewriteValue := by
  rw [← rewriteSection_eq_iff]
  constructor
  · intro same
    obtain ⟨budgets, rewrites⟩ := optionalSection_inj rfl (isToken_record _) (isToken_record _)
      (stopsAt_rewriteSection (by decide) a) (stopsAt_rewriteSection (by decide) b) same
    exact ⟨record_eq_iff.mp budgets, rewrites⟩
  · rintro ⟨budgets, rewrites⟩
    have sections : a.budgetSection = b.budgetSection :=
      congrArg (optionalSection _) (record_eq_iff.mpr budgets)
    rw [sections, rewrites]

theorem quoteSection_eq_iff :
    a.quoteSection ++ (a.budgetSection ++ a.rewriteSection) =
        b.quoteSection ++ (b.budgetSection ++ b.rewriteSection) ↔
      SameQuotes PyStr.units a.historicalQuoteIds b.historicalQuoteIds ∧ a.budgetValue = b.budgetValue ∧
        a.rewriteValue = b.rewriteValue := by
  rw [← budgetSection_eq_iff]
  constructor
  · intro same
    obtain ⟨quotes, records⟩ := optionalSection_inj rfl a.isToken_quotes b.isToken_quotes
      (stopsAt_budgetSection (by decide) (by decide) a)
      (stopsAt_budgetSection (by decide) (by decide) b) same
    exact ⟨quotes_eq_iff.mp quotes, records⟩
  · rintro ⟨quotes, records⟩
    have sections : a.quoteSection = b.quoteSection :=
      congrArg (optionalSection _) (quotes_eq_iff.mpr quotes)
    rw [sections, records]

theorem text_eq (pack : Pack) : pack.text = "MINOTAUR_BENCHMARK_PACK_V2\n" ++ (pack.roundId ++ ("\n" ++
    (sectionText "SCENARIOS" (sortedBy id pack.tokens) ++
      (pack.quoteSection ++ (pack.budgetSection ++ pack.rewriteSection))))) := by
  unfold text
  rw [String.append_assoc, String.append_assoc, String.append_assoc, String.append_assoc,
    String.append_assoc]

theorem text_eq_iff_of_round (round : a.roundId = b.roundId) : a.text = b.text ↔
    a.tokens.Perm b.tokens ∧ SameQuotes PyStr.units a.historicalQuoteIds b.historicalQuoteIds ∧
      a.budgetValue = b.budgetValue ∧ a.rewriteValue = b.rewriteValue := by
  rw [text_eq, text_eq, round, String.append_right_inj, String.append_right_inj,
    String.append_right_inj, ← quoteSection_eq_iff]
  constructor
  · intro same
    have sortedTokens (pack : Pack) : ∀ t ∈ sortedBy id pack.tokens, IsToken t := fun t inside =>
      pack.isToken_of_mem_tokens t (mem_sortedBy.mp inside)
    obtain ⟨tokens, sections⟩ := sectionText_inj (sortedTokens a) (sortedTokens b)
      (stopsAt_quoteSection (by decide) (by decide) (by decide) a)
      (stopsAt_quoteSection (by decide) (by decide) (by decide) b) same
    exact ⟨sorted_tokens_eq_iff.mp tokens, sections⟩
  · rintro ⟨tokens, sections⟩
    rw [sorted_tokens_eq_iff.mpr tokens, sections]

theorem text_eq_iff (oneLine : '\n' ∉ a.roundId.toList) (oneLine' : '\n' ∉ b.roundId.toList) :
    a.text = b.text ↔
      a.roundId = b.roundId ∧ a.tokens.Perm b.tokens ∧
        SameQuotes PyStr.units a.historicalQuoteIds b.historicalQuoteIds ∧
        a.budgetValue = b.budgetValue ∧ a.rewriteValue = b.rewriteValue := by
  constructor
  · intro same
    have lines := same
    rw [text_eq, text_eq, String.append_right_inj] at lines
    obtain ⟨round, -⟩ := roundId_of_text oneLine oneLine' lines
    exact ⟨round, (text_eq_iff_of_round round).mp same⟩
  · rintro ⟨round, parts⟩
    exact (text_eq_iff_of_round round).mpr parts

end Pack

/-- A pack hash identifies the round, the canonical scenarios, the drawn orders and quotes and the
    two records; the order of the lists does not matter. An id counts as its code units, which are
    the id itself when no two of its surrogates make a pair. -/
theorem computePackHash_eq_iff {sha256Hex : String → String} (injective : Function.Injective sha256Hex)
    {a b : Pack} (oneLine : '\n' ∉ a.roundId.toList) (oneLine' : '\n' ∉ b.roundId.toList) :
    (computePackHash sha256Hex a = computePackHash sha256Hex b ↔ Pack.Same PyStr.units a b) ∧
      (a.Unpaired → b.Unpaired →
        (computePackHash sha256Hex a = computePackHash sha256Hex b ↔ Pack.Same id a b)) := by
  have digest : computePackHash sha256Hex a = computePackHash sha256Hex b ↔ a.text = b.text := by
    unfold computePackHash
    rw [String.append_right_inj, injective.eq_iff]
  have identified : computePackHash sha256Hex a = computePackHash sha256Hex b ↔
      Pack.Same PyStr.units a b := by
    rw [digest, Pack.text_eq_iff oneLine oneLine', Pack.tokens_perm_iff]
    constructor
    · rintro ⟨round, ⟨scenarios, orders⟩, quotes, budget, rewrite⟩
      exact ⟨round, scenarios, orders, quotes, budget, rewrite⟩
    · intro same
      exact ⟨same.roundId, ⟨same.scenarios, same.orders⟩, same.quotes, same.budget, same.rewrite⟩
  exact ⟨identified, fun unpaired unpaired' => identified.trans (Pack.same_units_iff unpaired unpaired')⟩

end

section

attribute [local instance] fractions

def packOf (orders : List PyStr) (quotes : Option (List PyStr) := none) : Pack where
  roundId := "round-e7-n0"
  syntheticScenarios := [[("app_id", .str "dex"), ("name", .str "a")], [("app_id", .str "dex")]]
  historicalOrderIds := orders
  historicalQuoteIds := quotes

def relisted : Pack where
  roundId := "round-e7-n0"
  syntheticScenarios := [[("app_id", .str "dex")],
    [("name", .str "a"), ("note", .none), ("app_id", .str "dex")]]
  historicalOrderIds := [.ofString "o2", .ofString "o1"]

theorem packOf_unpaired (orders : List String) {quotes} (quiet : ∀ ids ∈ quotes, ids = []) :
    (packOf (orders.map .ofString) quotes).Unpaired where
  orders id listed := by
    obtain ⟨text, -, rfl⟩ := List.mem_map.mp listed
    exact PyStr.unpaired_ofString text
  quotes ids drawn id listed := by
    rw [quiet ids drawn] at listed
    cases listed

/-- Members in another order, a foreign key and another order of the ids change nothing; an empty
    quote draw is not an absent one. -/
theorem computePackHash_reordered :
    computePackHash id (packOf [.ofString "o1", .ofString "o2"]) = computePackHash id relisted ∧
      computePackHash id (packOf [.ofString "o1"] (some [])) ≠
        computePackHash id (packOf [.ofString "o1"]) := by
  constructor
  · apply (computePackHash_eq_iff Function.injective_id (by decide) (by decide)).1.mpr
    exact ⟨rfl, .swap _ _ _, .swap _ _ _, trivial, rfl, rfl⟩
  · intro same
    have drawn : (packOf [.ofString "o1"] (some [])).Unpaired :=
      packOf_unpaired ["o1"] (by simp)
    have absent : (packOf [.ofString "o1"]).Unpaired := packOf_unpaired ["o1"] (by simp)
    exact (((computePackHash_eq_iff Function.injective_id (by decide) (by decide)).2 drawn absent).mp
      same).quotes

/-- One order has two surrogates for its id, the other the character that they stand for. -/
theorem split_id_collides : ¬ ∀ (sha256Hex : String → String), Function.Injective sha256Hex →
    ∀ a b : Pack, '\n' ∉ a.roundId.toList → '\n' ∉ b.roundId.toList →
      (computePackHash sha256Hex a = computePackHash sha256Hex b ↔ Pack.Same id a b) := by
  intro identifies
  have collide : computePackHash id (packOf [[0xd83d, 0xde00]]) = computePackHash id (packOf [[0x1f600]]) :=
    (computePackHash_eq_iff Function.injective_id (by decide) (by decide)).1.mpr
      ⟨rfl, .refl _, .refl _, trivial, rfl, rfl⟩
  have ids := ((identifies id Function.injective_id _ _ (by decide) (by decide)).mp collide).orders
  exact absurd ids (by decide)

end

end MinotaurSubnet.Harness
