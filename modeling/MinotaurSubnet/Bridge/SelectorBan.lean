import MinotaurSubnet.Bridge.Compiler

/-! # Bridge calls in the legs of a solver

The compiler refuses an interaction whose call data spells the selector of a bridge, and the encoder
of the relayer reads the same text later: it drops every `0x` and the blanks between bytes and takes
letters of either case. So the check stops exactly the plain spelling.
-/

namespace MinotaurSubnet.Bridge

open Library Python Shared

/-- Blanks that `bytes.fromhex` skips. -/
def isHexBlank (c : Char) : Bool :=
  decide (c.toNat < 128) && isSpace c && !decide (0x1c ≤ c.toNat ∧ c.toNat ≤ 0x1f)

def bareDigits (cs : List Char) : List Char := (cs.filter (!isHexBlank ·)).map Char.toLower

def digitsOfBytes (bytes : List UInt8) : List Char :=
  bytes.flatMap fun b => [hexOfBytes.digit (b.toNat / 16), hexOfBytes.digit (b.toNat % 16)]

theorem nibble_ascii : ∀ n < 128, ∀ d ∈ bytesFromHex.nibble (Char.ofNat n),
    d < 16 ∧ hexOfBytes.digit d = (Char.ofNat n).toLower ∧ isHexBlank (Char.ofNat n) = false := by
  decide +kernel

theorem nibble_digit {c d} (read : bytesFromHex.nibble c = some d) :
    d < 16 ∧ hexOfBytes.digit d = c.toLower ∧ isHexBlank c = false := by
  have ascii : c.toNat < 128 := by
    unfold bytesFromHex.nibble at read
    split at read
    · assumption
    · cases read
  have same : Char.ofNat c.toNat = c := Char.ofNat_toNat c
  have found := nibble_ascii c.toNat ascii d
  rw [same] at found
  exact found read

theorem isHexBlank_iff {c} :
    isHexBlank c = true ↔ c.toNat < 128 ∧ isSpace c ∧ ¬ (0x1c ≤ c.toNat ∧ c.toNat ≤ 0x1f) := by
  simp only [isHexBlank, Bool.and_eq_true, decide_eq_true_eq, Bool.not_eq_true',
    decide_eq_false_iff_not, and_assoc]

theorem digits_of_go (cs : List Char) : ∀ {bytes : List UInt8}, bytesFromHex.go cs = some bytes →
    digitsOfBytes bytes = bareDigits cs := by
  induction cs using bytesFromHex.go.induct with
  | case1 =>
    intro bytes read
    cases read
    rfl
  | case2 c rest blank ih =>
    intro bytes read
    rw [bytesFromHex.go.eq_def] at read
    dsimp only at read
    rw [if_pos blank] at read
    have skipped : isHexBlank c = true := isHexBlank_iff.mpr blank
    rw [ih read, bareDigits, bareDigits, List.filter_cons_of_neg (by simp [skipped])]
  | case3 c solid =>
    intro bytes read
    rw [bytesFromHex.go.eq_def] at read
    dsimp only at read
    rw [if_neg solid] at read
    cases read
  | case4 c solid d more ih =>
    intro bytes read
    rw [bytesFromHex.go.eq_def] at read
    dsimp only at read
    rw [if_neg solid] at read
    simp only [Option.bind_eq_bind, Option.bind_eq_some_iff, Option.pure_def, Option.some.injEq] at read
    obtain ⟨high, first, low, second, rest, later, rfl⟩ := read
    obtain ⟨small, digit, kept⟩ := nibble_digit first
    obtain ⟨small', digit', kept'⟩ := nibble_digit second
    have byte : (UInt8.ofNat (16 * high + low)).toNat = 16 * high + low := by
      rw [UInt8.toNat_ofNat']
      omega
    have upper : (16 * high + low) / 16 = high := by omega
    have lower : (16 * high + low) % 16 = low := by omega
    have written : digitsOfBytes (UInt8.ofNat (16 * high + low) :: rest) =
        c.toLower :: d.toLower :: digitsOfBytes rest := by
      simp only [digitsOfBytes, List.flatMap_cons, byte, upper, lower, digit, digit']
      rfl
    rw [written, ih later]
    simp [bareDigits, kept, kept']

/-- Pairs of hexadecimal digits with blanks between them. -/
inductive HexText : List Char → Prop
  | nil : HexText []
  | blank {c : Char} {rest : List Char} (skipped : isHexBlank c = true) (more : HexText rest) :
      HexText (c :: rest)
  | byte {c d : Char} {rest : List Char} (high : (bytesFromHex.nibble c).isSome)
      (low : (bytesFromHex.nibble d).isSome) (more : HexText rest) : HexText (c :: d :: rest)

theorem hexText_of_go (cs : List Char) : (bytesFromHex.go cs).isSome → HexText cs := by
  induction cs using bytesFromHex.go.induct with
  | case1 => exact fun _ => .nil
  | case2 c rest blank ih =>
    intro read
    rw [bytesFromHex.go.eq_def] at read
    dsimp only at read
    rw [if_pos blank] at read
    exact .blank (isHexBlank_iff.mpr blank) (ih read)
  | case3 c solid =>
    intro read
    rw [bytesFromHex.go.eq_def] at read
    dsimp only at read
    rw [if_neg solid] at read
    cases read
  | case4 c solid d more ih =>
    intro read
    obtain ⟨bytes, read⟩ := Option.isSome_iff_exists.mp read
    rw [bytesFromHex.go.eq_def] at read
    dsimp only at read
    rw [if_neg solid] at read
    simp only [Option.bind_eq_bind, Option.bind_eq_some_iff] at read
    obtain ⟨high, first, low, second, rest, later, -⟩ := read
    exact .byte (by simp [first]) (by simp [second]) (ih (by simp [later]))

theorem go_of_hexText {cs} (spelled : HexText cs) : (bytesFromHex.go cs).isSome := by
  induction spelled with
  | nil => rfl
  | blank skipped more ih =>
    rw [bytesFromHex.go.eq_def]
    dsimp only
    rwa [if_pos (isHexBlank_iff.mp skipped)]
  | @byte c d rest high low more ih =>
    obtain ⟨high, first⟩ := Option.isSome_iff_exists.mp high
    obtain ⟨low, second⟩ := Option.isSome_iff_exists.mp low
    obtain ⟨bytes, later⟩ := Option.isSome_iff_exists.mp ih
    have solid : ¬ (c.toNat < 128 ∧ isSpace c ∧ ¬ (0x1c ≤ c.toNat ∧ c.toNat ≤ 0x1f)) := by
      rw [← isHexBlank_iff, (nibble_digit first).2.2]
      exact Bool.false_ne_true
    rw [bytesFromHex.go.eq_def]
    dsimp only
    rw [if_neg solid, first, second, later]
    rfl

variable {text : String} {bytes : List UInt8} {ix : Interaction}

theorem bytesFromHex_isSome : (bytesFromHex text).isSome ↔ HexText text.toList :=
  ⟨hexText_of_go text.toList, go_of_hexText⟩

theorem digit_injective : ∀ a < 16, ∀ b < 16, hexOfBytes.digit a = hexOfBytes.digit b → a = b := by
  decide

theorem digitsOfBytes_prefix {a b} : digitsOfBytes a <+: digitsOfBytes b ↔ a <+: b := by
  induction a generalizing b with
  | nil => simp [digitsOfBytes]
  | cons x a ih =>
    cases b with
    | nil => simp [digitsOfBytes]
    | cons y b =>
      have halves : hexOfBytes.digit (x.toNat / 16) = hexOfBytes.digit (y.toNat / 16) ∧
          hexOfBytes.digit (x.toNat % 16) = hexOfBytes.digit (y.toNat % 16) ↔ x = y := by
        constructor
        · rintro ⟨upper, lower⟩
          have bound := x.toNat_lt
          have bound' := y.toNat_lt
          have high := digit_injective _ (by omega) _ (by omega) upper
          have low := digit_injective _ (by omega) _ (by omega) lower
          exact UInt8.toNat_inj.mp (by omega)
        · rintro rfl
          exact ⟨rfl, rfl⟩
      rw [List.cons_prefix_cons, ← ih, ← halves]
      show hexOfBytes.digit (x.toNat / 16) :: hexOfBytes.digit (x.toNat % 16) :: digitsOfBytes a <+:
        hexOfBytes.digit (y.toNat / 16) :: hexOfBytes.digit (y.toNat % 16) :: digitsOfBytes b ↔ _
      rw [List.cons_prefix_cons, List.cons_prefix_cons, and_assoc]

theorem hexOfBytes_inj {a b} (same : hexOfBytes a = hexOfBytes b) : a = b := by
  have digits : digitsOfBytes a = digitsOfBytes b := String.ofList_injective same
  have first : a <+: b := digitsOfBytes_prefix.mp (digits ▸ List.prefix_refl (digitsOfBytes a))
  have second : b <+: a := digitsOfBytes_prefix.mp (digits ▸ List.prefix_refl (digitsOfBytes a))
  exact first.eq_of_length (le_antisymm first.length_le second.length_le)

/-- The call data as `encode_execution_plan` decodes it; `none` when it raises. -/
def encodedCallData (ix : Interaction) : Option (List UInt8) := do
  let text ← ix.callData.asStr.toOption
  if text = "0x" then some [] else bytesFromHex (removeHexMarks text)

def bridgeEntrySelectors : List (List UInt8) := bridgeCallSelectors.filterMap bytesFromHex

def PassesSelectorCheck (plan : CrossChainPlan) : Prop :=
  ∀ entry ∈ plan.legs.zipIdx, selectorErrors entry.2 entry.1 = .ok []

def CrossChainPlan.interactions (plan : CrossChainPlan) : List Interaction :=
  plan.legs.flatMap (·.interactions)

/-- A text that begins with a bridge selector, at once or after one `0x`; also what is no text. -/
def SpelledPlainly (ix : Interaction) : Prop :=
  match ix.callData.or (.str "") with
  | .str text => ∃ selector ∈ bridgeCallSelectors,
      selector.toList <+: text.toList ∨ '0' :: 'x' :: selector.toList <+: text.toList
  | _ => True

/-- A hexadecimal text that begins with a bridge selector only once every `0x` and all blanks are
    dropped and the letters are lowered. -/
def SpelledOtherwise (ix : Interaction) : Prop :=
  ¬ SpelledPlainly ix ∧ ∃ text, ix.callData = .str text ∧ HexText (removeHexMarks text).toList ∧
    ∃ selector ∈ bridgeCallSelectors, selector.toList <+: bareDigits (removeHexMarks text).toList

theorem bridge_selectors_bare : ∀ selector ∈ bridgeCallSelectors,
    (bytesFromHex selector).isSome ∧ bareDigits selector.toList = selector.toList := by
  decide +kernel

theorem digits_of_bytesFromHex (read : bytesFromHex text = some bytes) :
    digitsOfBytes bytes = bareDigits text.toList :=
  digits_of_go text.toList read

theorem encodedCallData_str (isText : ix.callData = .str text) :
    encodedCallData ix = bytesFromHex (removeHexMarks text) := by
  unfold encodedCallData
  rw [isText]
  show (if text = "0x" then some [] else bytesFromHex (removeHexMarks text)) = _
  split
  · next bare =>
      rw [bare]
      decide
  · rfl

theorem encodedCallData_text (encoded : encodedCallData ix = some bytes) :
    ∃ text, ix.callData = .str text := by
  unfold encodedCallData at encoded
  cases spelled : ix.callData with
  | str text => exact ⟨text, rfl⟩
  | _ =>
    rw [spelled] at encoded
    cases encoded

theorem encodedCallData_of_hexText (isText : ix.callData = .str text)
    (hex : HexText (removeHexMarks text).toList) : ∃ bytes, encodedCallData ix = some bytes := by
  rw [encodedCallData_str isText]
  exact Option.isSome_iff_exists.mp (bytesFromHex_isSome.mpr hex)

theorem hexText_of_encodedCallData (isText : ix.callData = .str text)
    (encoded : encodedCallData ix = some bytes) :
    HexText (removeHexMarks text).toList := by
  rw [encodedCallData_str isText] at encoded
  exact bytesFromHex_isSome.mp (by rw [encoded]; rfl)

theorem encoded_entry_iff (encoded : encodedCallData ix = some bytes) :
    (∃ entry ∈ bridgeEntrySelectors, entry <+: bytes) ↔ ∃ text, ix.callData = .str text ∧
      ∃ selector ∈ bridgeCallSelectors, selector.toList <+: bareDigits (removeHexMarks text).toList := by
  obtain ⟨text, isText⟩ := encodedCallData_text encoded
  have digits : digitsOfBytes bytes = bareDigits (removeHexMarks text).toList :=
    digits_of_bytesFromHex ((encodedCallData_str isText).symm.trans encoded)
  have spelled {selector : String} {entry : List UInt8} (known : selector ∈ bridgeCallSelectors)
      (read : bytesFromHex selector = some entry) : digitsOfBytes entry = selector.toList :=
    (digits_of_bytesFromHex read).trans (bridge_selectors_bare selector known).2
  constructor
  · rintro ⟨entry, known, begins⟩
    obtain ⟨selector, listed, read⟩ := List.mem_filterMap.mp known
    refine ⟨text, isText, selector, listed, ?_⟩
    rwa [← digits, ← spelled listed read, digitsOfBytes_prefix]
  · rintro ⟨text', isText', selector, listed, begins⟩
    obtain rfl : text = text' := Value.str.inj (isText.symm.trans isText')
    obtain ⟨entry, read⟩ := Option.isSome_iff_exists.mp (bridge_selectors_bare selector listed).1
    refine ⟨entry, List.mem_filterMap.mpr ⟨selector, listed, read⟩, ?_⟩
    rwa [← digits, ← spelled listed read, digitsOfBytes_prefix] at begins

theorem mapM_ok_of_each {α β ε : Type} {f : α → Except ε β} {xs : List α}
    (each : ∀ x ∈ xs, ∃ y, f x = .ok y) : ∃ ys, xs.mapM f = .ok ys := by
  induction xs with
  | nil => exact ⟨[], rfl⟩
  | cons x rest ih =>
    obtain ⟨y, here⟩ := each x List.mem_cons_self
    obtain ⟨ys, later⟩ := ih fun x inside => each x (List.mem_cons_of_mem _ inside)
    exact ⟨y :: ys, by rw [List.mapM_cons, here, later]; rfl⟩

theorem first_eight_iff {selector raw} (listed : selector ∈ bridgeCallSelectors) :
    (if 8 ≤ raw.length then slice raw 0 8 else "") = selector ↔ selector.toList <+: raw.toList := by
  obtain rfl := List.mem_singleton.mp listed
  rw [List.prefix_iff_eq_take]
  split
  · rw [slice, List.drop_zero, ← String.toList_inj, String.toList_ofList]
    exact eq_comm
  · next short =>
      refine iff_of_false (by decide) fun same => short ?_
      have size := congrArg List.length same
      have eight : "81b4e8b4".length = 8 := by decide
      rw [List.length_take, String.length_toList, String.length_toList, eight] at size
      omega

theorem plain_text_iff {selector text} (listed : selector ∈ bridgeCallSelectors) :
    (let raw := if startsWith text "0x" then slice text 2 text.length else text
      if 8 ≤ raw.length then slice raw 0 8 else "") = selector ↔
      selector.toList <+: text.toList ∨ '0' :: 'x' :: selector.toList <+: text.toList := by
  dsimp only
  rw [first_eight_iff listed]
  obtain rfl := List.mem_singleton.mp listed
  have spelled : "81b4e8b4".toList = ['8', '1', 'b', '4', 'e', '8', 'b', '4'] := by decide
  by_cases marked : startsWith text "0x"
  · obtain ⟨rest, whole⟩ := List.isPrefixOf_iff_prefix.mp marked
    have text' : text.toList = '0' :: 'x' :: rest := whole.symm
    have tail : (slice text 2 text.length).toList = rest := by
      rw [slice, String.toList_ofList, ← String.length_toList, List.take_length, text']
      rfl
    rw [if_pos marked, tail, text', List.cons_prefix_cons, List.cons_prefix_cons, spelled,
      List.cons_prefix_cons]
    simp
  · rw [if_neg marked]
    have unmarked : ¬ '0' :: 'x' :: "81b4e8b4".toList <+: text.toList := fun begins =>
      marked (List.isPrefixOf_iff_prefix.mpr ((List.prefix_append _ _).trans begins))
    exact (or_iff_left unmarked).symm

theorem not_spelledPlainly :
    ¬ SpelledPlainly ix ↔ ∃ selector, selectorOf ix = .ok selector ∧ selector ∉ bridgeCallSelectors := by
  unfold SpelledPlainly selectorOf
  cases ix.callData.or (.str "") with
  | str text =>
    have listed : "81b4e8b4" ∈ bridgeCallSelectors := List.mem_singleton.mpr rfl
    have read := @plain_text_iff _ text listed
    dsimp only at read ⊢
    simp only [bridgeCallSelectors, List.mem_singleton, exists_eq_left, Except.ok.injEq,
      exists_eq_left', ← read]
  | _ => simp

theorem selectorErrors_nil_iff {i} {leg : ChainLeg} :
    selectorErrors i leg = .ok [] ↔ ∀ ix ∈ leg.interactions, ¬ SpelledPlainly ix := by
  unfold selectorErrors
  constructor
  · intro clean ix inside
    obtain ⟨selectors, read, none⟩ := bind_eq_ok.mp clean
    obtain ⟨selector, listed, found⟩ := (mem_mapM_ok read).1 ix inside
    refine not_spelledPlainly.mpr ⟨selector, found, fun banned => ?_⟩
    have empty := List.map_eq_nil_iff.mp (pure_eq_ok.mp none)
    exact List.filter_eq_nil_iff.mp empty selector listed (by simpa using banned)
  · intro each
    obtain ⟨selectors, read⟩ := mapM_ok_of_each fun ix inside =>
      (not_spelledPlainly.mp (each ix inside)).imp fun _ found => found.1
    refine bind_eq_ok.mpr ⟨selectors, read, ?_⟩
    have clean : selectors.filter (· ∈ bridgeCallSelectors) = [] := by
      refine List.filter_eq_nil_iff.mpr fun selector listed => ?_
      obtain ⟨ix, inside, found⟩ := (mem_mapM_ok read).2 selector listed
      obtain ⟨selector', found', fine⟩ := not_spelledPlainly.mp (each ix inside)
      obtain rfl : selector = selector' := Except.ok.inj (found.symm.trans found')
      simpa using fine
    rw [clean]
    rfl

theorem passesSelectorCheck_iff {plan} :
    PassesSelectorCheck plan ↔ ∀ ix ∈ plan.interactions, ¬ SpelledPlainly ix := by
  unfold PassesSelectorCheck CrossChainPlan.interactions
  constructor
  · intro passes ix inside
    obtain ⟨leg, listed, member⟩ := List.mem_flatMap.mp inside
    obtain ⟨i, here⟩ := List.getElem?_of_mem listed
    exact selectorErrors_nil_iff.mp (passes (leg, i) (List.mk_mem_zipIdx_iff_getElem?.mpr here)) ix member
  · rintro each ⟨leg, i⟩ listed
    have inside := List.mem_of_getElem? (List.mk_mem_zipIdx_iff_getElem?.mp listed)
    exact selectorErrors_nil_iff.mpr fun ix member => each ix (List.mem_flatMap.mpr ⟨leg, inside, member⟩)

theorem passesSelectorCheck_of_validate {plan} (valid : validate plan = .ok []) :
    PassesSelectorCheck plan := by
  unfold validate at valid
  split at valid
  · cases valid
  · obtain ⟨selectors, read, errors⟩ := bind_eq_ok.mp valid
    obtain ⟨-, clean⟩ := List.append_eq_nil_iff.mp (pure_eq_ok.mp errors)
    rintro ⟨leg, i⟩ listed
    obtain ⟨found, member, ran⟩ := (mem_mapM_ok read).1 (leg, i) listed
    have same : selectorErrors i leg = .ok found := ran
    rw [same, List.flatten_eq_nil_iff.mp clean found member]

/-- The check keeps bridge calls out of the legs exactly of the plans in which something is spelled
    plainly, or nothing otherwise. -/
theorem bridge_selector_ban_iff (plan : CrossChainPlan) :
    (PassesSelectorCheck plan → ∀ ix ∈ plan.interactions, ∀ bytes, encodedCallData ix = some bytes →
        ∀ entry ∈ bridgeEntrySelectors, ¬ entry <+: bytes) ↔
      (∃ ix ∈ plan.interactions, SpelledPlainly ix) ∨
        ∀ ix ∈ plan.interactions, ¬ SpelledOtherwise ix := by
  rw [passesSelectorCheck_iff]
  by_cases plain : ∃ ix ∈ plan.interactions, SpelledPlainly ix
  · obtain ⟨ix, inside, spelled⟩ := plain
    exact iff_of_true (fun passes => absurd spelled (passes ix inside)) (.inl ⟨ix, inside, spelled⟩)
  · have passes : ∀ ix ∈ plan.interactions, ¬ SpelledPlainly ix :=
      fun ix inside spelled => plain ⟨ix, inside, spelled⟩
    constructor
    · intro banned
      refine .inr fun ix inside spelled => ?_
      obtain ⟨_, text, isText, hex, begins⟩ := spelled
      obtain ⟨bytes, encoded⟩ := encodedCallData_of_hexText isText hex
      obtain ⟨entry, known, heads⟩ := (encoded_entry_iff encoded).mpr ⟨text, isText, begins⟩
      exact banned passes ix inside bytes encoded entry known heads
    · intro covered _ ix inside bytes encoded entry known heads
      obtain ⟨text, isText, begins⟩ := (encoded_entry_iff encoded).mp ⟨entry, known, heads⟩
      refine (covered.resolve_left plain) ix inside ⟨passes ix inside, text, isText, ?_, begins⟩
      exact hexText_of_encodedCallData isText encoded

def callingPlan (callData : String) : CrossChainPlan where
  legs := [{ chainId := 1, interactions := [
    { target := .str "0xrouter", value := .str "0", callData := .str callData, chainId := .int 1 }] }]
  bridgeRequests := []

/-- Capital letters pass the check and are the same bytes. -/
theorem capital_selector_passes : validate (callingPlan "0x81B4E8B400") = .ok [] ∧
    ∃ ix ∈ (callingPlan "0x81B4E8B400").interactions, ∃ bytes, encodedCallData ix = some bytes ∧
      ∃ entry ∈ bridgeEntrySelectors, entry <+: bytes := by
  refine ⟨by rfl, _, List.mem_singleton.mpr rfl, [0x81, 0xb4, 0xe8, 0xb4, 0], by decide +kernel, ?_⟩
  exact ⟨[0x81, 0xb4, 0xe8, 0xb4], by decide +kernel, by decide⟩

end MinotaurSubnet.Bridge
