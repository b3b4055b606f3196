import MinotaurSubnet.Library.Bisection
import MinotaurSubnet.Library.Dict
import MinotaurSubnet.Python.Value
import Mathlib.Data.Int.ConditionallyCompleteOrder

/-! # Round-anchored fork pins

Every validator derives a round's fork block from the anchor timestamp and from
its own view of the chain: its head, its confirmation depth and the floor of its
search. The bracketing guard makes the derived block a property of the chain, so
views that both derive a pin derive the same one.
-/

namespace MinotaurSubnet.Consensus

open Library Python

inductive PinError where
  | valueError (text : String)
  | forkPinUnavailable (text : String)
  | raised (error : PyError)
  deriving DecidableEq

section

variable (anchorTs : ℤ)

def atOrBeforeAnchor (blockTimestamp : ℤ → Except PinError ℤ) (b : ℤ) : Except PinError Bool := do
  return decide ((← blockTimestamp b) ≤ anchorTs)

def findPinBlock (head : ℤ) (blockTimestamp : ℤ → Except PinError ℤ) (confirmations lo : ℤ) :
    Except PinError ℤ := do
  ensure (0 ≤ confirmations) (.valueError "confirmations must be >= 0")
  let confirmedTip := head - confirmations
  ensure (lo ≤ confirmedTip)
    (.forkPinUnavailable s!"chain too short: confirmed tip {confirmedTip} < lo {lo}")
  let tipTs ← blockTimestamp confirmedTip
  -- without a confirmed block after the anchor the pin would track the moving tip
  ensure (anchorTs < tipTs) (.forkPinUnavailable
    s!"anchor {anchorTs} not yet confirmed-bracketed: tip {confirmedTip} ts={tipTs} <= anchor")
  let loTs ← blockTimestamp lo
  ensure (loTs ≤ anchorTs)
    (.forkPinUnavailable s!"anchor {anchorTs} precedes lo block {lo} ts={loTs}")
  bisectLast (atOrBeforeAnchor anchorTs blockTimestamp) (bisectFuel lo confirmedTip) lo lo
    confirmedTip

def PinError.onChain (chainId : ℤ) : PinError → PinError
  | .forkPinUnavailable text => .forkPinUnavailable s!"chain {chainId}: {text}"
  | error => error

/-- The accessors a caller injects into `deriveForkPins`. -/
structure PinAccessors where
  headOf : ℤ → Except PinError ℤ
  blockTimestampOf : ℤ → ℤ → Except PinError ℤ
  loOf : Option (ℤ → ℤ) := none

variable (anchorTsOf : Option (ℤ → ℤ))

def chainAnchor (chainId : ℤ) : ℤ := anchorTsOf.elim anchorTs fun anchor => anchor chainId

def deriveForkPin (node : PinAccessors) (confirmations chainId : ℤ) : Except PinError ℤ :=
  (do
    let head ← node.headOf chainId
    findPinBlock (chainAnchor anchorTs anchorTsOf chainId) head (node.blockTimestampOf chainId)
      confirmations (node.loOf.elim 0 fun lo => lo chainId)).mapError (.onChain chainId)

def deriveForkPins (chains : List ℤ) (node : PinAccessors) (confirmations : ℤ) :
    Except PinError (Dict ℤ ℤ) :=
  chains.foldlM (fun pins chainId => do
    return pins.set chainId (← deriveForkPin anchorTs anchorTsOf node confirmations chainId))
    Dict.empty

end

/-- The highest block of the chain, of whatever length, at or before the anchor. -/
def IsPin (ts : ℕ → ℤ) (anchorTs b : ℤ) : Prop :=
  ∃ n : ℕ, b = n ∧ IsGreatest (Set.preimage ts (Set.Iic anchorTs)) n

theorem IsPin.unique {ts : ℕ → ℤ} {anchorTs b c} (hb : IsPin ts anchorTs b)
    (hc : IsPin ts anchorTs c) : b = c := by
  obtain ⟨n, rfl, hn⟩ := hb
  obtain ⟨m, rfl, hm⟩ := hc
  rw [hn.unique hm]

/-- What a node knows of the chain `ts`: it reads exactly the blocks up to its
    head, and reads them right. -/
structure ChainView (ts : ℕ → ℤ) where
  head : ℤ
  confirmations : ℤ
  lo : ℤ
  blockTimestamp : ℤ → Except PinError ℤ
  truthful : ∀ b t, blockTimestamp b = .ok t → 0 ≤ b ∧ b ≤ head ∧ t = ts b.toNat
  serves : ∀ b, 0 ≤ b → b ≤ head → blockTimestamp b = .ok (ts b.toNat)

namespace ChainView

variable {ts : ℕ → ℤ}

def pin (view : ChainView ts) (anchorTs : ℤ) : Except PinError ℤ :=
  findPinBlock anchorTs view.head view.blockTimestamp view.confirmations view.lo

/-- The view a node has once its head is `head`. -/
def upTo (ts : ℕ → ℤ) (head confirmations lo : ℤ) : ChainView ts where
  head := head
  confirmations := confirmations
  lo := lo
  blockTimestamp := fun b =>
    if 0 ≤ b ∧ b ≤ head then .ok (ts b.toNat) else .error (.raised (.other "BlockNotFound"))
  truthful := by
    intro b t read
    split at read
    next inside => exact ⟨inside.1, inside.2, (Except.ok.inj read).symm⟩
    next => cases read
  serves := by
    intro b above below
    exact if_pos ⟨above, below⟩

/-- Blocks at or before the anchor, with everything below genesis counted in: the
    downward closed set the search bisects. -/
def Before (ts : ℕ → ℤ) (anchorTs b : ℤ) : Prop := b < 0 ∨ ts b.toNat ≤ anchorTs

theorem before_closed (ordered : Monotone ts) (anchorTs : ℤ) :
    ∀ a b, a ≤ b → Before ts anchorTs b → Before ts anchorTs a := by
  intro a b below before
  rcases before with genesis | early
  · exact Or.inl (by omega)
  · by_cases negative : a < 0
    · exact Or.inl negative
    · exact Or.inr ((ordered (by omega)).trans early)

theorem atOrBeforeAnchor_answers (view : ChainView ts) {anchorTs b v}
    (tested : atOrBeforeAnchor anchorTs view.blockTimestamp b = .ok v) :
    v = true ↔ Before ts anchorTs b := by
  obtain ⟨t, read, answer⟩ := bind_eq_ok.mp tested
  obtain rfl := pure_eq_ok.mp answer
  obtain ⟨above, -, rfl⟩ := view.truthful b t read
  simp only [Before, decide_eq_true_eq]
  constructor
  · exact Or.inr
  · rintro (negative | early)
    · omega
    · exact early

theorem pin_eq_ok {view : ChainView ts} {anchorTs b} :
    view.pin anchorTs = .ok b ↔
      0 ≤ view.confirmations ∧ view.lo ≤ view.head - view.confirmations ∧
      (∃ tipTs, view.blockTimestamp (view.head - view.confirmations) = .ok tipTs ∧
        anchorTs < tipTs) ∧
      (∃ loTs, view.blockTimestamp view.lo = .ok loTs ∧ loTs ≤ anchorTs) ∧
      bisectLast (atOrBeforeAnchor anchorTs view.blockTimestamp)
        (bisectFuel view.lo (view.head - view.confirmations)) view.lo view.lo
        (view.head - view.confirmations) = .ok b := by
  simp only [pin, findPinBlock, bind_eq_ok, ensure_eq_ok, decide_eq_true_eq, exists_and_left,
    exists_const]
  constructor
  · rintro ⟨depth, long, tipTs, tipRead, after, loTs, loRead, early, found⟩
    exact ⟨depth, long, ⟨tipTs, tipRead, after⟩, ⟨loTs, loRead, early⟩, found⟩
  · rintro ⟨depth, long, ⟨tipTs, tipRead, after⟩, ⟨loTs, loRead, early⟩, found⟩
    exact ⟨depth, long, tipTs, tipRead, after, loTs, loRead, early, found⟩

theorem pin_isPin (ordered : Monotone ts) {view : ChainView ts} {anchorTs b}
    (pinned : view.pin anchorTs = .ok b) : IsPin ts anchorTs b := by
  obtain ⟨-, -, ⟨tipTs, tipRead, after⟩, ⟨loTs, loRead, early⟩, found⟩ := pin_eq_ok.mp pinned
  obtain ⟨tipAbove, -, rfl⟩ := view.truthful _ tipTs tipRead
  obtain ⟨loAbove, -, rfl⟩ := view.truthful _ loTs loRead
  have start : Bracketed (Before ts anchorTs) view.lo view.lo
      (view.head - view.confirmations) := by
    refine ⟨Or.inr early, by omega, ?_⟩
    intro c above before
    rcases before_closed ordered anchorTs _ c (le_of_lt above) before with negative | tipEarly
    · omega
    · omega
  obtain ⟨passes, last⟩ := bisectLast_last (before_closed ordered anchorTs)
    (fun _ _ tested => view.atOrBeforeAnchor_answers tested) _ _ _ _ b (le_refl _) start found
  have nonneg : 0 ≤ b := loAbove.trans (last view.lo (Or.inr early))
  refine ⟨b.toNat, by omega, ?_, ?_⟩
  · rcases passes with negative | early
    · omega
    · exact early
  · intro m member
    have := last m (Or.inr (by simpa using member))
    omega

theorem pin_persists (ordered : Monotone ts) {view later : ChainView ts} {anchorTs b}
    (sameDepth : later.confirmations = view.confirmations) (sameFloor : later.lo = view.lo)
    (advanced : view.head ≤ later.head) (pinned : view.pin anchorTs = .ok b) :
    later.pin anchorTs = .ok b := by
  obtain ⟨depth, long, ⟨tipTs, tipRead, after⟩, ⟨loTs, loRead, early⟩, -⟩ := pin_eq_ok.mp pinned
  obtain ⟨tipAbove, -, rfl⟩ := view.truthful _ tipTs tipRead
  obtain ⟨loAbove, -, rfl⟩ := view.truthful _ loTs loRead
  have tipServed := later.serves (later.head - later.confirmations) (by omega) (by omega)
  have tipLater : anchorTs < ts (later.head - later.confirmations).toNat :=
    after.trans_le (ordered (by omega))
  have loServed := later.serves later.lo (by omega) (by omega)
  have answered : ∀ a, later.lo ≤ a → a ≤ later.head - later.confirmations →
      ∃ v, atOrBeforeAnchor anchorTs later.blockTimestamp a = .ok v := by
    intro a above below
    exact ⟨_, bind_eq_ok.mpr ⟨_, later.serves a (by omega) (by omega), rfl⟩⟩
  obtain ⟨c, found⟩ := bisectLast_returns
    (bisectFuel later.lo (later.head - later.confirmations)) later.lo later.lo
    (later.head - later.confirmations) answered
  have repinned : later.pin anchorTs = .ok c :=
    pin_eq_ok.mpr ⟨by omega, by omega, ⟨_, tipServed, tipLater⟩,
      ⟨_, loServed, by rw [sameFloor]; exact early⟩, found⟩
  rw [repinned, (pin_isPin ordered repinned).unique (pin_isPin ordered pinned)]

/-- Fork-pin agreement: whatever their heads, depths and floors, two views that
    derive a pin derive the same one, it is the last block of the whole chain at
    or before the anchor, and it is derived again at every later head. -/
theorem find_pin_block_canonical (ordered : Monotone ts) (anchorTs : ℤ) :
    (∀ (first second : ChainView ts) (b c : ℤ), first.pin anchorTs = .ok b →
      second.pin anchorTs = .ok c → b = c) ∧
    (∀ (view : ChainView ts) (b : ℤ), view.pin anchorTs = .ok b → IsPin ts anchorTs b) ∧
    (∀ (view later : ChainView ts) (b : ℤ), later.confirmations = view.confirmations →
      later.lo = view.lo → view.head ≤ later.head → view.pin anchorTs = .ok b →
      later.pin anchorTs = .ok b) := by
  refine ⟨?_, ?_, ?_⟩
  · intro first second b c hb hc
    exact (pin_isPin ordered hb).unique (pin_isPin ordered hc)
  · intro view b pinned
    exact pin_isPin ordered pinned
  · intro view later b sameDepth sameFloor advanced pinned
    exact pin_persists ordered sameDepth sameFloor advanced pinned

/-- Blocks two seconds apart, seen at heads 10 and 40. -/
theorem find_pin_block_canonical_two_heads :
    (upTo (fun n => 2 * n) 10 3 0).pin 9 = .ok 4 ∧ (upTo (fun n => 2 * n) 40 0 2).pin 9 = .ok 4 ∧
      (∀ c, (upTo (fun n => 2 * n) 40 0 2).pin 9 = .ok c → 4 = c) ∧
      (upTo (fun n => 2 * n) 25 3 0).pin 9 = .ok 4 := by
  have ordered : Monotone fun n : ℕ => (2 * n : ℤ) := by
    intro a b below
    dsimp only
    omega
  have canonical := find_pin_block_canonical ordered 9
  have early : (upTo (fun n => 2 * n) 10 3 0).pin 9 = .ok 4 := by decide +kernel
  refine ⟨early, by decide +kernel, ?_, ?_⟩
  · intro c pinned
    exact canonical.1 _ _ 4 c early pinned
  · exact canonical.2.2 (upTo (fun n => 2 * n) 10 3 0) (upTo (fun n => 2 * n) 25 3 0) 4 rfl rfl
      (by decide) early

end ChainView

/-- The accessors read the chains `ts`. -/
def PinAccessors.Reads (ts : ℤ → ℕ → ℤ) (node : PinAccessors) : Prop :=
  ∀ chainId head, node.headOf chainId = .ok head →
    ∃ view : ChainView (ts chainId), view.head = head ∧
      view.blockTimestamp = node.blockTimestampOf chainId

variable {ts : ℤ → ℕ → ℤ} {anchorTs : ℤ} {anchorTsOf : Option (ℤ → ℤ)}

theorem deriveForkPin_isPin (ordered : ∀ chainId, Monotone (ts chainId)) {node : PinAccessors}
    (reads : node.Reads ts) {confirmations chainId b}
    (derived : deriveForkPin anchorTs anchorTsOf node confirmations chainId = .ok b) :
    IsPin (ts chainId) (chainAnchor anchorTs anchorTsOf chainId) b := by
  unfold deriveForkPin at derived
  cases attempt : (do
      let head ← node.headOf chainId
      findPinBlock (chainAnchor anchorTs anchorTsOf chainId) head (node.blockTimestampOf chainId)
        confirmations (node.loOf.elim 0 fun lo => lo chainId)) with
  | error e => rw [attempt] at derived; cases derived
  | ok c =>
    rw [attempt] at derived
    obtain rfl : c = b := Except.ok.inj derived
    obtain ⟨head, headRead, pinned⟩ := bind_eq_ok.mp attempt
    obtain ⟨view, rfl, accessor⟩ := reads chainId head headRead
    rw [← accessor] at pinned
    let asked := { view with
      confirmations := confirmations, lo := node.loOf.elim 0 fun lo => lo chainId }
    have answered : asked.pin (chainAnchor anchorTs anchorTsOf chainId) = .ok c := pinned
    exact ChainView.pin_isPin (ordered chainId) answered

/-- Validators that derive the pins of a round derive the same map, entry by entry
    and in the same order. -/
theorem deriveForkPins_agree (ordered : ∀ chainId, Monotone (ts chainId)) {first second}
    (reads : first.Reads ts) (reads' : second.Reads ts) {chains depth depth' pins pins'}
    (derived : deriveForkPins anchorTs anchorTsOf chains first depth = .ok pins)
    (derived' : deriveForkPins anchorTs anchorTsOf chains second depth' = .ok pins') :
    pins = pins' := by
  refine foldlM_agree chains Dict.empty pins pins' ?_ derived derived'
  intro acc chainId _ a b here here'
  obtain ⟨m, pinned, here⟩ := bind_eq_ok.mp here
  obtain ⟨n, pinned', here'⟩ := bind_eq_ok.mp here'
  rw [← pure_eq_ok.mp here, ← pure_eq_ok.mp here',
    (deriveForkPin_isPin ordered reads pinned).unique (deriveForkPin_isPin ordered reads' pinned')]

end MinotaurSubnet.Consensus
