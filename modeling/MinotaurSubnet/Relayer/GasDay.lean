import MinotaurSubnet.Relayer.ServiceRuns

/-! # The gas budget across midnight

The budget rolls over when it is checked, and a charge is booked on the day of the last check.
As long as every charge comes in on that day the counter is what the day was charged.
-/

namespace MinotaurSubnet.Relayer

open Library

inductive GasCall where
  | check
  | record (gasUsed gasPriceWei : Int)

structure GasEvent where
  now : Int
  call : GasCall

structure Charge where
  now : Int
  costWei : Int

/-- The safeguards, with every charge there was and, for each accepted check, what its day had
    been charged by then. -/
structure GasHistory where
  safeguards : Safeguards := {}
  clock : Option Int := none
  charges : List Charge := []
  accepted : List Int := []

def chargedOn (day : Int) (charges : List Charge) : Int :=
  ((charges.filter fun c => dayOf c.now = day).map Charge.costWei).sum

section

variable (limits : SafeguardLimits) (eth : Int → String)

def gasStep (s : GasHistory) (e : GasEvent) : GasHistory × Bool :=
  match e.call with
  | .check =>
    let (safeguards, refused) := s.safeguards.checkDailyGasRoom limits e.now eth
    ({ s with
      safeguards := safeguards
      clock := some e.now
      accepted := if refused.isNone then chargedOn (dayOf e.now) s.charges :: s.accepted
        else s.accepted }, refused.isNone)
  | .record gasUsed gasPriceWei =>
    ({ s with
      safeguards := s.safeguards.recordGasUsed gasUsed gasPriceWei
      clock := some e.now
      charges := ⟨e.now, gasUsed * gasPriceWei⟩ :: s.charges }, true)

end

def InOrder (s : GasHistory) (e : GasEvent) : Prop := ∀ t ∈ s.clock, t ≤ e.now

def RecordedInDay (s : GasHistory) (e : GasEvent) : Prop :=
  InOrder s e ∧ match e.call with
    | .check => True
    | .record gasUsed gasPriceWei =>
      gasUsed * gasPriceWei = 0 ∨ dayOf e.now = s.safeguards.dayStartUtc

structure Booked (cap : Int) (s : GasHistory) : Prop where
  counts : s.safeguards.gasUsedWei = chargedOn s.safeguards.dayStartUtc s.charges
  past : ∀ c ∈ s.charges, c.costWei ≠ 0 → dayOf c.now ≤ s.safeguards.dayStartUtc
  reached : ∀ c ∈ s.charges, c.costWei ≠ 0 → ∃ t ∈ s.clock, s.safeguards.dayStartUtc ≤ dayOf t
  below : ∀ spent ∈ s.accepted, spent < cap

section

variable {limits : SafeguardLimits} {eth : Int → String} {s : GasHistory} {now : Int}
  {charges : List Charge} {c : Charge} {day : Int}

theorem dayOf_mono {t u} (later : t ≤ u) : dayOf t ≤ dayOf u := by
  unfold dayOf
  omega

theorem chargedOn_cons : chargedOn day (c :: charges) =
    (if dayOf c.now = day then c.costWei else 0) + chargedOn day charges := by
  unfold chargedOn
  by_cases same : dayOf c.now = day <;> simp [same]

theorem chargedOn_eq_zero (free : ∀ c ∈ charges, dayOf c.now = day → c.costWei = 0) :
    chargedOn day charges = 0 := by
  induction charges with
  | nil => rfl
  | cons c rest ih =>
    rw [chargedOn_cons, ih fun c member => free c (List.mem_cons_of_mem _ member)]
    split
    · next same => rw [free c List.mem_cons_self same, add_zero]
    · rfl

theorem Booked.chargedOn_rolled {cap} (inv : Booked cap s) (order : ∀ t ∈ s.clock, t ≤ now) :
    (rolled now s.safeguards).gasUsedWei = chargedOn (dayOf now) s.charges := by
  unfold rolled
  split
  · next same => rw [inv.counts, same]
  · next other =>
    apply (chargedOn_eq_zero ?_).symm
    intro c member same
    by_contra costs
    have past := inv.past c member costs
    obtain ⟨t, ticked, reached⟩ := inv.reached c member costs
    have later := dayOf_mono (order t ticked)
    omega

theorem booked_check (inv : Booked limits.dailyGasCapWei s) (order : InOrder s ⟨now, .check⟩) :
    Booked limits.dailyGasCapWei (gasStep limits eth s ⟨now, .check⟩).1 := by
  have today := inv.chargedOn_rolled order
  have day : (rolled now s.safeguards).dayStartUtc = dayOf now := rolled_day
  have before : ∀ c ∈ s.charges, c.costWei ≠ 0 → dayOf c.now ≤ dayOf now := by
    intro c member costs
    have past := inv.past c member costs
    obtain ⟨t, ticked, reached⟩ := inv.reached c member costs
    have later : dayOf t ≤ dayOf now := dayOf_mono (order t ticked)
    omega
  simp only [gasStep, checkDailyGasRoom_fst]
  constructor
  · rw [today, day]
  · rw [day]
    exact before
  · rw [day]
    exact fun c member costs => ⟨now, rfl, le_rfl⟩
  · intro spent member
    cases refused : (s.safeguards.checkDailyGasRoom limits now eth).2 with
    | some text =>
      simp only [refused, Option.isNone_some, Bool.false_eq_true, if_false] at member
      exact inv.below spent member
    | none =>
      simp only [refused, Option.isNone_none, if_true] at member
      cases List.mem_cons.mp member with
      | inl new => exact new ▸ today ▸ checkDailyGasRoom_none refused
      | inr old => exact inv.below spent old

theorem booked_record {cap gasUsed gasPriceWei} (inv : Booked cap s)
    (order : InOrder s ⟨now, .record gasUsed gasPriceWei⟩)
    (today : gasUsed * gasPriceWei = 0 ∨ dayOf now = s.safeguards.dayStartUtc) :
    Booked cap (gasStep limits eth s ⟨now, .record gasUsed gasPriceWei⟩).1 := by
  simp only [gasStep, Safeguards.recordGasUsed]
  constructor
  · rw [chargedOn_cons, inv.counts]
    dsimp only
    cases today with
    | inl free => simp [free]
    | inr same =>
      rw [if_pos same]
      omega
  · intro c member costs
    cases List.mem_cons.mp member with
    | inl new =>
      subst new
      exact (today.resolve_left costs).le
    | inr old => exact inv.past c old costs
  · intro c member costs
    refine ⟨now, rfl, ?_⟩
    cases List.mem_cons.mp member with
    | inl new =>
      subst new
      exact (today.resolve_left costs).ge
    | inr old =>
      obtain ⟨t, ticked, reached⟩ := inv.reached c old costs
      exact reached.trans (dayOf_mono (order t ticked))
  · exact inv.below

theorem booked_step (s : GasHistory) (e : GasEvent) (inv : Booked limits.dailyGasCapWei s)
    (allowed : RecordedInDay s e) : Booked limits.dailyGasCapWei (gasStep limits eth s e).1 := by
  obtain ⟨order, today⟩ := allowed
  obtain ⟨now, call⟩ := e
  cases call with
  | check => exact booked_check inv order
  | record gasUsed gasPriceWei => exact booked_record inv order today

theorem Booked.initial {cap} : Booked cap {} where
  counts := rfl
  past := by simp
  reached := by simp
  below := by simp

/-- With every charge recorded on the day of the last check, whatever a day was charged counts
    against its cap and against no other day's. -/
theorem accepted_below_cap (reached : Reaches (gasStep limits eth) RecordedInDay {} s) :
    (∀ spent ∈ s.accepted, spent < limits.dailyGasCapWei) ∧
      s.safeguards.gasUsedWei = chargedOn s.safeguards.dayStartUtc s.charges := by
  have booked := reached.invariant (Booked limits.dailyGasCapWei) .initial booked_step
  exact ⟨booked.below, booked.counts⟩

end

def smallCap : SafeguardLimits := { dailyGasCapWei := 1000000000000000 }

def sameDay : List GasEvent :=
  [⟨86000, .check⟩, ⟨86010, .record 25000000 50000000⟩, ⟨86400, .check⟩]

theorem accepted_below_cap_same_day :
    (runEvents (gasStep smallCap toString) {} sameDay).accepted.all
      (· < smallCap.dailyGasCapWei) = true := by
  have run : AllowedAlong (gasStep smallCap toString) RecordedInDay {} sameDay := by
    refine ⟨⟨?_, trivial⟩, ⟨?_, .inr rfl⟩, ⟨?_, trivial⟩, trivial⟩
    · exact fun t ticked => by cases ticked
    · intro t ticked
      cases ticked
      decide
    · intro t ticked
      cases ticked
      decide
  have below := (accepted_below_cap run.reaches).1
  exact List.all_eq_true.mpr fun spent member => decide_eq_true (below spent member)

def acrossMidnight : List GasEvent :=
  [⟨86399, .check⟩, ⟨86410, .record 25000000 50000000⟩, ⟨86420, .check⟩]

/-- What is charged between midnight and the first check of the day is lost with the roll-over. -/
theorem charge_lost_at_midnight :
    ¬ ∀ (limits : SafeguardLimits) (eth : Int → String) (s : GasHistory),
      Reaches (gasStep limits eth) InOrder {} s →
      ∀ spent ∈ s.accepted, spent < limits.dailyGasCapWei := by
  intro claim
  have run : AllowedAlong (gasStep smallCap toString) InOrder {} acrossMidnight := by
    refine ⟨?_, ?_, ?_, trivial⟩
    · exact fun t ticked => by cases ticked
    · intro t ticked
      cases ticked
      decide
    · intro t ticked
      cases ticked
      decide
  have below := claim smallCap toString _ run.reaches 1250000000000000 (by decide +kernel)
  revert below
  decide

end MinotaurSubnet.Relayer
