import Mathlib.Algebra.Order.BigOperators.Group.Finset
import Mathlib.Algebra.Order.Floor.Div
import Mathlib.Order.Interval.Finset.Nat

/-! # Serving the least recently served first

A fixed finite set of contenders is served in rounds. Whoever is served becomes the
most junior, the others keep their seniority, and nobody takes a seat in a round before
a more senior contender who goes without. Then nobody waits longer than it takes to
seat everyone once.
-/

namespace MinotaurSubnet.Library

variable {α τ : Type*} [LinearOrder τ]

/-- A record of the first `horizon` rounds: who was served, who held the seats that count,
    and how senior every contender was before each round (smaller is more senior). -/
structure LeastRecent (contenders : Finset α) (seats horizon : ℕ) where
  served : ℕ → Finset α
  seated : ℕ → Finset α
  seniority : ℕ → α → τ
  time : ℕ → τ
  seated_contend : ∀ i < horizon, seated i ⊆ contenders
  seated_served : ∀ i < horizon, seated i ⊆ served i
  filled : ∀ i < horizon, min seats contenders.card ≤ (seated i).card
  senior_first : ∀ i < horizon, ∀ x ∈ seated i, ∀ y ∈ contenders, y ∉ served i →
    seniority i x ≤ seniority i y
  served_junior : ∀ i < horizon, ∀ x ∈ contenders, x ∈ served i → seniority (i + 1) x = time i
  unserved_keeps : ∀ i < horizon, ∀ x ∈ contenders, x ∉ served i →
    seniority (i + 1) x = seniority i x
  time_later : ∀ i < horizon, ∀ x ∈ contenders, seniority i x < time i

namespace LeastRecent

variable {contenders : Finset α} {seats horizon : ℕ}
  {rounds : LeastRecent (τ := τ) contenders seats horizon} {y : α} {k r : ℕ}

/-- `y` goes without service for `r` rounds from round `k` on. -/
def Waits (rounds : LeastRecent (τ := τ) contenders seats horizon) (y : α) (k r : ℕ) : Prop :=
  ∀ i, k ≤ i → i < k + r → y ∉ rounds.served i

theorem Waits.seniority_eq (waits : rounds.Waits y k r) (contends : y ∈ contenders)
    (within : k + r ≤ horizon) :
    ∀ i, k ≤ i → i ≤ k + r → rounds.seniority i y = rounds.seniority k y := by
  intro i start
  induction i, start using Nat.le_induction with
  | base => exact fun _ => rfl
  | succ i start ih =>
    intro stop
    rw [rounds.unserved_keeps i (by omega) y contends (waits i start (by omega))]
    exact ih (by omega)

theorem Waits.junior (waits : rounds.Waits y k r) (contends : y ∈ contenders)
    (within : k + r ≤ horizon) {x i} (start : k ≤ i) (stop : i < k + r)
    (seat : x ∈ rounds.seated i) :
    ∀ j, i < j → j ≤ k + r → rounds.seniority k y < rounds.seniority j x := by
  have contender := rounds.seated_contend i (by omega) seat
  intro j after
  induction j, after using Nat.le_induction with
  | base =>
    intro _
    rw [rounds.served_junior i (by omega) x contender (rounds.seated_served i (by omega) seat),
      ← waits.seniority_eq contends within i start (by omega)]
    exact rounds.time_later i (by omega) y contends
  | succ j after ih =>
    intro stop
    by_cases again : x ∈ rounds.served j
    · rw [rounds.served_junior j (by omega) x contender again,
        ← waits.seniority_eq contends within j (by omega) (by omega)]
      exact rounds.time_later j (by omega) y contends
    · rw [rounds.unserved_keeps j (by omega) x contender again]
      exact ih (by omega)

theorem Waits.seated_disjoint (waits : rounds.Waits y k r) (contends : y ∈ contenders)
    (within : k + r ≤ horizon) {i j} (start : k ≤ i) (order : i < j) (stop : j < k + r) :
    Disjoint (rounds.seated i) (rounds.seated j) := by
  rw [Finset.disjoint_left]
  intro x early late
  have passed := rounds.senior_first j (by omega) x late y contends (waits j (by omega) stop)
  rw [waits.seniority_eq contends within j (by omega) (by omega)] at passed
  have junior := waits.junior contends within start (by omega) early j order (by omega)
  exact absurd passed (not_le_of_gt junior)

theorem Waits.seats_lt [DecidableEq α] (waits : rounds.Waits y k r) (contends : y ∈ contenders)
    (within : k + r ≤ horizon) : r * min seats contenders.card < contenders.card := by
  have others : (Finset.Ico k (k + r)).biUnion rounds.seated ⊆ contenders.erase y := by
    intro x member
    obtain ⟨i, window, seat⟩ := Finset.mem_biUnion.mp member
    rw [Finset.mem_Ico] at window
    apply Finset.mem_erase.mpr
    constructor
    · intro same
      subst same
      exact waits i window.1 window.2 (rounds.seated_served i (by omega) seat)
    · exact rounds.seated_contend i (by omega) seat
  have disjoint : ((Finset.Ico k (k + r) : Finset ℕ) : Set ℕ).PairwiseDisjoint rounds.seated := by
    intro i hi j hj different
    rw [Finset.mem_coe, Finset.mem_Ico] at hi hj
    cases Nat.lt_or_gt_of_ne different with
    | inl before => exact waits.seated_disjoint contends within hi.1 before hj.2
    | inr after => exact (waits.seated_disjoint contends within hj.1 after hi.2).symm
  have each : ∀ i ∈ Finset.Ico k (k + r), min seats contenders.card ≤ (rounds.seated i).card := by
    intro i window
    rw [Finset.mem_Ico] at window
    exact rounds.filled i (by omega)
  have total := Finset.card_nsmul_le_sum _ _ _ each
  rw [Nat.card_Ico, Nat.add_sub_cancel_left, smul_eq_mul, ← Finset.card_biUnion disjoint] at total
  have fewer := Finset.card_le_card others
  rw [Finset.card_erase_of_mem contends] at fewer
  have someone := Finset.card_pos.mpr ⟨y, contends⟩
  omega

/-- With at least one seat a round, everybody is served within any `⌈contenders / seats⌉`
    consecutive rounds. -/
theorem served_within [DecidableEq α] (rounds : LeastRecent (τ := τ) contenders seats horizon)
    (someSeat : 0 < seats) (contends : y ∈ contenders) (k : ℕ)
    (within : k + contenders.card ⌈/⌉ seats ≤ horizon) :
    ∃ i, k ≤ i ∧ i < k + contenders.card ⌈/⌉ seats ∧ y ∈ rounds.served i := by
  by_contra never
  have waits : rounds.Waits y k (contenders.card ⌈/⌉ seats) := by
    intro i start stop member
    exact never ⟨i, start, stop, member⟩
  have short := waits.seats_lt contends within
  have someone := Finset.card_pos.mpr ⟨y, contends⟩
  have enough : contenders.card ≤ seats * (contenders.card ⌈/⌉ seats) :=
    le_smul_ceilDiv someSeat
  cases Nat.le_total seats contenders.card with
  | inl few =>
    rw [min_eq_left few, Nat.mul_comm] at short
    omega
  | inr many =>
    rw [min_eq_right many] at short
    have once : 0 < contenders.card ⌈/⌉ seats := by
      apply Nat.pos_of_ne_zero
      intro none
      rw [none] at enough
      omega
    have atLeast := Nat.le_mul_of_pos_left contenders.card once
    omega

end LeastRecent

end MinotaurSubnet.Library
