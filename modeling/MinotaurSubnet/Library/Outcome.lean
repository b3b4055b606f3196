import Mathlib.Init

/-! # Calls that leave a state behind

A method changes its object and then returns or raises; what it changed before it
raised stays. An `Outcome` is the state left behind together with the value or the
exception.
-/

namespace MinotaurSubnet.Library

universe u v w x

structure Outcome (σ : Type u) (ε : Type v) (α : Type w) where
  state : σ
  result : Except ε α

namespace Outcome

variable {σ : Type u} {ε : Type v} {α : Type w} {β : Type x}

def returns (s : σ) (a : α) : Outcome σ ε α := ⟨s, .ok a⟩

def raises (s : σ) (e : ε) : Outcome σ ε α := ⟨s, .error e⟩

/-- Go on with the state and the value; an exception ends the call. -/
def andThen (x : Outcome σ ε α) (f : σ → α → Outcome σ ε β) : Outcome σ ε β :=
  match x.result with
  | .ok a => f x.state a
  | .error e => ⟨x.state, .error e⟩

def mapError {ε' : Type*} (f : ε → ε') (x : Outcome σ ε α) : Outcome σ ε' α :=
  ⟨x.state, x.result.mapError f⟩

@[simp] theorem state_returns (s : σ) (a : α) : (returns s a : Outcome σ ε α).state = s := rfl
@[simp] theorem result_returns (s : σ) (a : α) : (returns s a : Outcome σ ε α).result = .ok a := rfl
@[simp] theorem state_raises (s : σ) (e : ε) : (raises s e : Outcome σ ε α).state = s := rfl
@[simp] theorem result_raises (s : σ) (e : ε) :
    (raises s e : Outcome σ ε α).result = .error e := rfl

variable {x : Outcome σ ε α}

theorem mapError_eq_ok {ε' : Type*} {f : ε → ε'} {a} :
    (x.mapError f).result = .ok a ↔ x.result = .ok a := by
  unfold mapError
  cases x.result with
  | error e =>
    constructor
    · intro same
      cases same
    · intro same
      cases same
  | ok b =>
    constructor
    · exact fun same => congrArg _ (Except.ok.inj same)
    · exact fun same => congrArg _ (Except.ok.inj same)

theorem andThen_of_ok {a} (ended : x.result = .ok a) (f : σ → α → Outcome σ ε β) :
    x.andThen f = f x.state a := by
  unfold andThen
  rw [ended]

theorem andThen_of_error {e} (ended : x.result = .error e) (f : σ → α → Outcome σ ε β) :
    x.andThen f = ⟨x.state, .error e⟩ := by
  unfold andThen
  rw [ended]

theorem andThen_state {f : σ → α → Outcome σ ε β} (P : σ → Prop) (first : P x.state)
    (rest : ∀ a, x.result = .ok a → P x.state → P (f x.state a).state) :
    P (x.andThen f).state := by
  cases ended : x.result with
  | ok a =>
    rw [andThen_of_ok ended]
    exact rest a ended first
  | error e =>
    rw [andThen_of_error ended]
    exact first

theorem state_andThen_returns (x : Outcome σ ε α) (g : σ → α → β) :
    (x.andThen fun s a => returns s (g s a)).state = x.state := by
  unfold andThen
  split <;> rfl

theorem andThen_assoc {γ : Type*} (x : Outcome σ ε α) (f : σ → α → Outcome σ ε β)
    (g : σ → β → Outcome σ ε γ) :
    (x.andThen f).andThen g = x.andThen fun s a => (f s a).andThen g := by
  cases ended : x.result with
  | ok a => rw [andThen_of_ok ended, andThen_of_ok ended]
  | error e =>
    rw [andThen_of_error ended, andThen_of_error ended]
    rfl

theorem returns_andThen (s : σ) (a : α) (f : σ → α → Outcome σ ε β) :
    (returns s a).andThen f = f s a := rfl

theorem andThen_eq_ok {f : σ → α → Outcome σ ε β} {b} (ended : (x.andThen f).result = .ok b) :
    ∃ a, x.result = .ok a ∧ (x.andThen f) = f x.state a ∧ (f x.state a).result = .ok b := by
  cases first : x.result with
  | ok a =>
    rw [andThen_of_ok first] at ended
    exact ⟨a, rfl, andThen_of_ok first f, ended⟩
  | error e =>
    rw [andThen_of_error first] at ended
    cases ended

end Outcome

end MinotaurSubnet.Library
