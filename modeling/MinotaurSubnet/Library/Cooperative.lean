import Mathlib.Data.List.Perm.Basic
import MinotaurSubnet.Library.Machine
import MinotaurSubnet.Library.Outcome

/-! # Calls that take turns

On one thread a call runs until it waits for something, and goes on when that has come.
What it does in between is a turn, which nothing interrupts; between two turns of a call
any other call may have its own. What every turn keeps is kept in every order of turns.
A call that waits may rely on a part of the state as long as the turns of the others leave
that part alone.
-/

namespace MinotaurSubnet.Library

universe u v w x y

inductive Turn (σ : Type u) (Stage : Type v) (ε : Type w) where
  | ends (call : Outcome σ ε Unit)
  | waits (state : σ) (stage : Stage)

namespace Turn

variable {σ : Type u} {Stage : Type v} {Stage' : Type x} {ε : Type w} {ε' : Type y}

/-- What the others see. -/
def state : Turn σ Stage ε → σ
  | .ends call => call.state
  | .waits s _ => s

@[simp] theorem state_ends (call : Outcome σ ε Unit) :
    (ends call : Turn σ Stage ε).state = call.state := rfl

@[simp] theorem state_waits (s : σ) (stage : Stage) :
    (waits s stage : Turn σ Stage ε).state = s := rfl

def within (t : Turn σ Stage ε) (place : Stage → Stage') (rest : Outcome σ ε Unit → Turn σ Stage' ε') :
    Turn σ Stage' ε' :=
  match t with
  | .ends call => rest call
  | .waits s stage => .waits s (place stage)

theorem within_state {t : Turn σ Stage ε} {place : Stage → Stage'}
    {rest : Outcome σ ε Unit → Turn σ Stage' ε'} (P : σ → Prop) (turn : P t.state)
    (after : ∀ call, P call.state → P (rest call).state) : P (t.within place rest).state := by
  cases t with
  | ends call => exact after call turn
  | waits s stage => exact turn

end Turn

structure Cooperative (σ : Type u) (Call : Type v) (Stage : Type w) (Answer : Type x) (ε : Type y) where
  start : Call → σ → Turn σ Stage ε
  resume : Stage → Answer → σ → Turn σ Stage ε

structure Waiting (σ : Type u) (Stage : Type w) where
  shared : σ
  stages : List Stage

inductive Schedule (Call : Type v) (Answer : Type x) where
  | start (call : Call)
  /-- The `i`-th waiting call gets its answer. -/
  | resume (i : Nat) (answer : Answer)

namespace Cooperative

variable {σ : Type u} {Call : Type v} {Stage : Type w} {Answer : Type x} {ε : Type y}

/-- The turn is over; a call that waits again queues behind the `others`. -/
def record (others : List Stage) : Turn σ Stage ε → Waiting σ Stage × Option (Except ε Unit)
  | .ends call => (⟨call.state, others⟩, some call.result)
  | .waits s stage => (⟨s, others ++ [stage]⟩, none)

theorem record_shared (others : List Stage) (t : Turn σ Stage ε) :
    (record others t).1.shared = t.state := by
  cases t <;> rfl

def step (p : Cooperative σ Call Stage Answer ε) (w : Waiting σ Stage) :
    Schedule Call Answer → Waiting σ Stage × Option (Except ε Unit)
  | .start call => record w.stages (p.start call w.shared)
  | .resume i answer =>
    match w.stages[i]? with
    | none => (w, none)
    | some stage => record (w.stages.eraseIdx i) (p.resume stage answer w.shared)

def Permits (begins : σ → Call → Prop) (resumes : σ → Stage → Answer → Prop) (w : Waiting σ Stage) :
    Schedule Call Answer → Prop
  | .start call => begins w.shared call
  | .resume i answer => ∀ stage, w.stages[i]? = some stage → resumes w.shared stage answer

/-- One step from a state with `I`: permitted turns reach `J`, and so does no turn at all. -/
theorem step_shared {p : Cooperative σ Call Stage Answer ε} {w : Waiting σ Stage}
    {e : Schedule Call Answer} {begins : σ → Call → Prop} {resumes : σ → Stage → Answer → Prop}
    (permitted : Permits begins resumes w e) (J : σ → Prop) (still : J w.shared)
    (start : ∀ call, e = .start call → begins w.shared call → J (p.start call w.shared).state)
    (resume : ∀ i stage answer, e = .resume i answer → w.stages[i]? = some stage →
      resumes w.shared stage answer → J (p.resume stage answer w.shared).state) :
    J (p.step w e).1.shared := by
  cases e with
  | start call =>
    rw [step, record_shared]
    exact start call rfl permitted
  | resume i answer =>
    simp only [step]
    split
    · exact still
    · next stage waits =>
      rw [record_shared]
      exact resume i stage answer rfl waits (permitted stage waits)

section

variable (Relies : Stage → σ → Prop) (Apart : Stage → Stage → Prop)

/-- Every waiting call still finds what it relies on, and each two of them can wait together. -/
structure Attended (w : Waiting σ Stage) : Prop where
  relies : ∀ stage ∈ w.stages, Relies stage w.shared
  apart : w.stages.Pairwise Apart

/-- The turn leaves the `others` what they rely on, and if it waits again it joins them. -/
structure Joins (others : List Stage) (t : Turn σ Stage ε) : Prop where
  relies : ∀ stage ∈ others, Relies stage t.state
  waits : ∀ s stage, t = .waits s stage → Relies stage s ∧ ∀ other ∈ others, Apart other stage

variable {Relies Apart}

theorem Joins.record {others : List Stage} {t : Turn σ Stage ε} (joins : Joins Relies Apart others t)
    (apart : others.Pairwise Apart) : Attended Relies Apart (record others t).1 := by
  cases t with
  | ends call => exact ⟨joins.relies, apart⟩
  | waits s stage =>
    obtain ⟨own, fits⟩ := joins.waits s stage rfl
    refine ⟨fun other member => ?_, ?_⟩
    · obtain member | rfl := List.mem_append.mp member |>.imp_right List.mem_singleton.mp
      · exact joins.relies other member
      · exact own
    · apply List.pairwise_append.mpr
      refine ⟨apart, List.pairwise_singleton _ _, ?_⟩
      rintro other member _ (_ | ⟨_, ⟨⟩⟩)
      exact fits other member

/-- One step: a call that starts joins those that wait, and one that goes on rejoins the rest. -/
theorem Attended.step {p : Cooperative σ Call Stage Answer ε} {w : Waiting σ Stage}
    {e : Schedule Call Answer} (attended : Attended Relies Apart w)
    (symm : ∀ {a b}, Apart a b → Apart b a)
    (start : ∀ call, e = .start call → Joins Relies Apart w.stages (p.start call w.shared))
    (resume : ∀ i stage answer others, e = .resume i answer → w.stages[i]? = some stage →
      (∀ other ∈ others, other ∈ w.stages ∧ Apart stage other) →
        Joins Relies Apart others (p.resume stage answer w.shared)) :
    Attended Relies Apart (p.step w e).1 := by
  cases e with
  | start call => exact (start call rfl).record attended.apart
  | resume i answer =>
    simp only [Cooperative.step]
    split
    · exact attended
    · next stage waits =>
      obtain ⟨short, rfl⟩ := List.getElem?_eq_some_iff.mp waits
      have whole : (w.stages[i] :: w.stages.eraseIdx i).Perm w.stages :=
        List.getElem_cons_eraseIdx_perm short
      obtain ⟨own, rest⟩ := List.pairwise_cons.mp ((whole.pairwise_iff symm).mpr attended.apart)
      apply Joins.record _ rest
      apply resume i w.stages[i] answer _ rfl waits
      exact fun other member => ⟨List.mem_of_mem_eraseIdx member, own other member⟩

end

end Cooperative

end MinotaurSubnet.Library
