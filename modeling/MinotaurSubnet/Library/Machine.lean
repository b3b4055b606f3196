import Mathlib.Tactic.TypeStar

/-! # Runs of a machine

A machine reacts to an event with a new state and an output. `Reaches` collects
the states of the runs whose every step is allowed; an invariant of allowed steps
holds along all of them.
-/

namespace MinotaurSubnet.Library

variable {σ ε ω : Type*}

/-- `Reaches step allowed start s`: some run of allowed steps leads from `start` to `s`. -/
inductive Reaches (step : σ → ε → σ × ω) (allowed : σ → ε → Prop) (start : σ) : σ → Prop where
  | refl : Reaches step allowed start start
  | next {s : σ} (e : ε) : Reaches step allowed start s → allowed s e →
      Reaches step allowed start (step s e).1

variable {step : σ → ε → σ × ω} {allowed : σ → ε → Prop}

theorem Reaches.invariant {start s} (Inv : σ → Prop) (initial : Inv start)
    (preserved : ∀ s e, Inv s → allowed s e → Inv (step s e).1)
    (reached : Reaches step allowed start s) : Inv s := by
  induction reached with
  | refl => exact initial
  | next e _ allowed ih => exact preserved _ e ih allowed

theorem Reaches.trans {start mid last} (first : Reaches step allowed start mid)
    (second : Reaches step allowed mid last) :
    Reaches step allowed start last := by
  induction second with
  | refl => exact first
  | next e _ permitted ih => exact .next e ih permitted

def runEvents (step : σ → ε → σ × ω) (s : σ) (events : List ε) : σ :=
  events.foldl (fun s e => (step s e).1) s

/-- A list of events that are allowed as long as `Q` holds, and keep it, is a run. -/
theorem reaches_runEvents_while (Q : σ → Prop) {s} (initial : Q s) (events : List ε)
    (keeps : ∀ e ∈ events, ∀ s, Q s → Q (step s e).1)
    (permitted : ∀ e ∈ events, ∀ s, Q s → allowed s e) :
    Reaches step allowed s (runEvents step s events) := by
  induction events generalizing s with
  | nil => exact .refl
  | cons e rest ih =>
    have first : Reaches step allowed s (step s e).1 :=
      .next e .refl (permitted e List.mem_cons_self s initial)
    apply first.trans
    apply ih (keeps e List.mem_cons_self s initial)
    · exact fun e member => keeps e (List.mem_cons_of_mem _ member)
    · exact fun e member => permitted e (List.mem_cons_of_mem _ member)

theorem reaches_runEvents_of (s : σ) (events : List ε)
    (permitted : ∀ e ∈ events, ∀ s, allowed s e) :
    Reaches step allowed s (runEvents step s events) :=
  reaches_runEvents_while (fun _ => True) trivial events (fun _ _ _ _ => trivial)
    fun e member s _ => permitted e member s

theorem reaches_runEvents (step : σ → ε → σ × ω) (s : σ) (events : List ε) :
    Reaches step (fun _ _ => True) s (runEvents step s events) :=
  reaches_runEvents_of s events fun _ _ _ => trivial

def AllowedAlong (step : σ → ε → σ × ω) (allowed : σ → ε → Prop) : σ → List ε → Prop
  | _, [] => True
  | s, e :: rest => allowed s e ∧ AllowedAlong step allowed (step s e).1 rest

instance AllowedAlong.decidable (step : σ → ε → σ × ω) (allowed : σ → ε → Prop)
    [each : ∀ s e, Decidable (allowed s e)] :
    ∀ s (events : List ε), Decidable (AllowedAlong step allowed s events)
  | _, [] => .isTrue trivial
  | s, e :: rest =>
    have := AllowedAlong.decidable step allowed (step s e).1 rest
    inferInstanceAs (Decidable (allowed s e ∧ AllowedAlong step allowed (step s e).1 rest))

theorem AllowedAlong.mono {allowed allowed' : σ → ε → Prop} {s events}
    (along : AllowedAlong step allowed s events) (weaker : ∀ s e, allowed s e → allowed' s e) :
    AllowedAlong step allowed' s events := by
  induction events generalizing s with
  | nil => trivial
  | cons e rest ih => exact ⟨weaker s e along.1, ih along.2⟩

theorem AllowedAlong.and_of_forall {allowed allowed' : σ → ε → Prop} {s events}
    (along : AllowedAlong step allowed s events) (always : ∀ e ∈ events, ∀ s, allowed' s e) :
    AllowedAlong step (fun s e => allowed s e ∧ allowed' s e) s events := by
  induction events generalizing s with
  | nil => trivial
  | cons e rest ih =>
    refine ⟨⟨along.1, always e List.mem_cons_self s⟩, ih along.2 ?_⟩
    exact fun e member => always e (List.mem_cons_of_mem _ member)

theorem AllowedAlong.reaches {s events} (along : AllowedAlong step allowed s events) :
    Reaches step allowed s (runEvents step s events) := by
  induction events generalizing s with
  | nil => exact .refl
  | cons e rest ih =>
    have first : Reaches step allowed s (step s e).1 := .next e .refl along.1
    exact first.trans (ih along.2)

end MinotaurSubnet.Library
