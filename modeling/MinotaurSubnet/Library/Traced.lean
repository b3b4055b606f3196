import Mathlib.Data.List.Basic

/-! # Computations that leave a trace

A long procedure calls out: it writes to a store, sends messages, waits for
answers. Its run is the list of these calls and the value or exception it ends
in. An early `return` ends the run like an exception does.
-/

namespace MinotaurSubnet.Library

structure Traced (ω ε α : Type) where
  trace : List ω
  result : Except ε α

namespace Traced

variable {ω ε α β : Type}

def pure (a : α) : Traced ω ε α := ⟨[], .ok a⟩

def bind (x : Traced ω ε α) (f : α → Traced ω ε β) : Traced ω ε β :=
  match x.result with
  | .error e => ⟨x.trace, .error e⟩
  | .ok a => ⟨x.trace ++ (f a).trace, (f a).result⟩

instance : Monad (Traced ω ε) where
  pure := Traced.pure
  bind := Traced.bind

def emit (e : ω) : Traced ω ε Unit := ⟨[e], .ok ()⟩

def stop (e : ε) : Traced ω ε α := ⟨[], .error e⟩

def lift (x : Except ε α) : Traced ω ε α := ⟨[], x⟩

/-- `try: … except`: what the part did stays done, and how it ended is a value. -/
def caught {δ : Type} (x : Traced ω ε α) : Traced ω δ (Except ε α) := ⟨x.trace, .ok x.result⟩

@[simp] theorem trace_pure (a : α) : (Pure.pure a : Traced ω ε α).trace = [] := rfl
@[simp] theorem result_pure (a : α) : (Pure.pure a : Traced ω ε α).result = .ok a := rfl
@[simp] theorem trace_emit (e : ω) : (emit e : Traced ω ε Unit).trace = [e] := rfl
@[simp] theorem result_emit (e : ω) : (emit e : Traced ω ε Unit).result = .ok () := rfl
@[simp] theorem trace_stop (e : ε) : (stop e : Traced ω ε α).trace = [] := rfl
@[simp] theorem result_stop (e : ε) : (stop e : Traced ω ε α).result = .error e := rfl
@[simp] theorem trace_lift (x : Except ε α) : (lift x : Traced ω ε α).trace = [] := rfl
@[simp] theorem result_lift (x : Except ε α) : (lift x : Traced ω ε α).result = x := rfl
@[simp] theorem trace_caught {δ : Type} (x : Traced ω ε α) :
    (x.caught : Traced ω δ (Except ε α)).trace = x.trace := rfl
@[simp] theorem result_caught {δ : Type} (x : Traced ω ε α) :
    (x.caught : Traced ω δ (Except ε α)).result = .ok x.result := rfl

variable {f : α → Traced ω ε β} {x : Traced ω ε α} {P : ω → Prop}

theorem bind_ok {a} (ended : x.result = .ok a) :
    x >>= f = ⟨x.trace ++ (f a).trace, (f a).result⟩ := by
  show Traced.bind x f = _
  rw [Traced.bind, ended]

theorem bind_error {e} (ended : x.result = .error e) :
    x >>= f = ⟨x.trace, .error e⟩ := by
  show Traced.bind x f = _
  rw [Traced.bind, ended]

theorem trace_bind_pure (x : Traced ω ε α) (g : α → β) :
    (x >>= fun a => (Pure.pure (g a) : Traced ω ε β)).trace = x.trace := by
  cases ended : x.result with
  | error e => rw [bind_error ended]
  | ok a => rw [bind_ok ended, trace_pure, List.append_nil]

theorem result_bind_eq_ok {b} :
    (x >>= f).result = .ok b ↔ ∃ a, x.result = .ok a ∧ (f a).result = .ok b := by
  cases ended : x.result with
  | error e => simp [bind_error ended]
  | ok a => simp [bind_ok ended]

theorem mem_bind {e} :
    e ∈ (x >>= f).trace ↔ e ∈ x.trace ∨ ∃ a, x.result = .ok a ∧ e ∈ (f a).trace := by
  cases ended : x.result with
  | error err => simp [bind_error ended]
  | ok a => simp [bind_ok ended]

/-- Every call of the run satisfies `P`. -/
def All (P : ω → Prop) (x : Traced ω ε α) : Prop := ∀ e ∈ x.trace, P e

theorem All.bind (first : x.All P) (rest : ∀ a, x.result = .ok a → (f a).All P) :
    (x >>= f).All P := by
  intro e member
  rcases mem_bind.mp member with before | ⟨a, ended, after⟩
  · exact first e before
  · exact rest a ended e after

theorem all_pure (a : α) : (Pure.pure a : Traced ω ε α).All P := by
  simp [All]

theorem all_stop (e : ε) : (stop e : Traced ω ε α).All P := by
  simp [All]

theorem all_lift (x : Except ε α) : (lift x : Traced ω ε α).All P := by
  simp [All]

theorem All.imp {P Q : ω → Prop} (all : x.All P) (weaker : ∀ e, P e → Q e) :
    x.All Q := fun e member => weaker e (all e member)

theorem all_emit {e} : (emit e : Traced ω ε Unit).All P ↔ P e := by
  simp [All]

end Traced

section

variable {ω : Type}

/-- Every call of a trace stands in relation `Q` to the calls before it. -/
def Follows (Q : List ω → ω → Prop) (trace : List ω) : Prop :=
  ∀ before e after, trace = before ++ e :: after → Q before e

variable {Q : List ω → ω → Prop}

@[simp] theorem follows_nil : Follows Q [] := by
  intro before e after split
  cases before <;> cases split

theorem follows_cons {e rest} :
    Follows Q (e :: rest) ↔ Q [] e ∧ Follows (fun before => Q (e :: before)) rest := by
  constructor
  · intro all
    refine ⟨all [] e rest rfl, ?_⟩
    intro before e' after split
    exact all (e :: before) e' after (by rw [split, List.cons_append])
  · rintro ⟨head, tail⟩ before e' after split
    cases before with
    | nil =>
      obtain ⟨rfl, -⟩ := List.cons.inj split
      exact head
    | cons first before =>
      obtain ⟨rfl, later⟩ := List.cons.inj split
      exact tail before e' after later

theorem follows_append {xs ys} :
    Follows Q (xs ++ ys) ↔ Follows Q xs ∧ Follows (fun before => Q (xs ++ before)) ys := by
  induction xs generalizing Q with
  | nil => simp
  | cons x xs ih =>
    rw [List.cons_append, follows_cons, follows_cons, ih, and_assoc]
    rfl

theorem follows_of_forall {trace} (always : ∀ e ∈ trace, ∀ before, Q before e) :
    Follows Q trace := by
  intro before e after split
  exact always e (by simp [split]) before

/-- A relation that more calls in front cannot break holds of a run when it holds of both
    its parts. -/
theorem Follows.bind {ε α β : Type} (mono : ∀ xs before e, Q before e → Q (xs ++ before) e) {x}
    {f : α → Traced ω ε β} (first : Follows Q x.trace)
    (rest : ∀ a, x.result = .ok a → Follows Q (f a).trace) : Follows Q (x >>= f).trace := by
  cases ended : x.result with
  | error e =>
    rw [Traced.bind_error ended]
    exact first
  | ok a =>
    rw [Traced.bind_ok ended]
    refine follows_append.mpr ⟨first, ?_⟩
    intro before e after split
    exact mono x.trace before e (rest a ended before e after split)

end

variable {ω ω' ε α β : Type}

namespace Traced

/-- The same run under other names for its calls. -/
def relabel (f : ω → ω') (x : Traced ω ε α) : Traced ω' ε α := ⟨x.trace.map f, x.result⟩

/-- The run without the calls `f` does not keep. -/
def erase (f : ω → Option ω') (x : Traced ω ε α) : Traced ω' ε α :=
  ⟨x.trace.filterMap f, x.result⟩

@[simp] theorem trace_relabel (f : ω → ω') (x : Traced ω ε α) :
    (x.relabel f).trace = x.trace.map f := rfl

@[simp] theorem result_relabel (f : ω → ω') (x : Traced ω ε α) :
    (x.relabel f).result = x.result := rfl

@[simp] theorem trace_erase (f : ω → Option ω') (x : Traced ω ε α) :
    (x.erase f).trace = x.trace.filterMap f := rfl

theorem erase_bind (f : ω → Option ω') (x : Traced ω ε α) (next : α → Traced ω ε β) :
    (x >>= next).erase f = x.erase f >>= fun a => (next a).erase f := by
  cases ended : x.result with
  | error e =>
    have ended' : (x.erase f).result = .error e := ended
    rw [bind_error ended, bind_error ended']
    rfl
  | ok a =>
    have ended' : (x.erase f).result = .ok a := ended
    rw [bind_ok ended, bind_ok ended']
    simp [erase, List.filterMap_append]

theorem erase_relabel {f : ω → Option ω'} {g : ω' → ω} (kept : ∀ e, f (g e) = some e)
    (x : Traced ω' ε α) : (x.relabel g).erase f = x := by
  simp [erase, relabel, List.filterMap_map, kept]

theorem erase_emit {f : ω → Option ω'} {e} (dropped : f e = none) :
    (emit e : Traced ω ε Unit).erase f = Pure.pure () := by
  simp [erase, trace_emit, dropped]
  rfl

theorem pure_bind (a : α) (next : α → Traced ω ε β) : (Pure.pure a >>= next) = next a := by
  rw [bind_ok (result_pure a)]
  rfl

theorem result_bind (x : Traced ω ε α) (next : α → Traced ω ε β) :
    (x >>= next).result = x.result >>= fun a => (next a).result := by
  cases ended : x.result with
  | error e =>
    rw [bind_error ended]
    rfl
  | ok a =>
    rw [bind_ok ended]
    rfl

theorem mem_after {x} {next : α → Traced ω ε β} {a e} (ended : x.result = .ok a)
    (member : e ∈ (next a).trace) : e ∈ (x >>= next).trace :=
  mem_bind.mpr (.inr ⟨a, ended, member⟩)

/-- From the calls `before` on, `Q` allows every call of the run, and if the run ends its
    value and the calls by then satisfy `post`. -/
def Ensures (Q : List ω → ω → Prop) (before : List ω) (x : Traced ω ε α)
    (post : α → List ω → Prop) : Prop :=
  Follows (fun past => Q (before ++ past)) x.trace ∧
    ∀ a, x.result = .ok a → post a (before ++ x.trace)

variable {Q : List ω → ω → Prop} {before : List ω} {x : Traced ω ε α}

theorem Ensures.bind {next : α → Traced ω ε β} {mid : α → List ω → Prop}
    {post : β → List ω → Prop} (first : Ensures Q before x mid)
    (rest : ∀ a past, mid a past → Ensures Q past (next a) post) :
    Ensures Q before (x >>= next) post := by
  cases ended : x.result with
  | error e =>
    rw [bind_error ended]
    exact ⟨first.1, by simp⟩
  | ok a =>
    obtain ⟨later, reached⟩ := rest a _ (first.2 a ended)
    rw [bind_ok ended]
    refine ⟨follows_append.mpr ⟨first.1, ?_⟩, ?_⟩
    · simpa only [List.append_assoc] using later
    · intro b ended'
      rw [← List.append_assoc]
      exact reached b ended'

theorem ensures_pure {post : α → List ω → Prop} {a} (holds : post a before) :
    Ensures Q before (Pure.pure a : Traced ω ε α) post := by
  refine ⟨by simp, fun b same => ?_⟩
  cases same
  simpa using holds

theorem ensures_stop {e} {post : α → List ω → Prop} :
    Ensures Q before (stop e : Traced ω ε α) post := by
  refine ⟨by simp, fun a ended => ?_⟩
  cases ended

theorem ensures_emit {e} {post : Unit → List ω → Prop} (allowed : Q before e)
    (holds : post () (before ++ [e])) : Ensures Q before (emit e : Traced ω ε Unit) post := by
  refine ⟨?_, fun _ _ => holds⟩
  rw [trace_emit, follows_cons]
  exact ⟨by simpa using allowed, follows_nil⟩

theorem ensures_emitted {e} (allowed : Q before e) :
    Ensures Q before (emit e : Traced ω ε Unit) fun _ past => past = before ++ [e] :=
  ensures_emit allowed rfl

/-- Calls that are always allowed only add to the history. -/
theorem ensures_of_all (always : x.All fun e => ∀ past, Q past e) :
    Ensures Q before x fun a past => x.result = .ok a ∧ before ⊆ past := by
  refine ⟨follows_of_forall fun e member _ => always e member _, fun a ended => ⟨ended, ?_⟩⟩
  exact List.subset_append_left _ _

/-- What the history so far allows and a longer one does not forbid. -/
theorem ensures_of_mono (mono : ∀ past more e, Q past e → Q (past ++ more) e)
    (allowed : x.All (Q before)) : Ensures Q before x fun _ _ => True :=
  ⟨follows_of_forall fun e member past => mono before past e (allowed e member), fun _ _ => trivial⟩

end Traced

/-- Both raise the same exception, or both end, in values related by `R`. -/
inductive Agree (R : α → β → Prop) : Except ε α → Except ε β → Prop where
  | raised (e : ε) : Agree R (.error e) (.error e)
  | ended {a : α} {b : β} (related : R a b) : Agree R (.ok a) (.ok b)

theorem Agree.bind {α' β' : Type} {R : α → β → Prop} {S : α' → β' → Prop} {x y}
    {f : α → Except ε α'} {g : β → Except ε β'} (first : Agree R x y)
    (rest : ∀ a b, R a b → Agree S (f a) (g b)) : Agree S (x >>= f) (y >>= g) := by
  cases first with
  | raised e => exact .raised e
  | ended related => exact rest _ _ related

theorem Agree.imp_ended {R S : α → β → Prop} {x : Except ε α} {y : Except ε β} (agree : Agree R x y)
    (weaker : ∀ a b, x = .ok a → y = .ok b → R a b → S a b) : Agree S x y := by
  cases agree with
  | raised e => exact .raised e
  | ended related => exact .ended (weaker _ _ rfl rfl related)

theorem Agree.ends {R : α → β → Prop} {x : Except ε α} {y : Except ε β} (agree : Agree R x y) {a : α}
    (ended : x = .ok a) : ∃ b, y = .ok b ∧ R a b := by
  cases agree with
  | raised e => cases ended
  | ended related =>
    cases ended
    exact ⟨_, rfl, related⟩

theorem Agree.eq {x y : Except ε α} (agree : Agree (· = ·) x y) : x = y := by
  cases agree with
  | raised e => rfl
  | ended same => rw [same]

theorem agree_same (x : Except ε α) : Agree (· = ·) x x := by
  cases x with
  | error e => exact .raised e
  | ok a => exact .ended rfl

namespace Traced

/-- Up to what `f` leaves of a call the two runs do the same, and they agree in how they end. -/
structure Alike (f : ω → ω') (R : α → β → Prop) (x : Traced ω ε α) (y : Traced ω ε β) : Prop where
  trace : x.trace.map f = y.trace.map f
  result : Agree R x.result y.result

variable {f : ω → ω'} {R : α → β → Prop}

theorem Alike.bind {α' β' : Type} {S : α' → β' → Prop} {x y} {next : α → Traced ω ε α'}
    {next' : β → Traced ω ε β'} (first : Alike f R x y)
    (rest : ∀ a b, R a b → Alike f S (next a) (next' b)) :
    Alike f S (x >>= next) (y >>= next') := by
  obtain ⟨traces, results⟩ := first
  cases ended : x.result with
  | error e =>
    cases ended' : y.result with
    | error e' =>
      rw [ended, ended'] at results
      cases results
      rw [bind_error ended, bind_error ended']
      exact ⟨traces, .raised e⟩
    | ok b =>
      rw [ended, ended'] at results
      cases results
  | ok a =>
    cases ended' : y.result with
    | error e =>
      rw [ended, ended'] at results
      cases results
    | ok b =>
      rw [ended, ended'] at results
      cases results with
      | ended related =>
        obtain ⟨later, outcome⟩ := rest a b related
        rw [bind_ok ended, bind_ok ended']
        refine ⟨?_, outcome⟩
        rw [List.map_append, List.map_append, traces, later]

theorem alike_pure {a b} (related : R a b) :
    Alike f R (Pure.pure a : Traced ω ε α) (Pure.pure b) :=
  ⟨rfl, .ended related⟩

theorem alike_emit {e e'} (same : f e = f e') :
    Alike f (· = ·) (emit e : Traced ω ε Unit) (emit e') :=
  ⟨by simp [same], .ended rfl⟩

theorem alike_lift {x y} (results : Agree R x y) :
    Alike f R (lift x : Traced ω ε α) (lift y) :=
  ⟨rfl, results⟩

theorem alike_stop (e : ε) : Alike f R (stop e : Traced ω ε α) (stop e) := ⟨rfl, .raised e⟩

theorem alike_same (x : Traced ω ε α) : Alike f (· = ·) x x := ⟨rfl, agree_same x.result⟩

end Traced

theorem Follows.of_prefix {Q : List ω → ω → Prop} {first trace} (follows : Follows Q trace)
    (cut : first <+: trace) : Follows Q first := by
  obtain ⟨rest, rfl⟩ := cut
  exact (follows_append.mp follows).1

theorem Follows.before {Q : List ω → ω → Prop} {trace} (follows : Follows Q trace) {e}
    (member : e ∈ trace) : ∃ before, before ⊆ trace ∧ Q before e := by
  obtain ⟨before, after, split⟩ := List.append_of_mem member
  refine ⟨before, ?_, follows before e after split⟩
  rw [split]
  exact List.subset_append_left _ _

end MinotaurSubnet.Library
