import MinotaurSubnet.Library.Traced

/-! # Programs that ask

A procedure that talks with services it does not control puts questions and goes on with
whatever is answered. Its runs are the lists of questions with their answers. `Holds` is
the rule of such programs: a question is put when its `guard` holds of what was said before,
and an answer is considered when `rely` allows it. `Meets` is the same for a partner that
has a state of its own.
-/

namespace MinotaurSubnet.Library

inductive Dialogue (Q : Type) (A : Q → Type) (α : Type) where
  | done (a : α)
  | ask (q : Q) (next : A q → Dialogue Q A α)

abbrev Exchange {Q : Type} (A : Q → Type) := (q : Q) × A q

namespace Dialogue

variable {Q : Type} {A : Q → Type} {α β : Type}

def bind : Dialogue Q A α → (α → Dialogue Q A β) → Dialogue Q A β
  | .done a, f => f a
  | .ask q next, f => .ask q fun answer => (next answer).bind f

instance : Monad (Dialogue Q A) where
  pure := Dialogue.done
  bind := Dialogue.bind

def put (q : Q) : Dialogue Q A (A q) := .ask q .done

/-- `Runs p trace a`: answered as in `trace`, the program ends in `a`. -/
inductive Runs : Dialogue Q A α → List (Exchange A) → α → Prop where
  | done (a : α) : Runs (.done a) [] a
  | ask {q : Q} {next : A q → Dialogue Q A α} {answer : A q} {rest : List (Exchange A)} {a : α}
      (run : Runs (next answer) rest a) : Runs (.ask q next) (⟨q, answer⟩ :: rest) a

section

variable {guard : List (Exchange A) → Q → Prop} {rely : (q : Q) → A q → Prop}
  {past : List (Exchange A)}

/-- From what was said so far, every question is put within its guard and the program ends in
    `post`. -/
def Holds (guard : List (Exchange A) → Q → Prop) (rely : (q : Q) → A q → Prop) :
    Dialogue Q A α → List (Exchange A) → (List (Exchange A) → α → Prop) → Prop
  | .done a, past, post => post past a
  | .ask q next, past, post =>
    guard past q ∧
      ∀ answer, rely q answer → Holds guard rely (next answer) (past ++ [⟨q, answer⟩]) post

variable {post : List (Exchange A) → α → Prop} {p : Dialogue Q A α}

theorem holds_pure {a} :
    Holds guard rely (pure a : Dialogue Q A α) past post ↔ post past a := Iff.rfl

theorem holds_put {post : (past : List (Exchange A)) → A q → Prop} :
    Holds guard rely (put q) past post ↔
      guard past q ∧ ∀ answer, rely q answer → post (past ++ [⟨q, answer⟩]) answer := Iff.rfl

theorem holds_ask {q} {next : A q → Dialogue Q A α} :
    Holds guard rely (.ask q next) past post ↔ guard past q ∧
      ∀ answer, rely q answer → Holds guard rely (next answer) (past ++ [⟨q, answer⟩]) post := Iff.rfl

theorem holds_bind {f : α → Dialogue Q A β} {post : List (Exchange A) → β → Prop} :
    Holds guard rely (p >>= f) past post ↔
      Holds guard rely p past fun later a => Holds guard rely (f a) later post := by
  show Holds guard rely (p.bind f) past post ↔ _
  induction p generalizing past with
  | done a => rfl
  | ask q next ih => simp only [Dialogue.bind, Holds, ih]

theorem Holds.mono {post post' : List (Exchange A) → α → Prop}
    (holds : Holds guard rely p past post) (weaker : ∀ later a, post later a → post' later a) :
    Holds guard rely p past post' := by
  induction p generalizing past with
  | done a => exact weaker past a holds
  | ask q next ih => exact ⟨holds.1, fun answer honest => ih answer (holds.2 answer honest)⟩

theorem Holds.weaken {guard' : List (Exchange A) → Q → Prop} (holds : Holds guard rely p past post)
    (weaker : ∀ past q, guard past q → guard' past q) : Holds guard' rely p past post := by
  induction p generalizing past with
  | done a => exact holds
  | ask q next ih =>
    exact ⟨weaker past q holds.1, fun answer honest => ih answer (holds.2 answer honest)⟩

theorem Holds.grows (holds : Holds guard rely p past post) :
    Holds guard rely p past fun later a => past <+: later ∧ post later a := by
  induction p generalizing past with
  | done a => exact ⟨List.prefix_refl past, holds⟩
  | ask q next ih =>
    refine ⟨holds.1, fun answer honest => ?_⟩
    refine (ih answer (holds.2 answer honest)).mono fun later a grown => ?_
    exact ⟨(List.prefix_append past _).trans grown.1, grown.2⟩

/-- A rule for a part is a rule for the whole: what the rest needs of the part is what the part
    leaves. -/
theorem Holds.seq {f : α → Dialogue Q A β} {mid : List (Exchange A) → α → Prop}
    {post : List (Exchange A) → β → Prop}
    (first : Holds guard rely p past mid)
    (rest : ∀ later a, past <+: later → mid later a → Holds guard rely (f a) later post) :
    Holds guard rely (p >>= f) past post :=
  holds_bind.mpr (first.grows.mono fun later a grown => rest later a grown.1 grown.2)

theorem Holds.sound {trace a} (holds : Holds guard rely p past post) (run : Runs p trace a)
    (honest : ∀ e ∈ trace, rely e.1 e.2) :
    post (past ++ trace) a ∧ Follows (fun before e => guard (past ++ before) e.1) trace := by
  induction run generalizing past with
  | done a =>
    rw [List.append_nil]
    exact ⟨holds, follows_nil⟩
  | @ask q next answer rest a run ih =>
    obtain ⟨here, later⟩ := holds
    obtain ⟨ends, follows⟩ :=
      ih (later answer (honest _ List.mem_cons_self)) fun e member =>
        honest e (List.mem_cons_of_mem _ member)
    refine ⟨by simpa using ends, follows_cons.mpr ⟨by simpa using here, ?_⟩⟩
    simpa only [List.append_assoc, List.singleton_append] using follows

-- From here on a program is read by its rules, never by running it.
attribute [irreducible] Holds

end

section

variable {σ : Type} {env : σ → (q : Q) → A q → σ → Prop} {guard : σ → Q → Prop} {s : σ}

/-- With a partner whose state goes on as `env` says, every question is put within its guard and the
    program ends in `post`. -/
def Meets (env : σ → (q : Q) → A q → σ → Prop) (guard : σ → Q → Prop) :
    Dialogue Q A α → σ → (α → σ → Prop) → Prop
  | .done a, s, post => post a s
  | .ask q next, s, post =>
    guard s q ∧ ∀ answer s', env s q answer s' → Meets env guard (next answer) s' post

theorem meets_pure {post : α → σ → Prop} {a} :
    Meets env guard (pure a : Dialogue Q A α) s post ↔ post a s := Iff.rfl

theorem meets_ask {q} {next : A q → Dialogue Q A α} {post : α → σ → Prop} :
    Meets env guard (.ask q next) s post ↔ guard s q ∧
      ∀ answer s', env s q answer s' → Meets env guard (next answer) s' post := Iff.rfl

theorem meets_put {q} {post : A q → σ → Prop} :
    Meets env guard (put q) s post ↔ guard s q ∧ ∀ answer s', env s q answer s' → post answer s' := Iff.rfl

theorem meets_bind {p} {f : α → Dialogue Q A β} {post : β → σ → Prop} :
    Meets env guard (p >>= f) s post ↔
      Meets env guard p s fun a s' => Meets env guard (f a) s' post := by
  show Meets env guard (p.bind f) s post ↔ _
  induction p generalizing s with
  | done a => rfl
  | ask q next ih => simp only [Dialogue.bind, Meets, ih]

theorem Meets.mono {p} {post post' : α → σ → Prop} (meets : Meets env guard p s post)
    (weaker : ∀ a s', post a s' → post' a s') : Meets env guard p s post' := by
  induction p generalizing s with
  | done a => exact weaker a s meets
  | ask q next ih => exact ⟨meets.1, fun answer s' goes => ih answer (meets.2 answer s' goes)⟩

theorem Meets.seq {p} {f : α → Dialogue Q A β} {mid : α → σ → Prop} {post : β → σ → Prop}
    (first : Meets env guard p s mid) (rest : ∀ a s', mid a s' → Meets env guard (f a) s' post) :
    Meets env guard (p >>= f) s post :=
  meets_bind.mpr (first.mono rest)

theorem Meets.asks {q} {f : A q → Dialogue Q A α} {post : α → σ → Prop} (within : guard s q)
    (rest : ∀ answer s', env s q answer s' → Meets env guard (f answer) s' post) :
    Meets env guard (put q >>= f) s post :=
  meets_bind.mpr (meets_put.mpr ⟨within, rest⟩)

attribute [irreducible] Meets

end

section

/-- One fixed answer to every question. -/
def replies (world : (q : Q) → A q) : Dialogue Q A α → α
  | .done a => a
  | .ask q next => replies world (next (world q))

def transcript (world : (q : Q) → A q) : Dialogue Q A α → List (Exchange A)
  | .done _ => []
  | .ask q next => ⟨q, world q⟩ :: transcript world (next (world q))

variable {world : (q : Q) → A q}

theorem runs_transcript (p : Dialogue Q A α) : Runs p (transcript world p) (replies world p) := by
  induction p with
  | done a => exact .done a
  | ask q next ih => exact .ask (ih (world q))

theorem answer_of_mem_transcript {p : Dialogue Q A α} {e : Exchange A}
    (member : e ∈ transcript world p) : e.2 = world e.1 := by
  induction p with
  | done a => cases member
  | ask q next ih =>
    rcases List.mem_cons.mp member with rfl | member
    · rfl
    · exact ih (world q) member

@[simp] theorem replies_pure (a : α) : replies world (pure a : Dialogue Q A α) = a := rfl

@[simp] theorem replies_put (q : Q) : replies world (put q : Dialogue Q A (A q)) = world q := rfl

@[simp] theorem replies_bind (p : Dialogue Q A α) (f : α → Dialogue Q A β) :
    replies world (p >>= f) = replies world (f (replies world p)) := by
  show replies world (p.bind f) = _
  induction p with
  | done a => rfl
  | ask q next ih => exact ih (world q)

end

section

def repliesFrom (schedule : Nat → (q : Q) → A q) : Nat → Dialogue Q A α → α
  | _, .done a => a
  | n, .ask q next => repliesFrom schedule (n + 1) (next (schedule n q))

def transcriptFrom (schedule : Nat → (q : Q) → A q) : Nat → Dialogue Q A α → List (Exchange A)
  | _, .done _ => []
  | n, .ask q next => ⟨q, schedule n q⟩ :: transcriptFrom schedule (n + 1) (next (schedule n q))

theorem runs_transcriptFrom (schedule : Nat → (q : Q) → A q) (n : Nat) (p : Dialogue Q A α) :
    Runs p (transcriptFrom schedule n p) (repliesFrom schedule n p) := by
  induction p generalizing n with
  | done a => exact .done a
  | ask q next ih => exact .ask (ih (schedule n q) (n + 1))

theorem answer_of_mem_transcriptFrom {schedule : Nat → (q : Q) → A q} {n : Nat} {p : Dialogue Q A α}
    {e : Exchange A} (member : e ∈ transcriptFrom schedule n p) : ∃ m, e.2 = schedule m e.1 := by
  induction p generalizing n with
  | done a => cases member
  | ask q next ih =>
    rcases List.mem_cons.mp member with rfl | member
    · exact ⟨n, rfl⟩
    · exact ih (schedule n q) member

end

end Dialogue

end MinotaurSubnet.Library
