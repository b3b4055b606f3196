import Mathlib.Algebra.BigOperators.Group.List.Basic

/-! # Loops that may raise

A loop over a list whose body may raise is `List.foldlM` in `Except`. These are
its proof rules: peel one `bind`, read an accumulator that every pass changes by
an amount depending on the element alone, and finish when no pass raises.
-/

namespace MinotaurSubnet.Library

universe u v w

variable {ε : Type u} {α : Type v} {β δ : Type v} {γ : Type w}

variable {f : α → Except ε β} {x : Except ε α} {xs : List γ} {ys : List β}

theorem bind_eq_ok {b} :
    x >>= f = .ok b ↔ ∃ a, x = .ok a ∧ f a = .ok b := by
  cases x with
  | error e => simp [bind, Except.bind]
  | ok a => simp [bind, Except.bind]

theorem bind_ok {b} (done : x >>= f = .ok b) : ∃ a, f a = .ok b := by
  obtain ⟨a, -, done⟩ := bind_eq_ok.mp done
  exact ⟨a, done⟩

theorem pure_eq_ok {a b} : (pure a : Except ε α) = .ok b ↔ a = b := by
  simp [pure, Except.pure]

theorem map_eq_ok {g : α → β} {b} :
    x.map g = .ok b ↔ ∃ a, x = .ok a ∧ g a = b := by
  cases x <;> simp [Except.map]

theorem map_bind {g : β → δ} :
    (x >>= f).map g = x >>= fun a => (f a).map g := by
  cases x <;> rfl

theorem isOk_iff : x.isOk = true ↔ ∃ a, x = .ok a := by
  cases x with
  | error e => simp [Except.isOk, Except.toBool]
  | ok a => simp [Except.isOk, Except.toBool]

theorem toOption_eq_some {a} : x.toOption = some a ↔ x = .ok a := by
  cases x with
  | error e => simp [Except.toOption]
  | ok b => simp [Except.toOption]

/-- Continue when `c` holds, else raise `e`. -/
def ensure {ε : Type u} (c : Bool) (e : ε) : Except ε Unit := if c then .ok () else .error e

@[simp] theorem ensure_eq_ok {c : Bool} {e : ε} {u : Unit} : ensure c e = .ok u ↔ c = true := by
  cases c <;> simp [ensure]

theorem option_mapM_none_eq_ok {r} :
    (none : Option α).mapM f = .ok r ↔ r = none := by
  simp [pure, Except.pure, eq_comm]

theorem option_mapM_some_eq_ok {a r} :
    (some a).mapM f = .ok r ↔ ∃ b, f a = .ok b ∧ r = some b := by
  show (f a).map some = .ok r ↔ _
  cases f a with
  | error e => simp [Except.map]
  | ok b => simp [Except.map, eq_comm]

variable {step : β → γ → Except ε β}

/-- Loop rule: a relation that holds before the loop and that each completed
    pass extends holds of the elements consumed and the final accumulator. -/
theorem foldlM_invariant (P : List γ → β → Prop)
    (extend : ∀ before x acc acc', P before acc → step acc x = .ok acc' →
      P (before ++ [x]) acc') :
    ∀ (xs before : List γ) (acc result : β), P before acc →
      xs.foldlM step acc = .ok result → P (before ++ xs) result := by
  intro xs
  induction xs with
  | nil =>
    intro before acc result holds done
    obtain rfl := pure_eq_ok.mp done
    simpa using holds
  | cons x rest ih =>
    intro before acc result holds done
    obtain ⟨next, here, later⟩ := bind_eq_ok.mp (by simpa only [List.foldlM_cons] using done)
    have continued := ih (before ++ [x]) next result (extend before x acc next holds here) later
    simpa only [List.append_assoc, List.singleton_append] using continued

theorem foldlM_sum {M : Type*} [AddMonoid M] (field : β → M) (amount : γ → M)
    (each : ∀ acc x acc', step acc x = .ok acc' → field acc' = field acc + amount x) {acc result}
    (done : xs.foldlM step acc = .ok result) :
    field result = field acc + (xs.map amount).sum := by
  have total := foldlM_invariant (fun before r => field r = field acc + (before.map amount).sum)
    (by
      intro before x r r' sofar pass
      rw [each r x r' pass, sofar, List.map_append, List.sum_append, add_assoc]
      simp) xs [] acc result (by simp) done
  simpa using total

/-- A counter that each pass increases by one exactly on the elements satisfying
    `p` ends at their number. -/
theorem foldlM_count (field : β → Nat) (p : γ → Bool)
    (each : ∀ acc x acc', step acc x = .ok acc' → field acc' = field acc + (p x).toNat) {acc result}
    (done : xs.foldlM step acc = .ok result) :
    field result = field acc + xs.countP p := by
  have total := foldlM_invariant (fun before r => field r = field acc + before.countP p)
    (by
      intro before x r r' sofar pass
      rw [each r x r' pass, sofar, List.countP_append, List.countP_singleton, add_assoc]
      cases p x <;> rfl) xs [] acc result (by simp) done
  simpa using total

/-- A loop whose body never raises on its elements finishes. -/
theorem foldlM_finishes :
    ∀ (xs : List γ) (acc : β), (∀ acc, ∀ x ∈ xs, ∃ acc', step acc x = .ok acc') →
      ∃ result, xs.foldlM step acc = .ok result := by
  intro xs
  induction xs with
  | nil => exact fun acc _ => ⟨acc, rfl⟩
  | cons x rest ih =>
    intro acc runs
    obtain ⟨next, here⟩ := runs acc x List.mem_cons_self
    obtain ⟨result, later⟩ := ih next fun acc y member => runs acc y (List.mem_cons_of_mem x member)
    exact ⟨result, bind_eq_ok.mpr ⟨next, here, later⟩⟩

theorem foldlM_passed {acc result} (done : xs.foldlM step acc = .ok result) :
    ∀ x ∈ xs, ∃ a b, step a x = .ok b := by
  have whole := foldlM_invariant (fun before _ => ∀ x ∈ before, ∃ a b, step a x = .ok b)
    (by
      intro before x r r' sofar pass y member
      rcases List.mem_append.mp member with old | fresh
      · exact sofar y old
      · obtain rfl := List.mem_singleton.mp fresh
        exact ⟨r, r', pass⟩) xs [] acc result (by simp) done
  simpa using whole

/-- Two loops over one list: a relation of the accumulators that every pair of
    completed passes keeps relates the results. -/
theorem foldlM_related {step' : δ → γ → Except ε δ} (R : β → δ → Prop) :
    ∀ (xs : List γ) (acc result : β) (acc' result' : δ), R acc acc' →
      (∀ x ∈ xs, ∀ a a' b b', R a a' → step a x = .ok b → step' a' x = .ok b' → R b b') →
      xs.foldlM step acc = .ok result → xs.foldlM step' acc' = .ok result' → R result result' := by
  intro xs
  induction xs with
  | nil =>
    intro acc result acc' result' related _ done done'
    rwa [← pure_eq_ok.mp done, ← pure_eq_ok.mp done']
  | cons x rest ih =>
    intro acc result acc' result' related each done done'
    obtain ⟨next, here, later⟩ := bind_eq_ok.mp (by simpa only [List.foldlM_cons] using done)
    obtain ⟨next', here', later'⟩ := bind_eq_ok.mp (by simpa only [List.foldlM_cons] using done')
    exact ih next result next' result' (each x List.mem_cons_self acc acc' next next' related here here')
      (fun y member => each y (List.mem_cons_of_mem x member)) later later'

/-- Two loops over one list whose passes agree whenever both complete agree when
    both finish. -/
theorem foldlM_agree {step step' : β → γ → Except ε β} (xs : List γ) (acc result result' : β)
    (agree : ∀ acc, ∀ x ∈ xs, ∀ a b, step acc x = .ok a → step' acc x = .ok b → a = b)
    (done : xs.foldlM step acc = .ok result) (done' : xs.foldlM step' acc = .ok result') :
    result = result' := by
  refine foldlM_related Eq xs acc result acc result' rfl ?_ done done'
  rintro x member a _ b b' rfl here here'
  exact agree a x member b b' here here'

theorem mapM_eq_ok_self {f : α → Except ε α} {xs : List α} :
    xs.mapM f = .ok xs ↔ ∀ x ∈ xs, f x = .ok x := by
  induction xs with
  | nil => simp [pure, Except.pure]
  | cons x rest ih =>
    rw [List.mapM_cons, List.forall_mem_cons, ← ih]
    constructor
    · intro done
      obtain ⟨y, here, done⟩ := bind_eq_ok.mp done
      obtain ⟨ys, later, done⟩ := bind_eq_ok.mp done
      obtain ⟨rfl, rfl⟩ := List.cons.inj (pure_eq_ok.mp done)
      exact ⟨here, later⟩
    · rintro ⟨here, later⟩
      exact bind_eq_ok.mpr ⟨x, here, bind_eq_ok.mpr ⟨rest, later, rfl⟩⟩

theorem exists_mapM_eq_ok {f : α → Except ε β} {xs : List α} :
    (∃ ys, xs.mapM f = .ok ys) ↔ ∀ x ∈ xs, ∃ y, f x = .ok y := by
  induction xs with
  | nil => simp [pure, Except.pure]
  | cons x rest ih =>
    rw [List.mapM_cons, List.forall_mem_cons, ← ih]
    constructor
    · rintro ⟨_, done⟩
      obtain ⟨y, here, done⟩ := bind_eq_ok.mp done
      obtain ⟨ys, later, -⟩ := bind_eq_ok.mp done
      exact ⟨⟨y, here⟩, ys, later⟩
    · rintro ⟨⟨y, here⟩, ys, later⟩
      exact ⟨y :: ys, bind_eq_ok.mpr ⟨y, here, bind_eq_ok.mpr ⟨ys, later, rfl⟩⟩⟩

theorem mapM_toOption (f : α → Except ε β) (xs : List α) :
    (xs.mapM f).toOption = xs.mapM fun x => (f x).toOption := by
  induction xs with
  | nil => rfl
  | cons x rest ih =>
    rw [List.mapM_cons, List.mapM_cons, ← ih]
    cases f x with
    | error e => rfl
    | ok y => cases rest.mapM f <;> rfl

theorem mapM_eq_some_iff {f : γ → Option β} :
    xs.mapM f = some ys ↔ xs.map f = ys.map some := by
  induction xs generalizing ys with
  | nil => cases ys <;> simp
  | cons x rest ih =>
    rw [List.mapM_cons]
    cases here : f x with
    | none => cases ys <;> simp [here]
    | some y =>
      cases ys with
      | nil => cases rest.mapM f <;> simp
      | cons z zs =>
        have later := @ih zs
        rw [List.map_cons, List.map_cons, here, List.cons.injEq, ← later]
        cases rest.mapM f <;> simp

theorem mapM_eq_mapM_iff {α' : Type v} {f : α → Option β} {g : α' → Option β} {xs : List α}
    {ys : List α'} :
    xs.mapM f = ys.mapM g ↔ (xs.mapM f = none ∧ ys.mapM g = none) ∨ xs.map f = ys.map g := by
  constructor
  · intro same
    cases read : xs.mapM f with
    | none => exact .inl ⟨rfl, same.symm.trans read⟩
    | some values =>
      have here := mapM_eq_some_iff.mp read
      have there := mapM_eq_some_iff.mp (same.symm.trans read)
      exact .inr (here.trans there.symm)
  · rintro (⟨refused, refused'⟩ | places)
    · rw [refused, refused']
    · cases read : ys.mapM g with
      | none =>
        cases read' : xs.mapM f with
        | none => rfl
        | some values =>
          have here := mapM_eq_some_iff.mpr (places.symm.trans (mapM_eq_some_iff.mp read'))
          rw [read] at here
          cases here
      | some values => exact mapM_eq_some_iff.mpr (places.trans (mapM_eq_some_iff.mp read))

theorem mapM_eq_some_map {f : α → Option β} {g : α → β} {xs : List α}
    (each : ∀ x ∈ xs, f x = some (g x)) : xs.mapM f = some (xs.map g) := by
  rw [mapM_eq_some_iff, List.map_map]
  exact List.map_congr_left each

/-- The same for a body that answers nothing when it raises. -/
theorem mem_mapM_some {f : γ → Option β} (done : xs.mapM f = some ys) {y} (member : y ∈ ys) :
    ∃ x ∈ xs, f x = some y := by
  have inside : some y ∈ ys.map some := List.mem_map_of_mem member
  rw [← mapM_eq_some_iff.mp done] at inside
  exact List.mem_map.mp inside

theorem exists_mem_mapM_some {f : γ → Option β} (done : xs.mapM f = some ys) {x} (member : x ∈ xs) :
    ∃ y ∈ ys, f x = some y := by
  have inside : f x ∈ xs.map f := List.mem_map_of_mem member
  rw [mapM_eq_some_iff.mp done] at inside
  obtain ⟨y, listed, same⟩ := List.mem_map.mp inside
  exact ⟨y, listed, same.symm⟩

theorem mem_mapM_ok {xs : List α} (done : xs.mapM f = .ok ys) :
    (∀ x ∈ xs, ∃ y ∈ ys, f x = .ok y) ∧ ∀ y ∈ ys, ∃ x ∈ xs, f x = .ok y := by
  have found : (xs.mapM fun x => (f x).toOption) = some ys := by
    rw [← mapM_toOption, done]
    rfl
  constructor
  · intro x member
    obtain ⟨y, listed, ran⟩ := exists_mem_mapM_some found member
    exact ⟨y, listed, toOption_eq_some.mp ran⟩
  · intro y member
    obtain ⟨x, listed, ran⟩ := mem_mapM_some found member
    exact ⟨x, listed, toOption_eq_some.mp ran⟩

/-- A body whose every answer is reached in two steps. -/
theorem mapM_through {f : α → Option β} {g : α → Option δ} {h : δ → Option β}
    (each : ∀ x y, f x = some y → ∃ z, g x = some z ∧ h z = some y) {xs : List α}
    (done : xs.mapM f = some ys) : ∃ zs, xs.mapM g = some zs ∧ zs.mapM h = some ys := by
  induction xs generalizing ys with
  | nil => exact ⟨[], rfl, done⟩
  | cons x rest ih =>
    rw [List.mapM_cons] at done
    obtain ⟨y, here, done⟩ := Option.bind_eq_some_iff.mp done
    obtain ⟨tail, later, done⟩ := Option.bind_eq_some_iff.mp done
    obtain ⟨z, first, second⟩ := each x y here
    obtain ⟨zs, firsts, seconds⟩ := ih later
    refine ⟨z :: zs, ?_, ?_⟩
    · rw [List.mapM_cons, first, firsts]
      rfl
    · rw [List.mapM_cons, second, seconds]
      exact done

theorem mapM_keyed_snd {κ : Type v} {key : α → Except ε κ} {xs : List α} {keyed : List (κ × α)}
    (done : xs.mapM (fun x => return (← key x, x)) = .ok keyed) : keyed.map Prod.snd = xs := by
  induction xs generalizing keyed with
  | nil =>
    obtain rfl := pure_eq_ok.mp (by simpa only [List.mapM_nil] using done)
    rfl
  | cons x rest ih =>
    rw [List.mapM_cons] at done
    obtain ⟨pair, here, done⟩ := bind_eq_ok.mp done
    obtain ⟨k, -, paired⟩ := bind_eq_ok.mp here
    obtain rfl := pure_eq_ok.mp paired
    obtain ⟨tail, later, done⟩ := bind_eq_ok.mp done
    obtain rfl := pure_eq_ok.mp done
    rw [List.map_cons, ih later]

theorem foldlM_establishes {σ : Type*} {step : σ → γ → Option σ} (P : List γ → σ → Prop) {s}
    (start : P [] s)
    (keeps : ∀ done, ∀ x ∈ xs, ∀ s, P done s → ∃ s', step s x = some s' ∧ P (done ++ [x]) s') :
    ∃ s', xs.foldlM step s = some s' ∧ P xs s' := by
  suffices general : ∀ done rest s, (∀ x ∈ rest, x ∈ xs) → P done s →
      ∃ s', rest.foldlM step s = some s' ∧ P (done ++ rest) s' from
    general [] xs s (fun _ => id) start
  intro done rest
  induction rest generalizing done with
  | nil => exact fun s _ holds => ⟨s, rfl, by simpa using holds⟩
  | cons x rest ih =>
    intro s within holds
    obtain ⟨s', passed, holds'⟩ := keeps done x (within x List.mem_cons_self) s holds
    obtain ⟨final, finished, holds''⟩ :=
      ih (done ++ [x]) s' (fun y member => within y (List.mem_cons_of_mem x member)) holds'
    exact ⟨final, by simp [passed, finished], by simpa using holds''⟩

end MinotaurSubnet.Library
