import MinotaurSubnet.Validator.ApprovalBinding

/-! # Replayed proposals

`verify_and_score_proposal` under any interleaving of its calls. The entry a call finds under its
key says nothing of the body it was filed for, nor of what the evaluation got from outside, and
entries come and go by key alone.
-/

namespace MinotaurSubnet.Validator

open Library Python Consensus Shared

structure Completed where
  call : Evaluation
  outside : Outside

structure Replays where
  guard : GuardState
  clock : ℚ
  begun : Nat → ℚ := fun _ => 0
  /-- The evaluations that gave a verdict, the last one first. -/
  completed : List Completed := []

def Replays.lastCompleted (s : Replays) (key : CacheId × CacheId) : Option Completed :=
  s.completed.find? (·.call.key = key)

inductive ReplayEvent where
  | wait (now : ℚ)
  /-- `verify_and_score_proposal` is called. -/
  | receive (body : Value) (signing : Signing)
  | finish (ref : Nat) (outside : Outside) (signing : Signing)
  | cancel (ref : Nat)

namespace Replays

section

variable (host : Host) (handler : Handler) (node : OrderNode)

def verdict (done : Completed) : Except PyError Verdict :=
  verdictOf (verifyAndScoreProposalInner host done.outside done.call.body handler.scoreThreshold)

def receive (s : Replays) (body : Value) (signing : Signing) : Replays × GuardOutput :=
  let (guard, out) := Handler.guardProposal host node s.guard body s.clock signing
  ({ s with guard, begun := Function.update s.begun s.guard.calls s.clock }, out)

def finish (s : Replays) (ref : Nat) (call : Evaluation) (outside : Outside) (signing : Signing) :
    Replays × GuardOutput :=
  let (guard, out) := handler.finish host node s.guard ref call outside s.clock signing
  match verdict host handler ⟨call, outside⟩ with
  | .ok _ => ({ s with guard, completed := ⟨call, outside⟩ :: s.completed }, out)
  | .error _ => ({ s with guard }, out)

def step (s : Replays) : ReplayEvent → Replays × GuardOutput
  | .wait now => ({ s with clock := now }, .idle)
  | .receive body signing => s.receive host node body signing
  | .finish ref outside signing =>
    match s.guard.running.get? ref with
    | none => (s, .idle)
    | some call => s.finish host handler node ref call outside signing
  | .cancel ref =>
    let (guard, out) := handler.step host s.guard (.cancel ref)
    ({ s with guard }, out)

def raised (s : Replays) : ReplayEvent → Option (Nat × Evaluation)
  | .finish ref outside _ => do
      let call ← s.guard.running.get? ref
      match verdict host handler ⟨call, outside⟩ with
      | .ok _ => none
      | .error _ => (ref, call)
  | .cancel ref => do return (ref, ← s.guard.running.get? ref)
  | _ => none

def reserved (s : Replays) (body : Value) : Option Verdict :=
  match Handler.proposalKey body with
  | .ok (some key) => (Handler.liveEntry s.guard key s.clock).join
  | _ => none

def Happens (s : Replays) : ReplayEvent → Prop
  | .wait now => s.clock ≤ now
  | _ => True

/-- In flight, and begun less than `_SEEN_PROPOSALS_TTL` ago. -/
def Young (s : Replays) (ref : Nat) (call : Evaluation) : Prop :=
  s.guard.running.get? ref = some call ∧ s.clock < s.begun ref + seenProposalsTtl

/-- The simulator answers, if the re-scoring block comes to ask it. -/
def Simulated (done : Completed) : Prop :=
  ∀ p loaded deployment plan, parseProposal done.call.body = .ok p →
    loadedFor done.outside p = .ok loaded → isLoaded loaded p = true →
    done.outside.scoringDeployment p.appId p.chainId = .ok deployment → parsePlan p = .ok plan →
    done.outside.resimulate = true → simulatePlan host done.outside p plan deployment ≠ none

/-- What a step may not do. -/
structure Sound (s : Replays) (e : ReplayEvent) : Prop where
  /-- The eviction takes no entry under whose key a young evaluation is in flight. -/
  spared : ∀ body signing, e = .receive body signing → ∀ key,
    Handler.proposalKey body = .ok (some key) → Handler.liveEntry s.guard key s.clock = none →
    ∀ ref call, (s.receive host node body signing).1.Young ref call →
      ((evictExpired s.clock (s.guard.seen.set key (s.clock, none))).get? call.key).isSome
  /-- No evaluation raises while a young one of the same key is in flight. -/
  alone : ∀ ref call, s.raised host handler e = some (ref, call) →
    ∀ ref' call', s.Young ref' call' → call'.key = call.key → ref' = ref
  /-- A proposal that meets a verdict has the fields of the one last evaluated under its key, for
      which the simulator was there. -/
  same : ∀ body signing, e = .receive body signing → ∀ key, Handler.proposalKey body = .ok (some key) →
    (s.reserved body).isSome → ∀ done, s.lastCompleted key = some done →
      parseProposal body = parseProposal done.call.body ∧ Simulated host done

end

section

variable {host : Host} {outside : Outside}

def Unavailable (stop : Stop) : Prop :=
  ∃ r, stop = .rejected r ∧ r.reasonCode = .simulatorUnavailable

/-- It does not end for want of a simulator. -/
def Answered {α : Type} (x : Except Stop α) : Prop := ∀ stop, x = .error stop → ¬ Unavailable stop

theorem answered_ok {α : Type} (a : α) : Answered (.ok a) := fun _ ended => by cases ended

theorem answered_raised {α : Type} (e : PyError) : Answered (.error (.raised e) : Except Stop α) := by
  rintro stop ended ⟨r, rfl, -⟩
  cases ended

theorem answered_rejected {α : Type} {r} (other : r.reasonCode ≠ .simulatorUnavailable) :
    Answered (.error (.rejected r) : Except Stop α) := by
  rintro stop ended ⟨r', rfl, code⟩
  obtain rfl := Stop.rejected.inj (Except.error.inj ended)
  exact other code

theorem answered_raises {α : Type} (x : Except PyError α) : Answered (raises x) := by
  cases x with
  | ok a => exact answered_ok a
  | error e => exact answered_raised e

theorem answered_bind {α β : Type} {x} {f : α → Except Stop β} (first : Answered x)
    (rest : ∀ a, x = .ok a → Answered (f a)) : Answered (x >>= f) := by
  cases x with
  | ok a => exact rest a rfl
  | error stop =>
    intro stop' ended
    cases ended
    exact first stop rfl

theorem answered_orReject {c r} (other : r.reasonCode ≠ .simulatorUnavailable) :
    Answered (orReject c r) := by
  cases c with
  | true => exact answered_ok ()
  | false => exact answered_rejected other

theorem answered_registryGate (p : Proposal) : Answered (registryGate outside p) := by
  unfold registryGate
  split
  · refine answered_bind (answered_raises _) fun deployment _ => ?_
    split
    · exact answered_ok ()
    · exact answered_bind (answered_raises _) fun _ _ => answered_orReject (by simp)
  · exact answered_ok ()

theorem answered_gates (p : Proposal) (r : Rescored) (scoreThreshold : PyFloat) :
    Answered (gates outside p r scoreThreshold) := by
  refine answered_bind (answered_raises _) fun metadata _ => ?_
  refine answered_bind (answered_raises _) fun verified _ => ?_
  split
  · exact answered_rejected (by simp)
  · refine answered_bind (answered_raises _) fun dest _ => ?_
    refine answered_bind (answered_raises _) fun contract _ => ?_
    refine answered_bind ?escrow fun _ _ => ?_
    case escrow =>
      unfold escrowGate
      split
      · refine answered_bind (answered_raises _) fun escrowed _ => ?_
        split
        · exact answered_ok ()
        · exact answered_rejected (by simp)
      · exact answered_ok ()
    refine answered_bind ?fee fun _ _ => ?_
    case fee =>
      refine answered_bind (answered_raises _) fun locked _ => ?_
      split
      · exact answered_ok ()
      · split
        · refine answered_bind (answered_raises _) fun gasPrice _ => ?_
          refine answered_bind (answered_raises _) fun gasUsed _ => ?_
          split
          · exact answered_ok ()
          · exact answered_rejected (by simp)
        · exact answered_ok ()
    refine answered_bind ?onChain fun _ _ => ?_
    case onChain =>
      unfold onChainGate
      split
      · exact answered_ok ()
      · refine answered_bind (answered_raises _) fun threshold _ => ?_
        refine answered_bind (answered_orReject (by simp)) fun _ _ => ?_
        split
        · exact answered_ok ()
        · exact answered_bind (answered_raises _) fun below _ => answered_orReject (by simp)
    refine answered_bind ?score fun _ _ => answered_ok _
    unfold scoreGate
    split
    · exact answered_raised _
    · exact answered_bind (answered_orReject (by simp)) fun _ _ => answered_ok _

theorem answered_keepOn (kept : Rescored) (e : PyError) : Answered (keepOn kept e) := by
  unfold keepOn
  split
  · exact answered_raised e
  · exact answered_ok kept

theorem answered_assignScore (kept : Rescored) (score : Except PyError PyFloat) :
    Answered (assignScore kept score) := by
  cases score with
  | ok score => exact answered_ok _
  | error e => exact answered_keepOn kept e

theorem answered_rescore {loaded : List String} {p : Proposal}
    (simulated : isLoaded loaded p = true → ∀ deployment plan,
      outside.scoringDeployment p.appId p.chainId = .ok deployment → parsePlan p = .ok plan →
      outside.resimulate = true → simulatePlan host outside p plan deployment ≠ none) :
    Answered (rescore host outside loaded p) := by
  unfold rescore
  split
  · next entered =>
    split
    · exact answered_keepOn _ _
    · next deployment plan read =>
      obtain ⟨_, deployed, built⟩ := bind_eq_ok.mp read
      obtain ⟨plan', parsed, same⟩ := bind_eq_ok.mp built
      obtain ⟨rfl, rfl⟩ := Prod.mk.inj (pure_eq_ok.mp same)
      unfold rescorePlan
      split
      · next resimulates =>
        split
        · next down => exact absurd down (simulated entered _ _ deployed parsed resimulates)
        · exact answered_assignScore _ _
      · split
        · exact answered_keepOn _ _
        · exact answered_assignScore _ _
  · exact answered_ok _

theorem answered_inner {handler : Handler} {done : Completed} (simulated : Simulated host done) :
    Answered (verifyAndScoreProposalInner host done.outside done.call.body handler.scoreThreshold) := by
  unfold verifyAndScoreProposalInner
  refine answered_bind (answered_raises _) fun p parsed => ?_
  refine answered_bind (answered_registryGate p) fun _ _ => ?_
  refine answered_bind (answered_raises _) fun loaded listed => ?_
  refine answered_bind (answered_rescore fun entered deployment plan => ?_) fun r _ => answered_gates p r _
  exact simulated p loaded deployment plan (raises_eq_ok.mp parsed) (raises_eq_ok.mp listed) entered

end

section

variable {host : Host} {handler : Handler} {node : OrderNode} {s : Replays}

variable (host handler) in
/-- What holds between the steps. -/
structure Guarded (s : Replays) : Prop where
  known : ∀ ref call, s.guard.running.get? ref = some call → ref < s.guard.calls ∧ s.begun ref ≤ s.clock
  /-- Evaluations of one key begin a whole time to live apart. -/
  apart : ∀ ref ref' call call', s.guard.running.get? ref = some call →
    s.guard.running.get? ref' = some call' → call.key = call'.key → ref < ref' →
    s.begun ref + seenProposalsTtl ≤ s.begun ref'
  /-- A young evaluation has an entry that is as young. -/
  held : ∀ ref call, s.Young ref call →
    ∃ seenAt cached, s.guard.seen.get? call.key = some (seenAt, cached) ∧ s.begun ref ≤ seenAt
  /-- A verdict is the last one its key was given. -/
  filed : ∀ key seenAt given, s.guard.seen.get? key = some (seenAt, some given) →
    ∃ done, s.lastCompleted key = some done ∧ verdict host handler done = .ok given

theorem liveEntry_of_young {key now seenAt cached guard}
    (found : guard.seen.get? key = some (seenAt, cached))
    (young : now - seenAt < seenProposalsTtl) : Handler.liveEntry guard key now = some cached := by
  simp [Handler.liveEntry, found, young]

variable {call : Evaluation}

variable {ref : Nat}

theorem running_beginEvaluation {guard body key now}
    (running : (Handler.beginEvaluation guard body key now).running.get? ref = some call) :
    ref = guard.calls ∧ call = ⟨body, key⟩ ∨ guard.running.get? ref = some call := by
  simp only [Handler.beginEvaluation, Dict.get?_set] at running
  split at running
  · next same => exact .inl ⟨same, (Option.some.inj running).symm⟩
  · exact .inr running

theorem Guarded.begun_eq (guarded : Guarded host handler s)
    (running : s.guard.running.get? ref = some call) :
    Function.update s.begun s.guard.calls s.clock ref = s.begun ref :=
  Function.update_of_ne (guarded.known ref call running).1.ne _ _

theorem Guarded.begins {body : Value} {key : CacheId × CacheId} (guarded : Guarded host handler s)
    (unseen : Handler.liveEntry s.guard key s.clock = none)
    (spared : ∀ ref call,
      { s with
        guard := Handler.beginEvaluation s.guard body key s.clock
        begun := Function.update s.begun s.guard.calls s.clock }.Young ref call →
      ((evictExpired s.clock (s.guard.seen.set key (s.clock, none))).get? call.key).isSome) :
    Guarded host handler { s with
      guard := Handler.beginEvaluation s.guard body key s.clock
      begun := Function.update s.begun s.guard.calls s.clock } := by
  constructor
  · intro ref call running
    rcases running_beginEvaluation running with ⟨rfl, -⟩ | running
    · exact ⟨Nat.lt_succ_self _, (Function.update_self _ _ _).le⟩
    · obtain ⟨old, since⟩ := guarded.known ref call running
      exact ⟨old.trans (Nat.lt_succ_self _), (guarded.begun_eq running).trans_le since⟩
  · intro ref ref' call call' running running' same earlier
    rcases running_beginEvaluation running with ⟨rfl, -⟩ | old
    · rcases running_beginEvaluation running' with ⟨rfl, -⟩ | running'
      · exact absurd earlier (lt_irrefl _)
      · exact absurd earlier (guarded.known ref' call' running').1.not_gt
    · dsimp only
      rw [guarded.begun_eq old]
      rcases running_beginEvaluation running' with ⟨rfl, rfl⟩ | running'
      · -- A younger one would have kept its entry alive.
        rw [Function.update_self]
        by_contra young
        obtain ⟨seenAt, cached, found, since⟩ := guarded.held ref call ⟨old, not_le.mp young⟩
        rw [same] at found
        rw [liveEntry_of_young found (by linarith)] at unseen
        cases unseen
      · rw [guarded.begun_eq running']
        exact guarded.apart ref ref' call call' old running' same earlier
  · intro ref call young
    obtain ⟨⟨seenAt, cached⟩, kept⟩ := Option.isSome_iff_exists.mp (spared ref call young)
    refine ⟨seenAt, cached, kept, ?_⟩
    have found := evictExpired_some kept
    rw [Dict.get?_set] at found
    obtain ⟨running, since⟩ := young
    have known : Function.update s.begun s.guard.calls s.clock ref ≤ s.clock := by
      rcases running_beginEvaluation running with ⟨rfl, -⟩ | running
      · exact (Function.update_self _ _ _).le
      · exact (guarded.begun_eq running).trans_le (guarded.known ref call running).2
    split at found
    · obtain ⟨rfl, -⟩ := Prod.mk.inj (Option.some.inj found)
      exact known
    · next other =>
      rcases running_beginEvaluation running with ⟨rfl, rfl⟩ | running
      · exact absurd rfl other
      · dsimp only at since ⊢
        rw [guarded.begun_eq running] at since ⊢
        obtain ⟨seenAt', cached', found', later⟩ := guarded.held ref call ⟨running, since⟩
        rw [found'] at found
        obtain ⟨rfl, -⟩ := Prod.mk.inj (Option.some.inj found)
        exact later
  · intro key' seenAt given kept
    have found := evictExpired_some kept
    rw [Dict.get?_set] at found
    split at found
    · cases found
    · exact guarded.filed key' seenAt given found

theorem Guarded.untouched (guarded : Guarded host handler s) :
    Guarded host handler { s with begun := Function.update s.begun s.guard.calls s.clock } := by
  constructor
  · intro ref call running
    obtain ⟨old, since⟩ := guarded.known ref call running
    exact ⟨old, (guarded.begun_eq running).trans_le since⟩
  · intro ref ref' call call' running running' same earlier
    dsimp only
    rw [guarded.begun_eq running, guarded.begun_eq running']
    exact guarded.apart ref ref' call call' running running' same earlier
  · intro ref call young
    obtain ⟨running, since⟩ := young
    dsimp only at since ⊢
    rw [guarded.begun_eq running] at since ⊢
    exact guarded.held ref call ⟨running, since⟩
  · exact guarded.filed

/-- An evaluation ends: its key gets an entry of now, or loses its entry. -/
theorem Guarded.ends {seen : SeenProposals} {completed : List Completed}
    (guarded : Guarded host handler s)
    (others : ∀ key, key ≠ call.key → seen.get? key = s.guard.seen.get? key)
    (own : (∃ cached, seen.get? call.key = some (s.clock, cached)) ∨ ∀ ref' call', s.Young ref' call' →
      call'.key = call.key → ref' = ref)
    (filed : ∀ key seenAt given, seen.get? key = some (seenAt, some given) →
      ∃ done, completed.find? (·.call.key = key) = some done ∧ verdict host handler done = .ok given) :
    Guarded host handler { s with
      guard := { s.guard with seen, running := s.guard.running.erase ref }, completed } := by
  constructor
  · exact fun ref' call' running => guarded.known ref' call' (Dict.get?_erase_some running)
  · intro ref₁ ref₂ call₁ call₂ running₁ running₂
    exact guarded.apart ref₁ ref₂ call₁ call₂ (Dict.get?_erase_some running₁)
      (Dict.get?_erase_some running₂)
  · rintro ref' call' ⟨running, since⟩
    have young : s.Young ref' call' := ⟨Dict.get?_erase_some running, since⟩
    by_cases same : call'.key = call.key
    · rcases own with ⟨cached, found⟩ | alone
      · exact ⟨s.clock, cached, same ▸ found, (guarded.known ref' call' young.1).2⟩
      · obtain rfl := alone ref' call' young same
        simp [Dict.get?_erase] at running
    · obtain ⟨seenAt, cached, found, later⟩ := guarded.held ref' call' young
      exact ⟨seenAt, cached, (others _ same).trans found, later⟩
  · exact filed

theorem Guarded.drops (guarded : Guarded host handler s)
    (alone : ∀ ref' call', s.Young ref' call' → call'.key = call.key → ref' = ref) :
    Guarded host handler { s with guard := { s.guard with
      seen := s.guard.seen.erase call.key, running := s.guard.running.erase ref } } :=
  guarded.ends (fun key other => by rw [Dict.get?_erase, if_neg other]) (.inr alone)
    fun key seenAt given kept => guarded.filed key seenAt given (Dict.get?_erase_some kept)

theorem Guarded.files {outside given} (guarded : Guarded host handler s)
    (judged : verdict host handler ⟨call, outside⟩ = .ok given) :
    Guarded host handler { s with
      guard := { s.guard with
        seen := s.guard.seen.set call.key (s.clock, some given), running := s.guard.running.erase ref }
      completed := ⟨call, outside⟩ :: s.completed } := by
  refine guarded.ends (fun key other => Dict.get?_set_ne _ _ other) (.inl ⟨_, Dict.get?_set_self _ _ _⟩) ?_
  intro key seenAt given' found
  rw [Dict.get?_set] at found
  split at found
  · next same =>
    obtain ⟨-, isGiven⟩ := Prod.mk.inj (Option.some.inj found)
    cases isGiven
    exact ⟨⟨call, outside⟩, by simp [same], judged⟩
  · next other =>
    obtain ⟨done, last, judged'⟩ := guarded.filed key seenAt given' found
    exact ⟨done, by rwa [List.find?_cons_of_neg (by simpa using Ne.symm other)], judged'⟩

theorem receive_guard (s : Replays) (body : Value) (signing : Signing) :
    (s.receive host node body signing).1.guard = s.guard ∨
      ∃ key, Handler.proposalKey body = .ok (some key) ∧ Handler.liveEntry s.guard key s.clock = none ∧
        (s.receive host node body signing).1.guard = Handler.beginEvaluation s.guard body key s.clock := by
  have guard : (s.receive host node body signing).1.guard =
      (Handler.guardProposal host node s.guard body s.clock signing).1 := rfl
  rw [guard, Handler.guardProposal]
  split
  · exact .inl rfl
  · exact .inl rfl
  · next key keyed =>
    split
    · next unseen => exact .inr ⟨_, keyed, unseen, rfl⟩
    all_goals exact .inl rfl

theorem finish_error {outside signing e}
    (judged : verdict host handler ⟨call, outside⟩ = .error e) :
    (s.finish host handler node ref call outside signing).1 = { s with guard := { s.guard with
      seen := s.guard.seen.erase call.key, running := s.guard.running.erase ref } } := by
  have raised : verdictOf (verifyAndScoreProposalInner host outside call.body handler.scoreThreshold) =
    .error e := judged
  simp only [finish, judged, Handler.finish, raised]

theorem finish_ok {outside signing given}
    (judged : verdict host handler ⟨call, outside⟩ = .ok given) :
    (s.finish host handler node ref call outside signing).1 = { s with
      guard := { s.guard with
        seen := s.guard.seen.set call.key (s.clock, some given), running := s.guard.running.erase ref }
      completed := ⟨call, outside⟩ :: s.completed } := by
  have filed : verdictOf (verifyAndScoreProposalInner host outside call.body handler.scoreThreshold) =
    .ok given := judged
  simp only [finish, judged, Handler.finish, filed]

theorem Guarded.step (guarded : Guarded host handler s) {e} (happens : s.Happens e)
    (sound : Sound host handler node s e) :
    Guarded host handler (s.step host handler node e).1 := by
  cases e with
  | wait now =>
    constructor
    · exact fun ref call running =>
        ⟨(guarded.known ref call running).1, (guarded.known ref call running).2.trans happens⟩
    · exact guarded.apart
    · exact fun ref call young => guarded.held ref call ⟨young.1, lt_of_le_of_lt happens young.2⟩
    · exact guarded.filed
  | receive body signing =>
    have shape : (s.receive host node body signing).1 = { s with
        guard := (s.receive host node body signing).1.guard
        begun := Function.update s.begun s.guard.calls s.clock } := rfl
    rcases @receive_guard host node s body signing with same | ⟨key, keyed, unseen, begun⟩
    · rw [Replays.step, shape, same]
      exact guarded.untouched
    · have spared := sound.spared body signing rfl key keyed unseen
      rw [shape, begun] at spared
      rw [Replays.step, shape, begun]
      exact guarded.begins unseen spared
  | finish ref outside signing =>
    cases running : s.guard.running.get? ref with
    | none =>
      rw [Replays.step, running]
      exact guarded
    | some call =>
      simp only [Replays.step, running]
      cases judged : verdict host handler ⟨call, outside⟩ with
      | error e =>
        rw [finish_error judged]
        exact guarded.drops (sound.alone ref call (by simp [raised, running, judged]))
      | ok given =>
        rw [finish_ok judged]
        exact guarded.files judged
  | cancel ref =>
    cases running : s.guard.running.get? ref with
    | none =>
      simp only [Replays.step, Handler.step, running]
      exact guarded
    | some call =>
      simp only [Replays.step, Handler.step, running]
      exact guarded.drops (sound.alone ref call (by simp [raised, running]))

theorem raised_unmarked {e} (raises : s.raised host handler e = some (ref, call)) :
    (s.step host handler node e).1.guard.seen.get? call.key = none := by
  cases e with
  | wait | receive => cases raises
  | finish ref' outside signing =>
    obtain ⟨call', running, ended⟩ := Option.bind_eq_some_iff.mp raises
    cases judged : verdict host handler ⟨call', outside⟩ with
    | ok given => simp [judged] at ended
    | error e =>
      simp only [judged, Option.some.injEq, Prod.mk.injEq] at ended
      obtain ⟨rfl, rfl⟩ := ended
      simp only [Replays.step, running]
      rw [finish_error judged]
      simp [Dict.get?_erase]
  | cancel ref' =>
    obtain ⟨call', running, ended⟩ := Option.bind_eq_some_iff.mp raises
    obtain ⟨rfl, rfl⟩ := Prod.mk.inj (Option.some.inj ended)
    simp [Replays.step, Handler.step, running, Dict.get?_erase]

theorem Guarded.reserved (guarded : Guarded host handler s) {body given}
    (answered : s.reserved body = some given) : ∃ key, Handler.proposalKey body = .ok (some key) ∧
      ∃ done, s.lastCompleted key = some done ∧ verdict host handler done = .ok given := by
  unfold Replays.reserved at answered
  split at answered
  · next key keyed =>
    have live := Option.join_eq_some_iff.mp answered
    unfold Handler.liveEntry at live
    split at live
    · next seenAt cached found =>
      split at live
      · cases live
        exact ⟨key, keyed, guarded.filed key seenAt given found⟩
      · cases live
    · cases live
  · cases answered

def Idle (s : Replays) : Prop := s.guard.seen = .empty ∧ s.guard.running = .empty

theorem guarded_of_idle (idle : s.Idle) : Guarded host handler s := by
  obtain ⟨unseen, quiet⟩ := idle
  constructor
  · simp [quiet]
  · simp [quiet]
  · rintro ref call ⟨running, -⟩
    simp [quiet] at running
  · simp [unseen]

/-- In every run whose steps are sound, evaluations of one key begin a time to live apart, those that
    raise leave no entry, and a proposal is answered with the verdict that its own fields were last
    given, which is no rejection for want of a simulator. -/
theorem replay_guard_sound {start : Replays} (idle : start.Idle)
    (reached : Reaches (Replays.step host handler node)
      (fun s e => s.Happens e ∧ Sound host handler node s e) start s) :
    (∀ ref ref' call call', s.guard.running.get? ref = some call →
      s.guard.running.get? ref' = some call' → call.key = call'.key → ref < ref' →
      s.begun ref + seenProposalsTtl ≤ s.begun ref') ∧
    (∀ e ref call, s.raised host handler e = some (ref, call) →
      (s.step host handler node e).1.guard.seen.get? call.key = none) ∧
    ∀ body signing given, Sound host handler node s (.receive body signing) →
      s.reserved body = some given → ∃ key done, Handler.proposalKey body = .ok (some key) ∧
        s.lastCompleted key = some done ∧ verdict host handler done = .ok given ∧
        parseProposal body = parseProposal done.call.body ∧
        ∀ r, given = .rejected r → r.reasonCode ≠ .simulatorUnavailable := by
  have guarded : Guarded host handler s := reached.invariant (Guarded host handler) (guarded_of_idle idle)
    fun s e held allowed => held.step allowed.1 allowed.2
  refine ⟨guarded.apart, fun e ref call => raised_unmarked, ?_⟩
  intro body signing given sound answered
  obtain ⟨key, keyed, done, last, judged⟩ := guarded.reserved answered
  obtain ⟨same, simulated⟩ :=
    sound.same body signing rfl key keyed (Option.isSome_of_eq_some answered) done last
  refine ⟨key, done, keyed, last, judged, same, ?_⟩
  rintro r rfl unavailable
  have evaluated : verifyAndScoreProposalInner host done.outside done.call.body handler.scoreThreshold =
      .error (.rejected r) := by
    unfold verdict verdictOf at judged
    split at judged
    · cases judged
    · next ended =>
      obtain rfl := Verdict.rejected.inj (Except.ok.inj judged)
      exact ended
    · cases judged
  exact answered_inner simulated _ evaluated ⟨r, rfl, unavailable⟩

end

end Replays

def Verdict.code? : Verdict → Option RejectionCode
  | .approved _ => none
  | .rejected r => some r.reasonCode

def smallNode : OrderNode where
  validatorId := "0x0b"
  privateKey := "0b"
  meanScore := fun _ => .fin 0

def replayStep : Replays → ReplayEvent → Replays × GuardOutput :=
  Replays.step spellingHost smallFollower smallNode

def emptyProposal : Value := proposalBody "0x" emptyPlan []

abbrev asked : ReplayEvent := .receive emptyProposal ⟨5000, 0⟩

abbrev evaluatedIn (outside : Outside) : ReplayEvent := .finish 0 outside ⟨5000, 0⟩

def idleReplays : Replays where
  guard := idleGuard
  clock := 0

/-- The proposal is evaluated at time 0, and ten seconds go by. -/
def evaluatedOnce (outside : Outside) : Replays :=
  runEvents replayStep idleReplays [asked, evaluatedIn outside, .wait 10]

/-- The simulator was away for the first evaluation, and ten seconds later it would approve. -/
theorem unavailable_simulator_replayed :
    idleReplays.Idle ∧
      ((evaluatedOnce { wellOutside ["app"] with simulate := none }).reserved emptyProposal).bind
        Verdict.code? = some .simulatorUnavailable ∧
      (verifyAndScoreProposalInner spellingHost (wellOutside ["app"]) emptyProposal
        smallFollower.scoreThreshold).toOption.isSome :=
  ⟨⟨rfl, rfl⟩, by decide +kernel, by decide +kernel⟩

theorem replay_guard_sound_again :
    ∃ given key done, (evaluatedOnce (wellOutside ["app"])).reserved emptyProposal = some given ∧
      (evaluatedOnce (wellOutside ["app"])).lastCompleted key = some done ∧
      Replays.verdict spellingHost smallFollower done = .ok given := by
  let s := evaluatedOnce (wellOutside ["app"])
  have keyed : Handler.proposalKey emptyProposal = .ok (some (.str "o", .str "0x")) := rfl
  let begun := (replayStep idleReplays asked).1
  let ended := (replayStep begun (evaluatedIn (wellOutside ["app"]))).1
  let done : Completed := ⟨⟨emptyProposal, (.str "o", .str "0x")⟩, wellOutside ["app"]⟩
  obtain ⟨given, judged⟩ : ∃ given, Replays.verdict spellingHost smallFollower done = .ok given := by
    have approves : (Replays.verdict spellingHost smallFollower done).toOption.isSome := by decide +kernel
    cases judged : Replays.verdict spellingHost smallFollower done with
    | ok given => exact ⟨given, rfl⟩
    | error e =>
      rw [judged] at approves
      cases approves
  have evaluated : s.completed = [done] := by
    have step : ended =
      (begun.finish spellingHost smallFollower smallNode 0 done.call done.outside ⟨5000, 0⟩).1 := rfl
    change ended.completed = _
    rw [step, Replays.finish_ok judged]
    rfl
  have first : Replays.Sound spellingHost smallFollower smallNode idleReplays asked := by
    constructor
    · rintro body signing ⟨⟩ key same unseen ref call ⟨running, -⟩
      cases keyed.symm.trans same
      rcases Replays.running_beginEvaluation running with ⟨-, rfl⟩ | running
      · decide +kernel
      · simp [idleReplays, idleGuard] at running
    · rintro ref call ⟨⟩
    · rintro body signing ⟨⟩ key - again
      exact absurd again (by decide +kernel)
  have second : Replays.Sound spellingHost smallFollower smallNode begun (evaluatedIn (wellOutside ["app"])) := by
    constructor
    · rintro body signing ⟨⟩
    · intro ref call raises
      have kept : (begun.raised spellingHost smallFollower
        (evaluatedIn (wellOutside ["app"]))).isNone := by decide +kernel
      rw [raises] at kept
      cases kept
    · rintro body signing ⟨⟩
  have third : Replays.Sound spellingHost smallFollower smallNode s asked := by
    constructor
    · rintro body signing ⟨⟩ key same unseen
      cases keyed.symm.trans same
      have live : (Handler.liveEntry s.guard (.str "o", .str "0x") s.clock).isSome := by decide +kernel
      rw [unseen] at live
      cases live
    · rintro ref call ⟨⟩
    · rintro body signing ⟨⟩ key same - last read
      cases keyed.symm.trans same
      rw [Replays.lastCompleted, evaluated] at read
      cases read
      refine ⟨rfl, ?_⟩
      rintro p loaded deployment plan parsed - - ⟨⟩ built -
      have simulated : (parseProposal emptyProposal).toOption.any (fun p => (parsePlan p).toOption.any fun
        plan => (simulatePlan spellingHost (wellOutside ["app"]) p plan (some "0xc0")).isSome) := by
        decide +kernel
      rw [parsed, Except.toOption, Option.any_some, built, Except.toOption, Option.any_some] at simulated
      exact Option.isSome_iff_ne_none.mp simulated
  have waited : Replays.Sound spellingHost smallFollower smallNode ended (.wait 10) := by
    constructor
    · rintro body signing ⟨⟩
    · rintro ref call ⟨⟩
    · rintro body signing ⟨⟩
  have run : Reaches replayStep (fun s e => s.Happens e ∧
      Replays.Sound spellingHost smallFollower smallNode s e) idleReplays s := by
    refine Reaches.next (ReplayEvent.wait 10) ?_ ⟨(by decide +kernel : ended.clock ≤ 10), waited⟩
    refine Reaches.next (evaluatedIn (wellOutside ["app"])) ?_ ⟨trivial, second⟩
    exact Reaches.next asked .refl ⟨trivial, first⟩
  have answered : (s.reserved emptyProposal).isSome := by decide +kernel
  obtain ⟨given, answered⟩ := Option.isSome_iff_exists.mp answered
  obtain ⟨-, -, served⟩ := Replays.replay_guard_sound ⟨rfl, rfl⟩ run
  obtain ⟨key, done, -, last, judged, -⟩ := served emptyProposal ⟨5000, 0⟩ given third answered
  exact ⟨given, key, done, answered, last, judged⟩

end MinotaurSubnet.Validator
