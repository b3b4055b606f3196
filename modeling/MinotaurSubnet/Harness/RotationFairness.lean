import MinotaurSubnet.Harness.Rotation
import MinotaurSubnet.Library.LeastRecent

/-! # Starvation freedom of the rotation

With `M` contending miners and `N` slots everybody is to be benched at least once every
`⌈M/N⌉` rounds. Sound rounds serve the least recently served first, and the promise follows
from the library rule. A round is not sound when the ledger is not read or written, when a
candidate has no hotkey to mark, or when, without a resolver, one hotkey can hold two seats.
-/

namespace MinotaurSubnet.Harness

open Library

def actorsOf (actorOf : Option (String → String)) (subs : List Candidate) : Finset String :=
  (subs.map fun s => actorKey actorOf s.hotkey).toFinset

theorem mem_actorsOf {actorOf : Option (String → String)} {subs : List Candidate} {a : String} :
    a ∈ actorsOf actorOf subs ↔ ∃ s ∈ subs, actorKey actorOf s.hotkey = a := by
  simp [actorsOf]

section

variable {τ : Type} [LinearOrder τ] [Zero τ]

/-- The first component of the sort key: smaller is benched longer ago. -/
def seniority (actorOf : Option (String → String)) (ledger : Dict String τ) (actor : String) : τ :=
  match actorOf with
  | none => (ledger.get? actor).getD 0
  | some resolve => ((actorLastSelected ledger resolve).get? actor).getD 0

def marksOf (resolve : String → String) (entries : List (String × τ)) (a : String) : Set τ :=
  {v | ∃ hotkey, (hotkey, v) ∈ entries ∧ actorKey (some resolve) hotkey = a}

omit [LinearOrder τ] [Zero τ] in
theorem marksOf_append (resolve : String → String) (entries : List (String × τ))
    (hotkey : String) (v : τ) (a : String) :
    marksOf resolve (entries ++ [(hotkey, v)]) a =
      if actorKey (some resolve) hotkey = a then insert v (marksOf resolve entries a)
      else marksOf resolve entries a := by
  ext w
  simp [marksOf]
  split
  · next mine =>
    simp
    constructor
    · intro known
      obtain ⟨other, entry, actor⟩ := known
      cases entry with
      | inl old => exact Or.inr ⟨other, old, actor⟩
      | inr new => exact Or.inl new.2
    · intro known
      cases known with
      | inl same => exact ⟨hotkey, Or.inr ⟨rfl, same⟩, mine⟩
      | inr known =>
        obtain ⟨other, entry, actor⟩ := known
        exact ⟨other, Or.inl entry, actor⟩
  · next foreign =>
    simp
    constructor
    · intro known
      obtain ⟨other, entry, actor⟩ := known
      cases entry with
      | inl old => exact ⟨other, old, actor⟩
      | inr new => exact absurd (new.1 ▸ actor) foreign
    · intro known
      obtain ⟨other, entry, actor⟩ := known
      exact ⟨other, Or.inl entry, actor⟩

theorem isGreatest_seniority (resolve : String → String) (ledger : Dict String τ) (a : String) :
    IsGreatest (insert 0 (marksOf resolve ledger.entries a))
      (seniority (some resolve) ledger a) := by
  simp only [seniority, actorLastSelected]
  generalize ledger.entries = entries
  induction entries using List.reverseRecOn with
  | nil => simp [marksOf, IsGreatest, upperBounds]
  | append_singleton entries entry ih =>
    obtain ⟨hotkey, v⟩ := entry
    rw [List.foldl_append, List.foldl_cons, List.foldl_nil, marksOf_append]
    generalize entries.foldl _ Dict.empty = out at ih ⊢
    by_cases mine : actorKey (some resolve) hotkey = a
    · rw [if_pos mine, mine, Set.insert_comm]
      have value : ((if (out.get? a).getD 0 < v then out.set a v else out).get? a).getD 0 =
          max v ((out.get? a).getD 0) := by
        split
        · next later =>
          rw [Dict.get?_set_self, max_eq_left later.le]
          rfl
        · next earlier => rw [max_eq_right (not_lt.mp earlier)]
      simp only [value]
      exact ih.insert v
    · rw [if_neg mine]
      have kept : (if (out.get? (actorKey (some resolve) hotkey)).getD 0 < v then
          out.set (actorKey (some resolve) hotkey) v else out).get? a = out.get? a := by
        split
        · exact Dict.get?_set_ne out v (Ne.symm mine)
        · rfl
      simp only [kept]
      exact ih

omit [LinearOrder τ] [Zero τ] in
theorem mem_marksOf {resolve : String → String} {ledger : Dict String τ} {a v} :
    v ∈ marksOf resolve ledger.entries a ↔
      ∃ hotkey, ledger.get? hotkey = some v ∧ actorKey (some resolve) hotkey = a := by
  simp [marksOf, Dict.get?_eq_some]

/-- All marks of the ledger are older than `t`. -/
def MarkedBefore (ledger : Dict String τ) (t : τ) : Prop :=
  ∀ hotkey v, ledger.get? hotkey = some v → v < t

variable {actorOf : Option (String → String)}

theorem seniority_lt {ledger : Dict String τ} {t : τ} (marked : MarkedBefore ledger t)
    (positive : 0 < t) (a : String) :
    seniority actorOf ledger a < t := by
  cases actorOf with
  | none =>
    simp only [seniority]
    cases found : ledger.get? a with
    | none => exact positive
    | some v => exact marked a v found
  | some resolve =>
    cases (isGreatest_seniority resolve ledger a).1 with
    | inl never => exact never ▸ positive
    | inr known =>
      obtain ⟨hotkey, found, _⟩ := mem_marksOf.mp known
      exact marked hotkey _ found

omit [LinearOrder τ] [Zero τ] in
theorem get?_markSelected (file : Dict String τ) (hotkeys : List String) (ts : τ) (hotkey : String) :
    (markSelected .sound file hotkeys ts).get? hotkey =
      if hotkey ≠ "" ∧ hotkey ∈ hotkeys then some ts else file.get? hotkey := by
  simp only [markSelected, LedgerAccess.sound, load, if_true]
  induction hotkeys using List.reverseRecOn with
  | nil => simp
  | append_singleton hotkeys last ih =>
    rw [List.foldl_append, List.foldl_cons, List.foldl_nil]
    by_cases nameless : last = ""
    · rw [if_pos nameless, ih]
      by_cases empty : hotkey = ""
      · simp [empty]
      · have other : hotkey ≠ last := fun same => empty (same.trans nameless)
        simp [other]
    · rw [if_neg nameless, Dict.get?_set, ih]
      by_cases same : hotkey = last
      · subst same
        simp [nameless]
      · simp [same]

variable {hotkeys : List String} {file : Dict String τ}

omit [Zero τ] in
theorem markedBefore_markSelected {ts t : τ} (marked : MarkedBefore file t) (before : ts < t) :
    MarkedBefore (markSelected .sound file hotkeys ts) t := by
  intro hotkey v found
  rw [get?_markSelected] at found
  split at found
  · exact Option.some.inj found ▸ before
  · exact marked hotkey v found

theorem seniority_marked {ts : τ} {hotkey : String} (marked : MarkedBefore file ts)
    (positive : 0 < ts) (member : hotkey ∈ hotkeys) (named : hotkey ≠ "") :
    seniority actorOf (markSelected .sound file hotkeys ts) (actorKey actorOf hotkey) = ts := by
  have mark : (markSelected .sound file hotkeys ts).get? hotkey = some ts := by
    rw [get?_markSelected, if_pos ⟨named, member⟩]
  cases actorOf with
  | none =>
    simp only [seniority, actorKey]
    rw [mark]
    rfl
  | some resolve =>
    apply (isGreatest_seniority resolve _ _).unique
    constructor
    · exact Set.mem_insert_of_mem _ (mem_marksOf.mpr ⟨hotkey, mark, rfl⟩)
    · intro w known
      cases known with
      | inl never => exact never ▸ positive.le
      | inr known =>
        obtain ⟨other, found, _⟩ := mem_marksOf.mp known
        rw [get?_markSelected] at found
        split at found
        · exact (Option.some.inj found).ge
        · exact (marked other w found).le

theorem seniority_unmarked {ts : τ} {a : String}
    (others : ∀ hotkey ∈ hotkeys, actorKey actorOf hotkey ≠ a) :
    seniority actorOf (markSelected .sound file hotkeys ts) a = seniority actorOf file a := by
  have same : ∀ hotkey, actorKey actorOf hotkey = a →
      (markSelected .sound file hotkeys ts).get? hotkey = file.get? hotkey := by
    intro hotkey actor
    rw [get?_markSelected, if_neg]
    intro selected
    exact others hotkey selected.2 actor
  cases actorOf with
  | none =>
    simp only [seniority]
    rw [same a rfl]
  | some resolve =>
    apply (isGreatest_seniority resolve _ a).unique
    have entries : marksOf resolve (markSelected .sound file hotkeys ts).entries a =
        marksOf resolve file.entries a := by
      ext v
      rw [mem_marksOf, mem_marksOf]
      constructor
      · intro known
        obtain ⟨hotkey, found, actor⟩ := known
        exact ⟨hotkey, same hotkey actor ▸ found, actor⟩
      · intro known
        obtain ⟨hotkey, found, actor⟩ := known
        exact ⟨hotkey, (same hotkey actor).trans found, actor⟩
    rw [entries]
    exact isGreatest_seniority resolve file a

end

section

variable {τ : Type} [LinearOrder τ] [Zero τ]

/-- `seated` holds a seat for each of `slots` actors, or for all of them, and nobody who
    is left out of `selected` is more senior than they are. -/
structure FairSlate (actorOf : Option (String → String)) (ledger : Dict String τ) (slots : ℕ)
    (candidates selected : List Candidate) (seated : Finset String) : Prop where
  entered : ∀ s ∈ selected, s ∈ candidates
  contend : seated ⊆ actorsOf actorOf candidates
  served : seated ⊆ actorsOf actorOf selected
  filled : min slots (actorsOf actorOf candidates).card ≤ seated.card
  senior_first : ∀ x ∈ seated, ∀ y ∈ actorsOf actorOf candidates,
    y ∉ actorsOf actorOf selected → seniority actorOf ledger x ≤ seniority actorOf ledger y

theorem actorsOf_perm (actorOf : Option (String → String)) {subs subs'} (perm : subs.Perm subs') :
    actorsOf actorOf subs = actorsOf actorOf subs' :=
  List.toFinset_eq_of_perm _ _ (perm.map _)

variable {ledger : Dict String τ}

theorem fairSlate_take {slots} {ordered : List Candidate}
    (sorted : ordered.Pairwise fun s t => seniority none ledger s.hotkey ≤ seniority none ledger t.hotkey)
    (single : (ordered.map Candidate.hotkey).Nodup ∨ ordered.length ≤ slots) :
    FairSlate none ledger slots ordered (ordered.take slots) (actorsOf none (ordered.take slots)) where
  entered := fun _ taken => List.mem_of_mem_take taken
  contend := by
    intro a member
    obtain ⟨s, taken, actor⟩ := mem_actorsOf.mp member
    exact mem_actorsOf.mpr ⟨s, List.mem_of_mem_take taken, actor⟩
  served := Finset.Subset.refl _
  filled := by
    cases single with
    | inl distinct =>
      have taken : ((ordered.take slots).map Candidate.hotkey).Nodup :=
        distinct.sublist ((List.take_sublist slots ordered).map _)
      have cards := List.toFinset_card_of_nodup taken
      have all := List.toFinset_card_of_nodup distinct
      simp only [List.length_map, List.length_take] at cards all
      change min slots (ordered.map Candidate.hotkey).toFinset.card ≤
        ((ordered.take slots).map Candidate.hotkey).toFinset.card
      omega
    | inr fits =>
      rw [List.take_of_length_le fits]
      exact Nat.min_le_right _ _
  senior_first := by
    intro x seat y contends out
    obtain ⟨s, taken, rfl⟩ := mem_actorsOf.mp seat
    obtain ⟨t, candidate, rfl⟩ := mem_actorsOf.mp contends
    have skipped : t ∈ ordered.drop slots := by
      rw [← List.take_append_drop slots ordered] at candidate
      cases List.mem_append.mp candidate with
      | inl also => exact absurd (mem_actorsOf.mpr ⟨t, also, rfl⟩) out
      | inr skipped => exact skipped
    rw [← List.take_append_drop slots ordered] at sorted
    exact (List.pairwise_append.mp sorted).2.2 s taken t skipped

/-- What the first pass maintains over the candidates seen so far. -/
structure Slate.Fair (resolve : String → String) (ledger : Dict String τ) (slots : ℕ)
    (seen : List Candidate) (slate : Slate) : Prop where
  actors : slate.seatedActors = slate.selected.map fun s => actorKey (some resolve) s.hotkey
  distinct : slate.seatedActors.Nodup
  selected_seen : ∀ s ∈ slate.selected, s ∈ seen
  overflow_seen : ∀ s ∈ slate.overflow, s ∈ seen
  -- only a full slate turns an actor away, and everybody on it came before
  full : ∀ t ∈ seen, actorKey (some resolve) t.hotkey ∉ slate.seatedActors →
    slots ≤ slate.selected.length ∧ ∀ a ∈ slate.seatedActors,
      seniority (some resolve) ledger a ≤
        seniority (some resolve) ledger (actorKey (some resolve) t.hotkey)

variable {resolve : String → String}

theorem Slate.Fair.offer {slots : ℕ} {seen : List Candidate} {slate : Slate} {sub : Candidate}
    (fair : slate.Fair resolve ledger slots seen)
    (after : ∀ s ∈ seen, seniority (some resolve) ledger (actorKey (some resolve) s.hotkey) ≤
      seniority (some resolve) ledger (actorKey (some resolve) sub.hotkey)) :
    (slate.offer resolve slots sub).Fair resolve ledger slots (seen ++ [sub]) := by
  unfold Slate.offer
  by_cases seat : slate.selected.length < slots ∧
      actorKey (some resolve) sub.hotkey ∉ slate.seatedActors
  · rw [if_pos seat]
    constructor
    · simp [fair.actors]
    · simpa only [List.concat_eq_append] using fair.distinct.concat seat.2
    · intro s member
      cases List.mem_append.mp member with
      | inl old => exact List.mem_append_left _ (fair.selected_seen s old)
      | inr new => exact List.mem_append_right _ new
    · exact fun s member => List.mem_append_left _ (fair.overflow_seen s member)
    · intro t member unseated
      simp only [List.mem_append, List.mem_singleton, not_or] at member unseated
      cases member with
      | inl old =>
        have filled := (fair.full t old unseated.1).1
        omega
      | inr new => exact absurd (new ▸ rfl) unseated.2
  · rw [if_neg seat]
    constructor
    · exact fair.actors
    · exact fair.distinct
    · exact fun s member => List.mem_append_left _ (fair.selected_seen s member)
    · intro s member
      cases List.mem_append.mp member with
      | inl old => exact List.mem_append_left _ (fair.overflow_seen s old)
      | inr new => exact List.mem_append_right _ new
    · intro t member unseated
      cases List.mem_append.mp member with
      | inl old => exact fair.full t old unseated
      | inr new =>
        obtain rfl := List.mem_singleton.mp new
        constructor
        · by_contra room
          exact seat ⟨Nat.lt_of_not_le room, unseated⟩
        · intro a seated
          rw [fair.actors] at seated
          obtain ⟨s, chosen, rfl⟩ := List.mem_map.mp seated
          exact after s (fair.selected_seen s chosen)

theorem Slate.Fair.pass (slots : ℕ) {ordered : List Candidate} (sorted : ordered.Pairwise fun s t =>
      seniority (some resolve) ledger (actorKey (some resolve) s.hotkey) ≤
        seniority (some resolve) ledger (actorKey (some resolve) t.hotkey)) :
    (ordered.foldl (Slate.offer resolve slots) Slate.empty).Fair resolve ledger slots ordered := by
  induction ordered using List.reverseRecOn with
  | nil => exact ⟨rfl, List.nodup_nil, by simp [Slate.empty], by simp [Slate.empty], by simp⟩
  | append_singleton ordered sub ih =>
    rw [List.foldl_append, List.foldl_cons, List.foldl_nil]
    have split := List.pairwise_append.mp sorted
    exact (ih split.1).offer fun s member => split.2.2 s member sub (List.mem_singleton_self sub)

theorem fillSeats_spec (slots : ℕ) (selected overflow : List Candidate) :
    (∀ s ∈ selected, s ∈ (fillSeats slots selected overflow).1) ∧
      ∀ s ∈ (fillSeats slots selected overflow).1, s ∈ selected ∨ s ∈ overflow := by
  induction overflow generalizing selected with
  | nil => exact ⟨fun _ member => member, fun _ member => Or.inl member⟩
  | cons sub rest ih =>
    unfold fillSeats
    split
    · have step := ih (selected ++ [sub])
      constructor
      · exact fun s member => step.1 s (List.mem_append_left _ member)
      · intro s member
        cases step.2 s member with
        | inl early =>
          cases List.mem_append.mp early with
          | inl old => exact Or.inl old
          | inr new => exact Or.inr (List.mem_cons.mpr (Or.inl (List.mem_singleton.mp new)))
        | inr late => exact Or.inr (List.mem_cons_of_mem _ late)
    · exact ⟨fun _ member => member, fun _ member => Or.inl member⟩

theorem Slate.Fair.fairSlate {slots ordered} {slate : Slate}
    (fair : slate.Fair resolve ledger slots ordered) :
    FairSlate (some resolve) ledger slots ordered
      (fillSeats slots slate.selected slate.overflow).1 slate.seatedActors.toFinset where
  entered := by
    intro s chosen
    cases (fillSeats_spec slots _ _).2 s chosen with
    | inl first => exact fair.selected_seen s first
    | inr second => exact fair.overflow_seen s second
  contend := by
    intro a member
    rw [fair.actors] at member
    obtain ⟨s, chosen, actor⟩ := List.mem_map.mp (List.mem_toFinset.mp member)
    exact mem_actorsOf.mpr ⟨s, fair.selected_seen s chosen, actor⟩
  served := by
    intro a member
    rw [fair.actors] at member
    obtain ⟨s, chosen, actor⟩ := List.mem_map.mp (List.mem_toFinset.mp member)
    exact mem_actorsOf.mpr ⟨s, (fillSeats_spec slots _ _).1 s chosen, actor⟩
  filled := by
    have card := List.toFinset_card_of_nodup fair.distinct
    have length : slate.seatedActors.length = slate.selected.length := by
      rw [fair.actors, List.length_map]
    by_cases room : slots ≤ slate.selected.length
    · omega
    · -- with room left every actor got a seat
      have everyone : actorsOf (some resolve) ordered ⊆ slate.seatedActors.toFinset := by
        intro a member
        obtain ⟨t, seen, rfl⟩ := mem_actorsOf.mp member
        rw [List.mem_toFinset]
        by_contra unseated
        exact room (fair.full t seen unseated).1
      exact (Nat.min_le_right _ _).trans (Finset.card_le_card everyone)
  senior_first := by
    intro x seat y contends out
    obtain ⟨t, seen, rfl⟩ := mem_actorsOf.mp contends
    have unseated : actorKey (some resolve) t.hotkey ∉ slate.seatedActors := by
      intro seated
      rw [fair.actors] at seated
      obtain ⟨s, chosen, actor⟩ := List.mem_map.mp seated
      exact out (mem_actorsOf.mpr ⟨s, (fillSeats_spec slots _ _).1 s chosen, actor⟩)
    exact (fair.full t seen unseated).2 x (List.mem_toFinset.mp seat)

theorem FairSlate.of_perm {actorOf : Option (String → String)} {slots}
    {ordered candidates selected : List Candidate} {seated} (perm : ordered.Perm candidates)
    (fair : FairSlate actorOf ledger slots ordered selected seated) :
    FairSlate actorOf ledger slots candidates selected seated := by
  have actors := actorsOf_perm actorOf perm
  constructor
  · exact fun s chosen => perm.mem_iff.mp (fair.entered s chosen)
  · exact actors ▸ fair.contend
  · exact fair.served
  · exact actors ▸ fair.filled
  · exact actors ▸ fair.senior_first

/-- Every slate is fair, unless without a resolver one hotkey contends twice for scarce
    seats. -/
theorem selectRotationSlate_fair (sha256Hex : String → String) {candidates : List Candidate}
    {slots : Int} (ledger : Dict String τ) (roundId : String) {actorOf : Option (String → String)}
    (single : actorOf = none →
      (candidates.map Candidate.hotkey).Nodup ∨ candidates.length ≤ slots.toNat) :
    ∃ seated, FairSlate actorOf ledger slots.toNat candidates
      (selectRotationSlate sha256Hex candidates slots ledger roundId actorOf).1 seated := by
  cases actorOf with
  | none =>
    have perm := sortedBy_perm
      (fun s : Candidate => rotationSortKey sha256Hex s.hotkey roundId ledger) candidates
    have sorted := (pairwise_sortedBy
      (fun s : Candidate => rotationSortKey sha256Hex s.hotkey roundId ledger) candidates).imp
      fun order => Prod.Lex.monotone_fst _ _ order
    have once := single rfl
    rw [← (perm.map Candidate.hotkey).nodup_iff, ← perm.length_eq] at once
    exact ⟨_, (fairSlate_take sorted once).of_perm perm⟩
  | some resolve =>
    have perm := sortedBy_perm (fun s : Candidate => actorRotationSortKey sha256Hex s.hotkey
      roundId (actorLastSelected ledger resolve) resolve) candidates
    have sorted := (pairwise_sortedBy (fun s : Candidate => actorRotationSortKey sha256Hex s.hotkey
      roundId (actorLastSelected ledger resolve) resolve) candidates).imp
      fun order => Prod.Lex.monotone_fst _ _ order
    exact ⟨_, (Slate.Fair.pass slots.toNat sorted).fairSlate.of_perm perm⟩

end

section

/-- A contest over the first `horizon` rounds: the same actors contend in each of them, and
    the selection times increase and lie after zero and after every mark of the initial
    ledger. -/
structure RotationContest (τ : Type) [LinearOrder τ] [Zero τ] where
  actorOf : Option (String → String)
  initial : Dict String τ
  contenders : Finset String
  slots : Int
  someSlot : 1 ≤ slots
  rounds : ℕ → RotationRound τ
  horizon : ℕ
  contend : ∀ i < horizon, actorsOf actorOf (rounds i).candidates = contenders
  increasing : ∀ i, i + 1 < horizon → (rounds i).time < (rounds (i + 1)).time
  positive : ∀ i < horizon, 0 < (rounds i).time
  later : ∀ i < horizon, MarkedBefore initial (rounds i).time

/-- The ledger is read and replaced, every candidate has a hotkey to mark, and without a
    resolver no hotkey has two candidates unless there is a slot for every candidate. -/
structure RotationRound.Sound {τ : Type} (slots : Int) (actorOf : Option (String → String))
    (round : RotationRound τ) : Prop where
  access : round.access = .sound
  named : ∀ s ∈ round.candidates, s.hotkey ≠ ""
  single : actorOf = none → (round.candidates.map Candidate.hotkey).Nodup ∨
    round.candidates.length ≤ slots.toNat

variable {τ : Type} [LinearOrder τ] [Zero τ]

namespace RotationContest

def ledger (contest : RotationContest τ) (sha256Hex : String → String) (i : ℕ) : Dict String τ :=
  ledgerBefore sha256Hex contest.slots contest.actorOf contest.rounds contest.initial i

def selected (contest : RotationContest τ) (sha256Hex : String → String) (i : ℕ) :
    List Candidate :=
  (contest.rounds i).selected sha256Hex contest.slots contest.actorOf (contest.ledger sha256Hex i)

/-- In any `⌈M/N⌉` consecutive rounds every contending actor has a submission selected. -/
def StarvationFree (contest : RotationContest τ) (sha256Hex : String → String) : Prop :=
  ∀ k, k + contest.contenders.card ⌈/⌉ contest.slots.toNat ≤ contest.horizon →
    ∀ actor ∈ contest.contenders,
      ∃ i, k ≤ i ∧ i < k + contest.contenders.card ⌈/⌉ contest.slots.toNat ∧
        ∃ s ∈ contest.selected sha256Hex i, actorKey contest.actorOf s.hotkey = actor

def Sound (contest : RotationContest τ) : Prop :=
  ∀ i < contest.horizon, (contest.rounds i).Sound contest.slots contest.actorOf

variable {contest : RotationContest τ} {sha256Hex : String → String} {i : ℕ}

theorem Sound.ledger_succ (sound : contest.Sound) (within : i < contest.horizon) :
    contest.ledger sha256Hex (i + 1) = markSelected .sound (contest.ledger sha256Hex i)
      ((contest.selected sha256Hex i).map Candidate.hotkey) (contest.rounds i).time := by
  have access := (sound i within).access
  change (contest.rounds i).apply sha256Hex contest.slots contest.actorOf
    (contest.ledger sha256Hex i) = _
  unfold RotationRound.apply
  rw [access]
  change (if contest.selected sha256Hex i = [] then _ else _) = _
  split
  · next nobody =>
    rw [nobody]
    rfl
  · rfl

theorem Sound.markedBefore (sound : contest.Sound) :
    ∀ i < contest.horizon, MarkedBefore (contest.ledger sha256Hex i) (contest.rounds i).time := by
  intro i
  induction i with
  | zero => exact contest.later 0
  | succ i ih =>
    intro within
    rw [sound.ledger_succ (by omega)]
    apply markedBefore_markSelected
    · intro hotkey v found
      exact (ih (by omega) hotkey v found).trans (contest.increasing i within)
    · exact contest.increasing i within

theorem Sound.fair (sound : contest.Sound) (sha256Hex : String → String) (within : i < contest.horizon) :
    ∃ seated, FairSlate contest.actorOf (contest.ledger sha256Hex i) contest.slots.toNat
      (contest.rounds i).candidates (contest.selected sha256Hex i) seated := by
  have loaded : load (contest.rounds i).access.slateLoads (contest.ledger sha256Hex i) =
      contest.ledger sha256Hex i := by
    rw [(sound i within).access]
    rfl
  have fair := selectRotationSlate_fair sha256Hex (contest.ledger sha256Hex i)
    (contest.rounds i).roundId (sound i within).single
  simp only [selected, RotationRound.selected, loaded]
  exact fair

noncomputable def Sound.leastRecent (sound : contest.Sound) (sha256Hex : String → String) :
    LeastRecent (τ := τ) contest.contenders contest.slots.toNat contest.horizon where
  served i := actorsOf contest.actorOf (contest.selected sha256Hex i)
  seated i :=
    if within : i < contest.horizon then (sound.fair sha256Hex within).choose else ∅
  seniority i := seniority contest.actorOf (contest.ledger sha256Hex i)
  time i := (contest.rounds i).time
  seated_contend i within := by
    have fair := (sound.fair sha256Hex within).choose_spec
    rw [dif_pos within, ← contest.contend i within]
    exact fair.contend
  seated_served i within := by
    rw [dif_pos within]
    exact (sound.fair sha256Hex within).choose_spec.served
  filled i within := by
    have fair := (sound.fair sha256Hex within).choose_spec
    rw [dif_pos within, ← contest.contend i within]
    exact fair.filled
  senior_first i within := by
    have fair := (sound.fair sha256Hex within).choose_spec
    rw [dif_pos within, ← contest.contend i within]
    exact fair.senior_first
  served_junior i within x _ served := by
    obtain ⟨s, chosen, rfl⟩ := mem_actorsOf.mp served
    rw [sound.ledger_succ within]
    apply seniority_marked (sound.markedBefore i within) (contest.positive i within)
    · exact List.mem_map_of_mem chosen
    · obtain ⟨seated, fair⟩ := sound.fair sha256Hex within
      exact (sound i within).named s (fair.entered s chosen)
  unserved_keeps i within x _ unserved := by
    rw [sound.ledger_succ within]
    apply seniority_unmarked
    intro hotkey member actor
    obtain ⟨s, chosen, rfl⟩ := List.mem_map.mp member
    exact unserved (mem_actorsOf.mpr ⟨s, chosen, actor⟩)
  time_later i within x _ :=
    seniority_lt (sound.markedBefore i within) (contest.positive i within) x

end RotationContest

/-- Runs of sound rounds are starvation free. -/
theorem sound_rotation_is_starvation_free (sha256Hex : String → String)
    (contest : RotationContest τ) (sound : contest.Sound) : contest.StarvationFree sha256Hex := by
  intro k within actor contends
  have someSlot : 0 < contest.slots.toNat := by
    have positive := contest.someSlot
    omega
  obtain ⟨i, start, stop, served⟩ :=
    (sound.leastRecent sha256Hex).served_within someSlot contends k within
  exact ⟨i, start, stop, mem_actorsOf.mp served⟩

def contestDigests (text : String) : String :=
  match text with
  | "A:r1" => "f40e4ec9211fd949805a525019721d83c180600df767d483b124cd52e260d1cc"
  | "B:r1" => "9e7a1f0029d59fd05df1868e266fd6d5dcfadb9d5f21251470489346ef63cc4a"
  | "A:r2" => "ede5623287a1950344ab8c3ad959a5901d0de248c418e8a25d2e3e5e683a5b24"
  | "B:r2" => "32184665299c81ab509b2ec63582d910bb83fc5d5ee29d76870f6f166d443131"
  | _ => ""

def twoNewcomers : RotationContest ℕ where
  actorOf := none
  initial := Dict.empty
  contenders := {"A", "B"}
  slots := 1
  someSlot := by decide
  rounds i := ⟨if i = 0 then "r1" else "r2", [⟨"sub-1", "A"⟩, ⟨"sub-2", "B"⟩], 100 + i, .sound⟩
  horizon := 2
  contend _ _ := by simp [actorsOf, actorKey]
  increasing i _ := by
    change 100 + i < 100 + (i + 1)
    omega
  positive i _ := by
    change 0 < 100 + i
    omega
  later _ _ := fun _ _ found => by simp at found

theorem sound_rotation_is_starvation_free_two_newcomers :
    twoNewcomers.Sound ∧ twoNewcomers.StarvationFree contestDigests := by
  have sound : twoNewcomers.Sound := by
    intro i _
    exact ⟨rfl, by simp [twoNewcomers], fun _ => Or.inl (by simp [twoNewcomers])⟩
  exact ⟨sound, sound_rotation_is_starvation_free contestDigests twoNewcomers sound⟩

/-- Without a resolver: hotkey `A` was never benched and enters twice, `B` was benched once,
    and there are two slots. -/
def doubleEntry : RotationContest ℕ where
  actorOf := none
  initial := Dict.empty.set "B" 100
  contenders := {"A", "B"}
  slots := 2
  someSlot := by decide
  rounds _ := ⟨"r1", [⟨"sub-1", "A"⟩, ⟨"sub-2", "A"⟩, ⟨"sub-3", "B"⟩], 200, .sound⟩
  horizon := 1
  contend _ _ := by decide
  increasing _ within := by omega
  positive _ _ := by decide
  later _ _ := by
    intro hotkey v found
    rw [Dict.get?_set] at found
    split at found
    · cases found
      decide
    · simp at found

theorem rotation_starves_behind_a_double_entry :
    ¬ ∀ contest : RotationContest ℕ, contest.StarvationFree contestDigests := by
  intro free
  obtain ⟨i, _, stop, s, chosen, actor⟩ :=
    free doubleEntry 0 (by decide) "B" (by decide)
  have first : i = 0 := by
    have window : 0 + doubleEntry.contenders.card ⌈/⌉ doubleEntry.slots.toNat = 1 := by decide
    omega
  subst first
  have slate : doubleEntry.selected contestDigests 0 = [⟨"sub-1", "A"⟩, ⟨"sub-2", "A"⟩] := by
    decide +kernel
  rw [slate] at chosen
  simp only [List.mem_cons, List.not_mem_nil, or_false] at chosen
  cases chosen with
  | inl one => simp [one, doubleEntry, actorKey] at actor
  | inr two => simp [two, doubleEntry, actorKey] at actor

end

end MinotaurSubnet.Harness
