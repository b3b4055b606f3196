import MinotaurSubnet.Harness.RotationFairness

/-! # How a slate splits its candidates

`select_rotation_slate` neither loses nor duplicates a submission, fills the seats it has,
keeps the skipped ones in order and gives no actor a second seat while another waits for a
first. With the identity resolver it is the legacy per-hotkey slate.
-/

namespace MinotaurSubnet.Harness

open Library

variable {τ : Type} [LinearOrder τ] [Zero τ]

def KeyLe (sha256Hex : String → String) (ledger : Dict String τ) (roundId : String)
    (actorOf : Option (String → String)) (s t : Candidate) : Prop :=
  match actorOf with
  | none => rotationSortKey sha256Hex s.hotkey roundId ledger ≤
      rotationSortKey sha256Hex t.hotkey roundId ledger
  | some resolve =>
    actorRotationSortKey sha256Hex s.hotkey roundId (actorLastSelected ledger resolve) resolve ≤
      actorRotationSortKey sha256Hex t.hotkey roundId (actorLastSelected ledger resolve) resolve

structure SplitsInOrder (before : Candidate → Candidate → Prop) (slots : Int)
    (candidates : List Candidate) (slate : List Candidate × List Candidate) : Prop where
  complete : (slate.1 ++ slate.2).Perm candidates
  seats : slate.1.length = min (max 0 slots).toNat candidates.length
  ordered : slate.2.Pairwise before

def OneSeatEach (resolve : String → String) (candidates selected : List Candidate) : Prop :=
  (selected.map fun s => actorKey (some resolve) s.hotkey).Nodup ∨
    ∀ t ∈ candidates, actorKey (some resolve) t.hotkey ∈
      selected.map fun s => actorKey (some resolve) s.hotkey

structure Slate.Splits (slots : ℕ) (seen : List Candidate) (slate : Slate) : Prop where
  complete : (slate.selected ++ slate.overflow).Perm seen
  room : slate.selected.length ≤ slots
  ordered : slate.overflow.Sublist seen

theorem Slate.Splits.offer {resolve : String → String} {slots seen} {slate : Slate}
    (sub : Candidate) (splits : slate.Splits slots seen) :
    (slate.offer resolve slots sub).Splits slots (seen ++ [sub]) := by
  unfold Slate.offer
  dsimp only
  split
  · next seat =>
    constructor
    · have moved : (slate.selected ++ [sub] ++ slate.overflow).Perm
          (slate.selected ++ slate.overflow ++ [sub]) := by
        rw [List.append_assoc, List.append_assoc]
        exact List.perm_append_comm.append_left slate.selected
      exact moved.trans (splits.complete.append_right [sub])
    · rw [List.length_append, List.length_singleton]
      omega
    · exact splits.ordered.trans (List.sublist_append_left seen [sub])
  · constructor
    · rw [← List.append_assoc]
      exact splits.complete.append_right [sub]
    · exact splits.room
    · exact splits.ordered.append (List.Sublist.refl [sub])

theorem Slate.Splits.pass (resolve : String → String) (slots : ℕ) (ordered : List Candidate) :
    (ordered.foldl (Slate.offer resolve slots) Slate.empty).Splits slots ordered := by
  induction ordered using List.reverseRecOn with
  | nil => exact ⟨.nil, Nat.zero_le _, .slnil⟩
  | append_singleton ordered sub ih =>
    rw [List.foldl_append, List.foldl_cons, List.foldl_nil]
    exact ih.offer sub

theorem fillSeats_eq (slots : ℕ) (selected overflow : List Candidate) :
    fillSeats slots selected overflow =
      (selected ++ overflow.take (slots - selected.length), overflow.drop (slots - selected.length)) := by
  induction overflow generalizing selected with
  | nil => simp [fillSeats]
  | cons sub rest ih =>
    unfold fillSeats
    split
    · next room =>
      rw [ih, List.length_append, List.length_singleton]
      obtain ⟨left, eq⟩ : ∃ left, slots - selected.length = left + 1 :=
        ⟨slots - selected.length - 1, by omega⟩
      have eq' : slots - (selected.length + 1) = left := by omega
      simp [eq, eq']
    · next full =>
      have none : slots - selected.length = 0 := by omega
      simp [none]

variable {ordered : List Candidate}

theorem pass_of_distinct {resolve : String → String} (slots : ℕ)
    (distinct : (ordered.map fun s => actorKey (some resolve) s.hotkey).Nodup) :
    ordered.foldl (Slate.offer resolve slots) Slate.empty =
      ⟨ordered.take slots, ordered.drop slots,
        (ordered.take slots).map fun s => actorKey (some resolve) s.hotkey⟩ := by
  induction ordered using List.reverseRecOn with
  | nil => simp [Slate.empty]
  | append_singleton ordered sub ih =>
    rw [List.map_append, List.nodup_append] at distinct
    obtain ⟨distinct, -, fresh⟩ := distinct
    rw [List.foldl_append, List.foldl_cons, List.foldl_nil, ih distinct]
    unfold Slate.offer
    dsimp only
    split
    · next seat =>
      have whole : ordered.length < slots := by
        rw [List.length_take] at seat
        omega
      simp [List.take_of_length_le whole.le, List.drop_of_length_le whole.le,
        List.take_of_length_le (show (ordered ++ [sub]).length ≤ slots by simp; omega),
        List.drop_of_length_le (show (ordered ++ [sub]).length ≤ slots by simp; omega)]
    · next full =>
      have fits : slots ≤ ordered.length := by
        by_contra short
        have whole : ordered.take slots = ordered := List.take_of_length_le (by omega)
        refine full ⟨by rw [whole]; omega, ?_⟩
        intro seated
        rw [whole] at seated
        exact fresh _ seated _ (by simp) rfl
      rw [List.take_append_of_le_length fits, List.drop_append_of_le_length fits]

variable (sha256Hex : String → String) (ledger : Dict String τ) (roundId : String)
  (candidates : List Candidate) (slots : Int)

theorem splitsInOrder_take {before : Candidate → Candidate → Prop} (perm : ordered.Perm candidates)
    (sorted : ordered.Pairwise before) :
    SplitsInOrder before slots candidates (ordered.take slots.toNat, ordered.drop slots.toNat) where
  complete := by
    rw [List.take_append_drop]
    exact perm
  seats := by
    rw [List.length_take, perm.length_eq]
    omega
  ordered := sorted.sublist (List.drop_sublist _ _)

theorem Slate.Splits.splitsInOrder {before : Candidate → Candidate → Prop} {slate : Slate}
    (splits : slate.Splits slots.toNat ordered) (perm : ordered.Perm candidates)
    (sorted : ordered.Pairwise before) :
    SplitsInOrder before slots candidates (fillSeats slots.toNat slate.selected slate.overflow) := by
  have total : slate.selected.length + slate.overflow.length = candidates.length := by
    rw [← List.length_append, (splits.complete.trans perm).length_eq]
  have room := splits.room
  rw [fillSeats_eq]
  constructor
  · rw [List.append_assoc, List.take_append_drop]
    exact splits.complete.trans perm
  · rw [List.length_append, List.length_take]
    omega
  · exact sorted.sublist ((List.drop_sublist _ _).trans splits.ordered)

theorem selectRotationSlate_splits (actorOf : Option (String → String)) :
    SplitsInOrder (KeyLe sha256Hex ledger roundId actorOf) slots candidates
      (selectRotationSlate sha256Hex candidates slots ledger roundId actorOf) := by
  cases actorOf with
  | none =>
    apply splitsInOrder_take
    · exact sortedBy_perm _ _
    · exact pairwise_sortedBy _ _
  | some resolve =>
    apply (Slate.Splits.pass resolve slots.toNat _).splitsInOrder
    · exact sortedBy_perm _ _
    · exact pairwise_sortedBy _ _

theorem selectRotationSlate_oneSeatEach (resolve : String → String) :
    OneSeatEach resolve candidates
      (selectRotationSlate sha256Hex candidates slots ledger roundId (some resolve)).1 := by
  unfold selectRotationSlate
  dsimp only
  have perm := sortedBy_perm (fun s : Candidate => actorRotationSortKey sha256Hex s.hotkey roundId
    (actorLastSelected ledger resolve) resolve) candidates
  have sorted := (pairwise_sortedBy (fun s : Candidate => actorRotationSortKey sha256Hex s.hotkey
    roundId (actorLastSelected ledger resolve) resolve) candidates).imp
      fun order => Prod.Lex.monotone_fst _ _ order
  have fair : Slate.Fair resolve ledger slots.toNat _ _ := Slate.Fair.pass slots.toNat sorted
  generalize List.foldl (Slate.offer resolve slots.toNat) Slate.empty _ = slate at fair ⊢
  rw [fillSeats_eq]
  by_cases full : slots.toNat ≤ slate.selected.length
  · left
    have none : slots.toNat - slate.selected.length = 0 := by omega
    rw [none, List.take_zero, List.append_nil, ← fair.actors]
    exact fair.distinct
  · -- a seat was left over, so every actor already has one
    right
    intro t contends
    have seated : actorKey (some resolve) t.hotkey ∈ slate.seatedActors := by
      by_contra unseated
      exact full (fair.full t (perm.mem_iff.mpr contends) unseated).1
    rw [fair.actors] at seated
    rw [List.map_append]
    exact List.mem_append_left _ seated

@[simp] theorem actorKey_id (hotkey : String) : actorKey (some id) hotkey = hotkey := by
  simp [actorKey]

/-- Under the identity an actor's seniority is its hotkey's, unless that is negative. -/
theorem seniority_id {hotkey} (positive : 0 ≤ (ledger.get? hotkey).getD 0) :
    seniority (some id) ledger hotkey = seniority none ledger hotkey := by
  have greatest := isGreatest_seniority id ledger hotkey
  apply greatest.unique
  constructor
  · cases found : ledger.get? hotkey with
    | none => simp [seniority, found]
    | some v =>
      right
      apply mem_marksOf.mpr
      exact ⟨hotkey, by simp [seniority, found], actorKey_id hotkey⟩
  · intro v marked
    cases Set.mem_insert_iff.mp marked with
    | inl zero => exact zero ▸ positive
    | inr marked =>
      obtain ⟨hotkey', found, actor⟩ := mem_marksOf.mp marked
      rw [actorKey_id] at actor
      subst actor
      simp [seniority, found]

theorem keyLe_id {s t : Candidate} (first : 0 ≤ (ledger.get? s.hotkey).getD 0)
    (second : 0 ≤ (ledger.get? t.hotkey).getD 0) :
    KeyLe sha256Hex ledger roundId (some id) s t ↔ KeyLe sha256Hex ledger roundId none s t := by
  have same := seniority_id ledger first
  have same' := seniority_id ledger second
  unfold seniority at same same'
  simp only [KeyLe, actorRotationSortKey, rotationSortKey, actorKey_id, same, same',
    Prod.Lex.toLex_le_toLex]
  constructor
  · rintro (older | ⟨equal, lt | ⟨_, le⟩⟩)
    · exact .inl older
    · exact .inr ⟨equal, lt.le⟩
    · exact .inr ⟨equal, le⟩
  · rintro (older | ⟨equal, le⟩)
    · exact .inl older
    · cases le.lt_or_eq with
      | inl lt => exact .inr ⟨equal, .inl lt⟩
      | inr eq => exact .inr ⟨equal, .inr ⟨eq, le⟩⟩

theorem selectRotationSlate_id (distinct : (candidates.map Candidate.hotkey).Nodup)
    (positive : ∀ s ∈ candidates, 0 ≤ (ledger.get? s.hotkey).getD 0) :
    selectRotationSlate sha256Hex candidates slots ledger roundId (some id) =
      selectRotationSlate sha256Hex candidates slots ledger roundId none := by
  have order : sortedBy (fun s : Candidate => actorRotationSortKey sha256Hex s.hotkey roundId
      (actorLastSelected ledger id) id) candidates =
      sortedBy (fun s : Candidate => rotationSortKey sha256Hex s.hotkey roundId ledger) candidates :=
    sortedBy_congr fun s member t member' =>
      keyLe_id sha256Hex ledger roundId (positive s member) (positive t member')
  have distinct' : ((sortedBy (fun s : Candidate => rotationSortKey sha256Hex s.hotkey roundId ledger)
      candidates).map fun s => actorKey (some id) s.hotkey).Nodup := by
    simp only [actorKey_id]
    exact ((sortedBy_perm _ _).map Candidate.hotkey).nodup_iff.mpr distinct
  simp only [selectRotationSlate, order]
  rw [pass_of_distinct slots.toNat distinct', fillSeats_eq, List.length_take]
  generalize sortedBy (fun s : Candidate => rotationSortKey sha256Hex s.hotkey roundId ledger)
    candidates = ordered
  by_cases fits : slots.toNat ≤ ordered.length
  · simp [min_eq_left fits]
  · have whole : ordered.length ≤ slots.toNat := by omega
    simp [List.take_of_length_le whole, List.drop_of_length_le whole]

/-- A slate splits its candidates in order, an actor sits twice only once everyone sits, and
    the identity resolver changes nothing where no contender's timestamp is negative. -/
theorem rotation_slate_splits :
    (∀ actorOf, SplitsInOrder (KeyLe sha256Hex ledger roundId actorOf) slots candidates
      (selectRotationSlate sha256Hex candidates slots ledger roundId actorOf)) ∧
    (∀ resolve, OneSeatEach resolve candidates
      (selectRotationSlate sha256Hex candidates slots ledger roundId (some resolve)).1) ∧
    ((candidates.map Candidate.hotkey).Nodup →
      (∀ s ∈ candidates, 0 ≤ (ledger.get? s.hotkey).getD 0) →
      selectRotationSlate sha256Hex candidates slots ledger roundId (some id) =
        selectRotationSlate sha256Hex candidates slots ledger roundId none) :=
  ⟨selectRotationSlate_splits sha256Hex ledger roundId candidates slots,
    selectRotationSlate_oneSeatEach sha256Hex ledger roundId candidates slots,
    selectRotationSlate_id sha256Hex ledger roundId candidates slots⟩

def twoHotkeys : List Candidate := [⟨"sub-1", "A"⟩, ⟨"sub-2", "B"⟩]

theorem rotation_slate_splits_two_hotkeys :
    selectRotationSlate contestDigests twoHotkeys 1 (Dict.empty : Dict String ℤ) "r1" (some id) =
      selectRotationSlate contestDigests twoHotkeys 1 (Dict.empty : Dict String ℤ) "r1" none :=
  (rotation_slate_splits contestDigests (Dict.empty : Dict String ℤ) "r1" twoHotkeys 1).2.2
    (by decide) (by simp)

/-- sha256 on the texts of round r1, and some injective continuation of it. -/
def injectiveDigests (text : String) : String :=
  if text = "A:r1" then contestDigests "A:r1"
  else if text = "B:r1" then contestDigests "B:r1"
  else "sha256 of " ++ text

theorem injectiveDigests_injective : Function.Injective injectiveDigests := by
  have other (text digest : String) (hex : digest.toList.head? ≠ some 's') :
      "sha256 of " ++ text ≠ digest := by
    rintro rfl
    simp at hex
  intro s t equal
  unfold injectiveDigests at equal
  split_ifs at equal with first first' second' second first' second' first' second'
  all_goals try subst_vars
  · rfl
  · exact absurd equal (by decide)
  · exact absurd equal.symm (other t _ (by decide))
  · exact absurd equal (by decide)
  · rfl
  · exact absurd equal.symm (other t _ (by decide))
  · exact absurd equal (other s _ (by decide))
  · exact absurd equal (other s _ (by decide))
  · exact (String.append_right_inj _).mp equal

/-- A timestamp before the epoch is senior to a newcomer in the legacy order only. -/
theorem negative_timestamp_separates_the_slates :
    ¬ ∀ (sha256Hex : String → String) (candidates : List Candidate) (slots : Int)
        (ledger : Dict String ℤ) (roundId : String), Function.Injective sha256Hex →
      (candidates.map Candidate.hotkey).Nodup →
      selectRotationSlate sha256Hex candidates slots ledger roundId (some id) =
        selectRotationSlate sha256Hex candidates slots ledger roundId none := by
  intro claim
  have equal := claim injectiveDigests twoHotkeys 1 (Dict.empty.set "A" (-1)) "r1"
    injectiveDigests_injective (by decide)
  revert equal
  decide +kernel

end MinotaurSubnet.Harness
