import MinotaurSubnet.Harness.Resurrection
import Mathlib.Data.Finset.Card

/-! # The caps of `create`

What the caps read of a record never changes, so the three caps that count every status hold in
every state. The cap on a commit counts only benched rounds, and a submission can be benched
after its rounds were counted: it holds up to the rounds that were still pending then.
-/

namespace MinotaurSubnet.Harness

open Library Python

namespace StoreMemory

structure Slot where
  hotkey : String
  round : RoundId
  owner : Option String
  commit : String

def slot (sub : Submission) : Slot := ⟨sub.hotkey, sub.roundId, sub.githubOwner, sub.commitHash⟩

def slots (m : StoreMemory) : List Slot := m.values.map slot

def countByHotkeyRound (m : StoreMemory) (hotkey : String) (round : RoundId) : Nat :=
  m.values.countP fun s => s.hotkey = hotkey && s.roundId = round

def countByOwnerRound (host : StoreHost) (m : StoreMemory) (githubOwner : String) (round : RoundId) : Nat :=
  let owner := host.lower githubOwner
  if owner = "" then 0
  else m.values.countP fun s => host.lower (s.githubOwner.getD "") = owner && s.roundId = round

def countByRound (m : StoreMemory) (round : RoundId) : Nat := m.values.countP fun s => s.roundId = round

variable {m : StoreMemory} {caps : SubmissionCaps} {event : ℚ × StoreOp}

theorem slots_put {id old sub} (found : m.get id = some old)
    (sameId : sub.submissionId = old.submissionId) (same : slot sub = slot old) :
    (m.put sub).slots = m.slots := by
  have own : sub.submissionId.text = id := by rw [sameId, text_of_get found]
  apply Dict.map_values_set_of_some _ same
  rw [own]
  exact found

theorem slots_mapRecords (m : StoreMemory) {f : Submission → Submission}
    (sameId : ∀ sub, (f sub).submissionId = sub.submissionId) (same : ∀ sub, slot (f sub) = slot sub) :
    (m.mapRecords f sameId).slots = m.slots := by
  simp only [slots, values, mapRecords, Dict.values, Dict.mapValues, List.map_map]
  apply List.map_congr_left
  intro entry _
  exact same entry.2

theorem slots_edit (m : StoreMemory) (submissionId : String) {f : Submission → Submission}
    (sameId : ∀ sub, (f sub).submissionId = sub.submissionId) (same : ∀ sub, slot (f sub) = slot sub) :
    (m.edit submissionId f).state.slots = m.slots := by
  unfold StoreMemory.edit
  split
  · rfl
  · next sub found => exact slots_put found (sameId sub) (same sub)

theorem slots_setSolverInfo (m : StoreMemory) (host : StoreHost) (now : ℚ)
    (sidecar : Option (Dict String NameEntry)) (submissionId : String) (name version : Option String) :
    (m.setSolverInfo host now sidecar submissionId name version).state.slots = m.slots := by
  unfold StoreMemory.setSolverInfo
  split
  · rfl
  · next sub found =>
    simp only
    split
    · exact slots_put found rfl rfl
    · split
      · exact slots_put found rfl rfl
      · split
        · exact slots_put found rfl rfl
        · exact slots_put found rfl rfl

theorem slots_setScreeningResult (m : StoreMemory) (now : ℚ) (submissionId : String) (stage : Int)
    (passed : Bool) (durationMs : Int) (details : String) (errorCode : Option String) :
    (m.setScreeningResult now submissionId stage passed durationMs details errorCode).state.slots =
      m.slots := by
  unfold StoreMemory.setScreeningResult
  split
  · rfl
  · next sub found =>
    simp only
    split
    · exact slots_put found rfl rfl
    · exact slots_put found rfl rfl

theorem slots_setBenchmarkResult (m : StoreMemory) (now : ℚ) (submissionId : String) (valid : Bool)
    (rank : Option Int) (details : Option (Dict String Value)) :
    (m.setBenchmarkResult now submissionId valid rank details).state.slots = m.slots := by
  unfold StoreMemory.setBenchmarkResult
  split
  · rfl
  · next sub found =>
    simp only
    split
    · exact slots_put found rfl rfl
    · split
      · exact slots_put found rfl rfl
      · exact slots_put found rfl rfl

theorem slots_rankNext (now : ℚ) (acc : StoreMemory × List String) (entry : String × Int) :
    (StoreMemory.rankNext now acc entry).1.slots = acc.1.slots := by
  unfold StoreMemory.rankNext
  split
  · rfl
  · next sub found => exact slots_put found rfl rfl

theorem slots_setBenchmarkRanks (m : StoreMemory) (now : ℚ) (ranks : Dict String Int) :
    (m.setBenchmarkRanks now ranks).state.slots = m.slots := by
  have along : ∀ (entries : List (String × Int)) (acc : StoreMemory × List String),
      (entries.foldl (StoreMemory.rankNext now) acc).1.slots = acc.1.slots := by
    intro entries
    induction entries with
    | nil => exact fun _ => rfl
    | cons entry rest ih => exact fun acc => (ih _).trans (slots_rankNext now acc entry)
  exact along ranks.entries (m, [])

theorem slots_reject (m : StoreMemory) (now : ℚ) (submissionId reason : String)
    (outcomeCode : Option String) : (m.reject now submissionId reason outcomeCode).state.slots = m.slots := by
  unfold StoreMemory.reject
  split
  · rfl
  · next sub found => exact slots_put found rfl rfl

theorem slots_waitlist (m : StoreMemory) (now : ℚ) (submissionId reason outcomeCode : String)
    (position contenders slots : Option Int) :
    (m.waitlist now submissionId reason outcomeCode position contenders slots).state.slots = m.slots := by
  unfold StoreMemory.waitlist
  split
  · rfl
  · next sub found => exact slots_put found rfl rfl

theorem slots_adopt (m : StoreMemory) (now : ℚ) (submissionId : String) :
    (m.adopt now submissionId).state.slots = m.slots := by
  have kept : (m.mapRecords (dethroned now submissionId) (dethroned_id now submissionId)).slots =
      m.slots := by
    apply slots_mapRecords
    intro sub
    unfold dethroned
    split <;> rfl
  unfold StoreMemory.adopt
  simp only
  split
  · exact kept
  · next sub found =>
    rw [← kept, Outcome.state_returns]
    exact slots_put found (by rfl) (by rfl)

theorem slots_enforceRetention (m : StoreMemory) (cap : Int) :
    (m.enforceRetention cap).slots = m.slots := by
  apply slots_mapRecords
  intro sub
  unfold withoutDetails
  split <;> rfl

theorem slots_call (host : StoreHost) (cap : Int) (m : StoreMemory) (event : ℚ × StoreOp) :
    (call host cap m event).1.slots = (event.2.run host event.1 m).state.slots := by
  simp only [call]
  split
  · exact slots_enforceRetention _ cap
  · rfl

theorem slots_run (host : StoreHost) (m : StoreMemory) (now : ℚ) (op : StoreOp)
    (creates : ∀ request id, op ≠ .create request id) (upserts : ∀ record, op ≠ .upsertSubmission record)
    (upserts' : ∀ records, op ≠ .upsertSubmissions records) :
    (op.run host now m).state.slots = m.slots := by
  cases op with
  | create request id => exact absurd rfl (creates request id)
  | upsertSubmission record => exact absurd rfl (upserts record)
  | upsertSubmissions records => exact absurd rfl (upserts' records)
  | setScreeningResult id stage passed durationMs details errorCode =>
    exact slots_setScreeningResult m now id stage passed durationMs details errorCode
  | setSolverInfo sidecar id name version => exact slots_setSolverInfo m host now sidecar id name version
  | setBenchmarkResult id valid rank details => exact slots_setBenchmarkResult m now id valid rank details
  | setBenchmarkRanks ranks => exact slots_setBenchmarkRanks m now ranks
  | reject id reason outcomeCode => exact slots_reject m now id reason outcomeCode
  | waitlist id reason outcomeCode position contenders slots =>
    exact slots_waitlist m now id reason outcomeCode position contenders slots
  | adopt id => exact slots_adopt m now id
  | purgeToken id => rfl
  | updateStatus id status => exact slots_edit m id (fun _ => rfl) fun _ => rfl
  | setImageTag id imageTag => exact slots_edit m id (fun _ => rfl) fun _ => rfl
  | setImageId id imageId => exact slots_edit m id (fun _ => rfl) fun _ => rfl
  | setContentFingerprint id value => exact slots_edit m id (fun _ => rfl) fun _ => rfl
  | setMaxRegionNodes id value => exact slots_edit m id (fun _ => rfl) fun _ => rfl
  | setDeadwoodMetric id nodes version topOffenders => exact slots_edit m id (fun _ => rfl) fun _ => rfl
  | setImageDigest id imageDigest => exact slots_edit m id (fun _ => rfl) fun _ => rfl
  | setProvenance id provenance => exact slots_edit m id (fun _ => rfl) fun _ => rfl
  | setSolverPath id solverPath => exact slots_edit m id (fun _ => rfl) fun _ => rfl
  | setBenchmarkRank id rank => exact slots_edit m id (fun _ => rfl) fun _ => rfl
  | mergeBenchmarkDetails id extra => exact slots_edit m id (fun _ => rfl) fun _ => rfl

def roundOf (request : NewSubmission) : RoundId :=
  RoundId.ofRaw (stripText (request.roundId.getD "")) request.epoch

def slotOf (request : NewSubmission) : Slot :=
  ⟨request.hotkey, roundOf request, request.githubOwner.filter (· ≠ ""), request.commitHash⟩

theorem owner_slotOf (request : NewSubmission) :
    (slotOf request).owner.getD "" = request.githubOwner.getD "" := by
  unfold slotOf
  cases request.githubOwner with
  | none => rfl
  | some owner =>
    by_cases blank : owner = ""
    · simp [Option.filter, blank]
    · simp [Option.filter, blank]

theorem countP_slots_put (m : StoreMemory) (sub : Submission) (p : Slot → Bool) :
    (m.put sub).slots.countP p ≤ m.slots.countP p + if p (slot sub) then 1 else 0 := by
  simp [slots]
  exact Dict.countP_set_le m.submissions (p ∘ slot) sub.submissionId.text sub

theorem mem_slots_put {sub t} (member : t ∈ (m.put sub).slots) :
    t = slot sub ∨ t ∈ m.slots := by
  obtain ⟨record, value, rfl⟩ := List.mem_map.mp member
  obtain ⟨id, found⟩ := Dict.mem_values.mp value
  have stored : (m.put sub).get id = some record := found
  rw [get_put] at stored
  split at stored
  · cases stored
    exact .inl rfl
  · exact .inr (List.mem_map_of_mem (Dict.mem_values.mpr ⟨id, stored⟩))

theorem create_cases (host : StoreHost) (now : ℚ) (m : StoreMemory) (request : NewSubmission)
    (id : SubmissionId) :
    (m.create host now request id).state = m ∨
      m.capError host request (roundOf request) = none ∧
        (m.create host now request id).state.slots =
          (m.put (newRecord now request (roundOf request) id)).slots := by
  unfold StoreMemory.create
  simp only
  cases gate : m.capError host request (roundOf request) with
  | some error =>
    left
    rw [roundOf] at gate
    rw [gate]
    rfl
  | none =>
    right
    rw [roundOf] at gate
    rw [gate]
    refine ⟨rfl, ?_⟩
    rw [Outcome.state_returns]
    split
    · rfl
    · rfl

theorem below_caps {host request round} (gate : m.capError host request round = none) :
    (0 < request.maxPerRound → (m.countByHotkeyRound request.hotkey round : Int) < request.maxPerRound) ∧
      (0 < request.maxPerOwnerPerRound → host.lower (request.githubOwner.getD "") ≠ "" →
        (m.countByOwnerRound host (request.githubOwner.getD "") round : Int) <
          request.maxPerOwnerPerRound) ∧
      (0 < request.maxTotalPerRound → (m.countByRound round : Int) < request.maxTotalPerRound) ∧
      (0 < request.maxRoundsPerCommit →
        (m.countBenchedRoundsByCommit host request.hotkey request.commitHash : Int) <
          request.maxRoundsPerCommit) := by
  unfold capError at gate
  simp only [Bool.and_eq_true, decide_eq_true_eq] at gate
  split at gate
  · cases gate
  next mine =>
    split at gate
    · cases gate
    next owned =>
      split at gate
      · cases gate
      next total =>
        split at gate
        · cases gate
        next benched =>
          refine ⟨fun set => ?_, fun set named => ?_, fun set => ?_, fun set => ?_⟩
          · exact lt_of_not_ge fun full => mine ⟨set, full⟩
          · apply lt_of_not_ge
            unfold countByOwnerRound
            rw [if_neg named]
            exact fun full => owned ⟨⟨named, set⟩, full⟩
          · exact lt_of_not_ge fun full => total ⟨set, full⟩
          · exact lt_of_not_ge fun full => benched ⟨set, full⟩

structure SubmissionCaps where
  maxPerRound : Int
  maxPerOwnerPerRound : Int
  maxTotalPerRound : Int
  maxRoundsPerCommit : Int
  perRound_pos : 0 < maxPerRound
  perOwner_pos : 0 < maxPerOwnerPerRound
  total_pos : 0 < maxTotalPerRound
  perCommit_pos : 0 < maxRoundsPerCommit

/-- Every submission is created under the caps, and nothing is upserted. -/
def SubmissionCaps.Admits (caps : SubmissionCaps) : StoreOp → Prop
  | .create request _ =>
    request.maxPerRound = caps.maxPerRound ∧ request.maxPerOwnerPerRound = caps.maxPerOwnerPerRound ∧
      request.maxTotalPerRound = caps.maxTotalPerRound ∧
      request.maxRoundsPerCommit = caps.maxRoundsPerCommit
  | .upsertSubmission _ => False
  | .upsertSubmissions _ => False
  | _ => True

structure WithinCaps (host : StoreHost) (caps : SubmissionCaps) (m : StoreMemory) : Prop where
  hotkeys : ∀ hotkey round, (m.countByHotkeyRound hotkey round : Int) ≤ caps.maxPerRound
  owners : ∀ owner round, (m.countByOwnerRound host owner round : Int) ≤ caps.maxPerOwnerPerRound
  rounds : ∀ round, (m.countByRound round : Int) ≤ caps.maxTotalPerRound

variable (host : StoreHost) (retention : Int)

theorem slots_call_cases (m : StoreMemory) (admits : caps.Admits event.2) :
    (call host retention m event).1.slots = m.slots ∨
      ∃ request id, event.2 = .create request id ∧ m.capError host request (roundOf request) = none ∧
        (call host retention m event).1.slots =
          (m.put (newRecord event.1 request (roundOf request) id)).slots := by
  rw [slots_call]
  obtain ⟨now, op⟩ := event
  cases op with
  | create request id =>
    rcases create_cases host now m request id with same | ⟨gate, stored⟩
    · exact .inl (congrArg slots same)
    · exact .inr ⟨request, id, rfl, gate, stored⟩
  | upsertSubmission record => exact admits.elim
  | upsertSubmissions records => exact admits.elim
  | _ => exact .inl (slots_run host m now _ (by simp) (by simp) (by simp))

theorem countP_call_le (admits : caps.Admits event.2) (p : Slot → Bool) {most : Int}
    (held : (m.slots.countP p : Int) ≤ most)
    (below : ∀ request id, event.2 = .create request id → p (slotOf request) = true →
      m.capError host request (roundOf request) = none → (m.slots.countP p : Int) < most) :
    ((call host retention m event).1.slots.countP p : Int) ≤ most := by
  rcases slots_call_cases host retention m admits with same | ⟨request, id, creates, gate, stored⟩
  · rw [same]
    exact held
  · rw [stored]
    have grown := countP_slots_put m (newRecord event.1 request (roundOf request) id) p
    by_cases counts : p (slotOf request) = true
    · have room := below request id creates counts gate
      rw [if_pos (by exact counts)] at grown
      omega
    · rw [if_neg (by exact counts)] at grown
      omega

theorem countByHotkeyRound_eq (m : StoreMemory) (hotkey : String) (round : RoundId) :
    m.countByHotkeyRound hotkey round =
      m.slots.countP fun t => t.hotkey = hotkey && t.round = round := by
  rw [slots, List.countP_map]
  rfl

theorem countByOwnerRound_eq (m : StoreMemory) {owner} (named : host.lower owner ≠ "")
    (round : RoundId) : m.countByOwnerRound host owner round =
      m.slots.countP fun t => host.lower (t.owner.getD "") = host.lower owner && t.round = round := by
  rw [slots, List.countP_map]
  exact if_neg named

theorem countByRound_eq (m : StoreMemory) (round : RoundId) :
    m.countByRound round = m.slots.countP fun t => t.round = round := by
  rw [slots, List.countP_map]
  rfl

variable {host}

theorem below_fixed_caps {request id} (admits : caps.Admits (.create request id))
    (gate : m.capError host request (roundOf request) = none) :
    (m.countByHotkeyRound request.hotkey (roundOf request) : Int) < caps.maxPerRound ∧
      (host.lower (request.githubOwner.getD "") ≠ "" →
        (m.countByOwnerRound host (request.githubOwner.getD "") (roundOf request) : Int) <
          caps.maxPerOwnerPerRound) ∧
      (m.countByRound (roundOf request) : Int) < caps.maxTotalPerRound ∧
      (m.countBenchedRoundsByCommit host request.hotkey request.commitHash : Int) <
        caps.maxRoundsPerCommit := by
  obtain ⟨perRound, perOwner, total, perCommit⟩ := admits
  have below := below_caps gate
  rw [perRound, perOwner, total, perCommit] at below
  obtain ⟨mine, owned, all, benched⟩ := below
  exact ⟨mine caps.perRound_pos, owned caps.perOwner_pos, all caps.total_pos, benched caps.perCommit_pos⟩

theorem hotkeys_call (admits : caps.Admits event.2) (hotkey : String) (round : RoundId)
    (held : (m.countByHotkeyRound hotkey round : Int) ≤ caps.maxPerRound) :
    ((call host retention m event).1.countByHotkeyRound hotkey round : Int) ≤ caps.maxPerRound := by
  rw [countByHotkeyRound_eq] at held ⊢
  refine countP_call_le host retention admits _ held ?_
  intro request id creates counts gate
  obtain ⟨mine, here⟩ := Bool.and_eq_true_iff.mp counts
  have sameKey : request.hotkey = hotkey := of_decide_eq_true mine
  have sameRound : roundOf request = round := of_decide_eq_true here
  rw [creates] at admits
  have room := (below_fixed_caps admits gate).1
  rw [countByHotkeyRound_eq, sameKey, sameRound] at room
  exact room

theorem owners_call (admits : caps.Admits event.2) (owner : String) (round : RoundId)
    (held : (m.countByOwnerRound host owner round : Int) ≤ caps.maxPerOwnerPerRound) :
    ((call host retention m event).1.countByOwnerRound host owner round : Int) ≤
      caps.maxPerOwnerPerRound := by
  by_cases named : host.lower owner = ""
  · rw [countByOwnerRound, if_pos named]
    exact caps.perOwner_pos.le
  · rw [countByOwnerRound_eq host _ named] at held ⊢
    refine countP_call_le host retention admits _ held ?_
    intro request id creates counts gate
    obtain ⟨owned, here⟩ := Bool.and_eq_true_iff.mp counts
    have sameOwner := of_decide_eq_true owned
    rw [owner_slotOf] at sameOwner
    have sameRound : roundOf request = round := of_decide_eq_true here
    rw [creates] at admits
    have room := (below_fixed_caps admits gate).2.1 (sameOwner ▸ named)
    rw [countByOwnerRound_eq host _ (sameOwner ▸ named), sameOwner, sameRound] at room
    exact room

theorem rounds_call (admits : caps.Admits event.2) (round : RoundId)
    (held : (m.countByRound round : Int) ≤ caps.maxTotalPerRound) :
    ((call host retention m event).1.countByRound round : Int) ≤ caps.maxTotalPerRound := by
  rw [countByRound_eq] at held ⊢
  refine countP_call_le host retention admits _ held ?_
  intro request id creates counts gate
  have sameRound : roundOf request = round := of_decide_eq_true counts
  rw [creates] at admits
  have room := (below_fixed_caps admits gate).2.2.1
  rw [countByRound_eq, sameRound] at room
  exact room

theorem WithinCaps.call (within : WithinCaps host caps m) (admits : caps.Admits event.2) :
    WithinCaps host caps (m.call host retention event).1 where
  hotkeys hotkey round := hotkeys_call retention admits hotkey round (within.hotkeys hotkey round)
  owners owner round := owners_call retention admits owner round (within.owners owner round)
  rounds round := rounds_call retention admits round (within.rounds round)

variable (host)

/-- The miner's records of a commit, which is given as `host.lower (stripText commit)`. -/
def ofCommit (hotkey commit : String) (t : Slot) : Bool :=
  t.hotkey = hotkey && host.lower (stripText t.commit) = commit

def commitRounds (m : StoreMemory) (hotkey commit : String) : Finset String :=
  ((m.slots.filter (ofCommit host hotkey commit)).map (·.round.text)).toFinset

def benchedRounds (m : StoreMemory) (hotkey commit : String) : Finset String :=
  ((m.values.filter fun s => ofCommit host hotkey commit (slot s) &&
    benchedStatuses.contains s.status).map (·.roundId.text)).toFinset

def pendingRounds (m : StoreMemory) (hotkey commit : String) : Finset String :=
  m.commitRounds host hotkey commit \ m.benchedRounds host hotkey commit

/-- At an admitted request for the commit at most `n` rounds are pending. -/
def FewPending (n : Nat) (hotkey commit : String) (m : StoreMemory) (event : ℚ × StoreOp) : Prop :=
  match event.2 with
  | .create request _ =>
    ofCommit host hotkey commit (slotOf request) = true →
      m.capError host request (roundOf request) = none → (m.pendingRounds host hotkey commit).card ≤ n
  | _ => True

theorem countBenchedRoundsByCommit_eq (m : StoreMemory) (hotkey commitHash : String) :
    m.countBenchedRoundsByCommit host hotkey commitHash =
      if host.lower (stripText commitHash) = "" then 0
      else (m.benchedRounds host hotkey (host.lower (stripText commitHash))).card := by
  unfold countBenchedRoundsByCommit benchedRounds
  simp
  rfl

theorem benchedRounds_subset (m : StoreMemory) (hotkey commit : String) :
    m.benchedRounds host hotkey commit ⊆ m.commitRounds host hotkey commit := by
  intro round listed
  simp only [benchedRounds, List.mem_toFinset, List.mem_map, List.mem_filter, Bool.and_eq_true] at listed
  obtain ⟨s, ⟨stored, mine, _⟩, rfl⟩ := listed
  simp [commitRounds]
  exact ⟨slot s, ⟨List.mem_map_of_mem stored, mine⟩, rfl⟩

variable {host}

theorem mem_commitRounds {hotkey commit round} :
    round ∈ m.commitRounds host hotkey commit ↔
      ∃ t ∈ m.slots, ofCommit host hotkey commit t = true ∧ t.round.text = round := by
  simp only [commitRounds, List.mem_toFinset, List.mem_map, List.mem_filter, and_assoc]

theorem commitRounds_put (host : StoreHost) (m : StoreMemory) (sub : Submission) (hotkey commit : String) :
    (m.put sub).commitRounds host hotkey commit ⊆
      if ofCommit host hotkey commit (slot sub) then
        insert sub.roundId.text (m.commitRounds host hotkey commit)
      else m.commitRounds host hotkey commit := by
  intro round listed
  obtain ⟨t, stored, mine, rfl⟩ := mem_commitRounds.mp listed
  rcases mem_slots_put stored with rfl | earlier
  · rw [if_pos mine]
    exact Finset.mem_insert_self _ _
  · have kept := mem_commitRounds.mpr ⟨t, earlier, mine, rfl⟩
    split
    · exact Finset.mem_insert_of_mem kept
    · exact kept

theorem commitRounds_few {now request id} (admits : caps.Admits (.create request id))
    {n hotkey commit} (named : commit ≠ "")
    (few : FewPending host n hotkey commit m (now, .create request id))
    (gate : m.capError host request (roundOf request) = none)
    (mine : ofCommit host hotkey commit (slotOf request) = true) :
    ((m.commitRounds host hotkey commit).card : Int) < caps.maxRoundsPerCommit + n := by
  obtain ⟨byHotkey, ofSha⟩ := Bool.and_eq_true_iff.mp mine
  have sameKey : request.hotkey = hotkey := of_decide_eq_true byHotkey
  have sameCommit : host.lower (stripText request.commitHash) = commit := of_decide_eq_true ofSha
  have benched := (below_fixed_caps admits gate).2.2.2
  rw [countBenchedRoundsByCommit_eq, sameKey, sameCommit, if_neg named] at benched
  have pending : (m.pendingRounds host hotkey commit).card ≤ n := few mine gate
  have split := Finset.card_sdiff_add_card_eq_card (benchedRounds_subset host m hotkey commit)
  unfold pendingRounds at pending
  omega

theorem commitRounds_call (admits : caps.Admits event.2) {n hotkey commit} (named : commit ≠ "")
    (few : FewPending host n hotkey commit m event)
    (held : ((m.commitRounds host hotkey commit).card : Int) ≤ caps.maxRoundsPerCommit + n) :
    (((call host retention m event).1.commitRounds host hotkey commit).card : Int) ≤
      caps.maxRoundsPerCommit + n := by
  rcases slots_call_cases host retention m admits with same | ⟨request, id, creates, gate, stored⟩
  · rw [commitRounds, same]
    exact held
  · obtain ⟨now, op⟩ := event
    subst creates
    rw [commitRounds, stored]
    have grown := Finset.card_le_card (commitRounds_put host m
      (newRecord now request (roundOf request) id) hotkey commit)
    by_cases mine : ofCommit host hotkey commit (slotOf request) = true
    · have before := commitRounds_few admits named few gate mine
      rw [if_pos (by exact mine)] at grown
      have inserted := Finset.card_insert_le (roundOf request).text (m.commitRounds host hotkey commit)
      exact (Nat.cast_le.mpr (grown.trans inserted)).trans before
    · rw [if_neg (by exact mine)] at grown
      exact (Nat.cast_le.mpr grown).trans held

theorem commitRounds_along {events} (admits : ∀ e ∈ events, caps.Admits e.2) {n hotkey commit}
    (named : commit ≠ "")
    (few : AllowedAlong (call host retention) (FewPending host n hotkey commit) m events)
    (held : ((m.commitRounds host hotkey commit).card : Int) ≤ caps.maxRoundsPerCommit + n) :
    (((runEvents (call host retention) m events).commitRounds host hotkey commit).card : Int) ≤
      caps.maxRoundsPerCommit + n := by
  induction events generalizing m with
  | nil => exact held
  | cons event rest ih =>
    have next := commitRounds_call retention (admits event List.mem_cons_self) named few.1 held
    exact ih (fun e member => admits e (List.mem_cons_of_mem _ member)) few.2 next

theorem withinCaps_empty (caps : SubmissionCaps) : WithinCaps host caps empty where
  hotkeys _ _ := caps.perRound_pos.le
  owners owner round := by
    by_cases named : host.lower owner = ""
    · rw [countByOwnerRound, if_pos named]
      exact caps.perOwner_pos.le
    · rw [countByOwnerRound_eq host _ named]
      exact caps.perOwner_pos.le
  rounds _ := caps.total_pos.le

/-- Under fixed caps every reached store is within the three that count every status; and a commit
    is benched in at most its cap and the rounds that were pending when it was admitted. -/
theorem caps_hold (host : StoreHost) (retention : Int) (caps : SubmissionCaps)
    (events : List (ℚ × StoreOp)) (admits : ∀ e ∈ events, caps.Admits e.2) :
    WithinCaps host caps (runEvents (call host retention) empty events) ∧
      ∀ hotkey commitHash n,
        AllowedAlong (call host retention)
          (FewPending host n hotkey (host.lower (stripText commitHash))) empty events →
        ((runEvents (call host retention) empty events).countBenchedRoundsByCommit host hotkey
          commitHash : Int) ≤ caps.maxRoundsPerCommit + n := by
  constructor
  · have reached : Reaches (call host retention) (fun _ e => caps.Admits e.2) empty
        (runEvents (call host retention) empty events) :=
      reaches_runEvents_of empty events fun e member _ => admits e member
    exact reached.invariant (WithinCaps host caps) (withinCaps_empty caps) fun _ _ within allowed =>
      within.call retention allowed
  · intro hotkey commitHash n few
    have positive := caps.perCommit_pos
    rw [countBenchedRoundsByCommit_eq]
    by_cases unnamed : host.lower (stripText commitHash) = ""
    · rw [if_pos unnamed]
      omega
    · rw [if_neg unnamed]
      have start : ((empty.commitRounds host hotkey (host.lower (stripText commitHash))).card : Int) ≤
          caps.maxRoundsPerCommit + n := by
        show ((0 : Nat) : Int) ≤ _
        omega
      have rounds := commitRounds_along retention admits unnamed few start
      have benched := Finset.card_le_card (benchedRounds_subset host
        (runEvents (call host retention) empty events) hotkey (host.lower (stripText commitHash)))
      omega

def oneEach : SubmissionCaps where
  maxPerRound := 1
  maxPerOwnerPerRound := 1
  maxTotalPerRound := 1
  maxRoundsPerCommit := 1
  perRound_pos := by decide
  perOwner_pos := by decide
  total_pos := by decide
  perCommit_pos := by decide

def requestFor (round : String) : NewSubmission where
  repoUrl := "https://github.com/a/solver"
  commitHash := "c0ffee"
  epoch := 7
  hotkey := "5Alice"
  roundId := some round
  maxTotalPerRound := 1
  maxPerOwnerPerRound := 1
  maxRoundsPerCommit := 1

def benchedTwice : List (ℚ × StoreOp) :=
  [(1, .create (requestFor "r1") firstId), (2, .create (requestFor "r2") secondId),
    (3, .updateStatus "sub_a" .benchmarking), (4, .updateStatus "sub_b" .benchmarking)]

def benchedOnce : List (ℚ × StoreOp) :=
  [(1, .create (requestFor "r1") firstId), (2, .updateStatus "sub_a" .benchmarking),
    (3, .create (requestFor "r2") secondId)]

theorem benchedOnce_within :
    (runEvents (call StoreHost.plain 0) empty benchedOnce).countBenchedRoundsByCommit StoreHost.plain
      "5Alice" "c0ffee" ≤ 1 := by
  have admits : ∀ e ∈ benchedOnce, oneEach.Admits e.2 := by
    simp [benchedOnce, SubmissionCaps.Admits, requestFor, oneEach]
  have few : AllowedAlong (call StoreHost.plain 0)
      (FewPending StoreHost.plain 0 "5Alice" (StoreHost.plain.lower (stripText "c0ffee"))) empty
      benchedOnce :=
    ⟨fun _ _ => by decide +kernel, trivial, fun _ _ => by decide +kernel, trivial⟩
  have benched := (caps_hold StoreHost.plain 0 oneEach benchedOnce admits).2 "5Alice" "c0ffee" 0 few
  exact Nat.cast_le.mp benched

/-- A commit is benched in two rounds under a cap of one. -/
theorem benched_beyond_cap :
    ¬ ∀ (host : StoreHost) (retention : Int) (caps : SubmissionCaps) (events : List (ℚ × StoreOp)),
      (∀ e ∈ events, caps.Admits e.2) → ∀ hotkey commitHash,
        ((runEvents (call host retention) empty events).countBenchedRoundsByCommit host hotkey
          commitHash : Int) ≤ caps.maxRoundsPerCommit := by
  intro capped
  have admits : ∀ e ∈ benchedTwice, oneEach.Admits e.2 := by
    simp [benchedTwice, SubmissionCaps.Admits, requestFor, oneEach]
  have benched := capped StoreHost.plain 0 oneEach benchedTwice admits "5Alice" "c0ffee"
  revert benched
  decide +kernel

end StoreMemory

end MinotaurSubnet.Harness
