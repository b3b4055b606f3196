import MinotaurSubnet.Consensus.ChampionManager

/-! # What one step of the champion manager can do

A step can only keep a record of the table, open one, or add a verified approval to
one (`Arises`), and a `reached` result is always built from such a record
(`Returns`). Invariants of runs are read off these cases; nothing later unfolds the
methods.
-/

namespace MinotaurSubnet.Consensus

open Library Python

variable {result : ChampionConsensusResult}

@[simp] theorem result?_proposed {p r} :
    (ChampionOutput.proposed p r).result? = some result ↔ r = .ok result := by
  cases r <;> simp [ChampionOutput.result?]

@[simp] theorem result?_received {r} :
    (ChampionOutput.received r).result? = some result ↔ r = .ok (some result) := by
  cases r <;> simp [ChampionOutput.result?]

theorem returned?_eq_some {out : ChampionOutput} {p} :
    out.returned? = some (p, result) ↔ out = .proposed p (.ok result) := by
  constructor
  · intro returned
    unfold ChampionOutput.returned? at returned
    split at returned
    · cases returned
      rfl
    · cases returned
  · rintro rfl
    rfl

theorem timedOut_unreached {own} (out : ChampionNode.timedOut own = .ok result) :
    result.reached = false := by
  obtain ⟨approvals, -, returned⟩ := bind_eq_ok.mp out
  obtain rfl := pure_eq_ok.mp returned
  rfl

section

variable (host : Host) (node : ChampionNode) (s : ChampionState)

/-- The ways a record can be under a key after a step. -/
inductive Arises : ChampionEvent → String → PendingChampionProposal → Prop where
  | kept {e round x} (before : s.docket.current round = some x) : Arises e round x
  | opened {p now later own} (signed : node.signApproval host p now = some own) :
      Arises (.propose p now later) p.roundId (node.openPending host s p own now)
  | extended {a x} (before : s.docket.current a.roundId = some x)
      (matching : approvalMatchesProposal a x.proposal = true)
      (verified : node.verifyApproval host s a x.proposal = true) :
      Arises (.receiveApproval a) a.roundId (x.addApproval a)

/-- The record a `reached` result is built from, and the proposal of the `propose`
    call that returns it. -/
inductive Returns : ChampionEvent → Option ChampionProposal → PendingChampionProposal → Prop where
  | immediate {p now later own} (signed : node.signApproval host p now = some own) :
      Returns (.propose p now later) (some p) (node.openPending host s p own now)
  | polled {ref now t x} (waits : s.docket.waiting.get? ref = some t)
      (here : s.docket.current t.proposal.roundId = some x) :
      Returns (.resume ref now) (some t.proposal) x
  | counted {a x} (before : s.docket.current a.roundId = some x)
      (matching : approvalMatchesProposal a x.proposal = true)
      (verified : node.verifyApproval host s a x.proposal = true) :
      Returns (.receiveApproval a) none (x.addApproval a)

variable {host node s}

theorem Returns.arises {e q x} (returned : Returns host node s e q x) :
    ∃ round, Arises host node s e round x := by
  cases returned with
  | immediate signed => exact ⟨_, .opened signed⟩
  | polled _ here => exact ⟨_, .kept here⟩
  | counted before matching verified => exact ⟨_, .extended before matching verified⟩

variable {result : ChampionConsensusResult}

theorem poll_reached {ref t now bound}
    (out : (ChampionNode.poll s ref t now bound).2.result? = some result)
    (reached : result.reached = true) :
    ∃ x, s.docket.current t.proposal.roundId = some x ∧ x.hasQuorum = true
      ∧ x.reachedResult = .ok result := by
  simp only [ChampionNode.poll] at out
  split at out
  · cases result?_proposed.mp out
    simp at reached
  · next x woke =>
    obtain ⟨here, quorum⟩ := Docket.poll_ready woke
    exact ⟨x, here, quorum, result?_proposed.mp out⟩
  · simp [ChampionOutput.result?] at out
  · simp [timedOut_unreached (result?_proposed.mp out)] at reached

variable {p : ChampionProposal} {round : String} {e : ChampionEvent}

theorem poll_proposal {ref t now bound r}
    (out : (ChampionNode.poll s ref t now bound).2 = .proposed p r) : p = t.proposal := by
  simp only [ChampionNode.poll] at out
  split at out <;> cases out <;> rfl

variable {x : PendingChampionProposal}

theorem propose_current {now later}
    (after : (node.propose host s p now later).1.docket.current round = some x) :
    Arises host node s (.propose p now later) round x := by
  unfold ChampionNode.propose at after
  split at after
  · exact .kept after
  · next own signed =>
    have registered : (s.docket.register p.roundId (node.openPending host s p own now)).current round
        = some x → Arises host node s (.propose p now later) round x := by
      intro found
      rw [Docket.current_register] at found
      split at found
      · next same =>
        cases found
        exact same ▸ .opened signed
      · exact .kept found
    simp only [] at after
    split at after
    · split at after
      · exact registered after
      · exact registered (Docket.current_restrict_some after)
    · exact registered (Docket.poll_current after)

theorem propose_reached {now later}
    (out : (node.propose host s p now later).2.result? = some result)
    (reached : result.reached = true) :
    ∃ x, Returns host node s (.propose p now later) (some p) x ∧ x.hasQuorum = true
      ∧ x.reachedResult = .ok result := by
  unfold ChampionNode.propose at out
  split at out
  · simp at out
  · next own signed =>
    refine ⟨node.openPending host s p own now, .immediate signed, ?_⟩
    simp only [] at out
    split at out
    · next quorum =>
      split at out
      · simp at out
      · next r built => exact ⟨quorum, built.trans (result?_proposed.mp out)⟩
    · next short =>
      -- the record just registered has no quorum, so the first poll cannot return it
      obtain ⟨x, here, quorum, -⟩ := poll_reached out reached
      simp only [Docket.current_register, if_pos] at here
      cases here
      exact absurd quorum short

theorem receiveApproval_current {a}
    (after : (node.receiveApproval host s a).1.docket.current round = some x) :
    Arises host node s (.receiveApproval a) round x := by
  unfold ChampionNode.receiveApproval at after
  split at after
  · exact .kept after
  · next pending here =>
    split at after
    · exact .kept after
    · next matching =>
      split at after
      · exact .kept after
      · next verified =>
        have modified : (s.docket.modify a.roundId (·.addApproval a)).current round = some x := by
          simp only [] at after
          split at after <;> exact after
        rw [Docket.current_modify] at modified
        split at modified
        · next same =>
          rw [here] at modified
          cases modified
          exact same ▸ .extended here (by simpa using matching) (by simpa using verified)
        · exact .kept modified

theorem receiveApproval_reached {a}
    (out : (node.receiveApproval host s a).2.result? = some result) :
    ∃ x, Returns host node s (.receiveApproval a) none x ∧ x.hasQuorum = true
      ∧ x.reachedResult = .ok result := by
  unfold ChampionNode.receiveApproval at out
  split at out
  · simp at out
  · next pending here =>
    split at out
    · simp at out
    · next matching =>
      split at out
      · simp at out
      · next verified =>
        refine ⟨pending.addApproval a, .counted here (by simpa using matching)
          (by simpa using verified), ?_⟩
        simp only [] at out
        split at out
        · next quorum =>
          refine ⟨quorum, ?_⟩
          cases built : (pending.addApproval a).reachedResult with
          | error e => simp [built, Except.map] at out
          | ok r => simpa [built, Except.map] using out
        · simp at out

theorem step_current (after : (node.step host s e).1.docket.current round = some x) :
    Arises host node s e round x := by
  cases e with
  | propose p now later => exact propose_current after
  | resume ref now =>
    simp only [ChampionNode.step] at after
    split at after
    · exact .kept after
    · exact .kept (Docket.poll_current after)
  | receiveApproval a => exact receiveApproval_current after
  | setValidators validators =>
    simp only [ChampionNode.step, ChampionNode.setValidators] at after
    split at after
    · simp at after
    · exact .kept after
  | clearAllPending => simp [ChampionNode.step] at after
  | pruneExpired now clock => exact .kept (Docket.current_restrict_some after)

theorem step_reached (out : (node.step host s e).2.result? = some result)
    (reached : result.reached = true) :
    ∃ q x, Returns host node s e q x ∧ x.hasQuorum = true ∧ x.reachedResult = .ok result := by
  cases e with
  | propose p now later => exact ⟨_, propose_reached out reached⟩
  | resume ref now =>
    simp only [ChampionNode.step] at out
    split at out
    · simp [ChampionOutput.result?] at out
    · next t waits =>
      obtain ⟨x, here, quorum, built⟩ := poll_reached out reached
      exact ⟨_, x, .polled waits here, quorum, built⟩
  | receiveApproval a => exact ⟨_, receiveApproval_reached out⟩
  | setValidators validators => simp [ChampionNode.step, ChampionOutput.result?] at out
  | clearAllPending => simp [ChampionNode.step, ChampionOutput.result?] at out
  | pruneExpired now clock =>
    simp [ChampionNode.step, ChampionNode.pruneExpired, ChampionOutput.result?] at out

theorem step_override (other : ∀ validators, e ≠ .setValidators validators) :
    (node.step host s e).1.validatorsOverride = s.validatorsOverride := by
  cases e with
  | propose p now later =>
    simp only [ChampionNode.step, ChampionNode.propose]
    split
    · rfl
    · split
      · split <;> rfl
      · rfl
  | resume ref now =>
    simp only [ChampionNode.step]
    split
    · rfl
    · rfl
  | receiveApproval a =>
    simp only [ChampionNode.step, ChampionNode.receiveApproval]
    split
    · rfl
    · split
      · rfl
      · split
        · rfl
        · split <;> rfl
  | setValidators validators => exact absurd rfl (other validators)
  | clearAllPending => rfl
  | pruneExpired now clock => rfl

/-- A step that leaves a record in the table leaves the validator set alone:
    `set_validators` clears the table whenever the set changes. -/
theorem step_validators (after : (node.step host s e).1.docket.current round = some x) :
    (node.membership (node.step host s e).1).validators host.lower =
      (node.membership s).validators host.lower := by
  by_cases pins : ∃ validators, e = .setValidators validators
  · obtain ⟨validators, rfl⟩ := pins
    simp only [ChampionNode.step, ChampionNode.setValidators] at after ⊢
    split at after
    · simp at after
    · next same =>
      rw [not_not.mp same]
      exact Membership.validators_pin_same host.lower (node.membership s)
  · have kept : (node.step host s e).1.validatorsOverride = s.validatorsOverride :=
      step_override fun validators same => pins ⟨validators, same⟩
    simp only [ChampionNode.membership, kept]

theorem step_authorized (after : (node.step host s e).1.docket.current round = some x)
    (address : String) :
    (node.membership (node.step host s e).1).isAuthorizedSigner host.lower address =
      (node.membership s).isAuthorizedSigner host.lower address := by
  simp only [Membership.isAuthorizedSigner, step_validators after]
  rfl

theorem propose_own {now later own} (signed : node.signApproval host p now = some own)
    (after : (node.propose host s p now later).1.docket.current p.roundId = some x) :
    x = node.openPending host s p own now := by
  have registered : (s.docket.register p.roundId (node.openPending host s p own now)).current
      p.roundId = some x → x = node.openPending host s p own now := by
    intro found
    rw [Docket.current_register, if_pos rfl] at found
    exact (Option.some.inj found).symm
  simp only [ChampionNode.propose, signed] at after
  split at after
  · split at after
    · exact registered after
    · exact registered (Docket.current_restrict_some after)
  · exact registered (Docket.poll_current after)

theorem step_waiting {ref t} (after : (node.step host s e).1.docket.waiting.get? ref = some t) :
    s.docket.waiting.get? ref = some t
      ∨ ∃ now later own, e = .propose t.proposal now later
        ∧ node.signApproval host t.proposal now = some own := by
  cases e with
  | propose p now later =>
    simp only [ChampionNode.step, ChampionNode.propose] at after
    split at after
    · exact .inl after
    · next own signed =>
      split at after
      · split at after <;> exact .inl after
      · rcases Docket.poll_waiting after with old | ⟨-, rfl⟩
        · exact .inl old
        · exact .inr ⟨now, later, own, rfl, signed⟩
  | resume ref' now =>
    simp only [ChampionNode.step] at after
    split at after
    · exact .inl after
    · next t' waits =>
      -- a call that suspends again is the one that was resumed
      rcases Docket.poll_waiting after with old | ⟨rfl, rfl⟩
      · exact .inl old
      · exact .inl waits
  | receiveApproval a =>
    simp only [ChampionNode.step, ChampionNode.receiveApproval] at after
    split at after
    · exact .inl after
    · split at after
      · exact .inl after
      · split at after
        · exact .inl after
        · split at after <;> exact .inl after
  | setValidators validators =>
    simp only [ChampionNode.step, ChampionNode.setValidators] at after
    split at after <;> exact .inl after
  | clearAllPending => exact .inl after
  | pruneExpired now clock => exact .inl after

theorem propose_proposal {q p now later r}
    (out : (node.propose host s q now later).2 = .proposed p r) : p = q := by
  unfold ChampionNode.propose at out
  split at out
  · cases out
    rfl
  · simp only [] at out
    split at out
    · split at out
      · cases out
        rfl
      · cases out
        rfl
    · exact poll_proposal out

theorem step_proposed (out : (node.step host s e).2 = .proposed p (.ok result))
    (reached : result.reached = true) :
    ∃ x, Returns host node s e (some p) x ∧ x.reachedResult = .ok result := by
  have returns : (node.step host s e).2.result? = some result := by rw [out]; rfl
  cases e with
  | propose q now later =>
    obtain rfl := propose_proposal out
    obtain ⟨x, returned, -, built⟩ := propose_reached returns reached
    exact ⟨x, returned, built⟩
  | resume ref now =>
    simp only [ChampionNode.step] at out
    split at out
    · cases out
    · next t waits =>
      obtain rfl := poll_proposal out
      obtain ⟨x, here, -, built⟩ := poll_reached (by rw [out]; rfl) reached
      exact ⟨x, .polled waits here, built⟩
  | receiveApproval a =>
    simp only [ChampionNode.step, ChampionNode.receiveApproval] at out
    split at out
    · cases out
    · split at out
      · cases out
      · split at out
        · cases out
        · split at out <;> cases out
  | setValidators validators => cases out
  | clearAllPending => cases out
  | pruneExpired now clock => cases out

end

end MinotaurSubnet.Consensus
