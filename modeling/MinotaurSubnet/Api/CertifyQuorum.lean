import MinotaurSubnet.Api.CertifyRound

/-! # The quorum behind a supplied certificate

A follower verifies every approval of a certify request by itself and then compares the
length of the list with the quorum. The proposing path keeps its approvals in a dict
keyed by validator; this one keeps a list, so one verified approval counts as often as
the request repeats it.
-/

namespace MinotaurSubnet.Api

open Library Consensus Harness

section

variable (host : Host) (env : Surroundings)

/-- The configured manager accepts the approval for this tuple: an authorized signer,
    the same tuple, a signature that verifies. -/
def Accepted (p : ChampionProposal) (a : ChampionApproval) : Prop :=
  ∃ node state, env.manager = some (node, state) ∧ node.verifyApproval host state a p = true

/-- At least `quorum_required` validators, distinct up to letter case, each with an
    accepted approval in the certificate for the certificate's own tuple. -/
def ByVerifiedQuorum (cert : ChampionCertificate) : Prop :=
  ∃ p, Certifies cert p ∧ ∃ validators : Finset String, cert.quorumRequired ≤ validators.card
    ∧ ∀ v ∈ validators, ∃ a ∈ cert.approvals, host.lower a.validatorId = v ∧ Accepted host env p a

def approvers (body : CertifyRoundRequest) : Finset String :=
  (body.approvals.map fun a => host.lower a.validatorId).toFinset

variable {host env}

theorem certified_supplied {s s' body state} (supplied : body.approvals ≠ [])
    (done : certifySolverRoundState host env s body = .ok (s', state)) :
    ∃ prepared round p, prepare env s body = .ok (prepared, round)
      ∧ invalidApprovals host env p body.force
          (body.approvals.map (buildChampionApprovalFromPayload p)) = []
      ∧ state.certificate = some (certificateOf p (quorumInForce host env round body)
          (body.approvals.map (buildChampionApprovalFromPayload p)))
      ∧ s'.getRound body.roundId = some state := by
  obtain ⟨⟨prepared, round⟩, ready, done⟩ := bind_eq_ok.mp done
  have filled : body.approvals.isEmpty = false := by
    simpa [List.isEmpty_iff] using supplied
  obtain ⟨p, _, _, valid, stored⟩ := certifyPrepared_supplied filled done
  obtain ⟨certified, kept⟩ := RoundStore.certifyRound_spec stored
  exact ⟨prepared, round, p, ready, valid, certified, kept⟩

theorem accepted_of_valid {p approvals} (configured : env.manager.isSome = true)
    (valid : invalidApprovals host env p false approvals = []) :
    ∀ a ∈ approvals, Accepted host env p a := by
  obtain ⟨⟨node, state⟩, manager⟩ := Option.isSome_iff_exists.mp configured
  intro a member
  refine ⟨node, state, manager, ?_⟩
  simp only [invalidApprovals, manager, List.filter_eq_nil_iff, Bool.not_eq_true,
    Bool.not_eq_false'] at valid
  exact valid a member

theorem approvers_expanded (p : ChampionProposal) (body : CertifyRoundRequest) :
    ((body.approvals.map (buildChampionApprovalFromPayload p)).map
      fun a => host.lower a.validatorId).toFinset = approvers host body := by
  simp [approvers]
  rfl

/-- Whether a certificate of accepted approvals stands for a quorum is a matter of how
    many validators the request names. -/
theorem byVerifiedQuorum_iff {p : ChampionProposal} {quorum : Int} {body : CertifyRoundRequest}
    (valid : invalidApprovals host env p false
      (body.approvals.map (buildChampionApprovalFromPayload p)) = []) :
    ByVerifiedQuorum host env (certificateOf p quorum
        (body.approvals.map (buildChampionApprovalFromPayload p))) ↔
      quorum ≤ 0 ∨ env.manager.isSome = true ∧ quorum ≤ (approvers host body).card := by
  constructor
  · rintro ⟨q, -, validators, enough, backed⟩
    rcases validators.eq_empty_or_nonempty with rfl | ⟨v, member⟩
    · exact .inl (by simpa [certificateOf] using enough)
    · refine .inr ⟨?_, ?_⟩
      · obtain ⟨_, -, -, node, state, manager, -⟩ := backed v member
        rw [manager]
        rfl
      · have named : validators ⊆ approvers host body := by
          intro v member
          obtain ⟨a, listed, rfl, -⟩ := backed v member
          rw [← approvers_expanded p, List.mem_toFinset]
          exact List.mem_map_of_mem listed
        exact enough.trans (by exact_mod_cast Finset.card_le_card named)
  · rintro (trivially | ⟨configured, enough⟩)
    · exact ⟨p, ⟨rfl, rfl, rfl, rfl, rfl, rfl, rfl, rfl⟩, ∅, by simpa [certificateOf] using trivially,
        by simp⟩
    · refine ⟨p, ⟨rfl, rfl, rfl, rfl, rfl, rfl, rfl, rfl⟩, approvers host body, enough, ?_⟩
      intro v member
      rw [← approvers_expanded p, List.mem_toFinset] at member
      obtain ⟨a, listed, same⟩ := List.mem_map.mp member
      exact ⟨a, listed, same, accepted_of_valid configured valid a listed⟩

theorem supplied_certificate_quorum_iff {s s' : RoundStore} {body : CertifyRoundRequest}
    {state : RoundState} (unforced : body.force = false) (supplied : body.approvals ≠ [])
    (done : certifySolverRoundState host env s body = .ok (s', state)) :
    ∃ prepared round cert, prepare env s body = .ok (prepared, round)
      ∧ s'.getRound body.roundId = some state ∧ state.certificate = some cert
      ∧ (ByVerifiedQuorum host env cert ↔
          quorumInForce host env round body ≤ 0
            ∨ env.manager.isSome = true
              ∧ quorumInForce host env round body ≤ (approvers host body).card) := by
  obtain ⟨prepared, round, p, ready, valid, certified, kept⟩ := certified_supplied supplied done
  rw [unforced] at valid
  exact ⟨prepared, round, _, ready, kept, certified, byVerifiedQuorum_iff valid⟩

end

/-- A follower of the three-member committee, ready to certify round `r`. -/
def followerSurroundings : Surroundings where
  manager := some (unanimousNode, idleState)
  submissions := Dict.empty.set "sub" {
    submissionId := "sub", repoUrl := "builtin://genesis", commitHash := "", hotkey := "__genesis__" }
  propose := fun store _ => ⟨store, .error (.other "propose")⟩
  reprStrings := fun ids => "[" ++ ", ".intercalate (ids.map fun id => "'" ++ id ++ "'") ++ "]"

def certifyingStore : RoundStore where
  rounds := Dict.empty.set "r" {
    roundId := "r"
    status := .certifying
    benchmarkPackHash := some "pack"
    finalistSubmissionId := some "sub"
    quorumRequired := some 3 }
  currentRoundId := some "r"

def certifyRequest (approvals : List ChampionApprovalPayload) : CertifyRoundRequest where
  roundId := "r"
  effectiveEpoch := 7
  quorumRequired := 3
  nonce := 1
  deadline := 1
  approvals := approvals

def payloadOf (validatorId signature : String) : ChampionApprovalPayload where
  validatorId := validatorId
  signature := signature

/-- One approval sent three times. -/
theorem repeated_approval_certifies :
    ¬ ∀ (host : Host) (env : Surroundings) (s s' : RoundStore) (body : CertifyRoundRequest)
        (state : RoundState) (cert : ChampionCertificate),
      body.force = false → body.approvals ≠ [] →
      certifySolverRoundState host env s body = .ok (s', state) →
      state.certificate = some cert → ByVerifiedQuorum host env cert := by
  intro always
  let body := certifyRequest [payloadOf "0x0b" "0b", payloadOf "0x0b" "0b", payloadOf "0x0b" "0b"]
  have filled : body.approvals ≠ [] := by simp [body, certifyRequest]
  obtain ⟨⟨s', state⟩, done⟩ : ∃ r,
      certifySolverRoundState spellingHost followerSurroundings certifyingStore body = .ok r :=
    isOk_iff.mp (by decide +kernel)
  obtain ⟨prepared, round, p, -, valid, certified, -⟩ := certified_supplied filled done
  have quorum := always spellingHost followerSurroundings certifyingStore s' body state _
    rfl filled done certified
  rcases (byVerifiedQuorum_iff valid).mp quorum with none | ⟨-, enough⟩
  · exact absurd none (by simp [quorumInForce, intOr, body, certifyRequest])
  · have one : (approvers spellingHost body).card = 1 := by decide +kernel
    rw [one] at enough
    exact absurd enough (by simp [quorumInForce, intOr, body, certifyRequest])

/-- Three validators, one in upper case. -/
theorem supplied_certificate_quorum_three :
    let body := certifyRequest
      [payloadOf "0x0a" "0a", payloadOf "0x0b" "0b", payloadOf "0x0C" "0c"]
    ∃ s' state cert,
      certifySolverRoundState spellingHost followerSurroundings certifyingStore body = .ok (s', state)
        ∧ state.certificate = some cert
        ∧ ByVerifiedQuorum spellingHost followerSurroundings cert := by
  intro body
  have filled : body.approvals ≠ [] := by simp [body, certifyRequest]
  have unforced : body.force = false := rfl
  obtain ⟨⟨s', state⟩, done⟩ : ∃ r,
      certifySolverRoundState spellingHost followerSurroundings certifyingStore body = .ok r :=
    isOk_iff.mp (by decide +kernel)
  obtain ⟨prepared, round, cert, -, -, certified, quorum⟩ :=
    supplied_certificate_quorum_iff unforced filled done
  have three : (approvers spellingHost body).card = 3 := by decide +kernel
  refine ⟨s', state, cert, done, certified, quorum.mpr (.inr ⟨rfl, ?_⟩)⟩
  rw [three]
  simp [quorumInForce, intOr, body, certifyRequest]

end MinotaurSubnet.Api
