import MinotaurSubnet.Relayer.FinalizeChampion
import MinotaurSubnet.Relayer.SubmitQuorum

/-! # Who certified what the relayer merges

Every approval of a certificate is verified over the tuple it carries, and the quorum counts the
signers. Nothing compares the tuples with one another, with the certificate's header or with the
submission, so a quorum stands behind the merge exactly as far as the approvals agree on it. Which
signatures verify and who is registered is not in the body: the approvals have to agree whatever
that is, since any quorum of them could be the one that counts.
-/

namespace MinotaurSubnet.Relayer

open Library Python Consensus

/-- What a body does not say: whose signature it carries, and who is registered. -/
structure Surroundings where
  recoverHash : List UInt8 → List UInt8 → Option String
  authorizedValidators : Int → Except PyError (List String)
  recoverWrapperSigner : String → Int → Int → Int → Value → Except PyError String

def FinalizeService.within (svc : FinalizeService) (around : Surroundings) : FinalizeService :=
  { svc with
    host := { svc.host with recoverHash := around.recoverHash }
    authorizedValidators := around.authorizedValidators
    recoverWrapperSigner := around.recoverWrapperSigner }

namespace Finalize

section

variable (svc : FinalizeService)

def signedDigest (domain : List UInt8) (ap : WireChampionApproval) : Option (List UInt8) :=
  ap.proposal.bind (Consensus.approvalDigest svc.host domain)

def signerOf (ap : WireChampionApproval) : String := svc.host.lower ap.validatorId

/-- The digest and the signature that an approval is verified with. -/
def slot (domain : List UInt8) (ap : WireChampionApproval) : Option (List UInt8 × List UInt8) := do
  return (← signedDigest svc domain ap, ← bytesFromHex (removeHexMarks ap.signature))

/-- `signed v d`: the validator with the lower-cased address `v` signed the digest `d`. Whoever's
    signature verifies in the certificate made it. -/
def Unforged (signed : String → List UInt8 → Prop) (call : FinalizeCall) : Prop :=
  ∀ ap ∈ call.certificate.approvals, approvalVerifies svc call.domain ap = true →
    ∀ digest, signedDigest svc call.domain ap = some digest → signed (signerOf svc ap) digest

/-- The tuple names what is attested and merged: the certificate's round and the body's, the
    certificate's candidate and the submission, and the submission's commit. -/
structure Names (tuple : ChampionProposal) (call : FinalizeCall) : Prop where
  certificateRound : tuple.roundId = call.certificate.roundId
  round : tuple.roundId = call.roundId
  certificateCandidate : call.certificate.candidateSubmissionId = .str tuple.candidateSubmissionId
  candidate : call.submissionId = .str tuple.candidateSubmissionId
  commit : ∃ commitHash, tuple.commitHash = some commitHash ∧ call.commitHash = .str commitHash

def Authority (signed : String → List UInt8 → Prop) (call : FinalizeCall) : Prop :=
  ∃ (tuple : ChampionProposal) (digest : List UInt8) (signers : Finset String),
    Names tuple call ∧ Consensus.approvalDigest svc.host call.domain tuple = some digest ∧
    1 ≤ signers.card ∧ call.certificate.quorumRequired ≤ signers.card ∧
    ∀ v ∈ signers, (∃ a ∈ call.authorized, svc.host.lower a = v) ∧ signed v digest

/-- The digest is that of a tuple that names the merge. -/
def Backs (call : FinalizeCall) (digest : List UInt8) : Prop :=
  ∃ tuple, Names tuple call ∧ Consensus.approvalDigest svc.host call.domain tuple = some digest

/-- Each approval that can be verified is of the round, the candidate and the commit that are attested and
    merged, and when more than one is needed they are all of one tuple. -/
structure Agreeing (call : FinalizeCall) : Prop where
  named : ∀ ap ∈ call.certificate.approvals, ∀ own, slot svc call.domain ap = some own →
    Backs svc call own.1
  together : 2 ≤ call.certificate.quorumRequired →
    ∀ ap ∈ call.certificate.approvals, ∀ own, slot svc call.domain ap = some own →
      ∀ ap' ∈ call.certificate.approvals, ∀ own', slot svc call.domain ap' = some own' → own.1 = own'.1

def presented (call : FinalizeCall) (v : String) (digest : List UInt8) : Prop :=
  ∃ ap ∈ call.certificate.approvals, approvalVerifies svc call.domain ap = true ∧
    signedDigest svc call.domain ap = some digest ∧ signerOf svc ap = v

end

section

variable {svc : FinalizeService} {call : FinalizeCall}

theorem crashing_eq_ok {α : Type} {x : Except PyError α} {a : α} :
    crashing svc x = .ok a ↔ x = .ok a := by
  cases x <;> simp [crashing]

theorem quorum_of_readCertificate {roundId data cert}
    (read : readCertificate svc roundId data = .ok cert) : 1 ≤ cert.quorumRequired := by
  unfold readCertificate at read
  obtain ⟨found, _, read⟩ := bind_eq_ok.mp read
  cases found with
  | none => cases read
  | some own =>
    obtain ⟨_, read⟩ := bind_ok read
    obtain ⟨_, positive, read⟩ := bind_eq_ok.mp read
    obtain rfl := pure_eq_ok.mp read
    exact of_decide_eq_true (ensure_eq_ok.mp positive)

/-- The checks that an accepted body has passed. -/
structure Passed (svc : FinalizeService) (now : Int) (data : Value) (call : FinalizeCall) : Prop where
  checks : ∃ text cert chainId domain authorized, textOf svc data "round_id" = .ok text ∧
    readCertificate svc (stripped text) data = .ok cert ∧ championChainId svc = .ok chainId ∧
    championDomain svc (stripped text) chainId = .ok domain ∧
    readRegistry svc (stripped text) chainId = .ok authorized ∧
    checkFinalizeWrapper svc now (stripped text) cert chainId authorized data = .ok () ∧
    checkQuorum svc (stripped text) cert domain authorized = .ok () ∧
    finalizeCall (stripped text) cert domain authorized data = .ok call

theorem finalizeCore_eq_ok {now : Int} {body : Except PyError Value} :
    finalizeCore svc now body = .ok call ↔ ∃ data, body = .ok data ∧ Passed svc now data call := by
  constructor
  · intro accepted
    cases body with
    | error e => cases accepted
    | ok data =>
      obtain ⟨text, round, accepted⟩ := bind_eq_ok.mp accepted
      obtain ⟨cert, certificate, accepted⟩ := bind_eq_ok.mp accepted
      obtain ⟨chainId, chain, accepted⟩ := bind_eq_ok.mp accepted
      obtain ⟨domain, separator, accepted⟩ := bind_eq_ok.mp accepted
      obtain ⟨authorized, registry, accepted⟩ := bind_eq_ok.mp accepted
      obtain ⟨⟨⟩, wrapper, accepted⟩ := bind_eq_ok.mp accepted
      obtain ⟨⟨⟩, quorum, accepted⟩ := bind_eq_ok.mp accepted
      exact ⟨data, rfl, ⟨text, cert, chainId, domain, authorized, crashing_eq_ok.mp round, certificate,
        crashing_eq_ok.mp chain, separator, registry, wrapper, quorum, crashing_eq_ok.mp accepted⟩⟩
  · rintro ⟨data, rfl, ⟨text, cert, chainId, domain, authorized, round, certificate, chain, separator,
      registry, wrapper, quorum, made⟩⟩
    exact bind_eq_ok.mpr ⟨text, crashing_eq_ok.mpr round, bind_eq_ok.mpr ⟨cert, certificate,
      bind_eq_ok.mpr ⟨chainId, crashing_eq_ok.mpr chain, bind_eq_ok.mpr ⟨domain, separator,
        bind_eq_ok.mpr ⟨authorized, registry, bind_eq_ok.mpr ⟨(), wrapper,
          bind_eq_ok.mpr ⟨(), quorum, crashing_eq_ok.mpr made⟩⟩⟩⟩⟩⟩⟩

theorem finalizeCall_eq_ok {roundId cert domain authorized data}
    (made : finalizeCall roundId cert domain authorized data = .ok call) :
    call.certificate = cert ∧ call.domain = domain ∧ call.authorized = authorized ∧
      ∀ others, finalizeCall roundId cert domain others data = .ok { call with authorized := others } := by
  obtain ⟨submission, read, made⟩ := bind_eq_ok.mp made
  obtain ⟨isPrivate, asked, made⟩ := bind_eq_ok.mp made
  obtain ⟨submissionId, named, made⟩ := bind_eq_ok.mp made
  obtain ⟨commitHash, committed, made⟩ := bind_eq_ok.mp made
  obtain ⟨prNumber, numbered, made⟩ := bind_eq_ok.mp made
  obtain ⟨privateRepo, kept, made⟩ := bind_eq_ok.mp made
  obtain ⟨repoToken, given, made⟩ := bind_eq_ok.mp made
  obtain rfl := pure_eq_ok.mp made
  refine ⟨rfl, rfl, rfl, fun others => ?_⟩
  exact bind_eq_ok.mpr ⟨submission, read, bind_eq_ok.mpr ⟨isPrivate, asked,
    bind_eq_ok.mpr ⟨submissionId, named, bind_eq_ok.mpr ⟨commitHash, committed,
      bind_eq_ok.mpr ⟨prNumber, numbered, bind_eq_ok.mpr ⟨privateRepo, kept,
        bind_eq_ok.mpr ⟨repoToken, given, rfl⟩⟩⟩⟩⟩⟩⟩

theorem Passed.positive {now data} (passed : Passed svc now data call) :
    1 ≤ call.certificate.quorumRequired := by
  obtain ⟨_, _, _, _, _, -, read, -, -, -, -, -, made⟩ := passed.checks
  rw [(finalizeCall_eq_ok made).1]
  exact quorum_of_readCertificate read

/-- A fresh wrapper is accepted wherever its signer is registered. -/
theorem checkFinalizeWrapper_within {now roundId cert chainId authorized others data around signer}
    (checked : checkFinalizeWrapper svc now roundId cert chainId authorized data = .ok ())
    (recovers : ∀ hash nonce timestamp chain signature,
      around.recoverWrapperSigner hash nonce timestamp chain signature = .ok signer)
    (registered : signer ∈ others) :
    checkFinalizeWrapper (svc.within around) now roundId cert chainId others data = .ok () := by
  obtain ⟨wrapper, sent, checked⟩ := bind_eq_ok.mp checked
  obtain ⟨signature, signed, checked⟩ := bind_eq_ok.mp checked
  obtain ⟨⟨⟩, present, checked⟩ := bind_eq_ok.mp checked
  obtain ⟨payload, read, checked⟩ := bind_eq_ok.mp checked
  obtain ⟨expected, hashed, checked⟩ := bind_eq_ok.mp checked
  obtain ⟨⟨⟩, binds, checked⟩ := bind_eq_ok.mp checked
  obtain ⟨⟨⟩, fresh, -⟩ := bind_eq_ok.mp checked
  refine bind_eq_ok.mpr ⟨wrapper, sent, bind_eq_ok.mpr ⟨signature, signed, bind_eq_ok.mpr ⟨(), present,
    bind_eq_ok.mpr ⟨payload, read, bind_eq_ok.mpr ⟨expected, hashed, bind_eq_ok.mpr ⟨(), binds,
      bind_eq_ok.mpr ⟨(), fresh, ?_⟩⟩⟩⟩⟩⟩⟩
  have signs : (svc.within around).recoverWrapperSigner expected payload.submissionNonce
      payload.timestamp payload.chainId signature = .ok signer := recovers _ _ _ _ _
  simp only [signs]
  exact ensure_eq_ok.mpr (List.any_eq_true.mpr ⟨signer, registered, beq_self_eq_true _⟩)

theorem checkQuorum_eq_ok {roundId cert domain authorized} :
    checkQuorum svc roundId cert domain authorized = .ok () ↔
      cert.quorumRequired ≤ (authorizedVerified svc domain authorized cert.approvals).card := by
  unfold checkQuorum
  rw [ensure_eq_ok, decide_eq_true_eq]

theorem mem_authorizedVerified {domain authorized approvals v} :
    v ∈ authorizedVerified svc domain authorized approvals ↔
      (∃ ap ∈ approvals, approvalVerifies svc domain ap = true ∧ signerOf svc ap = v) ∧
        ∃ a ∈ authorized, svc.host.lower a = v := by
  simp [authorizedVerified, signerOf, and_assoc]

theorem approvalVerifies_iff {domain ap} :
    approvalVerifies svc domain ap = true ↔ ∃ own signer, slot svc domain ap = some own ∧
      svc.host.recoverHash own.1 own.2 = some signer ∧ svc.host.lower signer = signerOf svc ap := by
  unfold approvalVerifies slot signedDigest
  cases ap.proposal with
  | none => simp
  | some p =>
    simp [verifyChampionApproval]
    cases Consensus.approvalDigest svc.host domain p with
    | none => simp
    | some digest =>
      cases bytesFromHex (removeHexMarks ap.signature) with
      | none => simp
      | some bytes =>
        cases recovered : svc.host.recoverHash digest bytes with
        | none => simp [recovered]
        | some signer => simp [recovered, signerOf]

theorem signedDigest_of_slot {domain ap own} (given : slot svc domain ap = some own) :
    signedDigest svc domain ap = some own.1 := by
  obtain ⟨digest, hashed, given⟩ := Option.bind_eq_some_iff.mp given
  obtain ⟨bytes, -, given⟩ := Option.bind_eq_some_iff.mp given
  cases given
  exact hashed

/-- Approvals that are just enough, and can all verify at once. -/
structure Matching (svc : FinalizeService) (call : FinalizeCall) (chosen : List WireChampionApproval) :
    Prop where
  listed : ∀ ap ∈ chosen, ap ∈ call.certificate.approvals
  readable : ∀ ap ∈ chosen, ∃ own, slot svc call.domain ap = some own
  signers : (chosen.map (signerOf svc)).Nodup
  slots : (chosen.map (slot svc call.domain)).Nodup
  quorum : (chosen.length : Int) = call.certificate.quorumRequired

/-- Just these approvals verify, and just their validators are registered. -/
def surroundingsOf (svc : FinalizeService) (domain : List UInt8) (chosen : List WireChampionApproval) :
    Surroundings where
  recoverHash digest signature :=
    (chosen.find? fun ap => slot svc domain ap == some (digest, signature)).map (·.validatorId)
  authorizedValidators _ := .ok (chosen.map (·.validatorId))
  recoverWrapperSigner _ _ _ _ _ := .ok ((chosen.map (·.validatorId)).headD "")

variable {chosen : List WireChampionApproval}

theorem find?_slot (matching : Matching svc call chosen) {ap} (member : ap ∈ chosen) :
    chosen.find? (fun other => slot svc call.domain other == slot svc call.domain ap) = some ap := by
  cases found : chosen.find? (fun other => slot svc call.domain other == slot svc call.domain ap) with
  | none => exact absurd (beq_self_eq_true _) (List.find?_eq_none.mp found ap member)
  | some other =>
    have same := eq_of_beq (List.find?_some (p := fun other => slot svc call.domain other ==
      slot svc call.domain ap) found)
    rw [List.inj_on_of_nodup_map matching.slots (List.mem_of_find?_eq_some found) member same]

theorem verifies_within (matching : Matching svc call chosen) {ap} :
    approvalVerifies (svc.within (surroundingsOf svc call.domain chosen)) call.domain ap = true ↔
      ∃ other ∈ chosen, slot svc call.domain ap = slot svc call.domain other ∧
        signerOf svc other = signerOf svc ap := by
  rw [approvalVerifies_iff]
  constructor
  · rintro ⟨own, signer, given, recovered, same⟩
    obtain ⟨other, found, rfl⟩ := Option.map_eq_some_iff.mp recovered
    have here := eq_of_beq (List.find?_some (p := fun ap => slot svc call.domain ap == some (own.1, own.2))
      found)
    exact ⟨other, List.mem_of_find?_eq_some found, given.trans here.symm, same⟩
  · rintro ⟨other, member, here, same⟩
    obtain ⟨own, given⟩ := matching.readable other member
    refine ⟨own, other.validatorId, here.trans given, ?_, same⟩
    have found := find?_slot matching member
    rw [given] at found
    exact Option.map_eq_some_iff.mpr ⟨other, found, rfl⟩

section

variable {around : Surroundings}

theorem readCertificate_within (roundId : String) (data : Value) :
    readCertificate (svc.within around) roundId data = readCertificate svc roundId data := rfl

theorem within_env : (svc.within around).env = svc.env := rfl

theorem championChainId_within : championChainId (svc.within around) = championChainId svc := by
  rw [championChainId, championChainId, within_env]

theorem championDomain_within (roundId : String) (chainId : Int) :
    championDomain (svc.within around) roundId chainId = championDomain svc roundId chainId := rfl

theorem slot_within (domain : List UInt8) (ap : WireChampionApproval) :
    slot (svc.within around) domain ap = slot svc domain ap := rfl

theorem Agreeing.within (agreeing : Agreeing svc call) (others : List String) :
    Agreeing (svc.within around) { call with authorized := others } where
  named ap listed own given := by
    rw [slot_within] at given
    obtain ⟨tuple, names, hashed⟩ := agreeing.named ap listed own given
    exact ⟨tuple, ⟨names.certificateRound, names.round, names.certificateCandidate, names.candidate,
      names.commit⟩, hashed⟩
  together several ap listed own given ap' listed' own' given' := by
    rw [slot_within] at given given'
    exact agreeing.together several ap listed own given ap' listed' own' given'

end

theorem accepted_within {now data} (passed : Passed svc now data call)
    (matching : Matching svc call chosen) (some : chosen ≠ []) :
    finalizeCore (svc.within (surroundingsOf svc call.domain chosen)) now (.ok data) =
      .ok { call with authorized := chosen.map (·.validatorId) } := by
  obtain ⟨text, cert, chainId, domain, authorized, round, certificate, chain, separator, registry, wrapper,
    quorum, made⟩ := passed.checks
  obtain ⟨rfl, rfl, -, others⟩ := finalizeCall_eq_ok made
  obtain ⟨⟨⟩, configured, -⟩ := bind_eq_ok.mp registry
  have registered : (chosen.map (·.validatorId)).headD "" ∈ chosen.map (·.validatorId) := by
    cases chosen with
    | nil => exact absurd rfl some
    | cons ap rest => exact List.mem_cons_self
  refine finalizeCore_eq_ok.mpr ⟨data, rfl, ⟨text, call.certificate, chainId, call.domain,
    chosen.map (·.validatorId), round, (readCertificate_within _ _).trans certificate,
    championChainId_within.trans chain, (championDomain_within _ _).trans separator,
    bind_eq_ok.mpr ⟨(), configured, rfl⟩,
    checkFinalizeWrapper_within wrapper (fun _ _ _ _ _ => rfl) registered, ?_, others _⟩⟩
  have counted : (chosen.map (signerOf svc)).toFinset ⊆
      authorizedVerified (svc.within (surroundingsOf svc call.domain chosen)) call.domain
        (chosen.map (·.validatorId)) call.certificate.approvals := by
    intro v member
    obtain ⟨ap, inside, rfl⟩ := List.mem_map.mp (List.mem_toFinset.mp member)
    exact mem_authorizedVerified.mpr
      ⟨⟨ap, matching.listed ap inside, (verifies_within matching).mpr ⟨ap, inside, rfl, rfl⟩, rfl⟩,
        ap.validatorId, List.mem_map_of_mem inside, rfl⟩
  have enough := Finset.card_le_card counted
  rw [List.toFinset_card_of_nodup matching.signers, List.length_map] at enough
  rw [checkQuorum_eq_ok, ← matching.quorum]
  exact Int.ofNat_le.mpr enough

/-- Where just a matching counts, a merge that has a quorum behind it is one that all of it is for. -/
theorem backs_of_authority (matching : Matching svc call chosen)
    (authority : Authority (svc.within (surroundingsOf svc call.domain chosen))
      (presented (svc.within (surroundingsOf svc call.domain chosen))
        { call with authorized := chosen.map (·.validatorId) })
      { call with authorized := chosen.map (·.validatorId) }) :
    ∃ digest, Backs svc call digest ∧
      ∀ ap ∈ chosen, ∀ own, slot svc call.domain ap = some own → own.1 = digest := by
  obtain ⟨tuple, digest, signers, names, hashed, -, enough, each⟩ := authority
  have inside : signers ⊆ (chosen.map (signerOf svc)).toFinset := by
    intro v member
    obtain ⟨⟨a, registered, rfl⟩, -⟩ := each v member
    obtain ⟨ap, chose, rfl⟩ := List.mem_map.mp registered
    exact List.mem_toFinset.mpr (List.mem_map_of_mem chose)
  have all : signers = (chosen.map (signerOf svc)).toFinset := by
    apply Finset.eq_of_subset_of_card_le inside
    rw [List.toFinset_card_of_nodup matching.signers, List.length_map]
    exact Int.ofNat_le.mp (matching.quorum ▸ enough)
  refine ⟨digest, ⟨tuple, ⟨names.certificateRound, names.round, names.certificateCandidate, names.candidate,
    names.commit⟩, hashed⟩, fun ap member own given => ?_⟩
  have counted : signerOf svc ap ∈ signers := by
    rw [all]
    exact List.mem_toFinset.mpr (List.mem_map_of_mem member)
  obtain ⟨other, -, verifies, signed, same⟩ := (each _ counted).2
  obtain ⟨third, chose, here, alike⟩ := (verifies_within matching).mp verifies
  have one : third = ap := List.inj_on_of_nodup_map matching.signers chose member (alike.trans same)
  have hash := @signedDigest_of_slot svc _ _ _ (here.trans (one ▸ given))
  exact Option.some.inj (hash.symm.trans signed)

theorem exists_matching {now data} (passed : Passed svc now data call) :
    ∃ chosen, Matching svc call chosen := by
  obtain ⟨text, cert, chainId, domain, authorized, -, -, -, -, -, -, quorum, made⟩ := passed.checks
  obtain ⟨rfl, rfl, rfl, -⟩ := finalizeCall_eq_ok made
  have positive := passed.positive
  have enough := Int.toNat_le.mpr (checkQuorum_eq_ok.mp quorum)
  obtain ⟨signers, counted, size⟩ := Finset.exists_subset_card_eq enough
  have each : ∀ v ∈ signers, ∃ ap ∈ call.certificate.approvals,
      approvalVerifies svc call.domain ap = true ∧ signerOf svc ap = v :=
    fun v member => (mem_authorizedVerified.mp (counted member)).1
  choose approval listed verifies own using each
  let chosen := signers.attach.toList.map fun v => approval v.1 v.2
  have slotOf (v : signers) : ∃ digest signer, slot svc call.domain (approval v.1 v.2) = some digest ∧
      svc.host.recoverHash digest.1 digest.2 = some signer ∧ svc.host.lower signer = v.1 := by
    obtain ⟨digest, signer, given, recovered, same⟩ := approvalVerifies_iff.mp (verifies v.1 v.2)
    exact ⟨digest, signer, given, recovered, same.trans (own v.1 v.2)⟩
  refine ⟨chosen, ⟨?_, ?_, ?_, ?_, ?_⟩⟩
  · intro ap member
    obtain ⟨v, -, rfl⟩ := List.mem_map.mp member
    exact listed v.1 v.2
  · intro ap member
    obtain ⟨v, -, rfl⟩ := List.mem_map.mp member
    obtain ⟨digest, -, given, -⟩ := slotOf v
    exact ⟨digest, given⟩
  · rw [List.map_map]
    refine signers.attach.nodup_toList.map_on fun v _ w _ same => Subtype.ext ?_
    exact (own v.1 v.2).symm.trans (same.trans (own w.1 w.2))
  · rw [List.map_map]
    -- one digest and signature recover to one signer
    refine signers.attach.nodup_toList.map_on fun v _ w _ same => Subtype.ext ?_
    obtain ⟨digest, signer, given, recovered, named⟩ := slotOf v
    obtain ⟨digest', signer', given', recovered', named'⟩ := slotOf w
    cases given.symm.trans (same.trans given')
    rw [← named, ← named', Option.some.inj (recovered.symm.trans recovered')]
  · rw [List.length_map, Finset.length_toList, Finset.card_attach, size]
    omega

/-- A matching takes in any approval that is of a digest and signature of its own. -/
theorem Matching.exchange (matching : Matching svc call chosen) (some : chosen ≠ []) {ap}
    (listed : ap ∈ call.certificate.approvals) {own}
    (given : slot svc call.domain ap = Option.some own)
    (fresh : slot svc call.domain ap ∉ chosen.map (slot svc call.domain)) :
    ∃ others, others.Sublist chosen ∧ Matching svc call (ap :: others) := by
  let rest := chosen.filter fun other => signerOf svc other ≠ signerOf svc ap
  have kept : rest.length + 1 ≥ chosen.length := by
    have once := List.nodup_iff_count_le_one.mp matching.signers (signerOf svc ap)
    rw [List.count, List.countP_map, List.countP_eq_length_filter] at once
    have parts := List.length_eq_length_filter_add (l := chosen)
      (fun other => decide (signerOf svc other ≠ signerOf svc ap))
    have same : (chosen.filter fun other => !decide (signerOf svc other ≠ signerOf svc ap)) =
        chosen.filter ((· == signerOf svc ap) ∘ signerOf svc) := by
      refine List.filter_congr fun other _ => ?_
      by_cases here : signerOf svc other = signerOf svc ap <;> simp [here]
    rw [same] at parts
    show (chosen.filter fun other => decide (signerOf svc other ≠ signerOf svc ap)).length + 1 ≥ _
    omega
  have sub : (rest.take (chosen.length - 1)).Sublist chosen :=
    (List.take_sublist _ _).trans List.filter_sublist
  have positive := List.length_pos_of_ne_nil some
  refine ⟨rest.take (chosen.length - 1), sub, ⟨?_, ?_, ?_, ?_, ?_⟩⟩
  · exact List.forall_mem_cons.mpr ⟨listed, fun other member => matching.listed other (sub.subset member)⟩
  · exact List.forall_mem_cons.mpr
      ⟨⟨own, given⟩, fun other member => matching.readable other (sub.subset member)⟩
  · refine List.nodup_cons.mpr ⟨fun member => ?_, matching.signers.sublist (sub.map _)⟩
    obtain ⟨other, taken, same⟩ := List.mem_map.mp member
    exact of_decide_eq_true (List.mem_filter.mp (List.mem_of_mem_take taken)).2 same
  · refine List.nodup_cons.mpr ⟨fun member => fresh ?_, matching.slots.sublist (sub.map _)⟩
    exact (sub.map _).subset member
  · rw [List.length_cons, List.length_take, ← matching.quorum]
    omega

/-- In all surroundings that accept the body, its own among them, the merge has a quorum behind it,
    whatever else was signed. -/
def Backed (svc : FinalizeService) (now : Int) (body : Except PyError Value) : Prop :=
  ∀ around call, finalizeCore (svc.within around) now body = .ok call →
    ∀ signed, Unforged (svc.within around) signed call → Authority (svc.within around) signed call

theorem Backed.here {now body} (backed : Backed svc now body)
    (accepted : finalizeCore svc now body = .ok call) {signed : String → List UInt8 → Prop}
    (unforged : Unforged svc signed call) : Authority svc signed call :=
  backed ⟨svc.host.recoverHash, svc.authorizedValidators, svc.recoverWrapperSigner⟩ call accepted signed
    unforged

theorem authority_of_agreeing (agreeing : Agreeing svc call)
    (positive : 1 ≤ call.certificate.quorumRequired)
    (enough : call.certificate.quorumRequired ≤
      (authorizedVerified svc call.domain call.authorized call.certificate.approvals).card)
    {signed : String → List UInt8 → Prop} (unforged : Unforged svc signed call) :
    Authority svc signed call := by
  obtain ⟨counted, members⟩ : ∃ counted, counted =
      authorizedVerified svc call.domain call.authorized call.certificate.approvals := ⟨_, rfl⟩
  rw [← members] at enough
  have read {v : String} (member : v ∈ counted) : (∃ a ∈ call.authorized, svc.host.lower a = v) ∧
      ∃ ap ∈ call.certificate.approvals, ∃ own, slot svc call.domain ap = some own ∧ signed v own.1 := by
    obtain ⟨⟨ap, listed, verifies, rfl⟩, registered⟩ := mem_authorizedVerified.mp (members ▸ member)
    obtain ⟨own, -, given, -⟩ := approvalVerifies_iff.mp verifies
    exact ⟨registered, ap, listed, own, given,
      unforged ap listed verifies own.1 (signedDigest_of_slot given)⟩
  obtain ⟨v, member⟩ : counted.Nonempty := Finset.card_pos.mp (by omega)
  obtain ⟨registered, ap, listed, own, given, vouched⟩ := read member
  obtain ⟨tuple, names, hashed⟩ := agreeing.named ap listed own given
  by_cases several : 2 ≤ call.certificate.quorumRequired
  · refine ⟨tuple, own.1, counted, names, hashed, by omega, enough, fun w other => ?_⟩
    obtain ⟨registered', ap', listed', own', given', vouched'⟩ := read other
    rw [agreeing.together several ap listed own given ap' listed' own' given']
    exact ⟨registered', vouched'⟩
  · refine ⟨tuple, own.1, {v}, names, hashed, by simp, ?_, fun w same => ?_⟩
    · rw [Finset.card_singleton]
      omega
    · rw [Finset.mem_singleton.mp same]
      exact ⟨registered, vouched⟩

theorem agreeing_of_backed {now data} (passed : Passed svc now data call)
    (backed : Backed svc now (.ok data)) :
    Agreeing svc call := by
  have positive := passed.positive
  have filled {chosen : List WireChampionApproval} (matching : Matching svc call chosen) :
      chosen ≠ [] := by
    rintro rfl
    have none := matching.quorum
    simp at none
    omega
  have unanimous {chosen : List WireChampionApproval} (matching : Matching svc call chosen) :
      ∃ digest, Backs svc call digest ∧
        ∀ ap ∈ chosen, ∀ own, slot svc call.domain ap = some own → own.1 = digest := by
    exact backs_of_authority matching (backed _ _ (accepted_within passed matching (filled matching)) _
      fun ap listed verifies digest signed => ⟨ap, listed, verifies, signed, rfl⟩)
  obtain ⟨chosen, matching⟩ := exists_matching passed
  obtain ⟨digest, backs, all⟩ := unanimous matching
  have each {ap : WireChampionApproval} (listed : ap ∈ call.certificate.approvals)
      {own : List UInt8 × List UInt8} (given : slot svc call.domain ap = some own) :
      Backs svc call own.1 ∧ (2 ≤ call.certificate.quorumRequired → own.1 = digest) := by
    by_cases taken : slot svc call.domain ap ∈ chosen.map (slot svc call.domain)
    · obtain ⟨other, member, same⟩ := List.mem_map.mp taken
      have here := all other member own (same.trans given)
      exact ⟨here ▸ backs, fun _ => here⟩
    · obtain ⟨others, sub, exchanged⟩ := matching.exchange (filled matching) listed given taken
      obtain ⟨digest', backs', all'⟩ := unanimous exchanged
      have here := all' ap List.mem_cons_self own given
      refine ⟨here ▸ backs', fun several => ?_⟩
      cases others with
      | nil =>
        have one := exchanged.quorum
        simp at one
        omega
      | cons other rest =>
        obtain ⟨own', given'⟩ := matching.readable other (sub.subset List.mem_cons_self)
        have there := all' other (List.mem_cons_of_mem ap List.mem_cons_self) own' given'
        exact here.trans (there.symm.trans (all other (sub.subset List.mem_cons_self) own' given'))
  exact ⟨fun ap listed own given => (each listed given).1, fun several ap listed own given ap' listed' own'
    given' => ((each listed given).2 several).trans ((each listed' given').2 several).symm⟩

theorem backed_of_agreeing {now data} (passed : Passed svc now data call)
    (agreeing : Agreeing svc call) : Backed svc now (.ok data) := by
  intro around other accepted signed unforged
  obtain ⟨_, same, passed'⟩ := finalizeCore_eq_ok.mp accepted
  cases same
  have positive := passed'.positive
  obtain ⟨text, cert, chainId, domain, authorized, round, certificate, chain, separator, -, -, -, made⟩ :=
    passed.checks
  obtain ⟨text', cert', chainId', domain', authorized', round', certificate', chain', separator', -, -,
    quorum', made'⟩ := passed'.checks
  -- the surroundings have no part in what is read off the body
  cases round.symm.trans round'
  rw [readCertificate_within] at certificate'
  cases certificate.symm.trans certificate'
  rw [championChainId_within] at chain'
  cases chain.symm.trans chain'
  rw [championDomain_within] at separator'
  cases separator.symm.trans separator'
  obtain ⟨rfl, rfl, -, others⟩ := finalizeCall_eq_ok made
  cases (others authorized').symm.trans made'
  exact authority_of_agreeing (agreeing.within authorized') positive (checkQuorum_eq_ok.mp quorum')
    unforged

end

def namesIt (tuple : ChampionProposal) (call : FinalizeCall) : Bool :=
  tuple.roundId == call.certificate.roundId && tuple.roundId == call.roundId
    && call.certificate.candidateSubmissionId.isStr tuple.candidateSubmissionId
    && call.submissionId.isStr tuple.candidateSubmissionId
    && tuple.commitHash.any fun commitHash => call.commitHash.isStr commitHash

theorem names_of_namesIt {tuple call} (names : namesIt tuple call = true) : Names tuple call := by
  simp only [namesIt, Bool.and_eq_true, beq_iff_eq, Value.isStr_iff, Option.any_eq_true] at names
  obtain ⟨⟨⟨⟨certificateRound, round⟩, certificateCandidate⟩, candidate⟩, commit⟩ := names
  exact { certificateRound, round, certificateCandidate, candidate, commit }

def plainTupleDigests : List (List UInt8 × Nat) :=
  let words : List Nat → List UInt8 := List.flatMap abiWord
  let contract := 0x1111111111111111111111111111111111111111
  let type := 0x8b73c3c69bb8fe3d512ecc4cf759cc79239f7b179b0ffacaa9a75d522b39400f
  let name := 0x47da03c7dc13be32e4be33b6d024e6f5b2b6650e626ad969ab075b8ad66e4db8
  let version := 0xc89efdaa54c0f20c7adf612882df0950f5a951637e0307cdcb4c672f298b8bc6
  let domain := 0xa7767b398ddf9a7938a0f177a610e3a45effd86251e9f2c5b1490006da0e5689
  let approval := 0x6fd7bd2dc14290193ec62f0c144d93f15e0c5e587907ae860aa7f2bee356b3e4
  let round := 0x7d836ba56b88abad41af9a2d0e7a278279f5d24a80179a540545eb5cc8621d6e
  let subA := 0x6bc23675fba7d6411cfd44926c63e3536985b14f64ea6acb73d6a492407b8d4c
  let subB := 0x1c31f75e212af092e9bcb072a04bc01891fc61b87b80cb0c7a6e26e56fae293f
  let commitA := 0x356cc2cf38c9385ff46640bb19c5ce6e6209329c5710162fe950b7fdcad12791
  let commitB := 0xa115a871cf9f599e344f2b7afba09e0ab728c77bc61a4af6f5f7de0df21034ea
  let structA := 0x896cc4eb0e60fbdf7b334dcc2355b8c6bdd31e4e024ea8685a69d6855071eede
  let structB := 0xef311978c6a39d0de3b7dc2b65f5871aced71443fbdc0fc31860c267288348a1
  [ (utf8 ("EIP712Domain(string name,string version,uint256 chainId,"
      ++ "address verifyingContract)"), type),
    (utf8 "MinotaurChampionConsensus", name), (utf8 "1", version),
    (words [type, name, version, 964, contract], domain),
    (utf8 ("ChampionApproval(bytes32 roundId,bytes32 committeeHash,bytes32 incumbentImageId,"
      ++ "bytes32 candidateSubmissionId,bytes32 candidateImageId,bytes32 benchmarkPackHash,"
      ++ "bytes32 shadowCaseLogHash,uint256 effectiveEpoch,bytes32 commitHash,uint256 nonce,"
      ++ "uint256 deadline)"), approval),
    (utf8 "r1", round), (utf8 "sub_a", subA), (utf8 "sub_b", subB),
    (utf8 "of sub_a", commitA), (utf8 "of sub_b", commitB),
    (words [approval, round, 0, 0, subA, 0, 0, 0, 0, commitA, 0, 0], structA),
    (words [approval, round, 0, 0, subB, 0, 0, 0, 0, commitB, 0, 0], structB),
    ([0x19, 0x01] ++ words [domain, structA],
      0xe5f7222736560d4d08b73e553a3d41035ace48249f466598c2cba2e4aac9ab76),
    ([0x19, 0x01] ++ words [domain, structB],
      0x65f3d455ae04be25e2b1b79efb054fa1597de1ead4208ade706f8f09a32ba72c),
    (abiPair (utf8 "r1") (utf8 "sub_b"),
      0x99285bf87684ce037aa09e6da852e03e4308ed72e35eb1cd809e4172ff0cb5e5) ]

def twoSigners : FinalizeService where
  host := { plainHost with keccak := tabled plainTupleDigests }
  abiEncodeStrings := fun
    | [a, b] => some (abiPair (utf8 a) (utf8 b))
    | _ => none
  str := fun v => match v with
    | .str s => s
    | _ => ""
  float := fun v => match v.number? with
    | some x => .ok x
    | none => .error .typeError
  errorText := fun _ => ""
  env := fun key => if key = "CHAMPION_REGISTRY_964" then some plainContract else none
  registryOf := fun chainId => if chainId = 964 then some "0xreg" else none
  authorizedValidators := fun _ => .ok ["0xAA", "0xBB"]
  recoverWrapperSigner := fun _ _ _ _ _ => .ok "0xAA"

def championApproval (validator candidate : String) : Value :=
  .dict [("validator_id", .str validator), ("round_id", .str "r1"),
    ("candidate_submission_id", .str candidate), ("commit_hash", .str ("of " ++ candidate)),
    ("signature", .str validator)]

/-- A body that finalizes `sub_b` with an approval of each validator. -/
def finalizing (first second : String) : Value :=
  .dict [("round_id", .str "r1"),
    ("certificate", .dict [("round_id", .str "r1"), ("candidate_submission_id", .str "sub_b"),
      ("quorum_required", .int 2),
      ("approvals", .list [championApproval "0xaa" first, championApproval "0xbb" second])]),
    ("submission", .dict [("submission_id", .str "sub_b"), ("commit_hash", .str "of sub_b"),
      ("pr_number", .int 7)]),
    ("wrapper", .dict [
      ("plan_hash", .str "0x99285bf87684ce037aa09e6da852e03e4308ed72e35eb1cd809e4172ff0cb5e5"),
      ("submission_nonce", .int 1),
      ("timestamp", .int 100), ("chain_id", .int 964)]),
    ("wrapper_signature", .str "0xaa")]

/-- The body is accepted, and `good` holds of the call. -/
def finalizedWith (data : Value) (good : FinalizeCall → Bool) : Bool :=
  match finalizeCore twoSigners 100 (.ok data) with
  | .ok call => good call
  | .error _ => false

theorem finalizedWith_iff {data} {good : FinalizeCall → Bool} :
    finalizedWith data good = true ↔
      ∃ call, finalizeCore twoSigners 100 (.ok data) = .ok call ∧ good call = true := by
  unfold finalizedWith
  cases finalizeCore twoSigners 100 (.ok data) with
  | error stop => simp
  | ok call => simp

/-- The digests of the approvals that can be verified. -/
def digests (call : FinalizeCall) : List (List UInt8) :=
  call.certificate.approvals.filterMap fun ap => (slot twoSigners call.domain ap).map Prod.fst

theorem mem_digests {call ap own} (listed : ap ∈ call.certificate.approvals)
    (given : slot twoSigners call.domain ap = some own) :
    own.1 ∈ digests call :=
  List.mem_filterMap.mpr ⟨ap, listed, Option.map_eq_some_iff.mpr ⟨own, given, rfl⟩⟩

theorem digests_eq {call} (agreeing : Agreeing twoSigners call)
    (several : 2 ≤ call.certificate.quorumRequired) :
    ∀ d ∈ digests call, ∀ d' ∈ digests call, d = d' := by
  intro d member d' member'
  obtain ⟨ap, listed, read⟩ := List.mem_filterMap.mp member
  obtain ⟨own, given, rfl⟩ := Option.map_eq_some_iff.mp read
  obtain ⟨ap', listed', read'⟩ := List.mem_filterMap.mp member'
  obtain ⟨own', given', rfl⟩ := Option.map_eq_some_iff.mp read'
  exact agreeing.together several ap listed own given ap' listed' own' given'

theorem agreeing_of_digests {call tuple digest} (names : Names tuple call)
    (hashed : Consensus.approvalDigest twoSigners.host call.domain tuple = some digest)
    (all : ∀ d ∈ digests call, d = digest) : Agreeing twoSigners call where
  named _ listed own given := by
    rw [all own.1 (mem_digests listed given)]
    exact ⟨tuple, names, hashed⟩
  together _ _ listed own given _ listed' own' given' :=
    (all own.1 (mem_digests listed given)).trans (all own'.1 (mem_digests listed' given')).symm

end Finalize

end MinotaurSubnet.Relayer
