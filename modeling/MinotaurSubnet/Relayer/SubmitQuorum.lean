import MinotaurSubnet.Relayer.SubmitPlan

/-! # Who approved what the relayer submits

An accepted body carries a quorum of genuine signatures, but each is checked against
the order id its own approval names. Nothing compares that id with the order that is
executed, so the quorum stands behind the submitted order exactly as far as the
approvals name it.
-/

namespace MinotaurSubnet.Relayer

open Library Python Consensus Shared

section

variable (svc : SubmitService)

def approvalDigest (sub : Submission) (orderId : Value) : Option (List UInt8) := do
  let orderId ← orderId.asStr.toOption
  let planHash ← hashPlan svc.host svc.jsonDumps sub.plan
  let domain ← buildDomainSeparator svc.host sub.chainId
    (if sub.contract = "" then zeroAddress else sub.contract)
  planApprovalDigest svc.host orderId planHash sub.thresholdBps domain

/-- `signed v d`: the validator with the lower-cased address `v` signed the digest `d`.
    A signature of the body that recovers to an address was made by it. -/
def Unforged (signed : String → List UInt8 → Prop) (sub : Submission) : Prop :=
  ∀ ap ∈ sub.approvals, ∀ text bytes digest address,
    ap.signature = .str text → bytesFromHex (removeHexMarks text) = some bytes →
    approvalDigest svc sub ap.orderId = some digest →
    svc.host.recoverHash digest bytes = some address → signed (svc.host.lower address) digest

/-- `max(1, ceil(n * quorum_bps / 10000))` of the registered validators. -/
def requiredSigners (sub : Submission) : Int :=
  max 1 ⌈((sub.authorized.length : ℚ) * svc.quorumBps) / 10000⌉

/-- Enough distinct registered validators signed the submitted plan for the submitted order. -/
def QuorumSigned (signed : String → List UInt8 → Prop) (sub : Submission) : Prop :=
  ∃ signers : Finset String, requiredSigners svc sub ≤ signers.card ∧
    ∀ v ∈ signers, (∃ a ∈ sub.authorized, svc.host.lower a = v) ∧
      ∃ digest, approvalDigest svc sub sub.orderId = some digest ∧ signed v digest

/-- The word of an order id in the digest. -/
def orderWord (host : Host) (orderId : String) : List UInt8 := filled (strToBytes32 host orderId)

def namesOrder (sub : Submission) (ap : WireApproval) : Bool :=
  match ap.orderId, sub.orderId with
  | .str named, .str orderId => orderWord svc.host named == orderWord svc.host orderId
  | _, _ => false

def validatorOf (ap : WireApproval) : String :=
  match ap.validatorId with
  | .str validatorId => svc.host.lower validatorId
  | _ => ""

def approversOfOrder (sub : Submission) : Finset String :=
  ((sub.approvals.filter (namesOrder svc sub)).map (validatorOf svc)).toFinset

/-- Of the order id a digest has the word, and that collision-free. -/
def BindsOrder (host : Host) : Prop :=
  ∀ orderId orderId' planHash scoreBps domain digest,
    planApprovalDigest host orderId planHash scoreBps domain = some digest →
    (planApprovalDigest host orderId' planHash scoreBps domain = some digest ↔
      orderWord host orderId = orderWord host orderId')

end

structure Verified (svc : SubmitService) (sub : Submission) (ap : WireApproval) : Prop where
  registered : ∃ a ∈ sub.authorized, svc.host.lower a = validatorOf svc ap
  named : ∃ orderId, ap.orderId = .str orderId
  signature : ∃ text bytes digest address, ap.signature = .str text ∧
    bytesFromHex (removeHexMarks text) = some bytes ∧
    approvalDigest svc sub ap.orderId = some digest ∧
    svc.host.recoverHash digest bytes = some address ∧
    svc.host.lower address = validatorOf svc ap

structure Accepted (svc : SubmitService) (sub : Submission) : Prop where
  verified : ∀ ap ∈ sub.approvals, Verified svc sub ap
  quorum : requiredSigners svc sub ≤ (sub.approvals.map (validatorOf svc)).toFinset.card

section

variable {svc : SubmitService}

theorem asStr_eq_ok {v : Value} {s} : v.asStr = .ok s ↔ v = .str s := by
  cases v <;> simp [Value.asStr]

theorem verifyPlanApproval_true {host : Host} {publicKey signature orderId planHash : String}
    {scoreBps : Int} {domain : List UInt8}
    (valid : verifyPlanApproval host publicKey signature orderId planHash scoreBps domain =
      some true) :
    ∃ bytes digest address, bytesFromHex (removeHexMarks signature) = some bytes ∧
      planApprovalDigest host orderId planHash scoreBps domain = some digest ∧
      host.recoverHash digest bytes = some address ∧ host.lower address = host.lower publicKey := by
  unfold verifyPlanApproval at valid
  obtain ⟨bytes, decoded, valid⟩ := Option.bind_eq_some_iff.mp valid
  obtain ⟨digest, hashed, valid⟩ := Option.bind_eq_some_iff.mp valid
  obtain ⟨address, recovered, valid⟩ := Option.bind_eq_some_iff.mp valid
  exact ⟨bytes, digest, address, decoded, hashed, recovered, by simpa using valid⟩

theorem verifyApproval_eq_ok {chainId authorized thresholdBps domain} {ap : WireApproval} {v}
    (done : verifyApproval svc chainId authorized thresholdBps domain ap = .ok v) :
    ∃ validatorId orderId planHash signature, ap.validatorId = .str validatorId ∧
      isAuthorized svc authorized validatorId = true ∧ ap.orderId = .str orderId ∧
      ap.planHash = .str planHash ∧ ap.signature = .str signature ∧
      verifyPlanApproval svc.host validatorId signature orderId planHash thresholdBps domain =
        some true ∧ v = svc.host.lower validatorId := by
  unfold verifyApproval at done
  obtain ⟨validatorId, who, done⟩ := bind_eq_ok.mp done
  obtain ⟨_, registered, done⟩ := bind_eq_ok.mp done
  obtain ⟨orderId, named, done⟩ := bind_eq_ok.mp done
  obtain ⟨planHash, planned, done⟩ := bind_eq_ok.mp done
  obtain ⟨signature, text, done⟩ := bind_eq_ok.mp done
  rw [raisingStop_eq_ok, asStr_eq_ok] at who named planned text
  rw [ensure_eq_ok] at registered
  split at done
  next => cases done
  next => cases done
  next valid =>
    exact ⟨validatorId, orderId, planHash, signature, who, registered, named, planned, text, valid,
      (pure_eq_ok.mp done).symm⟩

theorem ceilDiv_eq (total : Int) : (total + 9999) / 10000 = ⌈(total : ℚ) / 10000⌉ := by
  symm
  rw [Int.ceil_eq_iff]
  have below : ((total + 9999) / 10000 : Int) * 10000 ≤ total + 9999 := Int.ediv_mul_le _ (by decide)
  have above : total + 9999 < ((total + 9999) / 10000 + 1 : Int) * 10000 :=
    Int.lt_ediv_add_one_mul_self _ (by decide)
  have lower : ((((total + 9999) / 10000 : Int) : ℚ) - 1) * 10000 < total := by
    have : (((total + 9999) / 10000 : Int) - 1) * 10000 < total := by omega
    exact_mod_cast this
  have upper : (total : ℚ) ≤ (((total + 9999) / 10000 : Int) : ℚ) * 10000 := by
    have : total ≤ ((total + 9999) / 10000 : Int) * 10000 := by omega
    exact_mod_cast this
  constructor
  · rw [lt_div_iff₀ (by norm_num)]
    exact lower
  · rw [div_le_iff₀ (by norm_num)]
    exact upper

theorem quorumRequired_eq (sub : Submission) :
    quorumRequired svc sub.authorized = requiredSigners svc sub := by
  unfold quorumRequired requiredSigners
  rw [ceilDiv_eq]
  push_cast
  rfl

theorem lightOrder_eq {bundle submission sub}
    (handed : lightOrder svc bundle submission = .ok sub) : submission = sub := by
  unfold lightOrder at handed
  split at handed
  · obtain ⟨_, handed⟩ := bind_ok handed
    obtain ⟨_, handed⟩ := bind_ok handed
    obtain ⟨_, handed⟩ := bind_ok handed
    obtain ⟨_, handed⟩ := bind_ok handed
    exact pure_eq_ok.mp handed
  · cases handed

theorem expectedPlanHash_ok {bundle planHash}
    (hashed : expectedPlanHash svc bundle = .ok planHash) :
    hashPlan svc.host svc.jsonDumps bundle.plan = some planHash ∧
      ∀ ap ∈ bundle.approvals, ap.planHash = .str planHash := by
  unfold expectedPlanHash at hashed
  split at hashed
  · cases hashed
  next planHash' computed =>
    split at hashed
    · cases hashed
    next none_left =>
      cases hashed
      refine ⟨computed, ?_⟩
      intro ap member
      have same := List.find?_eq_none.mp none_left ap member
      cases field : ap.planHash with
      | str claimed => simp_all [Value.isStr]
      | none | bool | int | float | list | dict => simp_all [Value.isStr]

theorem readBundle_ok {data bundle} (read : readBundle svc data = .ok bundle) :
    (∃ planData, data.get "plan" = .ok planData ∧
      rehydratePlan svc (planData.or (.dict [])) = .ok bundle.plan) ∧
      data.get "wrapper" = .ok bundle.wrapper ∧
      data.get "wrapper_signature" = .ok bundle.wrapperSignature ∧
      ∃ orderData, data.get "order" = .ok orderData ∧ bundle.orderData = orderData.or (.dict []) := by
  obtain ⟨orderData, orderSent, read⟩ := bind_eq_ok.mp read
  obtain ⟨planData, planSent, read⟩ := bind_eq_ok.mp read
  iterate 8 obtain ⟨_, read⟩ := bind_ok read
  obtain ⟨plan, rebuilt, read⟩ := bind_eq_ok.mp read
  obtain ⟨_, read⟩ := bind_ok read
  obtain ⟨_, read⟩ := bind_ok read
  obtain ⟨_, read⟩ := bind_ok read
  obtain ⟨wrapper, wrapperSent, read⟩ := bind_eq_ok.mp read
  obtain ⟨wrapperSignature, signatureSent, read⟩ := bind_eq_ok.mp read
  obtain rfl := pure_eq_ok.mp read
  refine ⟨⟨planData, raisingStop_eq_ok.mp planSent, ?_⟩, raisingStop_eq_ok.mp wrapperSent,
    raisingStop_eq_ok.mp signatureSent, orderData, raisingStop_eq_ok.mp orderSent, rfl⟩
  unfold rehydrated at rebuilt
  split at rebuilt
  · next same => rw [same, Except.ok.inj rebuilt]
  · cases rebuilt

theorem upToQuorum_ok {now s s' data bundle sub}
    (passed : upToQuorum svc now s data = (s', .ok (bundle, sub))) :
    ∃ planHash authorized, readBundle svc data = .ok bundle ∧
      expectedPlanHash svc bundle = .ok planHash ∧
      verifyQuorum svc bundle planHash authorized = .ok sub := by
  unfold upToQuorum at passed
  split at passed
  · cases (Prod.mk.inj passed).2
  next bundle read =>
    split at passed
    · cases (Prod.mk.inj passed).2
    · dsimp only at passed
      split at passed
      · cases (Prod.mk.inj passed).2
      · split at passed
        · cases (Prod.mk.inj passed).2
        next planHash hashed =>
          split at passed
          · cases (Prod.mk.inj passed).2
          next payload signer authorized wrapped =>
            split at passed
            · cases (Prod.mk.inj passed).2
            · split at passed
              · cases (Prod.mk.inj passed).2
              · split at passed
                · cases (Prod.mk.inj passed).2
                next submission verified =>
                  cases passed
                  exact ⟨planHash, authorized, read, hashed, verified⟩

theorem handleSubmitPlan_ok {now s s' data sub}
    (accepted : handleSubmitPlan svc now s data = (s', .ok sub)) :
    ∃ bundle planHash authorized, readBundle svc data = .ok bundle ∧
      expectedPlanHash svc bundle = .ok planHash ∧
      verifyQuorum svc bundle planHash authorized = .ok sub := by
  unfold handleSubmitPlan at accepted
  split at accepted
  · cases (Prod.mk.inj accepted).2
  next bundle submission passed =>
    split at accepted
    · cases (Prod.mk.inj accepted).2
    · dsimp only at accepted
      split at accepted
      · cases (Prod.mk.inj accepted).2
      · obtain rfl := lightOrder_eq (raisingStop_eq_ok.mp (Prod.mk.inj accepted).2)
        exact ⟨bundle, upToQuorum_ok passed⟩

theorem domainOf_ok {chainId contract domain} (built : domainOf svc chainId contract = .ok domain) :
    buildDomainSeparator svc.host chainId (if contract = "" then zeroAddress else contract) =
      some domain := by
  unfold domainOf at built
  split at built
  next found => rw [found, Except.ok.inj built]
  · cases built

theorem accepted_of_handleSubmitPlan {now s s' data sub}
    (accepted : handleSubmitPlan svc now s data = (s', .ok sub)) :
    Accepted svc sub := by
  obtain ⟨bundle, planHash, authorized, -, hashed, verified⟩ := handleSubmitPlan_ok accepted
  obtain ⟨computed, claimed⟩ := expectedPlanHash_ok hashed
  unfold verifyQuorum at verified
  obtain ⟨_, verified⟩ := bind_ok verified
  obtain ⟨domain, built, verified⟩ := bind_eq_ok.mp verified
  obtain ⟨signers, checked, verified⟩ := bind_eq_ok.mp verified
  obtain ⟨_, enough, verified⟩ := bind_eq_ok.mp verified
  obtain ⟨_, verified⟩ := bind_ok verified
  obtain rfl := pure_eq_ok.mp verified
  obtain ⟨fore, back⟩ := mem_mapM_ok checked
  refine ⟨?_, ?_⟩
  · intro ap member
    obtain ⟨v, _, passed⟩ := fore ap member
    obtain ⟨validatorId, named, approved, text, who, registered, order, plan, signature, valid, -⟩ :=
      verifyApproval_eq_ok passed
    have same : approved = planHash := Value.str.inj (plan.symm.trans (claimed ap member))
    obtain ⟨bytes, digest, address, decoded, digested, recovered, signer⟩ :=
      verifyPlanApproval_true valid
    obtain ⟨a, listed, equal⟩ := List.any_eq_true.mp registered
    refine ⟨⟨a, listed, ?_⟩, ⟨named, order⟩, text, bytes, digest, address, signature, decoded, ?_,
      recovered, ?_⟩
    · simpa [validatorOf, who] using equal
    · rw [order]
      simp [approvalDigest, Value.asStr, computed, domainOf_ok built]
      rw [← same]
      exact digested
    · rw [signer, validatorOf, who]
  · rw [← quorumRequired_eq]
    refine (ensure_eq_ok.mp enough |> decide_eq_true_eq.mp).trans ?_
    refine Int.ofNat_le.mpr (Finset.card_le_card ?_)
    intro v member
    obtain ⟨ap, listed, passed⟩ := back v (List.mem_toFinset.mp member)
    obtain ⟨validatorId, _, _, _, who, _, _, _, _, _, rfl⟩ := verifyApproval_eq_ok passed
    refine List.mem_toFinset.mpr (List.mem_map.mpr ⟨ap, listed, ?_⟩)
    rw [validatorOf, who]

end

section

variable {svc : SubmitService} {sub : Submission}

theorem namesOrder_iff {ap} :
    namesOrder svc sub ap = true ↔ ∃ named orderId, ap.orderId = .str named ∧
      sub.orderId = .str orderId ∧ orderWord svc.host named = orderWord svc.host orderId := by
  unfold namesOrder
  split
  next named orderId hn ho => simp [hn, ho]
  next other =>
    simp only [Bool.false_eq_true, false_iff]
    rintro ⟨named, orderId, hn, ho, -⟩
    exact other named orderId hn ho

theorem digest_of_namesOrder (binds : BindsOrder svc.host) {ap digest}
    (approved : approvalDigest svc sub ap.orderId = some digest)
    (names : namesOrder svc sub ap = true) : approvalDigest svc sub sub.orderId = some digest := by
  obtain ⟨named, orderId, hn, ho, same⟩ := namesOrder_iff.mp names
  rw [hn] at approved
  obtain ⟨planHash, hp, approved⟩ := Option.bind_eq_some_iff.mp approved
  obtain ⟨domain, hd, approved⟩ := Option.bind_eq_some_iff.mp approved
  have submitted := (binds _ orderId _ _ _ _ approved).mpr same
  rw [ho]
  exact Option.bind_eq_some_iff.mpr
    ⟨planHash, hp, Option.bind_eq_some_iff.mpr ⟨domain, hd, submitted⟩⟩

theorem namesOrder_of_digest (binds : BindsOrder svc.host) {ap : WireApproval} {digest}
    (approved : approvalDigest svc sub ap.orderId = some digest)
    (submitted : approvalDigest svc sub sub.orderId = some digest) :
    namesOrder svc sub ap = true := by
  obtain ⟨named, hn, approved⟩ := Option.bind_eq_some_iff.mp approved
  obtain ⟨orderId, ho, submitted⟩ := Option.bind_eq_some_iff.mp submitted
  obtain ⟨planHash, hp, approved⟩ := Option.bind_eq_some_iff.mp approved
  obtain ⟨planHash', hp', submitted⟩ := Option.bind_eq_some_iff.mp submitted
  obtain ⟨domain, hd, approved⟩ := Option.bind_eq_some_iff.mp approved
  obtain ⟨domain', hd', submitted⟩ := Option.bind_eq_some_iff.mp submitted
  cases hp.symm.trans hp'
  cases hd.symm.trans hd'
  rw [toOption_eq_some, asStr_eq_ok] at hn ho
  exact namesOrder_iff.mpr ⟨named, orderId, hn, ho, (binds _ _ _ _ _ _ approved).mp submitted⟩

theorem Accepted.quorumSigned (binds : BindsOrder svc.host) (accepted : Accepted svc sub)
    (enough : requiredSigners svc sub ≤ (approversOfOrder svc sub).card)
    {signed : String → List UInt8 → Prop} (unforged : Unforged svc signed sub) :
    QuorumSigned svc signed sub := by
  refine ⟨approversOfOrder svc sub, enough, ?_⟩
  intro v member
  obtain ⟨ap, kept, rfl⟩ := List.mem_map.mp (List.mem_toFinset.mp member)
  obtain ⟨listed, names⟩ := List.mem_filter.mp kept
  obtain ⟨registered, -, text, bytes, digest, address, signature, decoded, digested, recovered,
    signer⟩ := accepted.verified ap listed
  refine ⟨registered, digest, digest_of_namesOrder binds digested names, ?_⟩
  rw [← signer]
  exact unforged ap listed text bytes digest address signature decoded digested recovered

def presented (svc : SubmitService) (sub : Submission) (v : String) (digest : List UInt8) : Prop :=
  ∃ ap ∈ sub.approvals, approvalDigest svc sub ap.orderId = some digest ∧ validatorOf svc ap = v

theorem Accepted.unforged_presented (accepted : Accepted svc sub) :
    Unforged svc (presented svc sub) sub := by
  intro ap listed text bytes digest address signature decoded digested recovered
  obtain ⟨-, -, text', bytes', digest', address', signature', decoded', digested', recovered',
    signer⟩ := accepted.verified ap listed
  cases signature.symm.trans signature'
  cases decoded.symm.trans decoded'
  cases digested.symm.trans digested'
  cases recovered.symm.trans recovered'
  exact ⟨ap, listed, digested, signer.symm⟩

/-- If nobody signed more than the body shows, the signers of the order are the
    approvers that name it. -/
theorem enough_of_quorumSigned (binds : BindsOrder svc.host)
    (quorum : QuorumSigned svc (presented svc sub) sub) :
    requiredSigners svc sub ≤ (approversOfOrder svc sub).card := by
  obtain ⟨signers, enough, each⟩ := quorum
  refine enough.trans (Int.ofNat_le.mpr (Finset.card_le_card ?_))
  intro v member
  obtain ⟨-, digest, submitted, ap, listed, approved, rfl⟩ := each v member
  exact List.mem_toFinset.mpr (List.mem_map.mpr
    ⟨ap, List.mem_filter.mpr ⟨listed, namesOrder_of_digest binds approved submitted⟩, rfl⟩)

/-- What reaches `submit_plan` is backed by a quorum of signatures for its own order,
    whatever else was signed, exactly when a quorum of the body's approvals names it. -/
theorem submit_plan_quorum_iff {now : Int} {s s' : Safeguards} {data : Value}
    (binds : BindsOrder svc.host)
    (accepted : handleSubmitPlan svc now s data = (s', .ok sub)) :
    (∀ signed, Unforged svc signed sub → QuorumSigned svc signed sub) ↔
      requiredSigners svc sub ≤ (approversOfOrder svc sub).card := by
  have shape := accepted_of_handleSubmitPlan accepted
  constructor
  · intro always
    exact enough_of_quorumSigned binds (always _ shape.unforged_presented)
  · intro enough signed unforged
    exact shape.quorumSigned binds enough unforged

end

def plainDigests : List (List UInt8 × Nat) :=
  let words : List Nat → List UInt8 := List.flatMap abiWord
  let contract := 0x1111111111111111111111111111111111111111
  let empty := 0xc5d2460186f7233c927e7db2dcc703c0e500b653ca82273b7bfad8045d85a470
  let plan := 0x2e7807f7505884208eace889c615c3aaad1cab7a980c98d3907bca0030afbf2b
  let type := 0x8b73c3c69bb8fe3d512ecc4cf759cc79239f7b179b0ffacaa9a75d522b39400f
  let name := 0xf8620bc9a769ab4a8ab82d465161bc20bb7b9c67992e229b2e1bf06f0dde99d2
  let version := 0xc89efdaa54c0f20c7adf612882df0950f5a951637e0307cdcb4c672f298b8bc6
  let domain := 0x86197c28797e1aa73520c3390f0c1698201f582a4906bd122b58dc2ee2b8defd
  let approval := 0xb28b5d9b29494bec3811e5f3081c4312e62d302ccd5ff2f39ebaaa756e7d58bf
  let ordA := 0x83116702a65421b4ddf8915d22a73619d088bda9e1351b7aca10fd2aa15b7b25
  let ordB := 0x343d3904421590fc92d073e02defa065610bb1a7e26623bfd61a07db4015da9a
  let structA := 0xa83d77e03db30c7fbfb37a90d2cf639c09be25bed89ad75661b0926f3565671c
  let structB := 0xfee2b1d51e401708050db6000350ac96a4e127cddd97ca1a129c310ab0f5cc44
  [ ([], empty), (words [empty, 1000, 0, empty], plan),
    (utf8 ("EIP712Domain(string name,string version,uint256 chainId,"
      ++ "address verifyingContract)"), type),
    (utf8 "MinotaurAppIntent", name), (utf8 "1", version),
    (words [type, name, version, 8453, contract], domain),
    (utf8 "PlanApproval(bytes32 orderId,bytes32 planHash,uint256 score)", approval),
    (utf8 "ord_a", ordA), (utf8 "ord_b", ordB),
    (words [approval, ordA, plan, 5000], structA), (words [approval, ordB, plan, 5000], structB),
    ([0x19, 0x01] ++ words [domain, structA],
      0x1c85e3f69c61a7cf72d3de01ecbf1271728522deff7cf23c89a390ea909bf466),
    ([0x19, 0x01] ++ words [domain, structB],
      0x96a044aed331f157955550d56705d25e2c7b98e66909edf2ce91ff44618a34e7),
    (abiPair [0x60] (utf8 "[]"),
      0x919ea8d53d1f2e9ff5dc0eb595d21f0e8bbc575c0a823835d53ad75b1445cd4c) ]

def plainHost : Host :=
  { spellingHost with keccak := tabled plainDigests, abiEncode := abiWords addressBytes }

theorem plainHost_keccak {a b} (same : plainHost.keccak a = plainHost.keccak b) : a = b :=
  tabled_inj (by decide +kernel) (by decide +kernel) same

theorem plainHost_bindsOrder : BindsOrder plainHost := by
  intro orderId orderId' planHash scoreBps domain digest first
  obtain ⟨bytes, hashed, rfl⟩ := Option.map_eq_some_iff.mp first
  constructor
  · intro second
    obtain ⟨bytes', hashed', same⟩ := Option.map_eq_some_iff.mp second
    obtain rfl := List.append_cancel_left (plainHost_keccak same)
    obtain ⟨encoded, read, same⟩ := Option.map_eq_some_iff.mp hashed
    obtain ⟨encoded', read', same'⟩ := Option.map_eq_some_iff.mp hashed'
    obtain rfl := plainHost_keccak (same'.trans same.symm)
    obtain ⟨alike, written⟩ := abiWords_inj read read'
    obtain ⟨word, written⟩ := written (.bytes32 (strToBytes32 plainHost orderId)) (by simp)
    simp only [List.map_cons, List.cons.injEq] at alike
    exact (filled_of_written written).trans (filled_of_written (alike.2.1 ▸ written)).symm
  · intro same
    have word := abiWordBytes_filled addressBytes same
    have encodes : plainHost.abiEncode = abiWords addressBytes := rfl
    refine Option.map_eq_some_iff.mpr ⟨bytes, hashed ▸ ?_, rfl⟩
    simp [hashPlanApprovalStruct, hashWords, encodes, abiWords, word]

def twoValidators : SubmitService where
  host := plainHost
  jsonDumps := fun _ => ""
  str := fun _ => ""
  float := fun v => match v.number? with
    | some x => .ok x
    | none => .error .typeError
  errorText := fun _ => ""
  eth := fun _ => ""
  registryOf := fun chainId => if chainId = 8453 then some "0xreg" else none
  authorizedValidators := fun _ => .ok ["0xAA", "0xBB"]
  quorumBps := 10000
  scoreThresholdFor := fun _ _ => 5000
  recoverWrapperSigner := fun _ _ _ _ _ => .ok "0xAA"

def plainPlanHash : String := "0x2e7807f7505884208eace889c615c3aaad1cab7a980c98d3907bca0030afbf2b"

def approvalOf (validator orderId : String) : Value :=
  .dict [("validator_id", .str validator), ("order_id", .str orderId),
    ("plan_hash", .str plainPlanHash), ("signature", .str validator)]

/-- A body that submits `ord_b` with the approvals of both validators for `orderId`. -/
def bodyApproving (orderId : String) : Value :=
  .dict [("order", .dict [("chain_id", .int 8453), ("order_id", .str "ord_b"),
      ("contract_address", .str plainContract)]),
    ("plan", .dict [("deadline", .int 1000), ("nonce", .int 0)]),
    ("consensus_result", .dict [("approvals", .list [approvalOf "0xaa" orderId, approvalOf "0xbb" orderId])]),
    ("wrapper", .dict [("plan_hash", .str plainPlanHash), ("submission_nonce", .int 1),
      ("timestamp", .int 100), ("chain_id", .int 8453)]),
    ("wrapper_signature", .str "0xaa")]

/-- The request is accepted, and `good` holds of what is submitted. -/
def acceptedWith (data : Value) (good : Submission → Bool) : Bool :=
  match (handleSubmitPlan twoValidators 100 {} data).2 with
  | .ok sub => good sub
  | .error _ => false

theorem acceptedWith_iff {data} {good : Submission → Bool} :
    acceptedWith data good = true ↔
      ∃ s' sub, handleSubmitPlan twoValidators 100 {} data = (s', .ok sub) ∧ good sub = true := by
  unfold acceptedWith
  cases ran : handleSubmitPlan twoValidators 100 {} data with
  | mk s' result =>
    cases result with
    | error stop => simp
    | ok sub => simp

/-- Both validators approved `ord_a`; the relayer accepts the bundle for `ord_b`, which
    nobody approved. -/
theorem submit_plan_accepts_foreign_approvals :
    ¬ ∀ (svc : SubmitService) (now : Int) (s s' : Safeguards) (data : Value) (sub : Submission),
      BindsOrder svc.host → handleSubmitPlan svc now s data = (s', .ok sub) →
      ∀ signed, Unforged svc signed sub → QuorumSigned svc signed sub := by
  intro always
  obtain ⟨s', sub, accepted, short⟩ := acceptedWith_iff.mp (by decide +kernel :
    acceptedWith (bodyApproving "ord_a") (fun sub => decide
      ((approversOfOrder twoValidators sub).card < quorumRequired twoValidators sub.authorized)) =
        true)
  have shape := accepted_of_handleSubmitPlan accepted
  have enough := enough_of_quorumSigned plainHost_bindsOrder
    (always twoValidators 100 {} s' _ sub plainHost_bindsOrder accepted _ shape.unforged_presented)
  rw [← quorumRequired_eq] at enough
  have := decide_eq_true_eq.mp short
  omega

/-- With the approvals of the submitted order itself the bundle is backed. -/
theorem submit_plan_quorum_iff_own_approvals :
    ∃ s' sub, handleSubmitPlan twoValidators 100 {} (bodyApproving "ord_b") = (s', .ok sub) ∧
      ∀ signed, Unforged twoValidators signed sub → QuorumSigned twoValidators signed sub := by
  obtain ⟨s', sub, accepted, enough⟩ := acceptedWith_iff.mp (by decide +kernel :
    acceptedWith (bodyApproving "ord_b") (fun sub => decide
      (quorumRequired twoValidators sub.authorized ≤ (approversOfOrder twoValidators sub).card)) =
        true)
  refine ⟨s', sub, accepted, (submit_plan_quorum_iff plainHost_bindsOrder accepted).mpr ?_⟩
  rw [← quorumRequired_eq]
  exact decide_eq_true_eq.mp enough

end MinotaurSubnet.Relayer
