import MinotaurSubnet.Library.Machine
import MinotaurSubnet.Validator.Evaluation
import MinotaurSubnet.Validator.ProposalHandler

/-! # What a follower's signature is bound to

The plan hash, the plan, the app and the chain arrive as separate fields of one body.
The evaluation looks at the plan and the signature covers the hash, and nothing
compares the two; a re-served verdict is found by the order id and the hash alone.
-/

namespace MinotaurSubnet.Validator

open Library Python Consensus Shared

section

variable (host : Host) (handler : Handler) (jsonDumps : Value → String)
/- `own app chain contract`: a deployment the follower's store has returned. -/
variable (own : Value → Int → String → Prop)

/-- The evaluated plan hashes to the verdict's plan hash, and the contract is the
    follower's deployment of the verdict's app on its chain. -/
structure BoundVerdict (v : Approval) : Prop where
  hashed : ∃ plan planHash, v.plan = some plan ∧ v.planHash = .str planHash
    ∧ hashPlan host jsonDumps plan = some planHash
  deployed : ∃ contract, v.contractAddress = some contract ∧ contract ≠ ""
    ∧ own v.appId v.chainId contract

/-- The approval is over the plan of this body, evaluated in the verdict, in the domain of
    the follower's deployment of the body's app on the body's chain. -/
def Binds (node : OrderNode) (signing : Signing) (body : Value) (v : Approval)
    (a : SignedApproval) : Prop :=
  ∃ p plan contract domain, parseProposal body = .ok p ∧ parsePlan p = .ok plan
    ∧ v.plan = some plan ∧ hashPlan host jsonDumps plan = some a.planHash
    ∧ own p.appId p.chainId contract ∧ buildDomainSeparator host p.chainId contract = some domain
    ∧ signPlanApproval host node.privateKey a.orderId a.planHash signing.thresholdRead domain =
      some a.signature

/-- A body as the follower expects it: the app is loaded, the plan is there and parses,
    the hash is the plan's and the app has a contract on the chain. -/
def Consistent (outside : Outside) (body : Value) : Prop :=
  ∃ p loaded deployment plan planHash contract, parseProposal body = .ok p
    ∧ loadedFor outside p = .ok loaded ∧ isLoaded loaded p = true
    ∧ outside.scoringDeployment p.appId p.chainId = .ok deployment ∧ parsePlan p = .ok plan
    ∧ p.planHash = .str planHash ∧ hashPlan host jsonDumps plan = some planHash
    ∧ signingContract outside p = .ok (some contract)

def SameSubject (body : Value) (v : Approval) : Prop :=
  ∃ p plan, parseProposal body = .ok p ∧ parsePlan p = .ok plan ∧ v.plan = some plan
    ∧ v.appId = p.appId ∧ v.chainId = p.chainId

def Faithful (s : GuardState) (e : GuardEvent) : Prop :=
  ∀ body v, handler.served host s e = some (body, v) →
    match e with
    | .finish _ outside _ _ => Consistent host jsonDumps outside body
    | .receive _ _ _ _ => SameSubject body v
    | .cancel _ => True

def Stores : GuardEvent → Prop
  | .finish _ outside _ _ => ∀ app chain contract,
      outside.signingDeployment app chain = .ok (some contract) → own app chain contract
  | _ => True

def BoundCache (s : GuardState) : Prop :=
  ∀ key seenAt v, s.seen.get? key = some (seenAt, some (.approved v)) →
    BoundVerdict host jsonDumps own v

variable {host handler jsonDumps own}

theorem evictExpired_some {now seen key entry}
    (kept : (evictExpired now seen).get? key = some entry) :
    seen.get? key = some entry := by
  unfold evictExpired at kept
  split at kept
  · exact kept
  · exact Dict.get?_filter_some (Dict.get?_dropOldest_some kept)

theorem step_seen {s e key seenAt v}
    (after : (handler.step host s e).1.seen.get? key = some (seenAt, some (.approved v))) :
    s.seen.get? key = some (seenAt, some (.approved v))
      ∨ ∃ ref outside later signing body, e = .finish ref outside later signing
          ∧ handler.served host s e = some (body, v) := by
  have move : Handler.Move host handler s e (handler.step host s e) := Handler.step_move s e
  generalize handler.step host s e = next at move after
  cases move with
  | stays => exact .inl after
  | replays => exact .inl after
  | drops => exact .inl (Dict.get?_erase_some after)
  | begins keyed =>
    have marked := evictExpired_some after
    rw [Dict.get?_set] at marked
    split at marked
    · simp at marked
    · exact .inl marked
  | @files _ ref call outside later signing _ configured running filed =>
    rw [Dict.get?_set] at after
    split at after
    · obtain ⟨-, isVerdict⟩ := Prod.mk.inj (Option.some.inj after)
      cases isVerdict
      exact .inr ⟨ref, outside, later, signing, call.body, rfl,
        by simp [Handler.served, running, verdictOf_approved filed]⟩
    · exact .inl after

theorem rescore_plan {outside loaded p deployment plan r} (entered : isLoaded loaded p = true)
    (deployed : outside.scoringDeployment p.appId p.chainId = .ok deployment)
    (built : parsePlan p = .ok plan) (done : rescore host outside loaded p = .ok r) :
    r.plan = some plan := by
  have assigned : ∀ {kept : Rescored} {score : Except PyError PyFloat}, kept.plan = some plan →
      assignScore kept score = .ok r → r.plan = some plan := by
    intro kept score planned assigned
    cases score with
    | ok x =>
      cases assigned
      exact planned
    | error e =>
      obtain ⟨-, rfl⟩ := keepOn_eq_ok.mp assigned
      exact planned
  simp only [rescore, entered, deployed, built, bind, Except.bind, pure, Except.pure, if_true,
    rescorePlan] at done
  split at done
  · split at done
    · simp at done
    · exact assigned rfl done
  · split at done
    · obtain ⟨-, rfl⟩ := keepOn_eq_ok.mp done
      rfl
    · exact assigned rfl done

theorem signingContract_some {outside p contract}
    (signs : signingContract outside p = .ok (some contract)) :
    contract ≠ "" ∧ outside.signingDeployment p.appId p.chainId = .ok (some contract) := by
  unfold signingContract at signs
  split at signs
  · obtain ⟨deployment, read, found⟩ := bind_eq_ok.mp signs
    obtain ⟨address, rfl, nonempty⟩ := Option.bind_eq_some_iff.mp (pure_eq_ok.mp found)
    unfold contractOf at nonempty
    split at nonempty
    · simp at nonempty
    · next filled =>
      cases nonempty
      exact ⟨filled, read⟩
  · simp at signs

theorem consistent_bound {outside body scoreThreshold v}
    (stores : ∀ app chain contract, outside.signingDeployment app chain = .ok (some contract) → own app chain contract)
    (consistent : Consistent host jsonDumps outside body)
    (approved : verifyAndScoreProposalInner host outside body scoreThreshold = .ok v) :
    SameSubject body v ∧ BoundVerdict host jsonDumps own v := by
  obtain ⟨p, loaded, deployment, plan, planHash, contract, parsed, listed, entered, deployed, built,
    isHash, hashed, signs⟩ := consistent
  obtain ⟨p', loaded', r, parsed', -, listed', rescored, passed⟩ := inner_eq_ok.mp approved
  cases parsed.symm.trans parsed'
  cases listed.symm.trans listed'
  have planned : v.plan = some plan := passed.plan.trans (rescore_plan entered deployed built rescored)
  obtain ⟨filled, read⟩ := signingContract_some signs
  have contracted : v.contractAddress = some contract := Except.ok.inj (passed.contract.symm.trans signs)
  refine ⟨⟨p, plan, parsed, built, planned, passed.appId, passed.chainId⟩, ?_⟩
  constructor
  · exact ⟨plan, planHash, planned, passed.planHash.trans isHash, hashed⟩
  · refine ⟨contract, contracted, filled, ?_⟩
    rw [passed.appId, passed.chainId]
    exact stores _ _ _ read

theorem boundCache_step {s e} (bound : BoundCache host jsonDumps own s)
    (faithful : Faithful host handler jsonDumps s e) (stores : Stores own e) :
    BoundCache host jsonDumps own (handler.step host s e).1 := by
  intro key seenAt v after
  rcases step_seen after with before | ⟨ref, outside, later, signing, body, rfl, serves⟩
  · exact bound key seenAt v before
  · obtain ⟨call, running, rfl, evaluated⟩ := Handler.served_finish serves
    exact (consistent_bound stores (faithful _ v serves) evaluated).2

theorem sign_binds {node signing body v a} (bound : BoundVerdict host jsonDumps own v)
    (same : SameSubject body v) (signed : Handler.sign host node v signing = .ok a) :
    Binds host jsonDumps own node signing body v a := by
  obtain ⟨p, plan, parsed, built, planned, app, chain⟩ := same
  obtain ⟨plan', planHash, planned', isHash, hashed⟩ := bound.hashed
  obtain ⟨contract, contracted, filled, deployed⟩ := bound.deployed
  obtain ⟨-, sameHash, -, context, chosen, spelled⟩ := Handler.sign_eq_ok signed
  cases planned.symm.trans planned'
  cases isHash.symm.trans sameHash
  simp only [contracted, orderTarget, filled, if_false, OrderNode.signingContext] at chosen
  obtain ⟨domain, separated, rfl⟩ := Option.map_eq_some_iff.mp chosen
  rw [app, chain] at deployed
  rw [chain] at separated
  exact ⟨p, plan, contract, domain, parsed, built, planned, hashed, deployed, separated, spelled⟩

theorem follower_approval_bound {start s : GuardState} (fresh : start.seen = .empty)
    (run : Reaches (handler.step host)
      (fun s e => Faithful host handler jsonDumps s e ∧ Stores own e) start s)
    {e : GuardEvent} (faithful : Faithful host handler jsonDumps s e) (stores : Stores own e)
    {a : SignedApproval} (out : (handler.step host s e).2 = .approval a) :
    ∃ node signing body v, handler.consensus = some node ∧ Handler.signingOf e = some signing
      ∧ handler.served host s e = some (body, v)
      ∧ Binds host jsonDumps own node signing body v a := by
  have bound : BoundCache host jsonDumps own s := by
    refine run.invariant (BoundCache host jsonDumps own) ?_ fun s e bound allowed =>
      boundCache_step bound allowed.1 allowed.2
    intro key seenAt v found
    rw [fresh] at found
    simp at found
  obtain ⟨node, body, v, signing, configured, serves, signs, signed⟩ := Handler.step_approval out
  refine ⟨node, signing, body, v, configured, signs, serves, ?_⟩
  cases e with
  | cancel ref => simp [Handler.served] at serves
  | receive request door now signing =>
    obtain ⟨key, seenAt, cached⟩ := Handler.served_receive serves
    exact sign_binds (bound key seenAt v cached) (faithful body v serves) signed
  | finish ref outside later signing =>
    obtain ⟨call, running, rfl, evaluated⟩ := Handler.served_finish serves
    obtain ⟨same, sound⟩ := consistent_bound stores (faithful _ v serves) evaluated
    exact sign_binds sound same signed

end

def smallDeployments (_app : Value) (_chain : Int) (contract : String) : Prop := contract = "0xc0"

theorem wellOutside_stores (ref : Nat) (loaded : List String) (later : ℚ) (signing : Signing) :
    Stores smallDeployments (.finish ref (wellOutside loaded) later signing) := by
  intro app chain contract read
  exact (Option.some.inj (Except.ok.inj read)).symm

theorem hashPlan_spelling {jsonDumps : Value → String} {plan planHash}
    (hashed : hashPlan spellingHost jsonDumps plan = some planHash) : planHash = "0x" := by
  iterate 4 obtain ⟨_, _, hashed⟩ := Option.bind_eq_some_iff.mp hashed
  obtain ⟨digest, made, hashed⟩ := Option.bind_eq_some_iff.mp hashed
  cases made
  exact (Option.some.inj hashed).symm

/-- The body's plan is evaluated and the body's unrelated hash is signed. -/
theorem foreign_hash_signed :
    ¬ ∀ (host : Host) (handler : Handler) (jsonDumps : Value → String)
        (own : Value → Int → String → Prop) (start s : GuardState) (e : GuardEvent)
        (a : SignedApproval), start.seen = .empty →
      Reaches (handler.step host) (fun _ e => Stores own e) start s → Stores own e →
      (handler.step host s e).2 = .approval a →
      ∃ node signing body v, handler.consensus = some node ∧ Handler.signingOf e = some signing
        ∧ handler.served host s e = some (body, v)
        ∧ Binds host jsonDumps own node signing body v a := by
  intro always
  let body := proposalBody "h" emptyPlan []
  let e := GuardEvent.finish 0 (wellOutside ["app"]) 1 ⟨5000, 1⟩
  have run : Reaches (smallFollower.step spellingHost) (fun _ e => Stores smallDeployments e)
      idleGuard (receivedBy body) := .next _ .refl trivial
  have seen : (smallFollower.step spellingHost (receivedBy body) e).2.approval?.map (·.planHash) =
      some "h" := by decide +kernel
  obtain ⟨a, out, foreign⟩ := Option.map_eq_some_iff.mp seen
  rw [GuardOutput.approval?_eq_some] at out
  obtain ⟨_, _, _, _, -, -, -, p, plan, _, _, _, _, _, hashed, _⟩ :=
    always spellingHost smallFollower (fun _ => "") smallDeployments idleGuard (receivedBy body) e a
      rfl run (wellOutside_stores 0 ["app"] 1 ⟨5000, 1⟩) out
  exact absurd (foreign.symm.trans (hashPlan_spelling hashed)) (by decide)

/-- The body carries the hash of its own plan. -/
theorem follower_approval_bound_own_hash :
    let body := proposalBody "0x" emptyPlan []
    let e := GuardEvent.finish 0 (wellOutside ["app"]) 1 ⟨5000, 1⟩
    ∃ a node signing v, (smallFollower.step spellingHost (receivedBy body) e).2 = .approval a
      ∧ Binds spellingHost (fun _ => "") smallDeployments node signing body v a := by
  intro body e
  have seen : (smallFollower.step spellingHost (receivedBy body) e).2.approval?.isSome = true := by
    decide +kernel
  obtain ⟨a, out⟩ := Option.isSome_iff_exists.mp seen
  rw [GuardOutput.approval?_eq_some] at out
  have first : Faithful spellingHost smallFollower (fun _ => "") idleGuard
      (.receive (some body) leaderDoor 0 ⟨5000, 0⟩) := by
    intro _ v serves
    obtain ⟨key, seenAt, cached⟩ := Handler.served_receive serves
    simp [idleGuard] at cached
  have run : Reaches (smallFollower.step spellingHost)
      (fun s e => Faithful spellingHost smallFollower (fun _ => "") s e ∧ Stores smallDeployments e)
      idleGuard (receivedBy body) := .next _ .refl ⟨first, trivial⟩
  have isBody : ∀ body' v, smallFollower.served spellingHost (receivedBy body) e = some (body', v) →
      body' = body := by
    intro body' v serves
    obtain ⟨call, running, rfl, -⟩ := Handler.served_finish serves
    exact receivedBy_running running
  have last : Faithful spellingHost smallFollower (fun _ => "") (receivedBy body) e := by
    intro body' v serves
    obtain rfl := isBody body' v serves
    exact ⟨_, ["app"], some "0xc0", _, "0x", "0xc0", rfl, rfl, rfl, rfl, rfl, rfl, rfl, rfl⟩
  obtain ⟨node, signing, body', v, -, -, serves, binds⟩ :=
    follower_approval_bound rfl run last (wellOutside_stores 0 ["app"] 1 ⟨5000, 1⟩) out
  obtain rfl := isBody body' v serves
  exact ⟨a, node, signing, v, out, binds⟩

end MinotaurSubnet.Validator
