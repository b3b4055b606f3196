import MinotaurSubnet.Consensus.ChampionQuorum

/-! # The tuple behind a champion certificate

A waiting `propose` re-reads the table by round id on every poll. What it finds is
its own record as long as nobody proposes another tuple for the round meanwhile; a
second proposal replaces the entry and the first caller returns the other tuple's
certificate.
-/

namespace MinotaurSubnet.Consensus

open Library

section

variable {host : Host} {node : ChampionNode}

def SingleTuple (s : ChampionState) : ChampionEvent → Prop
  | .propose p _ _ => ∀ ref t, s.docket.waiting.get? ref = some t →
      t.proposal.roundId = p.roundId → t.proposal = p
  | _ => True

/-- The records hold matching approvals, and a waiting call finds its own tuple. -/
structure TupleTable (host : Host) (node : ChampionNode) (s : ChampionState) : Prop where
  filed : ∀ round x, s.docket.current round = some x → EndorsedPending host node s x
  found : ∀ ref t x, s.docket.waiting.get? ref = some t →
    s.docket.current t.proposal.roundId = some x → x.proposal = t.proposal

theorem Arises.endorsed {s e round x}
    (table : ∀ round x, s.docket.current round = some x → EndorsedPending host node s x)
    (arises : Arises host node s e round x) : EndorsedPending host node s x := by
  cases arises with
  | kept before => exact table round x before
  | opened signed => exact openPending_endorsed signed
  | extended before _ verified => exact addApproval_endorsed (table _ _ before) verified

theorem tupleTable_step {s e} (table : TupleTable host node s) (single : SingleTuple s e) :
    TupleTable host node (node.step host s e).1 := by
  constructor
  · intro round x after
    exact ((step_current after).endorsed table.filed).congr (step_authorized after)
  · intro ref t x waits after
    rcases step_waiting waits with before | ⟨now, later, own, rfl, signed⟩
    · -- an old call: its record was kept, or replaced by the same tuple, or extended
      generalize keyed : t.proposal.roundId = round at after
      cases step_current after with
      | kept here => exact table.found ref t x before (keyed ▸ here)
      | opened _ => exact (single ref t before keyed).symm
      | extended here _ _ =>
        have same := table.found ref t _ before (by rw [keyed]; exact here)
        exact same
    · rw [propose_own signed after]
      rfl

theorem propose_returns_own_tuple {start s : ChampionState} (fresh : start.docket = .empty)
    (run : Reaches (node.step host) SingleTuple start s)
    {e : ChampionEvent} {p : ChampionProposal} {result : ChampionConsensusResult}
    (out : (node.step host s e).2 = .proposed p (.ok result)) (reached : result.reached = true) :
    ∃ cert, result.certificate = some cert ∧ Certifies cert p
      ∧ ∀ a ∈ cert.approvals, approvalMatchesProposal a p = true := by
  have table : TupleTable host node s := by
    refine run.invariant (TupleTable host node) ?_ fun s e table single =>
      tupleTable_step table single
    constructor
    · intro round x found
      simp [fresh] at found
    · intro ref t x waits _
      simp [fresh, Docket.empty] at waits
  obtain ⟨x, returned, built⟩ := step_proposed out reached
  have own : x.proposal = p ∧ EndorsedPending host node s x := by
    cases returned with
    | immediate signed => exact ⟨rfl, openPending_endorsed signed⟩
    | polled waits here => exact ⟨table.found _ _ x waits here, table.filed _ x here⟩
  obtain ⟨rfl, filed⟩ := own
  obtain ⟨approvals, perm, -, certificate⟩ := reachedResult_spec built
  refine ⟨_, certificate, ⟨rfl, rfl, rfl, rfl, rfl, rfl, rfl, rfl⟩, ?_⟩
  intro a member
  obtain ⟨id, found⟩ := Dict.mem_values.mp (perm.mem_iff.mp member)
  exact (filed.endorsed id a found).1

end

/-- A proposal of candidate `candidate` for the round `r`. -/
def candidateFor (candidate : String) : ChampionProposal where
  roundId := "r"
  candidateSubmissionId := candidate

def approvalFor (candidate validatorId signature : String) : ChampionApproval :=
  { approvalOf validatorId signature with candidateSubmissionId := some candidate }

/-- A proposal of `y` overtakes a waiting proposal of `x`; the caller of the first
    gets the certificate of the second. -/
theorem propose_returns_other_tuple :
    ¬ ∀ (host : Host) (node : ChampionNode) (start s : ChampionState), start.docket = .empty →
      Reaches (node.step host) (fun _ _ => True) start s →
      ∀ (e : ChampionEvent) (p : ChampionProposal) (result : ChampionConsensusResult),
        (node.step host s e).2 = .proposed p (.ok result) → result.reached = true →
        ∃ cert, result.certificate = some cert ∧ Certifies cert p
          ∧ ∀ a ∈ cert.approvals, approvalMatchesProposal a p = true := by
  intro always
  let s := stateAfter [.propose (candidateFor "x") 0 0, .propose (candidateFor "y") 0 0,
    .receiveApproval (approvalFor "y" "0x0b" "0b"), .receiveApproval (approvalFor "y" "0x0c" "0c")]
  let e := ChampionEvent.resume 0 1
  have run : Reaches (unanimousNode.step spellingHost) (fun _ _ => True) idleState s :=
    .next _ (.next _ (.next _ (.next _ .refl trivial) trivial) trivial) trivial
  have seen : (unanimousNode.step spellingHost s e).2.returned?.map (fun (p, result) =>
      (p.candidateSubmissionId, result.reached,
        result.certificate.bind (·.candidateSubmissionId))) = some ("x", true, some "y") := by
    decide +kernel
  obtain ⟨⟨p, result⟩, returned, facts⟩ := Option.map_eq_some_iff.mp seen
  simp only [Prod.mk.injEq] at facts
  obtain ⟨proposed, reached, certificate⟩ := facts
  obtain ⟨cert, certified, tuple, -⟩ := always spellingHost unanimousNode idleState s rfl run e p
    result (returned?_eq_some.mp returned) reached
  have other : cert.candidateSubmissionId = some "y" := by simpa [certified] using certificate
  have own : cert.candidateSubmissionId = some p.candidateSubmissionId := tuple.2.2.2.1
  rw [other, proposed] at own
  exact absurd own (by decide)

/-- The same tuple proposed twice for the round; the first caller returns it. -/
theorem propose_returns_own_tuple_twice :
    let s := stateAfter [.propose (candidateFor "x") 0 0, .propose (candidateFor "x") 0 0,
      .receiveApproval (approvalFor "x" "0x0b" "0b"), .receiveApproval (approvalFor "x" "0x0c" "0c")]
    ∃ p result cert,
      (unanimousNode.step spellingHost s (.resume 0 1)).2 = .proposed p (.ok result)
        ∧ result.certificate = some cert ∧ Certifies cert p := by
  intro s
  have again : SingleTuple (stateAfter [.propose (candidateFor "x") 0 0])
      (.propose (candidateFor "x") 0 0) := by
    intro ref t waits _
    rcases step_waiting waits with before | ⟨_, _, _, same, _⟩
    · simp [idleState, Docket.empty] at before
    · exact (ChampionEvent.propose.inj same).1.symm
  have run : Reaches (unanimousNode.step spellingHost) SingleTuple idleState s := by
    refine .next _ (.next _ (.next _ (.next _ .refl ?_) again) trivial) trivial
    simp [SingleTuple, idleState, Docket.empty]
  have seen : (unanimousNode.step spellingHost s (.resume 0 1)).2.returned?.map (·.2.reached) =
      some true := by decide +kernel
  obtain ⟨⟨p, result⟩, returned, reached⟩ := Option.map_eq_some_iff.mp seen
  have out := returned?_eq_some.mp returned
  obtain ⟨cert, certified, tuple, -⟩ := propose_returns_own_tuple rfl run out reached
  exact ⟨p, result, cert, out, certified, tuple⟩

end MinotaurSubnet.Consensus
