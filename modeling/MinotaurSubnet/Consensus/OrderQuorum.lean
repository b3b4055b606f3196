import MinotaurSubnet.Consensus.Manager
import MinotaurSubnet.Library.Machine

/-! # How many approvals an order consensus collects

`propose` can return `reached` in three ways: the single-validator fast path, at once,
or from its polling loop. The last two count the approvals of a record against the
record's own quorum; the fast path counts the in-memory set, and the polling loop may
find a record of another call. Where neither makes a difference, the caller gets the
quorum it started with.
-/

namespace MinotaurSubnet.Consensus

open Library

def quorumAt (d : Docket String PendingProposal WaitingOrder) (ref : Nat) : Option Int :=
  (d.records[ref]?).map (·.quorum)

section

variable {d : Docket String PendingProposal WaitingOrder} {k : String} {p : PendingProposal}
  {ref : Nat} {q : Int}

theorem quorumAt_register (found : quorumAt d ref = some q) :
    quorumAt (d.register k p) ref = some q := by
  obtain ⟨own, here, same⟩ := Option.map_eq_some_iff.mp found
  have bound : ref < d.records.length := (List.getElem?_eq_some_iff.mp here).1
  simp only [quorumAt, Docket.register, List.getElem?_append_left bound, here, Option.map_some, same]

theorem quorumAt_fresh : quorumAt (d.register k p) d.fresh = some p.quorum := by
  simp [quorumAt, Docket.register, Docket.fresh]

theorem quorumAt_modify {a} :
    quorumAt (d.modify k (·.addApproval a)) ref = quorumAt d ref := by
  simp only [quorumAt, Docket.modify]
  split
  · next own _ =>
    rw [List.getElem?_modify]
    by_cases here : own = ref
    · cases d.records[ref]? <;> simp [here, PendingProposal.addApproval]
    · simp [here]
  · rfl

end

section

variable {host : Host} {node : OrderNode} {s : OrderState}

variable (host node s) in
/-- A `propose` leaves the state alone (it raised, or took the fast path) or collects. -/
theorem propose_cases (call : ProposeCall) (r : Int) (now later : ℚ) :
    (∃ result, node.propose host s call r now later = (s, .proposed result)
      ∧ ∀ found, result = .ok found →
        (node.validators host s).length = 1 ∧ found.approvals.length = 1)
    ∨ ∃ own domain, node.propose host s call r now later =
        node.collect host s call own domain now later := by
  simp only [OrderNode.propose]
  split
  · exact .inl ⟨_, rfl, by simp⟩
  · split
    · next single =>
      refine .inl ⟨_, rfl, ?_⟩
      rintro found ⟨rfl⟩
      exact ⟨single, rfl⟩
    · split
      · exact .inl ⟨_, rfl, by simp⟩
      · exact .inr ⟨_, _, rfl⟩

variable (host node s) in
/-- What collecting leaves behind: the new record under its order, at most one more
    suspended call. -/
theorem collect_docket (call : ProposeCall) (own : SignedApproval) (domain : List UInt8)
    (now later : ℚ) :
    let after := (node.collect host s call own domain now later).1.docket
    let opened := s.docket.register call.orderId (node.openPending host s call domain own now)
    after.records = opened.records
      ∧ (∀ k x, after.current k = some x → opened.current k = some x)
      ∧ ∀ ref t, after.waiting.get? ref = some t →
          s.docket.waiting.get? ref = some t ∨ ref = s.docket.fresh ∧ t.orderId = call.orderId := by
  simp only [OrderNode.collect]
  split
  · split
    · exact ⟨rfl, fun _ _ found => found, fun _ _ waits => .inl waits⟩
    · exact ⟨rfl, fun _ _ found => Docket.current_restrict_some found, fun _ _ waits => .inl waits⟩
  · refine ⟨Docket.poll_records, fun _ _ found => Docket.poll_current found, ?_⟩
    intro ref t waits
    rcases Docket.poll_waiting waits with old | ⟨same, rfl⟩
    · exact .inl old
    · exact .inr ⟨same, rfl⟩

variable {result : ConsensusResult}

theorem reachedResult_enough {p} (quorum : p.hasQuorum = true)
    (built : node.reachedResult p = .ok result) :
    p.quorum ≤ result.approvals.length := by
  obtain ⟨approvals, sorted, returned⟩ := bind_eq_ok.mp built
  obtain rfl := pure_eq_ok.mp returned
  have count : approvals.length = p.approvals.size := by
    rw [(sortById_perm _ sorted).length_eq, Dict.size_eq_values]
  simpa [count, PendingProposal.hasQuorum] using quorum

theorem returned?_eq {out : OrderOutput} (returned : out.returned? = some result) :
    out = .proposed (.ok result) := by
  unfold OrderOutput.returned? at returned
  split at returned
  · cases returned
    rfl
  · cases returned

theorem poll_reached_order {ref} {t : WaitingOrder} {now bound}
    (out : (node.poll s ref t now bound).2.returned? = some result)
    (reached : result.reached = true) :
    ∃ x, s.docket.current t.orderId = some x ∧ x.quorum ≤ result.approvals.length := by
  have returned := returned?_eq out
  simp only [OrderNode.poll] at returned
  split at returned
  · cases returned
    simp at reached
  · next x woke =>
    obtain ⟨here, quorum⟩ := Docket.poll_ready woke
    exact ⟨x, here, reachedResult_enough quorum (OrderOutput.proposed.inj returned)⟩
  · cases returned
  · cases returned
    simp [OrderNode.snapshot] at reached

theorem collect_reached {call own domain now later}
    (out : (node.collect host s call own domain now later).2.returned? = some result)
    (reached : result.reached = true) :
    node.quorumRequired host s ≤ result.approvals.length := by
  simp only [OrderNode.collect] at out
  split at out
  · next quorum =>
    split at out
    · cases out
    · next found built =>
      cases out
      exact reachedResult_enough quorum built
  · obtain ⟨x, here, enough⟩ := poll_reached_order out reached
    rw [Docket.current_register, if_pos rfl] at here
    cases here
    exact enough

theorem step_quorumAt {e ref q} (found : quorumAt s.docket ref = some q) :
    quorumAt (node.step host s e).1.docket ref = some q := by
  cases e with
  | propose call r now later =>
    rcases propose_cases host node s call r now later with
      ⟨result, same, -⟩ | ⟨own, domain, same⟩
    · simpa only [OrderNode.step, same] using found
    · simp only [OrderNode.step, same, quorumAt, (collect_docket host node s call own domain now later).1]
      exact quorumAt_register found
  | resume ref' now =>
    simp only [OrderNode.step]
    split
    · exact found
    · simpa only [quorumAt, OrderNode.poll, Docket.poll_records] using found
  | receiveApproval a r registered =>
    simp only [OrderNode.step, OrderNode.receiveApproval]
    split
    · exact found
    · split
      · exact found
      · exact found
      · rw [quorumAt_modify]
        exact found
  | clearAllPending => exact found
  | pruneExpired now clock => exact found
  | refresh protocolConfig => exact found

end

section

variable (host : Host) (node : OrderNode)

/-- The quorum the polling caller finds is at least the one it started with. -/
def Covered (s : OrderState) : Prop :=
  ∀ ref t q x, s.docket.waiting.get? ref = some t → quorumAt s.docket ref = some q →
    s.docket.current t.orderId = some x → q ≤ x.quorum

/-- A `propose` does not take the fast path with a quorum above one, and does not
    lower the quorum of an order a call is waiting on. -/
def Steady (s : OrderState) : OrderEvent → Prop
  | .propose call _ _ _ =>
    ((node.validators host s).length = 1 → node.quorumRequired host s = 1)
    ∧ ∀ ref t q, s.docket.waiting.get? ref = some t → t.orderId = call.orderId →
        quorumAt s.docket ref = some q → q ≤ node.quorumRequired host s
  | _ => True

variable {host node}

theorem covered_collect {s call own domain r now later} (covered : Covered s)
    (steady : Steady host node s (.propose call r now later)) :
    Covered (node.collect host s call own domain now later).1 := by
  obtain ⟨records, currents, waits⟩ :=
    collect_docket host node s call own domain now later
  intro ref t q x waiting started found
  simp only [quorumAt, records] at started
  have here := currents _ _ found
  rw [Docket.current_register] at here
  rcases waits ref t waiting with old | ⟨rfl, same⟩
  · -- an old call keeps its quorum; its order keeps its record or gets the new one
    have bound := s.docket.waitingBound ref t old
    have before : quorumAt s.docket ref = some q := by
      simpa only [quorumAt, Docket.register, List.getElem?_append_left bound] using started
    split at here
    · next same =>
      cases here
      exact steady.2 ref t q old same before
    · exact covered ref t q x old before here
  · rw [if_pos same] at here
    cases here
    exact (Option.some.inj (quorumAt_fresh.symm.trans started)).ge

theorem covered_step {s e} (covered : Covered s) (steady : Steady host node s e) :
    Covered (node.step host s e).1 := by
  cases e with
  | propose call r now later =>
    rcases propose_cases host node s call r now later with
      ⟨result, same, -⟩ | ⟨own, domain, same⟩
    · simpa only [OrderNode.step, same] using covered
    · simp only [OrderNode.step, same]
      exact covered_collect covered steady
  | resume ref' now =>
    simp only [OrderNode.step]
    split
    · exact covered
    · next t' waits' =>
      intro ref t q x waits started found
      have before : quorumAt s.docket ref = some q := by
        simpa only [quorumAt, OrderNode.poll, Docket.poll_records] using started
      rcases Docket.poll_waiting waits with old | ⟨rfl, rfl⟩
      · exact covered ref t q x old before (Docket.poll_current found)
      · exact covered ref t q x waits' before (Docket.poll_current found)
  | receiveApproval a r registered =>
    simp only [OrderNode.step, OrderNode.receiveApproval]
    split
    · exact covered
    · split
      · exact covered
      · exact covered
      · intro ref t q x waits started found
        rw [quorumAt_modify] at started
        rw [Docket.current_modify] at found
        split at found
        · next same =>
          obtain ⟨y, here, rfl⟩ := Option.map_eq_some_iff.mp found
          exact covered ref t q y waits started (same ▸ here)
        · exact covered ref t q x waits started found
  | clearAllPending =>
    intro ref t q x _ _ found
    simp [OrderNode.step] at found
  | pruneExpired now clock =>
    intro ref t q x waits started found
    exact covered ref t q x waits started (Docket.current_restrict_some found)
  | refresh protocolConfig => exact covered

theorem propose_collects_quorum {start s : OrderState} (fresh : start.docket = .empty)
    (run : Reaches (node.step host) (Steady host node) start s)
    {call : ProposeCall} {r : Int} {now later : ℚ}
    (steady : Steady host node s (.propose call r now later)) :
    let after := node.step host s (.propose call r now later)
    (∀ result, after.2.returned? = some result → result.reached = true →
      node.quorumRequired host s ≤ result.approvals.length)
    ∧ (after.2.isSuspended = true → ∀ s', Reaches (node.step host) (Steady host node) after.1 s' →
      ∀ wake result, (node.step host s' (.resume s.docket.fresh wake)).2.returned? = some result →
        result.reached = true → node.quorumRequired host s ≤ result.approvals.length) := by
  have covered : Covered s := by
    refine run.invariant Covered ?_ fun s e covered steady => covered_step covered steady
    intro ref t q x waits _ _
    simp [fresh, Docket.empty] at waits
  intro after
  constructor
  · intro result returned reached
    rcases propose_cases host node s call r now later with
      ⟨outcome, same, single⟩ | ⟨own, domain, same⟩
    · simp only [after, OrderNode.step, same] at returned
      have out := OrderOutput.proposed.inj (returned?_eq returned)
      obtain ⟨alone, one⟩ := single result out
      rw [one, steady.1 alone]
      decide
    · simp only [after, OrderNode.step, same] at returned
      exact collect_reached returned reached
  · intro suspended s' later' wake result returned reached
    have started : quorumAt after.1.docket s.docket.fresh = some (node.quorumRequired host s) := by
      rcases propose_cases host node s call r now later with
        ⟨outcome, same, -⟩ | ⟨own, domain, same⟩
      · simp [after, OrderNode.step, same, OrderOutput.isSuspended] at suspended
      · simp only [after, OrderNode.step, same, quorumAt,
          (collect_docket host node s call own domain now later).1]
        exact quorumAt_fresh
    have still : quorumAt s'.docket s.docket.fresh = some (node.quorumRequired host s) :=
      later'.invariant (fun s' => quorumAt s'.docket s.docket.fresh = _) started
        fun _ _ found _ => step_quorumAt found
    have coveredLater : Covered s' :=
      later'.invariant Covered (covered_step covered steady)
        fun s e covered steady => covered_step covered steady
    simp only [OrderNode.step] at returned
    split at returned
    · cases returned
    · next t waits =>
      obtain ⟨x, here, enough⟩ := poll_reached_order returned reached
      exact (coveredLater _ t _ x waits still here).trans enough

end

/-- An order node of a committee of three that needs all three, with `peers` discovered. -/
def orderNode : OrderNode where
  validatorId := "0x0a"
  privateKey := "0a"
  meanScore := fun _ => .fin 1

def orderState (peers : List String) : OrderState where
  protocolConfig := {
    quorumBps := 6667
    onChainValidatorCount := 3
    onChainValidators := ["0x0a", "0x0b", "0x0c"]
    peers := peers }
  docket := .empty

def orderCall : ProposeCall where
  orderId := "o"
  score := .fin 1
  planHash := "h"

def orderApproval (validatorId signature : String) : SignedApproval where
  validatorId := validatorId
  orderId := "o"
  planHash := "h"
  score := .fin 1
  signature := signature

/-- Before discovery has found a peer the fast path returns one approval of three. -/
theorem fast_path_returns_one_approval :
    ¬ ∀ (host : Host) (node : OrderNode) (start s : OrderState), start.docket = .empty →
      Reaches (node.step host) (fun _ _ => True) start s →
      ∀ (call : ProposeCall) (r : Int) (now later : ℚ) (result : ConsensusResult),
        (node.step host s (.propose call r now later)).2.returned? = some result →
        result.reached = true → node.quorumRequired host s ≤ result.approvals.length := by
  intro always
  have seen : (orderNode.step spellingHost (orderState [])
      (.propose orderCall 5000 0 0)).2.returned?.map (fun result =>
        (result.reached, result.approvals.length)) = some (true, 1) := by decide +kernel
  obtain ⟨result, returned, facts⟩ := Option.map_eq_some_iff.mp seen
  simp only [Prod.mk.injEq] at facts
  have enough := always spellingHost orderNode (orderState []) _ rfl .refl orderCall 5000 0 0 result
    returned facts.1
  rw [facts.2] at enough
  exact absurd enough (by decide +kernel)

/-- With both peers known the call waits, and returns with three approvals. -/
theorem propose_collects_quorum_three :
    let s := orderState ["0x0b", "0x0c"]
    let after := fun s e => (orderNode.step spellingHost s e).1
    let s' := after (after (after s (.propose orderCall 5000 0 0))
      (.receiveApproval (orderApproval "0x0b" "0b") 5000 true))
      (.receiveApproval (orderApproval "0x0c" "0c") 5000 true)
    ∃ result, (orderNode.step spellingHost s' (.resume 0 1)).2.returned? = some result
      ∧ orderNode.quorumRequired spellingHost s ≤ result.approvals.length := by
  intro s after s'
  have steady : Steady spellingHost orderNode s (.propose orderCall 5000 0 0) := by
    constructor
    · intro single
      exact absurd single (by decide +kernel)
    · intro ref t q waits
      simp [s, orderState, Docket.empty] at waits
  have suspended : (orderNode.step spellingHost s
      (.propose orderCall 5000 0 0)).2.isSuspended = true := by decide +kernel
  have run : Reaches (orderNode.step spellingHost) (Steady spellingHost orderNode)
      (after s (.propose orderCall 5000 0 0)) s' := .next _ (.next _ .refl trivial) trivial
  have seen : (orderNode.step spellingHost s' (.resume 0 1)).2.returned?.map (·.reached) =
      some true := by decide +kernel
  obtain ⟨result, returned, reached⟩ := Option.map_eq_some_iff.mp seen
  exact ⟨result, returned, (propose_collects_quorum rfl .refl steady).2 suspended s' run 1 result
    returned reached⟩

end MinotaurSubnet.Consensus
