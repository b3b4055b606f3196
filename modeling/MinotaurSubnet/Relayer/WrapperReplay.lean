import MinotaurSubnet.Relayer.ServiceRuns

/-! # Replays of a wrapper

Within one life of the service a wrapper is carried out once: its nonce has to be above the
highest accepted from its signer, and then is the highest. The marks are gone after a restart,
and what is left is the freshness window.
-/

namespace MinotaurSubnet.Relayer

open Library Python

variable {svc : AdminService}

/-- Everything carried out, whenever it was. -/
def Service.calls (s : Service) : List Value := s.current ++ s.earlier

structure CalledOnce (svc : AdminService) (s : Service) : Prop where
  signed : ∀ data ∈ s.calls, ∃ signed, wrapperOf svc.toSubmitService data = some signed
  once : s.calls.Pairwise fun data data' =>
    wrapperOf svc.toSubmitService data ≠ wrapperOf svc.toSubmitService data'

theorem CalledOnce.congr {s s'} (once : CalledOnce svc s) (same : s'.calls = s.calls) :
    CalledOnce svc s' := by
  obtain ⟨signed, once⟩ := once
  exact ⟨same ▸ signed, same ▸ once⟩

/-- A request does not bring a wrapper carried out before a restart that is still fresh and above
    its signer's mark. -/
def NoReplay (svc : AdminService) (s : Service) : ServiceEvent → Prop
  | .request _ now data => ∀ signed ∈ wrapperOf svc.toSubmitService data, ∀ data' ∈ s.earlier,
      wrapperOf svc.toSubmitService data' = some signed →
        isWrapperFresh svc.toSubmitService now signed.payload ≠ none ∨
          signed.payload.submissionNonce ≤ mark svc.toSubmitService s.safeguards signed.signer
  | _ => True

/-- What a run keeps: the calls are apart, and the marks are at the nonces carried out since the
    last start. -/
structure Marked (svc : AdminService) (s : Service) : Prop where
  calledOnce : CalledOnce svc s
  marked : ∀ data ∈ s.current, ∀ signed, wrapperOf svc.toSubmitService data = some signed →
    signed.payload.submissionNonce ≤ mark svc.toSubmitService s.safeguards signed.signer

theorem handled_marks {now s s'} (handled : Handled svc.toSubmitService now s s')
    (signer : String) : mark svc.toSubmitService s signer ≤ mark svc.toSubmitService s' signer := by
  rcases handled with kept | kept
  · exact kept.marks signer
  · rw [← mark_rolled]
    exact kept.marks signer

theorem settle_keeps_marks {report s signer} :
    mark svc.toSubmitService (settle report s).1 signer = mark svc.toSubmitService s signer := by
  cases report with
  | submitted key trace result =>
    have released : (EvmRelayer.releaseUnsent key result s).nonceHighWater = s.nonceHighWater := by
      unfold EvmRelayer.releaseUnsent
      split <;> rfl
    unfold settle
    dsimp only
    split <;> simp [mark, Safeguards.recordGasUsed, released]
  | deployed | called => rfl

theorem marked_request {s endpoint now data} (inv : Marked svc s)
    (allowed : NoReplay svc s (.request endpoint now data)) :
    Marked svc (serviceStep svc s (.request endpoint now data)).1 := by
  have serves := @handle_serves svc now data s.safeguards endpoint
  have grown := handled_marks serves.handled
  unfold serviceStep
  dsimp only
  split
  next called =>
    obtain ⟨signed, admitted⟩ := serves.admitted called
    have apart : ∀ data' ∈ s.calls, wrapperOf svc.toSubmitService data' ≠ some signed := by
      intro data' member same
      rcases List.mem_append.mp member with now' | before
      · exact absurd admitted.above (not_lt.mpr (inv.marked data' now' signed same))
      · rcases allowed signed admitted.carried data' before same with stale | below
        · exact stale admitted.fresh
        · exact absurd admitted.above (not_lt.mpr below)
    refine ⟨⟨?_, ?_⟩, ?_⟩
    · intro data' member
      rcases List.mem_cons.mp member with rfl | old
      · exact ⟨signed, admitted.carried⟩
      · exact inv.calledOnce.signed data' old
    · refine List.pairwise_cons.mpr ⟨fun data' member same => ?_, inv.calledOnce.once⟩
      exact apart data' member (same.symm.trans admitted.carried)
    · intro data' member signed' carried
      rcases List.mem_cons.mp member with rfl | old
      · obtain rfl : signed = signed' := Option.some.inj (admitted.carried.symm.trans carried)
        exact le_of_eq admitted.marked.symm
      · exact (inv.marked data' old signed' carried).trans (grown signed'.signer)
  next refused =>
    refine ⟨inv.calledOnce.congr rfl, fun data' member signed carried => ?_⟩
    exact (inv.marked data' member signed carried).trans (grown signed.signer)

theorem marked_step (s : Service) (e : ServiceEvent) (inv : Marked svc s) (allowed : NoReplay svc s e) :
    Marked svc (serviceStep svc s e).1 := by
  cases e with
  | request endpoint now data => exact marked_request inv allowed
  | reported now report =>
    refine ⟨inv.calledOnce.congr rfl, fun data member signed carried => ?_⟩
    exact (inv.marked data member signed carried).trans (le_of_eq settle_keeps_marks.symm)
  | restart => exact ⟨inv.calledOnce.congr rfl, fun _ member => nomatch member⟩

/-- In a run without such replays every wrapper is carried out once at most. -/
theorem wrapper_called_once {s : Service}
    (reached : Reaches (serviceStep svc) (NoReplay svc) {} s) : CalledOnce svc s := by
  have kept : Marked svc s := reached.invariant (Marked svc)
    ⟨⟨fun _ member => (List.not_mem_nil member).elim, List.Pairwise.nil⟩,
      fun _ member => (List.not_mem_nil member).elim⟩ marked_step
  exact kept.calledOnce

def replayed (again : Int) : List ServiceEvent :=
  [.request .submitPlan 100 (bodyApproving "ord_b"), .restart,
    .request .submitPlan again (bodyApproving "ord_b")]

theorem first_accepted :
    (handle plainAdmin .submitPlan 100 {} (bodyApproving "ord_b")).2 = true := by
  decide +kernel

/-- A second after the first call the service has restarted, and the same body is carried out. -/
theorem wrapper_replayed_after_restart :
    ¬ ∀ (svc : AdminService) (s : Service),
      Reaches (serviceStep svc) (fun _ _ => True) {} s → CalledOnce svc s := by
  intro always
  have once := (always plainAdmin _ (reaches_runEvents (serviceStep plainAdmin) {} (replayed 101))).once
  have again : (handle plainAdmin .submitPlan 101 {} (bodyApproving "ord_b")).2 = true := by
    decide +kernel
  have calls : (runEvents (serviceStep plainAdmin) {} (replayed 101)).calls =
      [bodyApproving "ord_b", bodyApproving "ord_b"] := by
    simp [runEvents, replayed, serviceStep, first_accepted, again, Service.calls]
  rw [calls] at once
  exact (List.pairwise_cons.mp once).1 _ List.mem_cons_self rfl

/-- Forty seconds later it is refused. -/
theorem wrapper_called_once_late :
    CalledOnce plainAdmin (runEvents (serviceStep plainAdmin) {} (replayed 140)) := by
  refine wrapper_called_once (AllowedAlong.reaches ⟨?_, trivial, ?_, trivial⟩)
  · intro signed carried data' before
    exact (List.not_mem_nil before).elim
  · intro signed carried data' before same
    have stale : (wrapperOf plainAdmin.toSubmitService (bodyApproving "ord_b")).all
        (fun signed => (isWrapperFresh plainAdmin.toSubmitService 140 signed.payload).isSome) = true := by
      decide +kernel
    rw [carried, Option.all_some] at stale
    exact .inl (Option.isSome_iff_ne_none.mp stale)

end MinotaurSubnet.Relayer
