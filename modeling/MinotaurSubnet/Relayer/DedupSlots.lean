import MinotaurSubnet.Library.Leases
import MinotaurSubnet.Python.JsonTexts
import MinotaurSubnet.Relayer.ServiceRuns

/-! # The slots of submissions

`handle_submit_plan` reserves a slot for the fill round of an order before it awaits `submit_plan`, and
gives it back when the call comes back without having broadcast anything. Requests interleave at that
await. Between the reservation and the call the handler still converts numbers of the order; a number
that does not convert leaves the slot taken.
-/

namespace MinotaurSubnet.Relayer

open Library Python Consensus Shared
open EvmRelayer (submitPlan sentTxs releaseUnsent lacksHash)

structure Fill where
  orderId : String
  executionCount : Int
  planHash : String
  deriving DecidableEq

/-- `dedup_key`. -/
def Fill.key (fill : Fill) : String := s!"{fill.orderId}:{fill.executionCount}:{fill.planHash}"

structure SlotRequest where
  bundle : Bundle
  submission : Submission
  fill : Fill

def evictAt (limits : SafeguardLimits) (now planDeadline : Int) : Int :=
  min planDeadline (now + limits.dedupMaxTtlSeconds) + limits.dedupGraceSeconds

section

variable (svc : SubmitService) (now : Int)

/-- `handle_submit_plan` up to the reservation. -/
def upToSlot (s : Safeguards) (data : Value) : Safeguards × Except SubmitStop SlotRequest :=
  match upToQuorum svc now s data with
  | (s, .error stop) => (s, .error stop)
  | (s, .ok (bundle, submission)) =>
  match executionCount bundle.orderData with
  | .error e => (s, .error (.raised e))
  | .ok executionCount =>
    (s, .ok { bundle, submission, fill := {
      orderId := svc.str submission.orderId, executionCount, planHash := submission.planHash } })

def reserveSlot (s : Safeguards) (request : SlotRequest) : Safeguards × Except SubmitStop Submission :=
  let (s, seen) := s.checkPlanHashUnseen svc.limits now request.fill.key request.bundle.deadline
  match seen with
  | some text => (s, .error (.response 409 text))
  | none => (s, raisingStop (lightOrder svc request.bundle request.submission))

theorem handleSubmitPlan_eq (s : Safeguards) (data : Value) : handleSubmitPlan svc now s data =
    match upToSlot svc now s data with
    | (s, .error stop) => (s, .error stop)
    | (s, .ok request) => reserveSlot svc now s request := by
  unfold handleSubmitPlan upToSlot
  obtain ⟨s, verified⟩ := upToQuorum svc now s data
  cases verified with
  | error stop => rfl
  | ok verified =>
    obtain ⟨bundle, submission⟩ := verified
    dsimp only
    unfold dedupKey
    cases executionCount bundle.orderData with
    | error e => rfl
    | ok count => rfl

def Safeguards.withSeen (s : Safeguards) (seen : Dict String Int) : Safeguards :=
  { s with seenPlanHashes := seen }

variable {svc now}

section

variable {s : Safeguards} {seen : Dict String Int}

theorem checkDailyGasRoom_withSeen {eth : Int → String} :
    (s.withSeen seen).checkDailyGasRoom svc.limits now eth =
      ((s.checkDailyGasRoom svc.limits now eth).1.withSeen seen,
        (s.checkDailyGasRoom svc.limits now eth).2) := by
  unfold Safeguards.checkDailyGasRoom Safeguards.withSeen
  dsimp only
  split <;> rfl

theorem checkSignerNonce_withSeen {lower : String → String} {signer nonce} :
    (s.withSeen seen).checkSignerNonce lower signer nonce =
      ((s.checkSignerNonce lower signer nonce).1.withSeen seen,
        (s.checkSignerNonce lower signer nonce).2) := by
  unfold Safeguards.checkSignerNonce Safeguards.withSeen
  dsimp only
  split <;> rfl

theorem checkCallerRate_withSeen {lower : String → String} {caller} :
    (s.withSeen seen).checkCallerRate svc.limits lower now caller =
      ((s.checkCallerRate svc.limits lower now caller).1.withSeen seen,
        (s.checkCallerRate svc.limits lower now caller).2) := by
  unfold Safeguards.checkCallerRate Safeguards.withSeen
  dsimp only
  split <;> rfl

theorem upToQuorum_withSeen {data} : upToQuorum svc now (s.withSeen seen) data =
    ((upToQuorum svc now s data).1.withSeen seen, (upToQuorum svc now s data).2) := by
  unfold upToQuorum
  cases readBundle svc data with
  | error stop => rfl
  | ok bundle =>
    dsimp only
    cases Safeguards.checkDeadline now bundle.deadline with
    | some text => rfl
    | none =>
      dsimp only
      rw [checkDailyGasRoom_withSeen]
      dsimp only
      cases (s.checkDailyGasRoom svc.limits now svc.eth).2 with
      | some text => rfl
      | none =>
        dsimp only
        cases expectedPlanHash svc bundle with
        | error stop => rfl
        | ok planHash =>
          dsimp only
          cases checkWrapper svc now bundle planHash with
          | error stop => rfl
          | ok admitted =>
            obtain ⟨payload, signer, authorized⟩ := admitted
            dsimp only
            rw [checkSignerNonce_withSeen]
            generalize Safeguards.checkSignerNonce _ _ _ _ = marked
            obtain ⟨s, replayed⟩ := marked
            cases replayed with
            | some text => rfl
            | none =>
              dsimp only
              rw [checkCallerRate_withSeen]
              generalize Safeguards.checkCallerRate _ _ _ _ _ = counted
              obtain ⟨s, flooded⟩ := counted
              cases flooded with
              | some text => rfl
              | none =>
                dsimp only
                cases verifyQuorum svc bundle planHash authorized with
                | error stop => rfl
                | ok submission => rfl

theorem upToSlot_withSeen {data} : upToSlot svc now (s.withSeen seen) data =
    ((upToSlot svc now s data).1.withSeen seen, (upToSlot svc now s data).2) := by
  unfold upToSlot
  rw [upToQuorum_withSeen]
  obtain ⟨s, verified⟩ := upToQuorum svc now s data
  cases verified with
  | error stop => rfl
  | ok verified =>
    dsimp only
    cases executionCount verified.1.orderData with
    | error e => rfl
    | ok count => rfl

theorem upToSlot_seen {data} :
    (upToSlot svc now s data).1.seenPlanHashes = s.seenPlanHashes := by
  have same := congrArg (·.1.seenPlanHashes) (@upToSlot_withSeen svc now s s.seenPlanHashes data)
  exact same

end

theorem upToSlot_ok {s s' data request} (passed : upToSlot svc now s data = (s', .ok request)) :
    ∃ planHash authorized, readBundle svc data = .ok request.bundle ∧
      expectedPlanHash svc request.bundle = .ok planHash ∧
      verifyQuorum svc request.bundle planHash authorized = .ok request.submission ∧
      request.fill.planHash = request.submission.planHash := by
  unfold upToSlot at passed
  split at passed
  · cases (Prod.mk.inj passed).2
  next verified =>
    split at passed
    · cases (Prod.mk.inj passed).2
    · obtain rfl := Except.ok.inj (Prod.mk.inj passed).2
      obtain ⟨planHash, authorized, read, hashed, counted⟩ := upToQuorum_ok verified
      exact ⟨planHash, authorized, read, hashed, counted, rfl⟩

theorem verifyQuorum_ok {bundle planHash authorized submission}
    (verified : verifyQuorum svc bundle planHash authorized = .ok submission) :
    submission.planHash = planHash ∧ bundle.orderData.get "order_id" (.str "") = .ok submission.orderId := by
  iterate 4 obtain ⟨_, verified⟩ := bind_ok verified
  obtain ⟨orderId, found, verified⟩ := bind_eq_ok.mp verified
  obtain rfl := pure_eq_ok.mp verified
  exact ⟨rfl, raisingStop_eq_ok.mp found⟩

end

theorem hex_plain : ∀ n < 16, hexOfBytes.digit n ≠ ':' := by decide

theorem hexOfBytes_plain (bytes : List UInt8) : ':' ∉ (hexOfBytes bytes).toList := by
  intro member
  rw [hexOfBytes, String.toList_ofList] at member
  obtain ⟨b, -, digit⟩ := List.mem_flatMap.mp member
  have bound := b.toNat_lt
  rcases List.mem_cons.mp digit with upper | lower
  · exact hex_plain _ (by omega) upper.symm
  · exact hex_plain _ (by omega) (List.mem_singleton.mp lower).symm

theorem hashPlan_plain {host} {jsonDumps : Value → String} {plan planHash}
    (hashed : hashPlan host jsonDumps plan = some planHash) :
    ':' ∉ planHash.toList := by
  unfold hashPlan at hashed
  simp only [Option.bind_eq_bind, Option.bind_eq_some_iff, Option.pure_def, Option.some.injEq] at hashed
  obtain ⟨_, _, _, _, _, _, _, _, digest, _, rfl⟩ := hashed
  rw [String.toList_append, List.mem_append, not_or]
  exact ⟨by decide, hexOfBytes_plain digest⟩

theorem count_plain (n : Int) : ':' ∉ (toString n).toList := by
  intro member
  rcases Value.whole_intText member with digit | sign
  · exact absurd digit (by decide)
  · exact absurd sign (by decide)

theorem colon_splits {s t x y} (plain : ':' ∉ s) (plain' : ':' ∉ t)
    (same : s ++ ':' :: x = t ++ ':' :: y) : s = t ∧ x = y := by
  have stops : ∀ {s : List Char}, ':' ∉ s → ∀ c ∈ s, ¬ c = ':' := by
    rintro s plain c inside rfl
    exact plain inside
  obtain ⟨heads, tails⟩ := @append_inj_of_stops _ (· = ':') s t (':' :: x) (':' :: y) (stops plain)
    (stops plain') rfl rfl same
  exact ⟨heads, (List.cons.inj tails).2⟩

theorem Fill.key_inj {a b : Fill} (plain : ':' ∉ a.planHash.toList) (plain' : ':' ∉ b.planHash.toList)
    (same : a.key = b.key) : a = b := by
  have spelled (fill : Fill) : fill.key.toList = fill.orderId.toList ++
      ':' :: ((toString fill.executionCount).toList ++ ':' :: fill.planHash.toList) := by
    simp [Fill.key, toString]
  have chars := congrArg (List.reverse ∘ String.toList) same
  simp only [Function.comp_apply, spelled, List.reverse_append, List.reverse_cons, List.append_assoc,
    List.cons_append, List.nil_append] at chars
  obtain ⟨hashes, chars⟩ := colon_splits (by simpa using plain) (by simpa using plain') chars
  obtain ⟨counts, orders⟩ := colon_splits (by simpa using count_plain a.executionCount)
    (by simpa using count_plain b.executionCount) chars
  obtain ⟨orderId, count, planHash⟩ := a
  obtain ⟨orderId', count', planHash'⟩ := b
  obtain rfl := String.toList_injective (List.reverse_injective hashes)
  obtain rfl := String.toList_injective (List.reverse_injective orders)
  obtain rfl := Int.repr_injective (String.toList_injective (List.reverse_injective counts))
  rfl

section

open EvmRelayer Dialogue

variable {relayer : Relayer} {job : Job}

theorem releaseUnsent_eq {trace result} (run : Dialogue.Runs (submitPlan relayer job) trace result)
    (key : String) (s : Relayer.Safeguards) :
    releaseUnsent key result s = if sentTxs trace = [] then s.releasePlanHash key else s := by
  split
  · next unsent =>
      have quiet : result.broadcastAttempted = false := by
        rw [(run_reports run).broadcast, Bool.eq_false_iff, Ne, sent_iff, not_not]
        exact unsent
      have failed : result.success = false := by
        rw [Bool.eq_false_iff, Ne, success_iff run, unsent]
        simp
      have nameless : result.txHash = none :=
        (run_reports run).named.resolve_right (by simpa [sent_iff] using unsent)
      simp [releaseUnsent, lacksHash, quiet, failed, nameless]
  · next sent =>
      obtain ⟨tx, member⟩ := List.exists_mem_of_ne_nil _ sent
      simp [releaseUnsent, broadcastAttempted_of_sent run member]

end

/-- The safeguards, and every call of `submit_plan` so far with the latest first. -/
structure Desk where
  safeguards : Safeguards := {}
  calls : List (Lease Fill) := []
  clock : Int

inductive DeskEvent where
  | request (now : Int) (data : Value)
  /-- The call at a position comes back, with what it asked and heard. -/
  | returned (now : Int) (position : Nat) (trace : List (Exchange EvmRelayer.Question.Answer))
      (result : EvmRelayer.SubmitResult)

def DeskEvent.now : DeskEvent → Int
  | .request now _ | .returned now _ _ _ => now

section

variable (svc : SubmitService)

/-- What a request does, and whether it calls `submit_plan`. -/
def Desk.handle (desk : Desk) (now : Int) (data : Value) : Desk × Bool :=
  match upToSlot svc now desk.safeguards data with
  | (s, .error _) => ({ desk with safeguards := s, clock := now }, false)
  | (s, .ok request) =>
    match reserveSlot svc now s request with
    | (s, .error _) => ({ desk with safeguards := s, clock := now }, false)
    | (s, .ok _) =>
      let call := { key := request.fill, since := now,
                    expiry := evictAt svc.limits now request.bundle.deadline }
      ({ safeguards := s, calls := call :: desk.calls, clock := now }, true)

def deskStep (desk : Desk) : DeskEvent → Desk × Bool
  | .request now data => desk.handle svc now data
  | .returned now position trace result =>
    match desk.calls[position]? with
    | none => ({ desk with clock := now }, false)
    | some call =>
      ({ safeguards := (settle (.submitted call.key.key trace result) desk.safeguards).1
         calls := desk.calls.set position { call with returned := some !(sentTxs trace).isEmpty }
         clock := now }, false)

theorem handle_handleSubmitPlan (desk : Desk) (now : Int) (data : Value) :
    (desk.handle svc now data).1.safeguards = (handleSubmitPlan svc now desk.safeguards data).1 ∧
      (desk.handle svc now data).2 = (handleSubmitPlan svc now desk.safeguards data).2.isOk := by
  rw [handleSubmitPlan_eq]
  unfold Desk.handle
  generalize upToSlot svc now desk.safeguards data = passed
  obtain ⟨s, outcome⟩ := passed
  cases outcome with
  | error stop => exact ⟨rfl, rfl⟩
  | ok request =>
    dsimp only
    generalize reserveSlot svc now s request = reserved
    obtain ⟨s, outcome⟩ := reserved
    cases outcome with
    | error stop => exact ⟨rfl, rfl⟩
    | ok submission => exact ⟨rfl, rfl⟩

/-- The clock does not go back, a call comes back once and as `submit_plan` answers, and before its
    reservation is evicted. -/
structure DeskInTime (desk : Desk) (e : DeskEvent) : Prop where
  onward : desk.clock ≤ e.now
  unexpired : ∀ call ∈ desk.calls, call.returned = none → e.now < call.expiry
  answered : ∀ now position trace result, e = .returned now position trace result →
    (∃ call, desk.calls[position]? = some call ∧ call.returned = none) ∧
      ∃ relayer job, Dialogue.Runs (submitPlan relayer job) trace result

structure Converts (orderData : Value) : Prop where
  orderId : ∃ orderId, orderData.get "order_id" (.str "") = .ok orderId ∧ sliceable orderId = true
  maxExecutions : ∃ v n, orderData.get "max_executions" (.int 1) = .ok v ∧ v.toInt = .ok n
  cooldown : ∃ v x, orderData.get "cooldown" (.float (.fin 0)) = .ok v ∧ svc.float v = .ok x

def AllConvert (e : DeskEvent) : Prop :=
  ∀ now data bundle, e = .request now data → readBundle svc data = .ok bundle →
    Converts svc bundle.orderData

def Fill.lease (call : Lease Fill) : Lease String := { call with key := call.key.key }

def Desk.leases (desk : Desk) : Leases String where
  table := desk.safeguards.seenPlanHashes
  calls := desk.calls.map Fill.lease
  clock := desk.clock

def leaseEvent (desk : Desk) : DeskEvent → LeaseEvent String
  | .request now data =>
    match (upToSlot svc now desk.safeguards data).2 with
    | .error _ => .tick now
    | .ok request => .reserve now request.fill.key (evictAt svc.limits now request.bundle.deadline)
        (lightOrder svc request.bundle request.submission).isOk
  | .returned now position trace _ => .giveBack now position !(sentTxs trace).isEmpty

variable {svc} {desk : Desk}

theorem leaseEvent_now (e : DeskEvent) : (leaseEvent svc desk e).now = e.now := by
  cases e with
  | request now data =>
    unfold leaseEvent
    dsimp only
    split <;> rfl
  | returned now position trace result => rfl

theorem getElem?_leases {position : Nat} {call : Lease Fill} (here : desk.calls[position]? = some call) :
    desk.leases.calls[position]? = some (Fill.lease call) := by
  simp [Desk.leases, here]

theorem mem_leases {lease} (member : lease ∈ desk.leases.calls) :
    ∃ call ∈ desk.calls, Fill.lease call = lease := List.mem_map.mp member

theorem DeskInTime.leases {e : DeskEvent} (inTime : DeskInTime desk e) :
    desk.leases.InTime (leaseEvent svc desk e) where
  onward := by
    rw [leaseEvent_now]
    exact inTime.onward
  unexpired := by
    intro lease member running
    obtain ⟨call, listed, rfl⟩ := mem_leases member
    rw [leaseEvent_now]
    exact inTime.unexpired call listed running
  running := by
    intro now position used same
    cases e with
    | request now data =>
      unfold leaseEvent at same
      dsimp only at same
      split at same <;> cases same
    | returned now position trace result =>
      obtain ⟨rfl, rfl, rfl⟩ := LeaseEvent.giveBack.inj same
      obtain ⟨⟨call, here, running⟩, -⟩ := inTime.answered _ _ _ _ rfl
      exact ⟨Fill.lease call, getElem?_leases here, running⟩

theorem settle_seen {relayer job key trace result}
    (run : Dialogue.Runs (submitPlan relayer job) trace result) (s : Safeguards) :
    (settle (.submitted key trace result) s).1.seenPlanHashes =
      if !(sentTxs trace).isEmpty then s.seenPlanHashes else s.seenPlanHashes.erase key := by
  unfold settle
  dsimp only
  rw [releaseUnsent_eq run]
  cases sentTxs trace <;> simp <;> split <;> rfl

theorem deskStep_leases {e : DeskEvent} (inTime : DeskInTime desk e) :
    (deskStep svc desk e).1.leases = (desk.leases.step (leaseEvent svc desk e)).1 := by
  cases e with
  | request now data =>
    have untouched := @upToSlot_seen svc now desk.safeguards data
    unfold deskStep leaseEvent Desk.handle
    dsimp only
    generalize upToSlot svc now desk.safeguards data = passed at untouched ⊢
    obtain ⟨s, outcome⟩ := passed
    cases outcome with
    | error stop =>
      have same : s.seenPlanHashes = desk.safeguards.seenPlanHashes := untouched
      simp only [Desk.leases, Leases.step, same]
    | ok request =>
      have same : s.seenPlanHashes = desk.leases.table := untouched
      dsimp only
      unfold reserveSlot Safeguards.checkPlanHashUnseen Leases.step Leases.unexpired
      dsimp only
      rw [same]
      cases (desk.leases.table.filter fun _ expiry => decide (now < expiry)).get? request.fill.key with
      | some existing => rfl
      | none =>
        dsimp only
        cases lightOrder svc request.bundle request.submission with
        | error e => rfl
        | ok submission => rfl
  | returned now position trace result =>
    obtain ⟨⟨call, here, -⟩, relayer, job, run⟩ := inTime.answered _ _ _ _ rfl
    simp only [deskStep, leaseEvent, here, Leases.step, getElem?_leases here]
    simp only [Desk.leases, settle_seen run, List.map_set]
    rfl

theorem lightOrder_of_converts {bundle submission} (converts : Converts svc bundle.orderData)
    (own : bundle.orderData.get "order_id" (.str "") = .ok submission.orderId) :
    lightOrder svc bundle submission = .ok submission := by
  obtain ⟨orderId, found, cut⟩ := converts.orderId
  obtain ⟨v, n, given, count⟩ := converts.maxExecutions
  obtain ⟨w, x, given', length⟩ := converts.cooldown
  obtain rfl : orderId = submission.orderId := Except.ok.inj (found.symm.trans own)
  unfold lightOrder
  rw [if_pos cut]
  refine bind_eq_ok.mpr ⟨v, given, bind_eq_ok.mpr ⟨n, count, ?_⟩⟩
  exact bind_eq_ok.mpr ⟨w, given', bind_eq_ok.mpr ⟨x, length, rfl⟩⟩

theorem starts_of_allConvert {e} (converts : AllConvert svc e) :
    Leases.Starts (leaseEvent svc desk e) := by
  cases e with
  | returned now position trace result => trivial
  | request now data =>
    unfold leaseEvent
    dsimp only
    split
    · trivial
    · next request passed =>
        obtain ⟨planHash, authorized, read, -, verified, -⟩ := upToSlot_ok (Prod.ext rfl passed)
        have light := lightOrder_of_converts (converts now data _ rfl read) (verifyQuorum_ok verified).2
        show (lightOrder svc request.bundle request.submission).isOk = true
        rw [light]
        rfl

theorem reaches_leases {clock} {allowed : Desk → DeskEvent → Prop}
    {allowed' : Leases String → LeaseEvent String → Prop}
    (inTime : ∀ desk e, allowed desk e → DeskInTime desk e)
    (permitted : ∀ desk e, allowed desk e → allowed' desk.leases (leaseEvent svc desk e))
    (reached : Reaches (deskStep svc) allowed { clock } desk) :
    Reaches Leases.step allowed' { clock } desk.leases := by
  induction reached with
  | refl => exact .refl
  | next e _ legal ih =>
    rw [deskStep_leases (inTime _ e legal)]
    exact .next _ ih (permitted _ e legal)

def PlainKeys (desk : Desk) : Prop := ∀ call ∈ desk.calls, ':' ∉ call.key.planHash.toList

theorem upToSlot_plain {now s s' data request}
    (passed : upToSlot svc now s data = (s', .ok request)) :
    ':' ∉ request.fill.planHash.toList := by
  obtain ⟨planHash, authorized, -, hashed, verified, same⟩ := upToSlot_ok passed
  rw [same, (verifyQuorum_ok verified).1]
  exact hashPlan_plain (expectedPlanHash_ok hashed).1

theorem plainKeys_step (plain : PlainKeys desk) (e : DeskEvent) : PlainKeys (deskStep svc desk e).1 := by
  cases e with
  | request now data =>
    unfold deskStep Desk.handle
    dsimp only
    split
    · exact plain
    · next s request passed =>
        split
        · exact plain
        · rintro call member
          rcases List.mem_cons.mp member with rfl | member
          · exact upToSlot_plain passed
          · exact plain call member
  | returned now position trace result =>
    unfold deskStep
    dsimp only
    split
    · exact plain
    · next back here =>
        intro call member
        rcases List.mem_or_eq_of_mem_set member with member | rfl
        · exact plain call member
        · exact plain back (List.mem_of_getElem? here)

structure SlotsKept (desk : Desk) : Prop where
  one_running : ∀ fill,
    (desk.calls.filter fun call => decide (call.key = fill ∧ call.returned = none)).length ≤ 1
  apart : desk.calls.Pairwise fun later earlier => later.key = earlier.key →
    earlier.returned = some false ∨ (earlier.returned = some true ∧ earlier.expiry ≤ later.since)

theorem slotsKept_of_orderly (orderly : Leases.Orderly desk.leases) : SlotsKept desk where
  one_running := by
    intro fill
    refine le_trans ?_ (orderly.one_running fill.key)
    simp only [Desk.leases, List.filter_map, List.length_map]
    refine (List.monotone_filter_right desk.calls fun call => ?_).length_le
    simp only [decide_eq_true_eq, Function.comp_apply]
    rintro ⟨rfl, running⟩
    exact ⟨rfl, running⟩
  apart := (List.pairwise_map.mp orderly.apart).imp fun apart same => apart (congrArg Fill.key same)

def OtherwiseValid (svc : SubmitService) (now : Int) (s : Safeguards) (data : Value) (fill : Fill) : Prop :=
  ∃ s' request, upToSlot svc now s data = (s', .ok request) ∧ request.fill = fill ∧
    (handleSubmitPlan svc now (s.withSeen .empty) data).2.isOk = true

def Reopens (svc : SubmitService) (desk : Desk) : Prop :=
  ∀ fill call, desk.calls.find? (·.key = fill) = some call → call.returned = some false →
    ∀ now data, OtherwiseValid svc now desk.safeguards data fill →
      (handleSubmitPlan svc now desk.safeguards data).2.isOk = true

theorem latest_leases {fill : Fill} (plain : PlainKeys desk) (hash : ':' ∉ fill.planHash.toList) :
    desk.leases.latest fill.key = (desk.calls.find? (·.key = fill)).map Fill.lease := by
  have same : ∀ call ∈ desk.calls, decide ((Fill.lease call).key = fill.key) = decide (call.key = fill) := by
    intro call member
    refine decide_eq_decide.mpr ⟨fun keys => ?_, fun own => congrArg Fill.key own⟩
    exact Fill.key_inj (plain call member) hash keys
  unfold Leases.latest Desk.leases
  rw [List.find?_map]
  exact congrArg (Option.map Fill.lease) (List.find?_congr same)

theorem handle_free {now data s s' request} (passed : upToSlot svc now s data = (s', .ok request))
    (free : (Leases.unexpired s.seenPlanHashes now).get? request.fill.key = none) :
    (handleSubmitPlan svc now s data).2 = raisingStop (lightOrder svc request.bundle request.submission) := by
  have untouched := @upToSlot_seen svc now s data
  rw [passed] at untouched
  rw [handleSubmitPlan_eq, passed]
  dsimp only at untouched ⊢
  unfold reserveSlot Safeguards.checkPlanHashUnseen
  unfold Leases.unexpired at free
  rw [untouched]
  dsimp only
  rw [free]

theorem reopens_of_reopened (plain : PlainKeys desk) (reopened : Leases.Reopened desk.leases) :
    Reopens svc desk := by
  rintro fill call found unused now data ⟨s', request, passed, rfl, valid⟩
  have latest : desk.leases.latest request.fill.key = some (Fill.lease call) := by
    rw [latest_leases plain (upToSlot_plain passed), found]
    rfl
  rw [handle_free passed (reopened.grants latest unused now)]
  have passed' := @upToSlot_withSeen svc now desk.safeguards .empty data
  rw [passed] at passed'
  rw [handle_free passed' (Leases.unexpired_none rfl)] at valid
  exact valid

/-- In every run in which the clock does not go back and every call comes back before its reservation is
    evicted, no two calls of a fill round overlap, and after a broadcast its slot stays closed until the
    eviction. When moreover every order converts, a call that broadcast nothing opens its slot again. -/
theorem dedup_slots (svc : SubmitService) {clock : Int} {desk : Desk}
    (reached : Reaches (deskStep svc) DeskInTime { clock } desk) :
    SlotsKept desk ∧
      (Reaches (deskStep svc) (fun desk e => DeskInTime desk e ∧ AllConvert svc e) { clock } desk →
        Reopens svc desk) := by
  have orderly : Leases.Orderly desk.leases :=
    Leases.orderly_of_reaches (reaches_leases (fun _ _ inTime => inTime) (fun _ _ inTime => inTime.leases)
      reached)
  have start : PlainKeys { clock } := fun call (member : call ∈ []) => nomatch member
  have plain : PlainKeys desk := reached.invariant PlainKeys start
    fun _ e plain _ => plainKeys_step plain e
  refine ⟨slotsKept_of_orderly orderly, fun converting => reopens_of_reopened plain ?_⟩
  exact Leases.reopened_of_reaches (reaches_leases (fun _ _ legal => legal.1)
    (fun _ _ legal => starts_of_allConvert legal.2) converting)

end

def textService : SubmitService :=
  { twoValidators with str := fun
      | .str text => text
      | _ => "" }

/-- `ord_b` with this cooldown, under a wrapper with this nonce. -/
def fillBody (nonce : Int) (cooldown : Value) : Value :=
  .dict [("order", .dict [("chain_id", .int 8453), ("order_id", .str "ord_b"),
      ("contract_address", .str plainContract), ("cooldown", cooldown)]),
    ("plan", .dict [("deadline", .int 1000), ("nonce", .int 0)]),
    ("consensus_result", .dict [("approvals", .list [approvalOf "0xaa" "ord_b", approvalOf "0xbb" "ord_b"])]),
    ("wrapper", .dict [("plan_hash", .str plainPlanHash), ("submission_nonce", .int nonce),
      ("timestamp", .int 100), ("chain_id", .int 8453)]),
    ("wrapper_signature", .str "0xaa")]

def poorNode : (q : EvmRelayer.Question) → q.Answer
  | .balance => .ok 0
  | q => EvmRelayer.calmNode q

def unsentTrace : List (Exchange EvmRelayer.Question.Answer) :=
  Dialogue.transcript poorNode (submitPlan EvmRelayer.plainRelayer (EvmRelayer.plainJob 0))

def unsentResult : EvmRelayer.SubmitResult :=
  Dialogue.replies poorNode (submitPlan EvmRelayer.plainRelayer (EvmRelayer.plainJob 0))

def callingDesk : Desk :=
  (deskStep textService { clock := 100 } (.request 100 (fillBody 1 (.float (.fin 0))))).1

def idleDesk : Desk := (deskStep textService callingDesk (.returned 101 0 unsentTrace unsentResult)).1

def blockedDesk : Desk := (deskStep textService idleDesk (.request 102 (fillBody 2 (.str "soon")))).1

def fillOfOrdB : Fill where
  orderId := "ord_b"
  executionCount := 0
  planHash := plainPlanHash

theorem callingDesk_calls : callingDesk.clock = 100 ∧
    callingDesk.calls = [{ key := fillOfOrdB, since := 100, expiry := 1600 }] := by
  decide +kernel

theorem idleDesk_calls : idleDesk.clock = 101 ∧
    idleDesk.calls = [{ key := fillOfOrdB, since := 100, expiry := 1600, returned := some false }] := by
  decide +kernel

theorem blockedDesk_calls : blockedDesk.calls =
    [{ key := fillOfOrdB, since := 100, expiry := 1600, returned := some false }] := by
  decide +kernel

theorem request_inTime {desk now data} (onward : desk.clock ≤ now)
    (returned : ∀ call ∈ desk.calls, call.returned ≠ none) :
    DeskInTime desk (.request now data) where
  onward := onward
  unexpired := fun call member running => absurd running (returned call member)
  answered := fun _ _ _ _ same => nomatch same

theorem return_inTime : DeskInTime callingDesk (.returned 101 0 unsentTrace unsentResult) where
  onward := by
    rw [callingDesk_calls.1]
    decide
  unexpired := by
    intro call member _
    rw [callingDesk_calls.2] at member
    obtain rfl := List.mem_singleton.mp member
    decide
  answered := by
    rintro now position trace result ⟨⟩
    rw [callingDesk_calls.2]
    exact ⟨⟨_, rfl, rfl⟩, _, _, Dialogue.runs_transcript _⟩

theorem idleDesk_returned : ∀ call ∈ idleDesk.calls, call.returned ≠ none := by
  intro call member
  rw [idleDesk_calls.2] at member
  obtain rfl := List.mem_singleton.mp member
  exact Option.some_ne_none false

theorem idleDesk_runs {allowed : Desk → DeskEvent → Prop}
    (first : allowed { clock := 100 } (.request 100 (fillBody 1 (.float (.fin 0)))))
    (second : allowed callingDesk (.returned 101 0 unsentTrace unsentResult)) :
    Reaches (deskStep textService) allowed { clock := 100 } idleDesk :=
  .next _ (.next _ .refl first) second

theorem first_inTime : DeskInTime { clock := 100 } (.request 100 (fillBody 1 (.float (.fin 0)))) :=
  request_inTime (le_refl _) fun call (member : call ∈ []) => nomatch member

theorem otherwiseValid_of {svc now s data fill}
    (passes : ((upToSlot svc now s data).2.map (·.fill)).toOption = some fill)
    (taken : (handleSubmitPlan svc now (s.withSeen .empty) data).2.isOk = true) :
    OtherwiseValid svc now s data fill := by
  obtain ⟨request, passed, own⟩ := map_eq_ok.mp (toOption_eq_some.mp passes)
  exact ⟨_, request, Prod.ext rfl passed, own, taken⟩

/-- A cooldown that is no number takes the slot for good: the next valid request is refused. -/
theorem slot_lost :
    ¬ ∀ (svc : SubmitService) (clock : Int) (desk : Desk),
        Reaches (deskStep svc) DeskInTime { clock } desk → Reopens svc desk := by
  intro always
  have third : DeskInTime idleDesk (.request 102 (fillBody 2 (.str "soon"))) :=
    request_inTime (by rw [idleDesk_calls.1]; decide) idleDesk_returned
  have run : Reaches (deskStep textService) DeskInTime { clock := 100 } blockedDesk :=
    .next _ (idleDesk_runs first_inTime return_inTime) third
  have latest : blockedDesk.calls.find? (·.key = fillOfOrdB) =
      some { key := fillOfOrdB, since := 100, expiry := 1600, returned := some false } := by
    rw [blockedDesk_calls]
    decide
  have refused : (handleSubmitPlan textService 103 blockedDesk.safeguards
      (fillBody 3 (.float (.fin 0)))).2.isOk = false := by
    decide +kernel
  have valid : OtherwiseValid textService 103 blockedDesk.safeguards (fillBody 3 (.float (.fin 0)))
      fillOfOrdB := otherwiseValid_of (by decide +kernel) (by decide +kernel)
  have taken := always textService 100 blockedDesk run fillOfOrdB _ latest rfl 103 _ valid
  rw [refused] at taken
  cases taken

theorem fillBody_converts (now nonce : Int) :
    AllConvert textService (.request now (fillBody nonce (.float (.fin 0)))) := by
  rintro now data bundle ⟨⟩ read
  obtain ⟨-, -, -, orderData, sent, same⟩ := readBundle_ok read
  cases sent
  rw [same]
  exact ⟨⟨_, rfl, rfl⟩, ⟨_, 1, rfl, rfl⟩, ⟨_, _, rfl, rfl⟩⟩

/-- The same order with a number goes through. -/
theorem slot_reopened : SlotsKept idleDesk ∧ Reopens textService idleDesk := by
  have kept := dedup_slots textService (idleDesk_runs first_inTime return_inTime)
  refine ⟨kept.1, kept.2 (idleDesk_runs ⟨first_inTime, fillBody_converts 100 1⟩ ⟨return_inTime, ?_⟩)⟩
  exact fun _ _ _ same => nomatch same

end MinotaurSubnet.Relayer
