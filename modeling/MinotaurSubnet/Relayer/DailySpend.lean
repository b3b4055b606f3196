import MinotaurSubnet.Relayer.ServiceRuns

/-! # The daily cap and the wallet's spending

The cap is checked before every request and charged after an order submission only, at a fixed
price. So the counter is ahead of the wallet as long as only submissions are mined, no bid is
above that price, and every report comes in on the day of the last check.
-/

namespace MinotaurSubnet.Relayer

open Library Python
open EvmRelayer (Question Talk SubmitResult Job Raised submitPlan deployContract callContractFunction)

section

variable {relayer : EvmRelayer.Relayer} {job : Job}

/-- Nothing was mined so far, or one transaction, whose gas is what is reported. -/
def MinedAs (past : List (Exchange Question.Answer)) (gasUsed : Nat) : Prop :=
  (minedIn past = [] ∧ gasUsed = 0) ∨ ∃ m, minedIn past = [m] ∧ gasUsed = m.gasUsed

theorem minedIn_eq (trace : List (Exchange Question.Answer)) :
    minedIn trace = (EvmRelayer.receipts trace).map fun read => ⟨read.2.gasUsed, bidOf read.1.fee⟩ := by
  unfold minedIn EvmRelayer.receipts
  rw [List.map_filterMap]
  refine List.filterMap_congr fun e _ => ?_
  obtain ⟨q, answer⟩ := e
  cases q with
  | receipt tx => cases answer <;> rfl
  | _ => rfl

theorem mined_of_run {trace result} (run : Dialogue.Runs (submitPlan relayer job) trace result) :
    MinedAs trace result.gasUsed := by
  unfold MinedAs
  rw [minedIn_eq]
  obtain ⟨unread, unused⟩ | ⟨tx, receipt, read, used⟩ := (EvmRelayer.run_reports run).gas
  · exact .inl ⟨by rw [unread]; rfl, unused⟩
  · exact .inr ⟨_, by rw [read]; rfl, used⟩

end

def Report.Real : Report → Prop
  | .submitted _ trace result => ∃ relayer job, Dialogue.Runs (submitPlan relayer job) trace result
  | .deployed trace answer => ∃ relayer bytecode minTip legacyPrice,
      Dialogue.Runs (deployContract relayer bytecode minTip legacyPrice) trace answer
  | .called trace answer => ∃ relayer signature encoded value gas,
      Dialogue.Runs (callContractFunction relayer signature encoded value gas) trace answer

def Happens (_ : Service) : ServiceEvent → Prop
  | .request _ _ _ => True
  | .reported _ report => report.Real
  | .restart => False

/-- A report of a submission whose transaction was not sent above the price charged. -/
def Report.Cheap : Report → Prop
  | .submitted _ trace _ => ∀ m ∈ minedIn trace, 0 < m.gasUsed ∧ (m.gasPrice : Int) ≤ approxGasPriceWei
  | .deployed _ _ | .called _ _ => False

/-- Requests never come on a day before the one last checked, and what is mined was submitted, at
    the price charged at most, and is reported on that day. -/
def InBooks (s : Service) (e : ServiceEvent) : Prop :=
  Happens s e ∧ match e with
    | .request _ now _ => s.safeguards.dayStartUtc ≤ dayOf now
    | .reported now report => report.mined = [] ∨
        (report.Cheap ∧ dayOf now = s.safeguards.dayStartUtc)
    | .restart => True

/-- Every mined transaction was charged once, with its cost at least, and no request was accepted on
    a day whose spending had reached the cap. -/
structure CapCovers (svc : AdminService) (s : Service) : Prop where
  charged : ∀ entry ∈ s.ledger, ∃ charge, entry.charges = [charge] ∧ entry.mined.cost ≤ charge
  halted : ∀ spent ∈ s.admissions, spent < svc.limits.dailyGasCapWei

structure Ahead (ledger : List Entry) (s : Safeguards) : Prop where
  ahead : spentOn s.dayStartUtc ledger ≤ s.gasUsedWei
  past : ∀ entry ∈ ledger, entry.day ≤ s.dayStartUtc

section

variable {svc : AdminService} {ledger : List Entry} {s s' : Safeguards} {now : Int}

theorem spentOn_cons {day entry} : spentOn day (entry :: ledger) =
    (if entry.day = day then entry.mined.cost else 0) + spentOn day ledger := by
  unfold spentOn
  by_cases same : entry.day = day <;> simp [same]

theorem spentOn_later {day later} (past : ∀ entry ∈ ledger, entry.day ≤ day) (after : day < later) :
    spentOn later ledger = 0 := by
  induction ledger with
  | nil => rfl
  | cons entry ledger ih =>
    have before : entry.day ≤ day := past entry List.mem_cons_self
    have other : entry.day ≠ later := by omega
    rw [spentOn_cons, if_neg other, ih fun entry member => past entry (List.mem_cons_of_mem _ member)]
    rfl

theorem Ahead.rolled (inv : Ahead ledger s) (later : s.dayStartUtc ≤ dayOf now) :
    Ahead ledger (rolled now s) := by
  unfold Relayer.rolled
  split
  · exact inv
  next moved =>
    have after : s.dayStartUtc < dayOf now := lt_of_le_of_ne later moved
    refine ⟨le_of_eq (spentOn_later inv.past after), fun entry member => ?_⟩
    exact (inv.past entry member).trans later

theorem Ahead.keeps {svc} (inv : Ahead ledger s) (kept : Keeps svc s s') :
    Ahead ledger s' := by
  obtain ⟨ahead, past⟩ := inv
  constructor
  · rw [kept.day, kept.spent]
    exact ahead
  · rw [kept.day]
    exact past

theorem Ahead.handled {svc} (inv : Ahead ledger s) (later : s.dayStartUtc ≤ dayOf now)
    (handled : Handled svc now s s') : Ahead ledger s' := by
  rcases handled with kept | kept
  · exact inv.keeps kept
  · exact (inv.rolled later).keeps kept

theorem releaseUnsent_books {key result} :
    (EvmRelayer.releaseUnsent key result s).dayStartUtc = s.dayStartUtc ∧
      (EvmRelayer.releaseUnsent key result s).gasUsedWei = s.gasUsedWei := by
  unfold EvmRelayer.releaseUnsent
  split <;> exact ⟨rfl, rfl⟩

/-- A report only ever adds to the counter. -/
theorem settle_books {report} : (settle report s).1.dayStartUtc = s.dayStartUtc ∧
    (settle report s).1.gasUsedWei = s.gasUsedWei + (settle report s).2.sum ∧
    0 ≤ (settle report s).2.sum := by
  cases report with
  | deployed | called => simp [settle]
  | submitted key trace result =>
    obtain ⟨day, spent⟩ := @releaseUnsent_books s key result
    unfold settle
    dsimp only
    split
    · simp [day, spent]
    · have positive : (0 : Int) ≤ result.gasUsed * approxGasPriceWei :=
        mul_nonneg (Int.natCast_nonneg _) (by decide)
      simp [Safeguards.recordGasUsed, day, spent, positive]

theorem settle_covers {report} (real : report.Real) (charged : report.Cheap) :
    report.mined = [] ∨ ∃ m charge, report.mined = [m] ∧ (settle report s).2 = [charge] ∧
      m.cost ≤ charge := by
  cases report with
  | deployed | called => exact charged.elim
  | submitted key trace result =>
    obtain ⟨relayer, job, run⟩ := real
    rcases mined_of_run run with ⟨idle, -⟩ | ⟨m, one, same⟩
    · exact .inl idle
    · obtain ⟨burned, cheap⟩ := charged m (by rw [one]; exact List.mem_singleton_self m)
      refine .inr ⟨m, m.gasUsed * approxGasPriceWei, one, ?_, ?_⟩
      · have some_gas : result.gasUsed ≠ 0 := by omega
        unfold settle
        dsimp only
        rw [if_neg some_gas, same]
      · exact mul_le_mul_of_nonneg_left cheap (Int.natCast_nonneg _)

theorem Ahead.settle (inv : Ahead ledger s) {report} :
    Ahead ledger (settle report s).1 := by
  obtain ⟨day, spent, positive⟩ := @settle_books s report
  obtain ⟨ahead, past⟩ := inv
  constructor
  · rw [day, spent]
    omega
  · rw [day]
    exact past

end

structure Balanced (svc : AdminService) (s : Service) : Prop where
  covers : CapCovers svc s
  books : Ahead s.ledger s.safeguards

theorem balanced_request {svc s endpoint now data} (inv : Balanced svc s)
    (later : s.safeguards.dayStartUtc ≤ dayOf now) :
    Balanced svc (serviceStep svc s (.request endpoint now data)).1 := by
  have serves := @handle_serves svc now data s.safeguards endpoint
  have books := inv.books.handled later serves.handled
  unfold serviceStep
  dsimp only
  split
  next called =>
    obtain ⟨signed, admitted⟩ := serves.admitted called
    refine ⟨⟨inv.covers.charged, fun spent member => ?_⟩, books⟩
    rcases List.mem_cons.mp member with rfl | old
    · have ahead := (inv.books.rolled later).ahead
      rw [rolled_day] at ahead
      exact lt_of_le_of_lt ahead admitted.room
    · exact inv.covers.halted spent old
  next refused => exact ⟨⟨inv.covers.charged, inv.covers.halted⟩, books⟩

theorem balanced_reported {svc s now report} (inv : Balanced svc s) (real : report.Real)
    (allowed : report.mined = [] ∨ (report.Cheap ∧ dayOf now = s.safeguards.dayStartUtc)) :
    Balanced svc (serviceStep svc s (.reported now report)).1 := by
  have settled := @Ahead.settle _ _ inv.books report
  have nothing (idle : report.mined = []) : Balanced svc (serviceStep svc s (.reported now report)).1 := by
    unfold serviceStep
    dsimp only
    rw [idle]
    exact ⟨⟨inv.covers.charged, inv.covers.halted⟩, settled⟩
  rcases allowed with idle | ⟨cheap, today⟩
  · exact nothing idle
  · rcases @settle_covers s.safeguards report real cheap with idle | ⟨m, charge, one, only, covered⟩
    · exact nothing idle
    · obtain ⟨day, spent, -⟩ := @settle_books s.safeguards report
      unfold serviceStep
      dsimp only
      rw [one, only]
      refine ⟨⟨fun entry member => ?_, inv.covers.halted⟩, ?_, fun entry member => ?_⟩
      · rcases List.mem_cons.mp member with rfl | old
        · exact ⟨charge, rfl, covered⟩
        · exact inv.covers.charged entry old
      · -- The new entry is of the counter's day, and its charge is what the counter grew by.
        have before := inv.books.ahead
        have grown : (settle report s.safeguards).1.gasUsedWei = s.safeguards.gasUsedWei + charge := by
          rw [spent, only, List.sum_singleton]
        change spentOn _ (_ :: s.ledger) ≤ _
        rw [spentOn_cons, day, if_pos today, grown]
        dsimp only
        omega
      · rw [day]
        rcases List.mem_cons.mp member with rfl | old
        · exact le_of_eq today
        · exact inv.books.past entry old

theorem balanced_step {svc} (s : Service) (e : ServiceEvent) (inv : Balanced svc s)
    (allowed : InBooks s e) : Balanced svc (serviceStep svc s e).1 := by
  obtain ⟨happens, allowed⟩ := allowed
  cases e with
  | request endpoint now data => exact balanced_request inv allowed
  | reported now report => exact balanced_reported inv happens allowed
  | restart => exact happens.elim

/-- In a run in the books every transaction is charged for, and the cap halts all endpoints. -/
theorem daily_cap_covers {svc : AdminService} {s : Service}
    (reached : Reaches (serviceStep svc) InBooks {} s) : CapCovers svc s := by
  have kept : Balanced svc s := by
    refine reached.invariant (Balanced svc) ⟨⟨?_, ?_⟩, le_refl _, ?_⟩ balanced_step
    · exact fun _ member => (List.not_mem_nil member).elim
    · exact fun _ member => (List.not_mem_nil member).elim
    · exact fun _ member => (List.not_mem_nil member).elim
  exact kept.covers

def minedNode : (q : Question) → q.Answer
  | .receipt _ => .ok { status := 1, gasUsed := 21000 }
  | q => EvmRelayer.calmNode q

def deployBody : Value :=
  .dict [("bytecode", .str "0x60"), ("chain_id", .int 8453),
    ("wrapper", .dict [
      ("plan_hash", .str "0x919ea8d53d1f2e9ff5dc0eb595d21f0e8bbc575c0a823835d53ad75b1445cd4c"),
      ("submission_nonce", .int 1), ("timestamp", .int 100), ("chain_id", .int 8453)]),
    ("wrapper_signature", .str "0xaa")]

def plainDeploy : Talk (Except Raised (String × String)) :=
  deployContract EvmRelayer.plainRelayer "0x60" 0 id

def deployReport : Report :=
  .deployed (Dialogue.transcript minedNode plainDeploy) (Dialogue.replies minedNode plainDeploy)

/-- A deployment is accepted and mined, and nothing is charged for it. -/
theorem deployment_uncharged :
    ¬ ∀ (svc : AdminService) (s : Service), Reaches (serviceStep svc) Happens {} s →
      CapCovers svc s := by
  intro always
  have accepted : (handle plainAdmin .deploy 100 {} deployBody).2 = true := by decide +kernel
  have mined : deployReport.mined.length = 1 := by decide +kernel
  obtain ⟨m, one⟩ := List.length_eq_one_iff.mp mined
  have run : AllowedAlong (serviceStep plainAdmin) Happens {}
      [.request .deploy 100 deployBody, .reported 101 deployReport] :=
    ⟨trivial, ⟨_, _, _, _, Dialogue.runs_transcript _⟩, trivial⟩
  have covers := always plainAdmin _ run.reaches
  have booked : ⟨0, m, []⟩ ∈ (runEvents (serviceStep plainAdmin) {}
      [.request .deploy 100 deployBody, .reported 101 deployReport]).ledger := by
    simp only [runEvents, List.foldl_cons, List.foldl_nil, serviceStep, accepted, if_true, one]
    exact List.mem_cons_self
  obtain ⟨charge, charged, -⟩ := covers.charged _ booked
  cases charged

def plainSubmission : Talk SubmitResult :=
  submitPlan EvmRelayer.plainRelayer (EvmRelayer.plainJob 0)

def submitReport : Report :=
  .submitted "key" (Dialogue.transcript minedNode plainSubmission)
    (Dialogue.replies minedNode plainSubmission)

/-- A submission at 10 wei a unit. -/
theorem submission_charged : CapCovers plainAdmin (runEvents (serviceStep plainAdmin) {}
    [.request .submitPlan 100 (bodyApproving "ord_b"), .reported 101 submitReport]) := by
  refine daily_cap_covers (AllowedAlong.reaches ⟨⟨trivial, by decide⟩, ⟨?_, .inr ⟨?_, ?_⟩⟩, trivial⟩)
  · exact ⟨_, _, Dialogue.runs_transcript _⟩
  · have cheap : (minedIn (Dialogue.transcript minedNode plainSubmission)).all
        (fun m => decide (0 < m.gasUsed ∧ (m.gasPrice : Int) ≤ approxGasPriceWei)) = true := by
      decide +kernel
    exact fun m member => of_decide_eq_true (List.all_eq_true.mp cheap m member)
  · decide +kernel

end MinotaurSubnet.Relayer
