import MinotaurSubnet.Relayer.NonceManager
import MinotaurSubnet.Relayer.GasCap

/-! # When two operations use one nonce

The counter hands out every nonce once as long as it is kept. What loses a nonce is reading the
chain's count of pending transactions while another operation holds a nonce it has not broadcast
yet: that nonce is not in the count and is handed out again.
-/

namespace MinotaurSubnet.EvmRelayer

open Library Python Shared
open Dialogue (Holds holds_ask)

def readsCount (s : World) (op : Nat) : Bool :=
  match s.running[op]?, s.counter with
  | some (.ask .allocate _), none => true
  | some (.ask .reset _), _ => true
  | _, _ => false

/-- A count is read only when it is above every nonce that is pending or mined, and above every nonce
    another operation holds and may still broadcast. -/
def SoundCount (s : World) : Event → Prop
  | .turn op _ (.ok count) => readsCount s op = true →
      (∀ b ∈ s.sent, b.live = true → b.nonce < count) ∧
        ∀ (other : Nat) p n, other ≠ op → s.running[other]? = some p → MaySend n p → n < count
  | _ => True

/-- A transaction is broadcast with the nonce of another operation's, pending or mined. -/
def Clash (relayer : Relayer) (s : World) (e : Event) : Prop :=
  ∃ b earlier, (step relayer s e).2 = some b ∧ earlier ∈ s.sent ∧ earlier.live = true ∧
    earlier.op ≠ b.op ∧ earlier.nonce = b.nonce

def Above (s : World) (counter : Nat) : Prop :=
  (∀ b ∈ s.sent, b.live = true → b.nonce < counter) ∧
    ∀ (op : Nat) p n, s.running[op]? = some p → MaySend n p → n < counter

structure Separate (relayer : Relayer) (s : World) : Prop where
  tame : ∀ (op : Nat) p, s.running[op]? = some p → ∃ past, Tame relayer p past
  above : ∀ counter, s.counter = some counter → Above s counter
  apart : ∀ (a b : Nat) p q n, a ≠ b → s.running[a]? = some p → s.running[b]? = some q → MaySend n p →
    ¬ MaySend n q
  unsent : ∀ (op : Nat) p n, s.running[op]? = some p → MaySend n p → ∀ b ∈ s.sent, b.live = true →
    b.op ≠ op → b.nonce ≠ n

section

variable {relayer : Relayer} {s : World}

theorem Separate.fresh : Separate relayer {} where
  tame op p found := by simp at found
  above counter kept := by cases kept
  apart a b p q n other found := by simp at found
  unsent op p n found := by simp at found

variable {past : List (Exchange Question.Answer)} {node : (q : Question) → q.Answer}

theorem not_maySend_of_unread {p : Talk Unit} {n : Nat} (tame : Tame relayer p past)
    (none : (reading relayer past).nonce = none) : ¬ MaySend n p := by
  intro may
  have given := may.given tame
  rw [none] at given
  cases given

variable {op : Nat} {count : Except Raised Nat}

theorem getElem?_snoc {programs : List (Talk Unit)} {program p : Talk Unit}
    (found : (programs ++ [program])[op]? = some p) : programs[op]? = some p ∨ p = program := by
  rcases Nat.lt_or_ge op programs.length with old | new
  · left
    rwa [List.getElem?_append_left old] at found
  · right
    rw [List.getElem?_append_right new] at found
    exact (List.mem_singleton.mp (List.mem_of_getElem? found))

theorem Separate.start (separate : Separate relayer s) (operation : Operation) :
    Separate relayer (step relayer s (.start operation)).1 := by
  have quiet (n : Nat) : ¬ MaySend n (operation.program relayer) :=
    not_maySend_of_unread (program_tame operation) rfl
  have old {op : Nat} {p : Talk Unit} {n : Nat}
      (found : (s.running ++ [operation.program relayer])[op]? = some p) (may : MaySend n p) :
      s.running[op]? = some p := by
    rcases getElem?_snoc found with old | rfl
    · exact old
    · exact absurd may (quiet n)
  constructor
  · intro op p found
    rcases getElem?_snoc found with old | rfl
    · exact separate.tame op p old
    · exact ⟨[], program_tame operation⟩
  · intro counter kept
    obtain ⟨sent, held⟩ := separate.above counter kept
    exact ⟨sent, fun op p n found may => held op p n (old found may) may⟩
  · intro a b p q n other foundA foundB mayA mayB
    exact separate.apart a b p q n other (old foundA mayA) (old foundB mayB) mayA mayB
  · intro op p n found may
    exact separate.unsent op p n (old found may) may

theorem mem_settled {sent : List Broadcast} {index mined} {b : Broadcast}
    (member : b ∈ sent.modify index (Broadcast.settled mined)) :
    ∃ earlier ∈ sent, earlier.op = b.op ∧ earlier.nonce = b.nonce ∧
      (b.live = true → earlier.live = true) := by
  obtain ⟨i, found⟩ := List.mem_iff_getElem?.mp member
  rw [List.getElem?_modify] at found
  obtain ⟨earlier, earlierFound, rfl⟩ := Option.map_eq_some_iff.mp found
  refine ⟨earlier, List.mem_of_getElem? earlierFound, ?_⟩
  split
  · unfold Broadcast.settled
    split
    · next pending => exact ⟨rfl, rfl, fun _ => by simp [Broadcast.live, pending]⟩
    · exact ⟨rfl, rfl, id⟩
  · exact ⟨rfl, rfl, id⟩

theorem Separate.settle (separate : Separate relayer s) (index : Nat) (mined : Bool) :
    Separate relayer (step relayer s (.settle index mined)).1 := by
  refine ⟨separate.tame, ?_, separate.apart, ?_⟩
  · intro counter kept
    obtain ⟨sent, held⟩ := separate.above counter kept
    refine ⟨fun b member live => ?_, held⟩
    obtain ⟨earlier, inSent, -, same, wasLive⟩ := mem_settled member
    exact same ▸ sent earlier inSent (wasLive live)
  · intro op p n found may b member live other
    obtain ⟨earlier, inSent, sameOp, same, wasLive⟩ := mem_settled member
    exact same ▸ separate.unsent op p n found may earlier inSent (wasLive live) (sameOp ▸ other)

theorem Separate.leaderChanged (separate : Separate relayer s) :
    Separate relayer (step relayer s .leaderChanged).1 where
  tame := separate.tame
  above counter kept := by cases kept
  apart := separate.apart
  unsent := separate.unsent

theorem getElem?_turn {programs : List (Talk Unit)} {program p op other}
    (found : (programs.set op program)[other]? = some p) :
    (other = op ∧ p = program) ∨ (other ≠ op ∧ programs[other]? = some p) := by
  rw [List.getElem?_set] at found
  split at found
  · next same =>
      split at found
      · exact .inl ⟨same.symm, (Option.some.inj found).symm⟩
      · cases found
  · next different => exact .inr ⟨Ne.symm different, found⟩

theorem Separate.goOn (separate : Separate relayer s) {p program counter}
    (running : s.running[op]? = some p) (tame : Tame relayer program past)
    (held : ∀ n, MaySend n program → MaySend n p)
    (kept : ∀ m, counter = some m → Above { s with running := s.running.set op program } m) :
    Separate relayer { s with counter, running := s.running.set op program } := by
  have before {other : Nat} {q : Talk Unit} {n : Nat}
      (found : (s.running.set op program)[other]? = some q) (may : MaySend n q) :
      ∃ q', s.running[other]? = some q' ∧ MaySend n q' := by
    rcases getElem?_turn found with ⟨rfl, rfl⟩ | ⟨-, found⟩
    · exact ⟨p, running, held n may⟩
    · exact ⟨q, found, may⟩
  constructor
  · intro other q found
    rcases getElem?_turn found with ⟨-, rfl⟩ | ⟨-, found⟩
    · exact ⟨past, tame⟩
    · exact separate.tame other q found
  · exact kept
  · intro a b q r n different foundA foundB mayA mayB
    obtain ⟨q', foundA, mayA⟩ := before foundA mayA
    obtain ⟨r', foundB, mayB⟩ := before foundB mayB
    exact separate.apart a b q' r' n different foundA foundB mayA mayB
  · intro other q n found may
    obtain ⟨q', found, may⟩ := before found may
    exact separate.unsent other q' n found may

theorem Above.goOn {p program counter} (above : Above s counter) (running : s.running[op]? = some p)
    (held : ∀ n, MaySend n program → MaySend n p) :
    Above { s with running := s.running.set op program } counter := by
  refine ⟨above.1, fun other q n found may => ?_⟩
  rcases getElem?_turn found with ⟨rfl, rfl⟩ | ⟨-, found⟩
  · exact above.2 other p n running (held n may)
  · exact above.2 other q n found may

theorem Separate.give (separate : Separate relayer s) {op nonce : Nat} {program : Talk Unit}
    (tame : Tame relayer program past)
    (given : ∀ n, MaySend n program → n = nonce)
    (live : ∀ b ∈ s.sent, b.live = true → b.nonce < nonce)
    (others : ∀ (other : Nat) p n, other ≠ op → s.running[other]? = some p → MaySend n p → n < nonce) :
    Separate relayer
      { s with counter := some (nonce + 1), running := s.running.set op program } := by
  constructor
  · intro other q found
    rcases getElem?_turn found with ⟨-, rfl⟩ | ⟨-, found⟩
    · exact ⟨past, tame⟩
    · exact separate.tame other q found
  · rintro _ ⟨rfl⟩
    refine ⟨fun b member isLive => Nat.lt_succ_of_lt (live b member isLive), ?_⟩
    intro other q n found may
    rcases getElem?_turn found with ⟨-, rfl⟩ | ⟨different, found⟩
    · rw [given n may]
      exact Nat.lt_succ_self nonce
    · exact Nat.lt_succ_of_lt (others other q n different found may)
  · intro a b q r n different foundA foundB mayA mayB
    rcases getElem?_turn foundA with ⟨rfl, rfl⟩ | ⟨otherA, ranA⟩
    · rcases getElem?_turn foundB with ⟨rfl, -⟩ | ⟨otherB, ranB⟩
      · exact different rfl
      · have below := others b r n otherB ranB mayB
        have same := given n mayA
        omega
    · rcases getElem?_turn foundB with ⟨rfl, rfl⟩ | ⟨-, ranB⟩
      · have below := others a q n otherA ranA mayA
        have same := given n mayB
        omega
      · exact separate.apart a b q r n different ranA ranB mayA mayB
  · intro other q n found may b member isLive otherOp
    rcases getElem?_turn found with ⟨rfl, rfl⟩ | ⟨-, found⟩
    · have below := live b member isLive
      have same := given n may
      omega
    · exact separate.unsent other q n found may b member isLive otherOp

theorem Separate.broadcast (separate : Separate relayer s) {op nonce p program}
    (running : s.running[op]? = some p) (tame : Tame relayer program past) (holds : MaySend nonce p)
    (spent : ∀ n, ¬ MaySend n program) :
    Separate relayer { s with
      running := s.running.set op program
      sent := s.sent ++ [{ op, nonce }] } := by
  have held (n : Nat) (may : MaySend n program) : MaySend n p := absurd may (spent n)
  have moved : Separate relayer { s with running := s.running.set op program } :=
    separate.goOn running tame held fun m kept => (separate.above m kept).goOn running held
  constructor
  · exact moved.tame
  · intro counter kept
    obtain ⟨sent, held⟩ := moved.above counter kept
    refine ⟨fun b member live => ?_, held⟩
    rcases List.mem_append.mp member with earlier | last
    · exact sent b earlier live
    · obtain rfl := List.mem_singleton.mp last
      exact (separate.above counter kept).2 op p nonce running holds
  · exact moved.apart
  · intro other q n found may b member live otherOp
    rcases List.mem_append.mp member with earlier | last
    · exact moved.unsent other q n found may b earlier live otherOp
    · obtain rfl := List.mem_singleton.mp last
      rcases getElem?_turn found with ⟨-, rfl⟩ | ⟨-, found⟩
      · exact absurd may (spent n)
      · rintro rfl
        exact separate.apart op other p q nonce otherOp running found holds may

theorem step_turn_quiet {q} {next : q.Answer → Talk Unit}
    (running : s.running[op]? = some (.ask q next)) (quiet : broadcastOf op q = none) :
    (step relayer s (.turn op node count)).1 =
      { s with
        counter := (answerTo s.counter node count q).2
        running := s.running.set op (next (answerTo s.counter node count q).1) } := by
  simp [step, running, quiet]

theorem Separate.turnOther (separate : Separate relayer s) {q : Question}
    {next : q.Answer → Talk Unit} {counter} (running : s.running[op]? = some (.ask q next))
    (answer : q.Answer) (other : q ≠ .allocate) (tame : Tame relayer (next answer) past)
    (kept : counter = s.counter ∨ counter = none) :
    Separate relayer { s with counter, running := s.running.set op (next answer) } := by
  apply separate.goOn running tame fun n may => .later other may
  rintro m rfl
  rcases kept with same | gone
  · exact (separate.above m same.symm).goOn running fun n may => .later other may
  · cases gone

theorem Separate.turnAllocate (separate : Separate relayer s)
    {next : Question.Answer .allocate → Talk Unit}
    (running : s.running[op]? = some (.ask .allocate next))
    (sound : SoundCount s (.turn op node count))
    (onward : ∀ answer : Except Raised Nat, Tame relayer (next answer) (past ++ [⟨.allocate, answer⟩])) :
    Separate relayer { s with
      counter := (getAndIncrement s.counter count).2
      running := s.running.set op (next (getAndIncrement s.counter count).1) } := by
  have given {nonce n : Nat} (may : MaySend n (next (.ok nonce))) : n = nonce := by
    have read := may.given (onward (.ok nonce))
    simpa [Reading.note, Except.toOption] using read.symm
  cases cached : s.counter with
  | some nonce =>
    obtain ⟨live, held⟩ := separate.above nonce cached
    exact separate.give (onward (.ok nonce)) (fun n may => given may) live
      fun other p n _ found may => held other p n found may
  | none =>
    cases count with
    | ok onChain =>
      obtain ⟨live, held⟩ := sound (by simp [readsCount, running, cached])
      exact separate.give (onward (.ok onChain)) (fun n may => given may) live held
    | error e =>
      apply separate.goOn running (onward (.error e))
      · intro n may
        exact absurd may (not_maySend_of_unread (onward (.error e)) (by simp [Reading.note, Except.toOption]))
      · rintro m ⟨⟩

theorem Separate.turnReset (separate : Separate relayer s)
    {next : Question.Answer .reset → Talk Unit}
    (running : s.running[op]? = some (.ask .reset next))
    (sound : SoundCount s (.turn op node count))
    (onward : ∀ answer : Except Raised Unit, Tame relayer (next answer) (past ++ [⟨.reset, answer⟩])) :
    Separate relayer { s with
      counter := (resetCounter s.counter count).2
      running := s.running.set op (next (resetCounter s.counter count).1) } := by
  have quiet (answer : Except Raised Unit) (n : Nat) : ¬ MaySend n (next answer) :=
    not_maySend_of_unread (onward answer) (by simp [Reading.note])
  cases count with
  | error e =>
    exact separate.turnOther running (.error e) (by simp) (onward (.error e)) (.inl rfl)
  | ok onChain =>
    apply separate.goOn running (onward (.ok ())) fun n may => absurd may (quiet _ n)
    rintro m ⟨rfl⟩
    obtain ⟨live, held⟩ := sound (by simp [readsCount, running])
    refine ⟨live, fun other p n found may => ?_⟩
    rcases getElem?_turn found with ⟨-, rfl⟩ | ⟨different, found⟩
    · exact absurd may (quiet _ n)
    · exact held other p n different found may

theorem Separate.turn (separate : Separate relayer s) (sound : SoundCount s (.turn op node count)) :
    Separate relayer (step relayer s (.turn op node count)).1 := by
  cases running : s.running[op]? with
  | none => simpa [step, running] using separate
  | some p =>
    cases p with
    | done u => simpa [step, running] using separate
    | ask q next =>
      obtain ⟨past, tame⟩ := separate.tame op _ running
      have onward (answer : q.Answer) : Tame relayer (next answer) (past ++ [⟨q, answer⟩]) :=
        (holds_ask.mp tame).2 answer trivial
      cases q with
      | allocate =>
        rw [step_turn_quiet running rfl]
        exact separate.turnAllocate running sound onward
      | reset =>
        rw [step_turn_quiet running rfl]
        exact separate.turnReset running sound onward
      | invalidate =>
        rw [step_turn_quiet running rfl]
        exact separate.turnOther running () (by simp) (onward ()) (.inr rfl)
      | send tx =>
        have spent (answer : Except Raised String) (n : Nat) : ¬ MaySend n (next answer) :=
          not_maySend_of_unread (onward answer) (by simp [Reading.note])
        have sent := separate.broadcast running (onward (node (.send tx))) (.send rfl)
          (spent (node (.send tx)))
        simpa [step, running, answerTo, broadcastOf] using sent
      | web3 | registered | balance | gasPrice | baseFee | priorityFee | estimate | build | sign
      | receipt | replay =>
        rw [step_turn_quiet running rfl]
        exact separate.turnOther running _ (by simp) (onward _) (.inl rfl)

theorem Separate.step (separate : Separate relayer s) (e : Event) (sound : SoundCount s e) :
    Separate relayer (step relayer s e).1 := by
  cases e with
  | start operation => exact separate.start operation
  | turn op node count => exact separate.turn sound
  | settle index mined => exact separate.settle index mined
  | leaderChanged => exact separate.leaderChanged

theorem Separate.no_clash (separate : Separate relayer s) (e : Event) : ¬ Clash relayer s e := by
  rintro ⟨b, earlier, broadcast, member, live, otherOp, same⟩
  cases e with
  | turn op node count =>
    cases running : s.running[op]? with
    | none => simp [EvmRelayer.step, running] at broadcast
    | some p =>
      cases p with
      | done u => simp [EvmRelayer.step, running] at broadcast
      | ask q next =>
        cases q with
        | send tx =>
          simp only [EvmRelayer.step, running, broadcastOf, Option.some.injEq] at broadcast
          subst broadcast
          exact separate.unsent op _ tx.nonce running (.send rfl) earlier member live otherOp same
        | _ => simp [EvmRelayer.step, running, broadcastOf] at broadcast
  | start | settle | leaderChanged => cases broadcast

end

/-- In every run in which counts are read only when they are above every nonce in use, no operation
    broadcasts a nonce that another one has pending or mined. -/
theorem nonces_apart {relayer : Relayer} {s : World} {e : Event}
    (reached : Reaches (step relayer) SoundCount {} s) : ¬ Clash relayer s e :=
  (reached.invariant (Separate relayer) Separate.fresh fun _ e separate sound => separate.step e sound).no_clash e

def plainCall : Operation := .callContractFunction "setFeeBps(uint256)" (.ok "0x01") 0 200000

def calmTurn (op : Nat) : Event := .turn op calmNode (.ok 5)

def unsignedTurn (op : Nat) : Event :=
  .turn op (fun
    | .sign _ => .error { text := "signer offline" }
    | q => calmNode q) (.ok 5)

/-- The call takes nonce 5 and waits; the submission fails on 6, drops the counter, is given 5 by the
    chain and broadcasts it. -/
def heldNonceRun : List Event :=
  [.start plainCall, .start (.submitPlan (plainJob 0))] ++ List.replicate 2 (calmTurn 0)
    ++ List.replicate 7 (calmTurn 1) ++ [unsignedTurn 1] ++ List.replicate 7 (calmTurn 1)
    ++ List.replicate 2 (calmTurn 0)

theorem held_nonce_given_again :
    ∃ (relayer : Relayer) (events : List Event) (e : Event),
      Clash relayer (runEvents (step relayer) {} events) e := by
  refine ⟨plainRelayer, heldNonceRun, calmTurn 0, { op := 0, nonce := 5 }, { op := 1, nonce := 5 }, ?_⟩
  decide +kernel

def countless (s : World) : Event → Bool
  | .turn op _ _ => !readsCount s op
  | _ => true

theorem soundCount_of_countless {s e} (quiet : countless s e = true) :
    SoundCount s e := by
  cases e with
  | turn op node count =>
    cases count with
    | ok count =>
      intro reads
      simp [countless, reads] at quiet
    | error e => trivial
  | start | settle | leaderChanged => trivial

theorem reaches_of_countless {relayer s events}
    (quiet : AllowedAlong (step relayer) (fun s e => countless s e = true) s events) :
    Reaches (step relayer) SoundCount s (runEvents (step relayer) s events) :=
  (quiet.mono fun _ _ => soundCount_of_countless).reaches

def readyCall : World := runEvents (step plainRelayer) {} [.start plainCall, calmTurn 0]

theorem soundCount_readyCall : SoundCount readyCall (calmTurn 0) := by
  intro _
  constructor
  · have nothing : readyCall.sent = [] := by decide +kernel
    simp [nothing]
  · intro other p n different found
    have alone : readyCall.running.length = 1 := by decide +kernel
    have outside : readyCall.running[other]? = none := List.getElem?_eq_none (by omega)
    rw [outside] at found
    cases found

def calledOnce : World := (step plainRelayer readyCall (calmTurn 0)).1

def secondCallRun : List Event :=
  [.start plainCall, calmTurn 1, calmTurn 1, calmTurn 0, calmTurn 0, calmTurn 0, calmTurn 1, calmTurn 1]

/-- Two calls with nonces 5 and 6. -/
theorem nonces_apart_two_calls :
    ¬ Clash plainRelayer (runEvents (step plainRelayer) calledOnce secondCallRun) (calmTurn 1) ∧
      (step plainRelayer (runEvents (step plainRelayer) calledOnce secondCallRun) (calmTurn 1)).2 =
        some { op := 1, nonce := 6 } := by
  refine ⟨?_, by decide +kernel⟩
  have ready : Reaches (step plainRelayer) SoundCount {} readyCall :=
    reaches_of_countless (by decide +kernel)
  have once : Reaches (step plainRelayer) SoundCount {} calledOnce :=
    .next (calmTurn 0) ready soundCount_readyCall
  have both : Reaches (step plainRelayer) SoundCount {}
      (runEvents (step plainRelayer) calledOnce secondCallRun) :=
    once.trans (reaches_of_countless (by decide +kernel))
  exact nonces_apart both

end MinotaurSubnet.EvmRelayer
