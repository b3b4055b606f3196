import MinotaurSubnet.Library.Dict
import MinotaurSubnet.Library.Machine

/-! # Leases that expire

A table of keys and the times their reservations expire guards calls: a call starts when its key is
not in the table, holds it until then, and gives it back when it returns without having used it.
Nothing says who holds a key. As long as every call returns before its reservation expires, no two
calls of one key overlap, and a used key stays closed until its time.
-/

namespace MinotaurSubnet.Library

universe u

/-- A call under a reservation; once it has returned, whether it used its key. -/
structure Lease (κ : Type u) where
  key : κ
  since : Int
  expiry : Int
  returned : Option Bool := none
  deriving DecidableEq

structure Leases (κ : Type u) [DecidableEq κ] where
  table : Dict κ Int := .empty
  calls : List (Lease κ) := []
  clock : Int

inductive LeaseEvent (κ : Type u) where
  | tick (now : Int)
  /-- A reservation for a call, which `starts` unless it fails before. -/
  | reserve (now : Int) (key : κ) (expiry : Int) (starts : Bool)
  /-- The return of the call at a position. -/
  | giveBack (now : Int) (position : Nat) (used : Bool)

def LeaseEvent.now {κ : Type u} : LeaseEvent κ → Int
  | .tick now | .reserve now _ _ _ | .giveBack now _ _ => now

namespace Leases

variable {κ : Type u} [DecidableEq κ]

def unexpired (table : Dict κ Int) (now : Int) : Dict κ Int :=
  table.filter fun _ expiry => decide (now < expiry)

def step (l : Leases κ) : LeaseEvent κ → Leases κ × Bool
  | .tick now => ({ l with clock := now }, false)
  | .reserve now key expiry starts =>
    let kept := unexpired l.table now
    match kept.get? key with
    | some _ => ({ l with table := kept, clock := now }, false)
    | none =>
      ({ table := kept.set key expiry
         calls := if starts then { key, since := now, expiry } :: l.calls else l.calls
         clock := now }, starts)
  | .giveBack now position used =>
    match l.calls[position]? with
    | none => ({ l with clock := now }, false)
    | some call =>
      ({ table := if used then l.table else l.table.erase call.key
         calls := l.calls.set position { call with returned := some used }
         clock := now }, false)

structure InTime (l : Leases κ) (e : LeaseEvent κ) : Prop where
  onward : l.clock ≤ e.now
  unexpired : ∀ call ∈ l.calls, call.returned = none → e.now < call.expiry
  running : ∀ now position used, e = .giveBack now position used →
    ∃ call, l.calls[position]? = some call ∧ call.returned = none

/-- A reservation that is made is followed by its call. -/
def Starts : LeaseEvent κ → Prop
  | .reserve _ _ _ starts => starts = true
  | _ => True

/-- How a call stands to an earlier call of its key. -/
def After (later earlier : Lease κ) : Prop :=
  earlier.returned = some false ∨ (earlier.returned = some true ∧ earlier.expiry ≤ later.since)

/-- A call that may still hold its key at a time. -/
def Holds (now : Int) (call : Lease κ) : Prop :=
  call.returned = none ∨ (call.returned = some true ∧ now < call.expiry)

structure Orderly (l : Leases κ) : Prop where
  begun : ∀ call ∈ l.calls, call.since ≤ l.clock
  apart : l.calls.Pairwise fun later earlier => later.key = earlier.key → After later earlier
  held : ∀ call ∈ l.calls, Holds l.clock call → l.table.get? call.key = some call.expiry

variable {l : Leases κ}

theorem unexpired_get? {table : Dict κ Int} {now expiry key} (found : table.get? key = some expiry)
    (later : now < expiry) :
    (unexpired table now).get? key = some expiry := by
  rw [unexpired, Dict.get?_filter, found]
  simp [later]

theorem unexpired_none {table : Dict κ Int} {now key} (absent : table.get? key = none) :
    (unexpired table now).get? key = none := by
  rw [unexpired, Dict.get?_filter, absent]
  rfl

variable {e : LeaseEvent κ}

/-- What holds its key at an event held it before, and is not swept out. -/
theorem Orderly.kept (orderly : Orderly l) (inTime : InTime l e) {call} (member : call ∈ l.calls)
    (holds : Holds e.now call) :
    l.table.get? call.key = some call.expiry ∧ e.now < call.expiry := by
  have onward := inTime.onward
  rcases holds with running | ⟨used, later⟩
  · exact ⟨orderly.held call member (.inl running), inTime.unexpired call member running⟩
  · exact ⟨orderly.held call member (.inr ⟨used, by omega⟩), later⟩

theorem orderly_tick (orderly : Orderly l) {now} (inTime : InTime l (.tick now)) :
    Orderly (l.step (.tick now)).1 where
  begun := fun call member => (orderly.begun call member).trans inTime.onward
  apart := orderly.apart
  held := fun _ member holds => (orderly.kept inTime member holds).1

theorem orderly_reserve (orderly : Orderly l) {now expiry key starts}
    (inTime : InTime l (.reserve now key expiry starts)) :
    Orderly (l.step (.reserve now key expiry starts)).1 := by
  have begun : ∀ call ∈ l.calls, call.since ≤ now := fun call member =>
    (orderly.begun call member).trans inTime.onward
  have kept {call : Lease κ} (member : call ∈ l.calls) (holds : Holds now call) :
      (unexpired l.table now).get? call.key = some call.expiry := by
    obtain ⟨found, later⟩ := orderly.kept inTime member holds
    exact unexpired_get? found later
  rw [step]
  cases free : (unexpired l.table now).get? key with
  | some other => exact ⟨begun, orderly.apart, fun call => kept⟩
  | none =>
    have released {call : Lease κ} (member : call ∈ l.calls) (same : key = call.key) :
        ¬ Holds now call := by
      rintro holds
      have taken := kept member holds
      rw [← same, free] at taken
      cases taken
    have still : ∀ call ∈ l.calls, Holds now call →
        ((unexpired l.table now).set key expiry).get? call.key = some call.expiry := by
      intro call member holds
      have other : call.key ≠ key := fun same => released member same.symm holds
      rw [Dict.get?_set_ne _ _ other]
      exact kept member holds
    cases starts with
    | false => exact ⟨begun, orderly.apart, still⟩
    | true =>
      refine ⟨?_, List.pairwise_cons.mpr ⟨fun earlier member same => ?_, orderly.apart⟩, ?_⟩
      · rintro call member
        rcases List.mem_cons.mp member with rfl | member
        · exact le_refl now
        · exact begun call member
      · have idle := released member same
        unfold Holds at idle
        unfold After
        cases returned : earlier.returned with
        | none => exact absurd (.inl returned) idle
        | some used =>
          cases used with
          | false => exact .inl rfl
          | true =>
            refine .inr ⟨rfl, ?_⟩
            by_contra early
            exact idle (.inr ⟨returned, not_le.mp early⟩)
      · rintro call member holds
        rcases List.mem_cons.mp member with rfl | member
        · exact Dict.get?_set_self _ _ _
        · exact still call member holds

theorem Orderly.alone (orderly : Orderly l) (inTime : InTime l e) {i j : Nat} {call other : Lease κ}
    (here : l.calls[i]? = some call) (there : l.calls[j]? = some other)
    (running : call.returned = none) (same : call.key = other.key) (holds : Holds e.now other) :
    i = j := by
  obtain ⟨i_lt, rfl⟩ := List.getElem?_eq_some_iff.mp here
  obtain ⟨j_lt, rfl⟩ := List.getElem?_eq_some_iff.mp there
  have apart := List.pairwise_iff_getElem.mp orderly.apart
  rcases Nat.lt_trichotomy i j with before | equal | after
  · have begun := orderly.begun _ (List.getElem_mem i_lt)
    have onward := inTime.onward
    rcases apart i j i_lt j_lt before same with unused | ⟨used, past⟩
    · rcases holds with busy | ⟨busy, -⟩ <;> simp [unused] at busy
    · rcases holds with busy | ⟨-, later⟩
      · simp [used] at busy
      · omega
  · exact equal
  · rcases apart j i j_lt i_lt after same.symm with unused | ⟨used, -⟩
    · simp [running] at unused
    · simp [running] at used

theorem orderly_giveBack (orderly : Orderly l) {now : Int} {position : Nat} {used : Bool}
    (inTime : InTime l (.giveBack now position used)) :
    Orderly (l.step (.giveBack now position used)).1 := by
  obtain ⟨call, here, running⟩ := inTime.running now position used rfl
  obtain ⟨bound, rfl⟩ := List.getElem?_eq_some_iff.mp here
  rw [step, here]
  dsimp only
  refine ⟨?_, ?_, ?_⟩
  · intro other member
    rcases List.mem_or_eq_of_mem_set member with member | rfl
    · exact (orderly.begun other member).trans inTime.onward
    · exact (orderly.begun _ (List.getElem_mem bound)).trans inTime.onward
  · rw [List.pairwise_iff_getElem]
    intro i j i_lt j_lt before
    rw [List.length_set] at i_lt j_lt
    have apart := List.pairwise_iff_getElem.mp orderly.apart i j i_lt j_lt before
    rw [List.getElem_set, List.getElem_set]
    split
    · next first =>
        subst first
        rw [if_neg (Nat.ne_of_lt before)]
        exact apart
    · split
      · next second =>
          subst second
          intro same
          rcases apart same with unused | ⟨spent, -⟩
          · simp [running] at unused
          · simp [running] at spent
      · exact apart
  · intro other member holds
    obtain ⟨j, found⟩ := List.getElem?_of_mem member
    rw [List.getElem?_set] at found
    split at found
    · next back =>
        cases found
        rcases holds with busy | ⟨spent, -⟩
        · cases busy
        · obtain rfl : used = true := Option.some.inj spent
          exact orderly.held l.calls[position] (List.getElem_mem bound) (.inl running)
    · next back =>
        have listed : other ∈ l.calls := List.mem_of_getElem? found
        have kept := (orderly.kept inTime listed holds).1
        cases used with
        | true => exact kept
        | false =>
          have different : other.key ≠ l.calls[position].key := fun same =>
            back (orderly.alone inTime here found running same.symm holds)
          simp
          rw [Dict.get?_erase, if_neg different, kept]

theorem orderly_step (orderly : Orderly l) (inTime : InTime l e) :
    Orderly (l.step e).1 := by
  cases e with
  | tick now => exact orderly_tick orderly inTime
  | reserve now key expiry starts => exact orderly_reserve orderly inTime
  | giveBack now position used => exact orderly_giveBack orderly inTime

theorem Orderly.one_running (orderly : Orderly l) (key : κ) :
    (l.calls.filter fun call => decide (call.key = key ∧ call.returned = none)).length ≤ 1 := by
  have apart := orderly.apart.filter fun call => decide (call.key = key ∧ call.returned = none)
  generalize found : (l.calls.filter fun call => decide (call.key = key ∧ call.returned = none)) = running
  match running with
  | [] => exact Nat.zero_le 1
  | [_] => exact le_refl 1
  | later :: earlier :: rest =>
    have busy (call : Lease κ) (member : call ∈ later :: earlier :: rest) :
        call.key = key ∧ call.returned = none := by
      rw [← found] at member
      exact of_decide_eq_true (List.mem_filter.mp member).2
    obtain ⟨same, -⟩ := busy later List.mem_cons_self
    obtain ⟨same', running⟩ := busy earlier (List.mem_cons_of_mem _ List.mem_cons_self)
    rw [found] at apart
    rcases List.rel_of_pairwise_cons apart List.mem_cons_self (same.trans same'.symm) with
      unused | ⟨used, -⟩
    · simp [running] at unused
    · simp [running] at used

def latest (l : Leases κ) (key : κ) : Option (Lease κ) := l.calls.find? (·.key = key)

def Reopened (l : Leases κ) : Prop :=
  ∀ key call, l.latest key = some call → call.returned = some false → l.table.get? key = none

theorem latest_giveBack {calls : List (Lease κ)} {position} {call : Lease κ} {used}
    (here : calls[position]? = some call) (key : κ) :
    (calls.set position { call with returned := some used }).find? (·.key = key) =
        calls.find? (·.key = key) ∨
      (call.key = key ∧ (calls.set position { call with returned := some used }).find? (·.key = key) =
        some { call with returned := some used }) := by
  induction calls generalizing position with
  | nil => cases here
  | cons head rest ih =>
    cases position with
    | zero =>
      obtain rfl : head = call := Option.some.inj here
      by_cases same : head.key = key
      · exact .inr ⟨same, by simp [same]⟩
      · exact .inl (by simp [same])
    | succ position =>
      have deeper := @ih position here
      by_cases same : head.key = key
      · exact .inl (by simp [same])
      · simpa [same] using deeper

theorem reopened_step (reopened : Reopened l) (starts : Starts e) :
    Reopened (l.step e).1 := by
  cases e with
  | tick now => exact reopened
  | reserve now key expiry starting =>
    obtain rfl : starting = true := starts
    rw [step]
    intro other call found unused
    cases free : (unexpired l.table now).get? key with
    | some _ =>
      simp only [free] at found ⊢
      exact unexpired_none (reopened other call found unused)
    | none =>
      simp only [free, if_true] at found ⊢
      by_cases same : key = other
      · simp only [latest, List.find?_cons, same, decide_true] at found
        cases found
        cases unused
      · simp only [latest, List.find?_cons, same, decide_false] at found
        rw [Dict.get?_set_ne _ _ (Ne.symm same)]
        exact unexpired_none (reopened other call found unused)
  | giveBack now position used =>
    rw [step]
    cases here : l.calls[position]? with
    | none => exact reopened
    | some back =>
      dsimp only
      intro key call found unused
      have erased (absent : l.table.get? key = none) :
          (if used then l.table else l.table.erase back.key).get? key = none := by
        split
        · exact absent
        · rw [Dict.get?_erase, absent, ite_self]
      rcases @latest_giveBack _ _ _ _ _ used here key with same | ⟨own, now⟩
      · exact erased (reopened key call (same.symm.trans found) unused)
      · cases now.symm.trans found
        obtain rfl : used = false := Option.some.inj unused
        simp
        rw [Dict.get?_erase, own, if_pos rfl]

theorem Reopened.grants (reopened : Reopened l) {key} {call : Lease κ}
    (found : l.latest key = some call) (unused : call.returned = some false) (now : Int) :
    (unexpired l.table now).get? key = none :=
  unexpired_none (reopened key call found unused)

theorem orderly_start (clock : Int) : Orderly ({ clock } : Leases κ) where
  begun := fun _ member => nomatch member
  apart := .nil
  held := fun _ member => nomatch member

theorem reopened_start (clock : Int) : Reopened ({ clock } : Leases κ) := fun _ _ _ _ => rfl

theorem orderly_of_reaches {clock : Int} {l : Leases κ} (reached : Reaches step InTime { clock } l) :
    Orderly l :=
  reached.invariant Orderly (orderly_start clock) fun _ _ orderly inTime => orderly_step orderly inTime

theorem reopened_of_reaches {clock : Int} {l : Leases κ}
    (reached : Reaches step (fun _ e => Starts e) { clock } l) : Reopened l :=
  reached.invariant Reopened (reopened_start clock) fun _ _ reopened starts => reopened_step reopened starts

end Leases

end MinotaurSubnet.Library
