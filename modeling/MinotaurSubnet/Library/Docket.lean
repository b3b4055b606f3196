import MinotaurSubnet.Library.Dict

/-! # A table of shared records

Calls that wait share mutable records with the table they registered them in: the table
maps a key to a record, a suspended call keeps a reference to the one it opened. Records
live in a heap, so one that was replaced in the table is still there for the call that owns
it. No reference dangles and no two keys share a record; both facts are fields.
-/

namespace MinotaurSubnet.Library

universe u v w

structure Docket (κ : Type u) (α : Type v) (τ : Type w) [DecidableEq κ] where
  records : List α
  table : Dict κ Nat
  waiting : Dict Nat τ
  tableBound : ∀ k ref, table.get? k = some ref → ref < records.length
  waitingBound : ∀ ref t, waiting.get? ref = some t → ref < records.length
  tableInjective : ∀ k k' ref, table.get? k = some ref → table.get? k' = some ref → k = k'

namespace Docket

variable {κ : Type u} {α : Type v} {τ : Type w} [DecidableEq κ]

def empty : Docket κ α τ where
  records := []
  table := Dict.empty
  waiting := Dict.empty
  tableBound := by simp
  waitingBound := by simp
  tableInjective := by simp

/-- The record the table holds under `k`. -/
def current (d : Docket κ α τ) (k : κ) : Option α := (d.table.get? k).bind (d.records[·]?)

def fresh (d : Docket κ α τ) : Nat := d.records.length

/-- Register a new record under `k`, replacing whatever was there. -/
def register (d : Docket κ α τ) (k : κ) (x : α) : Docket κ α τ where
  records := d.records ++ [x]
  table := d.table.set k d.fresh
  waiting := d.waiting
  tableBound := by
    intro k' ref found
    rw [Dict.get?_set] at found
    split at found
    · simp [← Option.some.inj found, fresh]
    · have := d.tableBound k' ref found
      simp
      omega
  waitingBound := by
    intro ref t found
    have := d.waitingBound ref t found
    simp
    omega
  tableInjective := by
    intro k₁ k₂ ref first second
    rw [Dict.get?_set] at first second
    -- the new reference is past every old one
    have old : ∀ k' ref, d.table.get? k' = some ref → ref ≠ d.fresh :=
      fun k' ref found same => absurd (d.tableBound k' ref found) (by simp [same, fresh])
    split at first <;> split at second
    · simp_all
    · exact absurd (Option.some.inj first).symm (old k₂ ref second)
    · exact absurd (Option.some.inj second).symm (old k₁ ref first)
    · exact d.tableInjective k₁ k₂ ref first second

/-- Change the record under `k` in place. -/
def modify (d : Docket κ α τ) (k : κ) (f : α → α) : Docket κ α τ where
  records := match d.table.get? k with
    | some ref => d.records.modify ref f
    | none => d.records
  table := d.table
  waiting := d.waiting
  tableBound := by
    intro k' ref found
    have := d.tableBound k' ref found
    split <;> simpa using this
  waitingBound := by
    intro ref t found
    have := d.waitingBound ref t found
    split <;> simpa using this
  tableInjective := d.tableInjective

/-- Keep the table entries whose key and record satisfy `keep`. -/
def restrict (d : Docket κ α τ) (keep : κ → Option α → Bool) : Docket κ α τ where
  records := d.records
  table := d.table.filter fun k ref => keep k d.records[ref]?
  waiting := d.waiting
  tableBound := fun k ref found => d.tableBound k ref (Dict.get?_filter_some found)
  waitingBound := d.waitingBound
  tableInjective := fun k k' ref first second =>
    d.tableInjective k k' ref (Dict.get?_filter_some first) (Dict.get?_filter_some second)

/-- `del table[k]`. -/
def remove (d : Docket κ α τ) (k : κ) : Docket κ α τ := d.restrict fun k' _ => k' ≠ k

def clear (d : Docket κ α τ) : Docket κ α τ := d.restrict fun _ _ => false

def suspend (d : Docket κ α τ) (ref : Nat) (t : τ) (bound : ref < d.records.length) :
    Docket κ α τ where
  records := d.records
  table := d.table
  waiting := d.waiting.set ref t
  tableBound := d.tableBound
  waitingBound := by
    intro ref' t' found
    rw [Dict.get?_set] at found
    split at found
    · next same => exact same ▸ bound
    · exact d.waitingBound ref' t' found
  tableInjective := d.tableInjective

def finish (d : Docket κ α τ) (ref : Nat) : Docket κ α τ where
  records := d.records
  table := d.table
  waiting := d.waiting.erase ref
  tableBound := d.tableBound
  waitingBound := by
    intro ref' t' found
    exact d.waitingBound ref' t' (Dict.get?_erase_some found)
  tableInjective := d.tableInjective

inductive Wakeup (α : Type v) where
  | expired
  | gone
  | ready (x : α)
  | again

/-- A suspended call wakes up: it looks for the record under its key (not for its own),
    takes it out when it is `ready`, and suspends again when it is not. -/
def poll (d : Docket κ α τ) (ref : Nat) (t : τ) (k : κ) (inTime : Bool) (ready : α → Bool)
    (bound : ref < d.records.length) : Docket κ α τ × Wakeup α :=
  if inTime then
    match d.current k with
    | none => (d.finish ref, .gone)
    | some x =>
      if ready x then ((d.remove k).finish ref, .ready x)
      else (d.suspend ref t bound, .again)
  else (d.finish ref, .expired)

@[simp] theorem current_empty (k : κ) : (empty : Docket κ α τ).current k = none := rfl

variable (d : Docket κ α τ)

theorem current_register (k k' : κ) (x : α) :
    (d.register k x).current k' = if k' = k then some x else d.current k' := by
  simp only [current, register, Dict.get?_set]
  split
  · simp [fresh]
  · cases found : d.table.get? k' with
    | none => rfl
    | some ref =>
      have bound := d.tableBound k' ref found
      simp [List.getElem?_append_left bound]

theorem current_modify (k k' : κ) (f : α → α) :
    (d.modify k f).current k' = if k' = k then (d.current k).map f else d.current k' := by
  simp only [current, modify]
  cases here : d.table.get? k with
  | none =>
    by_cases same : k' = k
    · simp [same, here]
    · simp [same]
  | some ref =>
    by_cases same : k' = k
    · simp [same, here]
    · cases found : d.table.get? k' with
      | none => simp [same]
      | some ref' =>
        have apart : ref ≠ ref' := by
          rintro rfl
          exact same (d.tableInjective k' k ref found here)
        simp [same, apart]

theorem current_restrict (keep : κ → Option α → Bool) (k : κ) :
    (d.restrict keep).current k = if keep k (d.current k) then d.current k else none := by
  cases found : d.table.get? k with
  | none => simp [current, restrict, Dict.get?_filter, found]
  | some ref =>
    by_cases kept : keep k d.records[ref]? = true
    · simp [current, restrict, Dict.get?_filter, found, Option.filter, kept]
    · simp [current, restrict, Dict.get?_filter, found, Option.filter, kept]

theorem current_restrict_some {d : Docket κ α τ} {keep : κ → Option α → Bool} {k x}
    (after : (d.restrict keep).current k = some x) : d.current k = some x := by
  rw [current_restrict] at after
  split at after
  · exact after
  · simp at after

@[simp] theorem current_clear (k : κ) : d.clear.current k = none := by
  rw [clear, current_restrict]
  simp

@[simp] theorem current_suspend (ref : Nat) (t : τ) (bound : ref < d.records.length) (k : κ) :
    (d.suspend ref t bound).current k = d.current k := rfl

@[simp] theorem current_finish (ref : Nat) (k : κ) :
    (d.finish ref).current k = d.current k := rfl

section

variable {d : Docket κ α τ} {ref : Nat} {t : τ} {k : κ} {inTime : Bool} {ready : α → Bool}
  {bound : ref < d.records.length}

theorem poll_records : (d.poll ref t k inTime ready bound).1.records = d.records := by
  unfold poll
  split
  · split
    · rfl
    · split <;> rfl
  · rfl

theorem poll_current {k' x} (after : (d.poll ref t k inTime ready bound).1.current k' = some x) :
    d.current k' = some x := by
  unfold poll at after
  split at after
  · split at after
    · exact after
    · split at after
      · have removed : (d.remove k).current k' = some x := after
        exact current_restrict_some removed
      · exact after
  · exact after

theorem poll_ready {x} (woke : (d.poll ref t k inTime ready bound).2 = .ready x) :
    d.current k = some x ∧ ready x = true := by
  unfold poll at woke
  split at woke
  · split at woke
    · cases woke
    · next y here =>
      split at woke
      · next enough =>
        cases woke
        exact ⟨here, enough⟩
      · cases woke
  · cases woke

theorem poll_waiting {ref' t'}
    (after : (d.poll ref t k inTime ready bound).1.waiting.get? ref' = some t') :
    d.waiting.get? ref' = some t' ∨ ref' = ref ∧ t' = t := by
  have finished : (d.waiting.erase ref).get? ref' = some t' →
      d.waiting.get? ref' = some t' ∨ ref' = ref ∧ t' = t := by
    intro found
    exact .inl (Dict.get?_erase_some found)
  unfold poll at after
  split at after
  · split at after
    · exact finished after
    · split at after
      · exact finished after
      · have suspended : (d.waiting.set ref t).get? ref' = some t' := after
        rw [Dict.get?_set] at suspended
        split at suspended
        · next same => exact .inr ⟨same, (Option.some.inj suspended).symm⟩
        · exact .inl suspended
  · exact finished after

end

end Docket

end MinotaurSubnet.Library
