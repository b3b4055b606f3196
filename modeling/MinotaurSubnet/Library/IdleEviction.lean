import MinotaurSubnet.Library.Dict

/-! # Dropping the oldest idle entries

A dictionary that may grow past a bound while its entries are busy: as long as it is too large
and an entry is idle, the oldest idle entry goes.
-/

namespace MinotaurSubnet.Library

variable {κ α : Type*} (bound : Nat) (idle : α → Bool)

namespace Dict

def dropIdle (d : Dict κ α) : Dict κ α where
  entries := d.entries.eraseP fun entry => idle entry.2
  keysNodup := d.keysNodup.sublist (List.eraseP_sublist.map Prod.fst)

def evictLoop : Nat → Dict κ α → Dict κ α
  | 0, d => d
  | rounds + 1, d =>
    if bound < d.size ∧ d.entries.any (fun entry => idle entry.2) then evictLoop rounds (d.dropIdle idle)
    else d

/-- Every round drops an entry, so there are never more rounds than entries. -/
def evict (d : Dict κ α) : Dict κ α := d.evictLoop bound idle d.size

def busy (d : Dict κ α) : Nat := d.entries.countP fun entry => !idle entry.2

variable {bound idle}

variable {d : Dict κ α}

theorem size_dropIdle (found : d.entries.any (fun entry => idle entry.2) = true) :
    (d.dropIdle idle).size + 1 = d.size := by
  obtain ⟨entry, inside, resting⟩ := List.any_eq_true.mp found
  have length := List.length_eraseP_of_mem (p := fun entry : κ × α => idle entry.2) inside resting
  have positive := List.length_pos_of_mem inside
  unfold size dropIdle
  simp only
  omega

variable (rounds : Nat)

theorem evictLoop_stops (enough : d.size ≤ rounds) :
    (d.evictLoop bound idle rounds).size ≤ bound ∨
      ∀ entry ∈ (d.evictLoop bound idle rounds).entries, idle entry.2 = false := by
  induction rounds generalizing d with
  | zero => exact .inl (enough.trans (Nat.zero_le bound))
  | succ rounds ih =>
    unfold evictLoop
    split
    · next drops =>
        have smaller := size_dropIdle drops.2
        exact ih (by omega)
    · next stays =>
        by_cases large : bound < d.size
        · right
          simpa [large] using stays
        · exact .inl (not_lt.mp large)

theorem evict_stops (d : Dict κ α) :
    (d.evict bound idle).size ≤ bound ∨ ∀ entry ∈ (d.evict bound idle).entries, idle entry.2 = false :=
  evictLoop_stops d.size le_rfl

theorem evictLoop_sublist (d : Dict κ α) :
    (d.evictLoop bound idle rounds).entries.Sublist d.entries := by
  induction rounds generalizing d with
  | zero => exact List.Sublist.refl _
  | succ rounds ih =>
    unfold evictLoop
    split
    · exact (ih (d.dropIdle idle)).trans List.eraseP_sublist
    · exact List.Sublist.refl _

theorem mem_evictLoop_of_busy {entry} (inside : entry ∈ d.entries)
    (working : idle entry.2 = false) : entry ∈ (d.evictLoop bound idle rounds).entries := by
  induction rounds generalizing d with
  | zero => exact inside
  | succ rounds ih =>
    unfold evictLoop
    split
    · exact ih ((List.mem_eraseP_of_neg (by simp [working])).mpr inside)
    · exact inside

theorem get?_evict_of_busy [DecidableEq κ] {k v} (found : d.get? k = some v)
    (working : idle v = false) : (d.evict bound idle).get? k = some v :=
  get?_eq_some.mpr (mem_evictLoop_of_busy d.size (get?_eq_some.mp found) working)

theorem get?_evict_some [DecidableEq κ] {k v} (found : (d.evict bound idle).get? k = some v) :
    d.get? k = some v :=
  get?_eq_some.mpr ((evictLoop_sublist d.size d).subset (get?_eq_some.mp found))

theorem countP_not_eraseP {β : Type*} (p : β → Bool) (l : List β) :
    (l.eraseP p).countP (!p ·) = l.countP (!p ·) := by
  induction l with
  | nil => rfl
  | cons b rest ih =>
    by_cases hit : p b = true
    · rw [List.eraseP_cons_of_pos hit, List.countP_cons_of_neg (by simp [hit])]
    · rw [List.eraseP_cons_of_neg hit, List.countP_cons, List.countP_cons, ih]

theorem mem_evictLoop_last (enough : d.size ≤ rounds) {others entry}
    (last : d.entries = others ++ [entry]) (resting : idle entry.2 = true) :
    entry ∈ (d.evictLoop bound idle rounds).entries ↔
      others.countP (fun other => !idle other.2) < bound := by
  have distinct : entry ∉ others := by
    intro inside
    have keys := d.keysNodup
    rw [last, List.map_append] at keys
    exact (List.nodup_append.mp keys).2.2 entry.1 (List.mem_map_of_mem inside) entry.1 (by simp) rfl
  induction rounds generalizing d others with
  | zero =>
    have empty : d.entries = [] := List.length_eq_zero_iff.mp (Nat.le_zero.mp enough)
    rw [empty] at last
    exact absurd last (by simp)
  | succ rounds ih =>
    have some_idle : d.entries.any (fun entry => idle entry.2) = true := by simp [last, resting]
    have length : d.size = others.length + 1 := by simp [size, last]
    unfold evictLoop
    by_cases large : bound < d.size
    · rw [if_pos ⟨large, some_idle⟩]
      by_cases older : others.any (fun other => idle other.2) = true
      · -- an older idle entry goes
        obtain ⟨other, inside, rests⟩ := List.any_eq_true.mp older
        have left : (d.dropIdle idle).entries = others.eraseP (fun other => idle other.2) ++ [entry] := by
          change d.entries.eraseP _ = _
          rw [last]
          exact List.eraseP_append_left (p := fun other : κ × α => idle other.2) rests _ inside
        have smaller := size_dropIdle some_idle
        have fresh : entry ∉ others.eraseP (fun other => idle other.2) :=
          fun inside => distinct (List.eraseP_sublist.subset inside)
        rw [← countP_not_eraseP (fun other : κ × α => idle other.2) others]
        exact ih (by omega) left fresh
      · -- the newest entry is the only idle one
        have working : ∀ other ∈ others, idle other.2 = false := by simpa using older
        have left : (d.dropIdle idle).entries = others := by
          change d.entries.eraseP _ = _
          rw [last, List.eraseP_append_right _ (by simpa using working)]
          simp [resting]
        have all : others.countP (fun other => !idle other.2) = others.length :=
          List.countP_eq_length.mpr fun other inside => by simp [working other inside]
        rw [all]
        constructor
        · intro kept
          exact absurd (left ▸ (evictLoop_sublist rounds _).subset kept) distinct
        · omega
    · rw [if_neg fun drops => large drops.1, last]
      have few := List.countP_le_length (p := fun other : κ × α => !idle other.2) (l := others)
      constructor
      · intro _
        omega
      · intro _
        simp

section

variable [DecidableEq κ] {d : Dict κ α} {k : κ} {v : α}

theorem entries_set_of_absent (absent : d.get? k = none) : (d.set k v).entries = d.entries ++ [(k, v)] := by
  have fresh : ∀ w, (k, w) ∉ d.entries := by
    intro w inside
    rw [get?_eq_some.mpr inside] at absent
    cases absent
  unfold set
  simp only
  generalize d.entries = entries at fresh ⊢
  induction entries with
  | nil => rfl
  | cons entry rest ih =>
    have other : entry.1 ≠ k := by
      rintro rfl
      exact fresh entry.2 List.mem_cons_self
    rw [assign, if_neg other, ih fun w inside => fresh w (List.mem_cons_of_mem _ inside)]
    rfl

theorem get?_evict_set_iff (absent : d.get? k = none) (resting : idle v = true) :
    ((d.set k v).evict bound idle).get? k = some v ↔ d.busy idle < bound := by
  rw [get?_eq_some]
  exact mem_evictLoop_last _ le_rfl (entries_set_of_absent absent) resting

end

end Dict

end MinotaurSubnet.Library
