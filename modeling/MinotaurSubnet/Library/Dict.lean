import Mathlib.Data.List.Nodup
import Mathlib.Algebra.Order.BigOperators.Group.List
import Mathlib.Algebra.Order.Ring.Nat

/-! # Insertion-ordered dictionaries

An association list whose keys are pairwise distinct. Assignment overwrites in
place and otherwise appends, so iteration follows first insertion. The order is
observable (listing the values, evicting the oldest entries), which is why this
is not a finite map.
-/

namespace MinotaurSubnet.Library

universe u v

structure Dict (κ : Type u) (α : Type v) where
  entries : List (κ × α)
  keysNodup : (entries.map Prod.fst).Nodup
  deriving DecidableEq

namespace Dict

variable {κ : Type u} {α : Type v} [DecidableEq κ]

def empty : Dict κ α := ⟨[], by simp⟩

def keys (d : Dict κ α) : List κ := d.entries.map Prod.fst

def values (d : Dict κ α) : List α := d.entries.map Prod.snd

def size (d : Dict κ α) : Nat := d.entries.length

def get? (d : Dict κ α) (k : κ) : Option α := d.entries.lookup k

/-- Assignment on the raw entries: in place when the key occurs, else at the end. -/
def assign (k : κ) (v : α) : List (κ × α) → List (κ × α)
  | [] => [(k, v)]
  | (k', v') :: rest => if k' = k then (k, v) :: rest else (k', v') :: assign k v rest

theorem assign_keys (k : κ) (v : α) (entries : List (κ × α)) :
    (assign k v entries).map Prod.fst =
      if k ∈ entries.map Prod.fst then entries.map Prod.fst
      else entries.map Prod.fst ++ [k] := by
  induction entries with
  | nil => simp [assign]
  | cons entry rest ih =>
    obtain ⟨k', v'⟩ := entry
    by_cases same : k' = k
    · simp [assign, same]
    · have other : k ≠ k' := fun h => same h.symm
      simp only [assign, if_neg same, List.map_cons, ih, List.mem_cons, other, false_or]
      split <;> simp

def set (d : Dict κ α) (k : κ) (v : α) : Dict κ α where
  entries := assign k v d.entries
  keysNodup := by
    rw [assign_keys]
    split
    · exact d.keysNodup
    · next absent =>
      exact List.nodup_append.mpr ⟨d.keysNodup, by simp, by
        intro a member b single same
        obtain rfl := List.mem_singleton.mp single
        exact absent (same ▸ member)⟩

def erase (d : Dict κ α) (k : κ) : Dict κ α where
  entries := d.entries.filter (fun entry => entry.1 ≠ k)
  keysNodup := d.keysNodup.sublist (List.filter_sublist.map Prod.fst)

/-- Keep the entries that satisfy `p`, in order. -/
def filter (d : Dict κ α) (p : κ → α → Bool) : Dict κ α where
  entries := d.entries.filter (fun entry => p entry.1 entry.2)
  keysNodup := d.keysNodup.sublist (List.filter_sublist.map Prod.fst)

/-- Without its `n` oldest entries. -/
def dropOldest (d : Dict κ α) (n : Nat) : Dict κ α where
  entries := d.entries.drop n
  keysNodup := d.keysNodup.sublist ((List.drop_sublist n d.entries).map Prod.fst)

def mapValues (d : Dict κ α) (f : κ → α → α) : Dict κ α where
  entries := d.entries.map fun entry => (entry.1, f entry.1 entry.2)
  keysNodup := by
    rw [List.map_map]
    exact d.keysNodup

/-- The dictionary of the images under `f`. -/
def image {β : Type*} (d : Dict κ α) (f : α → β) : Dict κ β where
  entries := d.entries.map fun entry => (entry.1, f entry.2)
  keysNodup := by
    rw [List.map_map]
    exact d.keysNodup

omit [DecidableEq κ] in
@[simp] theorem size_eq_keys (d : Dict κ α) : d.keys.length = d.size := by
  simp [keys, size]

omit [DecidableEq κ] in
@[simp] theorem size_eq_values (d : Dict κ α) : d.values.length = d.size := by
  simp [values, size]

@[simp] theorem get?_empty (k : κ) : (empty : Dict κ α).get? k = none := rfl

theorem lookup_assign (k k' : κ) (v : α) (entries : List (κ × α)) :
    (assign k v entries).lookup k' = if k' = k then some v else entries.lookup k' := by
  induction entries with
  | nil =>
    by_cases same : k' = k
    · simp [assign, same]
    · simp [assign, List.lookup_cons, beq_eq_false_iff_ne.mpr same, same]
  | cons entry rest ih =>
    obtain ⟨head, value⟩ := entry
    by_cases atHead : head = k
    · subst atHead
      by_cases same : k' = head
      · simp [assign, same]
      · simp [assign, List.lookup_cons, beq_eq_false_iff_ne.mpr same, same]
    · by_cases here : k' = head
      · subst here
        simp [assign, atHead]
      · simp only [assign, if_neg atHead, List.lookup_cons, beq_eq_false_iff_ne.mpr here, ih]

theorem get?_set (d : Dict κ α) (k k' : κ) (v : α) :
    (d.set k v).get? k' = if k' = k then some v else d.get? k' :=
  lookup_assign k k' v d.entries

@[simp] theorem get?_set_self (d : Dict κ α) (k : κ) (v : α) : (d.set k v).get? k = some v := by
  simp [get?_set]

theorem get?_set_ne (d : Dict κ α) {k k'} (v : α) (other : k' ≠ k) :
    (d.set k v).get? k' = d.get? k' := by
  simp [get?_set, other]

variable {d : Dict κ α} {k : κ} {v : α}

theorem get?_eq_some :
    d.get? k = some v ↔ (k, v) ∈ d.entries := by
  obtain ⟨entries, distinct⟩ := d
  simp only [get?]
  induction entries with
  | nil => simp
  | cons entry rest ih =>
    obtain ⟨head, value⟩ := entry
    obtain ⟨fresh, tailDistinct⟩ := List.nodup_cons.mp distinct
    by_cases here : k = head
    · subst here
      have notLater : (k, v) ∉ rest := fun later =>
        fresh (List.mem_map.mpr ⟨(k, v), later, rfl⟩)
      simp [notLater, eq_comm]
    · simp [List.lookup_cons, beq_eq_false_iff_ne.mpr here, here, ih tailDistinct]

theorem mem_values : v ∈ d.values ↔ ∃ k, d.get? k = some v := by
  constructor
  · intro member
    obtain ⟨⟨k, v'⟩, entry, rfl⟩ := List.mem_map.mp member
    exact ⟨k, get?_eq_some.mpr entry⟩
  · rintro ⟨k, found⟩
    exact List.mem_map.mpr ⟨(k, v), get?_eq_some.mp found, rfl⟩

theorem mem_keys : k ∈ d.keys ↔ ∃ v, d.get? k = some v := by
  constructor
  · intro member
    obtain ⟨⟨k', v⟩, entry, rfl⟩ := List.mem_map.mp member
    exact ⟨v, get?_eq_some.mpr entry⟩
  · rintro ⟨v, found⟩
    exact List.mem_map.mpr ⟨(k, v), get?_eq_some.mp found, rfl⟩

theorem get?_erase (d : Dict κ α) (k k' : κ) :
    (d.erase k).get? k' = if k' = k then none else d.get? k' := by
  apply Option.ext
  intro v
  simp [get?_eq_some, erase]
  by_cases same : k' = k
  · simp [same]
  · simp [same]

theorem get?_erase_some {k k'} (kept : (d.erase k).get? k' = some v) :
    d.get? k' = some v := by
  rw [get?_erase] at kept
  split at kept
  · simp at kept
  · exact kept

theorem get?_mapValues (d : Dict κ α) (f : κ → α → α) (k : κ) :
    (d.mapValues f).get? k = (d.get? k).map (f k) := by
  apply Option.ext
  intro v
  simp only [get?_eq_some, mapValues, List.mem_map, Prod.mk.injEq, Option.map_eq_some_iff]
  constructor
  · rintro ⟨⟨k', w⟩, entry, rfl, mapped⟩
    exact ⟨w, entry, mapped⟩
  · rintro ⟨w, entry, mapped⟩
    exact ⟨(k, w), entry, rfl, mapped⟩

theorem get?_image {β : Type*} (d : Dict κ α) (f : α → β) (k : κ) :
    (d.image f).get? k = (d.get? k).map f := by
  apply Option.ext
  intro v
  simp only [get?_eq_some, image, List.mem_map, Prod.mk.injEq, Option.map_eq_some_iff]
  constructor
  · rintro ⟨⟨k', w⟩, entry, rfl, mapped⟩
    exact ⟨w, entry, mapped⟩
  · rintro ⟨w, entry, mapped⟩
    exact ⟨⟨k, w⟩, entry, rfl, mapped⟩

theorem get?_filter (d : Dict κ α) (p : κ → α → Bool) (k : κ) :
    (d.filter p).get? k = (d.get? k).filter (p k) := by
  apply Option.ext
  intro v
  simp [get?_eq_some, filter]

theorem get?_filter_key (d : Dict κ α) (p : κ → Bool) (k : κ) :
    (d.filter fun k _ => p k).get? k = if p k then d.get? k else none := by
  rw [get?_filter]
  cases d.get? k with
  | none => simp
  | some v => rfl

theorem get?_filter_some {p : κ → α → Bool} (kept : (d.filter p).get? k = some v) :
    d.get? k = some v :=
  get?_eq_some.mpr (List.mem_of_mem_filter (get?_eq_some.mp kept))

theorem size_filter_mem {ks : List κ} (distinct : ks.Nodup) (present : ∀ k ∈ ks, k ∈ d.keys) :
    (d.filter fun k _ => decide (k ∈ ks)).size = ks.length := by
  have same : (d.filter fun k _ => decide (k ∈ ks)).keys.Perm ks := by
    apply (List.perm_ext_iff_of_nodup (d.filter _).keysNodup distinct).mpr
    intro k
    constructor
    · intro member
      obtain ⟨v, found⟩ := mem_keys.mp member
      rw [get?_filter_key] at found
      by_contra absent
      simp [absent] at found
    · intro member
      obtain ⟨v, found⟩ := mem_keys.mp (present k member)
      apply mem_keys.mpr
      exact ⟨v, by rw [get?_filter_key, if_pos (decide_eq_true member), found]⟩
  rw [← size_eq_keys, same.length_eq]

theorem get?_dropOldest_some {n} (kept : (d.dropOldest n).get? k = some v) :
    d.get? k = some v :=
  get?_eq_some.mpr (List.mem_of_mem_drop (get?_eq_some.mp kept))

def assignAll (d : Dict κ α) (pairs : List (κ × α)) : Dict κ α :=
  pairs.foldl (fun acc pair => acc.set pair.1 pair.2) d

@[simp] theorem assignAll_nil (d : Dict κ α) : d.assignAll [] = d := rfl

@[simp] theorem assignAll_cons (d : Dict κ α) (pair : κ × α) (rest : List (κ × α)) :
    d.assignAll (pair :: rest) = (d.set pair.1 pair.2).assignAll rest := rfl

theorem get?_assignAll_some {pairs} (found : (d.assignAll pairs).get? k = some v) :
    (k, v) ∈ pairs ∨ d.get? k = some v := by
  induction pairs generalizing d with
  | nil => exact .inr found
  | cons pair rest ih =>
    rcases ih found with later | earlier
    · exact .inl (List.mem_cons_of_mem pair later)
    · rw [get?_set] at earlier
      split at earlier
      · next here =>
        obtain rfl : pair.2 = v := Option.some.inj earlier
        exact .inl (here ▸ List.mem_cons_self)
      · exact .inr earlier

theorem get?_assignAll_of_absent {pairs} (absent : k ∉ pairs.map Prod.fst) :
    (d.assignAll pairs).get? k = d.get? k := by
  induction pairs generalizing d with
  | nil => rfl
  | cons pair rest ih =>
    rw [List.map_cons, List.mem_cons, not_or] at absent
    rw [assignAll_cons, ih absent.2, get?_set_ne _ _ absent.1]

theorem get?_assignAll_of_mem {pairs} (present : k ∈ pairs.map Prod.fst)
    (agree : ∀ pair ∈ pairs, pair.1 = k → pair.2 = v) :
    (d.assignAll pairs).get? k = some v := by
  induction pairs generalizing d with
  | nil => cases present
  | cons pair rest ih =>
    have agreeRest : ∀ p ∈ rest, p.1 = k → p.2 = v :=
      fun p member => agree p (List.mem_cons_of_mem pair member)
    rw [assignAll_cons]
    by_cases later : k ∈ rest.map Prod.fst
    · exact ih later agreeRest
    · have here : k = pair.1 := by simpa [later] using present
      rw [get?_assignAll_of_absent later, here, get?_set_self,
        agree pair List.mem_cons_self here.symm]

/-- `{**d, **e}`: the second dictionary wins. -/
def update (d e : Dict κ α) : Dict κ α := d.assignAll e.entries

theorem get?_update_of_some {d e : Dict κ α} (found : e.get? k = some v) :
    (d.update e).get? k = some v := by
  apply get?_assignAll_of_mem
  · exact mem_keys.mpr ⟨v, found⟩
  · rintro ⟨k', w⟩ member rfl
    exact Option.some.inj ((get?_eq_some.mpr member).symm.trans found)

theorem get?_update_some {d e : Dict κ α} (found : (d.update e).get? k = some v) :
    e.get? k = some v ∨ d.get? k = some v :=
  (get?_assignAll_some found).imp_left get?_eq_some.mpr

theorem assign_of_lookup_none {entries} (v : α) (absent : entries.lookup k = none) :
    assign k v entries = entries ++ [(k, v)] := by
  induction entries with
  | nil => rfl
  | cons entry rest ih =>
    obtain ⟨head, value⟩ := entry
    by_cases here : head = k
    · subst here
      simp at absent
    · rw [List.lookup_cons, beq_eq_false_iff_ne.mpr (Ne.symm here)] at absent
      rw [assign, if_neg here, ih absent, List.cons_append]

theorem assign_of_lookup_some {w entries} (v : α) (found : entries.lookup k = some w) :
    ∃ before after, entries = before ++ (k, w) :: after ∧
      assign k v entries = before ++ (k, v) :: after := by
  induction entries with
  | nil => cases found
  | cons entry rest ih =>
    obtain ⟨head, value⟩ := entry
    by_cases here : head = k
    · subst here
      simp only [List.lookup_cons_self, Option.some.injEq] at found
      subst found
      exact ⟨[], rest, rfl, by rw [assign, if_pos rfl, List.nil_append]⟩
    · rw [List.lookup_cons, beq_eq_false_iff_ne.mpr (Ne.symm here)] at found
      obtain ⟨before, after, rfl, later⟩ := ih found
      exact ⟨(head, value) :: before, after, rfl, by rw [assign, if_neg here, later, List.cons_append]⟩

theorem values_set_of_none (v : α) (absent : d.get? k = none) :
    (d.set k v).values = d.values ++ [v] := by
  simp [values, set, assign_of_lookup_none v absent]

theorem values_set_of_some {w} (v : α) (found : d.get? k = some w) :
    ∃ before after, d.values = before ++ w :: after ∧ (d.set k v).values = before ++ v :: after := by
  obtain ⟨before, after, entries, assigned⟩ := assign_of_lookup_some v found
  refine ⟨before.map Prod.snd, after.map Prod.snd, ?_, ?_⟩
  · simp [values, entries]
  · simp [values, set, assigned]

theorem map_values_set_of_some {β : Type*} {f : α → β} {v w} (found : d.get? k = some w)
    (same : f v = f w) :
    (d.set k v).values.map f = d.values.map f := by
  obtain ⟨before, after, held, written⟩ := values_set_of_some v found
  simp [held, written, same]

theorem countP_set_of_some {p : α → Bool} {v w} (found : d.get? k = some w) (same : p v = p w) :
    (d.set k v).values.countP p = d.values.countP p := by
  have looks := congrArg (List.countP id) (map_values_set_of_some found same)
  simpa only [List.countP_map, Function.id_comp] using looks

theorem countP_set_of_none {p : α → Bool} (v : α) (absent : d.get? k = none) :
    (d.set k v).values.countP p = d.values.countP p + if p v then 1 else 0 := by
  rw [values_set_of_none v absent, List.countP_append, List.countP_singleton]

theorem countP_set_le (d : Dict κ α) (p : α → Bool) (k : κ) (v : α) :
    (d.set k v).values.countP p ≤ d.values.countP p + if p v then 1 else 0 := by
  cases found : d.get? k with
  | none => rw [countP_set_of_none v found]
  | some w =>
    obtain ⟨before, after, held, written⟩ := values_set_of_some v found
    rw [held, written, List.countP_append, List.countP_append, List.countP_cons, List.countP_cons]
    omega

theorem countP_filter_of_kept {p : α → Bool} {q : κ → α → Bool}
    (kept : ∀ k v, d.get? k = some v → p v → q k v) :
    (d.filter q).values.countP p = d.values.countP p := by
  simp only [values, filter, List.countP_map, List.countP_filter]
  apply List.countP_congr
  intro entry member
  simp
  exact kept entry.1 entry.2 (get?_eq_some.mpr member)

/-- The sum of `f` over the values. -/
def total (d : Dict κ α) (f : α → Nat) : Nat := (d.values.map f).sum

theorem sum_map_set_of_none {M : Type*} [AddCommMonoid M] (f : α → M) (v : α)
    (absent : d.get? k = none) : ((d.set k v).values.map f).sum = (d.values.map f).sum + f v := by
  simp [values_set_of_none v absent]

theorem sum_map_set_of_some {M : Type*} [AddCommMonoid M] {w} (f : α → M) (v : α)
    (found : d.get? k = some w) :
    ((d.set k v).values.map f).sum + f w = (d.values.map f).sum + f v := by
  obtain ⟨before, after, held, written⟩ := values_set_of_some v found
  simp [held, written]
  ac_rfl

variable {f : α → Nat}

theorem total_set_of_none (v : α) (absent : d.get? k = none) :
    (d.set k v).total f = d.total f + f v :=
  sum_map_set_of_none f v absent

theorem total_set_of_some {w} (v : α) (found : d.get? k = some w) :
    (d.set k v).total f + f w = d.total f + f v :=
  sum_map_set_of_some f v found

theorem total_set_getD (d : Dict κ α) {zero} (nothing : f zero = 0) (k : κ) (v : α) :
    (d.set k v).total f + f ((d.get? k).getD zero) = d.total f + f v := by
  cases found : d.get? k with
  | none => simp [total_set_of_none v found, nothing]
  | some w => simpa using total_set_of_some v found

theorem le_total (found : d.get? k = some v) :
    f v ≤ d.total f :=
  List.single_le_sum (fun _ _ => Nat.zero_le _) _ (List.mem_map.mpr ⟨v, mem_values.mpr ⟨k, found⟩, rfl⟩)

theorem filterMap_flatMap_entries {β : Type*} (d : Dict κ α) (f : κ → α → List β) (k : κ) :
    (d.entries.flatMap fun e => (f e.1 e.2).map (Prod.mk e.1)).filterMap
        (fun x => if x.1 = k then some x.2 else none) =
      ((d.get? k).map (f k)).getD [] := by
  obtain ⟨entries, nodup⟩ := d
  unfold get?
  dsimp only
  induction entries with
  | nil => rfl
  | cons entry rest ih =>
    obtain ⟨k', v⟩ := entry
    rw [List.map_cons, List.nodup_cons] at nodup
    rw [List.flatMap_cons, List.filterMap_append, ih nodup.2, List.filterMap_map]
    by_cases same : k' = k
    · subst same
      have others : rest.lookup k' = none := by
        rw [List.lookup_eq_none_iff]
        intro e member
        have other : e.1 ≠ k' := fun eq => nodup.1 (List.mem_map.mpr ⟨e, member, eq⟩)
        simpa using other.symm
      simp [others]
    · have other : (k == k') = false := beq_false_of_ne fun eq => same eq.symm
      simp [List.lookup_cons, other, same]

end Dict

end MinotaurSubnet.Library
