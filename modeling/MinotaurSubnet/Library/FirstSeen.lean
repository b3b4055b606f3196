import Mathlib.Data.List.Nodup

/-! # Keeping the first of each key

`firstSeen key xs` walks `xs` and keeps an element unless an earlier one has the
same key.
-/

namespace MinotaurSubnet.Library

variable {α κ : Type*} [DecidableEq κ] (key : α → κ)

def keepNew (kept : List α) (x : α) : List α :=
  if key x ∈ kept.map key then kept else kept ++ [x]

def firstSeen (xs : List α) : List α := xs.foldl (keepNew key) []

variable {key}

theorem foldl_keepNew_seen {kept : List α} {xs : List α}
    (seen : ∀ x ∈ xs, key x ∈ kept.map key) : xs.foldl (keepNew key) kept = kept := by
  induction xs with
  | nil => rfl
  | cons x rest ih =>
    rw [List.foldl_cons, keepNew, if_pos (seen x List.mem_cons_self)]
    exact ih fun y member => seen y (List.mem_cons_of_mem x member)

variable {kept xs : List α}

theorem foldl_keepNew_fresh (distinct : ((kept ++ xs).map key).Nodup) :
    xs.foldl (keepNew key) kept = kept ++ xs := by
  induction xs generalizing kept with
  | nil => simp
  | cons x rest ih =>
    have fresh : key x ∉ kept.map key := by
      intro member
      rw [List.map_append] at distinct
      exact (List.nodup_append.mp distinct).2.2 _ member _ (by simp) rfl
    rw [List.foldl_cons, keepNew, if_neg fresh, ih (by simpa using distinct)]
    simp

theorem foldl_keepNew_nodup (distinct : (kept.map key).Nodup) :
    ((xs.foldl (keepNew key) kept).map key).Nodup := by
  induction xs generalizing kept with
  | nil => exact distinct
  | cons x rest ih =>
    rw [List.foldl_cons]
    apply ih
    unfold keepNew
    split
    · exact distinct
    · next fresh =>
      rw [List.map_append, List.nodup_append]
      refine ⟨distinct, by simp, ?_⟩
      intro a member b single same
      obtain rfl : b = key x := by simpa using single
      exact fresh (same ▸ member)

variable (key) in
theorem firstSeen_nodup (xs : List α) : ((firstSeen key xs).map key).Nodup :=
  foldl_keepNew_nodup (by simp)

theorem mem_foldl_keepNew {x} (member : x ∈ kept) :
    x ∈ xs.foldl (keepNew key) kept := by
  induction xs generalizing kept with
  | nil => exact member
  | cons y rest ih =>
    rw [List.foldl_cons]
    apply ih
    unfold keepNew
    split
    · exact member
    · exact List.mem_append_left _ member

theorem key_mem_firstSeen {xs x} (member : x ∈ xs) :
    key x ∈ (firstSeen key xs).map key := by
  obtain ⟨before, after, rfl⟩ := List.append_of_mem member
  rw [firstSeen, List.foldl_append, List.foldl_cons]
  generalize before.foldl (keepNew key) [] = kept
  have here : key x ∈ (keepNew key kept x).map key := by
    unfold keepNew
    split
    · assumption
    · simp
  obtain ⟨y, found, same⟩ := List.mem_map.mp here
  exact List.mem_map.mpr ⟨y, mem_foldl_keepNew found, same⟩

theorem foldl_keepNew_sublist :
    (xs.foldl (keepNew key) kept).Sublist (kept ++ xs) := by
  induction xs generalizing kept with
  | nil => simp
  | cons x rest ih =>
    have step : (keepNew key kept x ++ rest).Sublist (kept ++ x :: rest) := by
      unfold keepNew
      split
      · exact List.Sublist.append_left (List.sublist_cons_self x rest) kept
      · simp
    rw [List.foldl_cons]
    exact ih.trans step

variable (key) in
theorem firstSeen_sublist (xs : List α) : (firstSeen key xs).Sublist xs := by
  rw [← List.nil_append xs, firstSeen, List.nil_append]
  exact foldl_keepNew_sublist

variable (key) in
theorem firstSeen_cons (x : α) (xs : List α) : ∃ rest, firstSeen key (x :: xs) = x :: rest := by
  have grows : ∀ (ys kept : List α), ∃ rest, ys.foldl (keepNew key) (x :: kept) = x :: rest := by
    intro ys
    induction ys with
    | nil => exact fun kept => ⟨kept, rfl⟩
    | cons y ys ih =>
      intro kept
      rw [List.foldl_cons, keepNew]
      split
      · exact ih kept
      · exact ih (kept ++ [y])
  exact grows xs []

variable (key) in
theorem firstSeen_again (x : α) (xs ys : List α) (covered : ∀ y ∈ ys, y ∈ x :: xs) :
    firstSeen key (x :: (firstSeen key (x :: xs) ++ ys)) = firstSeen key (x :: xs) := by
  have distinct := firstSeen_nodup key (x :: xs)
  have seen : ∀ y ∈ ys, key y ∈ (firstSeen key (x :: xs)).map key :=
    fun y member => key_mem_firstSeen (covered y member)
  obtain ⟨rest, kept⟩ := firstSeen_cons key x xs
  rw [kept] at distinct seen ⊢
  have start : keepNew key [] x = [x] := by simp [keepNew]
  have skip : keepNew key [x] x = [x] := by simp [keepNew]
  have walk : rest.foldl (keepNew key) [x] = [x] ++ rest :=
    foldl_keepNew_fresh (by simpa using distinct)
  rw [firstSeen, List.foldl_cons, start, List.foldl_append, List.foldl_cons, skip, walk]
  exact foldl_keepNew_seen seen

end MinotaurSubnet.Library
