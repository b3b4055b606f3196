import Mathlib.Data.List.Basic

/-! # Texts that say where they end

A word is readable when nothing but itself, up to `key`, can be read off the front of a text
that starts with it. Sequences of readable words are readable again.
-/

namespace MinotaurSubnet.Library

variable {α β γ : Type*}

/-- `follow` says what may come after a word. -/
def Readable (code : α → List β) (key : α → γ) (follow : List β → Prop) (a : α) : Prop :=
  ∀ b x y, follow x → follow y → code a ++ x = code b ++ y → key a = key b ∧ x = y

/-- The text is over or goes on with one of `stops`. -/
def StopsAt (stops : β → Prop) : List β → Prop
  | [] => True
  | c :: _ => stops c

theorem append_inj_of_stops {stops : β → Prop} {s t x y} (plain : ∀ c ∈ s, ¬stops c)
    (plain' : ∀ c ∈ t, ¬stops c) (ends : StopsAt stops x) (ends' : StopsAt stops y)
    (same : s ++ x = t ++ y) : s = t ∧ x = y := by
  induction s generalizing t with
  | nil =>
    cases t with
    | nil => exact ⟨rfl, same⟩
    | cons d rest =>
      rw [List.nil_append] at same
      subst same
      exact absurd ends (plain' d List.mem_cons_self)
  | cons c s ih =>
    cases t with
    | nil =>
      rw [List.nil_append] at same
      subst same
      exact absurd ends' (plain c List.mem_cons_self)
    | cons d rest =>
      obtain ⟨rfl, later⟩ := List.cons.inj same
      obtain ⟨rfl, after⟩ := ih (fun c inside => plain c (List.mem_cons_of_mem _ inside))
        (fun c inside => plain' c (List.mem_cons_of_mem _ inside)) later
      exact ⟨rfl, after⟩

section

variable (code : α → List β) (separator close : β)

def sequenceTail : List α → List β
  | [] => [close]
  | a :: rest => separator :: (code a ++ sequenceTail rest)

/-- Words with a separator between them and `close` at the end. -/
def sequence : List α → List β
  | [] => [close]
  | a :: rest => code a ++ sequenceTail code separator close rest

theorem intercalate_append (l : List α) :
    [separator].intercalate (l.map code) ++ [close] = sequence code separator close l := by
  cases l with
  | nil => rfl
  | cons a rest =>
    induction rest generalizing a with
    | nil => simp [sequence, sequenceTail, List.intercalate]
    | cons b rest ih =>
      have later := ih b
      simp only [List.map_cons, sequence, sequenceTail] at later ⊢
      rw [List.intercalate_cons_cons, List.append_assoc, List.append_assoc, later]
      rfl

variable {code separator close} {key : α → γ} {follow : List β → Prop}

theorem sequenceTail_inj (apart : separator ≠ close) (separated : ∀ x, follow (separator :: x))
    (closed : ∀ x, follow (close :: x)) {l} (each : ∀ a ∈ l, Readable code key follow a) {m x y}
    (same : sequenceTail code separator close l ++ x = sequenceTail code separator close m ++ y) :
    l.map key = m.map key ∧ x = y := by
  have follows : ∀ (rest : List α) (z : List β),
      follow (sequenceTail code separator close rest ++ z) := by
    intro rest z
    cases rest with
    | nil => exact closed z
    | cons _ _ => exact separated _
  induction l generalizing m with
  | nil =>
    cases m with
    | nil => exact ⟨rfl, (List.cons.inj same).2⟩
    | cons b rest => exact absurd (List.cons.inj same).1.symm apart
  | cons a l ih =>
    cases m with
    | nil => exact absurd (List.cons.inj same).1 apart
    | cons b rest =>
      simp only [sequenceTail, List.cons_append, List.append_assoc] at same
      have word := (List.cons.inj same).2
      obtain ⟨here, later⟩ := each a List.mem_cons_self b _ _ (follows l x) (follows rest y) word
      obtain ⟨others, after⟩ := ih (fun a inside => each a (List.mem_cons_of_mem _ inside)) later
      exact ⟨by rw [List.map_cons, List.map_cons, here, others], after⟩

theorem sequence_inj (apart : separator ≠ close) (separated : ∀ x, follow (separator :: x))
    (closed : ∀ x, follow (close :: x)) (opens : ∀ a x y, code a ++ x ≠ close :: y) {l}
    (each : ∀ a ∈ l, Readable code key follow a) {m x y}
    (same : sequence code separator close l ++ x = sequence code separator close m ++ y) :
    l.map key = m.map key ∧ x = y := by
  have follows : ∀ (rest : List α) (z : List β),
      follow (sequenceTail code separator close rest ++ z) := by
    intro rest z
    cases rest with
    | nil => exact closed z
    | cons _ _ => exact separated _
  cases l with
  | nil =>
    cases m with
    | nil => exact ⟨rfl, (List.cons.inj same).2⟩
    | cons b rest =>
      simp only [sequence, List.append_assoc] at same
      exact absurd same.symm (opens b _ _)
  | cons a l =>
    cases m with
    | nil =>
      simp only [sequence, List.append_assoc] at same
      exact absurd same (opens a _ _)
    | cons b rest =>
      simp only [sequence, List.append_assoc] at same
      obtain ⟨here, later⟩ := each a List.mem_cons_self b _ _ (follows l x) (follows rest y) same
      obtain ⟨others, after⟩ := sequenceTail_inj apart separated closed
        (fun a inside => each a (List.mem_cons_of_mem _ inside)) later
      exact ⟨by rw [List.map_cons, List.map_cons, here, others], after⟩

end

theorem mem_sequence {code : α → List β} {separator close c l}
    (inside : c ∈ sequence code separator close l) :
    c = separator ∨ c = close ∨ ∃ a ∈ l, c ∈ code a := by
  have tail (rest : List α) (later : c ∈ sequenceTail code separator close rest) :
      c = separator ∨ c = close ∨ ∃ a ∈ rest, c ∈ code a := by
    induction rest with
    | nil => exact .inr (.inl (List.mem_singleton.mp later))
    | cons a rest ih =>
      simp only [sequenceTail, List.mem_cons, List.mem_append] at later
      grind
  cases l with
  | nil => exact .inr (.inl (List.mem_singleton.mp inside))
  | cons a rest =>
    cases List.mem_append.mp inside with
    | inl here => exact .inr (.inr ⟨a, List.mem_cons_self, here⟩)
    | inr later =>
      have found := tail rest later
      grind

def lines (newline : β) (texts : List (List β)) : List β := texts.flatMap (· ++ [newline])

theorem lines_inj {newline} {heads : β → Prop} {texts texts'} (plain : ∀ t ∈ texts, newline ∉ t)
    (plain' : ∀ t ∈ texts', newline ∉ t) (starts : ∀ t ∈ texts, ∃ c ∈ t.head?, heads c)
    (starts' : ∀ t ∈ texts', ∃ c ∈ t.head?, heads c) {x y} (ends : StopsAt (¬heads ·) x)
    (ends' : StopsAt (¬heads ·) y) (same : lines newline texts ++ x = lines newline texts' ++ y) :
    texts = texts' ∧ x = y := by
  have absurd_line {t z w : List β} {rest : List (List β)} (opened : ∃ c ∈ t.head?, heads c)
      (ended : StopsAt (¬heads ·) z) : z ≠ lines newline (t :: rest) ++ w := by
    intro line
    obtain ⟨c, first, head⟩ := opened
    cases t with
    | nil => cases first
    | cons d t =>
      cases first
      subst line
      exact ended head
  unfold lines at same
  induction texts generalizing texts' with
  | nil =>
    cases texts' with
    | nil => exact ⟨rfl, same⟩
    | cons t' rest' => exact absurd same (absurd_line (starts' t' List.mem_cons_self) ends)
  | cons t rest ih =>
    cases texts' with
    | nil => exact absurd same.symm (absurd_line (starts t List.mem_cons_self) ends')
    | cons t' rest' =>
      simp only [List.flatMap_cons, List.append_assoc, List.singleton_append] at same
      have free : ∀ c ∈ t, ¬c = newline := fun c inside broken =>
        plain t List.mem_cons_self (broken ▸ inside)
      have free' : ∀ c ∈ t', ¬c = newline := fun c inside broken =>
        plain' t' List.mem_cons_self (broken ▸ inside)
      have stop (z : List β) : StopsAt (· = newline) (newline :: z) := rfl
      obtain ⟨rfl, later⟩ := append_inj_of_stops free free' (stop _) (stop _) same
      obtain ⟨rfl, after⟩ := ih (fun t inside => plain t (List.mem_cons_of_mem _ inside))
        (fun t inside => plain' t (List.mem_cons_of_mem _ inside))
        (fun t inside => starts t (List.mem_cons_of_mem _ inside))
        (fun t inside => starts' t (List.mem_cons_of_mem _ inside)) (List.cons.inj later).2
      exact ⟨rfl, after⟩

section

variable [DecidableEq β] (bar : β)

/-- Fields with a bar before each, which may also occur in them. -/
def barred (fields : List (List β)) : List β := fields.flatMap (bar :: ·)

variable {bar}

theorem splitOn_append_barred (x : List β) (fields : List (List β)) :
    (x ++ barred bar fields).splitOn bar = x.splitOn bar ++ fields.flatMap (List.splitOn bar) := by
  induction fields generalizing x with
  | nil => simp [barred]
  | cons y rest ih =>
    have joined : x ++ barred bar (y :: rest) = x ++ bar :: (y ++ barred bar rest) := rfl
    rw [joined, List.splitOn_append_cons_self, ih, List.flatMap_cons]

/-- The text does not say which of its bars are in a field, and nothing else is lost. -/
theorem barred_eq_iff {fields fields'} : barred bar fields = barred bar fields' ↔
    fields.flatMap (List.splitOn bar) = fields'.flatMap (List.splitOn bar) := by
  have cut (fields : List (List β)) : (barred bar fields).splitOn bar = _ :=
    splitOn_append_barred [] fields
  constructor
  · intro same
    have pieces := (cut fields).symm.trans (same ▸ cut fields')
    exact List.append_cancel_left pieces
  · intro same
    have pieces : (barred bar fields).splitOn bar = (barred bar fields').splitOn bar :=
      (cut fields).trans (same ▸ (cut fields').symm)
    simpa using congrArg ([bar].intercalate ·) pieces

end

end MinotaurSubnet.Library
