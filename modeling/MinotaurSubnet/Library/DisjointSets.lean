import Mathlib.Data.Finset.Card
import MinotaurSubnet.Library.Dict

/-! # Disjoint sets over a dictionary of parents

A token without a link is the root of its own set. Linking always hangs the larger root
below the smaller one, so links descend, every climb ends, and the sets are the classes of
the links made so far. Both loops count their turns and give up with `none`.
-/

namespace MinotaurSubnet.Library

namespace DisjointSets

variable {τ : Type*} [LinearOrder τ] [DecidableEq τ]

def parentOf (parent : Dict τ τ) (x : τ) : τ := (parent.get? x).getD x

def climb (parent : Dict τ τ) : ℕ → τ → Option τ
  | 0, _ => none
  | turns + 1, x => if parentOf parent x = x then some x else climb parent turns (parentOf parent x)

/-- Hang everything on the way up directly below the root. -/
def compress (root : τ) : ℕ → Dict τ τ → τ → Option (Dict τ τ)
  | 0, _, _ => none
  | turns + 1, parent, x =>
    if parentOf parent x = root then some parent
    else compress root turns (parent.set x root) (parentOf parent x)

def find (parent : Dict τ τ) (x : τ) : Option (τ × Dict τ τ) := do
  let root ← climb parent (parent.size + 1) x
  let parent ← compress root (parent.size + 1) parent x
  return (root, parent)

def union (parent : Dict τ τ) (a b : τ) : Option (Dict τ τ) := do
  let (ra, parent) ← find parent a
  let (rb, parent) ← find parent b
  return if ra = rb then parent
    else if ra < rb then parent.set rb ra
    else parent.set ra rb

inductive Reachable : Dict τ τ → Prop
  | empty : Reachable Dict.empty
  | find {parent parent' : Dict τ τ} {x root : τ} :
      Reachable parent → find parent x = some (root, parent') → Reachable parent'
  | union {parent parent' : Dict τ τ} {a b : τ} :
      Reachable parent → union parent a b = some parent' → Reachable parent'

def Descending (parent : Dict τ τ) : Prop := ∀ x y, parent.get? x = some y → y < x

/-- `x` belongs to the set of the root `r`. -/
inductive Leads (parent : Dict τ τ) : τ → τ → Prop
  | root {r : τ} : parent.get? r = none → Leads parent r r
  | step {x y r : τ} : parent.get? x = some y → Leads parent y r → Leads parent x r

/-- How many turns a climb from `x` can take. -/
def height (parent : Dict τ τ) (x : τ) : ℕ := (parent.keys.toFinset.filter (· ≤ x)).card

variable {parent parent' : Dict τ τ} {x y r s z : τ}

theorem height_le_size (parent : Dict τ τ) (x : τ) : height parent x ≤ parent.size := by
  rw [← Dict.size_eq_keys]
  exact (Finset.card_filter_le _ _).trans (List.toFinset_card_le _)

theorem height_lt (desc : Descending parent) (link : parent.get? x = some y) :
    height parent y < height parent x := by
  have below := desc x y link
  have present : x ∈ parent.keys := Dict.mem_keys.mpr ⟨y, link⟩
  apply Finset.card_lt_card
  rw [Finset.ssubset_iff_of_subset]
  · exact ⟨x, by simp [present], by simp [below]⟩
  · intro z
    simp only [Finset.mem_filter]
    exact fun member => ⟨member.1, member.2.trans below.le⟩

theorem exists_leads (desc : Descending parent) (x : τ) : ∃ r, Leads parent x r := by
  induction size : height parent x using Nat.strong_induction_on generalizing x with
  | h n ih =>
    cases link : parent.get? x with
    | none => exact ⟨x, .root link⟩
    | some y =>
      obtain ⟨r, path⟩ := ih _ (size ▸ height_lt desc link) y rfl
      exact ⟨r, .step link path⟩

omit [LinearOrder τ] in
theorem Leads.root_get? (path : Leads parent x r) : parent.get? r = none := by
  induction path with
  | root link => exact link
  | step _ _ ih => exact ih

omit [LinearOrder τ] in
theorem Leads.unique (path : Leads parent x r) (path' : Leads parent x s) : r = s := by
  induction path with
  | root link =>
    cases path' with
    | root _ => rfl
    | step link' _ => simp [link] at link'
  | step link _ ih =>
    cases path' with
    | root link' => simp [link] at link'
    | step link' path' =>
      obtain rfl : _ = _ := Option.some.inj (link.symm.trans link')
      exact ih path'

theorem Leads.le (desc : Descending parent) (path : Leads parent x r) : r ≤ x := by
  induction path with
  | root _ => exact le_rfl
  | step link _ ih => exact ih.trans (desc _ _ link).le

theorem Leads.climb_eq (desc : Descending parent) (path : Leads parent x r) {turns}
    (enough : height parent x < turns) : climb parent turns x = some r := by
  induction path generalizing turns with
  | root link =>
    obtain ⟨turns, rfl⟩ : ∃ n, turns = n + 1 := ⟨turns - 1, by omega⟩
    simp [climb, parentOf, link]
  | step link _ ih =>
    obtain ⟨turns, rfl⟩ : ∃ n, turns = n + 1 := ⟨turns - 1, by omega⟩
    have lower := height_lt desc link
    have moved := (desc _ _ link).ne
    simp only [climb, parentOf, link, Option.getD_some, if_neg moved]
    exact ih (by omega)

/-- `parent'` has the sets of `parent`. -/
structure SameSets (parent parent' : Dict τ τ) : Prop where
  descending : Descending parent'
  leads : ∀ {z s}, Leads parent' z s ↔ Leads parent z s

theorem SameSets.refl (desc : Descending parent) : SameSets parent parent := ⟨desc, Iff.rfl⟩

theorem SameSets.trans {parent''} (first : SameSets parent parent')
    (second : SameSets parent' parent'') : SameSets parent parent'' :=
  ⟨second.descending, second.leads.trans first.leads⟩

theorem SameSets.of_leads (desc : Descending parent) (desc' : Descending parent')
    (kept : ∀ {z s}, Leads parent z s → Leads parent' z s) : SameSets parent parent' := by
  refine ⟨desc', ?_, kept⟩
  intro path'
  obtain ⟨s', path⟩ := exists_leads desc _
  exact path'.unique (kept path) ▸ path

theorem SameSets.set (desc : Descending parent) (path : Leads parent x r) (lower : r < x) :
    SameSets parent (parent.set x r) := by
  apply SameSets.of_leads desc
  · intro z y link
    rw [Dict.get?_set] at link
    split at link
    · next here =>
      cases link
      exact here ▸ lower
    · exact desc z y link
  · intro z s path'
    have root : Leads (parent.set x r) r r := by
      apply Leads.root
      rw [Dict.get?_set_ne _ _ lower.ne, path.root_get?]
    induction path' with
    | @root z link =>
      by_cases here : z = x
      · subst here
        exact absurd (path.unique (.root link)) lower.ne
      · exact .root (by rw [Dict.get?_set_ne _ _ here, link])
    | @step z y s link rest ih =>
      by_cases here : z = x
      · subst here
        obtain rfl := path.unique (.step link rest)
        exact .step (Dict.get?_set_self _ _ _) root
      · exact .step (by rw [Dict.get?_set_ne _ _ here, link]) ih

theorem Leads.compress_eq (desc : Descending parent) (path : Leads parent x r) {turns}
    (enough : height parent x < turns) :
    ∃ parent', compress r turns parent x = some parent' ∧ SameSets parent parent' := by
  induction turns generalizing parent x with
  | zero => omega
  | succ turns ih =>
    by_cases done : parentOf parent x = r
    · exact ⟨parent, by simp [compress, done], .refl desc⟩
    · cases path with
      | root link => simp [parentOf, link] at done
      | @step _ y _ link rest =>
        have below : r < x := (rest.le desc).trans_lt (desc x y link)
        have hung := SameSets.set desc (.step link rest) below
        have lower := height_lt desc link
        have keys : height (parent.set x r) y = height parent y := by
          have present : x ∈ parent.entries.map Prod.fst := Dict.mem_keys.mpr ⟨y, link⟩
          simp only [height, Dict.keys, Dict.set, Dict.assign_keys, if_pos present]
        obtain ⟨parent', compressed, same⟩ :=
          ih hung.descending (hung.leads.mpr rest) (by omega)
        refine ⟨parent', ?_, hung.trans same⟩
        simp only [compress, if_neg done]
        simpa [parentOf, link] using compressed

theorem find_eq (desc : Descending parent) (x : τ) :
    ∃ r parent', find parent x = some (r, parent') ∧ Leads parent x r ∧
      SameSets parent parent' := by
  obtain ⟨r, path⟩ := exists_leads desc x
  have enough : height parent x < parent.size + 1 := Nat.lt_succ_of_le (height_le_size parent x)
  obtain ⟨parent', compressed, same⟩ := path.compress_eq desc enough
  exact ⟨r, parent', by simp [find, path.climb_eq desc enough, compressed], path, same⟩

/-- The sets are the classes that the links `edge` generate. -/
structure Represents (parent : Dict τ τ) (edge : τ → τ → Prop) : Prop where
  descending : Descending parent
  classes : ∀ x y, (∃ r, Leads parent x r ∧ Leads parent y r) ↔ Relation.EqvGen edge x y

variable {edge edge' : τ → τ → Prop} {a b : τ}

theorem Represents.congr (repr : Represents parent edge) (same : ∀ u v, edge u v ↔ edge' u v) :
    Represents parent edge' := by
  have equal : edge = edge' := by
    ext u v
    exact same u v
  exact equal ▸ repr

theorem Represents.root_eq_iff (repr : Represents parent edge) (path : Leads parent x r)
    (path' : Leads parent y s) : r = s ↔ Relation.EqvGen edge x y := by
  rw [← repr.classes]
  constructor
  · intro same
    exact ⟨r, path, same ▸ path'⟩
  · intro common
    obtain ⟨t, first, second⟩ := common
    exact (path.unique first).trans (second.unique path')

theorem Represents.of_links (desc : Descending parent)
    (sound : ∀ x y, parent.get? x = some y → Relation.EqvGen edge x y)
    (complete : ∀ x y, edge x y → ∃ r, Leads parent x r ∧ Leads parent y r) :
    Represents parent edge := by
  have linked : ∀ {x r}, Leads parent x r → Relation.EqvGen edge x r := by
    intro x r path
    induction path with
    | root _ => exact .refl _
    | step link _ ih => exact .trans _ _ _ (sound _ _ link) ih
  refine ⟨desc, fun x y => ⟨?_, ?_⟩⟩
  · intro common
    obtain ⟨r, first, second⟩ := common
    exact .trans _ _ _ (linked first) (.symm _ _ (linked second))
  · intro related
    induction related with
    | rel x y link => exact complete x y link
    | refl x =>
      obtain ⟨r, path⟩ := exists_leads desc x
      exact ⟨r, path, path⟩
    | symm _ _ _ ih => exact ih.imp fun _ common => common.symm
    | trans _ _ _ _ _ ih ih' =>
      obtain ⟨r, first, middle⟩ := ih
      obtain ⟨s, middle', last⟩ := ih'
      exact ⟨r, first, middle.unique middle' ▸ last⟩

theorem Represents.empty : Represents (Dict.empty : Dict τ τ) fun _ _ => False := by
  apply Represents.of_links
  · intro x y link
    cases link
  · intro x y link
    cases link
  · exact fun _ _ link => link.elim

theorem SameSets.represents (same : SameSets parent parent') (repr : Represents parent edge) :
    Represents parent' edge :=
  ⟨same.descending, fun x y => by simp only [same.leads, repr.classes]⟩

theorem Leads.set_root {hi lo} (path : Leads parent z s) (top : parent.get? lo = none)
    (lower : lo < hi) (isRoot : parent.get? hi = none) :
    Leads (parent.set hi lo) z (if s = hi then lo else s) := by
  induction path with
  | @root z link =>
    split
    · next here =>
      subst here
      have root : (parent.set z lo).get? lo = none := by
        rw [Dict.get?_set_ne _ _ lower.ne, top]
      exact .step (Dict.get?_set_self _ _ _) (.root root)
    · next other => exact .root (by rw [Dict.get?_set_ne _ _ other, link])
  | @step z y s link _ ih =>
    have other : z ≠ hi := by
      intro same
      rw [same, isRoot] at link
      cases link
    exact .step (by rw [Dict.get?_set_ne _ _ other, link]) ih

theorem Represents.link (repr : Represents parent edge) {hi lo : τ} (lower : lo < hi)
    (isRoot : parent.get? hi = none) (top : parent.get? lo = none)
    (grown : ∀ u v, edge u v → edge' u v) (joined : Relation.EqvGen edge' hi lo)
    (fresh : ∀ u v, edge' u v → edge u v ∨
      (Leads parent u hi ∧ Leads parent v lo) ∨ (Leads parent u lo ∧ Leads parent v hi)) :
    Represents (parent.set hi lo) edge' := by
  have moves : ∀ {z s}, Leads parent z s → Leads (parent.set hi lo) z (if s = hi then lo else s) :=
    fun path => path.set_root top lower isRoot
  apply Represents.of_links
  · intro z y link
    rw [Dict.get?_set] at link
    split at link
    · next here =>
      cases link
      exact here ▸ lower
    · exact repr.descending z y link
  · intro z y link
    rw [Dict.get?_set] at link
    split at link
    · next here =>
      cases link
      exact here ▸ joined
    · obtain ⟨r, path⟩ := exists_leads repr.descending y
      exact Relation.EqvGen.mono grown _ _ ((repr.classes z y).mp ⟨r, .step link path, path⟩)
  · intro u v link
    rcases fresh u v link with old | ⟨first, second⟩ | ⟨first, second⟩
    · obtain ⟨r, first, second⟩ := (repr.classes u v).mpr (.rel u v old)
      exact ⟨_, moves first, moves second⟩
    · exact ⟨lo, by simpa using moves first, by simpa [lower.ne] using moves second⟩
    · exact ⟨lo, by simpa [lower.ne] using moves first, by simpa using moves second⟩

theorem Represents.union (repr : Represents parent edge) (a b : τ) :
    ∃ parent', union parent a b = some parent' ∧
      Represents parent' fun u v => edge u v ∨ (u = a ∧ v = b) := by
  obtain ⟨ra, first, foundA, pathA, same⟩ := find_eq repr.descending a
  obtain ⟨rb, second, foundB, pathB, same'⟩ := find_eq same.descending b
  have repr' := same'.represents (same.represents repr)
  replace pathA := same'.leads.mpr (same.leads.mpr pathA)
  replace pathB := same'.leads.mpr pathB
  have merged : DisjointSets.union parent a b = some (if ra = rb then second
      else if ra < rb then second.set rb ra else second.set ra rb) := by
    simp [DisjointSets.union, foundA, foundB]
  refine ⟨_, merged, ?_⟩
  have linkA : Relation.EqvGen edge a ra := (repr'.classes a ra).mp ⟨ra, pathA, .root pathA.root_get?⟩
  have linkB : Relation.EqvGen edge b rb := (repr'.classes b rb).mp ⟨rb, pathB, .root pathB.root_get?⟩
  have grown : ∀ u v, edge u v → edge u v ∨ (u = a ∧ v = b) := fun _ _ => .inl
  have joined : Relation.EqvGen (fun u v => edge u v ∨ (u = a ∧ v = b)) ra rb := by
    apply Relation.EqvGen.trans _ _ _ (.symm _ _ (Relation.EqvGen.mono grown _ _ linkA))
    exact .trans _ _ _ (.rel a b (.inr ⟨rfl, rfl⟩)) (Relation.EqvGen.mono grown _ _ linkB)
  split
  · next already =>
    -- nothing to hang: the new pair was related before
    subst already
    apply Represents.of_links repr'.descending
    · intro x y link
      obtain ⟨r, path⟩ := exists_leads repr'.descending y
      exact Relation.EqvGen.mono grown _ _ ((repr'.classes x y).mp ⟨r, .step link path, path⟩)
    · intro x y link
      cases link with
      | inl old => exact (repr'.classes x y).mpr (.rel x y old)
      | inr new => exact ⟨ra, new.1 ▸ pathA, new.2 ▸ pathB⟩
  · next apart =>
    split
    · next lower =>
      apply repr'.link lower pathB.root_get? pathA.root_get? grown (.symm _ _ joined)
      intro u v link
      cases link with
      | inl old => exact .inl old
      | inr new => exact .inr (.inr ⟨new.1 ▸ pathA, new.2 ▸ pathB⟩)
    · next notLower =>
      have lower : rb < ra := lt_of_le_of_ne (not_lt.mp notLower) (Ne.symm apart)
      apply repr'.link lower pathA.root_get? pathB.root_get? grown joined
      intro u v link
      cases link with
      | inl old => exact .inl old
      | inr new => exact .inr (.inl ⟨new.1 ▸ pathA, new.2 ▸ pathB⟩)

theorem Represents.find (repr : Represents parent edge) (x : τ) :
    ∃ r parent', find parent x = some (r, parent') ∧ Leads parent' x r ∧
      Represents parent' edge := by
  obtain ⟨r, parent', found, path, same⟩ := find_eq repr.descending x
  exact ⟨r, parent', found, same.leads.mpr path, same.represents repr⟩

theorem eqvGen_map {α β : Type*} {f : α → β} (injective : Function.Injective f) {rel : α → α → Prop}
    {i v} :
    Relation.EqvGen (Relation.Map rel f f) (f i) v ↔ ∃ j, f j = v ∧ Relation.EqvGen rel i j := by
  constructor
  · intro related
    have both : ∀ u v, Relation.EqvGen (Relation.Map rel f f) u v →
        (∀ i, f i = u → ∃ j, f j = v ∧ Relation.EqvGen rel i j) ∧
          ∀ j, f j = v → ∃ i, f i = u ∧ Relation.EqvGen rel i j := by
      intro u v related
      induction related with
      | rel u v link =>
        obtain ⟨i, j, linked, rfl, rfl⟩ := link
        constructor
        · intro i' same
          exact ⟨j, rfl, injective same ▸ .rel i j linked⟩
        · intro j' same
          exact ⟨i, rfl, injective same ▸ .rel i j linked⟩
      | refl u => exact ⟨fun i same => ⟨i, same, .refl i⟩, fun i same => ⟨i, same, .refl i⟩⟩
      | symm u v _ ih =>
        constructor
        · intro i same
          obtain ⟨j, eq, related⟩ := ih.2 i same
          exact ⟨j, eq, .symm _ _ related⟩
        · intro j same
          obtain ⟨i, eq, related⟩ := ih.1 j same
          exact ⟨i, eq, .symm _ _ related⟩
      | trans u v w _ _ ih ih' =>
        constructor
        · intro i same
          obtain ⟨j, eq, related⟩ := ih.1 i same
          obtain ⟨k, eq', related'⟩ := ih'.1 j eq
          exact ⟨k, eq', .trans _ _ _ related related'⟩
        · intro k same
          obtain ⟨j, eq, related⟩ := ih'.2 k same
          obtain ⟨i, eq', related'⟩ := ih.2 j eq
          exact ⟨i, eq', .trans _ _ _ related' related⟩
    exact (both _ _ related).1 i rfl
  · intro related
    obtain ⟨j, rfl, related⟩ := related
    induction related with
    | rel i j linked => exact .rel _ _ ⟨i, j, linked, rfl, rfl⟩
    | refl i => exact .refl _
    | symm _ _ _ ih => exact .symm _ _ ih
    | trans _ _ _ _ _ ih ih' => exact .trans _ _ _ ih ih'

theorem Reachable.represents (reached : Reachable parent) : ∃ edge, Represents parent edge := by
  induction reached with
  | empty => exact ⟨_, .empty⟩
  | @find _ _ x _ _ found ih =>
    obtain ⟨edge, repr⟩ := ih
    obtain ⟨r, parent', found', _, repr'⟩ := repr.find x
    obtain rfl := (Prod.mk.inj (Option.some.inj (found.symm.trans found'))).2
    exact ⟨edge, repr'⟩
  | @union _ _ a b _ merged ih =>
    obtain ⟨edge, repr⟩ := ih
    obtain ⟨parent', merged', repr'⟩ := repr.union a b
    cases merged.symm.trans merged'
    exact ⟨_, repr'⟩

theorem Reachable.find_terminates (reached : Reachable parent) (x : τ) :
    ∃ r parent', DisjointSets.find parent x = some (r, parent') ∧ Reachable parent' := by
  obtain ⟨edge, repr⟩ := reached.represents
  obtain ⟨r, parent', found, _⟩ := repr.find x
  exact ⟨r, parent', found, reached.find found⟩

end DisjointSets

end MinotaurSubnet.Library
