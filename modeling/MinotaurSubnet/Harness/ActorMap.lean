import Mathlib.Data.Prod.Lex
import MinotaurSubnet.Library.DisjointSets
import MinotaurSubnet.Library.Fallible
import MinotaurSubnet.Python.Value

/-! # From hotkeys to actors

The actor map joins the on-chain coldkeys of a miner's hotkeys through the github owners
they submitted under: a union-find over prefixed tokens, and an actor is named after the best
token of its set, a coldkey before an owner before a hotkey. What its three loops establish
does not mention the order they ran in.
-/

namespace MinotaurSubnet.Harness

open Library Python

structure SetOrder where
  visit : List String → List String
  perm : ∀ members, (visit members).Perm members

def SetOrder.inserted : SetOrder := ⟨id, fun _ => .refl _⟩

@[simp] theorem SetOrder.mem_visit (order : SetOrder) {members x} :
    x ∈ order.visit members ↔ x ∈ members :=
  (order.perm members).mem_iff

section

variable (ownerUnion : Bool) (order : SetOrder) (coldkeyMap : Dict String String)
  (ownerMap : Dict String (List String))

def base (hk : String) : String :=
  match coldkeyMap.get? hk with
  | some ck => if ck = "" then "hk:" ++ hk else "ck:" ++ ck
  | none => "hk:" ++ hk

def ownersOf (hk : String) : List String := (ownerMap.get? hk).getD []

def mappedHotkeys : List String :=
  if ownerUnion then coldkeyMap.keys ∪ ownerMap.keys else coldkeyMap.keys

structure Linking where
  parent : Dict String String
  tokens : List String

def Linking.linkOwner (t : String) (s : Linking) (owner : String) : Option Linking := do
  let ot := "own:" ++ owner
  let parent ← DisjointSets.union s.parent t ot
  return ⟨parent, s.tokens.insert ot⟩

def Linking.addHotkey (s : Linking) (hk : String) : Option Linking := do
  let t := base coldkeyMap hk
  let (_, parent) ← DisjointSets.find s.parent t
  let s : Linking := ⟨parent, s.tokens.insert t⟩
  if ownerUnion then (ownersOf ownerMap hk).foldlM (Linking.linkOwner t) s else return s

def rank (tok : String) : ℕ ×ₗ String :=
  toLex (if startsWith tok "ck:" then 0 else if startsWith tok "own:" then 1 else 2, tok)

structure Labelling where
  parent : Dict String String
  rep : Dict String String

def Labelling.offer (s : Labelling) (tok : String) : Option Labelling := do
  let (r, parent) ← DisjointSets.find s.parent tok
  return match s.rep.get? r with
    | none => ⟨parent, s.rep.set r tok⟩
    | some best => if rank tok < rank best then ⟨parent, s.rep.set r tok⟩ else ⟨parent, s.rep⟩

/-- `tok.split(":", 1)[1]`, or the token itself where it has no colon. -/
def label (tok : String) : String :=
  if ':' ∈ tok.toList then String.ofList ((tok.toList.dropWhile (· ≠ ':')).drop 1) else tok

structure Naming where
  parent : Dict String String
  actorMap : Dict String String

def Naming.addHotkey (rep : Dict String String) (s : Naming) (hk : String) : Option Naming := do
  let (r, parent) ← DisjointSets.find s.parent (base coldkeyMap hk)
  let tok ← rep.get? r
  return ⟨parent, s.actorMap.set hk (label tok)⟩

/-- `none` is a loop that does not end or a missing representative. -/
def buildActorMap : Option (Dict String String × List String) := do
  let hotkeys := order.visit (mappedHotkeys ownerUnion coldkeyMap ownerMap)
  let linked ← hotkeys.foldlM (Linking.addHotkey ownerUnion coldkeyMap ownerMap) ⟨Dict.empty, []⟩
  let labelled ← (order.visit linked.tokens).foldlM Labelling.offer ⟨linked.parent, Dict.empty⟩
  let named ← hotkeys.foldlM (Naming.addHotkey coldkeyMap labelled.rep)
    ⟨labelled.parent, Dict.empty⟩
  return (named.actorMap, coldkeyMap.keys)

structure ActorResolver where
  actor : Dict String String
  coldkeyBacked : List String
  source : String

def ActorResolver.fromMaps (source : String) : Option ActorResolver := do
  let (actorMap, backed) ← buildActorMap ownerUnion order coldkeyMap ownerMap
  return ⟨actorMap, backed, source⟩

def ActorResolver.call (resolver : ActorResolver) (hotkey : String) : String :=
  match resolver.actor.get? hotkey with
  | some actor => if actor = "" then hotkey else actor
  | none => hotkey

end

section

variable (ownerUnion : Bool) (coldkeyMap : Dict String String)
  (ownerMap : Dict String (List String))

def Shares (visited : Set String) (u v : String) : Prop :=
  ownerUnion = true ∧ ∃ hk ∈ visited, ∃ owner ∈ ownersOf ownerMap hk,
    u = base coldkeyMap hk ∧ v = "own:" ++ owner

def TokenOf (visited : Set String) (tok : String) : Prop :=
  ∃ hk ∈ visited, tok = base coldkeyMap hk ∨
    (ownerUnion = true ∧ ∃ owner ∈ ownersOf ownerMap hk, tok = "own:" ++ owner)

structure Linking.Sound (visited : Set String) (s : Linking) : Prop where
  classes : DisjointSets.Represents s.parent (Shares ownerUnion coldkeyMap ownerMap visited)
  tokens : ∀ tok, tok ∈ s.tokens ↔ TokenOf ownerUnion coldkeyMap ownerMap visited tok

variable {ownerUnion : Bool} {coldkeyMap : Dict String String} {ownerMap : Dict String (List String)}

theorem shares_insert {visited hk u v} :
    Shares ownerUnion coldkeyMap ownerMap (insert hk visited) u v ↔
      Shares ownerUnion coldkeyMap ownerMap visited u v ∨
        (ownerUnion = true ∧ ∃ owner ∈ ownersOf ownerMap hk,
          u = base coldkeyMap hk ∧ v = "own:" ++ owner) := by
  simp only [Shares, Set.mem_insert_iff, or_and_right, exists_or, exists_eq_left, and_or_left]
  exact or_comm

theorem tokenOf_insert {visited hk tok} :
    TokenOf ownerUnion coldkeyMap ownerMap (insert hk visited) tok ↔
      TokenOf ownerUnion coldkeyMap ownerMap visited tok ∨ tok = base coldkeyMap hk ∨
        (ownerUnion = true ∧ ∃ owner ∈ ownersOf ownerMap hk, tok = "own:" ++ owner) := by
  simp [TokenOf]
  exact or_comm

theorem linkOwners_sound {edge : String → String → Prop} {s} (t : String) (owners : List String)
    (classes : DisjointSets.Represents s.parent edge) :
    ∃ s', owners.foldlM (Linking.linkOwner t) s = some s' ∧
      DisjointSets.Represents s'.parent
        (fun u v => edge u v ∨ ∃ owner ∈ owners, u = t ∧ v = "own:" ++ owner) ∧
      ∀ tok, tok ∈ s'.tokens ↔ tok ∈ s.tokens ∨ ∃ owner ∈ owners, tok = "own:" ++ owner := by
  apply foldlM_establishes fun done (s' : Linking) =>
    DisjointSets.Represents s'.parent
      (fun u v => edge u v ∨ ∃ owner ∈ done, u = t ∧ v = "own:" ++ owner) ∧
    ∀ tok, tok ∈ s'.tokens ↔ tok ∈ s.tokens ∨ ∃ owner ∈ done, tok = "own:" ++ owner
  · simpa using classes
  · intro done owner _ s' linked
    obtain ⟨classes', tokens'⟩ := linked
    obtain ⟨parent, merged, joined⟩ := classes'.union t ("own:" ++ owner)
    refine ⟨⟨parent, s'.tokens.insert ("own:" ++ owner)⟩, by simp [Linking.linkOwner, merged], ?_, ?_⟩
    · apply joined.congr
      intro u v
      simp only [List.mem_append, List.mem_singleton, or_and_right, exists_or, exists_eq_left,
        or_assoc]
    · intro tok
      simp [tokens']
      rw [or_comm, or_assoc]

theorem Linking.Sound.addHotkey {visited} {s : Linking}
    (sound : s.Sound ownerUnion coldkeyMap ownerMap visited) (hk : String) :
    ∃ s', s.addHotkey ownerUnion coldkeyMap ownerMap hk = some s' ∧
      s'.Sound ownerUnion coldkeyMap ownerMap (insert hk visited) := by
  obtain ⟨r, parent, found, _, classes⟩ := sound.classes.find (base coldkeyMap hk)
  have tokens : ∀ tok, tok ∈ s.tokens.insert (base coldkeyMap hk) ↔
      tok = base coldkeyMap hk ∨ TokenOf ownerUnion coldkeyMap ownerMap visited tok := by
    intro tok
    rw [List.mem_insert_iff, sound.tokens]
  cases ownerUnion with
  | false =>
    refine ⟨⟨parent, s.tokens.insert (base coldkeyMap hk)⟩, by simp [Linking.addHotkey, found], ?_, ?_⟩
    · exact classes.congr fun u v => by simp [shares_insert]
    · intro tok
      rw [tokens, tokenOf_insert, or_comm]
      simp
  | true =>
    obtain ⟨s', linked, classes', tokens'⟩ := linkOwners_sound (base coldkeyMap hk)
      (ownersOf ownerMap hk) (s := ⟨parent, s.tokens.insert (base coldkeyMap hk)⟩) classes
    refine ⟨s', by simp [Linking.addHotkey, found, linked], ?_, ?_⟩
    · exact classes'.congr fun u v => by simp [shares_insert]
    · intro tok
      rw [tokens', tokens, tokenOf_insert]
      simp
      tauto

theorem Linking.Sound.start : Linking.Sound ownerUnion coldkeyMap ownerMap ∅ ⟨Dict.empty, []⟩ where
  classes := DisjointSets.Represents.empty.congr fun u v => by simp [Shares]
  tokens := by simp [TokenOf]

theorem members_append (done : List String) (x : String) :
    {a | a ∈ done ++ [x]} = insert x {a | a ∈ done} := by
  ext a
  simp [or_comm]

variable (ownerUnion coldkeyMap ownerMap) in
theorem link_sound (hotkeys : List String) :
    ∃ s, hotkeys.foldlM (Linking.addHotkey ownerUnion coldkeyMap ownerMap) ⟨Dict.empty, []⟩ = some s ∧
      s.Sound ownerUnion coldkeyMap ownerMap {hk | hk ∈ hotkeys} := by
  apply foldlM_establishes fun done (s : Linking) =>
    s.Sound ownerUnion coldkeyMap ownerMap {hk | hk ∈ done}
  · simpa using Linking.Sound.start
  · intro done hk _ s sound
    rw [members_append]
    exact sound.addHotkey hk

/-- What the offered tokens of the set of `r` make of its representative. -/
def Named (parent : Dict String String) (offered : List String) (r : String) : Option String → Prop
  | none => ∀ tok ∈ offered, ¬ DisjointSets.Leads parent tok r
  | some best => best ∈ offered ∧ DisjointSets.Leads parent best r ∧
      ∀ tok ∈ offered, DisjointSets.Leads parent tok r → rank best ≤ rank tok

section

variable {parent : Dict String String} {offered : List String} {r tok best : String}
  {held : Option String}

theorem Named.elsewhere (named : Named parent offered r held)
    (outside : ¬ DisjointSets.Leads parent tok r) : Named parent (offered ++ [tok]) r held := by
  have old : ∀ other ∈ offered ++ [tok], DisjointSets.Leads parent other r → other ∈ offered := by
    intro other member path
    cases List.mem_append.mp member with
    | inl old => exact old
    | inr new => exact absurd (List.mem_singleton.mp new ▸ path) outside
  cases held with
  | none => exact fun other member path => named other (old other member path) path
  | some best =>
    obtain ⟨member, path, least⟩ := named
    exact ⟨List.mem_append_left _ member, path,
      fun other member path => least other (old other member path) path⟩

theorem Named.replaced (named : Named parent offered r held)
    (path : DisjointSets.Leads parent tok r) (better : ∀ best ∈ held, rank tok ≤ rank best) :
    Named parent (offered ++ [tok]) r (some tok) := by
  refine ⟨by simp, path, ?_⟩
  intro other member path'
  cases List.mem_append.mp member with
  | inr new => exact (List.mem_singleton.mp new) ▸ le_rfl
  | inl old =>
    cases held with
    | none => exact absurd path' (named other old)
    | some best => exact (better best rfl).trans (named.2.2 other old path')

theorem Named.kept (named : Named parent offered r (some best)) (better : rank best ≤ rank tok) :
    Named parent (offered ++ [tok]) r (some best) := by
  obtain ⟨member, path, least⟩ := named
  refine ⟨List.mem_append_left _ member, path, ?_⟩
  intro other member' path'
  cases List.mem_append.mp member' with
  | inl old => exact least other old path'
  | inr new => exact (List.mem_singleton.mp new) ▸ better

end

structure Labelling.Sound (parent : Dict String String) (offered : List String) (s : Labelling) :
    Prop where
  same : DisjointSets.SameSets parent s.parent
  named : ∀ r, Named parent offered r (s.rep.get? r)

theorem Labelling.Sound.offer {parent offered} {s : Labelling} (sound : s.Sound parent offered)
    (tok : String) :
    ∃ s', s.offer tok = some s' ∧ s'.Sound parent (offered ++ [tok]) := by
  obtain ⟨r, parent', found, path, same⟩ := DisjointSets.find_eq sound.same.descending tok
  replace path := sound.same.leads.mp path
  replace same := sound.same.trans same
  have others : ∀ r', r' ≠ r → Named parent (offered ++ [tok]) r' (s.rep.get? r') :=
    fun r' other => (sound.named r').elsewhere fun path' => other (path'.unique path)
  have replaced : (∀ best ∈ s.rep.get? r, rank tok ≤ rank best) →
      ∀ r', Named parent (offered ++ [tok]) r' ((s.rep.set r tok).get? r') := by
    intro better r'
    rw [Dict.get?_set]
    split
    · next here => exact here ▸ (sound.named r).replaced path better
    · next other => exact others r' other
  cases present : s.rep.get? r with
  | none =>
    refine ⟨⟨parent', s.rep.set r tok⟩, by simp [Labelling.offer, found, present], same, ?_⟩
    exact replaced (by simp [present])
  | some best =>
    by_cases better : rank tok < rank best
    · refine ⟨⟨parent', s.rep.set r tok⟩, ?_, same, ?_⟩
      · simp [Labelling.offer, found, present, better]
      · exact replaced (by simpa [present] using better.le)
    · refine ⟨⟨parent', s.rep⟩, by simp [Labelling.offer, found, present, better], same, ?_⟩
      intro r'
      by_cases here : r' = r
      · subst here
        have named := sound.named r'
        rw [present] at named ⊢
        exact named.kept (not_lt.mp better)
      · exact others r' here

theorem label_sound {parent} (desc : DisjointSets.Descending parent) (offered : List String) :
    ∃ s, offered.foldlM Labelling.offer ⟨parent, Dict.empty⟩ = some s ∧ s.Sound parent offered := by
  apply foldlM_establishes fun done (s : Labelling) => s.Sound parent done
  · exact ⟨.refl desc, fun r tok member => by cases member⟩
  · exact fun done tok _ s sound => sound.offer tok

structure IsRepresentative (ownerUnion : Bool) (coldkeyMap : Dict String String)
    (ownerMap : Dict String (List String)) (hotkeys : Set String) (hk tok : String) : Prop where
  token : TokenOf ownerUnion coldkeyMap ownerMap hotkeys tok
  connected : Relation.EqvGen (Shares ownerUnion coldkeyMap ownerMap hotkeys) (base coldkeyMap hk) tok
  least : ∀ other, TokenOf ownerUnion coldkeyMap ownerMap hotkeys other →
    Relation.EqvGen (Shares ownerUnion coldkeyMap ownerMap hotkeys) (base coldkeyMap hk) other →
    rank tok ≤ rank other

theorem Named.isRepresentative {visited} {linked : Linking} {order : SetOrder} {hk r tok}
    (sound : linked.Sound ownerUnion coldkeyMap ownerMap visited)
    (path : DisjointSets.Leads linked.parent (base coldkeyMap hk) r)
    (named : Named linked.parent (order.visit linked.tokens) r (some tok)) :
    IsRepresentative ownerUnion coldkeyMap ownerMap visited hk tok := by
  obtain ⟨member, path', least⟩ := named
  refine ⟨?_, (sound.classes.root_eq_iff path path').mp rfl, ?_⟩
  · exact (sound.tokens tok).mp (order.mem_visit.mp member)
  · intro other token connected
    obtain ⟨r', first, second⟩ := (sound.classes.classes _ _).mpr connected
    exact least other (order.mem_visit.mpr ((sound.tokens other).mpr token)) (path.unique first ▸ second)

/-- Every named hotkey carries the label of its representative. -/
structure Naming.Sound (parent : Dict String String) (visited : Set String) (done : List String)
    (s : Naming) (ownerUnion : Bool) (coldkeyMap : Dict String String)
    (ownerMap : Dict String (List String)) : Prop where
  same : DisjointSets.SameSets parent s.parent
  named : ∀ hk ∈ done, ∃ tok, IsRepresentative ownerUnion coldkeyMap ownerMap visited hk tok ∧
    s.actorMap.get? hk = some (label tok)
  unnamed : ∀ hk ∉ done, s.actorMap.get? hk = none

theorem Naming.Sound.addHotkey {visited} {linked : Linking} {order : SetOrder}
    {labelled : Labelling} {done} {s : Naming} {hk}
    (sound : linked.Sound ownerUnion coldkeyMap ownerMap visited)
    (best : labelled.Sound linked.parent (order.visit linked.tokens))
    (naming : s.Sound linked.parent visited done ownerUnion coldkeyMap ownerMap)
    (member : hk ∈ visited) :
    ∃ s', s.addHotkey coldkeyMap labelled.rep hk = some s' ∧
      s'.Sound linked.parent visited (done ++ [hk]) ownerUnion coldkeyMap ownerMap := by
  obtain ⟨r, parent, found, path, same⟩ :=
    DisjointSets.find_eq naming.same.descending (base coldkeyMap hk)
  replace path := naming.same.leads.mp path
  have named := best.named r
  cases present : labelled.rep.get? r with
  | none =>
    rw [present] at named
    have token : base coldkeyMap hk ∈ linked.tokens := (sound.tokens _).mpr ⟨hk, member, .inl rfl⟩
    exact absurd path (named _ (order.mem_visit.mpr token))
  | some tok =>
    rw [present] at named
    refine ⟨⟨parent, s.actorMap.set hk (label tok)⟩, by simp [Naming.addHotkey, found, present],
      naming.same.trans same, ?_, ?_⟩
    · intro hk' member'
      rw [Dict.get?_set]
      split
      · next here => exact here ▸ ⟨tok, named.isRepresentative sound path, rfl⟩
      · next other =>
        apply naming.named hk'
        simpa [other] using member'
    · intro hk' fresh
      rw [List.mem_append, List.mem_singleton, not_or] at fresh
      rw [Dict.get?_set_ne _ _ fresh.2]
      exact naming.unnamed hk' fresh.1

variable (ownerUnion coldkeyMap ownerMap) in
def hotkeySet : Set String := {hk | hk ∈ mappedHotkeys ownerUnion coldkeyMap ownerMap}

variable (ownerUnion coldkeyMap ownerMap) in
theorem buildActorMap_spec (order : SetOrder) :
    ∃ actorMap, buildActorMap ownerUnion order coldkeyMap ownerMap =
        some (actorMap, coldkeyMap.keys) ∧
      (∀ hk ∈ hotkeySet ownerUnion coldkeyMap ownerMap,
        ∃ tok, IsRepresentative ownerUnion coldkeyMap ownerMap
          (hotkeySet ownerUnion coldkeyMap ownerMap) hk tok ∧ actorMap.get? hk = some (label tok)) ∧
      ∀ hk ∉ hotkeySet ownerUnion coldkeyMap ownerMap, actorMap.get? hk = none := by
  have visited : ∀ hk, hk ∈ order.visit (mappedHotkeys ownerUnion coldkeyMap ownerMap) ↔
      hk ∈ hotkeySet ownerUnion coldkeyMap ownerMap := fun hk => order.mem_visit
  obtain ⟨linked, linking, sound⟩ := link_sound ownerUnion coldkeyMap ownerMap
    (order.visit (mappedHotkeys ownerUnion coldkeyMap ownerMap))
  rw [show {hk | hk ∈ order.visit (mappedHotkeys ownerUnion coldkeyMap ownerMap)} =
    hotkeySet ownerUnion coldkeyMap ownerMap from Set.ext visited] at sound
  obtain ⟨labelled, labelling, best⟩ :=
    label_sound sound.classes.descending (order.visit linked.tokens)
  have start : Naming.Sound linked.parent (hotkeySet ownerUnion coldkeyMap ownerMap) []
      ⟨labelled.parent, Dict.empty⟩ ownerUnion coldkeyMap ownerMap :=
    ⟨best.same, fun _ member => absurd member List.not_mem_nil, fun hk _ => Dict.get?_empty hk⟩
  have keeps : ∀ done, ∀ hk ∈ order.visit (mappedHotkeys ownerUnion coldkeyMap ownerMap), ∀ s,
      Naming.Sound linked.parent (hotkeySet ownerUnion coldkeyMap ownerMap) done s ownerUnion
        coldkeyMap ownerMap →
      ∃ s', s.addHotkey coldkeyMap labelled.rep hk = some s' ∧
        Naming.Sound linked.parent (hotkeySet ownerUnion coldkeyMap ownerMap) (done ++ [hk]) s'
          ownerUnion coldkeyMap ownerMap :=
    fun done hk member s naming => naming.addHotkey sound best ((visited hk).mp member)
  obtain ⟨named, naming, done⟩ := foldlM_establishes (fun done (s : Naming) => s.Sound linked.parent
    (hotkeySet ownerUnion coldkeyMap ownerMap) done ownerUnion coldkeyMap ownerMap) start keeps
  refine ⟨named.actorMap, by simp [buildActorMap, linking, labelling, naming], ?_, ?_⟩
  · exact fun hk member => done.named hk ((visited hk).mpr member)
  · exact fun hk outside => done.unnamed hk (mt (visited hk).mp outside)

end

end MinotaurSubnet.Harness
