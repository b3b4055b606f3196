import MinotaurSubnet.Harness.ActorMap

/-! # Actors are connected components

The resolver merges two hotkeys exactly when a chain of shared github owners connects their
base identities, and without the owner union exactly when they share a coldkey. Neither
depends on the order in which the maps and sets come up.
-/

namespace MinotaurSubnet.Harness

open Library

section

/-- Who a token stands for. -/
inductive Identity where
  | coldkey (ck : String)
  | owner (login : String)
  | hotkey (hk : String)
  deriving DecidableEq

def Identity.name : Identity → String
  | coldkey ck => ck
  | owner login => login
  | hotkey hk => hk

def Identity.token : Identity → String
  | coldkey ck => "ck:" ++ ck
  | owner login => "own:" ++ login
  | hotkey hk => "hk:" ++ hk

@[simp] theorem label_token (i : Identity) : label i.token = i.name := by
  cases i <;> simp [label, Identity.token, Identity.name, String.toList_append]

theorem token_injective : Function.Injective Identity.token := by
  intro i j same
  have chars := congrArg String.toList same
  cases i <;> cases j <;>
    simp [Identity.token, String.toList_append] at chars <;> simp [String.toList_inj.mp chars]

variable {ownerUnion : Bool} {coldkeyMap : Dict String String} {ownerMap : Dict String (List String)}

def baseIdentity (coldkeyMap : Dict String String) (hk : String) : Identity :=
  match coldkeyMap.get? hk with
  | some ck => .coldkey ck
  | none => .hotkey hk

def UsedOwner (coldkeyMap : Dict String String) (ownerMap : Dict String (List String))
    (u v : Identity) : Prop :=
  ∃ hk, ∃ owner ∈ ownersOf ownerMap hk, u = baseIdentity coldkeyMap hk ∧ v = .owner owner

def identities (coldkeyMap : Dict String String) (ownerMap : Dict String (List String)) :
    List Identity :=
  coldkeyMap.values.map .coldkey ++ ownerMap.values.flatten.map .owner ++
    (coldkeyMap.keys ++ ownerMap.keys).map .hotkey

structure NamesApart (coldkeyMap : Dict String String) (ownerMap : Dict String (List String)) :
    Prop where
  named : ∀ i ∈ identities coldkeyMap ownerMap, i.name ≠ ""
  apart : ∀ i ∈ identities coldkeyMap ownerMap, ∀ j ∈ identities coldkeyMap ownerMap,
    i.name = j.name → i = j

def KnownHotkey (coldkeyMap : Dict String String) (ownerMap : Dict String (List String))
    (hk : String) : Prop :=
  hk ∈ coldkeyMap.keys ∨ hk ∈ ownerMap.keys

theorem mem_identities_base {hk} (known : KnownHotkey coldkeyMap ownerMap hk) :
    baseIdentity coldkeyMap hk ∈ identities coldkeyMap ownerMap := by
  unfold baseIdentity identities
  cases found : coldkeyMap.get? hk with
  | none => simpa [KnownHotkey] using known
  | some ck => simpa using Dict.mem_values.mpr ⟨hk, found⟩

theorem known_of_owner {hk owner} (used : owner ∈ ownersOf ownerMap hk) :
    hk ∈ ownerMap.keys := by
  cases found : ownerMap.get? hk with
  | none => simp [ownersOf, found] at used
  | some owners => exact Dict.mem_keys.mpr ⟨owners, found⟩

theorem mem_identities_owner {hk owner} (used : owner ∈ ownersOf ownerMap hk) :
    .owner owner ∈ identities coldkeyMap ownerMap := by
  cases found : ownerMap.get? hk with
  | none => simp [ownersOf, found] at used
  | some owners =>
    simp only [ownersOf, found, Option.getD_some] at used
    have listed : owner ∈ ownerMap.values.flatten :=
      List.mem_flatten.mpr ⟨owners, Dict.mem_values.mpr ⟨hk, found⟩, used⟩
    simpa [identities] using listed

theorem NamesApart.base_eq (apart : NamesApart coldkeyMap ownerMap) (hk : String) :
    base coldkeyMap hk = (baseIdentity coldkeyMap hk).token := by
  unfold base baseIdentity
  cases found : coldkeyMap.get? hk with
  | none => rfl
  | some ck =>
    have used : .coldkey ck ∈ identities coldkeyMap ownerMap := by
      simpa [identities] using Dict.mem_values.mpr ⟨hk, found⟩
    have named : ck ≠ "" := apart.named _ used
    simp [Identity.token, named]

theorem mem_hotkeySet {hk} :
    hk ∈ hotkeySet ownerUnion coldkeyMap ownerMap ↔
      hk ∈ coldkeyMap.keys ∨ (ownerUnion = true ∧ hk ∈ ownerMap.keys) := by
  cases ownerUnion <;> simp [hotkeySet, mappedHotkeys]

theorem NamesApart.shares_iff (apart : NamesApart coldkeyMap ownerMap) (u v : String) :
    Shares true coldkeyMap ownerMap (hotkeySet true coldkeyMap ownerMap) u v ↔
      Relation.Map (UsedOwner coldkeyMap ownerMap) Identity.token Identity.token u v := by
  constructor
  · intro link
    obtain ⟨-, hk, -, owner, used, rfl, rfl⟩ := link
    exact ⟨_, _, ⟨hk, owner, used, rfl, rfl⟩, (apart.base_eq hk).symm, rfl⟩
  · intro link
    obtain ⟨_, _, ⟨hk, owner, used, rfl, rfl⟩, rfl, rfl⟩ := link
    have known : hk ∈ hotkeySet true coldkeyMap ownerMap := mem_hotkeySet.mpr (.inr ⟨rfl, known_of_owner used⟩)
    exact ⟨rfl, hk, known, owner, used, (apart.base_eq hk).symm, rfl⟩

theorem NamesApart.tokenOf (apart : NamesApart coldkeyMap ownerMap) {tok : String}
    (token : TokenOf ownerUnion coldkeyMap ownerMap (hotkeySet ownerUnion coldkeyMap ownerMap) tok) :
    ∃ i ∈ identities coldkeyMap ownerMap, tok = i.token := by
  obtain ⟨hk, member, rfl | ⟨-, owner, used, rfl⟩⟩ := token
  · have known : KnownHotkey coldkeyMap ownerMap hk := (mem_hotkeySet.mp member).imp_right And.right
    exact ⟨_, mem_identities_base known, apart.base_eq hk⟩
  · exact ⟨.owner owner, mem_identities_owner used, rfl⟩

theorem IsRepresentative.unique {visited : Set String} {hk hk' tok tok' : String}
    (rep : IsRepresentative ownerUnion coldkeyMap ownerMap visited hk tok)
    (rep' : IsRepresentative ownerUnion coldkeyMap ownerMap visited hk' tok')
    (connected : Relation.EqvGen (Shares ownerUnion coldkeyMap ownerMap visited)
      (base coldkeyMap hk) (base coldkeyMap hk')) : tok = tok' := by
  have le := rep.least tok' rep'.token (.trans _ _ _ connected rep'.connected)
  have ge := rep'.least tok rep.token (.trans _ _ _ (.symm _ _ connected) rep.connected)
  exact congrArg (fun key => (ofLex key).2) (le.antisymm ge)

theorem NamesApart.connected_iff (apart : NamesApart coldkeyMap ownerMap) {hk hk'} :
    Relation.EqvGen (Shares true coldkeyMap ownerMap (hotkeySet true coldkeyMap ownerMap))
        (base coldkeyMap hk) (base coldkeyMap hk') ↔
      Relation.EqvGen (UsedOwner coldkeyMap ownerMap) (baseIdentity coldkeyMap hk)
        (baseIdentity coldkeyMap hk') := by
  have same : Shares true coldkeyMap ownerMap (hotkeySet true coldkeyMap ownerMap) =
      Relation.Map (UsedOwner coldkeyMap ownerMap) Identity.token Identity.token := by
    ext u v
    exact apart.shares_iff u v
  rw [same, apart.base_eq, apart.base_eq, DisjointSets.eqvGen_map token_injective]
  constructor
  · intro related
    obtain ⟨j, eq, related⟩ := related
    exact token_injective eq ▸ related
  · exact fun related => ⟨_, rfl, related⟩

structure ActorResolver.Speaks (resolver : ActorResolver) (ownerUnion : Bool)
    (coldkeyMap : Dict String String) (ownerMap : Dict String (List String)) : Prop where
  named : ∀ hk ∈ hotkeySet ownerUnion coldkeyMap ownerMap,
    ∃ tok, IsRepresentative ownerUnion coldkeyMap ownerMap
      (hotkeySet ownerUnion coldkeyMap ownerMap) hk tok ∧ resolver.actor.get? hk = some (label tok)
  unnamed : ∀ hk ∉ hotkeySet ownerUnion coldkeyMap ownerMap, resolver.actor.get? hk = none
  backed : resolver.coldkeyBacked = coldkeyMap.keys

theorem fromMaps_speaks (ownerUnion : Bool) (order : SetOrder) (coldkeyMap : Dict String String)
    (ownerMap : Dict String (List String)) (source : String) :
    ∃ resolver, ActorResolver.fromMaps ownerUnion order coldkeyMap ownerMap source = some resolver ∧
      resolver.Speaks ownerUnion coldkeyMap ownerMap := by
  obtain ⟨actorMap, built, named, unnamed⟩ := buildActorMap_spec ownerUnion coldkeyMap ownerMap order
  exact ⟨⟨actorMap, coldkeyMap.keys, source⟩, by simp [ActorResolver.fromMaps, built], named,
    unnamed, rfl⟩

variable {resolver resolver' : ActorResolver}

theorem ActorResolver.Speaks.agree {coldkeyMap' ownerMap'}
    (speaks : resolver.Speaks ownerUnion coldkeyMap ownerMap)
    (speaks' : resolver'.Speaks ownerUnion coldkeyMap' ownerMap')
    (sameColdkeys : ∀ hk, coldkeyMap'.get? hk = coldkeyMap.get? hk)
    (sameOwners : ∀ hk, ownerMap'.get? hk = ownerMap.get? hk) (hk : String) :
    resolver'.call hk = resolver.call hk := by
  have sameBase : base coldkeyMap' = base coldkeyMap := by
    funext hk
    simp only [base, sameColdkeys]
  have sameOwned : ownersOf ownerMap' = ownersOf ownerMap := by
    funext hk
    simp only [ownersOf, sameOwners]
  have sameMapped : hotkeySet ownerUnion coldkeyMap' ownerMap' = hotkeySet ownerUnion coldkeyMap ownerMap := by
    ext hk
    simp only [mem_hotkeySet, Dict.mem_keys, sameColdkeys, sameOwners]
  have sameTokens : TokenOf ownerUnion coldkeyMap' ownerMap' = TokenOf ownerUnion coldkeyMap ownerMap := by
    funext visited tok
    simp only [TokenOf, sameBase, sameOwned]
  have sameShares : Shares ownerUnion coldkeyMap' ownerMap' = Shares ownerUnion coldkeyMap ownerMap := by
    funext visited u v
    simp only [Shares, sameBase, sameOwned]
  have found : resolver'.actor.get? hk = resolver.actor.get? hk := by
    by_cases member : hk ∈ hotkeySet ownerUnion coldkeyMap ownerMap
    · obtain ⟨tok, rep, found⟩ := speaks.named hk member
      obtain ⟨tok', rep', found'⟩ := speaks'.named hk (sameMapped ▸ member)
      have rep'' : IsRepresentative ownerUnion coldkeyMap ownerMap
          (hotkeySet ownerUnion coldkeyMap ownerMap) hk tok' := by
        obtain ⟨token, connected, least⟩ := rep'
        rw [sameMapped, sameTokens] at token
        rw [sameMapped, sameShares, sameBase] at connected
        rw [sameMapped, sameTokens, sameShares, sameBase] at least
        exact ⟨token, connected, least⟩
      rw [found, found', rep''.unique rep (.refl _)]
    · rw [speaks.unnamed hk member, speaks'.unnamed hk (sameMapped ▸ member)]
  simp only [ActorResolver.call, found]

theorem ActorResolver.Speaks.call_of_mapped
    (speaks : resolver.Speaks ownerUnion coldkeyMap ownerMap)
    (apart : NamesApart coldkeyMap ownerMap) {hk}
    (member : hk ∈ hotkeySet ownerUnion coldkeyMap ownerMap) :
    ∃ i ∈ identities coldkeyMap ownerMap, resolver.call hk = i.name ∧
      IsRepresentative ownerUnion coldkeyMap ownerMap (hotkeySet ownerUnion coldkeyMap ownerMap) hk
        i.token := by
  obtain ⟨tok, rep, found⟩ := speaks.named hk member
  obtain ⟨i, used, rfl⟩ := apart.tokenOf rep.token
  exact ⟨i, used, by simp [ActorResolver.call, found, apart.named i used], rep⟩

theorem ActorResolver.Speaks.connected (speaks : resolver.Speaks true coldkeyMap ownerMap)
    (apart : NamesApart coldkeyMap ownerMap) {hk hk'} (known : KnownHotkey coldkeyMap ownerMap hk)
    (known' : KnownHotkey coldkeyMap ownerMap hk') :
    resolver.call hk = resolver.call hk' ↔
      Relation.EqvGen (UsedOwner coldkeyMap ownerMap) (baseIdentity coldkeyMap hk)
        (baseIdentity coldkeyMap hk') := by
  have member : hk ∈ hotkeySet true coldkeyMap ownerMap := mem_hotkeySet.mpr (by simpa [KnownHotkey] using known)
  have member' : hk' ∈ hotkeySet true coldkeyMap ownerMap := mem_hotkeySet.mpr (by simpa [KnownHotkey] using known')
  obtain ⟨i, used, said, rep⟩ := speaks.call_of_mapped apart member
  obtain ⟨j, used', said', rep'⟩ := speaks.call_of_mapped apart member'
  rw [← apart.connected_iff, said, said']
  constructor
  · intro same
    obtain rfl := apart.apart i used j used' same
    exact .trans _ _ _ rep.connected (.symm _ _ rep'.connected)
  · intro connected
    rw [token_injective (rep.unique rep' connected)]

theorem eqvGen_unlinked {x y visited} :
    Relation.EqvGen (Shares false coldkeyMap ownerMap visited) x y ↔ x = y := by
  constructor
  · intro related
    induction related with
    | rel _ _ link => cases link.1
    | refl _ => rfl
    | symm _ _ _ ih => exact ih.symm
    | trans _ _ _ _ _ ih ih' => exact ih.trans ih'
  · rintro rfl
    exact .refl _

theorem ActorResolver.Speaks.call_unlinked (speaks : resolver.Speaks false coldkeyMap ownerMap)
    (apart : NamesApart coldkeyMap ownerMap) (hk : String) :
    resolver.call hk = (baseIdentity coldkeyMap hk).name := by
  by_cases member : hk ∈ hotkeySet false coldkeyMap ownerMap
  · obtain ⟨i, _, said, rep⟩ := speaks.call_of_mapped apart member
    have connected := eqvGen_unlinked.mp rep.connected
    rw [apart.base_eq] at connected
    rw [said, token_injective connected]
  · have unmapped : coldkeyMap.get? hk = none := by
      cases found : coldkeyMap.get? hk with
      | none => rfl
      | some ck => exact absurd (mem_hotkeySet.mpr (.inl (Dict.mem_keys.mpr ⟨ck, found⟩))) member
    simp [ActorResolver.call, speaks.unnamed hk member, baseIdentity, unmapped, Identity.name]

/-- Actors are the components of the owner graph, whatever order the maps and sets come up
    in, or the base identities where the owner union is off; and every find ends. -/
theorem actors_are_components (ownerUnion : Bool) (order : SetOrder) (source : String)
    (apart : NamesApart coldkeyMap ownerMap) :
    (∃ resolver, ActorResolver.fromMaps ownerUnion order coldkeyMap ownerMap source = some resolver ∧
      (∀ hk hk', KnownHotkey coldkeyMap ownerMap hk → KnownHotkey coldkeyMap ownerMap hk' →
        (resolver.call hk = resolver.call hk' ↔
          if ownerUnion then Relation.EqvGen (UsedOwner coldkeyMap ownerMap)
            (baseIdentity coldkeyMap hk) (baseIdentity coldkeyMap hk')
          else baseIdentity coldkeyMap hk = baseIdentity coldkeyMap hk')) ∧
      ∀ order' coldkeyMap' ownerMap' resolver',
        (∀ hk, coldkeyMap'.get? hk = coldkeyMap.get? hk) →
        (∀ hk, ownerMap'.get? hk = ownerMap.get? hk) →
        ActorResolver.fromMaps ownerUnion order' coldkeyMap' ownerMap' source = some resolver' →
        ∀ hk, resolver'.call hk = resolver.call hk) ∧
    ∀ parent : Dict String String, DisjointSets.Reachable parent → ∀ x,
      ∃ root parent', DisjointSets.find parent x = some (root, parent') := by
  constructor
  · obtain ⟨resolver, built, speaks⟩ := fromMaps_speaks ownerUnion order coldkeyMap ownerMap source
    refine ⟨resolver, built, ?_, ?_⟩
    · intro hk hk' known known'
      cases ownerUnion with
      | true => simpa using speaks.connected apart known known'
      | false =>
        rw [speaks.call_unlinked apart, speaks.call_unlinked apart]
        constructor
        · exact apart.apart _ (mem_identities_base known) _ (mem_identities_base known')
        · exact congrArg Identity.name
    · intro order' coldkeyMap' ownerMap' resolver' sameColdkeys sameOwners built' hk
      obtain ⟨resolver'', built'', speaks'⟩ :=
        fromMaps_speaks ownerUnion order' coldkeyMap' ownerMap' source
      cases built'.symm.trans built''
      exact speaks.agree speaks' sameColdkeys sameOwners hk
  · intro parent reached x
    obtain ⟨root, parent', found, _⟩ := reached.find_terminates x
    exact ⟨root, parent', found⟩

def fleetColdkeys : Dict String String := (Dict.empty.set "hk1" "ckA").set "hk2" "ckB"

def fleetOwners : Dict String (List String) := (Dict.empty.set "hk1" ["org"]).set "hk2" ["org"]

theorem fleet_namesApart : NamesApart fleetColdkeys fleetOwners :=
  ⟨by decide +kernel, by decide +kernel⟩

theorem actors_are_components_of_a_fleet :
    ∃ resolver, ActorResolver.fromMaps true .inserted fleetColdkeys fleetOwners "built" =
      some resolver ∧ (resolver.call "hk1" = resolver.call "hk2" ↔
        Relation.EqvGen (UsedOwner fleetColdkeys fleetOwners) (baseIdentity fleetColdkeys "hk1")
          (baseIdentity fleetColdkeys "hk2")) := by
  obtain ⟨⟨resolver, built, merged, -⟩, -⟩ :=
    actors_are_components true .inserted "built" fleet_namesApart
  exact ⟨resolver, built, merged "hk1" "hk2" (.inl (by decide +kernel)) (.inl (by decide +kernel))⟩

theorem fleet_connected : Relation.EqvGen (UsedOwner fleetColdkeys fleetOwners)
    (baseIdentity fleetColdkeys "hk1") (baseIdentity fleetColdkeys "hk2") := by
  have first : UsedOwner fleetColdkeys fleetOwners (baseIdentity fleetColdkeys "hk1")
      (.owner "org") := ⟨"hk1", "org", by decide +kernel, rfl, rfl⟩
  have second : UsedOwner fleetColdkeys fleetOwners (baseIdentity fleetColdkeys "hk2")
      (.owner "org") := ⟨"hk2", "org", by decide +kernel, rfl, rfl⟩
  exact .trans _ _ _ (.rel _ _ first) (.symm _ _ (.rel _ _ second))

/-- With the owner union off the fleet stays split. -/
theorem owner_union_off_splits_a_fleet :
    ¬ ∀ (ownerUnion : Bool) (order : SetOrder) (coldkeyMap : Dict String String)
        (ownerMap : Dict String (List String)) (source : String), NamesApart coldkeyMap ownerMap →
      ∀ resolver, ActorResolver.fromMaps ownerUnion order coldkeyMap ownerMap source = some resolver →
      ∀ hk hk', KnownHotkey coldkeyMap ownerMap hk → KnownHotkey coldkeyMap ownerMap hk' →
        (resolver.call hk = resolver.call hk' ↔ Relation.EqvGen (UsedOwner coldkeyMap ownerMap)
          (baseIdentity coldkeyMap hk) (baseIdentity coldkeyMap hk')) := by
  intro claim
  obtain ⟨resolver, built, speaks⟩ := fromMaps_speaks false .inserted fleetColdkeys fleetOwners "built"
  have merged := (claim false .inserted _ _ "built" fleet_namesApart resolver built "hk1" "hk2"
    (.inl (by decide +kernel)) (.inl (by decide +kernel))).mpr fleet_connected
  rw [speaks.call_unlinked fleet_namesApart, speaks.call_unlinked fleet_namesApart] at merged
  revert merged
  decide +kernel

end

end MinotaurSubnet.Harness
