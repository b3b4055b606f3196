import MinotaurSubnet.Epoch.ThroneWeights

/-! # Emission of weights

The emitter joins the mapping's hotkeys with the metagraph and hands the weight of an absent
hotkey to the owner that the environment names. Without such a UID the weight is dropped, and
the final division raises everyone who is left. The mapping's owner comes from the chain
first, so the two owners need not be the same hotkey. Weights are exact.
-/

namespace MinotaurSubnet.Validator

open Library Python Harness Epoch

/-- Where the owner of the subnet is read: the chain's storage (`none` when the query fails or
    finds nothing) and the two environment variables. -/
structure OwnerSources where
  chain : Option String
  subnetOwnerHotkey : String
  ownerHotkey : String

namespace OwnerSources

variable (sources : OwnerSources)

def getSubnetOwnerHotkey : String :=
  if stripText sources.subnetOwnerHotkey = "" then stripText sources.ownerHotkey
  else stripText sources.subnetOwnerHotkey

def lookupSubnetOwnerFromChain : String := stripText (sources.chain.getD "")

def resolveSubnetOwnerHotkey : String :=
  if sources.lookupSubnetOwnerFromChain = "" then sources.getSubnetOwnerHotkey
  else sources.lookupSubnetOwnerFromChain

end OwnerSources

structure Metagraph where
  hotkeys : List String
  distinct : hotkeys.Nodup

namespace Metagraph

variable (metagraph : Metagraph)

def hotkeyToUid : Dict String Nat := Dict.empty.assignAll metagraph.hotkeys.zipIdx

def uidOf (hotkey : String) : Option Nat := metagraph.hotkeyToUid.get? hotkey

def ownerUid (ownerHotkey : String) : Option Nat :=
  if ownerHotkey = "" then none else metagraph.uidOf ownerHotkey

/-- Where the weight of a hotkey goes; `none` when it is dropped. -/
def route (ownerHotkey hotkey : String) : Option Nat :=
  match metagraph.uidOf hotkey with
  | some uid => some uid
  | none => metagraph.ownerUid ownerHotkey

end Metagraph

/-- `_emit_blocking` up to the submission: the weights by UID, or nothing is submitted. -/
def emitBlocking (metagraph : Metagraph) (sources : OwnerSources) (weightsMapping : Dict String ℚ) :
    Option (Dict Nat ℚ) :=
  let uidWeight := weightsMapping.gather (metagraph.route sources.getSubnetOwnerHotkey)
  if uidWeight.size = 0 then none
  else
    let total := uidWeight.values.sum
    if 0 < total then some (uidWeight.image fun w => w / total)
    else some (uidWeight.image fun _ => 1 / (uidWeight.size : ℚ))

def buildBootstrapOrChampionWeights (envOwner : String) (championHotkey ownerHotkey : Option String) :
    Dict String ℚ :=
  let owner := if ownerName ownerHotkey = "" then envOwner else ownerName ownerHotkey
  if isRealMinerHotkey championHotkey then
    applyChampionBurnRamp envOwner (Dict.empty.set (stripText (championHotkey.getD "")) 1) ownerHotkey none
  else if owner = "" then Dict.empty
  else Dict.empty.set owner 1

structure WeightMapping where
  weights : Dict String ℚ
  nonneg : ∀ hk w, weights.get? hk = some w → 0 ≤ w
  whole : weights.values.sum = 1

def emitted (submitted : Dict Nat ℚ) (uid : Nat) : ℚ := (submitted.get? uid).getD 0

def WeightMapping.absent (mapping : WeightMapping) (metagraph : Metagraph) : ℚ :=
  (mapping.weights.filter fun hk _ => !(metagraph.uidOf hk).isSome).values.sum

def WeightMapping.present (mapping : WeightMapping) (metagraph : Metagraph) : ℚ :=
  (mapping.weights.filter fun hk _ => (metagraph.uidOf hk).isSome).values.sum

/-- A submission that preserves the shares of a mapping whose owner is `owner`. -/
structure Preserves (mapping : WeightMapping) (metagraph : Metagraph) (owner : String)
    (submitted : Dict Nat ℚ) : Prop where
  whole : submitted.values.sum = 1
  shares : ∀ uid hk, metagraph.hotkeys[uid]? = some hk → metagraph.uidOf owner ≠ some uid →
    emitted submitted uid = weightOf mapping.weights hk
  rerouted : match metagraph.uidOf owner with
    | some uid => emitted submitted uid = weightOf mapping.weights owner + mapping.absent metagraph
    | none => mapping.absent metagraph = 0

/-- When the emitter preserves the shares: no weight is mapped to an absent hotkey, the fallback is
    the owner's own UID, or there is no fallback and nobody but the owner gets anything. -/
def Routed (mapping : WeightMapping) (metagraph : Metagraph) (sources : OwnerSources) : Prop :=
  let owner := sources.resolveSubnetOwnerHotkey
  let fallback := metagraph.ownerUid sources.getSubnetOwnerHotkey
  mapping.absent metagraph = 0 ∨ (fallback ≠ none ∧ fallback = metagraph.uidOf owner) ∨
    (fallback = none ∧ ∀ hk w uid, mapping.weights.get? hk = some w → metagraph.uidOf hk = some uid →
      metagraph.uidOf owner ≠ some uid → w = 0 ∧ 0 < mapping.present metagraph)

namespace Metagraph

variable {metagraph : Metagraph} {owner hk : String} {uid : Nat}

theorem uidOf_eq_some : metagraph.uidOf hk = some uid ↔ metagraph.hotkeys[uid]? = some hk := by
  constructor
  · intro found
    rcases Dict.get?_assignAll_some found with member | absent
    · simpa using List.mem_zipIdx_iff_getElem?.mp member
    · cases absent
  · intro registered
    have member : (hk, uid) ∈ metagraph.hotkeys.zipIdx := List.mem_zipIdx_iff_getElem?.mpr registered
    apply Dict.get?_assignAll_of_mem (List.mem_map.mpr ⟨_, member, rfl⟩)
    intro pair other same
    have twice : metagraph.hotkeys[pair.2]? = some hk := by
      simpa [same] using List.mem_zipIdx_iff_getElem?.mp other
    obtain ⟨inside, _⟩ := List.getElem?_eq_some_iff.mp twice
    exact (List.getElem?_inj inside metagraph.distinct).mp (twice.trans registered.symm)

theorem uidOf_injective {hk'} (left : metagraph.uidOf hk = some uid)
    (right : metagraph.uidOf hk' = some uid) : hk = hk' :=
  Option.some.inj ((uidOf_eq_some.mp left).symm.trans (uidOf_eq_some.mp right))

theorem route_of_none (dropped : metagraph.ownerUid owner = none) :
    metagraph.route owner hk = metagraph.uidOf hk := by
  rw [route]
  cases metagraph.uidOf hk with
  | none => exact dropped
  | some uid => rfl

theorem route_isSome {fallback} (named : metagraph.ownerUid owner = some fallback) :
    (metagraph.route owner hk).isSome = true := by
  rw [route]
  cases metagraph.uidOf hk with
  | none => rw [named]; rfl
  | some uid => rfl

theorem route_eq_some {k} (registered : metagraph.uidOf hk = some uid)
    (other : metagraph.ownerUid owner ≠ some uid) :
    metagraph.route owner k = some uid ↔ k = hk := by
  rw [route]
  constructor
  · intro routed
    cases found : metagraph.uidOf k with
    | none =>
      rw [found] at routed
      exact absurd routed other
    | some uid' =>
      rw [found] at routed
      exact uidOf_injective (found.trans routed) registered
  · rintro rfl
    rw [registered]

theorem uidOf_of_ownerUid (named : metagraph.ownerUid owner = some uid) :
    metagraph.uidOf owner = some uid := by
  unfold ownerUid at named
  split at named
  · cases named
  · exact named

theorem route_eq_fallback {k} (named : metagraph.ownerUid owner = some uid) :
    metagraph.route owner k = some uid ↔ k = owner ∨ metagraph.uidOf k = none := by
  have registered := uidOf_of_ownerUid named
  rw [route]
  cases found : metagraph.uidOf k with
  | none => simp [named]
  | some uid' =>
    constructor
    · intro routed
      exact .inl (uidOf_injective (found.trans routed) registered)
    · rintro (rfl | absent)
      · exact found.symm.trans registered
      · cases absent

end Metagraph

section

variable {mapping : WeightMapping} {metagraph : Metagraph} {owner envOwner : String}

theorem WeightMapping.present_add_absent (mapping : WeightMapping) (metagraph : Metagraph) :
    mapping.present metagraph + mapping.absent metagraph = 1 := by
  rw [present, absent, Dict.sum_values_filter_add_not _ fun hk => (metagraph.uidOf hk).isSome,
    mapping.whole]

theorem WeightMapping.present_nonneg (mapping : WeightMapping) (metagraph : Metagraph) :
    0 ≤ mapping.present metagraph :=
  sum_nonneg_of_get? fun hk w found => mapping.nonneg hk w (Dict.get?_filter_some found)

theorem emitted_image {d : Dict Nat ℚ} {f : ℚ → ℚ} (zero : f 0 = 0) (uid : Nat) :
    emitted (d.image f) uid = f (emitted d uid) := by
  rw [emitted, emitted, Dict.get?_image]
  cases d.get? uid with
  | none => exact zero.symm
  | some w => rfl

theorem emitted_gather {hk uid} (registered : metagraph.uidOf hk = some uid)
    (other : metagraph.ownerUid envOwner ≠ some uid) :
    emitted (mapping.weights.gather (metagraph.route envOwner)) uid = weightOf mapping.weights hk := by
  rw [emitted, Dict.getD_gather, weightOf, ← Dict.sum_values_filter_eq]
  simp only [Metagraph.route_eq_some registered other]

theorem emitted_gather_fallback {uid} (named : metagraph.ownerUid envOwner = some uid) :
    emitted (mapping.weights.gather (metagraph.route envOwner)) uid =
      weightOf mapping.weights envOwner + mapping.absent metagraph := by
  have registered := Metagraph.uidOf_of_ownerUid named
  rw [emitted, Dict.getD_gather, weightOf, ← Dict.sum_values_filter_eq, WeightMapping.absent,
    ← Dict.sum_values_filter_add_not _ fun hk => (metagraph.uidOf hk).isSome, Dict.filter_filter,
    Dict.filter_filter]
  congr 3
  · apply Dict.filter_congr
    intro hk _
    rw [Bool.eq_iff_iff]
    simp [Metagraph.route_eq_fallback named]
    constructor
    · rintro ⟨rfl | absent, present⟩
      · rfl
      · rw [absent] at present
        cases present
    · rintro rfl
      exact ⟨.inl rfl, by rw [registered]; rfl⟩
  · apply Dict.filter_congr
    intro hk _
    cases found : metagraph.uidOf hk <;> simp [Metagraph.route_eq_fallback named, found]

theorem sum_image_div {d : Dict Nat ℚ} (nonzero : d.values.sum ≠ 0) :
    (d.image fun w => w / d.values.sum).values.sum = 1 := by
  simpa using Dict.sum_proportional nonzero (1 : ℚ)

theorem sum_image_uniform {d : Dict Nat ℚ} (nonempty : d.size ≠ 0) :
    (d.image fun _ => 1 / (d.size : ℚ)).values.sum = 1 := by
  have uniform : (d.image fun _ => 1 / (d.size : ℚ)).values = List.replicate d.size (1 / (d.size : ℚ)) := by
    simp [Dict.values, Dict.image, Dict.size, Function.comp_def, List.map_const']
  rw [uniform, List.sum_replicate, nsmul_eq_mul]
  field_simp

theorem size_ne_zero_of_sum {d : Dict Nat ℚ} (positive : 0 < d.values.sum) : d.size ≠ 0 := by
  intro none
  have empty : d.values = [] := List.length_eq_zero_iff.mp (by simpa using none)
  rw [empty] at positive
  exact lt_irrefl _ positive

variable {sources : OwnerSources}

theorem emitBlocking_of_pos
    (positive : 0 < (mapping.weights.gather (metagraph.route sources.getSubnetOwnerHotkey)).values.sum) :
    emitBlocking metagraph sources mapping.weights =
      some ((mapping.weights.gather (metagraph.route sources.getSubnetOwnerHotkey)).image fun w =>
        w / (mapping.weights.gather (metagraph.route sources.getSubnetOwnerHotkey)).values.sum) := by
  unfold emitBlocking
  dsimp only
  rw [if_neg (size_ne_zero_of_sum positive), if_pos positive]

theorem sum_gather_fallback {uid} (named : metagraph.ownerUid envOwner = some uid) :
    (mapping.weights.gather (metagraph.route envOwner)).values.sum = 1 := by
  have all : (mapping.weights.filter fun hk _ => (metagraph.route envOwner hk).isSome).values.sum =
      mapping.weights.values.sum := by
    have split := Dict.sum_values_filter_add_not mapping.weights fun hk =>
      (metagraph.route envOwner hk).isSome
    have none_lost : (mapping.weights.filter fun hk _ =>
        !(metagraph.route envOwner hk).isSome).values.sum = 0 := by
      simp [Metagraph.route_isSome named, Dict.values, Dict.filter]
    rwa [none_lost, add_zero] at split
  rw [Dict.sum_gather, all, mapping.whole]

theorem preserves_fallback_iff {uid}
    (named : metagraph.ownerUid sources.getSubnetOwnerHotkey = some uid) :
    (∀ submitted, emitBlocking metagraph sources mapping.weights = some submitted →
      Preserves mapping metagraph owner submitted) ↔
      mapping.absent metagraph = 0 ∨ some uid = metagraph.uidOf owner := by
  have total := @sum_gather_fallback mapping _ _ _ named
  have emits := @emitBlocking_of_pos mapping _ _ (total ▸ one_pos)
  simp only [total, div_one] at emits
  rw [emits]
  constructor
  · intro preserved
    have shares := (preserved _ rfl).shares uid _
      (Metagraph.uidOf_eq_some.mp (Metagraph.uidOf_of_ownerUid named))
    rw [emitted_image rfl, emitted_gather_fallback named] at shares
    by_cases own : some uid = metagraph.uidOf owner
    · exact .inr own
    · have share := shares (Ne.symm own)
      exact .inl (by linarith)
  · intro condition submitted same
    cases same
    refine ⟨?_, ?_, ?_⟩
    · simpa [Dict.image] using total
    · intro uid' hk registered other
      rw [emitted_image rfl]
      have known := Metagraph.uidOf_eq_some.mpr registered
      by_cases here : uid' = uid
      · subst here
        have nothing := condition.resolve_right other.symm
        obtain rfl := Metagraph.uidOf_injective known (Metagraph.uidOf_of_ownerUid named)
        rw [emitted_gather_fallback named, nothing, add_zero]
      · apply emitted_gather known
        rw [named]
        exact fun same => here (Option.some.inj same).symm
    · cases known : metagraph.uidOf owner with
      | none => exact condition.resolve_right (by simp [known])
      | some uid' =>
        dsimp only
        rw [emitted_image rfl]
        by_cases here : uid' = uid
        · subst here
          obtain rfl := Metagraph.uidOf_injective known (Metagraph.uidOf_of_ownerUid named)
          exact emitted_gather_fallback named
        · have other : some uid ≠ some uid' := fun same => here (Option.some.inj same).symm
          rw [emitted_gather known (named ▸ other), condition.resolve_right (known ▸ other), add_zero]

theorem WeightMapping.le_present {hk w uid} (mapped : mapping.weights.get? hk = some w)
    (registered : metagraph.uidOf hk = some uid) :
    w ≤ mapping.present metagraph := by
  apply List.single_le_sum
  · intro v member
    obtain ⟨hk', found⟩ := Dict.mem_values.mp member
    exact mapping.nonneg hk' v (Dict.get?_filter_some found)
  · apply Dict.mem_values.mpr
    exact ⟨hk, by rw [Dict.get?_filter_key, registered]; exact mapped⟩

theorem sum_gather_dropped (dropped : metagraph.ownerUid envOwner = none) :
    (mapping.weights.gather (metagraph.route envOwner)).values.sum = mapping.present metagraph := by
  simp only [Dict.sum_gather, Metagraph.route_of_none dropped, WeightMapping.present]

theorem weightOf_eq {weights : Dict String ℚ} {hk w} (mapped : weights.get? hk = some w) :
    weightOf weights hk = w := by
  rw [weightOf, mapped, Option.getD_some]

/-- Nobody registered but the owner gets anything, so what is present is the owner's. -/
theorem present_of_owner_alone
    (alone : ∀ hk w uid, mapping.weights.get? hk = some w → metagraph.uidOf hk = some uid →
      metagraph.uidOf owner ≠ some uid → w = 0) :
    mapping.present metagraph =
      if (metagraph.uidOf owner).isSome then weightOf mapping.weights owner else 0 := by
  rw [WeightMapping.present, ← Dict.sum_values_filter_ne _ owner, Dict.get?_filter_key]
  have others : ((mapping.weights.filter fun hk _ => (metagraph.uidOf hk).isSome).filter fun hk _ =>
      decide (hk ≠ owner)).values.sum = 0 := by
    apply List.sum_eq_zero
    intro w member
    obtain ⟨hk, found⟩ := Dict.mem_values.mp member
    rw [Dict.get?_filter_key] at found
    split at found
    · next other =>
      rw [Dict.get?_filter_key] at found
      split at found
      · next registered =>
        obtain ⟨uid, known⟩ := Option.isSome_iff_exists.mp registered
        apply alone hk w uid found known
        intro same
        exact of_decide_eq_true other (Metagraph.uidOf_injective known same)
      · cases found
    · cases found
  rw [others, zero_add]
  split
  · rfl
  · rfl

/-- Something was left: the division raises every share unless nothing was lost. -/
theorem preserves_raised_iff (dropped : metagraph.ownerUid sources.getSubnetOwnerHotkey = none)
    (left : 0 < mapping.present metagraph) :
    (∀ submitted, emitBlocking metagraph sources mapping.weights = some submitted →
      Preserves mapping metagraph owner submitted) ↔
      mapping.absent metagraph = 0 ∨ ∀ hk w uid, mapping.weights.get? hk = some w →
        metagraph.uidOf hk = some uid → metagraph.uidOf owner ≠ some uid → w = 0 := by
  have total := @sum_gather_dropped mapping _ _ dropped
  have emits := @emitBlocking_of_pos mapping _ _ (total ▸ left)
  have parts := mapping.present_add_absent metagraph
  have raised : ∀ uid hk, metagraph.uidOf hk = some uid →
      emitted ((mapping.weights.gather (metagraph.route sources.getSubnetOwnerHotkey)).image fun w =>
        w / mapping.present metagraph) uid = weightOf mapping.weights hk / mapping.present metagraph := by
    intro uid hk known
    rw [@emitted_image _ (fun w => w / mapping.present metagraph) (zero_div _),
      emitted_gather known (by rw [dropped]; exact nofun)]
  rw [total] at emits
  rw [emits]
  constructor
  · intro preserved
    by_cases lost : mapping.absent metagraph = 0
    · exact .inl lost
    · right
      intro hk w uid mapped known other
      have share := (preserved _ rfl).shares uid hk (Metagraph.uidOf_eq_some.mp known) other
      rw [raised uid hk known, weightOf_eq mapped, div_eq_iff left.ne'] at share
      have product : w * mapping.absent metagraph = 0 := by
        rw [← add_right_inj (w * mapping.present metagraph), ← mul_add, parts, ← share]
        ring
      exact (mul_eq_zero.mp product).resolve_right lost
  · intro condition submitted same
    cases same
    refine ⟨?_, ?_, ?_⟩
    · rw [← total]
      exact sum_image_div (total ▸ left.ne')
    · intro uid hk registered other
      have known := Metagraph.uidOf_eq_some.mpr registered
      rw [raised uid hk known]
      rcases condition with nothing | alone
      · rw [nothing, add_zero] at parts
        rw [parts, div_one]
      · cases mapped : mapping.weights.get? hk with
        | none => rw [weightOf, mapped, Option.getD_none, zero_div]
        | some w => rw [weightOf_eq mapped, alone hk w uid mapped known other, zero_div]
    · cases known : metagraph.uidOf owner with
      | none =>
        rcases condition with nothing | alone
        · exact nothing
        · have empty := present_of_owner_alone alone
          rw [known] at empty
          exact absurd empty left.ne'
      | some uid =>
        dsimp only
        rw [raised uid owner known]
        rcases condition with nothing | alone
        · rw [nothing, add_zero] at parts ⊢
          rw [parts, div_one]
        · have all := present_of_owner_alone alone
          simp only [known, Option.isSome_some, if_true] at all
          rw [← all, parts, div_self left.ne']

theorem preserves_uniform_iff (dropped : metagraph.ownerUid sources.getSubnetOwnerHotkey = none)
    (nothing : mapping.present metagraph = 0) :
    (∀ submitted, emitBlocking metagraph sources mapping.weights = some submitted →
      Preserves mapping metagraph owner submitted) ↔
      ∀ hk w uid, mapping.weights.get? hk = some w → metagraph.uidOf hk = some uid →
        metagraph.uidOf owner = some uid := by
  have total := @sum_gather_dropped mapping _ _ dropped
  have gathered : ∀ uid, ((mapping.weights.gather (metagraph.route
      sources.getSubnetOwnerHotkey)).get? uid).isSome = true ↔
      ∃ hk w, mapping.weights.get? hk = some w ∧ metagraph.uidOf hk = some uid := by
    intro uid
    rw [Dict.get?_gather_isSome]
    simp only [Metagraph.route_of_none dropped]
  have zero : ∀ {hk w uid}, mapping.weights.get? hk = some w → metagraph.uidOf hk = some uid → w = 0 :=
    fun mapped known => le_antisymm (nothing ▸ WeightMapping.le_present mapped known)
      (mapping.nonneg _ _ mapped)
  have lost : mapping.absent metagraph = 1 := by
    have parts := mapping.present_add_absent metagraph
    rwa [nothing, zero_add] at parts
  generalize uidWeight_eq : mapping.weights.gather (metagraph.route sources.getSubnetOwnerHotkey) =
    uidWeight at total gathered
  have emits : emitBlocking metagraph sources mapping.weights =
      if uidWeight.size = 0 then none else some (uidWeight.image fun _ => 1 / (uidWeight.size : ℚ)) := by
    unfold emitBlocking
    dsimp only
    rw [uidWeight_eq, total, nothing, if_neg (lt_irrefl _)]
  have uniform : ∀ uid, (uidWeight.get? uid).isSome = true →
      emitted (uidWeight.image fun _ => 1 / (uidWeight.size : ℚ)) uid = 1 / (uidWeight.size : ℚ) := by
    intro uid held
    obtain ⟨w, found⟩ := Option.isSome_iff_exists.mp held
    rw [emitted, Dict.get?_image, found, Option.map_some, Option.getD_some]
  rw [emits]
  constructor
  · intro preserved hk w uid mapped known
    by_contra other
    have held := (gathered uid).mpr ⟨hk, w, mapped, known⟩
    have nonempty : uidWeight.size ≠ 0 := by
      obtain ⟨v, found⟩ := Option.isSome_iff_exists.mp held
      have member := Dict.mem_values.mpr ⟨uid, found⟩
      rw [← Dict.size_eq_values]
      exact (List.length_pos_of_mem member).ne'
    have share := (preserved _ (if_neg nonempty)).shares uid hk (Metagraph.uidOf_eq_some.mp known) other
    rw [uniform uid held, weightOf_eq mapped, zero mapped known, div_eq_zero_iff] at share
    simp [nonempty] at share
  · intro alone submitted same
    split at same
    · cases same
    · next nonempty =>
      cases same
      obtain ⟨uid, only⟩ : ∃ uid, uidWeight.keys = [uid] := by
        have owners : ∀ uid ∈ uidWeight.keys, metagraph.uidOf owner = some uid := by
          intro uid member
          obtain ⟨v, found⟩ := Dict.mem_keys.mp member
          obtain ⟨hk, w, mapped, known⟩ := (gathered uid).mp (by rw [found]; rfl)
          exact alone hk w uid mapped known
        have distinct := uidWeight.keysNodup
        change uidWeight.keys.Nodup at distinct
        rw [← Dict.size_eq_keys] at nonempty
        cases keys : uidWeight.keys with
        | nil => simp [keys] at nonempty
        | cons uid rest =>
          cases rest with
          | nil => exact ⟨uid, rfl⟩
          | cons uid' rest =>
            rw [keys] at owners distinct
            have same := (owners uid (by simp)).symm.trans (owners uid' (by simp))
            simp [Option.some.inj same] at distinct
      have held : (uidWeight.get? uid).isSome = true := by
        obtain ⟨v, found⟩ := Dict.mem_keys.mp (only ▸ List.mem_singleton_self uid)
        rw [found]
        rfl
      obtain ⟨hk, w, mapped, known⟩ := (gathered uid).mp held
      have owned := alone hk w uid mapped known
      obtain rfl := Metagraph.uidOf_injective known owned
      have one : uidWeight.size = 1 := by rw [← Dict.size_eq_keys, only]; rfl
      refine ⟨sum_image_uniform nonempty, ?_, ?_⟩
      · intro uid' hk' registered other
        have unmapped : mapping.weights.get? hk' = none := by
          cases mapped' : mapping.weights.get? hk' with
          | none => rfl
          | some w' => exact absurd (alone hk' w' uid' mapped' (Metagraph.uidOf_eq_some.mpr registered)) other
        have unheld : uidWeight.get? uid' = none := by
          cases found : uidWeight.get? uid' with
          | none => rfl
          | some v =>
            have member := Dict.mem_keys.mpr ⟨v, found⟩
            rw [only, List.mem_singleton] at member
            exact absurd (member ▸ owned) other
        rw [emitted, Dict.get?_image, unheld, weightOf, unmapped]
        rfl
      · rw [owned]
        dsimp only
        rw [uniform uid held, one, weightOf_eq mapped, zero mapped known, lost]
        norm_num

theorem preserves_iff (mapping : WeightMapping) (metagraph : Metagraph) (sources : OwnerSources) :
    (∀ submitted, emitBlocking metagraph sources mapping.weights = some submitted →
      Preserves mapping metagraph sources.resolveSubnetOwnerHotkey submitted) ↔
      Routed mapping metagraph sources := by
  unfold Routed
  dsimp only
  cases named : metagraph.ownerUid sources.getSubnetOwnerHotkey with
  | some uid => simp [preserves_fallback_iff named]
  | none =>
    by_cases left : 0 < mapping.present metagraph
    · simp [preserves_raised_iff named left, left]
    · have nothing : mapping.present metagraph = 0 :=
        le_antisymm (not_lt.mp left) (mapping.present_nonneg metagraph)
      have parts := mapping.present_add_absent metagraph
      rw [nothing, zero_add] at parts
      rw [preserves_uniform_iff named nothing, parts, nothing]
      simp

namespace OwnerSources

theorem stripText_stripText (text : String) : stripText (stripText text) = stripText text := by
  simp [stripText, strip_strip]

/-- The resolved owner is stripped, so the builders keep it as it is. -/
theorem ownerName_resolved (sources : OwnerSources) :
    ownerName (some sources.resolveSubnetOwnerHotkey) = sources.resolveSubnetOwnerHotkey := by
  unfold ownerName resolveSubnetOwnerHotkey lookupSubnetOwnerFromChain getSubnetOwnerHotkey
  rw [Option.getD_some]
  split
  · split <;> exact stripText_stripText _
  · exact stripText_stripText _

end OwnerSources

inductive Built (sources : OwnerSources) : ℚ → Dict String ℚ → Prop
  | champion (championHotkey : Option String) :
      Built sources championMinerWeightFraction (buildBootstrapOrChampionWeights
        sources.getSubnetOwnerHotkey championHotkey (some sources.resolveSubnetOwnerHotkey))
  | timeWeighted (a : ThroneTimeAttribution) (minerFraction : ℚ)
      (held : ∀ hk n, a.perHotkeyEpochs.get? hk = some n → 0 ≤ n) (unheld : 0 ≤ a.unattributedEpochs)
      (least : 0 ≤ minerFraction) (most : minerFraction ≤ 1) :
      Built sources minerFraction (buildTimeWeightedMapping sources.getSubnetOwnerHotkey a
        (some sources.resolveSubnetOwnerHotkey) minerFraction)

structure Splits (owner : String) (minerFraction : ℚ) (weights : Dict String ℚ) : Prop where
  nonneg : ∀ hk w, weights.get? hk = some w → 0 ≤ w
  whole : weights.values.sum = 1
  capped : ∀ hk ≠ owner, weightOf weights hk ≤ minerFraction

theorem splits_burned {owner minerFraction} (least : 0 ≤ minerFraction) :
    Splits owner minerFraction (Dict.empty.set owner 1) where
  nonneg := by
    intro hk w found
    rw [Dict.get?_set] at found
    split at found
    · rw [← Option.some.inj found]
      exact zero_le_one
    · cases found
  whole := sum_burned
  capped := by
    intro hk other
    rw [weightOf_burned hk other]
    exact least

theorem sum_le_of_weight {weights hk owner w} (held : ∀ hk w, weights.get? hk = some w → 0 ≤ w)
    (mapped : weights.get? hk = some w) (other : hk ≠ owner) :
    w ≤ (others weights owner).values.sum := by
  apply List.single_le_sum
  · intro v member
    obtain ⟨hk', found⟩ := Dict.mem_values.mp member
    exact held hk' v (Dict.get?_filter_some found)
  · apply Dict.mem_values.mpr
    exact ⟨hk, by rw [others, Dict.get?_filter_key, if_pos (decide_eq_true other), mapped]⟩

theorem ramp_owner_nonneg {envOwner owner weights ownerHotkey effective}
    (named : ownerName ownerHotkey = owner) (nonblank : owner ≠ "") (nonempty : weights.size ≠ 0) :
    0 ≤ weightOf (applyChampionBurnRamp envOwner weights ownerHotkey (some effective)) owner := by
  unfold applyChampionBurnRamp weightOf
  rw [if_neg nonempty, named, if_neg nonblank]
  dsimp only
  rw [if_neg nonblank]
  split
  · simp
  · split
    · simp
    · rw [Dict.get?_set_self, Option.getD_some]
      exact sub_nonneg.mpr (min_le_left _ _)

theorem splits_ramp {envOwner owner weights ownerHotkey effective minerFraction}
    (named : ownerName ownerHotkey = owner) (nonblank : owner ≠ "")
    (held : ∀ hk w, weights.get? hk = some w → 0 ≤ w) (nonempty : weights.size ≠ 0)
    (least : 0 ≤ effective) (most : effective ≤ 1) (within : effective ≤ minerFraction) :
    Splits owner minerFraction
      (applyChampionBurnRamp envOwner weights ownerHotkey (some effective)) := by
  obtain ⟨shares, whole⟩ := applyChampionBurnRamp_shares envOwner named nonblank held nonempty least most
  have part : ∀ hk ≠ owner, 0 ≤ (weights.get? hk).getD 0 / (others weights owner).values.sum ∧
      (weights.get? hk).getD 0 / (others weights owner).values.sum ≤ 1 := by
    intro hk other
    cases mapped : weights.get? hk with
    | none => simp
    | some w =>
      have below := sum_le_of_weight held mapped other
      have positive := (held hk w mapped).trans below
      exact ⟨div_nonneg (held hk w mapped) positive, div_le_one_of_le₀ below positive⟩
  refine ⟨?_, whole, ?_⟩
  · intro hk w found
    by_cases own : hk = owner
    · subst own
      rw [← weightOf_eq found]
      exact ramp_owner_nonneg named nonblank nonempty
    · rw [← weightOf_eq found, shares hk own]
      exact mul_nonneg (part hk own).1 least
  · intro hk other
    rw [shares hk other]
    exact (mul_le_of_le_one_left least (part hk other).2).trans within

variable {minerFraction : ℚ} {weights : Dict String ℚ}

theorem Built.splits (built : Built sources minerFraction weights)
    (resolved : sources.resolveSubnetOwnerHotkey ≠ "") :
    Splits sources.resolveSubnetOwnerHotkey minerFraction weights := by
  have named := sources.ownerName_resolved
  cases built with
  | champion championHotkey =>
    unfold buildBootstrapOrChampionWeights
    dsimp only
    rw [named, if_neg resolved, if_neg resolved]
    split
    · have default_fraction : ∀ weights : Dict String ℚ,
          applyChampionBurnRamp sources.getSubnetOwnerHotkey weights
            (some sources.resolveSubnetOwnerHotkey) none =
          applyChampionBurnRamp sources.getSubnetOwnerHotkey weights
            (some sources.resolveSubnetOwnerHotkey) (some championMinerWeightFraction) := fun _ => rfl
      rw [default_fraction]
      apply splits_ramp named resolved _ _ _ _ le_rfl
      · intro hk w found
        rw [Dict.get?_set] at found
        split at found
        · rw [← Option.some.inj found]
          exact zero_le_one
        · cases found
      · simp [Dict.size, Dict.set, Dict.empty, Dict.assign]
      · norm_num [championMinerWeightFraction]
      · norm_num [championMinerWeightFraction]
    · exact splits_burned (by norm_num [championMinerWeightFraction])
  | timeWeighted a minerFraction held unheld least most =>
    have attributed : a.attributed ≤ a.windowEpochs := by
      unfold ThroneTimeAttribution.windowEpochs ThroneTimeAttribution.attributed
      omega
    unfold buildTimeWeightedMapping
    dsimp only
    rw [named, if_neg resolved]
    split
    · exact splits_burned least
    · next reigned =>
      obtain ⟨window, some_attributed⟩ := not_or.mp reigned
      have counts : a.Counts := ⟨held, unheld, not_le.mp window⟩
      have positive : (0 : ℚ) < a.windowEpochs := by exact_mod_cast not_le.mp window
      have within : (a.attributed : ℚ) / a.windowEpochs ≤ 1 := by
        rw [div_le_one positive]
        exact_mod_cast attributed
      have share : minerFraction * a.attributed / a.windowEpochs ≤ minerFraction := by
        rw [mul_div_assoc]
        exact mul_le_of_le_one_right least within
      have part : (0 : ℚ) ≤ a.attributed := by exact_mod_cast counts.attributed_nonneg
      have effective : 0 ≤ minerFraction * a.attributed / a.windowEpochs := by positivity
      have nonempty : a.minerWeights.size ≠ 0 := by
        intro none
        have empty : a.minerWeights.values = [] := List.length_eq_zero_iff.mp (by simpa using none)
        have sum := @ThroneTimeAttribution.sum_minerWeights a
        rw [empty, List.sum_nil] at sum
        have zero : a.attributed = 0 := by exact_mod_cast sum.symm
        exact some_attributed zero.le
      exact splits_ramp named resolved (fun _ _ found => counts.minerWeights_nonneg found) nonempty
        effective (share.trans most) share

def Built.weightMapping (built : Built sources minerFraction weights)
    (resolved : sources.resolveSubnetOwnerHotkey ≠ "") : WeightMapping where
  weights := weights
  nonneg := (built.splits resolved).nonneg
  whole := (built.splits resolved).whole

/-- The shares are preserved exactly when the mapping is routed, and then no miner of a mapping
    that is built with a resolved owner is submitted with more than the fraction. -/
theorem emission_preserves_iff (mapping : WeightMapping) (metagraph : Metagraph)
    (sources : OwnerSources) :
    ((∀ submitted, emitBlocking metagraph sources mapping.weights = some submitted →
      Preserves mapping metagraph sources.resolveSubnetOwnerHotkey submitted) ↔
      Routed mapping metagraph sources) ∧
    ∀ minerFraction, Built sources minerFraction mapping.weights →
      sources.resolveSubnetOwnerHotkey ≠ "" → Routed mapping metagraph sources →
      ∀ submitted, emitBlocking metagraph sources mapping.weights = some submitted →
      ∀ uid hk, metagraph.hotkeys[uid]? = some hk →
        metagraph.uidOf sources.resolveSubnetOwnerHotkey ≠ some uid →
        emitted submitted uid ≤ minerFraction := by
  refine ⟨preserves_iff mapping metagraph sources, ?_⟩
  intro minerFraction built resolved routed submitted emits uid hk registered other
  have preserved := (preserves_iff mapping metagraph sources).mpr routed submitted emits
  rw [preserved.shares uid hk registered other]
  apply (built.splits resolved).capped
  rintro rfl
  exact other (Metagraph.uidOf_eq_some.mpr registered)

def chainOwned : OwnerSources := { chain := some "owner", subnetOwnerHotkey := "", ownerHotkey := "" }

def championMapping : WeightMapping :=
  (Built.champion (some "champion") : Built chainOwned _ _).weightMapping (by decide)

def bothRegistered : Metagraph := ⟨["champion", "owner"], by decide⟩

theorem championMapping_bothRegistered :
    ∃ submitted, emitBlocking bothRegistered chainOwned championMapping.weights = some submitted ∧
      emitted submitted 0 ≤ championMinerWeightFraction := by
  obtain ⟨submitted, emits⟩ : ∃ submitted,
      emitBlocking bothRegistered chainOwned championMapping.weights = some submitted :=
    Option.isSome_iff_exists.mp (by decide +kernel)
  have routed : Routed championMapping bothRegistered chainOwned := .inl (by decide +kernel)
  have capped := (emission_preserves_iff championMapping bothRegistered chainOwned).2
    championMinerWeightFraction (Built.champion (some "champion")) (by decide) routed submitted emits
  exact ⟨submitted, emits, capped 0 "champion" rfl (by decide)⟩

def championRegistered : Metagraph := ⟨["champion"], by decide⟩

/-- The champion is submitted with everything. -/
theorem champion_receives_everything :
    ¬ ∀ (mapping : WeightMapping) (metagraph : Metagraph) (sources : OwnerSources),
      ∀ submitted, emitBlocking metagraph sources mapping.weights = some submitted →
        Preserves mapping metagraph sources.resolveSubnetOwnerHotkey submitted := by
  intro always
  have emits : emitBlocking championRegistered chainOwned championMapping.weights =
      some (Dict.empty.set 0 1) := by decide +kernel
  have preserved := always championMapping championRegistered chainOwned _ emits
  have share := preserved.shares 0 "champion" rfl (by decide)
  revert share
  decide +kernel

end

end MinotaurSubnet.Validator
