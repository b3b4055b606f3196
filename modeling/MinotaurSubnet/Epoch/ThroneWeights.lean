import MinotaurSubnet.Epoch.ReignAttribution

/-! # Weights for throne time

The mapping scales the miners' share by the part of the window that had a champion and hands
it to the champion ramp, which leaves the owner out and divides the share among the others.
So the owner's own epochs on the throne go to the other miners. Weights are exact.
-/

namespace MinotaurSubnet.Epoch

open Library Harness

def championMinerWeightFraction : ℚ := 3 / 4

/-- `(owner_hotkey or "").strip()`. -/
def ownerName (ownerHotkey : Option String) : String := stripText (ownerHotkey.getD "")

/-- `envOwner` is what `get_subnet_owner_hotkey` reads from the environment. -/
def applyChampionBurnRamp (envOwner : String) (minerWeights : Dict String ℚ)
    (ownerHotkey : Option String) (minerFraction : Option ℚ) : Dict String ℚ :=
  if minerWeights.size = 0 then minerWeights
  else
    let fraction := min 1 (max 0 (minerFraction.getD championMinerWeightFraction))
    let owner := if ownerName ownerHotkey = "" then envOwner else ownerName ownerHotkey
    if owner = "" then minerWeights
    else
      let miners := minerWeights.filter fun hk _ => decide (hk ≠ owner)
      if miners.size = 0 then Dict.empty.set owner 1
      else
        let total := miners.values.sum
        if total ≤ 0 then Dict.empty.set owner 1
        else (miners.image fun w => w / total * fraction).set owner (1 - fraction)

def buildTimeWeightedMapping (envOwner : String) (attribution : ThroneTimeAttribution)
    (ownerHotkey : Option String) (minerFraction : ℚ) : Dict String ℚ :=
  let attributed := attribution.perHotkeyEpochs.values.sum
  if attribution.windowEpochs ≤ 0 ∨ attributed ≤ 0 then
    let owner := ownerName ownerHotkey
    if owner = "" then Dict.empty else Dict.empty.set owner 1
  else
    let effectiveFraction := minerFraction * attributed / attribution.windowEpochs
    let minerWeights := attribution.perHotkeyEpochs.sortedItems.image fun epochs => (epochs : ℚ)
    applyChampionBurnRamp envOwner minerWeights ownerHotkey (some effectiveFraction)

def ThroneTimeAttribution.othersEpochs (a : ThroneTimeAttribution) (owner : String) : Int :=
  (a.perHotkeyEpochs.filter fun hk _ => decide (hk ≠ owner)).values.sum

def ThroneTimeAttribution.epochsOf (a : ThroneTimeAttribution) (hk : String) : Int :=
  (a.perHotkeyEpochs.get? hk).getD 0

def ThroneTimeAttribution.attributed (a : ThroneTimeAttribution) : Int :=
  a.perHotkeyEpochs.values.sum

structure ThroneTimeAttribution.Counts (a : ThroneTimeAttribution) : Prop where
  held : ∀ hk n, a.perHotkeyEpochs.get? hk = some n → 0 ≤ n
  unheld : 0 ≤ a.unattributedEpochs
  window : 0 < a.windowEpochs

section

variable {a : ThroneTimeAttribution} {envOwner owner : String} {minerFraction : ℚ}

def weightOf (weights : Dict String ℚ) (hk : String) : ℚ := (weights.get? hk).getD 0

theorem sum_nonneg_of_get? {d : Dict String ℚ} (held : ∀ hk n, d.get? hk = some n → 0 ≤ n) :
    0 ≤ d.values.sum := by
  apply List.sum_nonneg
  intro n member
  obtain ⟨hk, found⟩ := Dict.mem_values.mp member
  exact held hk n found

theorem sum_image_cast (d : Dict String Int) :
    (d.image fun epochs => (epochs : ℚ)).values.sum = (d.values.sum : ℚ) := by
  simp [Dict.values, Dict.image]
  induction d.entries with
  | nil => simp
  | cons entry rest ih => simp [ih]

theorem weightOf_burned (hk : String) (other : hk ≠ owner) :
    weightOf (Dict.empty.set owner 1) hk = 0 := by
  simp [weightOf, Dict.get?_set_ne _ _ other]

theorem sum_burned : ((Dict.empty : Dict String ℚ).set owner 1).values.sum = 1 := by
  rw [Dict.sum_values_set_of_none _ (Dict.get?_empty owner)]
  simp [Dict.values, Dict.empty]

def others (weights : Dict String ℚ) (owner : String) : Dict String ℚ :=
  weights.filter fun hk _ => decide (hk ≠ owner)

variable (envOwner) in
theorem applyChampionBurnRamp_shares {weights : Dict String ℚ} {ownerHotkey fraction}
    (named : ownerName ownerHotkey = owner) (nonblank : owner ≠ "")
    (held : ∀ hk w, weights.get? hk = some w → 0 ≤ w) (nonempty : weights.size ≠ 0)
    (least : 0 ≤ fraction) (most : fraction ≤ 1) :
    (∀ hk ≠ owner, weightOf (applyChampionBurnRamp envOwner weights ownerHotkey (some fraction)) hk =
        (weights.get? hk).getD 0 / (others weights owner).values.sum * fraction) ∧
      (applyChampionBurnRamp envOwner weights ownerHotkey (some fraction)).values.sum = 1 := by
  have clamped : min 1 (max 0 fraction) = fraction := by
    rw [max_eq_right least, min_eq_right most]
  have kept : ∀ hk ≠ owner, (others weights owner).get? hk = weights.get? hk := by
    intro hk other
    rw [others, Dict.get?_filter_key, if_pos (decide_eq_true other)]
  have positive : 0 ≤ (others weights owner).values.sum := by
    apply sum_nonneg_of_get?
    exact fun hk w found => held hk w (Dict.get?_filter_some found)
  have absent : (others weights owner).get? owner = none := by
    rw [others, Dict.get?_filter_key]
    simp
  unfold applyChampionBurnRamp
  rw [if_neg nonempty, named, if_neg nonblank]
  dsimp only
  rw [if_neg nonblank, Option.getD_some, clamped, ← others]
  by_cases nobody : (others weights owner).values.sum = 0
  · -- nobody else held anything, and both tests send it all to the owner
    have burned : (if (others weights owner).size = 0 then (Dict.empty.set owner 1 : Dict String ℚ)
        else if (others weights owner).values.sum ≤ 0 then Dict.empty.set owner 1
        else ((others weights owner).image fun w =>
          w / (others weights owner).values.sum * fraction).set owner (1 - fraction)) =
        Dict.empty.set owner 1 := by
      rw [if_pos nobody.le, ite_self]
    rw [burned]
    exact ⟨fun hk other => by rw [weightOf_burned hk other, nobody, div_zero, zero_mul], sum_burned⟩
  · have some_left : (others weights owner).size ≠ 0 := by
      intro none
      have empty : (others weights owner).values = [] :=
        List.length_eq_zero_iff.mp (by simpa using none)
      exact nobody (by rw [empty, List.sum_nil])
    rw [if_neg some_left, if_neg (not_le.mpr (lt_of_le_of_ne positive (Ne.symm nobody)))]
    constructor
    · intro hk other
      rw [weightOf, Dict.get?_set_ne _ _ other, Dict.get?_image, kept hk other]
      cases weights.get? hk with
      | none => simp
      | some w => rfl
    · rw [Dict.sum_values_set_of_none _ (by rw [Dict.get?_image, absent, Option.map_none]),
        Dict.sum_proportional nobody]
      ring

variable {ownerHotkey : Option String}

theorem othersEpochs_add (a : ThroneTimeAttribution) (owner : String) :
    a.othersEpochs owner + a.epochsOf owner = a.attributed :=
  Dict.sum_values_filter_ne a.perHotkeyEpochs owner

namespace ThroneTimeAttribution

def minerWeights (a : ThroneTimeAttribution) : Dict String ℚ :=
  a.perHotkeyEpochs.sortedItems.image fun epochs => (epochs : ℚ)

theorem minerWeights_get? (hk : String) : (a.minerWeights.get? hk).getD 0 = a.epochsOf hk := by
  rw [minerWeights, Dict.get?_image, Dict.get?_sortedItems, epochsOf]
  cases a.perHotkeyEpochs.get? hk <;> simp

theorem sum_minerWeights : a.minerWeights.values.sum = a.attributed := by
  rw [minerWeights, sum_image_cast, Dict.sum_sortedItems, attributed]

theorem sum_others (owner : String) :
    (others a.minerWeights owner).values.sum = a.othersEpochs owner := by
  have split := Dict.sum_values_filter_ne a.minerWeights owner
  rw [minerWeights_get?, sum_minerWeights, ← othersEpochs_add a owner, Int.cast_add] at split
  exact add_right_cancel split

theorem Counts.epochsOf_nonneg (counts : a.Counts) (hk : String) : 0 ≤ a.epochsOf hk := by
  unfold epochsOf
  cases found : a.perHotkeyEpochs.get? hk with
  | none => exact le_rfl
  | some n => exact counts.held hk n found

theorem Counts.minerWeights_nonneg (counts : a.Counts) {hk w}
    (found : a.minerWeights.get? hk = some w) : 0 ≤ w := by
  have value := minerWeights_get? (a := a) hk
  rw [found, Option.getD_some] at value
  rw [value]
  exact_mod_cast counts.epochsOf_nonneg hk

theorem Counts.attributed_nonneg (counts : a.Counts) : 0 ≤ a.attributed := by
  have sum := sum_nonneg_of_get? fun _ _ found => counts.minerWeights_nonneg found
  rw [sum_minerWeights] at sum
  exact_mod_cast sum

theorem Counts.epochsOf_le (counts : a.Counts) (hk : String) : a.epochsOf hk ≤ a.attributed := by
  have split := othersEpochs_add a hk
  have sum := sum_nonneg_of_get? (d := others a.minerWeights hk) fun hk w found =>
    counts.minerWeights_nonneg (Dict.get?_filter_some found)
  rw [sum_others] at sum
  have rest : 0 ≤ a.othersEpochs hk := by exact_mod_cast sum
  omega

end ThroneTimeAttribution

open ThroneTimeAttribution

theorem time_weighted_of_unthroned (nonblank : ownerName ownerHotkey ≠ "")
    (unthroned : a.attributed = 0) :
    buildTimeWeightedMapping envOwner a ownerHotkey minerFraction =
      Dict.empty.set (ownerName ownerHotkey) 1 := by
  unfold buildTimeWeightedMapping
  dsimp only
  rw [if_pos (.inr unthroned.le), if_neg nonblank]

variable (envOwner) in
theorem time_weighted_of_throned (counts : a.Counts) (nonblank : ownerName ownerHotkey ≠ "")
    (throned : 0 < a.attributed) (least : 0 ≤ minerFraction) (most : minerFraction ≤ 1) :
    (∀ hk ≠ ownerName ownerHotkey,
      weightOf (buildTimeWeightedMapping envOwner a ownerHotkey minerFraction) hk =
        a.epochsOf hk / a.othersEpochs (ownerName ownerHotkey) *
          (minerFraction * a.attributed / a.windowEpochs)) ∧
      (buildTimeWeightedMapping envOwner a ownerHotkey minerFraction).values.sum = 1 := by
  have window : (0 : ℚ) < a.windowEpochs := by exact_mod_cast counts.window
  have attributed : (0 : ℚ) ≤ a.attributed := by exact_mod_cast throned.le
  have within : (a.attributed : ℚ) ≤ a.windowEpochs := by
    have unheld := counts.unheld
    have : a.attributed ≤ a.windowEpochs := by
      unfold ThroneTimeAttribution.windowEpochs ThroneTimeAttribution.attributed
      omega
    exact_mod_cast this
  have nonempty : a.minerWeights.size ≠ 0 := by
    intro none
    have empty : a.minerWeights.values = [] := List.length_eq_zero_iff.mp (by simpa using none)
    have sum := sum_minerWeights (a := a)
    rw [empty, List.sum_nil] at sum
    have zero : a.attributed = 0 := by exact_mod_cast sum.symm
    omega
  have mapping : buildTimeWeightedMapping envOwner a ownerHotkey minerFraction =
      applyChampionBurnRamp envOwner a.minerWeights ownerHotkey
        (some (minerFraction * a.attributed / a.windowEpochs)) := by
    have open_ : ¬ (a.windowEpochs ≤ 0 ∨ a.perHotkeyEpochs.values.sum ≤ 0) :=
      not_or.mpr ⟨not_le.mpr counts.window, not_le.mpr throned⟩
    unfold buildTimeWeightedMapping
    dsimp only
    rw [if_neg open_]
    rfl
  have shares := applyChampionBurnRamp_shares envOwner rfl nonblank
    (fun _ _ found => counts.minerWeights_nonneg found) nonempty
    (show 0 ≤ minerFraction * a.attributed / a.windowEpochs by positivity)
    (by
      rw [div_le_one window]
      nlinarith)
  rw [mapping]
  refine ⟨fun hk other => ?_, shares.2⟩
  rw [shares.1 hk other, minerWeights_get?, sum_others]

/-- The weights sum to one, and a miner gets its part of the throne time of all miners but the
    owner: its part of the window where the owner did not reign. -/
theorem time_weighted_shares (counts : a.Counts) (nonblank : ownerName ownerHotkey ≠ "")
    (least : 0 ≤ minerFraction) (most : minerFraction ≤ 1) :
    (∀ hk ≠ ownerName ownerHotkey,
      weightOf (buildTimeWeightedMapping envOwner a ownerHotkey minerFraction) hk =
        if a.othersEpochs (ownerName ownerHotkey) = 0 then 0
        else minerFraction * a.attributed / a.windowEpochs *
          (a.epochsOf hk / a.othersEpochs (ownerName ownerHotkey))) ∧
    (a.epochsOf (ownerName ownerHotkey) = 0 → ∀ hk ≠ ownerName ownerHotkey,
      weightOf (buildTimeWeightedMapping envOwner a ownerHotkey minerFraction) hk =
        minerFraction * a.epochsOf hk / a.windowEpochs) ∧
    (buildTimeWeightedMapping envOwner a ownerHotkey minerFraction).values.sum = 1 := by
  have split := othersEpochs_add a (ownerName ownerHotkey)
  by_cases unthroned : a.attributed = 0
  · have none : ∀ hk, a.epochsOf hk = 0 := by
      intro hk
      have := counts.epochsOf_nonneg hk
      have := counts.epochsOf_le hk
      omega
    rw [time_weighted_of_unthroned nonblank unthroned]
    refine ⟨?_, ?_, sum_burned⟩
    · intro hk other
      rw [weightOf_burned hk other, none hk]
      simp
    · intro _ hk other
      rw [weightOf_burned hk other, none hk]
      simp
  · have throned : 0 < a.attributed := lt_of_le_of_ne counts.attributed_nonneg (Ne.symm unthroned)
    obtain ⟨shares, sum⟩ := time_weighted_of_throned envOwner counts nonblank throned
      least most
    refine ⟨?_, ?_, sum⟩
    · intro hk other
      rw [shares hk other]
      split
      · next nobody => rw [nobody, Int.cast_zero, div_zero, zero_mul]
      · rw [mul_comm]
    · intro unreigned hk other
      have all : a.othersEpochs (ownerName ownerHotkey) = a.attributed := by omega
      have nonzero : (a.attributed : ℚ) ≠ 0 := by exact_mod_cast throned.ne'
      rw [shares hk other, all]
      field_simp

def ownerReigned : ThroneTimeAttribution :=
  { perHotkeyEpochs := (Dict.empty.set "owner" 1).set "miner" 1, unattributedEpochs := 0 }

theorem ownerReigned_counts : ownerReigned.Counts where
  held := by
    intro hk n found
    simp only [ownerReigned, Dict.get?_set] at found
    split at found
    · cases found
      decide
    · split at found
      · cases found
        decide
      · cases found
  unheld := by decide
  window := by decide

theorem time_weighted_shares_owner_reigned :
    (buildTimeWeightedMapping "" ownerReigned (some "owner") (1 / 2)).values.sum = 1 :=
  (time_weighted_shares ownerReigned_counts (by decide) (by norm_num) (by norm_num)).2.2

/-- The owner's epoch goes to the miner. -/
theorem owner_reign_goes_to_the_miners :
    ¬ ∀ (envOwner : String) (a : ThroneTimeAttribution) (ownerHotkey : Option String)
        (minerFraction : ℚ), a.Counts → ownerName ownerHotkey ≠ "" → 0 ≤ minerFraction →
      minerFraction ≤ 1 → ∀ hk ≠ ownerName ownerHotkey,
      weightOf (buildTimeWeightedMapping envOwner a ownerHotkey minerFraction) hk =
        minerFraction * a.epochsOf hk / a.windowEpochs := by
  intro claim
  have share := claim "" ownerReigned (some "owner") (1 / 2) ownerReigned_counts (by decide)
    (by norm_num) (by norm_num) "miner" (by decide)
  revert share
  decide +kernel

end

end MinotaurSubnet.Epoch
