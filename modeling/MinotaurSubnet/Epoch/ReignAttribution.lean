import MinotaurSubnet.Harness.SubmissionMutators
import MinotaurSubnet.Library.DictSum

/-! # Throne time

The accumulator of `epoch/reign_attribution.py` samples the current champion and credits it
with the epochs since the last sample. No epoch of a tempo is lost or counted twice, whatever
the clock and the tempo index do.
-/

namespace MinotaurSubnet.Epoch

open Library Harness

structure ThroneTimeAttribution where
  perHotkeyEpochs : Dict String Int
  unattributedEpochs : Int

def ThroneTimeAttribution.windowEpochs (a : ThroneTimeAttribution) : Int :=
  a.perHotkeyEpochs.values.sum + a.unattributedEpochs

structure Sample where
  nowEpoch : Int
  tempoIndex : Int
  championHotkey : Option String
  maxGapEpochs : Option Int := none

structure ThroneTimeAccumulator where
  tempoIndex : Option Int := none
  cursorEpoch : Option Int := none
  epochs : Dict String Int := Dict.empty
  unattributed : Int := 0

namespace ThroneTimeAccumulator

/-- Credit `span` epochs, as far as the gap bound allows, and move the cursor. -/
def credit (acc : ThroneTimeAccumulator) (s : Sample) (span : Int) : ThroneTimeAccumulator :=
  let credited := match s.maxGapEpochs with
    | none => span
    | some most => min span (max 0 most)
  let gap := span - credited
  if isRealMinerHotkey s.championHotkey then
    let hk := stripText (s.championHotkey.getD "")
    { acc with
      epochs := acc.epochs.set hk ((acc.epochs.get? hk).getD 0 + credited)
      unattributed := acc.unattributed + gap
      cursorEpoch := some s.nowEpoch }
  else
    { acc with
      unattributed := acc.unattributed + credited + gap
      cursorEpoch := some s.nowEpoch }

def sample (acc : ThroneTimeAccumulator) (s : Sample) : ThroneTimeAccumulator :=
  if acc.tempoIndex ≠ some s.tempoIndex then
    { tempoIndex := some s.tempoIndex, cursorEpoch := some s.nowEpoch }
  else match acc.cursorEpoch with
    | none => { acc with cursorEpoch := some s.nowEpoch }
    | some cursor =>
      let span := s.nowEpoch - cursor
      if span ≤ 0 then acc else acc.credit s span

def settle (acc : ThroneTimeAccumulator) (minReignEpochs : Int) : ThroneTimeAttribution :=
  let floor := max 0 minReignEpochs
  let kept := if 0 < floor then acc.epochs.filter fun _ e => decide (floor ≤ e) else acc.epochs
  let dropped := acc.epochs.values.sum - kept.values.sum
  { perHotkeyEpochs := kept, unattributedEpochs := acc.unattributed + dropped }

variable {acc : ThroneTimeAccumulator}

def counted (acc : ThroneTimeAccumulator) : Int := acc.epochs.values.sum + acc.unattributed

theorem counted_start (tempo cursor : Option Int) :
    ({ tempoIndex := tempo, cursorEpoch := cursor } : ThroneTimeAccumulator).counted = 0 := rfl

theorem settle_windowEpochs (floor : Int) : (acc.settle floor).windowEpochs = acc.counted := by
  simp only [settle, ThroneTimeAttribution.windowEpochs, counted]
  omega

theorem settle_get? {floor hk n} (kept : (acc.settle floor).perHotkeyEpochs.get? hk = some n) :
    acc.epochs.get? hk = some n := by
  unfold settle at kept
  dsimp only at kept
  split at kept
  · exact Dict.get?_filter_some kept
  · exact kept

theorem credit_counted (s : Sample) (span : Int) :
    (acc.credit s span).counted = acc.counted + span := by
  unfold credit counted
  dsimp only
  split
  · dsimp only
    rw [Dict.sum_values_add]
    omega
  · dsimp only
    omega

theorem credit_tempoIndex (s : Sample) (span : Int) :
    (acc.credit s span).tempoIndex = acc.tempoIndex := by
  unfold credit
  dsimp only
  split <;> rfl

theorem credit_cursorEpoch (s : Sample) (span : Int) :
    (acc.credit s span).cursorEpoch = some s.nowEpoch := by
  unfold credit
  dsimp only
  split <;> rfl

theorem sample_same {s cursor} (same : acc.tempoIndex = some s.tempoIndex)
    (started : acc.cursorEpoch = some cursor) :
    ∃ cursor', (acc.sample s).tempoIndex = some s.tempoIndex ∧
      (acc.sample s).cursorEpoch = some cursor' ∧
      (acc.sample s).counted = acc.counted + (cursor' - cursor) := by
  unfold sample
  rw [if_neg (not_not.mpr same), started]
  dsimp only
  split
  · exact ⟨cursor, same, started, by omega⟩
  · refine ⟨s.nowEpoch, ?_, credit_cursorEpoch s _, credit_counted s _⟩
    rw [credit_tempoIndex, same]

theorem sample_other {s} (other : acc.tempoIndex ≠ some s.tempoIndex) :
    acc.sample s = { tempoIndex := some s.tempoIndex, cursorEpoch := some s.nowEpoch } := by
  unfold sample
  rw [if_pos other]

structure Tempo (samples : List Sample) (acc : ThroneTimeAccumulator) (before : List Sample)
    (first : Sample) (rest : List Sample) (cursor : Int) : Prop where
  splits : samples = before ++ first :: rest
  same : ∀ s ∈ rest, s.tempoIndex = first.tempoIndex
  begins : ∀ s ∈ before.getLast?, s.tempoIndex ≠ first.tempoIndex
  tempoIndex : acc.tempoIndex = some first.tempoIndex
  cursorEpoch : acc.cursorEpoch = some cursor
  counted : acc.counted = cursor - first.nowEpoch

theorem Tempo.sample {samples before rest first cursor}
    (tempo : Tempo samples acc before first rest cursor) (s : Sample) :
    ∃ before first rest cursor, Tempo (samples ++ [s]) (acc.sample s) before first rest cursor := by
  by_cases same : s.tempoIndex = first.tempoIndex
  · obtain ⟨cursor', kept, moved, counted⟩ :=
      sample_same (s := s) (tempo.tempoIndex.trans (congrArg some same.symm)) tempo.cursorEpoch
    refine ⟨before, first, rest ++ [s], cursor', ?_, ?_, tempo.begins, same ▸ kept, moved, ?_⟩
    · rw [tempo.splits, List.append_assoc, List.cons_append]
    · intro t member
      cases List.mem_append.mp member with
      | inl old => exact tempo.same t old
      | inr new => exact (List.mem_singleton.mp new) ▸ same
    · have before := tempo.counted
      omega
  · have other : acc.tempoIndex ≠ some s.tempoIndex := by
      rw [tempo.tempoIndex]
      exact fun eq => same (Option.some.inj eq).symm
    refine ⟨samples, s, [], s.nowEpoch, rfl, by simp, ?_, by rw [sample_other other],
      by rw [sample_other other], by rw [sample_other other, counted_start, sub_self]⟩
    · intro t last
      have within : t ∈ first :: rest := by
        rw [tempo.splits, List.getLast?_append_of_ne_nil _ (List.cons_ne_nil _ _)] at last
        exact List.mem_of_getLast? last
      cases List.mem_cons.mp within with
      | inl head => exact head ▸ Ne.symm same
      | inr tail => exact (tempo.same t tail) ▸ Ne.symm same

theorem exists_tempo {samples} (nonempty : samples ≠ []) :
    ∃ before first rest cursor,
      Tempo samples (samples.foldl ThroneTimeAccumulator.sample {}) before first rest cursor := by
  induction samples using List.reverseRecOn with
  | nil => exact absurd rfl nonempty
  | append_singleton samples s ih =>
    rw [List.foldl_append, List.foldl_cons, List.foldl_nil]
    cases samples with
    | nil =>
      have other : ({} : ThroneTimeAccumulator).tempoIndex ≠ some s.tempoIndex := by simp
      rw [List.foldl_nil, sample_other other]
      exact ⟨[], s, [], s.nowEpoch, rfl, by simp, by simp, rfl, rfl,
        by rw [counted_start, sub_self]⟩
    | cons t more =>
      obtain ⟨before, first, rest, cursor, tempo⟩ := ih (List.cons_ne_nil t more)
      exact tempo.sample s

def RealCounts (acc : ThroneTimeAccumulator) : Prop :=
  ∀ hk n, acc.epochs.get? hk = some n → 0 ≤ n ∧ isRealMinerHotkey (some hk) = true

theorem isRealMinerHotkey_strip (hotkey : Option String) :
    isRealMinerHotkey (some (stripText (hotkey.getD ""))) = isRealMinerHotkey hotkey := by
  simp [isRealMinerHotkey, stripText, strip_strip]

theorem RealCounts.credit (real : acc.RealCounts) (s : Sample) {span} (forward : 0 < span) :
    (acc.credit s span).RealCounts := by
  unfold ThroneTimeAccumulator.credit
  dsimp only
  split
  · next miner =>
    intro hk n counted
    rw [Dict.get?_set] at counted
    split at counted
    · next here =>
      cases counted
      subst here
      rw [isRealMinerHotkey_strip]
      have held : 0 ≤ (acc.epochs.get? (stripText (s.championHotkey.getD ""))).getD 0 := by
        cases found : acc.epochs.get? (stripText (s.championHotkey.getD "")) with
        | none => exact le_rfl
        | some n => exact (real _ n found).1
      refine ⟨?_, miner⟩
      cases s.maxGapEpochs with
      | none =>
        dsimp only
        omega
      | some most =>
        dsimp only
        omega
    · exact real hk n counted
  · exact real

theorem RealCounts.sample (real : acc.RealCounts) (s : Sample) : (acc.sample s).RealCounts := by
  unfold ThroneTimeAccumulator.sample
  split
  · intro hk n counted
    cases counted
  · split
    · exact real
    · dsimp only
      split
      · exact real
      · next forward => exact real.credit s (not_le.mp forward)

theorem realCounts_run (samples : List Sample) :
    (samples.foldl ThroneTimeAccumulator.sample {}).RealCounts := by
  induction samples using List.reverseRecOn with
  | nil =>
    intro hk n counted
    cases counted
  | append_singleton samples s ih =>
    rw [List.foldl_append]
    exact ih.sample s

end ThroneTimeAccumulator

open ThroneTimeAccumulator

/-- The window is what the cursor moved by since the tempo of the last sample began, under any
    floor, and only real miners are counted. -/
theorem throne_time_conserved (samples : List Sample) (floor : Int) :
    (samples = [] ∨ ∃ before first rest cursor, samples = before ++ first :: rest ∧
      (∀ s ∈ rest, s.tempoIndex = first.tempoIndex) ∧
      (∀ s ∈ before.getLast?, s.tempoIndex ≠ first.tempoIndex) ∧
      (samples.foldl sample {}).cursorEpoch = some cursor ∧
      ((samples.foldl sample {}).settle floor).windowEpochs = cursor - first.nowEpoch) ∧
    (∀ hk n, ((samples.foldl sample {}).settle floor).perHotkeyEpochs.get? hk = some n →
      0 ≤ n ∧ isRealMinerHotkey (some hk) = true) ∧
    ∀ floor', ((samples.foldl sample {}).settle floor').windowEpochs =
      ((samples.foldl sample {}).settle floor).windowEpochs := by
  refine ⟨?_, ?_, ?_⟩
  · by_cases none : samples = []
    · exact .inl none
    · obtain ⟨before, first, rest, cursor, tempo⟩ := exists_tempo none
      refine .inr ⟨before, first, rest, cursor, tempo.splits, tempo.same, tempo.begins,
        tempo.cursorEpoch, ?_⟩
      rw [settle_windowEpochs, tempo.counted]
  · exact fun hk n kept => realCounts_run samples hk n (settle_get? kept)
  · intro floor'
    rw [settle_windowEpochs, settle_windowEpochs]

end MinotaurSubnet.Epoch
