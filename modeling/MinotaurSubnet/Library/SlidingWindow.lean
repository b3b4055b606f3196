import Mathlib.Algebra.Order.Group.Defs
import Mathlib.Algebra.Order.Group.Unbundled.Basic
import Mathlib.Data.List.Basic

/-! # A window that slides

A list of times that drops what no longer counts before it is asked for its length, against
the whole log of the times.
-/

namespace MinotaurSubnet.Library

variable {α : Type*} [AddCommGroup α] [LinearOrder α] [IsOrderedAddMonoid α]

/-- The times of a log in the window that ends at `now`. -/
def window (width : α) (log : List α) (now : α) : List α :=
  log.filter fun t => now - width ≤ t ∧ t ≤ now

/-- What is kept of the log of a clock: all from some time on that is out of the window. -/
structure Windowed (width : α) (limit : Nat) (clock : α) (kept log : List α) : Prop where
  ordered : log.Pairwise (· ≤ ·)
  past : ∀ t ∈ log, t ≤ clock
  recent : ∃ cut ≤ clock - width, kept = log.filter (cut ≤ ·)
  bounded : ∀ now, (window width log now).length ≤ limit

theorem dropWhile_lt {β : Type*} [LinearOrder β] {log : List β} (ordered : log.Pairwise (· ≤ ·))
    (cut : β) :
    log.dropWhile (· < cut) = log.filter (cut ≤ ·) := by
  induction log with
  | nil => rfl
  | cons t rest ih =>
    rw [List.pairwise_cons] at ordered
    by_cases old : t < cut
    · simp [old, not_le.mpr old, ih ordered.2]
    · have young := not_lt.mp old
      have all : rest.filter (cut ≤ ·) = rest :=
        List.filter_eq_self.mpr fun u inside => by simpa using young.trans (ordered.1 u inside)
      simp [old, young, all]

variable {width clock now : α} {limit : Nat} {kept log : List α}

namespace Windowed

theorem window_eq (windowed : Windowed width limit clock kept log) (later : clock ≤ now) :
    window width log now = log.filter (now - width ≤ ·) :=
  List.filter_congr fun t inside => by simp [(windowed.past t inside).trans later]

theorem dropWhile_eq (windowed : Windowed width limit clock kept log) (later : clock ≤ now) :
    kept.dropWhile (· < now - width) = window width log now := by
  obtain ⟨cut, early, rfl⟩ := windowed.recent
  rw [dropWhile_lt (windowed.ordered.filter _), List.filter_filter, windowed.window_eq later]
  refine List.filter_congr fun t _ => ?_
  have counts : now - width ≤ t → cut ≤ t := (early.trans (sub_le_sub_right later width)).trans
  grind

theorem onward (windowed : Windowed width limit clock kept log) (later : clock ≤ now) :
    Windowed width limit now kept log where
  ordered := windowed.ordered
  past t inside := (windowed.past t inside).trans later
  recent := by
    obtain ⟨cut, early, same⟩ := windowed.recent
    exact ⟨cut, early.trans (sub_le_sub_right later width), same⟩
  bounded := windowed.bounded

theorem purged (windowed : Windowed width limit now kept log) :
    Windowed width limit now (window width log now) log :=
  { windowed with recent := ⟨now - width, le_rfl, windowed.window_eq le_rfl⟩ }

/-- A time is noted at the end of the window when it has room. -/
theorem noted (windowed : Windowed width limit now kept log) (wide : 0 ≤ width)
    (room : (window width log now).length < limit) :
    Windowed width limit now (window width log now ++ [now]) (log ++ [now]) where
  ordered := List.pairwise_append.mpr ⟨windowed.ordered, by simp, by simpa using windowed.past⟩
  past t inside := by
    rcases List.mem_append.mp inside with old | new
    · exact windowed.past t old
    · exact (List.mem_singleton.mp new).le
  recent := ⟨now - width, le_rfl, by simp [windowed.window_eq le_rfl, wide]⟩
  bounded t := by
    by_cases counts : now ≤ t
    · have fewer : (window width log t).length ≤ (window width log now).length := by
        rw [windowed.window_eq le_rfl, windowed.window_eq counts]
        refine (List.monotone_filter_right _ fun u inside => ?_).length_le
        simpa using (sub_le_sub_right counts width).trans (by simpa using inside)
      rw [window, List.filter_append, List.length_append]
      have := List.length_filter_le (fun u => decide (t - width ≤ u ∧ u ≤ t)) [now]
      rw [window] at fewer
      simp only [List.length_singleton] at this
      omega
    · simpa [window, counts] using windowed.bounded t

end Windowed

end MinotaurSubnet.Library
