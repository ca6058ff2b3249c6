import Mathlib.Data.List.Pairwise

/-!
# Counting in a sliding window

Times come in order. Those in the window behind a time are the recent ones. If a time is added only
while fewer than a limit are recent, no window of that width ever has more than the limit.
-/

namespace SlidingWindows

variable {width limit now later : Nat} {times : List Nat}

def recent (width now : Nat) (times : List Nat) : List Nat :=
  times.filter fun time => now < time + width

/-- No window has more times than the limit. -/
def Within (width limit : Nat) (times : List Nat) : Prop :=
  ∀ start, times.countP (fun time => start ≤ time && time < start + width) ≤ limit

/-- What is recent later was so before. -/
theorem recent_recent (order : now ≤ later) :
    recent width later (recent width now times) = recent width later times := by
  rw [recent, recent, List.filter_filter]
  apply List.filter_congr
  intro time _
  rw [Bool.and_eq_left_iff_imp, decide_eq_true_eq, decide_eq_true_eq]
  intro inside
  omega

/-- From times in order those that are not recent are taken off the front. -/
theorem dropWhile_eq_recent (ordered : times.Pairwise (· ≤ ·)) :
    times.dropWhile (fun time => time + width ≤ now) = recent width now times := by
  induction times with
  | nil => rfl
  | cons time times ih =>
    obtain ⟨least, rest⟩ := List.pairwise_cons.mp ordered
    by_cases old : time + width ≤ now
    · rw [List.dropWhile_cons_of_pos (by simpa using old), ih rest, recent, recent,
        List.filter_cons_of_neg (by simpa using old)]
    · have all : recent width now (time :: times) = time :: times := by
        apply List.filter_eq_self.mpr
        intro other member
        rw [decide_eq_true_eq]
        rcases List.mem_cons.mp member with rfl | among
        · exact Nat.lt_of_not_le old
        · have behind := least other among
          omega
      rw [all, List.dropWhile_cons_of_neg (by simpa using old)]

theorem within_nil : Within width limit [] := fun _ => Nat.zero_le _

/-- A time is added behind all others, while fewer than the limit are recent. -/
theorem Within.concat (within : Within width limit times)
    (room : (recent width now times).length < limit) : Within width limit (times ++ [now]) := by
  intro start
  have before := within start
  rw [List.countP_append, List.countP_singleton]
  split
  · rename_i inside
    rw [Bool.and_eq_true, decide_eq_true_eq, decide_eq_true_eq] at inside
    -- what is in a window with this time is recent now
    have counted : times.countP (fun time => start ≤ time && time < start + width) ≤
        times.countP fun time => now < time + width := by
      apply List.countP_mono_left
      intro time _ among
      rw [Bool.and_eq_true, decide_eq_true_eq, decide_eq_true_eq] at among
      rw [decide_eq_true_eq]
      omega
    rw [recent, ← List.countP_eq_length_filter] at room
    omega
  · exact before

end SlidingWindows
