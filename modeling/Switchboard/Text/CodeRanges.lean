/-!
# Sets of characters as ranges

A set of characters is a table of ranges of code points. The ranges stand in ascending order, so a
look-up may stop at the first one that starts above the character; `has_iff` says that it misses
none by this.
-/

namespace Switchboard.Text

/-- Ranges of code points, each given by its first and its last. -/
abbrev CodeRanges := List (Nat × Nat)

namespace CodeRanges

def has : CodeRanges → Nat → Bool
  | [], _ => false
  | (first, last) :: rest, n => if n < first then false else n ≤ last || has rest n

/-- No range is empty, and each starts above the one before it, the first at `least` or above. -/
def isAscending (least : Nat) : CodeRanges → Bool
  | [] => true
  | (first, last) :: rest => least ≤ first && first ≤ last && isAscending (last + 1) rest

theorem least_le_of_mem {ranges : CodeRanges} {least : Nat} (h : ranges.isAscending least = true)
    {range : Nat × Nat} (mem : range ∈ ranges) : least ≤ range.1 := by
  induction ranges generalizing least with
  | nil => cases mem
  | cons head rest ih =>
    simp only [isAscending, Bool.and_eq_true, decide_eq_true_eq] at h
    cases mem with
    | head => exact h.1.1
    | tail _ mem => have := ih h.2 mem; omega

theorem has_iff {ranges : CodeRanges} {least : Nat} (h : ranges.isAscending least = true)
    (n : Nat) :
    ranges.has n = true ↔ ∃ range ∈ ranges, range.1 ≤ n ∧ n ≤ range.2 := by
  induction ranges generalizing least with
  | nil => simp [has]
  | cons head rest ih =>
    simp only [isAscending, Bool.and_eq_true, decide_eq_true_eq] at h
    simp only [has, List.mem_cons, exists_eq_or_imp]
    split
    · next low =>
      have none : ¬∃ range ∈ rest, range.1 ≤ n ∧ n ≤ range.2 := fun ⟨range, mem, le, _⟩ => by
        have := least_le_of_mem h.2 mem; omega
      simp only [Bool.false_eq_true, false_iff, not_or]
      exact ⟨by omega, none⟩
    · next low =>
      rw [Bool.or_eq_true, decide_eq_true_eq, ih h.2]
      exact or_congr_left ⟨fun le => ⟨by omega, le⟩, And.right⟩

end CodeRanges

end Switchboard.Text
