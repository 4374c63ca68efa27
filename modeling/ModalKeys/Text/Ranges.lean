/-!
# Code point ranges

A character property is a sorted list of disjoint closed ranges. Membership stops at the first range
that begins beyond the code point, so an early code point is decided after a few comparisons.
-/

namespace ModalKeys.Text

abbrev Ranges := List (Nat × Nat)

def Ranges.has : Ranges → Nat → Bool
  | [], _ => false
  | (first, last) :: rest, code =>
      if code < first then false
      else if code ≤ last then true
      else Ranges.has rest code

theorem Ranges.has_cons (first last : Nat) (rest : Ranges) (code : Nat) :
    Ranges.has ((first, last) :: rest) code =
      (decide (first ≤ code) && (decide (code ≤ last) || Ranges.has rest code)) := by
  rw [Ranges.has]
  split
  · next before => rw [decide_eq_false (Nat.not_le.mpr before), Bool.false_and]
  · next after =>
      rw [decide_eq_true (Nat.not_lt.mp after), Bool.true_and]
      split
      · next inside => rw [decide_eq_true inside, Bool.true_or]
      · next outside => rw [decide_eq_false outside, Bool.false_or]

end ModalKeys.Text
