import Mathlib.Data.List.Basic
import Mathlib.Data.Nat.Digits.Defs
import ModalKeys.Proofs.Command.Grammar

/-!
# The value of a count

The digits in front of a command are added up one after another, and each step is held at the largest number of
64 bits. Holding every step there comes to the same as holding the whole number there.
-/

namespace ModalKeys

def leadingValue (keys : List String) : Nat :=
  Nat.ofDigits 10 ((keys.takeWhile (· ∈ digitKeys)).map fun key => digitKeys.idxOf key).reverse

theorem appendDigit_min (count digit : Nat) :
    appendDigit (min count countLimit) digit = min (10 * count + digit) countLimit := by
  unfold appendDigit countLimit
  omega

theorem foldl_appendDigit (digits : List Nat) (count : Nat) :
    digits.foldl appendDigit (min count countLimit) =
      min (digits.foldl (fun value digit => 10 * value + digit) count) countLimit := by
  induction digits generalizing count with
  | nil => rfl
  | cons digit digits ih => rw [List.foldl_cons, appendDigit_min, ih, List.foldl_cons]

theorem ofDigits_reverse (digits : List Nat) :
    Nat.ofDigits 10 digits.reverse = digits.foldl (fun value digit => 10 * value + digit) 0 := by
  rw [Nat.ofDigits_eq_foldr, List.foldr_reverse]
  simp only [Nat.cast_id, Nat.add_comm]

theorem digitValue?_of_mem {key : String} (decimal : key ∈ digitKeys) :
    digitValue? key = some (digitKeys.idxOf key) := by
  have values : ∀ key ∈ digitKeys, digitValue? key = some (digitKeys.idxOf key) := by decide
  exact values key decimal

theorem filterMap_digitValue? (keys : List String) :
    (keys.takeWhile isDigitKey).filterMap digitValue? =
      (keys.takeWhile (· ∈ digitKeys)).map fun key => digitKeys.idxOf key := by
  have same : isDigitKey = fun key => decide (key ∈ digitKeys) := by
    funext key
    rw [Bool.eq_iff_iff, isDigitKey_iff, decide_eq_true_iff]
  rw [same, ← List.filterMap_eq_map]
  refine List.filterMap_congr fun key listed => ?_
  exact digitValue?_of_mem (of_decide_eq_true (List.all_eq_true.mp List.all_takeWhile key listed))

theorem leadingCount?_eq (keys : List String) :
    leadingCount? keys =
      if leadingValue keys = 0 then none else some (min (leadingValue keys) countLimit) := by
  have value := foldl_appendDigit ((keys.takeWhile isDigitKey).filterMap digitValue?) 0
  rw [Nat.zero_min, ← ofDigits_reverse, filterMap_digitValue?] at value
  have zero : min (leadingValue keys) countLimit = 0 ↔ leadingValue keys = 0 := by
    rw [Nat.min_eq_zero_iff]
    exact or_iff_left (by decide)
  rw [leadingCount?, filterMap_digitValue?, value]
  exact if_congr zero rfl rfl

namespace CommandReader

/-- The digits in front of a command are its count, as far as the largest count allows it. No digits, or only
zeros, count once. -/
theorem count_eq_clamped_value (largest : UInt64) (keys : List String) :
    (leadingCount? keys =
        if leadingValue keys = 0 then none else some (min (leadingValue keys) (2 ^ 64 - 1))) ∧
      ∀ counted, (CommandReader.upTo largest.toNat).read keys = .complete counted ↔
        Command.Spelled keys counted.command ∧
          counted.count =
            if leadingValue keys = 0 then 1 else min (leadingValue keys) (max largest.toNat 1) := by
  refine ⟨leadingCount?_eq keys, fun counted => ?_⟩
  have fits : largest.toNat ≤ countLimit := Nat.le_of_lt_succ largest.toNat_lt
  have clamped : max (min ((leadingCount? keys).getD 1) (max largest.toNat 1)) 1 =
      if leadingValue keys = 0 then 1 else min (leadingValue keys) (max largest.toNat 1) := by
    rw [leadingCount?_eq]
    by_cases zero : leadingValue keys = 0
    · rw [if_pos zero, if_pos zero, Option.getD_none]
      omega
    · rw [if_neg zero, if_neg zero, Option.getD_some]
      omega
  rw [read_eq_complete, ← clamped]
  refine and_congr_right fun _ => ⟨fun counts => ?_, fun counts => ?_⟩
  · exact (congrArg Counted.count counts).trans (counted.command.count_times _)
  · obtain ⟨command, count, positive⟩ := counted
    cases counts
    rfl

example : (upTo 50).read ("0099999999999999999999999l".toList.map String.singleton) =
    .complete ⟨.motion .right, 50, by decide⟩ := by decide +kernel

end CommandReader

end ModalKeys
