import ModalKeys.Proofs.Text.Lines
import ModalKeys.Proofs.Text.Words

/-!
# Runs of characters

A run is a stretch of characters that all pass a test. Its two ends are searched for in opposite directions,
and each is known by the characters on both sides of it.
-/

namespace ModalKeys.Text

variable {p : Char → Bool} {text : List Char} {i j : Nat}

/-- Up to the end of a run all characters pass. -/
theorem passes_of_lt_runEnd (first : i ≤ j) (before : j < runEnd p text i) :
    ∃ c, text[j]? = some c ∧ p c = true := by
  obtain ⟨k, rfl⟩ := Nat.exists_eq_add_of_le first
  have inside : k < ((text.drop i).takeWhile p).length := Nat.lt_of_add_lt_add_left before
  have here : text[i + k]? = ((text.drop i).takeWhile p)[k]? := by
    rw [← List.getElem?_drop, ← List.getElem?_append_left inside, List.takeWhile_append_dropWhile]
  rw [List.getElem?_eq_getElem inside] at here
  exact ⟨_, here, List.all_eq_true.mp List.all_takeWhile _ (List.getElem_mem inside)⟩

/-- A run ends at a character that fails, unless the text ends. -/
theorem fails_runEnd {c : Char} (stop : text[runEnd p text i]? = some c) : p c = false := by
  have head : ((text.drop i).dropWhile p).head? = some c := by
    rw [← drop_length_takeWhile, List.head?_drop, List.getElem?_drop]
    exact stop
  have stopped := List.head?_dropWhile_not p (text.drop i)
  rw [head] at stopped
  exact stopped

def runStart (p : Char → Bool) (text : List Char) (i : Nat) : Nat :=
  ((text.take i).reverse.dropWhile p).length

theorem runStart_le (p : Char → Bool) (text : List Char) (i : Nat) : runStart p text i ≤ min i text.length := by
  have kept := (List.dropWhile_sublist p (l := (text.take i).reverse)).length_le
  rwa [List.length_reverse, List.length_take] at kept

/-- What is left of the front of a text after going back is a front of the text. -/
theorem reverse_take_runStart (p : Char → Bool) (text : List Char) (i : Nat) :
    (text.take (runStart p text i)).reverse = (text.take i).reverse.dropWhile p := by
  have left := List.reverse_prefix.mpr (List.dropWhile_suffix p (l := (text.take i).reverse))
  rw [List.reverse_reverse] at left
  have front := List.prefix_iff_eq_take.mp (left.trans (List.take_prefix i text))
  rw [List.length_reverse] at front
  rw [runStart, ← front, List.reverse_reverse]

/-- From the start of a run on all characters pass. -/
theorem passes_of_runStart_le (first : runStart p text i ≤ j) (before : j < i) (inside : j < text.length) :
    ∃ c, text[j]? = some c ∧ p c = true := by
  have parts : text.take i = text.take (runStart p text i) ++ ((text.take i).reverse.takeWhile p).reverse := by
    have whole := List.takeWhile_append_dropWhile (p := p) (l := (text.take i).reverse)
    rw [← reverse_take_runStart] at whole
    have turned := congrArg List.reverse whole
    rw [List.reverse_append, List.reverse_reverse, List.reverse_reverse] at turned
    exact turned.symm
  have start := List.length_take_of_le (Nat.le_trans (runStart_le p text i) (Nat.min_le_right _ _))
  have here : (text.take i)[j]? = some text[j] := by
    rw [List.getElem?_take_of_lt before, List.getElem?_eq_getElem inside]
  rw [parts, List.getElem?_append_right (by rwa [start])] at here
  have listed := List.mem_reverse.mp (List.mem_of_getElem? here)
  exact ⟨_, List.getElem?_eq_getElem inside, List.all_eq_true.mp List.all_takeWhile _ listed⟩

/-- Before a run there is a character that fails, unless the text begins. -/
theorem fails_before_runStart {k : Nat} (start : runStart p text i = k + 1) :
    ∃ c, text[k]? = some c ∧ p c = false := by
  have within := runStart_le p text i
  have inside : k < text.length := by omega
  have stopped := List.head?_dropWhile_not p (text.take i).reverse
  rw [← reverse_take_runStart, start, List.take_succ_eq_append_getElem inside, List.reverse_append] at stopped
  exact ⟨_, List.getElem?_eq_getElem inside, stopped⟩

end ModalKeys.Text
