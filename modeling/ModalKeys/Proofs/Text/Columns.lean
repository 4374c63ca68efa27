import Mathlib.Logic.Function.Iterate
import ModalKeys.Proofs.Text.Runs

/-!
# Up and down

A step up or down stays within the text and keeps its column as far as the lines are long enough. Down from a
line, over and over, the shortest line on the way decides the column.
-/

namespace ModalKeys.Text

theorem lineUp_le_length (text : List Char) (pos : Nat) : lineUp text pos ≤ text.length := by
  have start := lineStart_le_length text pos
  unfold lineUp
  dsimp only
  split
  · exact Nat.zero_le _
  · omega

theorem lineDown_le_length (text : List Char) (pos : Nat) : lineDown text pos ≤ text.length := by
  unfold lineDown
  dsimp only
  split
  · exact lineEnd_le_length text pos
  · exact Nat.le_trans (Nat.min_le_right _ _) (lineEnd_le_length text _)

theorem lineEnd_length (text : List Char) : lineEnd text text.length = text.length := by
  rw [lineEnd, List.drop_length, Nat.min_self]
  rfl

/-- Only in an empty text does a step up lead to the end. -/
theorem length_eq_zero_of_lineUp {text : List Char} {pos : Nat} (last : lineUp text pos = text.length) :
    text.length = 0 := by
  have start := lineStart_le_length text pos
  unfold lineUp at last
  dsimp only at last
  split at last
  · exact last.symm
  · omega

theorem lineDown_length (text : List Char) : lineDown text text.length = text.length := by
  rw [lineDown, lineEnd_length]
  exact if_pos rfl

/-- The last character is on the last line, or it is the newline before an empty one. -/
theorem lineDown_pred (text : List Char) : lineDown text (text.length - 1) = text.length := by
  have ends := lineEnd_le_length text (text.length - 1)
  have later := le_lineEnd (Nat.sub_le text.length 1)
  rw [lineDown]
  dsimp only
  split
  · next last => exact last
  · next newline =>
      have next : lineEnd text (text.length - 1) + 1 = text.length := by omega
      rw [next, lineEnd_length]
      omega

theorem iterate_le_length {text : List Char} {step : Nat → Nat} (inside : ∀ pos, step pos ≤ text.length)
    {pos : Nat} (within : pos ≤ text.length) (count : Nat) : step^[count] pos ≤ text.length := by
  cases count with
  | zero => exact within
  | succ count =>
      rw [Function.iterate_succ_apply']
      exact inside _

variable {text : List Char} {pos start column : Nat}

theorem lineEnd_eq_runEnd (within : pos ≤ text.length) : lineEnd text pos = runEnd notNewline text pos := by
  rw [lineEnd, Nat.min_eq_left within]
  rfl

/-- One character further is on the same line, or behind a newline. -/
theorem lineStart_succ (inside : pos < text.length) :
    lineStart text (pos + 1) = if notNewline text[pos] then lineStart text pos else pos + 1 := by
  have taken : (text.take (pos + 1)).reverse = text[pos] :: (text.take pos).reverse := by
    rw [List.take_succ_eq_append_getElem inside, List.reverse_append]
    rfl
  rw [lineStart, taken]
  split
  · next passes => rw [List.dropWhile_cons_of_pos passes, lineStart]
  · next fails =>
      rw [List.dropWhile_cons_of_neg fails, List.length_cons, List.length_reverse,
        List.length_take_of_le (Nat.le_of_lt inside)]

def lineLength (text : List Char) (pos : Nat) : Nat := lineEnd text pos - pos

theorem lineLength_length (text : List Char) : lineLength text text.length = 0 := by
  rw [lineLength, lineEnd_length, Nat.sub_self]

theorem lineEnd_add (within : column ≤ lineLength text pos) : lineEnd text (pos + column) = lineEnd text pos := by
  induction column with
  | zero => rfl
  | succ column ih =>
      have same := ih (Nat.le_of_succ_le within)
      have inside : pos + column < lineEnd text (pos + column) := by
        rw [same]
        exact Nat.add_lt_of_lt_sub' within
      exact (lineEnd_succ inside).trans same

theorem lineStart_add (within : column ≤ lineLength text pos) :
    lineStart text (pos + column) = lineStart text pos := by
  induction column with
  | zero => rfl
  | succ column ih =>
      have inside : pos + column < lineEnd text pos := Nat.add_lt_of_lt_sub' within
      have here := Nat.lt_of_lt_of_le inside (lineEnd_le_length text pos)
      rw [lineEnd_eq_runEnd (Nat.le_trans (Nat.le_add_right _ _) (Nat.le_of_lt here))] at inside
      obtain ⟨c, found, passes⟩ := passes_of_lt_runEnd (Nat.le_add_right pos column) inside
      cases (List.getElem?_eq_getElem here).symm.trans found
      rw [← Nat.add_assoc, lineStart_succ here, if_pos passes, ih (Nat.le_of_succ_le within)]

/-- A line starts at the offset, or there are no more lines. -/
def StartsLine (text : List Char) (start : Nat) : Prop := lineStart text start = start ∨ start = text.length

namespace StartsLine

variable (starts : StartsLine text start)

include starts

theorem le_length : start ≤ text.length := by
  rcases starts with own | last
  · exact own ▸ lineStart_le_length text start
  · exact Nat.le_of_eq last

theorem nextLine : StartsLine text (nextLine text start) := by
  have within := starts.le_length
  rcases Nat.lt_or_eq_of_le (lineEnd_le_length text start) with newline | last
  · left
    have stop : text[runEnd notNewline text start]? = some text[lineEnd text start] := by
      rw [← lineEnd_eq_runEnd within, List.getElem?_eq_getElem newline]
    rw [Text.nextLine, Nat.min_eq_left newline, lineStart_succ newline, fails_runEnd stop]
    rfl
  · right
    rw [Text.nextLine, last]
    exact Nat.min_eq_right (Nat.le_succ _)

theorem lineAfter (count : Nat) : StartsLine text (lineAfter text start count) := by
  induction count generalizing start with
  | zero => exact starts
  | succ count ih => exact ih starts.nextLine

theorem le_lineAfter (count : Nat) : start ≤ Text.lineAfter text start count := by
  induction count generalizing start with
  | zero => exact Nat.le_refl start
  | succ count ih => exact Nat.le_trans (le_nextLine starts.le_length) (ih starts.nextLine)

/-- A step down from a column of a line leads to the same column of the next, or to its end. -/
theorem lineDown_add (within : column ≤ lineLength text start) :
    lineDown text (start + column) =
      Text.nextLine text start + min column (lineLength text (Text.nextLine text start)) := by
  rw [lineDown, lineEnd_add within]
  dsimp only
  split
  · next last =>
      have next : Text.nextLine text start = text.length := by
        rw [Text.nextLine, last]
        exact Nat.min_eq_right (Nat.le_succ _)
      rw [next, lineLength_length, Nat.min_zero, last, Nat.add_zero]
  · next newline =>
      have inside := Nat.lt_of_le_of_ne (lineEnd_le_length text start) newline
      have own : lineStart text start = start := by
        refine starts.resolve_right fun last => newline ?_
        rw [last, lineEnd_length]
      have next : Text.nextLine text start = lineEnd text start + 1 := Nat.min_eq_left inside
      have onward : lineEnd text start + 1 ≤ lineEnd text (lineEnd text start + 1) := le_lineEnd inside
      rw [lineStart_add within, own, Nat.add_sub_cancel_left, next, lineLength]
      omega

end StartsLine

/-- The column to which steps down lead from a column of the line that starts at `start`. -/
def columnAfter (text : List Char) (start column : Nat) : Nat → Nat
  | 0 => column
  | count + 1 =>
      let next := nextLine text start
      columnAfter text next (min column (lineLength text next)) count

theorem iterate_lineDown (starts : StartsLine text start) (within : column ≤ lineLength text start) (count : Nat) :
    (lineDown text)^[count] (start + column) =
      lineAfter text start count + columnAfter text start column count := by
  induction count generalizing start column with
  | zero => rfl
  | succ count ih =>
      rw [Function.iterate_succ_apply, starts.lineDown_add within]
      exact ih starts.nextLine (Nat.min_le_right _ _)

/-- No line on the way is shorter than the column to which the steps lead. -/
theorem le_columnAfter_iff {width count : Nat} :
    width ≤ columnAfter text start column count ↔
      width ≤ column ∧ ∀ i < count, width ≤ lineLength text (lineAfter text start (i + 1)) := by
  induction count generalizing start column with
  | zero => exact (and_iff_left nofun).symm
  | succ count ih =>
      rw [columnAfter, ih, Nat.le_min, Nat.forall_lt_succ_left, and_assoc]
      rfl

/-- From the end of a line, steps down lead to the end of the line that they reach exactly if no line before it
is shorter. -/
theorem columnAfter_lineLength_iff (text : List Char) (start count : Nat) :
    columnAfter text start (lineLength text start) count = lineLength text (lineAfter text start count) ↔
      ∀ i ≤ count, lineLength text (lineAfter text start count) ≤ lineLength text (lineAfter text start i) := by
  have bound : ∀ width, width ≤ columnAfter text start (lineLength text start) count ↔
      ∀ i ≤ count, width ≤ lineLength text (lineAfter text start i) := by
    intro width
    have first : (∀ i < count + 1, width ≤ lineLength text (lineAfter text start i)) ↔ _ := Nat.forall_lt_succ_left
    rw [le_columnAfter_iff]
    refine first.symm.trans ?_
    exact forall_congr' fun i => imp_congr_left Nat.lt_succ_iff
  rw [← bound]
  exact ⟨fun same => Nat.le_of_eq same.symm,
    Nat.le_antisymm ((bound _).mp (Nat.le_refl _) count (Nat.le_refl count))⟩

end ModalKeys.Text
