import ModalKeys.Text.Line

/-!
# A text as the list of its lines

A text is split at its newlines. A line begins behind the lines before it, each with its newline, and behind a
line there are those after it, each with a newline in front.
-/

namespace ModalKeys.Text

theorem splitOn_cons (c : Char) (rest : List Char) :
    (c :: rest).splitOn '\n' =
      if c = '\n' then [] :: rest.splitOn '\n' else (rest.splitOn '\n').modifyHead (List.cons c) := by
  have split := List.splitOnP_cons_eq_if_modifyHead (p := (· == '\n')) c rest
  simp only [beq_iff_eq] at split
  exact split

theorem lines_eq_splitOn (text : List Char) : lines text = text.splitOn '\n' := by
  induction text with
  | nil => rfl
  | cons c rest ih =>
      rw [lines, splitOn_cons, ih]
      cases parts : rest.splitOn '\n' with
      | nil => exact absurd parts (List.splitOn_ne_nil _ _)
      | cons line others => rfl

theorem lines_ne_nil (text : List Char) : lines text ≠ [] := by
  rw [lines_eq_splitOn]
  exact List.splitOn_ne_nil _ _

section

variable {α : Type} (separator : List α)

theorem intercalate_cons (first : List α) (parts : List (List α)) :
    separator.intercalate (first :: parts) = first ++ parts.flatMap (separator ++ ·) := by
  induction parts generalizing first with
  | nil => rw [List.intercalate_singleton, List.flatMap_nil, List.append_nil]
  | cons second parts ih =>
      rw [List.intercalate_cons_cons, ih, List.flatMap_cons, List.append_assoc, List.append_assoc]

theorem intercalate_eq_around {parts : List (List α)} {k : Nat} {part : List α} (found : parts[k]? = some part) :
    separator.intercalate parts =
      (parts.take k).flatMap (· ++ separator) ++ (part ++ (parts.drop (k + 1)).flatMap (separator ++ ·)) := by
  induction parts generalizing k with
  | nil => cases found
  | cons first parts ih =>
      cases k with
      | zero =>
          cases found
          exact intercalate_cons separator part parts
      | succ k =>
          have later : parts ≠ [] := List.ne_nil_of_mem (List.mem_of_getElem? found)
          rw [List.intercalate_cons_of_ne_nil later, ih found, List.take_succ_cons, List.flatMap_cons,
            List.drop_succ_cons, List.append_assoc _ _ (part ++ _)]

end

/-- The offset at which a line begins. The first line is line zero. -/
def lineOffset (text : List Char) (k : Nat) : Nat := (((lines text).take k).flatMap (· ++ ['\n'])).length

/-- A text is the lines before one of its lines, this line, and the others after their newlines. -/
theorem eq_around_line {text line : List Char} {k : Nat} (found : (lines text)[k]? = some line) :
    text = ((lines text).take k).flatMap (· ++ ['\n']) ++
      (line ++ ((lines text).drop (k + 1)).flatMap ('\n' :: ·)) := by
  have around := intercalate_eq_around ['\n'] found
  rw [lines_eq_splitOn, List.intercalate_splitOn] at around
  rw [lines_eq_splitOn]
  exact around

/-- From the start of a line on there is this line, and the others after their newlines. -/
theorem drop_lineOffset {text line : List Char} {k : Nat} (found : (lines text)[k]? = some line) :
    text.drop (lineOffset text k) = line ++ ((lines text).drop (k + 1)).flatMap ('\n' :: ·) :=
  (congrArg (List.drop _) (eq_around_line found)).trans List.drop_left

end ModalKeys.Text
