import ModalKeys.Proofs.Text.Columns
import ModalKeys.Proofs.Text.LineList

/-!
# Rows and columns

Each offset of a text lies on one of its lines, at one column. A step up or down changes the row by one and keeps
the column, unless the line that it leads to is shorter.
-/

namespace ModalKeys.Text

variable {text line : List Char} {row column pos : Nat}

theorem not_mem_of_mem_lines (listed : line ∈ lines text) : '\n' ∉ line := by
  induction text generalizing line with
  | nil =>
      cases List.mem_singleton.mp listed
      exact List.not_mem_nil
  | cons c rest ih =>
      rw [lines] at listed
      split at listed
      · rcases List.mem_cons.mp listed with rfl | later
        · exact List.not_mem_nil
        · exact ih later
      · next inside =>
          cases parts : lines rest with
          | nil => exact absurd parts (lines_ne_nil rest)
          | cons first others =>
              rw [parts] at listed ih
              rcases List.mem_cons.mp listed with rfl | later
              · rw [List.mem_cons, not_or]
                exact ⟨Ne.symm inside, ih List.mem_cons_self⟩
              · exact ih (List.mem_cons_of_mem first later)

theorem wholeLines_flatMap (parts : List (List Char)) : WholeLines (parts.flatMap (· ++ ['\n'])) := by
  rcases List.eq_nil_or_concat parts with rfl | ⟨others, last, rfl⟩
  · exact .inl rfl
  · refine .inr ⟨others.flatMap (· ++ ['\n']) ++ last, ?_⟩
    rw [List.concat_eq_append, List.flatMap_append, List.flatMap_singleton, List.append_assoc]

theorem lineOffset_zero (text : List Char) : lineOffset text 0 = 0 := rfl

/-- A line begins behind the one before it and the newline between them. -/
theorem lineOffset_succ (found : (lines text)[row]? = some line) :
    lineOffset text (row + 1) = lineOffset text row + line.length + 1 := by
  rw [lineOffset, List.take_add_one, found, List.flatMap_append, List.length_append, lineOffset, Nat.add_assoc]
  simp

theorem lineOffset_mono (text : List Char) {first second : Nat} (before : first ≤ second) :
    lineOffset text first ≤ lineOffset text second := by
  obtain ⟨more, rfl⟩ := Nat.exists_eq_add_of_le before
  rw [lineOffset, lineOffset, List.take_add, List.flatMap_append, List.length_append]
  exact Nat.le_add_right _ _

theorem length_eq_around_line (found : (lines text)[row]? = some line) :
    text.length =
      lineOffset text row + (line.length + (((lines text).drop (row + 1)).flatMap ('\n' :: ·)).length) := by
  have length := congrArg List.length (eq_around_line found)
  rw [List.length_append, List.length_append] at length
  exact length

theorem lineOffset_add_length_le (found : (lines text)[row]? = some line) :
    lineOffset text row + line.length ≤ text.length := by
  rw [length_eq_around_line found, ← Nat.add_assoc]
  exact Nat.le_add_right _ _

/-- The last line ends where the text does. -/
theorem lineOffset_add_length_of_last (found : (lines text)[row]? = some line)
    (last : (lines text)[row + 1]? = none) : lineOffset text row + line.length = text.length := by
  rw [length_eq_around_line found, List.drop_eq_nil_of_le (List.getElem?_eq_none_iff.mp last)]
  rfl

theorem lineStart_lineOffset (found : (lines text)[row]? = some line) :
    lineStart text (lineOffset text row) = lineOffset text row := by
  have start := lineStart_length (wholeLines_flatMap ((lines text).take row))
    (line ++ ((lines text).drop (row + 1)).flatMap ('\n' :: ·))
  rw [← eq_around_line found] at start
  exact start

/-- From its start, a line ends where its characters do. -/
theorem lineEnd_lineOffset (found : (lines text)[row]? = some line) :
    lineEnd text (lineOffset text row) = lineOffset text row + line.length := by
  have within : lineOffset text row ≤ text.length :=
    Nat.le_trans (Nat.le_add_right _ _) (lineOffset_add_length_le found)
  have unbroken : ∀ c ∈ line, notNewline c = true := by
    intro c listed
    refine notNewline_iff.mpr fun newline => ?_
    exact not_mem_of_mem_lines (List.mem_of_getElem? found) (newline ▸ listed)
  have stops : ((((lines text).drop (row + 1)).flatMap ('\n' :: ·)).takeWhile notNewline) = [] := by
    cases (lines text).drop (row + 1) with
    | nil => rfl
    | cons next others => rfl
  rw [lineEnd, Nat.min_eq_left within, drop_lineOffset found, List.takeWhile_append_of_pos unbroken, stops,
    List.append_nil]

theorem lineLength_lineOffset (found : (lines text)[row]? = some line) :
    lineLength text (lineOffset text row) = line.length := by
  rw [lineLength, lineEnd_lineOffset found, Nat.add_sub_cancel_left]

theorem nextLine_lineOffset {next : List Char} (found : (lines text)[row]? = some line)
    (below : (lines text)[row + 1]? = some next) : nextLine text (lineOffset text row) = lineOffset text (row + 1) := by
  have inside := lineOffset_add_length_le below
  rw [nextLine, lineEnd_lineOffset found, ← lineOffset_succ found]
  exact Nat.min_eq_left (Nat.le_trans (Nat.le_add_right _ _) inside)

theorem nextLine_lineOffset_of_last (found : (lines text)[row]? = some line)
    (last : (lines text)[row + 1]? = none) : nextLine text (lineOffset text row) = text.length := by
  rw [nextLine, lineEnd_lineOffset found, lineOffset_add_length_of_last found last]
  exact Nat.min_eq_right (Nat.le_succ _)

/-! ## The place of an offset -/

/-- The offset is at a column of a line, counted from zero as the lines are. Behind its last character a line has
one more column. -/
structure LiesAt (text : List Char) (pos row column : Nat) : Prop where
  onLine : ∃ line ∈ (lines text)[row]?, column ≤ line.length
  offset : pos = lineOffset text row + column

instance (text : List Char) (pos row column : Nat) : Decidable (LiesAt text pos row column) :=
  decidable_of_iff ((∃ line ∈ (lines text)[row]?, column ≤ line.length) ∧ pos = lineOffset text row + column)
    ⟨fun ⟨onLine, offset⟩ => ⟨onLine, offset⟩, fun place => ⟨place.onLine, place.offset⟩⟩

/-- An offset before a line, or before where one more would begin, lies on a line above. -/
theorem exists_liesAt_of_lt {count : Nat} (inside : count ≤ (lines text).length)
    (before : pos < lineOffset text count) : ∃ row column, LiesAt text pos row column := by
  induction count with
  | zero => exact absurd before (Nat.not_lt_zero pos)
  | succ count ih =>
      by_cases above : pos < lineOffset text count
      · exact ih (Nat.le_of_succ_le inside) above
      · have found := List.getElem?_eq_getElem inside
        rw [lineOffset_succ found] at before
        exact ⟨count, pos - lineOffset text count, ⟨_, found, by omega⟩, by omega⟩

theorem exists_liesAt (within : pos ≤ text.length) : ∃ row column, LiesAt text pos row column := by
  have positive := List.length_pos_iff.mpr (lines_ne_nil text)
  obtain ⟨last, count⟩ := Nat.exists_eq_add_one.mpr positive
  have found : (lines text)[last]? = some (lines text)[last] := List.getElem?_eq_getElem _
  have beyond : (lines text)[last + 1]? = none := List.getElem?_eq_none (Nat.le_of_eq count)
  refine exists_liesAt_of_lt (Nat.le_of_eq count.symm) ?_
  rw [lineOffset_succ found, lineOffset_add_length_of_last found beyond]
  exact Nat.lt_succ_of_le within

namespace LiesAt

theorem lt_lineOffset_succ (place : LiesAt text pos row column) : pos < lineOffset text (row + 1) := by
  obtain ⟨line, found, within⟩ := place.onLine
  rw [place.offset, lineOffset_succ found]
  omega

theorem row_le {row' column' : Nat} (place : LiesAt text pos row column) (other : LiesAt text pos row' column') :
    row ≤ row' := by
  refine Nat.le_of_not_lt fun later => ?_
  have below : lineOffset text (row' + 1) ≤ lineOffset text row := lineOffset_mono text later
  have start := place.offset
  have stop := other.lt_lineOffset_succ
  omega

theorem unique {row' column' : Nat} (place : LiesAt text pos row column) (other : LiesAt text pos row' column') :
    row' = row ∧ column' = column := by
  cases Nat.le_antisymm (other.row_le place) (place.row_le other)
  exact ⟨rfl, Nat.add_left_cancel (other.offset.symm.trans place.offset)⟩

theorem lineStart_eq (place : LiesAt text pos row column) : lineStart text pos = lineOffset text row := by
  obtain ⟨line, found, within⟩ := place.onLine
  rw [← lineLength_lineOffset found] at within
  rw [place.offset, lineStart_add within]
  exact lineStart_lineOffset found

/-- A step down leads to the line below, no further than its end. -/
theorem lineDown {below : List Char} (place : LiesAt text pos row column) (next : (lines text)[row + 1]? = some below) :
    LiesAt text (Text.lineDown text pos) (row + 1) (min column below.length) := by
  obtain ⟨line, found, within⟩ := place.onLine
  refine ⟨⟨below, next, Nat.min_le_right _ _⟩, ?_⟩
  have starts : StartsLine text (lineOffset text row) := .inl (lineStart_lineOffset found)
  rw [← lineLength_lineOffset found] at within
  rw [place.offset, starts.lineDown_add within, nextLine_lineOffset found next, lineLength_lineOffset next]

theorem lineDown_of_last (place : LiesAt text pos row column) (last : (lines text)[row + 1]? = none) :
    Text.lineDown text pos = text.length := by
  obtain ⟨line, found, within⟩ := place.onLine
  have starts : StartsLine text (lineOffset text row) := .inl (lineStart_lineOffset found)
  rw [← lineLength_lineOffset found] at within
  rw [place.offset, starts.lineDown_add within, nextLine_lineOffset_of_last found last, lineLength_length,
    Nat.min_zero, Nat.add_zero]

/-- A step up leads to the line above, no further than its end. -/
theorem lineUp {above : List Char} (place : LiesAt text pos (row + 1) column)
    (previous : (lines text)[row]? = some above) :
    LiesAt text (Text.lineUp text pos) row (min column above.length) := by
  have start := lineOffset_succ previous
  have stop : LiesAt text (lineOffset text (row + 1) - 1) row above.length :=
    ⟨⟨above, previous, Nat.le_refl _⟩, by rw [start, Nat.add_sub_cancel]⟩
  refine ⟨⟨above, previous, Nat.min_le_right _ _⟩, ?_⟩
  have offset := place.offset
  unfold Text.lineUp
  dsimp only
  rw [place.lineStart_eq, stop.lineStart_eq, if_neg (by omega)]
  omega

theorem lineUp_of_first (place : LiesAt text pos 0 column) : Text.lineUp text pos = 0 := by
  unfold Text.lineUp
  exact if_pos (place.lineStart_eq.trans (lineOffset_zero text))

/-- Down and up again leads back where the line below is long enough. -/
theorem lineUp_lineDown {below : List Char} (place : LiesAt text pos row column)
    (next : (lines text)[row + 1]? = some below) (wide : column ≤ below.length) :
    Text.lineUp text (Text.lineDown text pos) = pos := by
  obtain ⟨line, found, within⟩ := place.onLine
  have back := ((place.lineDown next).lineUp found).offset
  rw [Nat.min_eq_left wide, Nat.min_eq_left within, ← place.offset] at back
  exact back

/-- Up and down again leads back where the line above is long enough. -/
theorem lineDown_lineUp {above : List Char} (place : LiesAt text pos (row + 1) column)
    (previous : (lines text)[row]? = some above) (wide : column ≤ above.length) :
    Text.lineDown text (Text.lineUp text pos) = pos := by
  obtain ⟨line, found, within⟩ := place.onLine
  have back := ((place.lineUp previous).lineDown found).offset
  rw [Nat.min_eq_left wide, Nat.min_eq_left within, ← place.offset] at back
  exact back

end LiesAt

/-- Each offset of a text has one place. Steps up and down follow the list of lines and keep the column as far as the
line that they lead to is long enough; if it is, the step back undoes them. -/
theorem vertical_moves_follow_lines (within : pos ≤ text.length) :
    ∃ row column, LiesAt text pos row column ∧
      (∀ row' column', LiesAt text pos row' column' → row' = row ∧ column' = column) ∧
      (match (lines text)[row + 1]? with
        | some below => LiesAt text (lineDown text pos) (row + 1) (min column below.length)
        | none => lineDown text pos = text.length) ∧
      (match row with
        | 0 => lineUp text pos = 0
        | previous + 1 => ∃ above, (lines text)[previous]? = some above ∧
            LiesAt text (lineUp text pos) previous (min column above.length)) ∧
      (∀ below, (lines text)[row + 1]? = some below → column ≤ below.length →
        lineUp text (lineDown text pos) = pos) ∧
      (∀ previous above, row = previous + 1 → (lines text)[previous]? = some above → column ≤ above.length →
        lineDown text (lineUp text pos) = pos) := by
  obtain ⟨row, column, place⟩ := exists_liesAt within
  refine ⟨row, column, place, fun _ _ => place.unique, ?_, ?_, fun _ => place.lineUp_lineDown, ?_⟩
  · cases next : (lines text)[row + 1]? with
    | some below => exact place.lineDown next
    | none => exact place.lineDown_of_last next
  · cases row with
    | zero => exact place.lineUp_of_first
    | succ previous =>
        obtain ⟨line, found, -⟩ := place.onLine
        have inside := Nat.lt_of_succ_lt (List.getElem?_eq_some_iff.mp found).1
        have listed : (lines text)[previous]? = some (lines text)[previous] := List.getElem?_eq_getElem inside
        exact ⟨_, listed, place.lineUp listed⟩
  · rintro previous above rfl listed wide
    exact place.lineDown_lineUp listed wide

/-- From the end of the third line, down to the empty line at the end of the text and up to another one. -/
theorem vertical_moves_follow_lines_of_empty :
    let text := "abc\n\nde\n".toList
    7 ≤ text.length ∧ LiesAt text 7 2 2 ∧ LiesAt text (lineDown text 7) 3 0 ∧ LiesAt text (lineUp text 7) 1 0 := by
  intro text
  have within : 7 ≤ text.length := by decide
  have here : LiesAt text 7 2 2 := by decide
  obtain ⟨row, column, -, unique, down, up, -⟩ := vertical_moves_follow_lines within
  obtain ⟨rfl, rfl⟩ := unique 2 2 here
  obtain ⟨above, listed, up⟩ := up
  cases listed
  exact ⟨within, here, down, up⟩

end ModalKeys.Text
