import ModalKeys.Proofs.Text.LineList
import ModalKeys.Proofs.TextField.Strokes
import ModalKeys.Screen.Cell

/-!
# What the rows of a field show

Every line has its row, with a cell for each character. A blank at the end of a row stands for the newline there,
or for the end of the text, and it is only shown where the selection or the caret is. So the highlighted cells are
one for each selected character, or a single one for the caret.
-/

namespace ModalKeys

namespace Selection

def Covers (s : Selection) (i : Nat) : Prop := s.offset ≤ i ∧ i < s.stop ∨ s.isEmpty = true ∧ i = s.offset

instance (s : Selection) (i : Nat) : Decidable (s.Covers i) := inferInstanceAs (Decidable (_ ∨ _))

def highlight (s : Selection) : CellStyle := if s.isEmpty then .caret else .block

theorem highlight_ne_plain (s : Selection) : s.highlight ≠ .plain := by
  unfold highlight
  split <;> decide

theorem covers_iff {s : Selection} {i : Nat} : s.Covers i ↔ s.offset ≤ i ∧ i < s.offset + max 1 s.length := by
  simp only [Covers, isEmpty, stop, beq_iff_eq]
  omega

theorem style_eq (s : Selection) (i : Nat) : s.style i = if s.Covers i then s.highlight else .plain := by
  unfold style highlight
  cases empty : s.isEmpty with
  | true =>
      have caret : s.Covers i ↔ i = s.offset := by
        have none : s.length = 0 := beq_iff_eq.mp empty
        rw [covers_iff, none]
        omega
      simp only [↓reduceIte, caret]
  | false => simp only [Covers, empty, Bool.false_eq_true, ↓reduceIte, false_and, or_false]

theorem style_ne_plain_iff {s : Selection} {i : Nat} : s.style i ≠ .plain ↔ s.Covers i := by
  rw [style_eq]
  split
  · next covered => exact iff_of_true s.highlight_ne_plain covered
  · next bare => exact iff_of_false (fun shown => shown rfl) bare

end Selection

section

variable (style : Nat → CellStyle)

def endBlank (stop : Nat) : List Char := if style stop ≠ .plain then [' '] else []

def lineCells (start : Nat) (line : List Char) : List Cell :=
  ((line ++ endBlank style (start + line.length)).zipIdx start).map fun (c, i) => ⟨c, style i⟩

theorem map_char_lineCells (start : Nat) (line : List Char) :
    (lineCells style start line).map Cell.char = line ++ endBlank style (start + line.length) := by
  rw [lineCells, List.map_map]
  exact List.zipIdx_map_fst start _

theorem style_of_lineCells {start i : Nat} {line : List Char} {cell : Cell}
    (shown : (lineCells style start line)[i]? = some cell) : cell.style = style (start + i) := by
  rw [lineCells, List.getElem?_map, List.getElem?_zipIdx, Option.map_map] at shown
  obtain ⟨c, -, rfl⟩ := Option.map_eq_some_iff.mp shown
  rfl

theorem lineCells_nil (start : Nat) :
    lineCells style start [] = if style start = .plain then [] else [⟨' ', style start⟩] := by
  by_cases plain : style start = .plain <;> simp [lineCells, endBlank, plain]

theorem lineCells_cons (start : Nat) (c : Char) (line : List Char) :
    lineCells style start (c :: line) = ⟨c, style start⟩ :: lineCells style (start + 1) line := by
  have stop : start + (c :: line).length = start + 1 + line.length := by
    rw [List.length_cons, Nat.add_comm line.length, Nat.add_assoc]
  rw [lineCells, stop, List.cons_append, List.zipIdx_cons, List.map_cons, lineCells]

def lineRows : Nat → List (List Char) → List (List Cell)
  | _, [] => []
  | start, line :: rest => lineCells style start line :: lineRows (start + line.length + 1) rest

theorem cellRows_eq_lineRows (start : Nat) (text : List Char) :
    cellRows style start text = lineRows style start (Text.lines text) := by
  induction text generalizing start with
  | nil => rw [cellRows, Text.lines, lineRows, lineRows, lineCells_nil]
  | cons c rest ih =>
      rw [cellRows, Text.lines, ih]
      split
      · rw [lineRows, lineCells_nil]
        rfl
      · cases lines : Text.lines rest with
        | nil => exact absurd lines (Text.lines_ne_nil rest)
        | cons line others =>
            dsimp only
            rw [lineRows, lineRows, lineCells_cons, consCell, List.length_cons, Nat.add_right_comm start 1,
              Nat.add_assoc start line.length]

theorem length_lineRows (start : Nat) (lines : List (List Char)) :
    (lineRows style start lines).length = lines.length := by
  induction lines generalizing start with
  | nil => rfl
  | cons line rest ih => rw [lineRows, List.length_cons, ih, List.length_cons]

theorem getElem?_lineRows {start k : Nat} {lines : List (List Char)} {line : List Char}
    (found : lines[k]? = some line) :
    (lineRows style start lines)[k]? =
      some (lineCells style (start + ((lines.take k).flatMap (· ++ ['\n'])).length) line) := by
  induction lines generalizing start k with
  | nil => cases found
  | cons head rest ih =>
      cases k with
      | zero =>
          cases found
          rfl
      | succ k =>
          rw [lineRows, List.getElem?_cons_succ, ih found, List.take_succ_cons, List.flatMap_cons,
            List.length_append, List.length_append, List.length_singleton, ← Nat.add_assoc, ← Nat.add_assoc]

theorem flatten_consCell (cell : Cell) (rows : List (List Cell)) :
    (consCell cell rows).flatten = cell :: rows.flatten := by
  cases rows <;> rfl

/-- Wherever something is to be seen there is one cell to show it, up to the end of the text. -/
theorem countP_cellRows (start : Nat) (text : List Char) :
    (cellRows style start text).flatten.countP (fun cell => cell.style ≠ .plain) =
      (List.range' start (text.length + 1)).countP fun i => style i ≠ .plain := by
  have blank (i : Nat) : (if style i = .plain then [] else [Cell.mk ' ' (style i)]).countP
      (fun cell => cell.style ≠ .plain) = [i].countP fun i => style i ≠ .plain := by
    by_cases plain : style i = .plain <;> simp [plain]
  induction text generalizing start with
  | nil =>
      rw [cellRows, List.flatten_singleton, blank]
      rfl
  | cons c rest ih =>
      have offsets : List.range' start ((c :: rest).length + 1) =
          [start] ++ List.range' (start + 1) (rest.length + 1) := List.range'_succ
      rw [cellRows, offsets, List.countP_append, ← ih]
      split
      · rw [List.flatten_cons, List.countP_append, blank]
      · rw [flatten_consCell, List.countP_cons, List.countP_singleton, Nat.add_comm]

end

theorem countP_range'_outside {first count start size : Nat}
    (outside : start + size ≤ first ∨ first + count ≤ start) :
    (List.range' start size).countP (fun i => first ≤ i ∧ i < first + count) = 0 := by
  rw [List.countP_eq_zero]
  intro i listed
  rw [List.mem_range'_1] at listed
  simp only [decide_eq_true_eq]
  omega

/-- So many of the first offsets lie in a stretch. -/
theorem countP_range'_stretch {first count size : Nat} (within : first + count ≤ size) :
    (List.range' 0 size).countP (fun i => first ≤ i ∧ i < first + count) = count := by
  obtain ⟨rest, rfl⟩ := Nat.exists_eq_add_of_le within
  have inside : (List.range' first count).countP (fun i => first ≤ i ∧ i < first + count) = count := by
    refine (List.countP_eq_length.mpr fun i listed => ?_).trans List.length_range'
    exact decide_eq_true (List.mem_range'_1.mp listed)
  rw [Nat.add_assoc, ← List.range'_append_1, ← List.range'_append_1, List.countP_append, List.countP_append,
    Nat.zero_add, inside, countP_range'_outside (.inl (Nat.le_of_eq (Nat.zero_add first))),
    countP_range'_outside (.inr (Nat.le_refl _)), Nat.zero_add, Nat.add_zero]

namespace TextField

/-- The rows show the lines of the text. Each character is highlighted where it is selected or has the caret, and
so is a blank for the newline behind a line or for the end of the text. -/
theorem rows_show_text_and_selection {f : TextField} (bounds : f.draft.InBounds) :
    let s := f.selection
    let lines := Text.lines f.text
    f.rows.length = lines.length ∧
      (∀ k line, lines[k]? = some line →
        let start := Text.lineOffset f.text k
        let stop := start + line.length
        f.text.drop start = line ++ (lines.drop (k + 1)).flatMap ('\n' :: ·) ∧
          ∃ row, f.rows[k]? = some row ∧
            row.map Cell.char = line ++ (if s.Covers stop then [' '] else []) ∧
            ∀ i cell, row[i]? = some cell →
              cell.style = if s.Covers (start + i) then s.highlight else .plain) ∧
      (s.Covers f.text.length ↔ s = .caret f.text.length) ∧
      f.rows.flatten.countP (fun cell => cell.style ≠ .plain) = max 1 s.length := by
  intro s lines
  have rows : f.rows = lineRows s.style 0 lines := cellRows_eq_lineRows _ _ _
  have ends : s.offset + s.length ≤ f.text.length :=
    Nat.le_trans (Nat.le_of_eq f.draft.stop_selection) (Draft.stop_le_length bounds)
  refine ⟨?_, ?_, ?_, ?_⟩
  · rw [rows, length_lineRows]
  · intro k line found start stop
    have row : (lineRows s.style 0 lines)[k]? = some (lineCells s.style (0 + start) line) :=
      getElem?_lineRows s.style found
    rw [Nat.zero_add, ← rows] at row
    have blank : endBlank s.style stop = if s.Covers stop then [' '] else [] := by
      simp only [endBlank, Selection.style_ne_plain_iff]
    refine ⟨Text.drop_lineOffset found, _, row, ?_, ?_⟩
    · rw [← blank]
      exact map_char_lineCells s.style start line
    · intro i cell shown
      rw [← s.style_eq]
      exact style_of_lineCells s.style shown
  · rw [Selection.covers_iff]
    constructor
    · intro covered
      have empty : s.length = 0 := by omega
      have last : s.offset = f.text.length := by omega
      rw [Selection.caret, ← last, ← empty]
    · intro caret
      rw [caret]
      exact ⟨Nat.le_refl _, Nat.lt_succ_self _⟩
  · have counted := countP_cellRows s.style 0 f.text
    simp only [Selection.style_ne_plain_iff, Selection.covers_iff] at counted
    refine counted.trans (countP_range'_stretch ?_)
    omega

/-- Two newlines and a letter are selected backwards. The row of the last line is empty. -/
theorem rows_show_text_and_selection_of_newlines :
    let f := { ofText "ab\n\ncd\n".toList with draft := ⟨"ab\n\ncd\n".toList, 5, 2⟩ }
    f.draft.InBounds ∧ f.rows.length = 4 ∧
      (∃ row, f.rows[0]? = some row ∧ row.map Cell.char = "ab ".toList) ∧
      (∃ row, f.rows[1]? = some row ∧ row.map Cell.char = [' '] ∧ ∀ cell, row[0]? = some cell → cell.style = .block) ∧
      (∃ row, f.rows[3]? = some row ∧ row.map Cell.char = []) ∧
      f.rows.flatten.countP (fun cell => cell.style ≠ .plain) = 3 := by
  intro f
  have bounds : f.draft.InBounds := ⟨by decide, by decide⟩
  obtain ⟨length, lines, -, highlighted⟩ := rows_show_text_and_selection bounds
  obtain ⟨-, first, atFirst, shown, -⟩ := lines 0 "ab".toList (by decide)
  obtain ⟨-, second, atSecond, blank, styles⟩ := lines 1 [] (by decide)
  obtain ⟨-, last, atLast, empty, -⟩ := lines 3 [] (by decide)
  exact ⟨bounds, length, ⟨first, atFirst, shown⟩, ⟨second, atSecond, blank, fun cell here => styles 0 cell here⟩,
    ⟨last, atLast, empty⟩, highlighted⟩

end TextField

end ModalKeys
