import ModalKeys.Proofs.Editor.Editing
import ModalKeys.Proofs.Normal.TakenBack
import ModalKeys.Settings.Basic

/-!
# Copying lines

The line of the block is selected, and then the selection is taken from line end to line end, as often as there are
more lines to copy. Whatever the lengths of the lines, its head is at the end of a line after every round.
-/

namespace ModalKeys

open Text (StartsLine lineStart lineEnd lineAfter nextLine lineLength)

namespace Text

variable {text : List Char} {pos start : Nat}

theorem lt_lineEnd (inside : pos < text.length) (letter : text[pos] ≠ '\n') : pos < lineEnd text pos := by
  rw [lineEnd_eq_runEnd (Nat.le_of_lt inside)]
  exact lt_runEnd inside (notNewline_iff.mpr letter)

/-- Down from the end of a line, the end of the next one is the next line end. -/
theorem lineEnd_lineDown_lineEnd (starts : StartsLine text start) :
    lineEnd text (lineDown text (lineEnd text start)) = lineEnd text (nextLine text start) := by
  have onward : start + lineLength text start = lineEnd text start :=
    Nat.add_sub_cancel' (le_lineEnd starts.le_length)
  rw [← onward, starts.lineDown_add (Nat.le_refl _)]
  exact lineEnd_add (Nat.min_le_right _ _)

theorem lineEnd_le_lineEnd_lineAfter (starts : StartsLine text start) (count : Nat) :
    lineEnd text start ≤ lineEnd text (lineAfter text start count) := by
  induction count generalizing start with
  | zero => exact Nat.le_refl _
  | succ count ih =>
      calc lineEnd text start
        _ ≤ nextLine text start := Nat.le_min.mpr ⟨Nat.le_succ _, lineEnd_le_length text start⟩
        _ ≤ lineEnd text (nextLine text start) := le_lineEnd starts.nextLine.le_length
        _ ≤ lineEnd text (lineAfter text (nextLine text start) count) := ih starts.nextLine

end Text

namespace TextField

variable {f : TextField} {text : List Char}

/-- Each round takes the head of the selection from the end of a line to the end of the next one. -/
theorem draft_extendLines {anchor start : Nat} (starts : StartsLine text start)
    (draft : f.draft = ⟨text, anchor, lineEnd text start⟩) (count : Nat) :
    (Control.injectAll f (repeated [.shifted .down, .commandShift .right] count)).draft =
      ⟨text, anchor, lineEnd text (lineAfter text start count)⟩ := by
  induction count generalizing f start with
  | zero => exact draft
  | succ count ih =>
      have down : (Control.inject f (.shifted .down)).draft = f.draft.move .down true :=
        draft_inject_of_move f rfl
      rw [Draft.extend_down, draft] at down
      have extended := draft_commandShiftRight (Control.inject f (.shifted .down))
      rw [down, Text.lineEnd_lineDown_lineEnd starts] at extended
      rw [repeated_succ, Control.injectAll_append]
      exact ih starts.nextLine extended

/-- What is selected is copied, and a left arrow leaves a caret at its start. -/
theorem copies_then_collapses {first last : Nat} (draft : f.draft = ⟨text, first, last⟩) (before : first < last)
    (within : last ≤ text.length) :
    let g := Control.injectAll f [.command .c, .plain .left]
    g.clipboard = (text.drop first).take (last - first) ∧ g.draft = ⟨text, first, first⟩ := by
  intro g
  have start : f.draft.start = first := by simp [draft, Draft.start, Nat.le_of_lt before]
  have stop : f.draft.stop = last := by simp [draft, Draft.stop, Nat.le_of_lt before]
  have proper : f.draft.start < f.draft.stop := by rwa [start, stop]
  let taken := Control.inject f (.command .c)
  have copied : taken = { f.record (.command .c) with clipboard := f.draft.selected } :=
    if_pos (Draft.hasSelection_iff.mpr proper)
  constructor
  · have keeps : (Keystroke.plain .left).KeepsClipboard := by decide
    have kept : g.clipboard = taken.clipboard := clipboard_inject taken keeps
    rw [kept, copied]
    change f.draft.selected = _
    rw [Draft.selected, start, stop, draft]
  · have same : taken.draft = f.draft := by rw [copied]; rfl
    have bounds : taken.draft.InBounds := by
      rw [same, draft]
      exact ⟨Nat.le_of_lt (Nat.lt_of_lt_of_le before within), within⟩
    refine (Motion.draft_left bounds).trans ?_
    rw [TextField.text, same, Draft.leftward_of_selected proper, start, draft]

/-- From a block made rightwards over a letter, its line and some more lines are copied. -/
theorem yankLines {pos : Nat} (inside : pos < f.text.length) (letter : f.text[pos] ≠ '\n')
    (head : f.draft.head = pos + 1) (more : Nat) :
    let first := lineStart f.text pos
    let last := lineEnd f.text (lineAfter f.text first more)
    let g := Control.injectAll f ([.command .left, .commandShift .right] ++
      repeated [.shifted .down, .commandShift .right] more ++ [.command .c, .plain .left] ++ [.shifted .right])
    g.clipboard = (f.text.drop first).take (last - first) ∧ g.draft = ⟨f.text, first, first + 1⟩ := by
  intro first last g
  have starts : StartsLine f.text first := .inl (Text.lineStart_lineStart f.text pos)
  have before :=
    calc first
      _ ≤ pos := Text.lineStart_le f.text pos
      _ < lineEnd f.text pos := Text.lt_lineEnd inside letter
      _ = lineEnd f.text first := (Text.lineEnd_lineStart (Nat.le_of_lt inside)).symm
      _ ≤ last := Text.lineEnd_le_lineEnd_lineAfter starts more
  have within : last ≤ f.text.length := Text.lineEnd_le_length f.text _
  let selected := Control.injectAll f [.command .left, .commandShift .right]
  have line : selected.draft = ⟨f.text, first, lineEnd f.text first⟩ := by
    have own : lineStart f.text f.draft.head = first := by
      rw [head, Text.lineStart_succ inside, if_pos (Text.notNewline_iff.mpr letter)]
    rw [← own]
    exact draft_selectLine f
  let extended := Control.injectAll selected (repeated [.shifted .down, .commandShift .right] more)
  have lines : extended.draft = ⟨f.text, first, last⟩ := draft_extendLines starts line more
  let copied := Control.injectAll extended [.command .c, .plain .left]
  obtain ⟨clipboard, caret⟩ := copies_then_collapses lines before within
  have whole : g = Control.inject copied (.shifted .right) := by
    simp only [g, Control.injectAll_append]
    rfl
  constructor
  · rw [whole, clipboard_inject copied (by decide)]
    exact clipboard
  · rw [whole, draft_shiftRight, caret, Nat.min_eq_left (Nat.lt_of_lt_of_le before within)]

end TextField

namespace Editor

/-- Copying lines takes the line of the block and those after it, as many as the count says or as many as there
are, and shows the block at the start of the first. Nothing is edited. The strokes for the lines after the first
have to be few enough to be counted, or the editor fails. -/
theorem yank_lines_iff {e : Editor TextField} (works : e.failed = false) (rests : e.Rests)
    (fresh : e.modes.normal.keys = []) (bounds : e.control.draft.InBounds) (block : e.control.selection.length = 1)
    (rightwards : e.control.draft.anchor < e.control.draft.head)
    (letter : e.control.text[e.control.selection.offset]? ≠ some '\n') {count : Nat} (positive : 1 ≤ count)
    (allowed : count ≤ e.modes.normal.reader.maxCount) (small : count ≤ countLimit) {digits : List Char}
    (spelled : SpellsCount digits count) {inputs : List Input}
    (typed : presses inputs = KeyPress.ofText (digits ++ ['y', 'y'])) {later : Nat}
    (waited : ∀ time ∈ keyTimes inputs, time + e.settle ≤ later) :
    let text := e.control.text
    let first := lineStart text e.control.selection.offset
    let last := lineEnd text (lineAfter text first (count - 1))
    let after := e.run (inputs ++ [.tick later])
    (after.failed = false ∧ after.mode = .normal ∧ after.deadline? = none ∧
      after.control.clipboard = (text.drop first).take (last - first) ∧
      TextField.SameText e.control after.control ∧ after.control.selection = ⟨first, 1⟩) ↔
        2 * (count - 1) < UInt64.size := by
  intro text first last after
  have head : e.control.draft.head = e.control.selection.offset + 1 := by
    have start : e.control.selection.offset = e.control.draft.anchor := Nat.min_eq_left (Nat.le_of_lt rightwards)
    have length : max e.control.draft.anchor e.control.draft.head - e.control.selection.offset = 1 := block
    omega
  have inside : e.control.selection.offset < text.length := by
    have within : e.control.draft.head ≤ text.length := bounds.head
    omega
  have other : text[e.control.selection.offset] ≠ '\n' := fun newline =>
    letter ((List.getElem?_eq_getElem inside).trans (congrArg some newline))
  have reads : e.modes.normal.Reads (presses inputs) ⟨.edit .yankLine, count, positive⟩ := by
    rw [typed]
    exact NormalMode.reads_doubled fresh spelled positive allowed small rfl rfl rfl (by decide) rfl
  have fits : (Edit.plan .yankLine count).fits = true ↔ 2 * (count - 1) < UInt64.size := by
    simp [Edit.plan, Plan.fits, Plan.total, Plan.thenBlockRight]
  rw [← fits]
  refine ⟨fun done => ?_, fun few => ?_⟩
  · by_contra many
    rw [← presses_tick inputs later] at reads
    have failed := rests.failed_of_reads reads rfl (Bool.eq_false_iff.mpr many)
    cases done.1.symm.trans (congrArg Editor.failed failed)
  have carried := carried_of_reads rests reads rfl few waited
  obtain ⟨clipboard, draft⟩ := TextField.yankLines inside other head (count - 1)
  have shown : after.control.selection = ⟨first, 1⟩ := by
    rw [carried.control, TextField.selection]
    refine (congrArg Draft.selection draft).trans ?_
    rw [Draft.selection_of_le (Nat.le_add_right _ 1), Nat.add_sub_cancel_left]
  have ran := rests.carried_out_of_reads reads rfl few waited
  refine ⟨(congrArg Editor.failed ran.2).trans works, carried.rests.1, carried.rests.deadline, ?_, ?_, shown⟩
  · rw [carried.control]
    exact clipboard
  · rw [carried.control]
    have block : ∀ stroke ∈ [Keystroke.shifted .right], stroke.KeepsText := by decide
    exact .injectAll e.control (List.forall_mem_append.mpr ⟨Edit.keepsText_plan (.inr rfl) count, block⟩)

/-- Two lines of which the second is empty, from a block in the middle of the first. -/
theorem yank_lines_iff_of_two :
    let field := (TextField.ofText "ab\ncd\n\nef".toList).select ⟨4, 1⟩
    let start := { Settings.usual with startMode := .normal }.editor field
    let inputs : List Input := (KeyPress.ofText "2yy".toList).map (.key · 0)
    let after := start.run (inputs ++ [.tick 5])
    after.failed = false ∧ after.control.clipboard = "cd\n".toList ∧ after.control.text = field.text ∧
      after.control.selection = ⟨3, 1⟩ := by
  intro field start inputs after
  have spelled : SpellsCount ['2'] 2 := .inl (by decide)
  have typed : presses inputs = KeyPress.ofText (['2'] ++ ['y', 'y']) := by decide
  have waited : ∀ time ∈ keyTimes inputs, time + start.settle ≤ 5 := by decide
  have law := yank_lines_iff (e := start) rfl ⟨rfl, rfl⟩ rfl (Draft.inBounds_select _ _) (by decide) (by decide)
    (by decide) (by decide) (by decide) (by decide) spelled typed waited
  obtain ⟨done, -, -, clipboard, same, shown⟩ := law.mpr (by decide)
  exact ⟨done, clipboard.trans (by decide), same.text, shown.trans (by decide)⟩

/-- Two strokes for each of half the 64-bit numbers are one too many to be counted. -/
theorem yank_lines_too_many :
    let field := (TextField.ofText "ab\ncd".toList).select ⟨0, 1⟩
    let start := { Settings.usual with startMode := .normal, maxCount := countLimit }.editor field
    let count := UInt64.size / 2 + 1
    let inputs : List Input := (KeyPress.ofText "9223372036854775809yy".toList).map (.key · 0)
    let after := start.run (inputs ++ [.tick 5])
    start.failed = false ∧ start.Rests ∧ start.modes.normal.keys = [] ∧ field.draft.InBounds ∧
      field.selection.length = 1 ∧ field.draft.anchor < field.draft.head ∧ field.text[0]? ≠ some '\n' ∧
      count ≤ start.modes.normal.reader.maxCount ∧ SpellsCount "9223372036854775809".toList count ∧
      presses inputs = KeyPress.ofText ("9223372036854775809".toList ++ ['y', 'y']) ∧
      after.failed = true ∧ after.control.clipboard = [] := by
  intro field start count inputs after
  have spelled : SpellsCount "9223372036854775809".toList count := .inl (by decide +kernel)
  exact ⟨rfl, ⟨rfl, rfl⟩, rfl, Draft.inBounds_select _ _, by decide, by decide, by decide, by decide, spelled,
    by decide +kernel, by decide +kernel, by decide +kernel⟩

end Editor

end ModalKeys
