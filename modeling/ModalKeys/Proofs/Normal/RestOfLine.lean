import ModalKeys.Proofs.Normal.Counts
import ModalKeys.Proofs.TextField.RestOfLine
import ModalKeys.Settings.Basic

/-!
# Deleting and changing the rest of a line

The three commands select to the end of a line and press backspace. They stay on the line of the cursor
exactly when that selects what is to go: not on an empty line, and not from every block.
-/

namespace ModalKeys

open Text (lineStart lineEnd)

namespace Editor

variable {e : Editor TextField}

/-- The text that a deletion to the end of the line leaves, whatever its count. -/
theorem text_deleteRest (rests : e.Rests) (fresh : e.modes.normal.keys = []) {digits : List Char}
    (decimal : ∀ c ∈ digits, c.isDigit = true) {inputs : List Input}
    (typed : presses inputs = KeyPress.ofText (digits ++ ['D'])) (settled : (e.run inputs).deadline? = none) :
    (e.run inputs).control.text = e.control.draft.clearRest.text := by
  have reads := NormalMode.reads_single fresh decimal (c := 'D') rfl rfl rfl
  rw [← typed] at reads
  rw [rests.settled_of_reads reads rfl rfl settled, control_inject, Control.injectAll_append]
  change (Control.inject (Control.injectAll e.control [.commandShift .right, .plain .backspace])
    (.shifted .right)).draft.text = _
  rw [TextField.draft_shiftRight, TextField.draft_clearRest]

theorem draft_changeRest (rests : e.Rests) (free : e.detector.held = none) (fresh : e.modes.normal.keys = [])
    {digits : List Char} (decimal : ∀ c ∈ digits, c.isDigit = true) {inputs : List Input}
    (typed : presses inputs = KeyPress.ofText (digits ++ ['C'])) :
    (e.run inputs).mode = .insert ∧
      (e.run inputs).control.draft = (e.control.draft.move (.left .char) false).clearRest := by
  have reads := NormalMode.reads_single fresh decimal (c := 'C') rfl rfl rfl
  rw [← typed] at reads
  obtain ⟨inserting, control⟩ := rests.changed_of_reads free reads rfl rfl rfl
  have left : (Control.inject e.control (.plain .left)).draft = e.control.draft.move (.left .char) false :=
    TextField.draft_inject_of_move e.control rfl
  refine ⟨inserting, ?_⟩
  rw [control, ← left]
  exact TextField.draft_clearRest _

theorem draft_changeLine (rests : e.Rests) (free : e.detector.held = none) (fresh : e.modes.normal.keys = [])
    {digits : List Char} (single : SpellsCount digits 1) {inputs : List Input}
    (typed : presses inputs = KeyPress.ofText (digits ++ ['c', 'c'])) :
    (e.run inputs).mode = .insert ∧
      (e.run inputs).control.draft =
        ((e.control.draft.move (.left .char) false).move (.left .line) false).clearRest := by
  have reads : e.modes.normal.Reads (presses inputs) ⟨.edit .changeLine, 1, Nat.le_refl 1⟩ := by
    rw [typed]
    exact NormalMode.reads_doubled fresh single _ e.modes.normal.reader.one_le_maxCount (by decide) rfl rfl rfl
      (by decide) rfl
  obtain ⟨inserting, control⟩ := rests.changed_of_reads free reads rfl rfl (by decide)
  let collapsed := Control.inject e.control (.plain .left)
  have left : collapsed.draft = e.control.draft.move (.left .char) false :=
    TextField.draft_inject_of_move e.control rfl
  have start : (Control.inject collapsed (.command .left)).draft = collapsed.draft.move (.left .line) false :=
    TextField.draft_inject_of_move collapsed rfl
  have strokes : (Edit.plan .changeLine 1).now = [.command .left, .commandShift .right, .plain .backspace] := rfl
  refine ⟨inserting, ?_⟩
  rw [control, strokes, Control.injectAll_cons, ← left, ← start]
  exact TextField.draft_clearRest _

/-- When the three commands take what they name and nothing else. -/
theorem rest_of_line_iff (rests : e.Rests) (free : e.detector.held = none) (fresh : e.modes.normal.keys = [])
    (bounds : e.control.draft.InBounds) (block : e.control.selection.length ≤ 1) :
    let d := e.control.draft
    let cursor := e.control.selection.offset
    let first := lineStart d.text cursor
    let last := lineEnd d.text cursor
    (∀ digits inputs, (∀ c ∈ digits, c.isDigit = true) →
        presses inputs = KeyPress.ofText (digits ++ ['D']) → (e.run inputs).deadline? = none →
        ((e.run inputs).control.text = d.text.take cursor ++ d.text.drop last ↔ d.DeletesRest)) ∧
      (∀ digits inputs, (∀ c ∈ digits, c.isDigit = true) →
        presses inputs = KeyPress.ofText (digits ++ ['C']) →
        (e.run inputs).mode = .insert ∧
          ((e.run inputs).control.draft = ⟨d.text.take cursor ++ d.text.drop last, cursor, cursor⟩ ↔
            d.ChangesRest)) ∧
      ∀ digits inputs, SpellsCount digits 1 → presses inputs = KeyPress.ofText (digits ++ ['c', 'c']) →
        (e.run inputs).mode = .insert ∧
          ((e.run inputs).control.draft = ⟨d.text.take first ++ d.text.drop last, first, first⟩ ↔
            d.ChangesLine) := by
  intro d cursor first last
  refine ⟨fun digits inputs decimal typed settled => ?_, fun digits inputs decimal typed => ?_,
    fun digits inputs single typed => ?_⟩
  · rw [text_deleteRest rests fresh decimal typed settled]
    exact Draft.text_clearRest_iff bounds block
  · obtain ⟨inserting, draft⟩ := draft_changeRest rests free fresh decimal typed
    refine ⟨inserting, ?_⟩
    rw [draft]
    exact Draft.changeRest_iff bounds
  · obtain ⟨inserting, draft⟩ := draft_changeLine rests free fresh single typed
    refine ⟨inserting, ?_⟩
    rw [draft]
    exact Draft.changeLine_iff bounds

/-- From a block on the second letter of a line that another one follows. -/
theorem rest_of_line_iff_of_letter :
    let field := (TextField.ofText "abc\nde".toList).select ⟨1, 1⟩
    let start := { Settings.usual with startMode := .normal }.editor field
    let typing (keys : List Char) : List Input := (KeyPress.ofText keys).map (.key · 0) ++ [.tick 5]
    field.draft.DeletesRest ∧ field.draft.ChangesRest ∧ field.draft.ChangesLine ∧
      (start.run (typing ['D'])).control.text = "a\nde".toList ∧
      (start.run (typing ['7', 'C'])).control.draft = ⟨"a\nde".toList, 1, 1⟩ ∧
      (start.run (typing ['c', 'c'])).control.draft = ⟨"\nde".toList, 0, 0⟩ := by
  intro field start typing
  have deletes : field.draft.DeletesRest := by decide
  have changes : field.draft.ChangesRest := by decide
  have line : field.draft.ChangesLine := by decide
  obtain ⟨delete, change, changeLine⟩ := rest_of_line_iff (e := start) ⟨rfl, rfl⟩ rfl rfl
    (Draft.inBounds_select _ _) (by decide)
  refine ⟨deletes, changes, line, ?_, ?_, ?_⟩
  · exact (delete [] (typing ['D']) nofun (by decide) (by decide +kernel)).mpr deletes
  · exact (change ['7'] (typing ['7', 'C']) (List.forall_mem_singleton.mpr rfl) (by decide)).2.mpr changes
  · exact (changeLine [] (typing ['c', 'c']) (.inr ⟨rfl, rfl⟩) (by decide)).2.mpr line

/-- On an empty line the block has its head on the next line, and all of that line goes with the newline. -/
theorem delete_rest_takes_next_line :
    let field := (TextField.ofText "ab\n\ncd".toList).select ⟨3, 1⟩
    let start := { Settings.usual with startMode := .normal }.editor field
    let inputs : List Input := (KeyPress.ofText ['D']).map (.key · 0) ++ [.tick 5]
    let cursor := field.selection.offset
    field.draft.InBounds ∧ field.selection.length = 1 ∧ start.Rests ∧ start.detector.held = none ∧
      start.modes.normal.keys = [] ∧ presses inputs = KeyPress.ofText ['D'] ∧
      (start.run inputs).deadline? = none ∧ (start.run inputs).control.text = "ab\n".toList ∧
      field.text.take cursor ++ field.text.drop (lineEnd field.text cursor) = "ab\n\ncd".toList := by
  intro field start inputs cursor
  exact ⟨Draft.inBounds_select _ _, by decide, ⟨rfl, rfl⟩, rfl, rfl, by decide, by decide +kernel,
    by decide +kernel, by decide⟩

end Editor

end ModalKeys
