import ModalKeys.Proofs.Normal.Counts
import ModalKeys.Proofs.TextField.Strokes
import ModalKeys.Settings.Basic

/-!
# Deleting lines

Deleting lines counts on the block to lie on its own line. It starts from the selection's head, which a
block made rightwards over a newline has on the next line, and it goes on when the lines run out.
-/

namespace ModalKeys

open Text (lineStart lineAfter CutsFrom cutLines_eq_iff)

namespace Editor

section

variable {e : Editor TextField} (rests : e.Rests) (fresh : e.modes.normal.keys = []) {count : Nat}
  (positive : 1 ≤ count) (allowed : count ≤ e.modes.normal.reader.maxCount) (small : count ≤ countLimit)
  {digits : List Char} (spelled : SpellsCount digits count) {inputs : List Input}
  (typed : presses inputs = KeyPress.ofText (digits ++ ['d', 'd']))

include fresh positive allowed small spelled typed

theorem reads_deleteLine : e.modes.normal.Reads (presses inputs) ⟨.edit .deleteLine, count, positive⟩ := by
  rw [typed]
  exact NormalMode.reads_doubled fresh spelled _ allowed small rfl rfl rfl (by decide) rfl

include rests

/-- Four strokes for each line are too many when 64 bits cannot count them. -/
theorem failed_deleteLines (many : ¬ 4 * count < UInt64.size) : (e.run inputs).failed = true := by
  have unfit : (Edit.plan .deleteLine count).fits = false := decide_eq_false many
  have reads := reads_deleteLine fresh positive allowed small spelled typed
  rw [rests.failed_of_reads reads rfl unfit]

variable (few : 4 * count < UInt64.size) (settled : (e.run inputs).deadline? = none)

include few settled

/-- The text that is left when the lines have been cut out. -/
theorem text_deleteLines :
    (e.run inputs).failed = e.failed ∧
      (e.run inputs).control.text = (Text.cutLines count (e.control.text, e.control.draft.head)).1 := by
  have fits : (Edit.plan .deleteLine count).fits = true := decide_eq_true few
  have reads := reads_deleteLine fresh positive allowed small spelled typed
  have ran := rests.settled_of_reads reads rfl fits settled
  refine ⟨by rw [ran]; rfl, ?_⟩
  obtain ⟨more, rfl⟩ := Nat.exists_eq_add_of_le' positive
  have strokes : (Edit.plan .deleteLine (more + 1)).now = repeated TextField.cutStrokes (more + 1) :=
    Plan.now_repeating _ _
  have cut := TextField.draft_repeated_cutStrokes e.control more
  rw [ran, control_inject, Control.injectAll_append]
  change (Control.inject (Control.injectAll e.control (Edit.plan .deleteLine (more + 1)).now)
    (.shifted .right)).draft.text = _
  rw [TextField.draft_shiftRight, strokes, cut]
  rfl

end

/-- When the lines from the one of the cursor on are gone and nothing else is. The strokes have to be few enough to
be counted, or the editor fails. -/
theorem delete_lines_iff {e : Editor TextField} (works : e.failed = false) (rests : e.Rests)
    (fresh : e.modes.normal.keys = []) (bounds : e.control.draft.InBounds)
    (block : e.control.selection.length ≤ 1) {count : Nat} (positive : 1 ≤ count)
    (allowed : count ≤ e.modes.normal.reader.maxCount) (small : count ≤ countLimit) {digits : List Char}
    (spelled : SpellsCount digits count) {inputs : List Input}
    (typed : presses inputs = KeyPress.ofText (digits ++ ['d', 'd']))
    (settled : (e.run inputs).deadline? = none) :
    let text := e.control.text
    let cursor := e.control.selection.offset
    let start := lineStart text cursor
    let after := e.run inputs
    after.failed = false ∧ after.control.text = text.take start ++ text.drop (lineAfter text start count) ↔
      4 * count < UInt64.size ∧ CutsFrom text cursor e.control.draft.head count := by
  intro text cursor start after
  by_cases few : 4 * count < UInt64.size
  · obtain ⟨working, left⟩ := text_deleteLines rests fresh positive allowed small spelled typed few settled
    have done : after.failed = false := working.trans works
    rw [and_iff_right done, and_iff_right few, left]
    exact cutLines_eq_iff (Draft.head_of_block _ block) bounds.head positive
  · have failed : after.failed = true := failed_deleteLines rests fresh positive allowed small spelled typed few
    exact iff_of_false (fun done => Bool.false_ne_true (done.1.symm.trans failed)) fun done => few done.1

/-- Two lines in the middle of a text, from a block on a letter. -/
theorem delete_lines_iff_of_two :
    let field := (TextField.ofText "ab\ncd\nef\ngh".toList).select ⟨4, 1⟩
    let start := { Settings.usual with startMode := .normal }.editor field
    let inputs : List Input := (KeyPress.ofText "2dd".toList).map (.key · 0) ++ [.tick 5]
    CutsFrom field.text 4 5 2 ∧ (start.run inputs).failed = false ∧
      (start.run inputs).control.text = "ab\ngh".toList := by
  intro field start inputs
  have spelled : SpellsCount ['2'] 2 := .inl (by decide)
  have typed : presses inputs = KeyPress.ofText (['2'] ++ ['d', 'd']) := by decide
  have own : CutsFrom field.text 4 5 2 := by decide
  have law := delete_lines_iff (e := start) rfl ⟨rfl, rfl⟩ rfl (Draft.inBounds_select _ _) (by decide)
    (by decide) (by decide) (by decide) spelled typed (by decide +kernel)
  obtain ⟨done, left⟩ := law.mpr ⟨by decide, own⟩
  exact ⟨own, done, left.trans (by decide)⟩

/-- From a block made rightwards over a newline, the line below goes in place of the cursor's own. -/
theorem delete_lines_takes_next_line :
    let field := (TextField.ofText "ab\ncd".toList).select ⟨2, 1⟩
    let start := { Settings.usual with startMode := .normal }.editor field
    let inputs : List Input := (KeyPress.ofText "dd".toList).map (.key · 0) ++ [.tick 5]
    let first := lineStart field.text field.selection.offset
    field.draft.InBounds ∧ field.selection.length = 1 ∧ start.Rests ∧ start.modes.normal.keys = [] ∧
      presses inputs = KeyPress.ofText "dd".toList ∧ (start.run inputs).deadline? = none ∧
      (start.run inputs).failed = false ∧ (start.run inputs).control.text = "ab\n".toList ∧
      field.text.take first ++ field.text.drop (lineAfter field.text first 1) = "cd".toList := by
  intro field start inputs first
  exact ⟨Draft.inBounds_select _ _, by decide, ⟨rfl, rfl⟩, rfl, by decide, by decide +kernel,
    by decide +kernel, by decide +kernel, by decide⟩

end Editor

end ModalKeys
