import ModalKeys.Proofs.Normal.TakenBack
import ModalKeys.Settings.Basic

/-!
# Deleting characters

The first stroke deletes the block or the character after the caret, and the later ones delete forward from
there. Together they take as many characters from the cursor on as there are strokes, or all that are left.
-/

namespace ModalKeys

/-- Taking one character out and then some more at the same place takes out one more. -/
theorem Text.cut_cut {text : List Char} {pos : Nat} (within : pos ≤ text.length) (count : Nat) :
    let shorter := text.take pos ++ text.drop (pos + 1)
    shorter.take pos ++ shorter.drop (pos + count) = text.take pos ++ text.drop (pos + (count + 1)) := by
  have front : (text.take pos).length = pos := List.length_take_of_le within
  have place : pos + 1 + count = pos + (count + 1) := by omega
  simp [List.drop_append, front, place]

namespace TextField

section

variable {f : TextField} (bounds : f.draft.InBounds) (block : f.selection.length ≤ 1)

include bounds

theorem recordsEdit_deleteForward :
    f.recordsEdit .deleteForward = decide (f.selection.offset < f.text.length) := by
  cases selected : f.draft.hasSelection with
  | true =>
      have inside : f.selection.offset < f.text.length :=
        Nat.lt_of_lt_of_le (Draft.hasSelection_iff.mp selected) (Draft.stop_le_length bounds)
      simp [recordsEdit, selected, inside]
  | false =>
      have caret : f.draft.anchor = f.draft.head := isCaret_of_not_hasSelection (by simp [selected])
      simp [recordsEdit, selected, selection, Draft.selection, Draft.start, caret, text]

variable {stroke : Keystroke} (deletes : Shortcut.ofKeystroke stroke = .deleteForward)

include deletes in
theorem edited_deleteForward :
    Edited (min 1 (f.text.length - f.selection.offset)) f (Control.inject f stroke) := by
  have stays : (Shortcut.ofKeystroke stroke).travels = false := by simp [deletes, Shortcut.travels]
  have edited := Edited.inject f stroke stays
  rw [deletes, recordsEdit_deleteForward bounds] at edited
  by_cases inside : f.selection.offset < f.text.length
  · have one : min 1 (f.text.length - f.selection.offset) = 1 := by omega
    simpa [inside, one] using edited
  · have none : min 1 (f.text.length - f.selection.offset) = 0 := by omega
    simpa [inside, none] using edited

include block

/-- From a block as from a caret, the character at the cursor is deleted. -/
theorem perform_deleteForward :
    f.perform .deleteForward = f.deleteRange f.selection.offset (min (f.selection.offset + 1) f.text.length) := by
  cases selected : f.draft.hasSelection with
  | true =>
      have last : f.draft.stop = min (f.draft.start + 1) f.text.length := by
        have before := Draft.hasSelection_iff.mp selected
        have within : f.draft.stop ≤ f.text.length := Draft.stop_le_length bounds
        have one : f.draft.stop - f.draft.start ≤ 1 := block
        omega
      simp [perform, selected, deleteSelection, last, selection, Draft.selection]
  | false =>
      have caret : f.draft.anchor = f.draft.head := isCaret_of_not_hasSelection (by simp [selected])
      simp [perform, selected, selection, Draft.selection, Draft.start, caret, text]

include deletes

theorem draft_deleteForward :
    let pos := f.selection.offset
    (Control.inject f stroke).draft = ⟨f.text.take pos ++ f.text.drop (pos + 1), pos, pos⟩ := by
  intro pos
  have deleted : Control.inject f stroke = (f.record stroke).deleteRange pos (min (pos + 1) f.text.length) := by
    change (f.record stroke).perform (Shortcut.ofKeystroke stroke) = _
    rw [deletes]
    exact perform_deleteForward bounds block
  rw [deleted]
  by_cases inside : pos < f.text.length
  · have one : min (pos + 1) f.text.length = pos + 1 := Nat.min_eq_left inside
    rw [one, draft_deleteRange _ (Nat.lt_succ_self pos)]
    simp [Draft.splice, record, text]
  · have last : f.text.length ≤ pos := Nat.le_of_not_lt inside
    have nothing : min (pos + 1) f.text.length ≤ pos := Nat.le_trans (Nat.min_le_right _ _) last
    have whole : f.text.take pos ++ f.text.drop (pos + 1) = f.text := by
      simp [List.take_of_length_le last, Nat.le_succ_of_le last]
    have caret : f.draft = ⟨f.text, pos, pos⟩ := by
      have stop : f.draft.stop ≤ f.text.length := Draft.stop_le_length bounds
      exact Draft.eq_of_length_eq_zero (Nat.sub_eq_zero_of_le (Nat.le_trans stop last))
    rw [deleteRange_of_le nothing, whole]
    exact caret

/-- Every stroke deletes the character at the cursor, until the text ends. -/
theorem repeated_deleteForward (count : Nat) :
    let pos := f.selection.offset
    let g := Control.injectAll f (repeated [stroke] (count + 1))
    g.draft = ⟨f.text.take pos ++ f.text.drop (pos + (count + 1)), pos, pos⟩ ∧
      Edited (min (count + 1) (f.text.length - pos)) f g := by
  induction count generalizing f with
  | zero => exact ⟨draft_deleteForward bounds block deletes, edited_deleteForward bounds deletes⟩
  | succ count ih =>
      intro pos g
      have within : pos ≤ f.text.length := Draft.start_le_length bounds
      let h := Control.inject f stroke
      have first : h.draft = _ := draft_deleteForward bounds block deletes
      have edited : Edited _ f h := edited_deleteForward bounds deletes
      have own : h.text = f.text.take pos ++ f.text.drop (pos + 1) := congrArg Draft.text first
      have place : h.selection = ⟨pos, 0⟩ := (congrArg Draft.selection first).trans (Draft.selection_caret _ _)
      have length : h.text.length = pos + (f.text.length - (pos + 1)) := by
        rw [own, Text.length_take_append_drop within]
      have inside : h.draft.InBounds := by
        have longer : pos ≤ h.text.length := length ▸ Nat.le_add_right _ _
        have placed : h.draft.anchor = pos ∧ h.draft.head = pos := by simp [first, pos]
        exact ⟨placed.1.symm ▸ longer, placed.2.symm ▸ longer⟩
      obtain ⟨draft, more⟩ := ih inside (by simp [place])
      rw [place, own, Text.cut_cut within] at draft
      refine ⟨draft, ?_⟩
      have total : min 1 (f.text.length - pos) + min (count + 1) (h.text.length - h.selection.offset) =
          min (count + 1 + 1) (f.text.length - pos) := by
        rw [place, length]
        dsimp only
        omega
      rw [← total]
      exact edited.trans more

end

end TextField

namespace Editor

section

variable {e : Editor TextField} (rests : e.Rests) (fresh : e.modes.normal.keys = [])
  (bounds : e.control.draft.InBounds) {count : Nat} (allowed : count + 1 ≤ e.modes.normal.reader.maxCount)
  (small : count + 1 ≤ countLimit)

include rests fresh bounds allowed small

/-- What deleting characters leaves in the field, with the edits on the way. -/
theorem deleted_by_x (block : e.control.selection.length ≤ 1) {inputs : List Input}
    (types : Types e.settle (count + 1) 'x' inputs) :
    let cursor := e.control.selection.offset
    let rest := e.control.text.take cursor ++ e.control.text.drop (cursor + (count + 1))
    ∃ strokes, Carried strokes e (e.run inputs) ∧
      TextField.Edited (min (count + 1) (e.control.text.length - cursor)) e.control
        (Control.injectAll e.control strokes) ∧
      (Control.injectAll e.control strokes).draft = ⟨rest, cursor, min (cursor + 1) rest.length⟩ := by
  intro cursor rest
  have single : singleKey? (String.singleton 'x') = some (.edit .deleteChar) := rfl
  have carried := carried_of_types rests fresh (Nat.le_add_left 1 count) allowed small rfl rfl single rfl rfl types
  have strokes : (Edit.plan .deleteChar (count + 1)).now = repeated [.control .forwardDelete] (count + 1) :=
    Plan.now_repeating _ _
  simp only [Counted.plan, strokes] at carried
  have deletes : Shortcut.ofKeystroke (.control .forwardDelete) = .deleteForward := rfl
  obtain ⟨draft, edited⟩ := TextField.repeated_deleteForward bounds block deletes count
  let deleted := Control.injectAll e.control (repeated [.control .forwardDelete] (count + 1))
  have moved := edited.trans (.move deleted (.shifted .right) ⟨_, _, rfl⟩)
  refine ⟨_, carried, ?_, ?_⟩
  · rw [Control.injectAll_append]
    exact moved
  · rw [Control.injectAll_append]
    refine (TextField.draft_shiftRight deleted).trans ?_
    rw [draft]

/-- What changing characters leaves in the field. -/
theorem changed_by_s (free : e.detector.held = none) (block : e.control.selection.length = 1)
    {digits : List Char} (spelled : SpellsCount digits (count + 1)) {inputs : List Input}
    (typed : presses inputs = KeyPress.ofText (digits ++ ['s'])) :
    let cursor := e.control.selection.offset
    let rest := e.control.text.take cursor ++ e.control.text.drop (cursor + (count + 1))
    (e.run inputs).mode = .insert ∧ (e.run inputs).control.draft = ⟨rest, cursor, cursor⟩ := by
  intro cursor rest
  have reads : e.modes.normal.Reads (presses inputs) ⟨.edit .changeChar, count + 1, Nat.le_add_left 1 count⟩ := by
    rw [typed]
    exact NormalMode.reads_counted fresh spelled _ allowed small rfl rfl rfl
  obtain ⟨inserting, control⟩ := rests.changed_of_reads free reads rfl rfl rfl
  let collapsed := Control.inject e.control (.plain .left)
  have caret : collapsed.draft = ⟨e.control.text, cursor, cursor⟩ := by
    rw [Motion.draft_left bounds, Draft.leftward_of_one block]
    rfl
  have place : collapsed.selection = ⟨cursor, 0⟩ :=
    (congrArg Draft.selection caret).trans (Draft.selection_caret _ cursor)
  have own : collapsed.text = e.control.text := by rw [TextField.text, caret]
  have inside : collapsed.draft.InBounds := by
    rw [caret]
    exact ⟨Draft.start_le_length bounds, Draft.start_le_length bounds⟩
  have deletes : Shortcut.ofKeystroke (.plain .forwardDelete) = .deleteForward := rfl
  obtain ⟨draft, -⟩ := TextField.repeated_deleteForward inside (by simp [place]) deletes count
  rw [place, own] at draft
  have strokes : (Edit.plan .changeChar (count + 1)).now = repeated [.plain .forwardDelete] (count + 1) :=
    Plan.now_repeating _ _
  refine ⟨inserting, ?_⟩
  simp only [strokes] at control
  rw [control]
  exact draft

end

/-- Deleting and changing characters take as many from the cursor on as the count says, or all that are left. As
many undos as characters were deleted bring them back. -/
theorem delete_chars_and_undo {e : Editor TextField} (rests : e.Rests) (fresh : e.modes.normal.keys = [])
    (bounds : e.control.draft.InBounds) (block : e.control.selection.length ≤ 1) {count : Nat}
    (positive : 1 ≤ count) (allowed : count ≤ e.modes.normal.reader.maxCount) (small : count ≤ countLimit) :
    let text := e.control.text
    let cursor := e.control.selection.offset
    let stop := min (cursor + count) text.length
    let rest := text.take cursor ++ text.drop stop
    (∀ inputs, Types e.settle count 'x' inputs →
        let after := e.run inputs
        after.mode = .normal ∧ after.deadline? = none ∧ after.control.text = rest ∧
          after.control.selection = ⟨cursor, min 1 (rest.length - cursor)⟩ ∧
          ∀ digits back, 1 ≤ stop - cursor → stop - cursor ≤ 100 → SpellsCount digits (stop - cursor) →
            presses back = KeyPress.ofText (digits ++ ['u']) →
            (after.run back).mode = .normal ∧ (after.run back).deadline? = none ∧
              (after.run back).control.text = text) ∧
      (e.detector.held = none → e.control.selection.length = 1 →
        ∀ digits inputs, SpellsCount digits count → presses inputs = KeyPress.ofText (digits ++ ['s']) →
          (e.run inputs).mode = .insert ∧ (e.run inputs).control.draft = ⟨rest, cursor, cursor⟩) := by
  intro text cursor stop rest
  obtain ⟨more, rfl⟩ := Nat.exists_eq_add_of_le' positive
  have within : cursor ≤ text.length := Draft.start_le_length bounds
  have cut : text.take cursor ++ text.drop (cursor + (more + 1)) = rest := by
    have same : text.drop (cursor + (more + 1)) = text.drop stop := by simp [List.drop_eq_drop_iff, stop]
    exact congrArg (text.take cursor ++ ·) same
  have removed : min (more + 1) (text.length - cursor) = stop - cursor := by omega
  constructor
  · intro inputs types after
    obtain ⟨strokes, carried, edited, draft⟩ := deleted_by_x rests fresh bounds allowed small block types
    rw [removed] at edited
    rw [cut, ← carried.control] at draft
    have inside : cursor ≤ rest.length := by
      rw [Text.length_take_append_drop within]
      exact Nat.le_add_right _ _
    have shown : after.control.selection = ⟨cursor, min 1 (rest.length - cursor)⟩ :=
      (congrArg Draft.selection draft).trans (Draft.selection_shown inside)
    refine ⟨carried.rests.1, carried.rests.deadline, congrArg Draft.text draft, shown, ?_⟩
    intro digits back removes few spelled typed
    exact carried.text_run_of_undo edited removes few (by omega) spelled typed
  · intro free one digits inputs spelled typed
    rw [← cut]
    exact changed_by_s rests fresh bounds allowed small free one spelled typed

/-- Four characters from the last but one on: two are left to delete, and two undos bring them back. -/
theorem delete_chars_and_undo_of_two :
    let field := (TextField.ofText "abcde".toList).select ⟨3, 1⟩
    let start := { Settings.usual with startMode := .normal }.editor field
    let typing (keys : List Char) : List Input := (KeyPress.ofText keys).map (.key · 0)
    let after := start.run (typing ['4', 'x'] ++ [.tick 5])
    after.control.text = "abc".toList ∧ after.control.selection = ⟨3, 0⟩ ∧
      (after.run (typing ['2', 'u'])).control.text = "abcde".toList ∧
      (start.run (typing ['4', 's'])).control.draft = ⟨"abc".toList, 3, 3⟩ := by
  intro field start typing after
  have four : SpellsCount ['4'] 4 := .inl (by decide)
  have two : SpellsCount ['2'] 2 := .inl (by decide)
  obtain ⟨delete, change⟩ := delete_chars_and_undo (e := start) ⟨rfl, rfl⟩ rfl
    (Draft.inBounds_select _ _) (by decide) (by decide : 1 ≤ 4) (by decide) (by decide)
  have types : Types start.settle 4 'x' (typing ['4', 'x'] ++ [.tick 5]) := .intro four (by decide) (by decide)
  obtain ⟨-, -, left, shown, undo⟩ := delete _ types
  obtain ⟨-, -, restored⟩ := undo ['2'] (typing ['2', 'u']) (by decide) (by decide) two (by decide)
  obtain ⟨-, changed⟩ := change rfl (by decide) ['4'] (typing ['4', 's']) four (by decide)
  exact ⟨left.trans (by decide), shown.trans (by decide), restored.trans (by decide), changed.trans (by decide)⟩

end Editor

end ModalKeys
