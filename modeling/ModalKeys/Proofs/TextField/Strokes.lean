import ModalKeys.Proofs.TextField.Caret
import ModalKeys.Proofs.Text.CutLines

/-!
# What strokes do to a draft

Moves take the head along its line, backspace removes what is selected or the character before the
caret. In a row they cut lines out.
-/

namespace ModalKeys

namespace Draft

variable (d : Draft)

theorem move_lineStart :
    d.move (.left .line) false = ⟨d.text, Text.lineStart d.text d.head, Text.lineStart d.text d.head⟩ := by
  have within := Nat.min_eq_left (Text.lineStart_le_length d.text d.head)
  simp only [move, moveTo, target, within]
  rfl

theorem extend_lineEnd :
    d.move (.right .line) true = ⟨d.text, d.anchor, Text.lineEnd d.text d.head⟩ := by
  have within := Nat.min_eq_left (Text.lineEnd_le_length d.text d.head)
  simp only [move, moveTo, target, within]
  rfl

theorem extend_right :
    d.move (.right .char) true = ⟨d.text, d.anchor, min (d.head + 1) d.text.length⟩ := by
  simp only [move, moveTo, target, Bool.true_or, ↓reduceIte, Nat.min_assoc, Nat.min_self]

theorem hasSelection_iff {d : Draft} : d.hasSelection = true ↔ d.start < d.stop := by
  unfold hasSelection start stop
  rw [bne_iff_ne]
  omega

theorem stop_selection (d : Draft) : d.selection.stop = d.stop :=
  Nat.add_sub_cancel' d.start_le_stop

/-- The head of a block is at its start or behind its one character. -/
theorem head_of_block (block : d.selection.length ≤ 1) :
    d.head = d.selection.offset ∨ d.head = d.selection.offset + 1 := by
  simp only [selection, start, stop] at block ⊢
  omega

/-- What backspace leaves: the selection is gone, or the character before the caret. -/
def backspaced (d : Draft) : Draft :=
  if d.hasSelection then d.splice d.start d.stop [] else d.splice (d.head - 1) d.head []

theorem backspaced_of_lt {d : Draft} (before : d.anchor < d.head) :
    d.backspaced = d.splice d.anchor d.head [] := by
  have selected : d.hasSelection = true := bne_iff_ne.mpr (Nat.ne_of_lt before)
  have first : d.start = d.anchor := Nat.min_eq_left (Nat.le_of_lt before)
  have last : d.stop = d.head := Nat.max_eq_right (Nat.le_of_lt before)
  rw [backspaced, if_pos selected, first, last]

theorem backspaced_of_gt {d : Draft} (after : d.head < d.anchor) :
    d.backspaced = d.splice d.head d.anchor [] := by
  have selected : d.hasSelection = true := bne_iff_ne.mpr (Nat.ne_of_gt after)
  have first : d.start = d.head := Nat.min_eq_right (Nat.le_of_lt after)
  have last : d.stop = d.anchor := Nat.max_eq_left (Nat.le_of_lt after)
  rw [backspaced, if_pos selected, first, last]

theorem backspaced_of_caret {d : Draft} (caret : d.IsCaret) :
    d.backspaced = d.splice (d.head - 1) d.head [] := by
  have unselected : ¬ d.hasSelection = true := by
    rw [hasSelection, caret]
    simp
  rw [backspaced, if_neg unselected]

end Draft

namespace TextField

theorem draft_inject_of_move (f : TextField) {stroke : Keystroke} {arrow : Arrow} {extend : Bool}
    (moves : Shortcut.ofKeystroke stroke = .move arrow extend) :
    (Control.inject f stroke).draft = f.draft.move arrow extend := by
  change ((f.record stroke).perform (Shortcut.ofKeystroke stroke)).draft = _
  rw [moves]
  rfl

theorem draft_commandLeft (f : TextField) :
    (Control.inject f (.command .left)).draft =
      ⟨f.draft.text, Text.lineStart f.draft.text f.draft.head, Text.lineStart f.draft.text f.draft.head⟩ :=
  (draft_inject_of_move f rfl).trans f.draft.move_lineStart

theorem draft_commandShiftRight (f : TextField) :
    (Control.inject f (.commandShift .right)).draft =
      ⟨f.draft.text, f.draft.anchor, Text.lineEnd f.draft.text f.draft.head⟩ :=
  (draft_inject_of_move f rfl).trans f.draft.extend_lineEnd

/-- The line of the head is selected. -/
theorem draft_selectLine (f : TextField) :
    let first := Text.lineStart f.text f.draft.head
    (Control.injectAll f [.command .left, .commandShift .right]).draft =
      ⟨f.text, first, Text.lineEnd f.text first⟩ := by
  change (Control.inject (Control.inject f (.command .left)) (.commandShift .right)).draft = _
  rw [draft_commandShiftRight, draft_commandLeft]
  rfl

theorem draft_shiftRight (f : TextField) :
    (Control.inject f (.shifted .right)).draft =
      ⟨f.draft.text, f.draft.anchor, min (f.draft.head + 1) f.draft.text.length⟩ :=
  (draft_inject_of_move f rfl).trans f.draft.extend_right

theorem draft_deleteRange (f : TextField) {first last : Nat} (before : first < last) :
    (f.deleteRange first last).draft = f.draft.splice first last [] := by
  rw [deleteRange, if_pos before]
  rfl

theorem draft_backspace (f : TextField) :
    (Control.inject f (.plain .backspace)).draft = f.draft.backspaced := by
  change (if f.draft.hasSelection then (f.record _).deleteRange f.draft.start f.draft.stop
    else (f.record _).deleteRange (f.draft.head - 1) f.draft.head).draft = _
  rw [Draft.backspaced]
  split
  · next selected =>
      exact draft_deleteRange _ (Draft.hasSelection_iff.mp selected)
  · next unselected =>
      have caret := isCaret_of_not_hasSelection unselected
      by_cases first : f.draft.head = 0
      · obtain ⟨⟨text, anchor, head⟩, clipboard, undo, redo, introspection, log⟩ := f
        cases first
        cases caret
        rfl
      · exact draft_deleteRange _ (Nat.sub_one_lt first)

theorem clipboard_deleteRange (f : TextField) (first last : Nat) :
    (f.deleteRange first last).clipboard = f.clipboard := by
  unfold deleteRange
  split <;> rfl

theorem clipboard_replaceSelection (f : TextField) (inserted : List Char) :
    (f.replaceSelection inserted).clipboard = f.clipboard := by
  unfold replaceSelection
  split <;> rfl

def cutStrokes : List Keystroke :=
  [.command .left, .commandShift .right, .shifted .right, .plain .backspace]

theorem draft_cutStrokes (f : TextField) :
    (Control.injectAll f cutStrokes).draft =
      let cut := Text.cutLine f.draft.text f.draft.head
      ⟨cut.1, cut.2, cut.2⟩ := by
  have within := Text.lineStart_le_length f.draft.text f.draft.head
  have selected : (Control.injectAll f [.command .left, .commandShift .right, .shifted .right]).draft =
      ⟨f.draft.text, Text.lineStart f.draft.text f.draft.head,
        Text.nextLine f.draft.text (Text.lineStart f.draft.text f.draft.head)⟩ := by
    change (Control.inject (Control.inject (Control.inject f (.command .left)) (.commandShift .right))
      (.shifted .right)).draft = _
    rw [draft_shiftRight, draft_commandShiftRight, draft_commandLeft, Text.nextLine]
  change (Control.inject (Control.injectAll f [.command .left, .commandShift .right, .shifted .right])
    (.plain .backspace)).draft = _
  generalize Control.injectAll f [.command .left, .commandShift .right, .shifted .right] = g at selected ⊢
  rw [Text.cutLine]
  dsimp only
  split
  · next before =>
      rw [draft_backspace, Draft.backspaced_of_lt (by rwa [selected]), selected]
      simp [Draft.splice]
  · next nothing =>
      have ends := Nat.le_antisymm (Text.le_nextLine within) (Nat.le_of_not_lt nothing)
      rw [draft_backspace, Draft.backspaced_of_caret (by rw [selected]; exact ends), selected]
      simp [Draft.splice, ← ends]

theorem draft_repeated_cutStrokes (f : TextField) (count : Nat) :
    (Control.injectAll f (repeated cutStrokes (count + 1))).draft =
      let cut := Text.cutLines (count + 1) (f.draft.text, f.draft.head)
      ⟨cut.1, cut.2, cut.2⟩ := by
  induction count generalizing f with
  | zero => exact draft_cutStrokes f
  | succ count ih =>
      rw [repeated_succ, Control.injectAll_append, ih, draft_cutStrokes]
      rfl

end TextField

end ModalKeys
