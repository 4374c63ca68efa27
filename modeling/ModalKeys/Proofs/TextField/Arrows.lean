import ModalKeys.Command.Strokes
import ModalKeys.Proofs.Text.Columns
import ModalKeys.Proofs.TextField.RestOfLine

/-!
# Arrows

A move changes what is selected in a field and nothing else. A plain arrow, pressed again and again, takes
a caret along the characters of the text or along its lines, as far as these go.
-/

namespace ModalKeys

open Text (lineUp lineDown lineEnd runEnd isWordChar)

namespace Draft

variable {text : List Char} {pos : Nat}

def stepped (text : List Char) (arrow : Arrow) (pos : Nat) : Nat := (move ⟨text, pos, pos⟩ arrow false).head

theorem move_caret (text : List Char) (arrow : Arrow) (pos : Nat) :
    move ⟨text, pos, pos⟩ arrow false = ⟨text, stepped text arrow pos, stepped text arrow pos⟩ := rfl

theorem hasSelection_caret (text : List Char) (pos : Nat) : hasSelection ⟨text, pos, pos⟩ = false :=
  bne_self_eq_false pos

theorem stepped_left (within : pos ≤ text.length) : stepped text (.left .char) pos = pos - 1 := by
  simp only [stepped, move, moveTo, target, hasSelection_caret, Bool.not_false, Bool.or_true, ↓reduceIte]
  exact Nat.min_eq_left (Nat.le_trans (Nat.sub_le pos 1) within)

theorem stepped_right (text : List Char) (pos : Nat) :
    stepped text (.right .char) pos = min (pos + 1) text.length := by
  simp only [stepped, move, moveTo, target, hasSelection_caret, Bool.not_false, Bool.or_true, ↓reduceIte]
  exact Nat.min_eq_left (Nat.min_le_right _ _)

theorem stepped_up (text : List Char) : stepped text .up = lineUp text := by
  funext pos
  have same : start ⟨text, pos, pos⟩ = pos := Nat.min_self pos
  change min (lineUp text (start ⟨text, pos, pos⟩)) text.length = _
  rw [same, Nat.min_eq_left (Text.lineUp_le_length text pos)]

theorem stepped_down (text : List Char) : stepped text .down = lineDown text := by
  funext pos
  have same : stop ⟨text, pos, pos⟩ = pos := Nat.max_self pos
  change min (lineDown text (stop ⟨text, pos, pos⟩)) text.length = _
  rw [same, Nat.min_eq_left (Text.lineDown_le_length text pos)]

theorem extend_down (d : Draft) : d.move .down true = ⟨d.text, d.anchor, lineDown d.text d.head⟩ := by
  have within := Nat.min_eq_left (Text.lineDown_le_length d.text d.head)
  simp only [move, moveTo, target, ↓reduceIte, within]

theorem stepped_lineEnd (text : List Char) (pos : Nat) : stepped text (.right .line) pos = lineEnd text pos :=
  Nat.min_eq_left (Text.lineEnd_le_length text pos)

theorem iterate_stepped_left (within : pos ≤ text.length) (count : Nat) :
    (stepped text (.left .char))^[count] pos = pos - count := by
  induction count with
  | zero => rfl
  | succ count ih =>
      rw [Function.iterate_succ_apply', ih, stepped_left (Nat.le_trans (Nat.sub_le pos count) within),
        Nat.sub_sub]

theorem iterate_stepped_right (within : pos ≤ text.length) (count : Nat) :
    (stepped text (.right .char))^[count] pos = min text.length (pos + count) := by
  induction count with
  | zero => exact (Nat.min_eq_right within).symm
  | succ count ih =>
      rw [Function.iterate_succ_apply', ih, stepped_right]
      omega

theorem stepped_le_length (text : List Char) (arrow : Arrow) (pos : Nat) :
    stepped text arrow pos ≤ text.length := Nat.min_le_right _ _

theorem stepped_wordRight (within : pos ≤ text.length) :
    stepped text (.right .word) pos = runEnd isWordChar text (runEnd (fun c => !isWordChar c) text pos) := by
  have skipped := Text.runEnd_le_length (fun c => !isWordChar c) within
  change min (runEnd isWordChar text (runEnd _ text (min pos text.length))) text.length = _
  rw [Nat.min_eq_left within, Nat.min_eq_left (Text.runEnd_le_length isWordChar skipped)]

/-- A jump to the right goes on, unless the text ends. -/
theorem lt_stepped_wordRight (inside : pos < text.length) : pos < stepped text (.right .word) pos := by
  rw [stepped_wordRight (Nat.le_of_lt inside)]
  by_cases word : isWordChar text[pos] = true
  · have stays : runEnd (fun c => !isWordChar c) text pos = pos :=
      Text.runEnd_of_fails inside (by rw [word]; nofun)
    rw [stays]
    exact Text.lt_runEnd inside word
  · have skips : pos < runEnd (fun c => !isWordChar c) text pos :=
      Text.lt_runEnd inside (by rw [eq_false_of_ne_true word]; rfl)
    exact Nat.lt_of_lt_of_le skips (Text.le_runEnd _ _ _)

theorem stepped_wordRight_length (text : List Char) :
    stepped text (.right .word) text.length = text.length := by
  have stays := Nat.le_antisymm (Text.runEnd_le_length (fun c => !isWordChar c) (Nat.le_refl text.length))
    (Text.le_runEnd _ text _)
  rw [stepped_wordRight (Nat.le_refl _), stays]
  exact Nat.le_antisymm (Text.runEnd_le_length _ (Nat.le_refl _)) (Text.le_runEnd _ _ _)

/-- A jump to the left goes back, unless the text begins. -/
theorem stepped_wordLeft_lt (positive : 0 < pos) (within : pos ≤ text.length) :
    stepped text (.left .word) pos < pos := by
  have front : (text.take pos).reverse.length = pos := by
    rw [List.length_reverse, List.length_take_of_le within]
  refine Nat.lt_of_le_of_lt (Nat.min_le_left _ _) ?_
  change (((text.take pos).reverse.dropWhile fun c => !isWordChar c).dropWhile isWordChar).length < pos
  cases before : (text.take pos).reverse with
  | nil =>
      rw [before] at front
      exact absurd front (Nat.ne_of_lt positive)
  | cons c rest =>
      rw [before, List.length_cons] at front
      rw [← front, Nat.lt_succ_iff]
      by_cases word : isWordChar c = true
      · rw [List.dropWhile_cons_of_neg (by rw [word]; nofun), List.dropWhile_cons_of_pos word]
        exact (List.dropWhile_sublist _).length_le
      · rw [List.dropWhile_cons_of_pos (by rw [eq_false_of_ne_true word]; rfl)]
        exact ((List.dropWhile_sublist _).trans (List.dropWhile_sublist _)).length_le

theorem selection_caret (text : List Char) (pos : Nat) : selection ⟨text, pos, pos⟩ = ⟨pos, 0⟩ := by
  simp [selection, start, stop]

theorem eq_of_length_eq_zero {d : Draft} (caret : d.selection.length = 0) :
    d = ⟨d.text, d.selection.offset, d.selection.offset⟩ := by
  obtain ⟨text, anchor, head⟩ := d
  have same : anchor = head := by
    simp only [selection, start, stop] at caret
    omega
  cases same
  rw [selection_caret]

theorem selection_of_le {text : List Char} {anchor head : Nat} (onward : anchor ≤ head) :
    selection ⟨text, anchor, head⟩ = ⟨anchor, head - anchor⟩ := by
  simp only [selection, start, stop, Nat.min_eq_left onward, Nat.max_eq_right onward]

/-- A left arrow takes a selection to its start. -/
theorem leftward_of_selected {d : Draft} (selected : d.start < d.stop) : d.leftward = d.start := by
  rw [leftward, if_pos (hasSelection_iff.mpr selected)]

/-- A left arrow takes a caret one character back. -/
theorem leftward_of_isCaret {d : Draft} (caret : d.IsCaret) : d.leftward = d.start - 1 := by
  have nothing : ¬ d.hasSelection = true := by
    rw [hasSelection, caret, bne_self_eq_false]
    exact Bool.false_ne_true
  rw [leftward, if_neg nothing]

/-- A left arrow takes a block to its start, and a caret one character back. -/
theorem leftward_of_block {d : Draft} (block : d.selection.length ≤ 1) :
    d.leftward = if d.selection.length = 1 then d.selection.offset else d.selection.offset - 1 := by
  have length : d.selection.length = d.stop - d.start := rfl
  split
  · next one => exact leftward_of_selected (by omega)
  · next other =>
      refine leftward_of_isCaret ?_
      unfold start stop at length
      unfold IsCaret
      omega

theorem leftward_of_one {d : Draft} (one : d.selection.length = 1) : d.leftward = d.selection.offset :=
  (leftward_of_block (Nat.le_of_eq one)).trans (if_pos one)

/-- The block shown at a caret: the character after it, if there is one. -/
theorem selection_shown (within : pos ≤ text.length) :
    selection ⟨text, pos, min (pos + 1) text.length⟩ = ⟨pos, min 1 (text.length - pos)⟩ := by
  have first : start ⟨text, pos, min (pos + 1) text.length⟩ = pos :=
    Nat.min_eq_left (Nat.le_min.mpr ⟨Nat.le_succ pos, within⟩)
  have last : stop ⟨text, pos, min (pos + 1) text.length⟩ = min (pos + 1) text.length :=
    Nat.max_eq_right (Nat.le_min.mpr ⟨Nat.le_succ pos, within⟩)
  rw [selection, first, last, Selection.mk.injEq]
  omega

/-- A left arrow takes back the block that is shown at a caret, if there was anything to show. -/
theorem leftward_shown {text : List Char} {pos : Nat} (within : pos ≤ text.length) :
    leftward ⟨text, pos, min (pos + 1) text.length⟩ = if pos < text.length then pos else pos - 1 := by
  have shown := selection_shown within
  have block : (selection ⟨text, pos, min (pos + 1) text.length⟩).length ≤ 1 := by
    rw [shown]
    exact Nat.min_le_left _ _
  rw [leftward_of_block block, shown]
  dsimp only
  split <;> split <;> omega

end Draft

/-! ## Moves -/

/-- The stroke moves the caret or the head of the selection. -/
def Keystroke.Moves (stroke : Keystroke) : Prop :=
  ∃ arrow extend, Shortcut.ofKeystroke stroke = .move arrow extend

theorem moves_arrow (direction : Text.Direction) : (arrow direction).Moves := by
  cases direction <;> exact ⟨_, _, rfl⟩

namespace TextField

/-- What an edit could have changed is the same in both states of a field. -/
structure SameContent (f g : TextField) : Prop where
  text : g.text = f.text
  clipboard : g.clipboard = f.clipboard
  undo : g.undo = f.undo
  redo : g.redo = f.redo

namespace SameContent

theorem refl (f : TextField) : SameContent f f := ⟨rfl, rfl, rfl, rfl⟩

theorem trans {f g h : TextField} (first : SameContent f g) (second : SameContent g h) : SameContent f h :=
  ⟨second.text.trans first.text, second.clipboard.trans first.clipboard, second.undo.trans first.undo,
    second.redo.trans first.redo⟩

theorem inject (f : TextField) {stroke : Keystroke} (moves : stroke.Moves) :
    SameContent f (Control.inject f stroke) := by
  obtain ⟨arrow, extend, shortcut⟩ := moves
  change SameContent f ((f.record stroke).perform (Shortcut.ofKeystroke stroke))
  rw [shortcut]
  exact ⟨rfl, rfl, rfl, rfl⟩

theorem injectAll (f : TextField) {strokes : List Keystroke} (moves : ∀ stroke ∈ strokes, stroke.Moves) :
    SameContent f (Control.injectAll f strokes) := by
  induction strokes generalizing f with
  | nil => exact refl f
  | cons stroke rest ih =>
      have first := inject f (moves stroke List.mem_cons_self)
      exact first.trans (ih (Control.inject f stroke) fun later listed =>
        moves later (List.mem_cons_of_mem _ listed))

end SameContent

/-- Strokes that take every caret of a text one step on, a number of times over. -/
theorem draft_repeated {strokes : List Keystroke} {text : List Char} {step : Nat → Nat}
    (once : ∀ {f : TextField} {pos : Nat}, f.draft = ⟨text, pos, pos⟩ →
      (Control.injectAll f strokes).draft = ⟨text, step pos, step pos⟩)
    {f : TextField} {pos : Nat} (caret : f.draft = ⟨text, pos, pos⟩) (count : Nat) :
    (Control.injectAll f (repeated strokes count)).draft =
      let there := step^[count] pos
      ⟨text, there, there⟩ := by
  induction count generalizing f pos with
  | zero => exact caret
  | succ count ih =>
      rw [repeated_succ, Control.injectAll_append]
      exact ih (once caret)

theorem draft_arrow (stroke : Keystroke) (arrow : Arrow)
    (moves : Shortcut.ofKeystroke stroke = .move arrow false) {f : TextField} {text : List Char} {pos : Nat}
    (caret : f.draft = ⟨text, pos, pos⟩) :
    (Control.inject f stroke).draft = ⟨text, Draft.stepped text arrow pos, Draft.stepped text arrow pos⟩ := by
  have stepped := draft_inject_of_move f moves
  rwa [caret, Draft.move_caret] at stepped

/-- A plain arrow, pressed a number of times at a caret. -/
theorem draft_repeated_arrow (stroke : Keystroke) (arrow : Arrow)
    (moves : Shortcut.ofKeystroke stroke = .move arrow false) {f : TextField} {text : List Char} {pos : Nat}
    (caret : f.draft = ⟨text, pos, pos⟩) (count : Nat) :
    (Control.injectAll f (repeated [stroke] count)).draft =
      let there := (Draft.stepped text arrow)^[count] pos
      ⟨text, there, there⟩ :=
  draft_repeated (draft_arrow stroke arrow moves) caret count

/-- Between two offsets of the text there are as many arrows as characters. -/
theorem draft_arrowSteps {f : TextField} {text : List Char} {pos there : Nat}
    (caret : f.draft = ⟨text, pos, pos⟩) (within : pos ≤ text.length) (reached : there ≤ text.length) :
    let steps := Text.arrowSteps pos there
    (Control.injectAll f (repeated [arrow steps.2] steps.1)).draft = ⟨text, there, there⟩ := by
  dsimp only [Text.arrowSteps]
  split
  · next forward =>
      have right := draft_repeated_arrow (.plain .right) (.right .char) rfl caret (there - pos)
      rw [Draft.iterate_stepped_right within, Nat.add_sub_cancel' forward, Nat.min_eq_right reached] at right
      exact right
  · next backward =>
      have left := draft_repeated_arrow (.plain .left) (.left .char) rfl caret (pos - there)
      rw [Draft.iterate_stepped_left within, Nat.sub_sub_self (Nat.le_of_not_le backward)] at left
      exact left

end TextField

end ModalKeys
