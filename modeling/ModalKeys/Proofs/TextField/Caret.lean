import ModalKeys.Proofs.Editor.Commanding
import ModalKeys.Proofs.Keyboard.Replay
import ModalKeys.TextField.Basic

/-!
# Carets and blocks

The offsets of a field stay inside its text, also in its history. Most strokes leave a caret behind,
whatever was selected before, and one step with Shift makes a caret into a block.
-/

namespace ModalKeys

namespace Draft

structure InBounds (d : Draft) : Prop where
  anchor : d.anchor ≤ d.text.length
  head : d.head ≤ d.text.length

theorem inBounds_ofText (text : List Char) : (ofText text).InBounds :=
  ⟨Nat.zero_le _, Nat.zero_le _⟩

theorem inBounds_select (d : Draft) (s : Selection) : (d.select s).InBounds :=
  ⟨Nat.min_le_right _ _, Nat.min_le_right _ _⟩

theorem inBounds_move {d : Draft} (bounds : d.InBounds) (arrow : Arrow) (extend : Bool) :
    (d.move arrow extend).InBounds := by
  refine ⟨?_, Nat.min_le_right _ _⟩
  cases extend
  · exact Nat.min_le_right _ _
  · exact bounds.anchor

theorem inBounds_splice (d : Draft) {first : Nat} (within : first ≤ d.text.length) (last : Nat)
    (inserted : List Char) : (d.splice first last inserted).InBounds := by
  constructor <;>
    simp only [splice, List.length_append, List.length_take, Nat.min_eq_left within] <;>
    omega

theorem start_le_stop (d : Draft) : d.start ≤ d.stop :=
  Nat.le_trans (Nat.min_le_left _ _) (Nat.le_max_left _ _)

theorem start_le_length {d : Draft} (bounds : d.InBounds) : d.start ≤ d.text.length :=
  Nat.le_trans (Nat.min_le_left _ _) bounds.anchor

theorem stop_le_length {d : Draft} (bounds : d.InBounds) : d.stop ≤ d.text.length :=
  Nat.max_le.mpr ⟨bounds.anchor, bounds.head⟩

end Draft

namespace TextField

variable {f : TextField}

structure InBounds (f : TextField) : Prop where
  draft : f.draft.InBounds
  undo : ∀ d ∈ f.undo, d.InBounds
  redo : ∀ d ∈ f.redo, d.InBounds

theorem inBounds_ofText (text : List Char) : (ofText text).InBounds :=
  ⟨Draft.inBounds_ofText text, nofun, nofun⟩

theorem inBounds_select (bounds : f.InBounds) (s : Selection) : (f.select s).InBounds :=
  ⟨Draft.inBounds_select _ s, bounds.undo, bounds.redo⟩

namespace InBounds

theorem pushUndo (bounds : f.InBounds) : ∀ d ∈ f.pushUndo.undo, d.InBounds := by
  intro d listed
  rcases List.mem_cons.mp (List.mem_of_mem_take listed) with same | older
  · rw [same]
    exact bounds.draft
  · exact bounds.undo d older

theorem edit (bounds : f.InBounds) {d : Draft} (inside : d.InBounds) : (f.edit d).InBounds :=
  ⟨inside, bounds.pushUndo, nofun⟩

theorem deleteRange (bounds : f.InBounds) (first : Nat) {last : Nat}
    (within : last ≤ f.draft.text.length) : (f.deleteRange first last).InBounds := by
  unfold TextField.deleteRange
  split
  · next before => exact bounds.edit (Draft.inBounds_splice _ (by omega) _ _)
  · exact bounds

theorem deleteSelection (bounds : f.InBounds) : f.deleteSelection.InBounds :=
  bounds.deleteRange _ (Draft.stop_le_length bounds.draft)

theorem replaceSelection (bounds : f.InBounds) (inserted : List Char) :
    (f.replaceSelection inserted).InBounds := by
  unfold TextField.replaceSelection
  split
  · exact bounds
  · exact bounds.edit (Draft.inBounds_splice _ (Draft.start_le_length bounds.draft) _ _)

theorem copy (bounds : f.InBounds) : f.copy.InBounds := by
  unfold TextField.copy
  split
  · exact ⟨bounds.draft, bounds.undo, bounds.redo⟩
  · exact bounds

theorem undoEdit (bounds : f.InBounds) : f.undoEdit.InBounds := by
  unfold TextField.undoEdit
  split
  · exact bounds
  · next previous rest undo =>
      have older := bounds.undo
      rw [undo] at older
      refine ⟨older previous List.mem_cons_self, fun d listed => older d (List.mem_cons_of_mem _ listed), ?_⟩
      intro d listed
      rcases List.mem_cons.mp listed with same | newer
      · rw [same]
        exact bounds.draft
      · exact bounds.redo d newer

theorem redoEdit (bounds : f.InBounds) : f.redoEdit.InBounds := by
  unfold TextField.redoEdit
  split
  · exact bounds
  · next next rest redo =>
      have newer := bounds.redo
      rw [redo] at newer
      exact ⟨newer next List.mem_cons_self, bounds.pushUndo,
        fun d listed => newer d (List.mem_cons_of_mem _ listed)⟩

theorem perform (bounds : f.InBounds) (shortcut : Shortcut) : (f.perform shortcut).InBounds := by
  cases shortcut with
  | move arrow extend =>
      exact ⟨Draft.inBounds_move bounds.draft arrow extend, bounds.undo, bounds.redo⟩
  | deleteBackward reach =>
      unfold TextField.perform
      dsimp only
      split
      · exact bounds.deleteSelection
      · exact bounds.deleteRange _ bounds.draft.head
  | deleteForward =>
      unfold TextField.perform
      dsimp only
      split
      · exact bounds.deleteSelection
      · exact bounds.deleteRange _ (Nat.min_le_right _ _)
  | selectAll => exact ⟨⟨Nat.zero_le _, Nat.le_refl _⟩, bounds.undo, bounds.redo⟩
  | copy => exact bounds.copy
  | cut => exact bounds.copy.deleteSelection
  | paste => exact bounds.replaceSelection _
  | undo => exact bounds.undoEdit
  | redo => exact bounds.redoEdit
  | insert c => exact bounds.replaceSelection _
  | unassigned => exact bounds

theorem press (bounds : f.InBounds) (stroke : Keystroke) : (f.press stroke).InBounds :=
  bounds.perform _

theorem injectAll (bounds : f.InBounds) (strokes : List Keystroke) :
    (Control.injectAll f strokes).InBounds := by
  induction strokes generalizing f with
  | nil => exact bounds
  | cons stroke rest ih =>
      have recorded : (f.record stroke).InBounds := ⟨bounds.draft, bounds.undo, bounds.redo⟩
      exact ih (recorded.press stroke)

end InBounds

end TextField

def Draft.IsCaret (d : Draft) : Prop := d.anchor = d.head

def Shortcut.collapses : Shortcut → Bool
  | .move _ extend => !extend
  | .deleteBackward _ | .deleteForward | .cut | .paste | .insert _ => true
  | .selectAll | .copy | .undo | .redo | .unassigned => false

def Keystroke.collapses (stroke : Keystroke) : Bool := (Shortcut.ofKeystroke stroke).collapses

namespace TextField

variable (f : TextField)

theorem isCaret_of_not_hasSelection {d : Draft} (none : ¬ d.hasSelection = true) : d.IsCaret := by
  unfold Draft.IsCaret
  simpa [Draft.hasSelection] using none

theorem isCaret_deleteSelection : f.deleteSelection.draft.IsCaret := by
  unfold deleteSelection deleteRange
  split
  · exact rfl
  · next same =>
      unfold Draft.start Draft.stop at same
      unfold Draft.IsCaret
      omega

theorem isCaret_deleteRange (caret : f.draft.IsCaret) (first last : Nat) :
    (f.deleteRange first last).draft.IsCaret := by
  unfold deleteRange
  split
  · exact rfl
  · exact caret

theorem isCaret_replaceSelection (inserted : List Char) :
    (f.replaceSelection inserted).draft.IsCaret := by
  unfold replaceSelection
  split
  · next nothing =>
      simp only [Bool.and_eq_true, Bool.not_eq_true'] at nothing
      exact isCaret_of_not_hasSelection (by rw [nothing.2]; nofun)
  · exact rfl

theorem isCaret_perform {shortcut : Shortcut} (collapses : shortcut.collapses = true) :
    (f.perform shortcut).draft.IsCaret := by
  cases shortcut with
  | move arrow extend =>
      cases extend with
      | false => exact rfl
      | true => cases collapses
  | deleteBackward reach =>
      unfold perform
      dsimp only
      split
      · exact isCaret_deleteSelection f
      · next none => exact isCaret_deleteRange f (isCaret_of_not_hasSelection none) _ _
  | deleteForward =>
      unfold perform
      dsimp only
      split
      · exact isCaret_deleteSelection f
      · next none => exact isCaret_deleteRange f (isCaret_of_not_hasSelection none) _ _
  | cut => exact isCaret_deleteSelection _
  | paste => exact isCaret_replaceSelection f _
  | insert c => exact isCaret_replaceSelection f _
  | selectAll | copy | undo | redo | unassigned => cases collapses

theorem isCaret_press {stroke : Keystroke} (collapses : stroke.collapses = true) :
    (f.press stroke).draft.IsCaret :=
  isCaret_perform f collapses

end TextField

def EndsInCaret (strokes : List Keystroke) : Prop :=
  ∃ before last, strokes = before ++ [last] ∧ last.collapses = true

namespace EndsInCaret

theorem single {stroke : Keystroke} (collapses : stroke.collapses = true) : EndsInCaret [stroke] :=
  ⟨[], stroke, rfl, collapses⟩

theorem append {strokes : List Keystroke} (ends : EndsInCaret strokes) (first : List Keystroke) :
    EndsInCaret (first ++ strokes) := by
  obtain ⟨before, last, rfl, collapses⟩ := ends
  exact ⟨first ++ before, last, (List.append_assoc _ _ _).symm, collapses⟩

theorem repeated {strokes : List Keystroke} (ends : EndsInCaret strokes) {count : Nat}
    (positive : 1 ≤ count) : EndsInCaret (repeated strokes count) := by
  obtain ⟨more, rfl⟩ := Nat.exists_eq_add_of_le' positive
  rw [ModalKeys.repeated, List.replicate_succ', List.flatten_append, List.flatten_singleton]
  exact ends.append _

theorem repeating {group : List Keystroke} (ends : EndsInCaret group) {times : Nat} (positive : 1 ≤ times) :
    EndsInCaret (Plan.repeating group times).now := by
  rw [Plan.now_repeating]
  exact ends.repeated positive

theorem collapsing {group : List Keystroke} (ends : EndsInCaret group) {times : Nat} (positive : 1 ≤ times) :
    EndsInCaret (Plan.collapsing group times).now := by
  rw [Plan.now_collapsing]
  exact (ends.repeated positive).append [.plain .left]

theorem isCaret {strokes : List Keystroke} (ends : EndsInCaret strokes) (f : TextField) :
    (Control.injectAll f strokes).draft.IsCaret := by
  obtain ⟨before, last, rfl, collapses⟩ := ends
  rw [Control.injectAll_append]
  exact TextField.isCaret_press _ collapses

end EndsInCaret

/-! ## Commands -/

/-- Every edit leaves a caret, apart from the copy and the two that bring back an earlier draft. -/
theorem Edit.endsInCaret_plan {edit : Edit} (changes : edit ≠ .yank ∧ edit ≠ .undo ∧ edit ≠ .redo)
    {count : Nat} (positive : 1 ≤ count) : EndsInCaret (edit.plan count).now := by
  obtain ⟨notYank, notUndo, notRedo⟩ := changes
  cases edit with
  | deleteChar => exact EndsInCaret.repeating (.single rfl) positive
  | deleteLine => exact .repeating ⟨[.command .left, .commandShift .right, .shifted .right], _, rfl, rfl⟩ positive
  | changeChar => exact EndsInCaret.repeating (.single rfl) positive
  | changeLine => exact .repeating ⟨[.command .left, .commandShift .right], _, rfl, rfl⟩ positive
  | deleteToLineEnd | changeToLineEnd => exact ⟨[.commandShift .right], _, rfl, rfl⟩
  | yankLine => exact EndsInCaret.append ⟨[.command .c], _, rfl, rfl⟩ _
  | pasteAfter =>
      have pasted : EndsInCaret [.command .v] := .single rfl
      exact (pasted.repeating positive).append [.plain .right]
  | pasteBefore => exact EndsInCaret.collapsing (.single rfl) positive
  | yank => exact absurd rfl notYank
  | undo => exact absurd rfl notUndo
  | redo => exact absurd rfl notRedo

theorem TextField.passage?_eq_some {f : TextField} {text : List Char} {selection : Selection}
    (read : Control.passage? f = some (text, selection)) : text = f.text ∧ selection = f.selection := by
  obtain ⟨draft, clipboard, undo, redo, introspection, log⟩ := f
  cases introspection with
  | false => cases read
  | true =>
      simp only [Control.passage?, Control.text?, Control.selection?, ↓reduceIte] at read
      split at read
      · cases read
        exact ⟨rfl, rfl⟩
      · cases read

theorem TextField.passage?_of_hidden {f : TextField} (hidden : f.introspection = false) :
    Control.passage? f = none := by
  simp only [Control.passage?, Control.text?, hidden, Bool.false_eq_true, ↓reduceIte]

theorem TextField.isCaret_of_isEmpty {f : TextField} (empty : f.selection.isEmpty = true) :
    f.draft.IsCaret := by
  simp only [TextField.selection, Draft.selection, Selection.isEmpty, beq_iff_eq, Draft.start,
    Draft.stop] at empty
  unfold Draft.IsCaret
  omega

theorem isCaret_measuredPlan (step : Nat → List Char → Option Nat) (count : Nat) (f : TextField) :
    (Control.injectAll f (measuredPlan step count f.text f.selection).now).draft.IsCaret := by
  rw [now_measuredPlan]
  generalize Text.arrowSteps f.selection.offset _ = steps
  obtain ⟨steps, direction⟩ := steps
  cases steps with
  | zero =>
      cases empty : f.selection.isEmpty with
      | true => exact TextField.isCaret_of_isEmpty empty
      | false => exact (EndsInCaret.single rfl).isCaret f
  | succ more =>
      have moved : EndsInCaret [arrow direction] := .single (by cases direction <;> rfl)
      exact ((moved.repeated (Nat.le_add_left 1 more)).append _).isCaret f

theorem isCaret_wordPlan (step : Nat → List Char → Option Nat) {combination : List Keystroke}
    (ends : EndsInCaret combination) {count : Nat} (positive : 1 ≤ count) (f : TextField) :
    (Control.injectAll f (wordPlan step combination count f).now).draft.IsCaret := by
  unfold wordPlan
  split
  · next text selection read =>
      obtain ⟨rfl, rfl⟩ := TextField.passage?_eq_some read
      exact isCaret_measuredPlan step count f
  · exact (ends.collapsing positive).isCaret f

/-- Every motion leaves a caret. -/
theorem Motion.isCaret_plan (motion : Motion) {count : Nat} (positive : 1 ≤ count) (f : TextField) :
    (Control.injectAll f (motion.plan count f).now).draft.IsCaret := by
  cases motion with
  | left | right | up | down => exact (EndsInCaret.collapsing (.single rfl) positive).isCaret f
  | firstLine => exact EndsInCaret.isCaret ⟨[.plain .left], .command .up, rfl, rfl⟩ f
  | lastLine => exact EndsInCaret.isCaret ⟨[.plain .left], .command .down, rfl, rfl⟩ f
  | wordForward => exact isCaret_wordPlan _ (.single rfl) positive f
  | wordEnd => exact isCaret_wordPlan _ ⟨[.option .right], .plain .left, rfl, rfl⟩ positive f
  | wordBackward => exact isCaret_wordPlan _ (.single rfl) positive f

/-- One step with Shift makes a caret a block of at most one character. -/
theorem TextField.length_selection_block {f : TextField} (bounds : f.InBounds) (caret : f.draft.IsCaret)
    {stroke : Keystroke} (block : IsBlock stroke) : (Control.inject f stroke).selection.length ≤ 1 := by
  obtain ⟨⟨text, anchor, head⟩, clipboard, undo, redo, introspection, log⟩ := f
  have within : head ≤ text.length := bounds.draft.head
  have same : anchor = head := caret
  subst same
  cases block with
  | left =>
      change max anchor (min (anchor - 1) text.length) - min anchor (min (anchor - 1) text.length) ≤ 1
      omega
  | right =>
      change max anchor (min (min (anchor + 1) text.length) text.length) -
        min anchor (min (min (anchor + 1) text.length) text.length) ≤ 1
      omega

def typingCodes : List KeyCode := [.space, .enter, .tab] ++ layout.map Prod.fst

theorem collapses_of_mem_typingCodes :
    ∀ code ∈ typingCodes, (Keystroke.plain code).collapses = true ∧ (Keystroke.shifted code).collapses = true := by
  decide

theorem code_mem_typingCodes {c : Char} {stroke : Keystroke} (typed : Keystroke.ofChar? c = some stroke) :
    stroke.code ∈ typingCodes := by
  rcases Keystroke.ofChar?_cases typed with ⟨blank, listed, -, rfl⟩ | ⟨entry, listed, ⟨-, rfl⟩ | ⟨-, rfl⟩⟩
  · have code : blank.2 ∈ blankKeys.map Prod.snd := List.mem_map_of_mem listed
    exact List.mem_append_left _ code
  · exact List.mem_append_right _ (List.mem_map_of_mem listed)
  · exact List.mem_append_right _ (List.mem_map_of_mem listed)

theorem ne_escape_of_mem_typingCodes : ∀ code ∈ typingCodes, code ≠ .escape := by
  decide

/-- A key that was typed for a character bears its name, and it is not Escape. -/
theorem KeyPress.plain_of_ofChar? {c : Char} {press : KeyPress} (typed : KeyPress.ofChar? c = some press) :
    press.synthetic = false ∧ press.isEscape = false ∧ press.name = String.singleton c := by
  obtain ⟨stroke, found, rfl⟩ := Option.map_eq_some_iff.mp typed
  have code := ne_escape_of_mem_typingCodes _ (code_mem_typingCodes found)
  have name : String.singleton c ≠ escapeName := by
    intro same
    cases (String.toList_singleton c).symm.trans (congrArg String.toList same)
  exact ⟨rfl, by simp [isEscape, code, name], rfl⟩

/-- A key that was typed for a character leaves a caret when it is typed again. -/
theorem KeyPress.collapses_replay {c : Char} {press : KeyPress} (typed : KeyPress.ofChar? c = some press) :
    press.replay.collapses = true := by
  obtain ⟨stroke, found, rfl⟩ := Option.map_eq_some_iff.mp typed
  obtain ⟨plain, shifted⟩ := collapses_of_mem_typingCodes _ (code_mem_typingCodes found)
  unfold replay
  split
  · split
    · exact shifted
    · exact plain
  · exact plain

end ModalKeys
