import Mathlib.Logic.Function.Iterate
import ModalKeys.Proofs.TextField.Strokes

/-!
# The history of a field

Undo and redo pass drafts from one stack to the other, and every edit puts one more on the undo stack. Both
stacks together never hold more than the capacity, so that on the way back nothing is forgotten.
-/

namespace ModalKeys

def Shortcut.travels : Shortcut → Bool
  | .undo | .redo => true
  | .move _ _ | .deleteBackward _ | .deleteForward | .selectAll | .copy | .cut | .paste | .insert _
  | .unassigned => false

namespace TextField

inductive Operation where
  | press (stroke : Keystroke)
  | inject (stroke : Keystroke)
  | select (selection : Selection)
deriving DecidableEq, Repr

namespace Operation

/-- What the stroke of the operation stands for, if there is one. -/
def shortcut? : Operation → Option Shortcut
  | .press stroke | .inject stroke => some (.ofKeystroke stroke)
  | .select _ => none

def travels (operation : Operation) : Bool := operation.shortcut?.any Shortcut.travels

end Operation

def operate (f : TextField) : Operation → TextField
  | .press stroke => f.press stroke
  | .inject stroke => Control.inject f stroke
  | .select selection => f.select selection

def operateAll (f : TextField) (operations : List Operation) : TextField := operations.foldl operate f

theorem operateAll_cons (f : TextField) (operation : Operation) (rest : List Operation) :
    f.operateAll (operation :: rest) = (f.operate operation).operateAll rest := rfl

variable {f g h : TextField}

/-- The text is the same in both states of a field, and so is what can be undone and redone. -/
structure SameText (f g : TextField) : Prop where
  text : g.text = f.text
  undo : g.undo = f.undo
  redo : g.redo = f.redo

/-- An edit has put the draft on the undo stack, and there is nothing to redo. -/
structure Recorded (f g : TextField) : Prop where
  undo : g.undo = (f.draft :: f.undo).take undoCapacity
  redo : g.redo = []

def recordsEdit (f : TextField) : Shortcut → Bool
  | .deleteBackward reach => f.draft.hasSelection || decide (backwardStart f.draft reach < f.draft.head)
  | .deleteForward => f.draft.hasSelection || decide (f.draft.head < f.draft.text.length)
  | .cut => f.draft.hasSelection
  | .paste => f.draft.hasSelection || !f.clipboard.isEmpty
  | .insert _ => true
  | .move _ _ | .selectAll | .copy | .undo | .redo | .unassigned => false

def recordsEditAt (f : TextField) (operation : Operation) : Bool := operation.shortcut?.any f.recordsEdit

def countEdits (f : TextField) : List Operation → Nat
  | [] => 0
  | operation :: rest =>
      (f.operate operation).countEdits rest + if f.recordsEditAt operation then 1 else 0

theorem recorded_edit (f : TextField) (draft : Draft) : Recorded f (f.edit draft) := ⟨rfl, rfl⟩

theorem recorded_deleteRange {first last : Nat} (before : first < last) :
    Recorded f (f.deleteRange first last) := by
  rw [deleteRange, if_pos before]
  exact recorded_edit f _

theorem deleteRange_of_le {first last : Nat} (nothing : last ≤ first) : f.deleteRange first last = f :=
  if_neg (Nat.not_lt.mpr nothing)

theorem recorded_deleteSelection (selected : f.draft.hasSelection = true) :
    Recorded f f.deleteSelection :=
  recorded_deleteRange (Draft.hasSelection_iff.mp selected)

theorem recorded_replaceSelection {inserted : List Char}
    (replaces : (f.draft.hasSelection || !inserted.isEmpty) = true) :
    Recorded f (f.replaceSelection inserted) := by
  have edits : ¬ (inserted.isEmpty && !f.draft.hasSelection) = true := by
    intro nothing
    rw [Bool.and_eq_true, Bool.not_eq_true'] at nothing
    rw [nothing.1, nothing.2] at replaces
    cases replaces
  rw [replaceSelection, if_neg edits]
  exact recorded_edit f _

theorem draft_copy (f : TextField) : f.copy.draft = f.draft := by
  unfold copy
  split <;> rfl

theorem sameText_copy (f : TextField) : SameText f f.copy := by
  unfold copy
  split <;> exact ⟨rfl, rfl, rfl⟩

theorem recorded_perform {shortcut : Shortcut} (records : f.recordsEdit shortcut = true) :
    Recorded f (f.perform shortcut) := by
  cases shortcut with
  | deleteBackward reach =>
      unfold perform
      dsimp only
      split
      · next selected => exact recorded_deleteSelection selected
      · next unselected =>
          rw [recordsEdit, eq_false_of_ne_true unselected, Bool.false_or, decide_eq_true_eq] at records
          exact recorded_deleteRange records
  | deleteForward =>
      unfold perform
      dsimp only
      split
      · next selected => exact recorded_deleteSelection selected
      · next unselected =>
          rw [recordsEdit, eq_false_of_ne_true unselected, Bool.false_or, decide_eq_true_eq] at records
          exact recorded_deleteRange (Nat.lt_min.mpr ⟨Nat.lt_succ_self _, records⟩)
  | cut =>
      have selected : f.copy.draft.hasSelection = true := by rwa [draft_copy]
      have cut : Recorded f.copy f.copy.deleteSelection := recorded_deleteSelection selected
      refine ⟨?_, cut.redo⟩
      rw [← draft_copy, ← (sameText_copy f).undo]
      exact cut.undo
  | paste => exact recorded_replaceSelection records
  | insert c => exact recorded_replaceSelection (Bool.or_true _)
  | move _ _ | selectAll | copy | undo | redo | unassigned => cases records

theorem sameText_perform {shortcut : Shortcut} (records : f.recordsEdit shortcut = false)
    (stays : shortcut.travels = false) : SameText f (f.perform shortcut) := by
  have same : SameText f f := ⟨rfl, rfl, rfl⟩
  cases shortcut with
  | move _ _ | selectAll | unassigned => exact ⟨rfl, rfl, rfl⟩
  | copy => exact sameText_copy f
  | deleteBackward reach =>
      rw [recordsEdit, Bool.or_eq_false_iff, decide_eq_false_iff_not, Nat.not_lt] at records
      unfold perform
      dsimp only
      rw [records.1, if_neg Bool.false_ne_true, deleteRange_of_le records.2]
      exact same
  | deleteForward =>
      rw [recordsEdit, Bool.or_eq_false_iff, decide_eq_false_iff_not, Nat.not_lt] at records
      unfold perform
      dsimp only
      rw [records.1, if_neg Bool.false_ne_true,
        deleteRange_of_le (Nat.le_trans (Nat.min_le_right _ _) records.2)]
      exact same
  | cut =>
      have unselected : ¬ f.draft.hasSelection = true := by
        rw [recordsEdit] at records
        rw [records]
        exact Bool.false_ne_true
      have nothing : ¬ f.draft.start < f.draft.stop := fun selected =>
        unselected (Draft.hasSelection_iff.mpr selected)
      change SameText f f.copy.deleteSelection
      rw [copy, if_neg unselected, deleteSelection, deleteRange, if_neg nothing]
      exact same
  | paste =>
      rw [recordsEdit, Bool.or_eq_false_iff, Bool.not_eq_false'] at records
      have nothing : (f.clipboard.isEmpty && !f.draft.hasSelection) = true := by
        rw [records.1, records.2]
        rfl
      change SameText f (f.replaceSelection f.clipboard)
      rw [replaceSelection, if_pos nothing]
      exact same
  | insert _ => cases records
  | undo | redo => cases stays

theorem recorded_operate {operation : Operation} (records : f.recordsEditAt operation = true) :
    Recorded f (f.operate operation) := by
  cases operation with
  | press stroke => exact recorded_perform records
  | inject stroke =>
      have recorded : Recorded (f.record stroke) ((f.record stroke).press stroke) := recorded_perform records
      exact ⟨recorded.undo, recorded.redo⟩
  | select selection => cases records

theorem sameText_operate {operation : Operation} (records : f.recordsEditAt operation = false)
    (stays : operation.travels = false) : SameText f (f.operate operation) := by
  cases operation with
  | press stroke => exact sameText_perform records stays
  | inject stroke =>
      have same : SameText (f.record stroke) ((f.record stroke).press stroke) := sameText_perform records stays
      exact ⟨same.text, same.undo, same.redo⟩
  | select selection => exact ⟨rfl, rfl, rfl⟩

/-- Together the two stacks hold no more drafts than can be undone. -/
def Fits (f : TextField) : Prop := f.undo.length + f.redo.length ≤ undoCapacity

theorem fits_ofText (text : List Char) : (ofText text).Fits := Nat.zero_le _

theorem Recorded.fits (recorded : Recorded f g) : g.Fits := by
  rw [Fits, recorded.undo, recorded.redo]
  exact List.length_take_le _ _

theorem SameText.fits (same : SameText f g) (fits : f.Fits) : g.Fits := by
  rw [Fits, same.undo, same.redo]
  exact fits

theorem Fits.undoEdit (fits : f.Fits) : f.undoEdit.Fits := by
  unfold TextField.undoEdit
  split
  · exact fits
  · next previous rest undo =>
      rw [Fits, undo, List.length_cons] at fits
      change rest.length + (f.redo.length + 1) ≤ undoCapacity
      omega

theorem Fits.redoEdit (fits : f.Fits) : f.redoEdit.Fits := by
  unfold TextField.redoEdit
  split
  · exact fits
  · next next rest redo =>
      rw [Fits, redo, List.length_cons] at fits
      have pushed := List.length_take_le' undoCapacity (f.draft :: f.undo)
      rw [List.length_cons] at pushed
      change ((f.draft :: f.undo).take undoCapacity).length + rest.length ≤ undoCapacity
      omega

theorem Fits.perform (fits : f.Fits) (shortcut : Shortcut) : (f.perform shortcut).Fits := by
  cases travels : shortcut.travels with
  | true =>
      cases shortcut with
      | undo => exact fits.undoEdit
      | redo => exact fits.redoEdit
      | move _ _ | deleteBackward _ | deleteForward | selectAll | copy | cut | paste | insert _
      | unassigned => cases travels
  | false =>
      cases records : f.recordsEdit shortcut with
      | true => exact (recorded_perform records).fits
      | false => exact (sameText_perform records travels).fits fits

theorem Fits.operate (fits : f.Fits) (operation : Operation) : (f.operate operation).Fits := by
  cases operation with
  | press stroke => exact fits.perform _
  | inject stroke =>
      have recorded : (f.record stroke).Fits := fits
      exact recorded.perform _
  | select selection => exact fits

theorem Fits.operateAll (fits : f.Fits) (operations : List Operation) :
    (f.operateAll operations).Fits := by
  induction operations generalizing f with
  | nil => exact fits
  | cons operation rest ih => exact ih (fits.operate operation)

/-! ## There and back -/

theorem redoEdit_undoEdit (fits : f.Fits) (edited : f.undo ≠ []) : f.undoEdit.redoEdit = f := by
  obtain ⟨draft, clipboard, undo, redo, introspection, log⟩ := f
  cases undo with
  | nil => exact absurd rfl edited
  | cons previous rest =>
      have short : (previous :: rest).length ≤ undoCapacity := Nat.le_trans (Nat.le_add_right _ _) fits
      have kept := List.take_of_length_le short
      simp only [undoEdit, redoEdit, pushUndo, kept]

theorem undoEdit_redoEdit (fits : f.Fits) (undone : f.redo ≠ []) : f.redoEdit.undoEdit = f := by
  obtain ⟨draft, clipboard, undo, redo, introspection, log⟩ := f
  cases redo with
  | nil => exact absurd rfl undone
  | cons next rest =>
      have short : (draft :: undo).length ≤ undoCapacity := by
        change undo.length + (rest.length + 1) ≤ undoCapacity at fits
        rw [List.length_cons]
        omega
      have kept := List.take_of_length_le short
      simp only [redoEdit, pushUndo, undoEdit, kept]

theorem length_undo_undoEdit (f : TextField) : f.undoEdit.undo.length = f.undo.length - 1 := by
  unfold undoEdit
  split
  · next undo => rw [undo]; rfl
  · next previous rest undo => rw [undo]; rfl

theorem length_redo_redoEdit (f : TextField) : f.redoEdit.redo.length = f.redo.length - 1 := by
  unfold redoEdit
  split
  · next redo => rw [redo]; rfl
  · next next rest redo => rw [redo]; rfl

theorem iterate_redoEdit_undoEdit (fits : f.Fits) {count : Nat} (enough : count ≤ f.undo.length) :
    redoEdit^[count] (undoEdit^[count] f) = f := by
  induction count generalizing f with
  | zero => rfl
  | succ count ih =>
      have fewer : count ≤ f.undoEdit.undo.length := by
        rw [length_undo_undoEdit]
        omega
      have edited : f.undo ≠ [] := List.ne_nil_of_length_pos (Nat.lt_of_lt_of_le (Nat.succ_pos count) enough)
      rw [Function.iterate_succ_apply', Function.iterate_succ_apply, ih fits.undoEdit fewer,
        redoEdit_undoEdit fits edited]

theorem iterate_undoEdit_redoEdit (fits : f.Fits) {count : Nat} (enough : count ≤ f.redo.length) :
    undoEdit^[count] (redoEdit^[count] f) = f := by
  induction count generalizing f with
  | zero => rfl
  | succ count ih =>
      have fewer : count ≤ f.redoEdit.redo.length := by
        rw [length_redo_redoEdit]
        omega
      have undone : f.redo ≠ [] := List.ne_nil_of_length_pos (Nat.lt_of_lt_of_le (Nat.succ_pos count) enough)
      rw [Function.iterate_succ_apply', Function.iterate_succ_apply, ih fits.redoEdit fewer,
        undoEdit_redoEdit fits undone]

/-- Undoing leads along the undo stack. -/
theorem getElem?_undo (f : TextField) {count : Nat} (enough : count ≤ f.undo.length) :
    (f.draft :: f.undo)[count]? = some (undoEdit^[count] f).draft := by
  induction count generalizing f with
  | zero => rfl
  | succ count ih =>
      cases undo : f.undo with
      | nil =>
          rw [undo] at enough
          cases enough
      | cons previous rest =>
          have undone : f.undoEdit = { f with draft := previous, undo := rest, redo := f.draft :: f.redo } := by
            unfold undoEdit
            rw [undo]
          rw [undo, List.length_cons] at enough
          have later := ih f.undoEdit (by rw [undone]; exact Nat.le_of_succ_le_succ enough)
          rw [undone] at later
          rw [List.getElem?_cons_succ, Function.iterate_succ_apply, undone]
          exact later

theorem take_append_take {α : Type} (front back : List α) (count : Nat) :
    (front ++ back.take count).take count = (front ++ back).take count := by
  rw [List.take_append, List.take_append, List.take_take, Nat.min_eq_left (Nat.sub_le _ _)]

/-- The edits of a run have put their drafts on the undo stack. The first of them found the text that the run
began with. -/
theorem exists_trail {operations : List Operation} (stays : ∀ operation ∈ operations, operation.travels = false) :
    ∃ trail, trail.length = f.countEdits operations ∧
      (f.operateAll operations).undo.take undoCapacity = (trail ++ f.undo).take undoCapacity ∧
      (trail.getLast?.getD (f.operateAll operations).draft).text = f.text ∧
      (f.operateAll operations).redo = if trail = [] then f.redo else [] := by
  induction operations generalizing f with
  | nil => exact ⟨[], rfl, rfl, rfl, rfl⟩
  | cons operation rest ih =>
      obtain ⟨first, later⟩ := List.forall_mem_cons.mp stays
      obtain ⟨trail, length, undo, text, redo⟩ := ih (f := f.operate operation) later
      rw [operateAll_cons, countEdits]
      cases records : f.recordsEditAt operation with
      | true =>
          -- The draft before this edit lies below those that the rest of the run has put on the stack.
          have recorded := recorded_operate records
          have longer : ¬ trail ++ [f.draft] = [] := List.append_ne_nil_of_right_ne_nil _ nofun
          refine ⟨trail ++ [f.draft], ?_, ?_, ?_, ?_⟩
          · rw [List.length_append, length]
            rfl
          · rw [undo, recorded.undo, take_append_take, List.append_assoc, List.singleton_append]
          · rw [List.getLast?_concat]
            rfl
          · rw [redo, recorded.redo, ite_self, if_neg longer]
      | false =>
          have same := sameText_operate records first
          refine ⟨trail, length, ?_, text.trans same.text, ?_⟩
          · rw [undo, same.undo]
          · rw [redo, same.redo]

/-- Undoing as often as a run has edited leads back to its text. -/
theorem text_iterate_undoEdit {operations : List Operation}
    (stays : ∀ operation ∈ operations, operation.travels = false)
    (few : f.countEdits operations ≤ undoCapacity) :
    (undoEdit^[f.countEdits operations] (f.operateAll operations)).text = f.text := by
  obtain ⟨trail, length, undo, text, -⟩ := exists_trail (f := f) stays
  rw [← length] at few ⊢
  generalize f.operateAll operations = g at undo text ⊢
  -- No more edits than the stack can hold, so that the whole trail is still there.
  have stacked :=
    calc g.undo.take trail.length
      _ = (g.undo.take undoCapacity).take trail.length := by rw [List.take_take, Nat.min_eq_left few]
      _ = trail := by rw [undo, List.take_take, Nat.min_eq_left few, List.take_left]
  have enough : trail.length ≤ g.undo.length := by
    have length := congrArg List.length stacked
    rw [List.length_take] at length
    omega
  have reached :=
    calc some (undoEdit^[trail.length] g).draft
        = (g.draft :: g.undo)[trail.length]? := (getElem?_undo g enough).symm
      _ = ((g.draft :: g.undo).take (trail.length + 1))[trail.length]? :=
          (List.getElem?_take_of_lt (Nat.lt_succ_self _)).symm
      _ = (g.draft :: trail).getLast? := by
          rw [List.take_succ_cons, stacked, List.getLast?_eq_getElem?]
          rfl
      _ = some (trail.getLast?.getD g.draft) := List.getLast?_cons
  rw [← text]
  exact congrArg Draft.text (Option.some.inj reached)

/-- For every field that operations have led to: undo and redo take each other back, as far as the stacks
reach, and undo takes back the edits of whatever is done next. -/
theorem undo_and_redo_restore (text : List Char) (operations : List Operation) :
    let f := (ofText text).operateAll operations
    let undone (count : Nat) (g : TextField) := (press · (.command .z))^[count] g
    let redone (count : Nat) (g : TextField) := (press · (.commandShift .z))^[count] g
    (∀ count ≤ f.undo.length, redone count (undone count f) = f) ∧
      (∀ count ≤ f.redo.length, undone count (redone count f) = f) ∧
      ∀ further, (∀ operation ∈ further, operation.travels = false) →
        let edits := f.countEdits further
        let g := f.operateAll further
        edits ≤ 100 → (1 ≤ edits → g.redo = []) ∧ (undone edits g).text = f.text := by
  intro f undone redone
  have fits : f.Fits := (fits_ofText text).operateAll operations
  refine ⟨fun count enough => iterate_redoEdit_undoEdit fits enough,
    fun count enough => iterate_undoEdit_redoEdit fits enough, ?_⟩
  intro further stays edits g few
  refine ⟨fun edited => ?_, text_iterate_undoEdit stays few⟩
  obtain ⟨trail, length, -, -, redo⟩ := exists_trail stays
  have some : ¬ trail = [] := List.ne_nil_of_length_pos (Nat.lt_of_lt_of_eq edited length.symm)
  rw [redo, if_neg some]

/-- A letter has been typed and taken back. Another is typed in its place, and then everything is cut. -/
theorem undo_and_redo_restore_of_cut :
    let operations := [.select ⟨2, 0⟩, .press (.plain .c), .press (.command .z)]
    let further := [.press (.plain .x), .press (.command .a), .press (.command .x)]
    let f := (ofText "ab".toList).operateAll operations
    let g := f.operateAll further
    f.redo.length = 1 ∧ f.countEdits further = 2 ∧ g.text = [] ∧ g.clipboard = "abx".toList ∧
      g.redo = [] ∧ ((press · (.command .z))^[2] g).text = "ab".toList := by
  intro operations further f g
  have edits : f.countEdits further = 2 := by decide
  obtain ⟨-, -, back⟩ := undo_and_redo_restore "ab".toList operations
  obtain ⟨emptied, restored⟩ := back further (by decide) (by decide)
  have redo : g.redo = [] := emptied (by decide)
  exact ⟨by decide, edits, by decide, by decide, redo, restored.trans (by decide)⟩

end TextField

end ModalKeys
