import ModalKeys.Proofs.Normal.AddedCounts
import ModalKeys.Proofs.TextField.History

/-!
# Taking edits back

Strokes lead a field from one state to another and record a number of edits on the way. As many undos, typed as
one command, lead back to the text of the first state, unless the history has forgotten some of the edits.
-/

namespace ModalKeys

namespace TextField

/-- Moves are no edits. -/
theorem recordsEdit_of_moves (f : TextField) {stroke : Keystroke} (moves : stroke.Moves) :
    f.recordsEdit (Shortcut.ofKeystroke stroke) = false := by
  obtain ⟨arrow, extend, shortcut⟩ := moves
  simp only [shortcut, recordsEdit]

theorem countEdits_append (f : TextField) (first second : List Operation) :
    f.countEdits (first ++ second) = f.countEdits first + (f.operateAll first).countEdits second := by
  induction first generalizing f with
  | nil => simp [countEdits, operateAll]
  | cons operation rest ih =>
      simp only [List.cons_append, countEdits, operateAll_cons, ih]
      omega

/-- Operations lead from one state of a field to another. So many of them are recorded as edits, and none is an
undo or a redo. -/
def Edited (edits : Nat) (f g : TextField) : Prop :=
  ∃ operations, (∀ operation ∈ operations, operation.travels = false) ∧
    f.countEdits operations = edits ∧ f.operateAll operations = g

namespace Edited

variable {f g h : TextField} {edits more : Nat}

theorem refl (f : TextField) : Edited 0 f f := ⟨[], nofun, rfl, rfl⟩

theorem trans (first : Edited edits f g) (second : Edited more g h) : Edited (edits + more) f h := by
  obtain ⟨operations, stays, rfl, rfl⟩ := first
  obtain ⟨further, staying, rfl, rfl⟩ := second
  refine ⟨operations ++ further, ?_, countEdits_append f operations further, List.foldl_append⟩
  intro operation listed
  rcases List.mem_append.mp listed with earlier | later
  · exact stays operation earlier
  · exact staying operation later

theorem inject (f : TextField) (stroke : Keystroke) (stays : (Shortcut.ofKeystroke stroke).travels = false) :
    Edited (if f.recordsEdit (Shortcut.ofKeystroke stroke) then 1 else 0) f (Control.inject f stroke) := by
  refine ⟨[.inject stroke], List.forall_mem_singleton.mpr stays, ?_, rfl⟩
  exact Nat.zero_add _

theorem move (f : TextField) (stroke : Keystroke) (moves : stroke.Moves) :
    Edited 0 f (Control.inject f stroke) := by
  have stays : (Shortcut.ofKeystroke stroke).travels = false := by
    obtain ⟨arrow, extend, shortcut⟩ := moves
    simp only [shortcut, Shortcut.travels]
  have edited := inject f stroke stays
  simpa [recordsEdit_of_moves f moves] using edited

end Edited

theorem undoEdit_record (f : TextField) (stroke : Keystroke) :
    (f.record stroke).undoEdit = f.undoEdit.record stroke := by
  obtain ⟨draft, clipboard, undo, redo, introspection, log⟩ := f
  cases undo <;> rfl

theorem draft_repeated_undo (f : TextField) (count : Nat) :
    (Control.injectAll f (repeated [.command .z] count)).draft = (undoEdit^[count] f).draft := by
  induction count generalizing f with
  | zero => rfl
  | succ count ih =>
      have commutes : Function.Commute undoEdit (record · (.command .z)) := fun f =>
        undoEdit_record f (.command .z)
      calc (Control.injectAll (f.record (.command .z)).undoEdit (repeated [.command .z] count)).draft
        _ = (undoEdit^[count + 1] (f.record (.command .z))).draft := ih _
        _ = ((undoEdit^[count + 1] f).record (.command .z)).draft :=
            congrArg TextField.draft ((commutes.iterate_left (count + 1)) f)

/-- As many undo strokes as there were edits lead back to the text. -/
theorem Edited.text_repeated_undo {f g : TextField} {edits : Nat} (edited : Edited edits f g)
    (few : edits ≤ undoCapacity) : (Control.injectAll g (repeated [.command .z] edits)).text = f.text := by
  obtain ⟨operations, stays, rfl, rfl⟩ := edited
  rw [text, draft_repeated_undo]
  exact text_iterate_undoEdit stays few

end TextField

namespace Editor

/-- Strokes have been sent, and the editor waits for the next command as before. -/
structure Carried (strokes : List Keystroke) (e after : Editor TextField) : Prop where
  rests : after.Rests
  fresh : after.modes.normal.keys = []
  reader : after.modes.normal.reader = e.modes.normal.reader
  control : after.control = Control.injectAll e.control strokes

variable {e : Editor TextField}

theorem carried_of_reads (rests : e.Rests) {inputs : List Input} {counted : Counted}
    (reads : e.modes.normal.Reads (presses inputs) counted) (stays : counted.command.StaysNormal)
    (fits : (counted.plan e.control).fits = true) {later : Nat}
    (waited : ∀ time ∈ keyTimes inputs, time + e.settle ≤ later) :
    Carried ((counted.plan e.control).now ++ (counted.plan e.control).settled) e
      (e.run (inputs ++ [.tick later])) := by
  obtain ⟨rested, ran⟩ := rests.carried_out_of_reads reads stays fits waited
  constructor
  · exact rested
  · rw [ran]; rfl
  · rw [ran]; rfl
  · rw [ran]; rfl

/-- A command of one key, with its count. -/
theorem carried_of_types (rests : e.Rests) (fresh : e.modes.normal.keys = []) {count : Nat} (positive : 1 ≤ count)
    (allowed : count ≤ e.modes.normal.reader.maxCount) (small : count ≤ countLimit) {c : Char} {press : KeyPress}
    (found : KeyPress.ofChar? c = some press) (other : c.isDigit = false) {command : Command}
    (single : singleKey? (String.singleton c) = some command) (stays : command.StaysNormal)
    (fits : (Counted.plan ⟨command, count, positive⟩ e.control).fits = true) {inputs : List Input}
    (types : Types e.settle count c inputs) :
    let plan := Counted.plan ⟨command, count, positive⟩ e.control
    Carried (plan.now ++ plan.settled) e (e.run inputs) := by
  cases types with
  | intro spelled typed waited =>
      have reads := NormalMode.reads_counted fresh spelled positive allowed small found other single
      rw [← typed] at reads
      exact carried_of_reads rests reads stays fits waited

/-- Undoing with the number of the edits leads back to the text that was there before them. -/
theorem Carried.text_run_of_undo {strokes : List Keystroke} {after : Editor TextField}
    (carried : Carried strokes e after) {edits : Nat}
    (edited : TextField.Edited edits e.control (Control.injectAll e.control strokes)) (positive : 1 ≤ edits)
    (few : edits ≤ 100) (allowed : edits ≤ e.modes.normal.reader.maxCount) {digits : List Char}
    (spelled : SpellsCount digits edits) {inputs : List Input}
    (typed : presses inputs = KeyPress.ofText (digits ++ ['u'])) :
    (after.run inputs).mode = .normal ∧ (after.run inputs).deadline? = none ∧
      (after.run inputs).control.text = e.control.text := by
  have small : edits ≤ countLimit := Nat.le_trans few (by decide)
  rw [← carried.reader] at allowed
  have reads := NormalMode.reads_counted carried.fresh spelled positive allowed small (c := 'u') rfl rfl rfl
  rw [← typed] at reads
  have done := carried.rests.done_of_reads reads rfl rfl rfl
  have rested : (after.run inputs).Rests := by
    rw [done]
    exact carried.rests
  have undone : (after.run inputs).control = Control.injectAll after.control (repeated [.command .z] edits) := by
    have strokes : (Edit.plan .undo edits).now = repeated [.command .z] edits := Plan.now_repeating _ _
    rw [← strokes]
    exact congrArg Editor.control done
  refine ⟨rested.1, rested.deadline, ?_⟩
  rw [undone, carried.control]
  exact edited.text_repeated_undo few

end Editor

end ModalKeys
