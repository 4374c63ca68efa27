import ModalKeys.Command.Basic
import ModalKeys.Control.Basic
import ModalKeys.Plan
import ModalKeys.Text.Boundary

/-!
# Strokes of a command

Each command becomes strokes that the control understands natively. Word motions count arrows on the
control's text when the control answers for it, and otherwise use the control's own word jumps.
-/

namespace ModalKeys

/-- The control's text and selection, if it answers for both and the selection ends in the text. -/
def Control.passage? {κ : Type} [Control κ] (control : κ) : Option (List Char × Selection) :=
  match Control.text? control, Control.selection? control with
  | some text, some selection =>
      if selection.stop ≤ text.length then some (text, selection) else none
  | _, _ => none

/-- Where the end of the control's selection is compared with the length of its text, that end is a
64-bit number. An end in the text always is one. -/
def Control.inRange {κ : Type} [Control κ] (control : κ) : Bool :=
  match Control.text? control, Control.selection? control with
  | some text, some selection => selection.stop ≤ text.length || selection.stop?.isSome
  | _, _ => true

def arrow : Text.Direction → Keystroke
  | .left => .plain .left
  | .right => .plain .right

/-- Arrows from the selection's start to the offset that `count` steps of an analysis reach, after a
left arrow that collapses a selection onto its start. -/
def measuredPlan (step : Nat → List Char → Option Nat) (count : Nat)
    (text : List Char) (selection : Selection) : Plan :=
  let start := selection.offset
  let (steps, direction) := Text.arrowSteps start (Text.repeatStep (step · text) count start)
  { before := if selection.isEmpty then [] else [.plain .left]
    group := [arrow direction]
    times := steps }

theorem now_measuredPlan (step : Nat → List Char → Option Nat) (count : Nat) (text : List Char)
    (selection : Selection) :
    (measuredPlan step count text selection).now =
      let steps := Text.arrowSteps selection.offset (Text.repeatStep (step · text) count selection.offset)
      (if selection.isEmpty then [] else [.plain .left]) ++ repeated [arrow steps.2] steps.1 :=
  List.append_nil _

/-- A word motion: measured where the text can be read, else `count` native combinations. -/
def wordPlan {κ : Type} [Control κ] (step : Nat → List Char → Option Nat)
    (combination : List Keystroke) (count : Nat) (control : κ) : Plan :=
  match Control.passage? control with
  | some (text, selection) => measuredPlan step count text selection
  | none => { Plan.collapsing combination count with inRange := Control.inRange control }

def Motion.plan {κ : Type} [Control κ] (motion : Motion) (count : Nat) (control : κ) : Plan :=
  .thenBlockRight <|
    match motion with
    | .left => .collapsing [.plain .left] count
    | .right => .collapsing [.plain .right] count
    | .up => .collapsing [.plain .up] count
    | .down => .collapsing [.plain .down] count
    | .firstLine => .atOnce [.plain .left, .command .up]
    | .lastLine => .atOnce [.plain .left, .command .down]
    | .wordForward => wordPlan Text.nextWordStart? [.option .right] count control
    | .wordEnd => wordPlan Text.wordEnd? [.option .right, .plain .left] count control
    | .wordBackward => wordPlan Text.previousWordStart? [.option .left] count control

def Edit.plan (edit : Edit) (count : Nat) : Plan :=
  match edit with
  | .deleteChar => .thenBlockRight (.repeating [.control .forwardDelete] count)
  | .deleteLine =>
      .thenBlockRight (.repeating
        [.command .left, .commandShift .right, .shifted .right, .plain .backspace] count)
  | .deleteToLineEnd => .thenBlockRight (.atOnce [.commandShift .right, .plain .backspace])
  | .changeChar => .repeating [.plain .forwardDelete] count
  | .changeLine => .repeating [.command .left, .commandShift .right, .plain .backspace] count
  | .changeToLineEnd => .atOnce [.commandShift .right, .plain .backspace]
  | .yank => .atOnce [.command .c]
  | .yankLine =>
      .thenBlockRight {
        before := [.command .left, .commandShift .right]
        group := [.shifted .down, .commandShift .right]
        times := count - 1
        after := [.command .c, .plain .left] }
  | .pasteAfter =>
      .thenBlockLeft { before := [.plain .right], group := [.command .v], times := count }
  | .pasteBefore => .thenBlockLeft (.collapsing [.command .v] count)
  | .undo => .repeating [.command .z] count
  | .redo => .repeating [.commandShift .z] count

/-- What a command sends to the control. Entries send nothing here: they change the mode. -/
def Counted.plan {κ : Type} [Control κ] (counted : Counted) (control : κ) : Plan :=
  match counted.command with
  | .motion motion => motion.plan counted.count control
  | .edit edit => edit.plan counted.count
  | .entry _ => .empty

/-- After a motion the character to the right becomes the block. -/
theorem Motion.settled_plan {κ : Type} [Control κ] (motion : Motion) (count : Nat) (control : κ) :
    (motion.plan count control).settled = [.shifted .right] := rfl

theorem Motion.length_settled_plan {κ : Type} [Control κ] (motion : Motion) (count : Nat)
    (control : κ) : (motion.plan count control).settled.length = 1 := by
  rw [motion.settled_plan]
  rfl

theorem Edit.length_settled_plan_le (edit : Edit) (count : Nat) :
    (edit.plan count).settled.length ≤ 1 := by
  cases edit <;>
    simp [Edit.plan, Plan.thenBlockRight, Plan.thenBlockLeft, Plan.atOnce, Plan.repeating]

theorem Counted.length_settled_plan_le {κ : Type} [Control κ] (counted : Counted) (control : κ) :
    (counted.plan control).settled.length ≤ 1 := by
  unfold Counted.plan
  split
  · exact Nat.le_of_eq (Motion.length_settled_plan _ _ _)
  · exact Edit.length_settled_plan_le _ _
  · exact Nat.zero_le 1

end ModalKeys
