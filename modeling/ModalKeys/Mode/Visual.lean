import ModalKeys.Command.Reading
import ModalKeys.Keyboard.KeyPress
import ModalKeys.Plan
import ModalKeys.Response

/-!
# Visual modes

Motions extend the control's selection, and operators act on it. The two kinds differ in what they
select on entry and in which key leaves them.
-/

namespace ModalKeys

inductive VisualKind where
  | charwise
  | linewise
deriving DecidableEq, Repr

def VisualKind.mode : VisualKind → Mode
  | .charwise => .visual
  | .linewise => .visualLine

structure VisualMode where
  kind : VisualKind
  reader : CommandReader
  keys : List String
  /-- An operator has deleted the selection, so leaving the mode has nothing to collapse. -/
  consumed : Bool
deriving DecidableEq, Repr

def Motion.extending : Motion → Keystroke
  | .left => .shifted .left
  | .right => .shifted .right
  | .down => .shifted .down
  | .up => .shifted .up
  | .firstLine => .commandShift .up
  | .lastLine => .commandShift .down
  | .wordForward | .wordEnd => .optionShift .right
  | .wordBackward => .optionShift .left

namespace VisualMode

def start (kind : VisualKind) (reader : CommandReader) : VisualMode := ⟨kind, reader, [], false⟩

def cleared (m : VisualMode) : VisualMode := { m with keys := [] }

/-- Operators on the selection; each leads out of the mode. -/
def operator? (key : String) : Option (Bool × Response) :=
  match key with
  | "y" => some (false, .all [.run ((Command.edit .yank).times 1), .switchMode .normal])
  | "d" | "x" => some (true, .all [.inject (.plain .backspace), .switchMode .normal])
  | "c" | "s" => some (true, .all [.inject (.plain .backspace), .switchMode .insert])
  | _ => none

/-- The key of the current kind leaves, that of the other kind changes over. -/
def toggle (m : VisualMode) (kind : VisualKind) : Response :=
  .switchMode (if kind = m.kind then .normal else kind.mode)

def response (m : VisualMode) (counted : Counted) : Response :=
  match counted.command with
  | .motion motion => .injectAll (List.replicate counted.count motion.extending)
  | .entry .visual => m.toggle .charwise
  | .entry .visualLine => m.toggle .linewise
  | _ => .switchMode .normal

/-- Gathers a key that is not an operator into a command. -/
def gather (m : VisualMode) (name : String) : VisualMode × Response :=
  let keys := m.keys ++ [name]
  match m.reader.read keys with
  | .complete counted => (m.cleared, m.response counted)
  | .pending => ({ m with keys := keys }, .consume)
  | .invalid => (m.cleared, .consume)

def key (m : VisualMode) (press : KeyPress) : VisualMode × Response :=
  if press.isEscape then (m.cleared, .switchMode .normal)
  else if m.keys.isEmpty then
    match operator? press.name with
    | some (deletes, response) => ({ m with consumed := m.consumed || deletes }, response)
    | none => m.gather press.name
  else m.gather press.name

/-- The linewise kind selects the line it is entered on, and the charwise kind puts back the block
that leaving the linewise kind collapsed. -/
def enter (m : VisualMode) (origin : Mode) : VisualMode × Plan :=
  ({ m with keys := [], consumed := false },
    match m.kind, origin with
    | .linewise, .normal | .linewise, .visual => .atOnce [.command .left, .commandShift .right]
    | .charwise, .visualLine => .atOnce [.shifted .right]
    | _, _ => .empty)

/-- Leaving collapses the selection onto its left edge unless an operator has deleted it. -/
def exit (m : VisualMode) : VisualMode × List Keystroke :=
  ({ m with keys := [], consumed := false }, if m.consumed then [] else [.plain .left])

def pendingKeys (m : VisualMode) : String := String.join m.keys

end VisualMode

end ModalKeys
