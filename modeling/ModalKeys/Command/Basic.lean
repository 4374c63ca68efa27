import ModalKeys.Mode.Basic

/-!
# Commands

A command is a motion, an edit or the entry into another mode. It comes with a repeat count of at
least one and at most what its reader allows.
-/

namespace ModalKeys

inductive Motion where
  | left
  | right
  | up
  | down
  | wordForward
  | wordEnd
  | wordBackward
  | firstLine
  | lastLine
deriving DecidableEq, Repr

inductive Edit where
  | deleteChar
  | deleteLine
  | deleteToLineEnd
  | changeChar
  | changeLine
  | changeToLineEnd
  | yank
  | yankLine
  | pasteAfter
  | pasteBefore
  | undo
  | redo
deriving DecidableEq, Repr

inductive Entry where
  | insert
  | insertAfter
  | insertLineStart
  | insertLineEnd
  | openLineBelow
  | openLineAbove
  | visual
  | visualLine
deriving DecidableEq, Repr

inductive Command where
  | motion (motion : Motion)
  | edit (edit : Edit)
  | entry (entry : Entry)
deriving DecidableEq, Repr

/-- Word motions are measured on the control's text when it can be read. -/
def Motion.isWord : Motion → Bool
  | .wordForward | .wordEnd | .wordBackward => true
  | _ => false

/-- The change commands continue in Insert mode. -/
def Edit.entersInsert : Edit → Bool
  | .changeChar | .changeLine | .changeToLineEnd => true
  | _ => false

def Entry.target : Entry → Mode
  | .visual => .visual
  | .visualLine => .visualLine
  | _ => .insert

structure Counted where
  command : Command
  count : Nat
  one_le_count : 1 ≤ count
deriving DecidableEq, Repr

/-- A command with its count; a count of zero is one. -/
def Command.times (command : Command) (count : Nat) : Counted :=
  ⟨command, max count 1, Nat.le_max_right count 1⟩

theorem Command.count_times (command : Command) (count : Nat) :
    (command.times count).count = max count 1 := rfl

structure CommandReader where
  maxCount : Nat
  one_le_maxCount : 1 ≤ maxCount
deriving DecidableEq, Repr

/-- A reader for counts up to `maxCount`; a maximum of zero is one. -/
def CommandReader.upTo (maxCount : Nat) : CommandReader :=
  ⟨max maxCount 1, Nat.le_max_right maxCount 1⟩

end ModalKeys
