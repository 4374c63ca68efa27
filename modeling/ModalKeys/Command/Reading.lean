import ModalKeys.Command.Basic

/-!
# Reading key names as commands

A command is a run of digits, its count, followed by one key or by one key typed twice. What has
been typed so far is complete, can still become a command, or never will.
-/

namespace ModalKeys

inductive Reading where
  | complete (counted : Counted)
  | pending
  | invalid
deriving DecidableEq, Repr

/-- The largest count of 64 bits, and the largest value a count takes while it is read. -/
def countLimit : Nat := UInt64.size - 1

def digitValue? (key : String) : Option Nat :=
  match key.toList with
  | [c] => if c.isDigit then some (c.toNat - '0'.toNat) else none
  | _ => none

def isDigitKey (key : String) : Bool := (digitValue? key).isSome

/-- One more digit behind a count, with both steps held at the limit. -/
def appendDigit (count digit : Nat) : Nat := min (min (count * 10) countLimit + digit) countLimit

/-- The count that the leading digits spell, or none when it is zero. -/
def leadingCount? (keys : List String) : Option Nat :=
  let count := ((keys.takeWhile isDigitKey).filterMap digitValue?).foldl appendDigit 0
  if count = 0 then none else some count

def operatorKeys : List String := ["g", "d", "c", "y"]

def singleKey? (key : String) : Option Command :=
  match key with
  | "h" => some (.motion .left)
  | "j" => some (.motion .down)
  | "k" => some (.motion .up)
  | "l" => some (.motion .right)
  | "w" => some (.motion .wordForward)
  | "e" => some (.motion .wordEnd)
  | "b" => some (.motion .wordBackward)
  | "G" => some (.motion .lastLine)
  | "i" => some (.entry .insert)
  | "a" => some (.entry .insertAfter)
  | "I" => some (.entry .insertLineStart)
  | "A" => some (.entry .insertLineEnd)
  | "o" => some (.entry .openLineBelow)
  | "O" => some (.entry .openLineAbove)
  | "v" => some (.entry .visual)
  | "V" => some (.entry .visualLine)
  | "x" => some (.edit .deleteChar)
  | "D" => some (.edit .deleteToLineEnd)
  | "s" => some (.edit .changeChar)
  | "C" => some (.edit .changeToLineEnd)
  | "p" => some (.edit .pasteAfter)
  | "P" => some (.edit .pasteBefore)
  | "u" => some (.edit .undo)
  | "r" => some (.edit .redo)
  | _ => none

def doubleKey? (first second : String) : Option Command :=
  match first, second with
  | "d", "d" => some (.edit .deleteLine)
  | "c", "c" => some (.edit .changeLine)
  | "y", "y" => some (.edit .yankLine)
  | "g", "g" => some (.motion .firstLine)
  | _, _ => none

def CommandReader.read (reader : CommandReader) (keys : List String) : Reading :=
  let count := min ((leadingCount? keys).getD 1) reader.maxCount
  match keys.dropWhile isDigitKey with
  | [] => .pending
  | [key] =>
      match singleKey? key with
      | some command => .complete (command.times count)
      | none => if key ∈ operatorKeys then .pending else .invalid
  | [first, second] =>
      match doubleKey? first second with
      | some command => .complete (command.times count)
      | none => .invalid
  | _ => .invalid

end ModalKeys
