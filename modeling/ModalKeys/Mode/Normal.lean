import ModalKeys.Command.Reading
import ModalKeys.Keyboard.KeyPress
import ModalKeys.Plan
import ModalKeys.Response

/-!
# Normal mode

Keys are gathered until they read as a command or cannot become one. No key reaches the control.
-/

namespace ModalKeys

structure NormalMode where
  reader : CommandReader
  keys : List String
deriving DecidableEq, Repr

namespace NormalMode

def start (reader : CommandReader) : NormalMode := ⟨reader, []⟩

def cleared (m : NormalMode) : NormalMode := { m with keys := [] }

def key (m : NormalMode) (press : KeyPress) : NormalMode × Response :=
  if press.isEscape then (m.cleared, .consume)
  else
    let keys := m.keys ++ [press.name]
    match m.reader.read keys with
    | .complete counted => (m.cleared, counted.response)
    | .pending => ({ m with keys := keys }, .consume)
    | .invalid => (m.cleared, .consume)

/-- Entering from another mode shows the block cursor once the control has settled. -/
def enter (m : NormalMode) (origin : Mode) : NormalMode × Plan :=
  (m.cleared, match origin with
    | .normal => .empty
    | .insert | .visual | .visualLine => .thenBlockRight .empty)

def exit (m : NormalMode) : NormalMode := m.cleared

def pendingKeys (m : NormalMode) : String := String.join m.keys

end NormalMode

end ModalKeys
