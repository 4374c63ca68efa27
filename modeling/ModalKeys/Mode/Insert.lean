import ModalKeys.Chord
import ModalKeys.Plan
import ModalKeys.Response

/-!
# Insert mode

Keys reach the control, apart from Escape and the keys of chords. A key held back for a chord that
does not come about is typed again on its behalf.
-/

namespace ModalKeys

structure InsertMode where
  detector : Detector Response
deriving Repr

namespace InsertMode

def start (chords : List (Chord Response)) : InsertMode := ⟨.watching chords⟩

def usualTimeout : Nat := 140

/-- The chord that leads back to Normal mode unless others are set. -/
def usualChords : List (Chord Response) := [⟨"jk", .switchMode .normal, usualTimeout⟩]

def flush (m : InsertMode) : InsertMode × List Keystroke :=
  let (detector, released) := m.detector.cancel
  (⟨detector⟩, (released.map KeyPress.replay).toList)

def tick (m : InsertMode) (now : Nat) : InsertMode × List Keystroke :=
  let (detector, released) := m.detector.tick now
  (⟨detector⟩, (released.map KeyPress.replay).toList)

def key (m : InsertMode) (press : KeyPress) (now : Nat) : InsertMode × Option Response :=
  if press.isEscape && !press.synthetic then
    let (m, strokes) := m.flush
    (m, some (.all (strokes.map .inject ++ [.switchMode .normal])))
  else
    let (detector, detection) := m.detector.key press now
    (⟨detector⟩, match detection with
      | .waiting _ => some .consume
      | .matched response => some response
      | .released held => some (.all [.inject held.replay, .passThrough])
      | .mismatched | .echo => none)

/-- Entering from Normal mode collapses the block cursor onto its left edge. -/
def enter (m : InsertMode) (origin : Mode) : InsertMode × Plan :=
  (m, match origin with
    | .normal => .atOnce [.plain .left]
    | .insert | .visual | .visualLine => .empty)

def exit (m : InsertMode) : InsertMode × List Keystroke := m.flush

def deadline? (m : InsertMode) : Option Nat := m.detector.deadline?

def pendingKeys (m : InsertMode) : String := m.detector.heldName?.getD ""

end InsertMode

end ModalKeys
