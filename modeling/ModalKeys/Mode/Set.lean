import ModalKeys.Mode.Insert
import ModalKeys.Mode.Normal
import ModalKeys.Mode.Visual

/-!
# The modes together

The state of all four modes. Each operation concerns the mode it names and leaves the others alone.
-/

namespace ModalKeys

structure ModeSet where
  normal : NormalMode
  insert : InsertMode
  visual : VisualMode
  visualLine : VisualMode
deriving Repr

namespace ModeSet

def start (reader : CommandReader) (chords : List (Chord Response)) : ModeSet where
  normal := .start reader
  insert := .start chords
  visual := .start .charwise reader
  visualLine := .start .linewise reader

def key (s : ModeSet) (mode : Mode) (press : KeyPress) (now : Nat) : ModeSet × Option Response :=
  match mode with
  | .normal => let (m, response) := s.normal.key press; ({ s with normal := m }, some response)
  | .insert => let (m, response) := s.insert.key press now; ({ s with insert := m }, response)
  | .visual => let (m, response) := s.visual.key press; ({ s with visual := m }, some response)
  | .visualLine =>
      let (m, response) := s.visualLine.key press; ({ s with visualLine := m }, some response)

def enter (s : ModeSet) (mode origin : Mode) : ModeSet × Plan :=
  match mode with
  | .normal => let (m, plan) := s.normal.enter origin; ({ s with normal := m }, plan)
  | .insert => let (m, plan) := s.insert.enter origin; ({ s with insert := m }, plan)
  | .visual => let (m, plan) := s.visual.enter origin; ({ s with visual := m }, plan)
  | .visualLine => let (m, plan) := s.visualLine.enter origin; ({ s with visualLine := m }, plan)

/-- Leaves a mode; the strokes are for the control it is left with. -/
def exit (s : ModeSet) (mode : Mode) : ModeSet × List Keystroke :=
  match mode with
  | .normal => ({ s with normal := s.normal.exit }, [])
  | .insert => let (m, strokes) := s.insert.exit; ({ s with insert := m }, strokes)
  | .visual => let (m, strokes) := s.visual.exit; ({ s with visual := m }, strokes)
  | .visualLine => let (m, strokes) := s.visualLine.exit; ({ s with visualLine := m }, strokes)

/-- Lets time pass for a mode. Only Insert mode has a deadline. -/
def tick (s : ModeSet) (mode : Mode) (now : Nat) : ModeSet × List Keystroke :=
  match mode with
  | .insert => let (m, strokes) := s.insert.tick now; ({ s with insert := m }, strokes)
  | .normal | .visual | .visualLine => (s, [])

def flush (s : ModeSet) (mode : Mode) : ModeSet × List Keystroke :=
  match mode with
  | .insert => let (m, strokes) := s.insert.flush; ({ s with insert := m }, strokes)
  | .normal | .visual | .visualLine => (s, [])

def deadline? (s : ModeSet) : Mode → Option Nat
  | .insert => s.insert.deadline?
  | .normal | .visual | .visualLine => none

def pendingKeys (s : ModeSet) : Mode → String
  | .normal => s.normal.pendingKeys
  | .insert => s.insert.pendingKeys
  | .visual => s.visual.pendingKeys
  | .visualLine => s.visualLine.pendingKeys

theorem length_settled_enter_le (s : ModeSet) (mode origin : Mode) :
    (s.enter mode origin).2.settled.length ≤ 1 := by
  cases mode with
  | normal => cases origin <;> simp [enter, NormalMode.enter, Plan.empty, Plan.thenBlockRight]
  | insert => cases origin <;> simp [enter, InsertMode.enter, Plan.empty, Plan.atOnce]
  | visual | visualLine =>
      simp only [enter, VisualMode.enter]
      split <;> simp [Plan.empty, Plan.atOnce]

end ModeSet

end ModalKeys
