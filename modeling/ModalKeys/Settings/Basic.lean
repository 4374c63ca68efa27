import ModalKeys.Editor
import ModalKeys.Text.Quoted

/-!
# Settings

What a user can set, with the values that hold unless set. Times are in milliseconds.
-/

namespace ModalKeys

structure ChordSetting where
  keys : String
  timeout : Nat
  target : Mode
deriving DecidableEq, Repr

def ChordSetting.usual : ChordSetting := ⟨"jk", InsertMode.usualTimeout, .normal⟩

def ChordSetting.chord (s : ChordSetting) : Chord Response := ⟨s.keys, .switchMode s.target, s.timeout⟩

structure Settings where
  startMode : Mode
  chords : List ChordSetting
  /-- The delay before strokes that wait for the control to settle. -/
  settle : Nat
  /-- How long a captured key waits for the editor's answer. -/
  replyTimeout : Nat
  /-- The largest repeat count. -/
  maxCount : Nat
  /-- Whether the editor may read the field's text. -/
  introspection : Bool
deriving DecidableEq, Repr

namespace Settings

def usual : Settings := ⟨.insert, [.usual], 5, 100, 999, true⟩

inductive Fault where
  | chordLength (keys : String)
  | chordTimeout (keys : String)
  | chordTarget (keys : String)
  | replyTimeout
  | maxCount
  | startMode
deriving DecidableEq, Repr

def Fault.message : Fault → String
  | .chordLength keys => "chord " ++ Text.quoted keys ++ " must be exactly two keys long"
  | .chordTimeout keys => "chord " ++ Text.quoted keys ++ " has a zero timeout"
  | .chordTarget keys => "chord " ++ Text.quoted keys ++ " cannot target insert mode"
  | .replyTimeout => "timing.reply_timeout_ms must be greater than zero"
  | .maxCount => "normal.max_count must be greater than zero"
  | .startMode => "start_mode must be \"normal\" or \"insert\""

def chordFault? (chord : ChordSetting) : Option Fault :=
  if chord.keys.toList.length ≠ 2 then some (.chordLength chord.keys)
  else if chord.timeout = 0 then some (.chordTimeout chord.keys)
  else if chord.target = .insert then some (.chordTarget chord.keys)
  else none

/-- The first fault: of the chords in their order, then of the timing, the count and the mode. -/
def fault? (s : Settings) : Option Fault :=
  match s.chords.findSome? chordFault? with
  | some fault => some fault
  | none =>
      if s.replyTimeout = 0 then some .replyTimeout
      else if s.maxCount = 0 then some .maxCount
      else if s.startMode.isVisual then some .startMode
      else none

def editor {κ : Type} [Control κ] (s : Settings) (control : κ) : Editor κ :=
  .start s.startMode (.upTo s.maxCount) (s.chords.map ChordSetting.chord) s.settle control

end Settings

end ModalKeys
