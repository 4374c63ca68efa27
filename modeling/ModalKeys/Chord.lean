import ModalKeys.Keyboard.KeyPress

/-!
# Chords

A chord is two keys typed one soon after the other. The detector holds the first key of a chord back
until the second key, a deadline or a cancellation resolves it. Times are whole milliseconds.
-/

namespace ModalKeys

structure Chord (α : Type) where
  keys : String
  action : α
  timeout : Nat
deriving DecidableEq, Repr

/-- The key can begin the chord: its name is not empty and the chord goes on after it. -/
def Chord.beginsWith {α : Type} (chord : Chord α) (name : String) : Bool :=
  !name.toList.isEmpty && name.toList.isPrefixOf chord.keys.toList &&
    decide (name.toList.length < chord.keys.toList.length)

structure HeldKey where
  press : KeyPress
  since : Nat
  timeout : Nat
deriving DecidableEq, Repr

def HeldKey.deadline (held : HeldKey) : Nat := held.since + held.timeout

inductive Detection (α : Type) where
  | waiting (deadline : Nat)
  | matched (action : α)
  | released (held : KeyPress)
  | mismatched
  | echo
deriving DecidableEq, Repr

structure Detector (α : Type) where
  chords : List (Chord α)
  held : Option HeldKey
  /-- The code of a released key that has not been seen coming back. -/
  expected : Option KeyCode
deriving DecidableEq, Repr

namespace Detector

variable {α : Type}

def watching (chords : List (Chord α)) : Detector α := ⟨chords, none, none⟩

def hold (d : Detector α) (held : HeldKey) : Detector α := { d with held := some held }

def letGo (d : Detector α) (held : HeldKey) : Detector α :=
  { d with held := none, expected := some held.press.code }

/-- A key that was held is either completed by the new key or let go; the new key is then not
considered as the beginning of a chord. Synthetic presses are echoes and resolve nothing. -/
def key (d : Detector α) (press : KeyPress) (now : Nat) : Detector α × Detection α :=
  if press.synthetic then
    ({ d with expected := if d.expected = some press.code then none else d.expected }, .echo)
  else
    let d := { d with expected := none }
    match d.held with
    | some held =>
        match d.chords.find? fun chord => chord.keys = held.press.name ++ press.name with
        | some chord => ({ d with held := none }, .matched chord.action)
        | none => (d.letGo held, .released held.press)
    | none =>
        match d.chords.find? fun chord => chord.beginsWith press.name with
        | some chord => (d.hold ⟨press, now, chord.timeout⟩, .waiting (now + chord.timeout))
        | none => (d, .mismatched)

def cancel (d : Detector α) : Detector α × Option KeyPress :=
  match d.held with
  | some held => (d.letGo held, some held.press)
  | none => (d, none)

/-- Gives up a held key whose deadline has come. -/
def tick (d : Detector α) (now : Nat) : Detector α × Option KeyPress :=
  match d.held with
  | some held => if held.deadline ≤ now then d.cancel else (d, none)
  | none => (d, none)

def deadline? (d : Detector α) : Option Nat := d.held.map HeldKey.deadline

def isWaiting (d : Detector α) : Bool := d.held.isSome

def heldName? (d : Detector α) : Option String := d.held.map fun held => held.press.name

end Detector

end ModalKeys
