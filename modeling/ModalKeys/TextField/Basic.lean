import ModalKeys.Control.Basic
import ModalKeys.TextField.Shortcut

/-!
# Text fields

A single text control with a clipboard and a history. The history is two stacks of drafts with the
newest on top; every edit pushes the draft it replaces and empties the redo stack. Moves and
selections are not edits.
-/

namespace ModalKeys

structure TextField where
  draft : Draft
  clipboard : List Char
  undo : List Draft
  redo : List Draft
  introspection : Bool
  /-- The strokes injected last, newest first. -/
  log : List Keystroke
deriving DecidableEq, Repr

namespace TextField

def undoCapacity : Nat := 100

def logCapacity : Nat := 32

/-- A field with the caret at the start and nothing in its clipboard or history. -/
def ofText (text : List Char) : TextField := ⟨.ofText text, [], [], [], true, []⟩

/-- Whether the field answers for its text and selection. -/
def withIntrospection (f : TextField) (enabled : Bool) : TextField :=
  { f with introspection := enabled }

def text (f : TextField) : List Char := f.draft.text

def selection (f : TextField) : Selection := f.draft.selection

def select (f : TextField) (s : Selection) : TextField := { f with draft := f.draft.select s }

/-- Puts the current draft on the undo stack and forgets the oldest entry beyond its capacity. -/
def pushUndo (f : TextField) : TextField :=
  { f with undo := (f.draft :: f.undo).take undoCapacity }

/-- Makes an edit: the draft changes, and there is nothing to redo. -/
def edit (f : TextField) (draft : Draft) : TextField :=
  { f.pushUndo with draft := draft, redo := [] }

/-- Removes the characters from `first` up to `last`; an empty stretch is no edit. -/
def deleteRange (f : TextField) (first last : Nat) : TextField :=
  if first < last then f.edit (f.draft.splice first last []) else f

def deleteSelection (f : TextField) : TextField := f.deleteRange f.draft.start f.draft.stop

/-- Puts characters in place of the selection; nothing in place of nothing is no edit. -/
def replaceSelection (f : TextField) (inserted : List Char) : TextField :=
  if inserted.isEmpty && !f.draft.hasSelection then f
  else f.edit (f.draft.splice f.draft.start f.draft.stop inserted)

/-- A selection goes to the clipboard; a caret leaves the clipboard alone. -/
def copy (f : TextField) : TextField :=
  if f.draft.hasSelection then { f with clipboard := f.draft.selected } else f

def undoEdit (f : TextField) : TextField :=
  match f.undo with
  | [] => f
  | previous :: rest => { f with draft := previous, undo := rest, redo := f.draft :: f.redo }

def redoEdit (f : TextField) : TextField :=
  match f.redo with
  | [] => f
  | next :: rest => { f.pushUndo with draft := next, redo := rest }

/-- The offset back to which a backspace without a selection deletes. -/
def backwardStart (d : Draft) : Reach → Nat
  | .line => Text.lineStart d.text d.head
  | .word => d.wordLeft d.head
  | .char => d.head - 1

def perform (f : TextField) : Shortcut → TextField
  | .move arrow extend => { f with draft := f.draft.move arrow extend }
  | .deleteBackward reach =>
      if f.draft.hasSelection then f.deleteSelection
      else f.deleteRange (backwardStart f.draft reach) f.draft.head
  | .deleteForward =>
      if f.draft.hasSelection then f.deleteSelection
      else f.deleteRange f.draft.head (min (f.draft.head + 1) f.draft.text.length)
  | .selectAll => { f with draft := f.draft.selectAll }
  | .copy => f.copy
  | .cut => f.copy.deleteSelection
  | .paste => f.replaceSelection f.clipboard
  | .undo => f.undoEdit
  | .redo => f.redoEdit
  | .insert c => f.replaceSelection [c]
  | .unassigned => f

def press (f : TextField) (stroke : Keystroke) : TextField := f.perform (.ofKeystroke stroke)

def recentKeys (f : TextField) : List Keystroke := f.log.reverse

def record (f : TextField) (stroke : Keystroke) : TextField :=
  { f with log := (stroke :: f.log).take logCapacity }

instance : Control TextField where
  inject f stroke := (f.record stroke).press stroke
  text? f := if f.introspection then some f.text else none
  selection? f := if f.introspection then some f.selection else none

end TextField

end ModalKeys
