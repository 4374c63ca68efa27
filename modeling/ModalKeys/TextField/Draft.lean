import ModalKeys.Text.Boundary
import ModalKeys.Text.Line
import ModalKeys.Text.Selection

/-!
# Drafts

A draft is a text with a selection that has a direction: it reaches from the anchor, which stays, to
the head, which moves. When both are equal the selection is a caret.
-/

namespace ModalKeys

structure Draft where
  text : List Char
  anchor : Nat
  head : Nat
deriving DecidableEq, Repr

inductive Reach where
  | char
  | word
  | line
deriving DecidableEq, Repr

inductive Arrow where
  | left (reach : Reach)
  | right (reach : Reach)
  | up
  | down
  | top
  | bottom
deriving DecidableEq, Repr

namespace Draft

def ofText (text : List Char) : Draft := ⟨text, 0, 0⟩

def start (d : Draft) : Nat := min d.anchor d.head

def stop (d : Draft) : Nat := max d.anchor d.head

def hasSelection (d : Draft) : Bool := d.anchor != d.head

def selection (d : Draft) : Selection := ⟨d.start, d.stop - d.start⟩

def selected (d : Draft) : List Char := (d.text.drop d.start).take (d.stop - d.start)

/-- Selects a stretch, cut to the text, with the head at its end. -/
def select (d : Draft) (s : Selection) : Draft :=
  ⟨d.text, min s.offset d.text.length, min s.stop d.text.length⟩

def moveTo (d : Draft) (target : Nat) (extend : Bool) : Draft :=
  let head := min target d.text.length
  ⟨d.text, if extend then d.anchor else head, head⟩

/-- The start of the last run of word characters that begins before `pos`. -/
def wordLeft (d : Draft) (pos : Nat) : Nat :=
  (((d.text.take pos).reverse.dropWhile fun c => !Text.isWordChar c).dropWhile Text.isWordChar).length

/-- The end of the first run of word characters that ends after `pos`. -/
def wordRight (d : Draft) (pos : Nat) : Nat :=
  Text.runEnd Text.isWordChar d.text
    (Text.runEnd (fun c => !Text.isWordChar c) d.text (min pos d.text.length))

/-- Where an arrow leads. Without extension, a plain arrow leads out of a selection at its side. -/
def target (d : Draft) (arrow : Arrow) (extend : Bool) : Nat :=
  match arrow with
  | .left .line => Text.lineStart d.text d.head
  | .left .word => d.wordLeft d.head
  | .left .char => if extend || !d.hasSelection then d.head - 1 else d.start
  | .right .line => Text.lineEnd d.text d.head
  | .right .word => d.wordRight d.head
  | .right .char => if extend || !d.hasSelection then min (d.head + 1) d.text.length else d.stop
  | .up => Text.lineUp d.text (if extend then d.head else d.start)
  | .down => Text.lineDown d.text (if extend then d.head else d.stop)
  | .top => 0
  | .bottom => d.text.length

def move (d : Draft) (arrow : Arrow) (extend : Bool) : Draft := d.moveTo (d.target arrow extend) extend

/-- Replaces a stretch and leaves the caret after what was put in. -/
def splice (d : Draft) (first last : Nat) (inserted : List Char) : Draft :=
  let caret := first + inserted.length
  ⟨d.text.take first ++ inserted ++ d.text.drop last, caret, caret⟩

def selectAll (d : Draft) : Draft := ⟨d.text, 0, d.text.length⟩

end Draft

end ModalKeys
