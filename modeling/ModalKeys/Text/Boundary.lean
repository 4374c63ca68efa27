import ModalKeys.Text.CharClass

/-!
# Token boundaries

A token is a maximal run of word characters or of punctuation. The three searches below start at a
cursor, an offset that may lie past the end of the text.
-/

namespace ModalKeys.Text

/-- The offset of the first character at or after `i` that fails `p`, or the text's length. -/
def runEnd (p : Char → Bool) (text : List Char) (i : Nat) : Nat :=
  i + ((text.drop i).takeWhile p).length

def sameClass (a b : Char) : Bool := CharClass.of b == CharClass.of a

/-- The offset after the run of one class that begins at `i` with the character `c`. -/
def tokenEnd (text : List Char) (i : Nat) (c : Char) : Nat := runEnd (sameClass c) text i

/-- The last offset of the first token that begins at or after `i`. -/
def nextTokenLast? (text : List Char) (i : Nat) : Option Nat :=
  let start := runEnd isBlank text i
  match text[start]? with
  | none => none
  | some c => some (tokenEnd text start c - 1)

/-- The start of the token after the one at the cursor. -/
def nextWordStart? (cursor : Nat) (text : List Char) : Option Nat :=
  match text[cursor]? with
  | none => none
  | some c =>
      let after := if isBlank c then cursor else tokenEnd text cursor c
      let next := runEnd isBlank text after
      if next < text.length then some next else none

/-- The end of the word at the cursor, or of the next token when the cursor is already there or is
not on a word. -/
def wordEnd? (cursor : Nat) (text : List Char) : Option Nat :=
  match text[cursor]? with
  | none => none
  | some c =>
      match CharClass.of c with
      | .blank => nextTokenLast? text cursor
      | .punctuation => nextTokenLast? text (tokenEnd text cursor c)
      | .word =>
          let last := tokenEnd text cursor c - 1
          if cursor < last then some last else nextTokenLast? text (last + 1)

/-- The start of the last token that begins before the cursor. -/
def previousWordStart? (cursor : Nat) (text : List Char) : Option Nat :=
  match (text.take cursor).reverse.dropWhile isBlank with
  | [] => none
  | c :: before => some (before.dropWhile (sameClass c)).length

/-- Takes at most `count` steps and stays where a step fails. -/
def repeatStep (step : Nat → Option Nat) : Nat → Nat → Nat
  | 0, position => position
  | count + 1, position =>
      match step position with
      | none => position
      | some next => repeatStep step count next

inductive Direction where
  | left
  | right
deriving DecidableEq, Repr

def arrowSteps (start target : Nat) : Nat × Direction :=
  if start ≤ target then (target - start, .right) else (start - target, .left)

end ModalKeys.Text
