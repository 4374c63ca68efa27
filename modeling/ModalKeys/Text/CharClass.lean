import ModalKeys.Text.Alphanumeric

/-!
# Character classes

Every character is a word character, a blank or punctuation. Only the space and the tab are blanks,
so a newline is punctuation.
-/

namespace ModalKeys.Text

inductive CharClass where
  | word
  | blank
  | punctuation
deriving DecidableEq, Repr

def isWordChar (c : Char) : Bool := isAlphanumeric c || c == '_'

def CharClass.of (c : Char) : CharClass :=
  if isWordChar c then .word
  else if c == ' ' || c == '\t' then .blank
  else .punctuation

def isBlank (c : Char) : Bool := CharClass.of c == .blank

end ModalKeys.Text
