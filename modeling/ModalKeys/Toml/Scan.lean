/-!
# Scanning

A scanner takes something off the front of the characters that are left, or fails. Scanners that
repeat stop where a step fails or takes nothing.
-/

namespace ModalKeys.Toml

abbrev Scanner (α : Type) := List Char → Option (α × List Char)

def many {α : Type} (step : Scanner α) (cs : List Char) : List α × List Char :=
  match step cs with
  | none => ([], cs)
  | some (item, rest) =>
      if rest.length < cs.length then
        let (items, last) := many step rest
        (item :: items, last)
      else ([item], rest)
termination_by cs.length

def some1 {α : Type} (step : Scanner α) : Scanner (List α) := fun cs =>
  match many step cs with
  | ([], _) => none
  | result => some result

def expect (c : Char) (cs : List Char) : Option (List Char) :=
  match cs with
  | first :: rest => if first = c then some rest else none
  | [] => none

def charOf (p : Char → Bool) : Scanner Char := fun cs =>
  match cs with
  | first :: rest => if p first then some (first, rest) else none
  | [] => none

def word : List Char → List Char → Option (List Char)
  | [], cs => some cs
  | c :: more, cs => (expect c cs).bind (word more)

def isBlank (c : Char) : Bool := c == ' ' || c == '\t'

def skipBlanks (cs : List Char) : List Char := cs.dropWhile isBlank

/-- Takes a line feed, alone or after a carriage return. -/
def newline? : List Char → Option (List Char)
  | '\n' :: rest => some rest
  | '\r' :: '\n' :: rest => some rest
  | _ => none

/-- Characters of a comment: the tab and everything that is not a control. -/
def isCommentChar (c : Char) : Bool := c == '\t' || (0x20 ≤ c.toNat && c.toNat != 0x7F)

def skipComment (cs : List Char) : List Char :=
  match cs with
  | '#' :: rest => rest.dropWhile isCommentChar
  | _ => cs

/-- Ends a line: blanks, perhaps a comment, and a line break or the end of the document. -/
def endLine? (cs : List Char) : Option (List Char) :=
  match skipComment (skipBlanks cs) with
  | [] => some []
  | rest => newline? rest

/-- One step over blank space that may span lines and hold comments. -/
def spaceStep : Scanner Unit := fun cs =>
  match cs with
  | [] => none
  | c :: rest =>
      if isBlank c then some ((), rest)
      else if c = '#' then some ((), skipComment cs)
      else (newline? cs).map ((), ·)

def skipSpace (cs : List Char) : List Char := (many spaceStep cs).2

end ModalKeys.Toml
