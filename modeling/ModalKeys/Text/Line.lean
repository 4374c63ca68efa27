/-!
# Lines of a text

A line ends at a newline or at the end of the text. Offsets past the end count as the end.
-/

namespace ModalKeys.Text

def notNewline (c : Char) : Bool := c != '\n'

/-- The offset at which the line containing `pos` begins. -/
def lineStart (text : List Char) (pos : Nat) : Nat :=
  ((text.take pos).reverse.dropWhile notNewline).length

/-- The offset of the newline that ends the line containing `pos`, or the text's length. -/
def lineEnd (text : List Char) (pos : Nat) : Nat :=
  min pos text.length + ((text.drop pos).takeWhile notNewline).length

/-- The same column one line up, or the nearest one that line has; the first line goes to its start. -/
def lineUp (text : List Char) (pos : Nat) : Nat :=
  let start := lineStart text pos
  if start = 0 then 0
  else
    let column := pos - start
    min (lineStart text (start - 1) + column) (start - 1)

/-- The same column one line down, or the nearest one that line has; the last line goes to its end. -/
def lineDown (text : List Char) (pos : Nat) : Nat :=
  let stop := lineEnd text pos
  if stop = text.length then stop
  else
    let column := pos - lineStart text pos
    min (stop + 1 + column) (lineEnd text (stop + 1))

/-- The text between newlines, in order; a text without a newline is one line. -/
def lines : List Char → List (List Char)
  | [] => [[]]
  | c :: rest =>
      if c = '\n' then [] :: lines rest
      else
        match lines rest with
        | [] => [[c]]
        | line :: others => (c :: line) :: others

end ModalKeys.Text
