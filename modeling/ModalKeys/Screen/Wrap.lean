import ModalKeys.Screen.Cell

/-!
# Wrapping rows

A row that is too wide for its box goes on in the next one, where possible between two words. A row
of nothing but spaces begins anew after an empty row.
-/

namespace ModalKeys.Screen

/-- White space at which a row may be broken, which leaves out the space that never breaks. -/
def isBreakable (c : Char) : Bool :=
  let n := c.toNat
  (0x09 ≤ n && n ≤ 0x0D) || n == 0x20 || n == 0x85 || n == 0x1680 || (0x2000 ≤ n && n ≤ 0x200B) ||
    n == 0x2028 || n == 0x2029 || n == 0x202F || n == 0x205F || n == 0x3000

def totalWidth (cells : List Cell) : Nat := (cells.map Cell.width).foldr (· + ·) 0

/-- Leaves out leading cells as long as they fit into a room. -/
def dropFitting : Nat → List Cell → List Cell
  | _, [] => []
  | room, cell :: rest =>
      if cell.width ≤ room then dropFitting (room - cell.width) rest else cell :: rest

/-- A row as far as it is wrapped: the finished rows with the newest first, the row being filled, and
after it spaces and the characters of a word that may still have to go to the next row. -/
structure Wrapping where
  finished : List (List Cell)
  row : List Cell
  spaces : List Cell
  word : List Cell
  afterWord : Bool

namespace Wrapping

def start : Wrapping := ⟨[], [], [], [], false⟩

def settle (w : Wrapping) : Wrapping :=
  { w with row := w.row ++ w.spaces ++ w.word, spaces := [], word := [] }

/-- Finishes the row; spaces that still fit into it are not carried over. -/
def endRow (w : Wrapping) (width : Nat) : Wrapping :=
  { w with
    finished := w.row :: w.finished
    row := []
    spaces := dropFitting (width - totalWidth w.row) w.spaces }

def append (w : Wrapping) (cell : Cell) : Wrapping :=
  if isBreakable cell.char then { w with spaces := w.spaces ++ [cell], afterWord := false }
  else { w with word := w.word ++ [cell], afterWord := true }

def waiting (w : Wrapping) : Nat := totalWidth w.spaces + totalWidth w.word

/-- Nothing goes into the row any more, not even a cell of the given size behind what is waiting. A
cell that takes no column goes behind a row that is not full by itself. -/
def isFull (w : Wrapping) (width size : Nat) : Bool :=
  decide (width ≤ totalWidth w.row) ||
    (decide (0 < size) && decide (width ≤ totalWidth w.row + w.waiting))

/-- Adds a cell that is not wider than a row. One space at which a row is broken is dropped. -/
def addFitting (width : Nat) (w : Wrapping) (cell : Cell) : Wrapping :=
  let space := isBreakable cell.char
  let overflow := w.row.isEmpty && decide (width < w.waiting + cell.width)
  let w := if (w.afterWord && space) || overflow then w.settle else w
  if w.isFull width cell.width then
    let w := w.endRow width
    if space && w.spaces.isEmpty then w else w.append cell
  else w.append cell

/-- Adds a cell; one that is wider than a row is left out. -/
def add (width : Nat) (w : Wrapping) (cell : Cell) : Wrapping :=
  if width < cell.width then w else w.addFitting width cell

def finish (w : Wrapping) : List (List Cell) :=
  let finished :=
    if w.row.isEmpty && w.word.isEmpty && !w.spaces.isEmpty then [] :: w.finished else w.finished
  let last := w.settle.row
  let rows := if last.isEmpty then finished else last :: finished
  if rows.isEmpty then [[]] else rows.reverse

end Wrapping

def wrap (width : Nat) (row : List Cell) : List (List Cell) :=
  if width = 0 then [[]] else (row.foldl (Wrapping.add width) .start).finish

end ModalKeys.Screen
