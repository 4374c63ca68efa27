import ModalKeys.Text.Width
import ModalKeys.TextField.Basic

/-!
# Rows of the field

The text as rows of styled characters, one row a line. A selection is shown reversed and a caret
underlined; either may cover a newline or the end of the text, which then shows as a blank.
-/

namespace ModalKeys

structure CellStyle where
  bold : Bool
  underlined : Bool
  reversed : Bool
deriving DecidableEq, Repr

namespace CellStyle

def plain : CellStyle := ⟨false, false, false⟩

def caret : CellStyle := ⟨true, true, false⟩

def block : CellStyle := ⟨false, false, true⟩

end CellStyle

structure Cell where
  char : Char
  style : CellStyle
deriving DecidableEq, Repr

namespace Cell

def width (cell : Cell) : Nat := Text.width cell.char

def columns (cell : Cell) : List Char :=
  match cell.width with
  | 0 => []
  | more + 1 => cell.char :: List.replicate more ' '

theorem length_columns (cell : Cell) : cell.columns.length = cell.width := by
  unfold columns
  split
  · next none => rw [none, List.length_nil]
  · next more some => rw [some, List.length_cons, List.length_replicate]

end Cell

def consCell (cell : Cell) : List (List Cell) → List (List Cell)
  | [] => [[cell]]
  | row :: rows => (cell :: row) :: rows

/-- The rows of a text whose first character has the offset `i`. The style of each offset is given;
one that is not plain shows a blank where there is no character. -/
def cellRows (style : Nat → CellStyle) : Nat → List Char → List (List Cell)
  | i, [] => [if style i = .plain then [] else [⟨' ', style i⟩]]
  | i, c :: rest =>
      if c = '\n' then
        (if style i = .plain then [] else [⟨' ', style i⟩]) :: cellRows style (i + 1) rest
      else consCell ⟨c, style i⟩ (cellRows style (i + 1) rest)

/-- The style of each offset under a selection. -/
def Selection.style (s : Selection) (i : Nat) : CellStyle :=
  if s.isEmpty then if i = s.offset then .caret else .plain
  else if s.offset ≤ i ∧ i < s.stop then .block
  else .plain

def TextField.rows (f : TextField) : List (List Cell) := cellRows f.selection.style 0 f.text

end ModalKeys
