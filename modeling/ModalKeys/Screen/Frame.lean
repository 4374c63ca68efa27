import ModalKeys.Mode.Basic
import ModalKeys.Screen.Wrap

/-!
# The screen

A box around the rows of the field, a status line with the mode and the strokes injected last, and a
line of hints. Every line is cut and filled to the width of the screen.
-/

namespace ModalKeys.Screen

def title : List Char := " vimtap ".toList

def hint : List Char := " jk: normal   i/a/o: insert   v/V: visual   Ctrl+C: quit ".toList

def fit (width : Nat) (fill : Char) (line : List Char) : List Char :=
  (line ++ List.replicate width fill).take width

theorem length_fit (width : Nat) (fill : Char) (line : List Char) :
    (fit width fill line).length = width := by
  simp [fit]

def bordered (width : Nat) (first last fill : Char) (line : List Char) : List Char :=
  (first :: fit (width - 2) fill line ++ [last]).take width

theorem length_bordered (width : Nat) (first last fill : Char) (line : List Char) :
    (bordered width first last fill line).length = width := by
  simp only [bordered, List.length_take, List.length_append, List.length_cons, length_fit,
    List.length_nil]
  omega

/-- How many of the injected strokes the status line shows. -/
def shownStrokes : Nat := 6

def status (mode : Mode) (field : TextField) : List Char :=
  let recent := (field.recentKeys.reverse.take shownStrokes).map Keystroke.label
  (" " ++ mode.label ++ " " ++ "  injected: " ++ " ".intercalate recent).toList

def box (width height : Nat) (rows : List (List Char)) : List (List Char) :=
  let inner := rows ++ List.replicate height []
  bordered width '┌' '┐' '─' title ::
    (inner.take (height - 2)).map (bordered width '│' '│' ' ') ++
    [bordered width '└' '┘' '─' []]

theorem length_box (width height : Nat) (rows : List (List Char)) (tall : 2 ≤ height) :
    (box width height rows).length = height := by
  simp only [box, List.length_append, List.length_cons, List.length_map, List.length_take,
    List.length_replicate, List.length_nil]
  omega

def draw (width height : Nat) (mode : Mode) (field : TextField) : List (List Char) :=
  let rows := (field.rows.flatMap (wrap (width - 2))).map fun row => row.flatMap Cell.columns
  box width (height - 2) rows ++ [fit width ' ' (status mode field), fit width ' ' hint]

/-- The lines fill the screen from top to bottom. -/
theorem length_draw (width height : Nat) (mode : Mode) (field : TextField) (tall : 4 ≤ height) :
    (draw width height mode field).length = height := by
  have inner : 2 ≤ height - 2 := by omega
  simp only [draw, List.length_append, length_box _ _ _ inner, List.length_cons, List.length_nil]
  omega

/-- Each line is as wide as the screen. -/
theorem length_of_mem_draw {width height : Nat} {mode : Mode} {field : TextField}
    {line : List Char} (drawn : line ∈ draw width height mode field) : line.length = width := by
  simp only [draw, box, List.mem_append, List.mem_cons, List.mem_map, List.not_mem_nil,
    or_false] at drawn
  rcases drawn with ((rfl | ⟨_, _, rfl⟩) | rfl) | rfl | rfl
  · exact length_bordered _ _ _ _ _
  · exact length_bordered _ _ _ _ _
  · exact length_bordered _ _ _ _ _
  · exact length_fit _ _ _
  · exact length_fit _ _ _

end ModalKeys.Screen
