import ModalKeys.Keyboard.Layout
import ModalKeys.Text.Uppercase

/-!
# Key presses

What the capture side reports: the key's name, its code, and whether the press was injected by a
program instead of typed.
-/

namespace ModalKeys

structure KeyPress where
  name : String
  code : KeyCode
  synthetic : Bool
deriving DecidableEq, Repr

namespace KeyPress

def ofChar? (c : Char) : Option KeyPress :=
  (Keystroke.ofChar? c).map fun stroke => ⟨String.singleton c, stroke.code, false⟩

def escape : KeyPress := ⟨escapeName, .escape, false⟩

def isEscape (press : KeyPress) : Bool := press.code == .escape || press.name == escapeName

/-- The stroke that stands for the press when it is typed again. Shift is restored only for a name
that is one capital letter. -/
def replay (press : KeyPress) : Keystroke :=
  match press.name.toList with
  | [c] => if Text.isUppercase c then .shifted press.code else .plain press.code
  | _ => .plain press.code

end KeyPress

end ModalKeys
