import ModalKeys.Keyboard.Keystroke
import ModalKeys.Text.Selection

/-!
# The focused control

All that the editor knows of the control it edits: strokes can be sent to it, and it may answer what
its text and its selection are. A control that answers neither is still usable.
-/

namespace ModalKeys

class Control (κ : Type) where
  inject : κ → Keystroke → κ
  text? : κ → Option (List Char)
  selection? : κ → Option Selection

namespace Control

variable {κ : Type} [Control κ]

def injectAll (control : κ) (strokes : List Keystroke) : κ := strokes.foldl inject control

theorem injectAll_cons (control : κ) (stroke : Keystroke) (rest : List Keystroke) :
    injectAll control (stroke :: rest) = injectAll (inject control stroke) rest := rfl

theorem injectAll_append (control : κ) (first second : List Keystroke) :
    injectAll control (first ++ second) = injectAll (injectAll control first) second :=
  List.foldl_append

end Control

end ModalKeys
