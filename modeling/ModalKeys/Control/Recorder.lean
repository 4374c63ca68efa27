import ModalKeys.Control.Basic

/-!
# Recording controls

A recorder keeps every stroke sent to it and gives fixed answers. A transcript does the same for a
control that has behaviour of its own. Both keep the newest stroke first.
-/

namespace ModalKeys

structure Recorder where
  reversed : List Keystroke
  text : Option (List Char)
  selection : Option Selection
deriving DecidableEq, Repr

namespace Recorder

def answering (text : Option (List Char)) (selection : Option Selection) : Recorder :=
  ⟨[], text, selection⟩

def injected (r : Recorder) : List Keystroke := r.reversed.reverse

instance : Control Recorder where
  inject r stroke := { r with reversed := stroke :: r.reversed }
  text? r := r.text
  selection? r := r.selection

theorem injected_inject (r : Recorder) (stroke : Keystroke) :
    (Control.inject r stroke).injected = r.injected ++ [stroke] :=
  List.reverse_cons

end Recorder

structure Transcript (κ : Type) where
  control : κ
  reversed : List Keystroke
deriving DecidableEq, Repr

namespace Transcript

variable {κ : Type} [Control κ]

def of (control : κ) : Transcript κ := ⟨control, []⟩

def injected (t : Transcript κ) : List Keystroke := t.reversed.reverse

instance : Control (Transcript κ) where
  inject t stroke := ⟨Control.inject t.control stroke, stroke :: t.reversed⟩
  text? t := Control.text? t.control
  selection? t := Control.selection? t.control

theorem injected_inject (t : Transcript κ) (stroke : Keystroke) :
    (Control.inject t stroke).injected = t.injected ++ [stroke] :=
  List.reverse_cons

theorem control_inject (t : Transcript κ) (stroke : Keystroke) :
    (Control.inject t stroke).control = Control.inject t.control stroke := rfl

end Transcript

end ModalKeys
