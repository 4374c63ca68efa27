import ModalKeys.Keyboard.Layout
import ModalKeys.TextField.Draft

/-!
# Editing shortcuts

Which editing operation a stroke stands for in a native text field. Arrow keys and deletion come
first, then the Command shortcuts; every other stroke inserts the character it types.
-/

namespace ModalKeys

inductive Shortcut where
  | move (arrow : Arrow) (extend : Bool)
  | deleteBackward (reach : Reach)
  | deleteForward
  | selectAll
  | copy
  | cut
  | paste
  | undo
  | redo
  | insert (c : Char)
  | unassigned
deriving DecidableEq, Repr

namespace Shortcut

/-- Command goes by lines, Option by words. -/
def reach (m : Modifiers) : Reach := if m.command then .line else if m.option then .word else .char

def ofKeystroke (stroke : Keystroke) : Shortcut :=
  let code := stroke.code
  let m := stroke.modifiers
  if code = .left then .move (.left (reach m)) m.shift
  else if code = .right then .move (.right (reach m)) m.shift
  else if code = .up then .move (if m.command then .top else .up) m.shift
  else if code = .down then .move (if m.command then .bottom else .down) m.shift
  else if code = .backspace then .deleteBackward (reach m)
  else if code = .forwardDelete then .deleteForward
  else if code = .a ∧ m.command then .selectAll
  else if code = .c ∧ m.command then .copy
  else if code = .x ∧ m.command then .cut
  else if code = .v ∧ m.command then .paste
  else if code = .z ∧ m.command then if m.shift then .redo else .undo
  else
    match stroke.typed? with
    | some c => .insert c
    | none => .unassigned

end Shortcut

end ModalKeys
