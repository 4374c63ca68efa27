import ModalKeys.Keyboard.Layout

/-!
# Keys of a terminal

A terminal reports characters and some named keys with modifiers. Control plays the part of Command,
Alt that of Option, and Home and End go to the ends of the line.
-/

namespace ModalKeys

inductive TerminalKey where
  | char (c : Char)
  | escape
  | enter
  | tab
  | backspace
  | delete
  | left
  | right
  | up
  | down
  | home
  | lineEnd
  | other
deriving DecidableEq, Repr

structure TerminalModifiers where
  shift : Bool
  control : Bool
  alt : Bool
deriving DecidableEq, Repr

namespace TerminalKey

def modifiers (m : TerminalModifiers) : Modifiers := ⟨m.control, false, m.alt, m.shift⟩

def stroke? (key : TerminalKey) (m : TerminalModifiers) : Option Keystroke :=
  let held := modifiers m
  match key with
  | .escape => some (.plain .escape)
  | .enter => some (.plain .enter)
  | .tab => some (.plain .tab)
  | .backspace => some ⟨.backspace, held⟩
  | .delete => some ⟨.forwardDelete, held⟩
  | .left => some ⟨.left, held⟩
  | .right => some ⟨.right, held⟩
  | .up => some ⟨.up, held⟩
  | .down => some ⟨.down, held⟩
  | .home => some ⟨.left, { held with command := true }⟩
  | .lineEnd => some ⟨.right, { held with command := true }⟩
  | .char _ | .other => none

/-- The name and the stroke of a key. A character is typed as the layout has it; with Control or Alt
it stands for the key of its lower case letter, and Shift no longer counts. -/
def capture? (key : TerminalKey) (m : TerminalModifiers) : Option (String × Keystroke) :=
  match key with
  | .char c =>
      match Keystroke.ofChar? c with
      | none => none
      | some typed =>
          if m.control || m.alt then
            (Keystroke.ofChar? c.toLower).map fun lower =>
              (String.singleton c, ⟨lower.code, { modifiers m with shift := false }⟩)
          else some (String.singleton c, typed)
  | key =>
      match key.stroke? m with
      | none => none
      | some stroke => (stroke.code.name? false).map (·, stroke)

end TerminalKey

end ModalKeys
