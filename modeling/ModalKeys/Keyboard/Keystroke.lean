/-!
# Keystrokes

A key is known by its 16-bit code. A keystroke is a key together with the modifiers held down.
-/

namespace ModalKeys

structure KeyCode where
  val : UInt16
deriving DecidableEq, Repr

namespace KeyCode

def a : KeyCode := ⟨0x00⟩
def c : KeyCode := ⟨0x08⟩
def v : KeyCode := ⟨0x09⟩
def x : KeyCode := ⟨0x07⟩
def z : KeyCode := ⟨0x06⟩
def enter : KeyCode := ⟨0x24⟩
def tab : KeyCode := ⟨0x30⟩
def space : KeyCode := ⟨0x31⟩
def backspace : KeyCode := ⟨0x33⟩
def escape : KeyCode := ⟨0x35⟩
def home : KeyCode := ⟨0x73⟩
def pageUp : KeyCode := ⟨0x74⟩
def forwardDelete : KeyCode := ⟨0x75⟩
def endKey : KeyCode := ⟨0x77⟩
def pageDown : KeyCode := ⟨0x79⟩
def left : KeyCode := ⟨0x7B⟩
def right : KeyCode := ⟨0x7C⟩
def down : KeyCode := ⟨0x7D⟩
def up : KeyCode := ⟨0x7E⟩

/-- Modifier keys, media keys and function keys, which are never looked at. -/
def isIgnored (code : KeyCode) : Bool :=
  let n := code.val.toNat
  (0x36 ≤ n && n ≤ 0x40) || n == 0x4F || n == 0x50 || n == 0x5A || (0x60 ≤ n && n ≤ 0x72)

end KeyCode

structure Modifiers where
  command : Bool
  control : Bool
  option : Bool
  shift : Bool
deriving DecidableEq, Repr

namespace Modifiers

def none : Modifiers := ⟨false, false, false, false⟩

/-- The modifiers as the bit mask that event systems use. -/
def mask (m : Modifiers) : Nat :=
  (if m.shift then 0x20000 else 0) + (if m.control then 0x40000 else 0) +
    (if m.option then 0x80000 else 0) + (if m.command then 0x100000 else 0)

end Modifiers

structure Keystroke where
  code : KeyCode
  modifiers : Modifiers
deriving DecidableEq, Repr

namespace Keystroke

def plain (code : KeyCode) : Keystroke := ⟨code, .none⟩

def shifted (code : KeyCode) : Keystroke := ⟨code, { Modifiers.none with shift := true }⟩

def command (code : KeyCode) : Keystroke := ⟨code, { Modifiers.none with command := true }⟩

def option (code : KeyCode) : Keystroke := ⟨code, { Modifiers.none with option := true }⟩

def control (code : KeyCode) : Keystroke := ⟨code, { Modifiers.none with control := true }⟩

def commandShift (code : KeyCode) : Keystroke :=
  ⟨code, { Modifiers.none with command := true, shift := true }⟩

def optionShift (code : KeyCode) : Keystroke :=
  ⟨code, { Modifiers.none with option := true, shift := true }⟩

end Keystroke

end ModalKeys
