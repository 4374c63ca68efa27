/-!
# Selections

A stretch of a text by offset and length, counted in characters; a caret when the length is zero.
-/

namespace ModalKeys

structure Selection where
  offset : Nat
  length : Nat
deriving DecidableEq, Repr

namespace Selection

def caret (offset : Nat) : Selection := ⟨offset, 0⟩

/-- The offset after the last selected character. -/
def stop (s : Selection) : Nat := s.offset + s.length

/-- `stop` where it is a 64-bit number. -/
def stop? (s : Selection) : Option Nat := if s.stop < UInt64.size then some s.stop else none

def isEmpty (s : Selection) : Bool := s.length == 0

end Selection

end ModalKeys
