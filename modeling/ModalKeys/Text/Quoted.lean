import ModalKeys.Text.Combining
import ModalKeys.Text.Unprintable

/-!
# Quoted text

A text between quotes in which every character can be told from the others: quotes, backslashes and
the usual controls are escaped by letter, and characters that would not show, or would attach to
their neighbour, by their code.
-/

namespace ModalKeys.Text

def quotedChar (c : Char) : List Char :=
  if c = '\x00' then ['\\', '0']
  else if c = '\t' then ['\\', 't']
  else if c = '\r' then ['\\', 'r']
  else if c = '\n' then ['\\', 'n']
  else if c = '\\' ∨ c = '\x22' then ['\\', c]
  else if isCombining c ∨ isUnprintable c then
    ['\\', 'u', '\x7b'] ++ Nat.toDigits 16 c.toNat ++ ['\x7d']
  else [c]

def quoted (text : String) : String :=
  String.ofList ('\x22' :: text.toList.flatMap quotedChar ++ ['\x22'])

end ModalKeys.Text
