import ModalKeys.Keyboard.Keystroke

/-!
# Keyboard layout

One table gives, for each typing key, its character without and with Shift. It is read in both
directions: from a character to the stroke that types it, and from a stroke to what it types.
-/

namespace ModalKeys

def layout : List (KeyCode × Char × Char) :=
  [(⟨0x00⟩, 'a', 'A'), (⟨0x01⟩, 's', 'S'), (⟨0x02⟩, 'd', 'D'), (⟨0x03⟩, 'f', 'F'),
    (⟨0x04⟩, 'h', 'H'), (⟨0x05⟩, 'g', 'G'), (⟨0x06⟩, 'z', 'Z'), (⟨0x07⟩, 'x', 'X'),
    (⟨0x08⟩, 'c', 'C'), (⟨0x09⟩, 'v', 'V'), (⟨0x0B⟩, 'b', 'B'), (⟨0x0C⟩, 'q', 'Q'),
    (⟨0x0D⟩, 'w', 'W'), (⟨0x0E⟩, 'e', 'E'), (⟨0x0F⟩, 'r', 'R'), (⟨0x10⟩, 'y', 'Y'),
    (⟨0x11⟩, 't', 'T'), (⟨0x12⟩, '1', '!'), (⟨0x13⟩, '2', '@'), (⟨0x14⟩, '3', '#'),
    (⟨0x15⟩, '4', '$'), (⟨0x16⟩, '6', '^'), (⟨0x17⟩, '5', '%'), (⟨0x18⟩, '=', '+'),
    (⟨0x19⟩, '9', '('), (⟨0x1A⟩, '7', '&'), (⟨0x1B⟩, '-', '_'), (⟨0x1C⟩, '8', '*'),
    (⟨0x1D⟩, '0', ')'), (⟨0x1E⟩, ']', '}'), (⟨0x1F⟩, 'o', 'O'), (⟨0x20⟩, 'u', 'U'),
    (⟨0x21⟩, '[', '{'), (⟨0x22⟩, 'i', 'I'), (⟨0x23⟩, 'p', 'P'), (⟨0x25⟩, 'l', 'L'),
    (⟨0x26⟩, 'j', 'J'), (⟨0x27⟩, '\x27', '\x22'), (⟨0x28⟩, 'k', 'K'), (⟨0x29⟩, ';', ':'),
    (⟨0x2A⟩, '\\', '|'), (⟨0x2B⟩, ',', '<'), (⟨0x2C⟩, '/', '?'), (⟨0x2D⟩, 'n', 'N'),
    (⟨0x2E⟩, 'm', 'M'), (⟨0x2F⟩, '.', '>'), (⟨0x32⟩, '\x60', '~')]

def Keystroke.ofChar? (c : Char) : Option Keystroke :=
  if c = ' ' then some (.plain .space)
  else if c = '\n' then some (.plain .enter)
  else if c = '\t' then some (.plain .tab)
  else
    layout.findSome? fun (code, lower, upper) =>
      if c = lower then some (.plain code)
      else if c = upper then some (.shifted code)
      else none

/-- The character a stroke types. A stroke with Command, Option or Control types none. -/
def Keystroke.typed? (stroke : Keystroke) : Option Char :=
  if stroke.modifiers.command || stroke.modifiers.option || stroke.modifiers.control then none
  else if stroke.code = .space then some ' '
  else if stroke.code = .enter then some '\n'
  else if stroke.code = .tab then some '\t'
  else
    (layout.find? fun (code, _, _) => code = stroke.code).map fun (_, lower, upper) =>
      if stroke.modifiers.shift then upper else lower

def escapeName : String := "ESC"

def namedKeys : List (KeyCode × String) :=
  [(.escape, escapeName), (.enter, "Return"), (.tab, "Tab"), (.space, "Space"),
    (.backspace, "Backspace"), (.forwardDelete, "ForwardDelete"), (.home, "Home"), (.endKey, "End"),
    (.pageUp, "PageUp"), (.pageDown, "PageDown"), (.left, "Left"), (.right, "Right"),
    (.down, "Down"), (.up, "Up")]

/-- A key's name: its own if it has one, else the character it types. -/
def KeyCode.name? (code : KeyCode) (shift : Bool) : Option String :=
  match namedKeys.find? fun (named, _) => named = code with
  | some (_, name) => some name
  | none =>
      let stroke : Keystroke := if shift then .shifted code else .plain code
      stroke.typed?.map String.singleton

def hexDigit (n : Nat) : Char :=
  if n < 10 then Char.ofNat (0x30 + n) else Char.ofNat (0x37 + n)

/-- The code in upper case hexadecimal, with at least two digits. -/
def KeyCode.hex (code : KeyCode) : String :=
  let n := code.val.toNat
  let digits := [n / 0x1000, n / 0x100 % 16, n / 0x10 % 16, n % 16]
  let shown := if n < 0x100 then digits.drop 2 else if n < 0x1000 then digits.drop 1 else digits
  "0x" ++ String.ofList (shown.map hexDigit)

/-- The stroke in words: its modifiers in a fixed order, then the key without Shift. -/
def Keystroke.label (stroke : Keystroke) : String :=
  let m := stroke.modifiers
  (if m.command then "Cmd+" else "") ++ (if m.control then "Ctrl+" else "") ++
    (if m.option then "Opt+" else "") ++ (if m.shift then "Shift+" else "") ++
    (stroke.code.name? false).getD stroke.code.hex

end ModalKeys
