/-!
# Modes
-/

namespace ModalKeys

inductive Mode where
  | normal
  | insert
  | visual
  | visualLine
deriving DecidableEq, Repr

namespace Mode

def isNormal (m : Mode) : Bool := m == .normal

def isInsert (m : Mode) : Bool := m == .insert

def isVisual (m : Mode) : Bool := m == .visual || m == .visualLine

def label : Mode → String
  | .normal => "NORMAL"
  | .insert => "INSERT"
  | .visual => "VISUAL"
  | .visualLine => "V-LINE"

def key : Mode → String
  | .normal => "normal"
  | .insert => "insert"
  | .visual => "visual"
  | .visualLine => "visual_line"

def all : List Mode := [.normal, .insert, .visual, .visualLine]

def ofKey? (name : String) : Option Mode := all.find? fun m => m.key = name

theorem ofKey?_key (m : Mode) : ofKey? m.key = some m := by cases m <;> rfl

end Mode

end ModalKeys
