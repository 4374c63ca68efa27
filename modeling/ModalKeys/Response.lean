import ModalKeys.Command.Basic
import ModalKeys.Keyboard.Keystroke

/-!
# Responses

What a mode answers to a key: a tree of steps for the editor to carry out, in order from left to
right. A response also says whether the key is kept from the control.
-/

namespace ModalKeys

inductive Response where
  | switchMode (mode : Mode)
  | inject (stroke : Keystroke)
  | run (counted : Counted)
  | defer (response : Response)
  | all (responses : List Response)
  | consume
  | passThrough
deriving Repr, Inhabited

namespace Response

def injectAll (strokes : List Keystroke) : Response := .all (strokes.map .inject)

mutual

/-- The key is kept from the control unless some step outside a deferral passes it through. -/
def intercepts : Response → Bool
  | .passThrough => false
  | .all responses => interceptsAll responses
  | _ => true

def interceptsAll : List Response → Bool
  | [] => true
  | response :: rest => intercepts response && interceptsAll rest

end

mutual

/-- A bound on the steps that carrying out a response can still lead to. -/
def weight : Response → Nat
  | .switchMode _ => 4
  | .run _ => 4
  | .defer response => weight response + 1
  | .all responses => weightAll responses + 1
  | _ => 1

def weightAll : List Response → Nat
  | [] => 0
  | response :: rest => weight response + weightAll rest

end

theorem weightAll_map_inject (strokes : List Keystroke) :
    weightAll (strokes.map .inject) = strokes.length := by
  induction strokes with
  | nil => rfl
  | cons stroke rest ih => simp [weightAll, weight, ih, Nat.add_comm]

theorem weightAll_append (first second : List Response) :
    weightAll (first ++ second) = weightAll first + weightAll second := by
  induction first with
  | nil => simp [weightAll]
  | cons response rest ih => simp [weightAll, ih, Nat.add_assoc]

theorem weight_injectAll (strokes : List Keystroke) :
    (injectAll strokes).weight = strokes.length + 1 := by
  simp [injectAll, weight, weightAll_map_inject]

end Response

/-- How Normal mode answers a command it has read. -/
def Entry.response (entry : Entry) : Response :=
  let positioning : List Keystroke :=
    match entry with
    | .insert | .visual | .visualLine => []
    | .insertAfter => [.plain .right]
    | .insertLineStart => [.command .left]
    | .insertLineEnd => [.command .right]
    | .openLineBelow => [.command .right, .plain .enter]
    | .openLineAbove => [.command .left, .plain .enter, .plain .up]
  if positioning.isEmpty then .switchMode entry.target
  else .all (.switchMode entry.target :: positioning.map .inject)

def Counted.response (counted : Counted) : Response :=
  match counted.command with
  | .entry entry => entry.response
  | .edit edit =>
      if edit.entersInsert then .all [.switchMode .insert, .run counted] else .run counted
  | .motion _ => .run counted

end ModalKeys
