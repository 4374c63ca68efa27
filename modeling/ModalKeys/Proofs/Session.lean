import ModalKeys.Control.Recorder
import ModalKeys.Editor
import ModalKeys.TextField.Basic

/-!
# Sessions

What reaches an editor while someone types: keys, and time that passes. A key that the editor does
not keep goes on to its control, where it arrives as the stroke that types it again. The editor's owner
can ask more of it, in any order and at any time: these are its operations.
-/

namespace ModalKeys

/-- A control that also takes the keys an editor lets through. -/
class Target (κ : Type) extends Control κ where
  receive : κ → Keystroke → κ

instance : Target TextField where
  receive := TextField.press

/-- A recorder has no text to type into. -/
instance : Target Recorder where
  receive r _ := r

instance {κ : Type} [Target κ] : Target (Transcript κ) where
  receive t stroke := { t with control := Target.receive t.control stroke }

namespace Transcript

variable {κ : Type}

theorem injected_injectAll [Control κ] (t : Transcript κ) (strokes : List Keystroke) :
    (Control.injectAll t strokes).injected = t.injected ++ strokes := by
  induction strokes generalizing t with
  | nil => exact (List.append_nil _).symm
  | cons stroke rest ih =>
      change (Control.injectAll (Control.inject t stroke) rest).injected = _
      rw [ih, injected_inject, List.append_assoc, List.singleton_append]

/-- The strokes received after an earlier state. -/
def since (t earlier : Transcript κ) : List Keystroke := t.injected.drop earlier.injected.length

@[simp] theorem since_self (t : Transcript κ) : t.since t = [] := List.drop_length

@[simp] theorem since_injectAll [Control κ] (t : Transcript κ) (strokes : List Keystroke) :
    (Control.injectAll t strokes).since t = strokes := by
  rw [since, injected_injectAll, List.drop_left]

end Transcript

/-- The key was typed for a character, or it is Escape. -/
def KeyPress.Typed (press : KeyPress) : Prop := press = .escape ∨ ∃ c, KeyPress.ofChar? c = some press

def KeyPress.ofText (text : List Char) : List KeyPress := text.filterMap KeyPress.ofChar?

theorem KeyPress.typed_of_mem_ofText {text : List Char} {press : KeyPress}
    (listed : press ∈ KeyPress.ofText text) : press.Typed := by
  obtain ⟨c, _, found⟩ := List.mem_filterMap.mp listed
  exact .inr ⟨c, found⟩

inductive Input where
  | key (press : KeyPress) (now : Nat)
  | tick (now : Nat)
deriving DecidableEq, Repr

namespace Input

def key? : Input → Option (KeyPress × Nat)
  | .key press now => some (press, now)
  | .tick _ => none

def time : Input → Nat
  | .key _ now | .tick now => now

/-- Time, or a key that was typed and is not Escape. -/
def IsOrdinary : Input → Prop
  | .key press _ => press.synthetic = false ∧ press.isEscape = false
  | .tick _ => True

instance (input : Input) : Decidable input.IsOrdinary :=
  match input with
  | .key press _ => inferInstanceAs (Decidable (press.synthetic = false ∧ press.isEscape = false))
  | .tick _ => inferInstanceAs (Decidable True)

end Input

def typedKeys (inputs : List Input) : List (KeyPress × Nat) := inputs.filterMap Input.key?

theorem mem_of_mem_typedKeys {inputs : List Input} {key : KeyPress × Nat}
    (listed : key ∈ typedKeys inputs) : .key key.1 key.2 ∈ inputs := by
  obtain ⟨input, found, same⟩ := List.mem_filterMap.mp listed
  cases input with
  | key press now =>
      cases same
      exact found
  | tick now => cases same

def presses (inputs : List Input) : List KeyPress := (typedKeys inputs).map Prod.fst

theorem presses_append (first second : List Input) :
    presses (first ++ second) = presses first ++ presses second := by
  rw [presses, typedKeys, List.filterMap_append, List.map_append]
  rfl

theorem presses_tick (inputs : List Input) (now : Nat) :
    presses (inputs ++ [.tick now]) = presses inputs := by
  rw [presses_append]
  exact List.append_nil _

def keyTimes (inputs : List Input) : List Nat := (typedKeys inputs).map Prod.snd

inductive Operation where
  | key (press : KeyPress) (now : Nat)
  | tick (now : Nat)
  | setMode (mode : Mode) (now : Nat)
  | execute (response : Response) (now : Nat)
  | shutdown
deriving Repr

namespace Editor

section Operations

variable {κ : Type} [Control κ]

def operate (e : Editor κ) : Operation → Editor κ
  | .key press now => (e.key press now).1
  | .tick now => e.tick now
  | .setMode mode now => e.setMode mode now
  | .execute response now => (respond response e now).1
  | .shutdown => e.shutdown

def operateAll (e : Editor κ) (operations : List Operation) : Editor κ := operations.foldl operate e

end Operations

variable {κ : Type} [Target κ]

/-- Handles a key and passes it on to the control unless it is kept. An echo has come from the control's
side and is not typed again. -/
def deliver (e : Editor κ) (press : KeyPress) (now : Nat) : Editor κ × Bool :=
  let (after, kept) := e.key press now
  if kept || press.synthetic then (after, kept)
  else ({ after with control := Target.receive after.control press.replay }, kept)

def take (e : Editor κ) : Input → Editor κ
  | .key press now => (e.deliver press now).1
  | .tick now => e.tick now

def run (e : Editor κ) (inputs : List Input) : Editor κ := inputs.foldl take e

@[simp] theorem run_nil (e : Editor κ) : e.run [] = e := rfl

@[simp] theorem run_cons (e : Editor κ) (input : Input) (rest : List Input) :
    e.run (input :: rest) = (e.take input).run rest := rfl

theorem run_append (e : Editor κ) (first second : List Input) :
    e.run (first ++ second) = (e.run first).run second :=
  List.foldl_append

/-! Passing a key on concerns the control alone. -/

theorem deliver_snd (e : Editor κ) (press : KeyPress) (now : Nat) :
    (e.deliver press now).2 = (e.key press now).2 := by
  unfold deliver
  dsimp only
  split <;> rfl

theorem deliver_of_kept (e : Editor κ) (press : KeyPress) (now : Nat)
    (kept : (e.key press now).2 = true) : (e.deliver press now).1 = (e.key press now).1 := by
  simp [deliver, kept]

theorem deliver_of_passed (e : Editor κ) (press : KeyPress) (now : Nat)
    (passed : (e.key press now).2 = false) (typed : press.synthetic = false) :
    (e.deliver press now).1 =
      { (e.key press now).1 with
        control := Target.receive (e.key press now).1.control press.replay } := by
  simp [deliver, passed, typed]

end Editor

end ModalKeys
