import ModalKeys.Proofs.Editor.Inserting
import ModalKeys.Proofs.Editor.Leaves
import ModalKeys.Proofs.Session
import ModalKeys.Proofs.TextField.Caret

/-!
# Strokes are all that reaches a control

Whatever an editor does, its control afterwards is the one before after some strokes. So a field stays as
sound as strokes leave it, whatever is typed.
-/

namespace ModalKeys

namespace Control

variable {κ : Type} [Control κ]

def Reaches (before after : κ) : Prop := ∃ strokes, after = injectAll before strokes

namespace Reaches

theorem refl (control : κ) : Reaches control control := ⟨[], rfl⟩

theorem strokes (control : κ) (strokes : List Keystroke) : Reaches control (injectAll control strokes) :=
  ⟨strokes, rfl⟩

theorem trans {first second third : κ} (earlier : Reaches first second) (later : Reaches second third) :
    Reaches first third := by
  obtain ⟨sent, rfl⟩ := earlier
  obtain ⟨more, rfl⟩ := later
  exact ⟨sent ++ more, (injectAll_append first sent more).symm⟩

end Reaches

end Control

open Control (Reaches)

namespace Editor

variable {κ : Type} [Control κ]

theorem reaches_carryOut (e : Editor κ) (plan : Plan) (now : Nat) :
    Reaches e.control (e.carryOut plan now).control := by
  rw [carryOut_eq]
  exact .strokes e.control plan.now

theorem reaches_execute (e : Editor κ) (counted : Counted) (now : Nat) :
    Reaches e.control (e.execute counted now).control := by
  rcases e.execute_cases counted now with ⟨-, carried⟩ | ⟨-, failed⟩
  · rw [carried]
    exact reaches_carryOut e _ now
  · rw [failed]
    exact .refl e.control

theorem reaches_setMode (e : Editor κ) (mode : Mode) (now : Nat) :
    Reaches e.control (e.setMode mode now).control := by
  by_cases same : mode = e.mode
  · rw [same, setMode_self]
    exact .refl e.control
  · rw [control_setMode e same]
    exact .strokes e.control _

theorem leavesKeep_reaches (before : κ) (now : Nat) :
    LeavesKeep now fun e : Editor κ => Reaches before e.control where
  leaf {e} leaf isLeaf reached := by
    refine reached.trans ?_
    cases leaf with
    | switchMode mode => exact reaches_setMode e mode now
    | inject stroke => exact .strokes e.control [stroke]
    | run counted => exact reaches_execute e counted now
    | all responses => exact isLeaf.elim
    | defer _ | consume | passThrough => exact .refl e.control
  queue _ reached := reached

theorem reaches_respond (response : Response) (e : Editor κ) (now : Nat) :
    Reaches e.control (respond response e now).1.control :=
  (leavesKeep_reaches e.control now).respond response (.refl e.control)

theorem reaches_runDue (e : Editor κ) (now : Nat) : Reaches e.control (e.runDue now).control :=
  (leavesKeep_reaches e.control now).runDue (.refl e.control)

theorem reaches_runDeferred (e : Editor κ) (now : Nat) : Reaches e.control (e.runDeferred now).control :=
  (leavesKeep_reaches e.control now).runDeferred (.refl e.control)

theorem reaches_tick (e : Editor κ) (now : Nat) : Reaches e.control (e.tick now).control :=
  (reaches_runDue e now).trans (.strokes _ _)

theorem reaches_answer (e : Editor κ) (press : KeyPress) (now : Nat) :
    Reaches e.control (e.answer press now).1.control := by
  unfold answer
  dsimp only
  split
  · exact .refl e.control
  · exact reaches_respond _ { e with modes := _ } now

theorem reaches_key (e : Editor κ) (press : KeyPress) (now : Nat) :
    Reaches e.control (e.key press now).1.control := by
  have ticked := reaches_tick e now
  unfold key
  dsimp only
  split
  · split
    · exact ticked.trans (reaches_answer _ press now)
    · exact ticked
  · exact (ticked.trans (reaches_runDeferred _ now)).trans (reaches_answer _ press now)

end Editor

namespace TextField.InBounds

theorem reaches {f g : TextField} (bounds : f.InBounds) (reached : Reaches f g) : g.InBounds := by
  obtain ⟨strokes, rfl⟩ := reached
  exact bounds.injectAll strokes

theorem take {e : Editor TextField} (bounds : e.control.InBounds) (input : Input) :
    (e.take input).control.InBounds := by
  cases input with
  | tick now => exact bounds.reaches (e.reaches_tick now)
  | key press now =>
      have answered := bounds.reaches (e.reaches_key press now)
      change (e.deliver press now).1.control.InBounds
      unfold Editor.deliver
      dsimp only
      split
      · exact answered
      · exact answered.press press.replay

/-- No session takes a field's offsets out of its text, whatever keys are typed. -/
theorem run {e : Editor TextField} (bounds : e.control.InBounds) (inputs : List Input) :
    (e.run inputs).control.InBounds := by
  induction inputs generalizing e with
  | nil => exact bounds
  | cons input rest ih => exact ih (bounds.take input)

end TextField.InBounds

end ModalKeys
