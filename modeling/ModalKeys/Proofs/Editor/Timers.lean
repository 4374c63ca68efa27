import ModalKeys.Editor

/-!
# What time does to an editor

An editor with nothing deferred only looks at the key that Insert mode holds. Deferred strokes that
are carried out reach the control in the order in which they were deferred.
-/

namespace ModalKeys.Editor

variable {κ : Type} [Control κ]

@[simp] theorem mode_inject (e : Editor κ) (strokes : List Keystroke) :
    (e.inject strokes).mode = e.mode := rfl

@[simp] theorem modes_inject (e : Editor κ) (strokes : List Keystroke) :
    (e.inject strokes).modes = e.modes := rfl

@[simp] theorem queue_inject (e : Editor κ) (strokes : List Keystroke) :
    (e.inject strokes).queue = e.queue := rfl

@[simp] theorem settle_inject (e : Editor κ) (strokes : List Keystroke) :
    (e.inject strokes).settle = e.settle := rfl

@[simp] theorem control_inject (e : Editor κ) (strokes : List Keystroke) :
    (e.inject strokes).control = Control.injectAll e.control strokes := rfl

@[simp] theorem inject_nil (e : Editor κ) : e.inject [] = e := rfl

theorem inject_append (e : Editor κ) (first second : List Keystroke) :
    e.inject (first ++ second) = (e.inject first).inject second := by
  simp only [inject, Control.injectAll_append]

theorem respondAll_append (first second : List Response) (e : Editor κ) (now : Nat) :
    respondAll (first ++ second) e now =
      ((respondAll second (respondAll first e now).1 now).1,
        (respondAll first e now).2 && (respondAll second (respondAll first e now).1 now).2) := by
  induction first generalizing e with
  | nil => simp [respondAll]
  | cons response rest ih => simp [respondAll, ih, Bool.and_assoc]

theorem respondAll_map_inject (strokes : List Keystroke) (e : Editor κ) (now : Nat) :
    respondAll (strokes.map .inject) e now = (e.inject strokes, true) := by
  induction strokes generalizing e with
  | nil => rfl
  | cons stroke rest ih =>
      simp only [List.map_cons, respondAll, respond, ih, Bool.and_self]
      rw [← inject_append, List.singleton_append]

theorem respond_injectAll (strokes : List Keystroke) (e : Editor κ) (now : Nat) :
    respond (.injectAll strokes) e now = (e.inject strokes, true) := by
  rw [Response.injectAll, respond, respondAll_map_inject]

@[simp] theorem setMode_self (e : Editor κ) (now : Nat) : e.setMode e.mode now = e :=
  if_pos rfl

theorem runDue_of_idle {e : Editor κ} (idle : e.queue = []) (now : Nat) : e.runDue now = e := by
  rw [runDue]
  split
  · rfl
  · next taken =>
      rw [idle] at taken
      cases taken

theorem runDeferred_of_idle {e : Editor κ} (idle : e.queue = []) (now : Nat) :
    e.runDeferred now = e := by
  rw [runDeferred]
  split
  · rfl
  · next queued =>
      rw [idle] at queued
      cases queued

theorem runDeferred_of_injectAll {e : Editor κ} {due : Nat} {strokes : List Keystroke}
    (queued : e.queue = [⟨due, .injectAll strokes⟩]) (now : Nat) :
    e.runDeferred now = { e with queue := [] }.inject strokes := by
  rw [runDeferred]
  split
  · next idle =>
      rw [queued] at idle
      cases idle
  · next entry rest same =>
      rw [queued] at same
      cases same
      rw [respond_injectAll, runDeferred_of_idle rfl]

theorem runDue_of_injectAll {e : Editor κ} {due : Nat} {strokes : List Keystroke}
    (queued : e.queue = [⟨due, .injectAll strokes⟩]) (now : Nat) :
    e.runDue now = if due ≤ now then { e with queue := [] }.inject strokes else e := by
  by_cases early : due ≤ now
  · rw [if_pos early, runDue]
    split
    · next nothing => simp [queued, takeDue, early] at nothing
    · next entry rest taken =>
        simp only [queued, takeDue, early, ↓reduceIte, Option.some.injEq, Prod.mk.injEq] at taken
        cases taken.1
        cases taken.2
        rw [respond_injectAll, runDue_of_idle rfl]
  · rw [if_neg early, runDue]
    split
    · rfl
    · next taken => simp [queued, takeDue, early] at taken

omit [Control κ] in
/-- With nothing left to wait for, nothing is deferred. -/
theorem queue_of_deadline_none {e : Editor κ} (done : e.deadline? = none) : e.queue = [] := by
  unfold deadline? at done
  split at done
  · cases done
  · cases done
  · next nothing => exact List.map_eq_nil_iff.mp (List.min?_eq_none_iff.mp nothing)

end ModalKeys.Editor
