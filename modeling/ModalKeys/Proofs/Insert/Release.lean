import ModalKeys.Proofs.Insert.Chords
import ModalKeys.Proofs.Keyboard.Replay

/-!
# Letting a held key go

A held key that completes no chord is typed by a single stroke, whichever way it is resolved. That stroke
is the one the key was typed with only if its name and its code tell all there is to know about it.
-/

namespace ModalKeys

inductive Release where
  | tick (now : Nat)
  | key (press : KeyPress) (now : Nat)
  | setMode (mode : Mode) (now : Nat)
  | shutdown
deriving DecidableEq, Repr

namespace Release

variable {κ : Type} [Target κ]

def apply (e : Editor κ) : Release → Editor κ
  | .tick now => e.tick now
  | .key press now => (e.key press now).1
  | .setMode mode now => e.setMode mode now
  | .shutdown => e.shutdown

/-- It resolves the held key, and not by completing a chord. -/
def Resolves (e : Editor κ) : Release → Prop
  | .tick now => e.overdue now = true
  | .key press now =>
      if press.synthetic then e.overdue now = true
      else press.isEscape = true ∨ e.completed? press now = none
  | .setMode mode _ => mode ≠ .insert
  | .shutdown => True

end Release

namespace Editor.Inserting

variable {κ : Type} [Target κ] {e : Editor κ}

theorem ready_eq (typing : e.Inserting) (now : Nat) : e.ready now = e.tick now :=
  runDeferred_of_idle (typing.tick now).idle now

theorem control_tick (typing : e.Inserting) {now : Nat} (late : e.overdue now = true) :
    (e.tick now).control = Control.injectAll e.control e.heldStrokes := by
  rcases typing.tick_cases now with ⟨held, holding, _, ticked⟩ | ⟨early, ticked⟩
  · rw [ticked, heldStrokes_of_held holding]
    rfl
  · cases ((Orderly.overdue_eq_false_iff now).mpr early).symm.trans late

/-- A key that completes no chord lets a held key go. -/
theorem control_answer (typing : e.Inserting) {press : KeyPress} (typed : press.synthetic = false)
    (ordinary : press.isEscape = false) {now : Nat}
    (unspelled : ∀ held, e.detector.held = some held →
      e.detector.spelled? held.press.name press.name = none) :
    (e.answer press now).1.control = Control.injectAll e.control e.heldStrokes := by
  cases holding : e.detector.held with
  | some held =>
      rw [answer_of_unspelled typing.mode typed ordinary holding (unspelled held holding),
        heldStrokes_of_held holding]
      rfl
  | none =>
      rw [heldStrokes_of_free holding]
      cases begun : e.detector.begun? press.name with
      | some chord =>
          rw [answer_of_begun typing.mode typed ordinary holding begun]
          rfl
      | none =>
          rw [answer_of_unbegun typing.mode typed ordinary holding begun]
          rfl

/-- However a held key is resolved, its own stroke is all that is injected. -/
theorem control_release (typing : e.Inserting) {release : Release} (resolves : release.Resolves e) :
    (release.apply e).control = Control.injectAll e.control e.heldStrokes := by
  cases release with
  | tick now => exact typing.control_tick resolves
  | setMode mode now => exact (typing.left_setMode resolves now).control
  | shutdown => exact typing.shutdown.1
  | key press now =>
      cases typed : press.synthetic with
      | true =>
          simp only [Release.Resolves, typed, if_true] at resolves
          obtain ⟨d, _, _, handled⟩ := e.key_of_echo typed now
          rw [Release.apply, handled]
          exact typing.control_tick resolves
      | false =>
          simp only [Release.Resolves, typed, Bool.false_eq_true, if_false] at resolves
          cases escape : press.isEscape with
          | true => exact (typing.left_escape escape typed now).control
          | false =>
              have uncompleted := resolves.resolve_left (by rw [escape]; exact Bool.false_ne_true)
              have ticked := typing.tick now
              rw [Release.apply, typing.key_eq typed, ← typing.injectAll_heldStrokes_tick now]
              refine ticked.control_answer typed escape fun held holding => ?_
              rw [completed?, typing.ready_eq, Detector.key_of_held holding typed] at uncompleted
              cases spelled : (e.tick now).detector.spelled? held.press.name press.name with
              | none => rfl
              | some chord =>
                  rw [spelled] at uncompleted
                  cases uncompleted

end Editor.Inserting

namespace Editor

variable {κ : Type} [Target κ]

/-- A held terminal key comes out as one stroke, however it is resolved. It is the stroke the key was typed
with exactly for the keys that their names tell in full. -/
theorem held_key_released_iff (settings : Settings) (control : κ) {inputs : List Input}
    {key : TerminalKey} {m : TerminalModifiers} {name : String} {stroke : Keystroke}
    (captured : key.capture? m = some (name, stroke)) {release : Release} :
    let e := (settings.editor (Transcript.of control)).run inputs
    e.held? = some ⟨name, stroke.code, false⟩ → release.Resolves e →
      ∃ typed, (release.apply e).control.since e.control = [typed] ∧
        (typed = stroke ↔ key.Verbatim m) := by
  intro e holds resolves
  obtain ⟨held, holding, press⟩ := Option.map_eq_some_iff.mp holds
  have orderly : e.Orderly settings.chords := (Orderly.start settings _).run inputs
  have typing := orderly.inserting (orderly.inside_of_held holding)
  refine ⟨_, ?_, TerminalKey.replay_eq_iff captured⟩
  rw [typing.control_release resolves, Transcript.since_injectAll, heldStrokes, holds]
  rfl

/-- A capital `J` that a chord holds back, followed by another key in time, is typed with Shift. -/
theorem held_key_released_iff_of_capital :
    let settings := { Settings.usual with chords := [⟨"Jk", 140, .normal⟩] }
    let inputs : List Input := [.key ⟨"J", ⟨0x26⟩, false⟩ 10]
    let e := (settings.editor (Transcript.of (TextField.ofText []))).run inputs
    let release : Release := .key ⟨"x", ⟨0x07⟩, false⟩ 20
    (release.apply e).control.since e.control = [.shifted ⟨0x26⟩] := by
  intro settings inputs e release
  have captured : (TerminalKey.char 'J').capture? ⟨true, false, false⟩ = some ("J", .shifted ⟨0x26⟩) := by
    decide +kernel
  have holds : e.held? = some ⟨"J", ⟨0x26⟩, false⟩ := by decide +kernel
  have resolves : release.Resolves e := .inr (by decide +kernel)
  obtain ⟨typed, sent, same⟩ :=
    held_key_released_iff settings (TextField.ofText []) captured holds resolves
  have verbatim : (TerminalKey.char 'J').Verbatim ⟨true, false, false⟩ :=
    ⟨rfl, rfl, fun _ _ _ => by decide⟩
  rw [sent, same.mpr verbatim]

/-- An underscore that is held back comes out as a hyphen, and `j` with Control as a mere `j`. -/
theorem held_symbol_loses_shift :
    let settings := { Settings.usual with chords := [⟨"_x", 100, .normal⟩] }
    let e := (settings.editor (Transcript.of (TextField.ofText []))).run [.key ⟨"_", ⟨0x1B⟩, false⟩ 0]
    let e' := (Settings.usual.editor (Transcript.of (TextField.ofText []))).run
      [.key ⟨"j", ⟨0x26⟩, false⟩ 0]
    settings.fault? = none ∧
      (TerminalKey.char '_').capture? ⟨true, false, false⟩ = some ("_", .shifted ⟨0x1B⟩) ∧
      e.held? = some ⟨"_", ⟨0x1B⟩, false⟩ ∧ e.overdue 100 = true ∧
      (e.tick 100).control.since e.control = [.plain ⟨0x1B⟩] ∧
      (e.tick 100).control.control.text = ['-'] ∧
      (TerminalKey.char 'j').capture? ⟨false, true, false⟩ = some ("j", .command ⟨0x26⟩) ∧
      e'.held? = some ⟨"j", ⟨0x26⟩, false⟩ ∧ e'.shutdown.control.since e'.control = [.plain ⟨0x26⟩] := by
  intro settings e e'
  refine ⟨?_, ?_, ?_, ?_, ?_, ?_, ?_, ?_, ?_⟩ <;> decide +kernel

end Editor

end ModalKeys
