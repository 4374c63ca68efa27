import ModalKeys.Proofs.Editor.Orderly
import ModalKeys.Proofs.Session

/-!
# Editors without their times

Times are written down in two places, in the held key and in the queue, and are only read to decide
when something is due. Erasing them commutes with answering a key and with catching up.
-/

namespace ModalKeys

def HeldKey.timeless (held : HeldKey) : HeldKey := { held with since := 0 }

def Detector.timeless {α : Type} (d : Detector α) : Detector α :=
  { d with held := d.held.map HeldKey.timeless }

def Detection.timeless {α : Type} : Detection α → Detection α
  | .waiting _ => .waiting 0
  | detection => detection

def ModeSet.timeless (s : ModeSet) : ModeSet := { s with insert := ⟨s.insert.detector.timeless⟩ }

def Deferred.timeless (entry : Deferred) : Deferred := { entry with due := 0 }

namespace Detector

variable {α : Type} (d : Detector α)

theorem cancel_timeless : d.timeless.cancel = (d.cancel.1.timeless, d.cancel.2) := by
  obtain ⟨chords, held, expected⟩ := d
  cases held <;> rfl

theorem key_timeless (press : KeyPress) (now : Nat) :
    (d.timeless.key press 0).1 = (d.key press now).1.timeless ∧
      (d.timeless.key press 0).2.timeless = (d.key press now).2.timeless := by
  obtain ⟨chords, held, expected⟩ := d
  cases synthetic : press.synthetic with
  | true =>
      simp only [key, timeless, synthetic]
      exact ⟨rfl, rfl⟩
  | false =>
      cases held with
      | none =>
          simp only [key, timeless, synthetic, Option.map_none]
          cases chords.find? fun chord => chord.beginsWith press.name <;> exact ⟨rfl, rfl⟩
      | some held =>
          simp only [key, timeless, synthetic, Option.map_some, HeldKey.timeless]
          cases chords.find? fun chord => chord.keys = held.press.name ++ press.name <;>
            exact ⟨rfl, rfl⟩

end Detector

namespace ModeSet

variable (s : ModeSet)

theorem exit_timeless (mode : Mode) :
    s.timeless.exit mode = ((s.exit mode).1.timeless, (s.exit mode).2) := by
  cases mode with
  | insert =>
      simp only [exit, InsertMode.exit, InsertMode.flush, timeless]
      rw [Detector.cancel_timeless]
  | normal | visual | visualLine => rfl

theorem enter_timeless (mode origin : Mode) :
    s.timeless.enter mode origin = ((s.enter mode origin).1.timeless, (s.enter mode origin).2) := by
  cases mode <;> rfl

theorem key_timeless (mode : Mode) (press : KeyPress) (now : Nat) :
    s.timeless.key mode press 0 = ((s.key mode press now).1.timeless, (s.key mode press now).2) := by
  cases mode with
  | insert =>
      simp only [key, InsertMode.key, timeless]
      split
      · simp only [InsertMode.flush]
        rw [Detector.cancel_timeless]
      · obtain ⟨same, alike⟩ := s.insert.detector.key_timeless press now
        rw [same]
        generalize (s.insert.detector.timeless.key press 0).2 = first at alike ⊢
        generalize (s.insert.detector.key press now).2 = second at alike ⊢
        cases first <;> cases second <;> cases alike <;> rfl
  | normal | visual | visualLine => rfl

theorem pendingKeys_timeless (mode : Mode) : s.timeless.pendingKeys mode = s.pendingKeys mode := by
  cases mode with
  | insert =>
      simp only [pendingKeys, InsertMode.pendingKeys, timeless, Detector.heldName?, Detector.timeless,
        Option.map_map]
      rfl
  | normal | visual | visualLine => rfl

end ModeSet

namespace Editor

variable {κ : Type}

def timeless (e : Editor κ) : Editor κ :=
  { e with modes := e.modes.timeless, queue := e.queue.map Deferred.timeless, settle := 0 }

theorem heldStrokes_timeless (e : Editor κ) : e.timeless.heldStrokes = e.heldStrokes := by
  have names : e.timeless.held? = e.held? := Option.map_map _ _ e.detector.held
  rw [heldStrokes, heldStrokes, names]

theorem pendingKeys_timeless [Control κ] (e : Editor κ) : e.timeless.pendingKeys = e.pendingKeys :=
  e.modes.pendingKeys_timeless e.mode

variable [Control κ]

theorem carryOut_timeless (e : Editor κ) (plan : Plan) (now : Nat) :
    e.timeless.carryOut plan 0 = (e.carryOut plan now).timeless := by
  rw [carryOut_eq, carryOut_eq]
  cases plan.settled.isEmpty <;> simp [timeless, Deferred.timeless, inject]

theorem execute_timeless (e : Editor κ) (counted : Counted) (now : Nat) :
    e.timeless.execute counted 0 = (e.execute counted now).timeless := by
  rcases e.execute_cases counted now with ⟨fits, carried⟩ | ⟨unfit, failed⟩
  · rw [carried, execute_of_fits (e := e.timeless) fits]
    exact carryOut_timeless e _ now
  · rw [failed, execute_of_not_fits (e := e.timeless) unfit]
    rfl

theorem setMode_timeless (e : Editor κ) (mode : Mode) (now : Nat) :
    e.timeless.setMode mode 0 = (e.setMode mode now).timeless := by
  by_cases same : mode = e.mode
  · rw [same, setMode_self]
    exact setMode_self e.timeless 0
  · have entered : entryQueue mode (0 + 0) = (entryQueue mode (now + e.settle)).map Deferred.timeless := by
      cases mode <;> rfl
    rw [setMode_eq e same, setMode_eq e.timeless same]
    simp only [timeless, ModeSet.exit_timeless, ModeSet.enter_timeless, entered, List.map_append]
    rfl

mutual

theorem respond_timeless (response : Response) (e : Editor κ) (now : Nat) :
    respond response e.timeless 0 = ((respond response e now).1.timeless, (respond response e now).2) := by
  match response with
  | .switchMode mode => simp only [respond, setMode_timeless e mode now]
  | .inject _ | .consume | .passThrough => rfl
  | .run counted => simp only [respond, execute_timeless e counted now]
  | .defer response => simp [respond, schedule, timeless, Deferred.timeless]
  | .all responses => exact respondAll_timeless responses e now

theorem respondAll_timeless (responses : List Response) (e : Editor κ) (now : Nat) :
    respondAll responses e.timeless 0 =
      ((respondAll responses e now).1.timeless, (respondAll responses e now).2) := by
  match responses with
  | [] => rfl
  | response :: rest =>
      simp only [respondAll, respond_timeless response e now, respondAll_timeless rest _ now]

end

theorem answer_timeless (e : Editor κ) (press : KeyPress) (now : Nat) :
    e.timeless.answer press 0 = ((e.answer press now).1.timeless, (e.answer press now).2) := by
  have heard : e.timeless.modes.key e.timeless.mode press 0 = _ := e.modes.key_timeless e.mode press now
  unfold answer
  rw [heard]
  dsimp only
  cases (e.modes.key e.mode press now).2 with
  | none => rfl
  | some response =>
      exact respond_timeless response { e with modes := (e.modes.key e.mode press now).1 } now

namespace Orderly

variable {chords : List ChordSetting} {e : Editor κ}

theorem caughtUp_timeless (orderly : e.Orderly chords) (late : Bool) :
    e.timeless.caughtUp late = (e.caughtUp late).timeless := by
  have ran : e.timeless.runDeferred 0 = (e.runDeferred 0).timeless := by
    rcases orderly.queued with idle | ⟨_, due, stroke, _, queued⟩
    · have idle' : e.timeless.queue = [] := congrArg _ idle
      rw [runDeferred_of_idle idle, runDeferred_of_idle idle']
    · have queued' : e.timeless.queue = [⟨0, .injectAll [stroke]⟩] := congrArg _ queued
      rw [runDeferred_of_injectAll queued, runDeferred_of_injectAll queued']
      rfl
  have cancelled : (e.runDeferred 0).timeless.detector.cancel = _ :=
    (e.runDeferred 0).detector.cancel_timeless
  unfold Editor.caughtUp
  dsimp only
  rw [ran, heldStrokes_timeless, cancelled]
  cases late <;> rfl

end Orderly

end Editor

end ModalKeys
