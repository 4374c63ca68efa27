import ModalKeys.Proofs.Editor.Commanding
import ModalKeys.Proofs.Session

/-!
# Typing a command

Normal mode gathers the keys of a command while time does nothing to it. The last key carries the
command out, and some time after that its last strokes follow.
-/

namespace ModalKeys

namespace NormalMode

/-- Typed keys that are gathered one by one until the last completes a command. -/
inductive Reads : NormalMode → List KeyPress → Counted → Prop where
  | last {m : NormalMode} {press : KeyPress} {counted : Counted} (typed : press.synthetic = false)
      (plain : press.isEscape = false)
      (read : m.reader.read (m.keys ++ [press.name]) = .complete counted) : Reads m [press] counted
  | more {m : NormalMode} {press : KeyPress} {rest : List KeyPress} {counted : Counted}
      (typed : press.synthetic = false) (plain : press.isEscape = false)
      (read : m.reader.read (m.keys ++ [press.name]) = .pending)
      (reads : Reads { m with keys := m.keys ++ [press.name] } rest counted) :
      Reads m (press :: rest) counted

variable {m : NormalMode} {press : KeyPress}

theorem key_of_complete {counted : Counted} (plain : press.isEscape = false)
    (read : m.reader.read (m.keys ++ [press.name]) = .complete counted) :
    m.key press = (m.cleared, counted.response) := by
  simp [key, plain, read]

theorem key_of_pending (plain : press.isEscape = false)
    (read : m.reader.read (m.keys ++ [press.name]) = .pending) :
    m.key press = ({ m with keys := m.keys ++ [press.name] }, .consume) := by
  simp [key, plain, read]

end NormalMode

namespace Editor

variable {κ : Type}

def Rests (e : Editor κ) : Prop := e.mode = .normal ∧ e.queue = []

/-- Time alone does nothing to an editor that no tick changes. -/
theorem run_of_still [Target κ] {e : Editor κ} (still : ∀ now, e.tick now = e) {inputs : List Input}
    (silent : presses inputs = []) : e.run inputs = e := by
  induction inputs with
  | nil => rfl
  | cons input inputs ih =>
      cases input with
      | key press now => cases silent
      | tick now =>
          change (e.tick now).run inputs = e
          rw [still, ih silent]

/-- Every command keeps its last key. -/
theorem respond_kept [Control κ] (counted : Counted) (e : Editor κ) (now : Nat) :
    (respond counted.response e now).2 = true := by
  rcases counted.command_cases with stays | ⟨edit, command, enters⟩ | ⟨entry, command⟩
  · rw [respond_of_plan stays]
  · rw [respond_of_change command enters]
  · rw [respond_of_entry command]

namespace Rests

variable [Target κ] {e : Editor κ}

omit [Target κ] in
theorem away (rests : e.Rests) : e.mode ≠ .insert := by
  rw [rests.1]
  nofun

theorem tick (rests : e.Rests) (now : Nat) : e.tick now = e := tick_of_idle rests.away rests.2 now

omit [Target κ] in
theorem deadline (rests : e.Rests) : e.deadline? = none := by
  rw [deadline?, rests.1, rests.2]
  rfl

theorem key (rests : e.Rests) {press : KeyPress} (typed : press.synthetic = false) (now : Nat) :
    e.key press now =
      let heard := e.modes.normal.key press
      respond heard.2 (e.withNormal heard.1) now := by
  rw [key_of_idle rests.away rests.2 typed, answer_of_normal rests.1]

theorem deliver_of_pending (rests : e.Rests) {press : KeyPress} (typed : press.synthetic = false)
    (plain : press.isEscape = false)
    (read : e.modes.normal.reader.read (e.modes.normal.keys ++ [press.name]) = .pending) (now : Nat) :
    (e.deliver press now).1 =
      e.withNormal { e.modes.normal with keys := e.modes.normal.keys ++ [press.name] } := by
  have answered := rests.key typed now
  rw [NormalMode.key_of_pending plain read] at answered
  rw [deliver_of_kept e press now (congrArg Prod.snd answered), answered]
  rfl

theorem deliver_of_complete (rests : e.Rests) {press : KeyPress} (typed : press.synthetic = false)
    (plain : press.isEscape = false) {counted : Counted}
    (read : e.modes.normal.reader.read (e.modes.normal.keys ++ [press.name]) = .complete counted)
    (now : Nat) :
    (e.deliver press now).1 =
      (respond counted.response (e.withNormal e.modes.normal.cleared) now).1 := by
  have answered := rests.key typed now
  rw [NormalMode.key_of_complete plain read] at answered
  rw [deliver_of_kept e press now (by rw [answered]; exact respond_kept _ _ _), answered]

theorem run_of_silent (rests : e.Rests) {inputs : List Input} (silent : presses inputs = []) :
    e.run inputs = e :=
  run_of_still rests.tick silent

/-- A command is carried out at its last key. -/
theorem run_of_reads (rests : e.Rests) {inputs : List Input} {keys : List KeyPress}
    (typed : presses inputs = keys) {counted : Counted} (reads : e.modes.normal.Reads keys counted) :
    ∃ now ∈ keyTimes inputs, ∃ rest, presses rest = [] ∧
      e.run inputs =
        (respond counted.response (e.withNormal e.modes.normal.cleared) now).1.run rest := by
  induction inputs generalizing e keys with
  | nil =>
      subst typed
      cases reads
  | cons input inputs ih =>
      cases input with
      | tick now =>
          obtain ⟨later, timed, rest, silent, ran⟩ := ih rests typed reads
          refine ⟨later, timed, rest, silent, ?_⟩
          rw [run_cons, ← ran]
          exact congrArg (run · inputs) (rests.tick now)
      | key press now =>
          change press :: presses inputs = keys at typed
          cases reads with
          | last physical plain read =>
              obtain ⟨rfl, silent⟩ := List.cons.inj typed
              refine ⟨now, List.mem_cons_self, inputs, silent, ?_⟩
              exact congrArg (run · inputs) (rests.deliver_of_complete physical plain read now)
          | more physical plain read reads =>
              obtain ⟨rfl, remaining⟩ := List.cons.inj typed
              have gathered := rests.deliver_of_pending physical plain read now
              have stays : (e.deliver press now).1.Rests := by
                rw [gathered]
                exact rests
              obtain ⟨later, timed, rest, silent, ran⟩ :=
                ih stays remaining (by rw [gathered]; exact reads)
              refine ⟨later, List.mem_cons_of_mem _ timed, rest, silent, ?_⟩
              rw [run_cons, take, ran, gathered]
              rfl

end Rests

/-- Time alone sends the strokes left for later, or not yet. -/
theorem run_of_deferred_cases [Target κ] {e : Editor κ} (normal : e.mode = .normal) {due : Nat}
    {strokes : List Keystroke} (queued : e.queue = [⟨due, .injectAll strokes⟩]) {inputs : List Input}
    (silent : presses inputs = []) :
    e.run inputs = e ∨ e.run inputs = { e with queue := [] }.inject strokes := by
  have away : e.mode ≠ .insert := by rw [normal]; nofun
  induction inputs with
  | nil => exact .inl rfl
  | cons input inputs ih =>
      cases input with
      | key press now => cases silent
      | tick now =>
          change (e.tick now).run inputs = e ∨ (e.tick now).run inputs = _
          rw [tick, runDue_of_injectAll queued]
          by_cases early : due ≤ now
          · rw [if_pos early]
            dsimp only
            rw [mode_inject, ModeSet.tick_of_away _ away]
            have rests : Rests ({ e with queue := [] }.inject strokes) := ⟨normal, rfl⟩
            exact .inr (rests.run_of_silent silent)
          · rw [if_neg early]
            dsimp only
            rw [ModeSet.tick_of_away _ away]
            exact ih silent

namespace Rests

variable [Target κ] {e : Editor κ} (rests : e.Rests) {inputs : List Input} {counted : Counted}
  (reads : e.modes.normal.Reads (presses inputs) counted) (stays : counted.command.StaysNormal)

include rests reads stays

/-- A command whose plan does not fit sends nothing, and the editor has failed. -/
theorem failed_of_reads (unfit : (counted.plan e.control).fits = false) :
    e.run inputs = { e.withNormal e.modes.normal.cleared with failed := true } := by
  obtain ⟨now, _, rest, silent, ran⟩ := rests.run_of_reads rfl reads
  have failed : respond counted.response (e.withNormal e.modes.normal.cleared) now =
      ({ e.withNormal e.modes.normal.cleared with failed := true }, true) := by
    rw [respond_of_plan stays, execute_of_not_fits (e := e.withNormal e.modes.normal.cleared) unfit]
  have rested : Rests { e.withNormal e.modes.normal.cleared with failed := true } := rests
  rw [ran, failed]
  exact rested.run_of_silent silent

variable (fits : (counted.plan e.control).fits = true)

include fits

/-- With its last key a command is carried out, and then only time passes. -/
theorem carried_of_reads :
    ∃ now ∈ keyTimes inputs, ∃ rest, presses rest = [] ∧
      e.run inputs =
        ((e.withNormal e.modes.normal.cleared).carryOut (counted.plan e.control) now).run rest := by
  obtain ⟨now, timed, rest, silent, ran⟩ := rests.run_of_reads rfl reads
  refine ⟨now, timed, rest, silent, ?_⟩
  rw [ran, respond_of_plan stays, execute_of_fits (e := e.withNormal e.modes.normal.cleared) fits]
  rfl

/-- A command that leaves nothing for later is done with its last key. -/
theorem done_of_reads (immediate : (counted.plan e.control).settled = []) :
    e.run inputs = (e.withNormal e.modes.normal.cleared).inject (counted.plan e.control).now := by
  obtain ⟨now, _, rest, silent, ran⟩ := rests.carried_of_reads reads stays fits
  have rested : ((e.withNormal e.modes.normal.cleared).inject (counted.plan e.control).now).Rests := rests
  rw [ran, carryOut_of_atOnce immediate]
  exact rested.run_of_silent silent

/-- After its last key, a command that stays in Normal mode is done, or it waits for its last strokes. -/
theorem done_or_waits :
    e.run inputs =
        (e.withNormal e.modes.normal.cleared).inject
          ((counted.plan e.control).now ++ (counted.plan e.control).settled) ∨
      (e.run inputs).mode = .normal ∧ ∃ time ∈ keyTimes inputs,
        (e.run inputs).queue = [⟨time + e.settle, .injectAll (counted.plan e.control).settled⟩] := by
  by_cases immediate : (counted.plan e.control).settled = []
  · rw [immediate, List.append_nil]
    exact .inl (rests.done_of_reads reads stays fits immediate)
  · obtain ⟨now, timed, rest, silent, ran⟩ := rests.carried_of_reads reads stays fits
    let sent := (e.withNormal e.modes.normal.cleared).carryOut (counted.plan e.control) now
    change e.run inputs = sent.run rest at ran
    have waits : (counted.plan e.control).settled.isEmpty = false := by simpa using immediate
    have whole : sent = _ := carryOut_eq _ _ now
    have normal : sent.mode = .normal := by
      rw [whole]
      exact rests.1
    have queued : sent.queue = [⟨now + e.settle, .injectAll (counted.plan e.control).settled⟩] := by
      rw [whole, waits]
      exact congrArg (· ++ _) rests.2
    rcases run_of_deferred_cases normal queued silent with waiting | done
    · rw [ran, waiting]
      exact .inr ⟨normal, now, timed, queued⟩
    · left
      rw [ran, done, whole, inject_append]
      obtain ⟨mode, modes, control, queue, settle, failed⟩ := e
      cases rests.2
      rfl

/-- A command that stays in Normal mode is done once it has settled: nothing but its strokes has reached
the control. -/
theorem settled_of_reads (settled : (e.run inputs).deadline? = none) :
    e.run inputs =
      (e.withNormal e.modes.normal.cleared).inject
        ((counted.plan e.control).now ++ (counted.plan e.control).settled) := by
  rcases rests.done_or_waits reads stays fits with done | ⟨_, time, _, queued⟩
  · exact done
  · cases queued.symm.trans (queue_of_deadline_none settled)

/-- A command that stays in Normal mode has settled once the delay has passed since its last key. -/
theorem settles_of_reads {later : Nat} (waited : ∀ time ∈ keyTimes inputs, time + e.settle ≤ later) :
    (e.run (inputs ++ [.tick later])).Rests := by
  rw [run_append]
  change ((e.run inputs).tick later).Rests
  rcases rests.done_or_waits reads stays fits with done | ⟨normal, time, timed, queued⟩
  · have rested : (e.run inputs).Rests := by
      rw [done]
      exact rests
    rwa [rested.tick]
  · have away : (e.run inputs).mode ≠ .insert := by rw [normal]; nofun
    rw [Editor.tick, runDue_of_injectAll queued, if_pos (waited time timed)]
    dsimp only
    rw [mode_inject, ModeSet.tick_of_away _ away]
    exact ⟨normal, rfl⟩

/-- Once the delay has passed, the strokes of a command that stays in Normal mode have been sent and nothing
else has happened. -/
theorem carried_out_of_reads {later : Nat} (waited : ∀ time ∈ keyTimes inputs, time + e.settle ≤ later) :
    (e.run (inputs ++ [.tick later])).Rests ∧
      e.run (inputs ++ [.tick later]) =
        (e.withNormal e.modes.normal.cleared).inject
          ((counted.plan e.control).now ++ (counted.plan e.control).settled) := by
  have rested := rests.settles_of_reads reads stays fits waited
  rw [← presses_tick inputs later] at reads
  exact ⟨rested, rests.settled_of_reads reads stays fits rested.deadline⟩

end Rests

/-! ## Commands that lead into Insert mode -/

structure RestsInserting (e : Editor κ) : Prop where
  inside : e.mode = .insert
  idle : e.queue = []
  free : e.detector.held = none

namespace RestsInserting

variable {e : Editor κ} (rests : e.RestsInserting)

include rests

theorem deadline : e.deadline? = none := by
  rw [deadline?, rests.idle, rests.inside]
  exact congrArg (Option.map HeldKey.deadline) rests.free

theorem tick [Control κ] (now : Nat) : e.tick now = e := tick_of_vacant rests.inside rests.idle rests.free now

theorem run_of_silent [Target κ] {inputs : List Input} (silent : presses inputs = []) : e.run inputs = e :=
  run_of_still rests.tick silent

end RestsInserting

/-- Out of Normal mode nothing is taken along. -/
theorem Rests.inserting [Control κ] {e : Editor κ} (rests : e.Rests) (free : e.detector.held = none)
    (now : Nat) : (e.setMode .insert now).RestsInserting := by
  have away : Mode.insert ≠ e.mode := rests.away.symm
  refine ⟨mode_setMode e .insert now, ?_, ?_⟩
  · rw [queue_setMode e away, rests.2]
    rfl
  · rw [detector_setMode e away, if_neg away.symm]
    exact free

/-- Once Insert mode has been entered, the strokes that follow are all that is left to do. -/
theorem Rests.run_of_inserting [Target κ] {e : Editor κ} (rests : e.Rests) (free : e.detector.held = none)
    (strokes : List Keystroke) (now : Nat) {silent : List Input} (quiet : presses silent = []) :
    let after := ((e.setMode .insert now).inject strokes).run silent
    after.RestsInserting ∧
      after.control = Control.injectAll (Control.inject e.control (.plain .left)) strokes := by
  have entered := rests.inserting free now
  have rested : ((e.setMode .insert now).inject strokes).RestsInserting :=
    ⟨entered.inside, entered.idle, entered.free⟩
  intro after
  have still : after = (e.setMode .insert now).inject strokes := rested.run_of_silent quiet
  rw [still]
  refine ⟨rested, ?_⟩
  change Control.injectAll (e.setMode .insert now).control strokes = _
  rw [control_setMode_of_normal rests.1]

/-- A change is done with its last key: the block has been collapsed, and the strokes of the edit have been
sent to the caret. -/
theorem Rests.changed_of_reads [Target κ] {e : Editor κ} (rests : e.Rests) (free : e.detector.held = none)
    {inputs : List Input} {counted : Counted} (reads : e.modes.normal.Reads (presses inputs) counted)
    {edit : Edit} (command : counted.command = .edit edit) (enters : edit.entersInsert = true)
    (fits : (edit.plan counted.count).fits = true) :
    (e.run inputs).mode = .insert ∧
      (e.run inputs).control =
        Control.injectAll (Control.inject e.control (.plain .left)) (edit.plan counted.count).now := by
  obtain ⟨now, _, rest, silent, ran⟩ := rests.run_of_reads rfl reads
  rw [respond_of_change command enters, execute_of_change command enters, if_pos fits] at ran
  have cleared : (e.withNormal e.modes.normal.cleared).Rests := rests
  have done := cleared.run_of_inserting free (edit.plan counted.count).now now silent
  rw [ran]
  exact ⟨done.1.inside, done.2⟩

/-- An entry into Insert mode is done with its last key, and its count changes nothing. -/
theorem Rests.entered_of_reads [Target κ] {e : Editor κ} (rests : e.Rests) (free : e.detector.held = none)
    {inputs : List Input} {counted : Counted} (reads : e.modes.normal.Reads (presses inputs) counted)
    {entry : Entry} (command : counted.command = .entry entry) (enters : entry.target = .insert) :
    (e.run inputs).RestsInserting ∧
      (e.run inputs).control =
        Control.injectAll (Control.inject e.control (.plain .left)) entry.positioning := by
  obtain ⟨now, _, rest, silent, ran⟩ := rests.run_of_reads rfl reads
  rw [respond_of_entry command, enters] at ran
  have cleared : (e.withNormal e.modes.normal.cleared).Rests := rests
  rw [ran]
  exact cleared.run_of_inserting free entry.positioning now silent

/-- A Visual mode is entered with no keys gathered and with what its kind selects. -/
theorem Rests.entered_visual [Control κ] {e : Editor κ} (rests : e.Rests) {mode : Mode} {m : VisualMode}
    (chosen : mode = .visual ∧ e.modes.visual = m ∨ mode = .visualLine ∧ e.modes.visualLine = m) (now : Nat) :
    let entered := e.setMode mode now
    entered.mode = mode ∧ entered.queue = [] ∧ entered.settle = e.settle ∧
      entered.selecting = (m.enter .normal).1 ∧
      entered.control = Control.injectAll e.control (m.enter .normal).2.now := by
  intro entered
  obtain ⟨normal, idle⟩ := rests
  have away : mode ≠ e.mode := by
    rw [normal]
    rcases chosen with ⟨rfl, _⟩ | ⟨rfl, _⟩ <;> nofun
  have same : entered.mode = mode := mode_setMode e mode now
  have control := control_setMode e away now
  refine ⟨same, ?_, ?_, ?_, ?_⟩
  · rw [queue_setMode e away, idle]
    rcases chosen with ⟨rfl, _⟩ | ⟨rfl, _⟩ <;> rfl
  · change (e.setMode mode now).settle = e.settle
    rw [setMode_eq e away]
    rfl
  · rw [selecting, same]
    change (if mode = .visualLine then (e.setMode mode now).modes.visualLine
      else (e.setMode mode now).modes.visual) = _
    rw [setMode_eq e away, normal]
    rcases chosen with ⟨rfl, rfl⟩ | ⟨rfl, rfl⟩ <;> rfl
  · rw [normal] at control
    rcases chosen with ⟨rfl, rfl⟩ | ⟨rfl, rfl⟩ <;> exact control

end Editor

end ModalKeys
