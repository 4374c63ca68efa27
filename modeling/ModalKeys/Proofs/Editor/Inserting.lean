import ModalKeys.Proofs.Editor.Timers

/-!
# An editor in Insert mode

With nothing deferred, all that an editor in Insert mode does is decided by its chord detector.
-/

namespace ModalKeys

namespace Detector

variable {α : Type}

/-- Time resolves a held key in one way only: the key is let go. -/
theorem tick_cases (d : Detector α) (now : Nat) :
    (∃ held, d.held = some held ∧ held.deadline ≤ now ∧ d.tick now = (d.letGo held, some held.press)) ∨
      ((∀ held, d.held = some held → now < held.deadline) ∧ d.tick now = (d, none)) := by
  cases holding : d.held with
  | none => exact .inr ⟨nofun, by simp [tick, holding]⟩
  | some held =>
      by_cases due : held.deadline ≤ now
      · exact .inl ⟨held, rfl, due, by simp [tick, cancel, holding, due]⟩
      · refine .inr ⟨fun other same => ?_, by simp [tick, holding, due]⟩
        cases same
        exact Nat.lt_of_not_le due

/-- A typed key ends the wait for an echo. -/
def heard (d : Detector α) : Detector α := { d with expected := none }

def spelled? (d : Detector α) (first second : String) : Option (Chord α) :=
  d.chords.find? fun chord => chord.keys = first ++ second

def begun? (d : Detector α) (name : String) : Option (Chord α) :=
  d.chords.find? fun chord => chord.beginsWith name

theorem key_of_held {d : Detector α} {held : HeldKey} (holding : d.held = some held)
    {press : KeyPress} (typed : press.synthetic = false) (now : Nat) :
    d.key press now =
      match d.spelled? held.press.name press.name with
      | some chord => ({ d.heard with held := none }, .matched chord.action)
      | none => (d.heard.letGo held, .released held.press) := by
  simp only [key, typed, holding, spelled?]
  rfl

theorem key_of_free {d : Detector α} (free : d.held = none)
    {press : KeyPress} (typed : press.synthetic = false) (now : Nat) :
    d.key press now =
      match d.begun? press.name with
      | some chord => (d.heard.hold ⟨press, now, chord.timeout⟩, .waiting (now + chord.timeout))
      | none => (d.heard, .mismatched) := by
  simp only [key, typed, begun?, heard]
  rw [free]
  rfl

/-- An echo resolves nothing. -/
theorem key_of_echo (d : Detector α) {press : KeyPress} (echo : press.synthetic = true) (now : Nat) :
    ∃ after : Detector α, after.held = d.held ∧ after.chords = d.chords ∧
      d.key press now = (after, .echo) := by
  refine ⟨(d.key press now).1, ?_, ?_, ?_⟩ <;> rw [key, if_pos echo]

@[simp] theorem chords_letGo (d : Detector α) (held : HeldKey) : (d.letGo held).chords = d.chords := rfl

@[simp] theorem chords_cancel (d : Detector α) : d.cancel.1.chords = d.chords := by
  unfold cancel
  split <;> rfl

@[simp] theorem held_cancel (d : Detector α) : d.cancel.1.held = none := by
  unfold cancel
  split
  · rfl
  · next free => exact free

theorem snd_cancel (d : Detector α) : d.cancel.2 = d.held.map HeldKey.press := by
  unfold cancel
  split <;> simp [*]

end Detector

namespace ModeSet

theorem settled_enter (s : ModeSet) {mode origin : Mode} (away : mode ≠ origin) :
    (s.enter mode origin).2.settled = if mode = .normal then [.shifted .right] else [] := by
  cases mode with
  | normal => cases origin <;> first | rfl | exact absurd rfl away
  | insert => cases origin <;> rfl
  | visual =>
      change (s.visual.enter origin).2.settled = []
      unfold VisualMode.enter
      dsimp only
      split <;> rfl
  | visualLine =>
      change (s.visualLine.enter origin).2.settled = []
      unfold VisualMode.enter
      dsimp only
      split <;> rfl

theorem now_enter_from_insert (s : ModeSet) {mode : Mode} (away : mode ≠ .insert) :
    (s.enter mode .insert).2.now = [] := by
  cases mode with
  | insert => exact absurd rfl away
  | normal => rfl
  | visual =>
      change (s.visual.enter .insert).2.now = []
      unfold VisualMode.enter
      cases s.visual.kind <;> rfl
  | visualLine =>
      change (s.visualLine.enter .insert).2.now = []
      unfold VisualMode.enter
      cases s.visualLine.kind <;> rfl

@[simp] theorem insert_enter (s : ModeSet) (mode origin : Mode) :
    (s.enter mode origin).1.insert = s.insert := by
  cases mode <;> rfl

theorem tick_of_away (s : ModeSet) {mode : Mode} (away : mode ≠ .insert) (now : Nat) :
    s.tick mode now = (s, []) := by
  cases mode with
  | insert => exact absurd rfl away
  | normal | visual | visualLine => rfl

theorem detector_exit (s : ModeSet) (mode : Mode) :
    (s.exit mode).1.insert.detector =
      if mode = .insert then s.insert.detector.cancel.1 else s.insert.detector := by
  cases mode <;> rfl

end ModeSet

namespace Editor

variable {κ : Type}

def detector (e : Editor κ) : Detector Response := e.modes.insert.detector

def withDetector (e : Editor κ) (d : Detector Response) : Editor κ :=
  { e with modes := { e.modes with insert := ⟨d⟩ } }

def held? (e : Editor κ) : Option KeyPress := e.detector.held.map HeldKey.press

def heldStrokes (e : Editor κ) : List Keystroke := (e.held?.map KeyPress.replay).toList

@[simp] theorem mode_withDetector (e : Editor κ) (d : Detector Response) :
    (e.withDetector d).mode = e.mode := rfl

@[simp] theorem queue_withDetector (e : Editor κ) (d : Detector Response) :
    (e.withDetector d).queue = e.queue := rfl

@[simp] theorem control_withDetector (e : Editor κ) (d : Detector Response) :
    (e.withDetector d).control = e.control := rfl

@[simp] theorem settle_withDetector (e : Editor κ) (d : Detector Response) :
    (e.withDetector d).settle = e.settle := rfl

theorem heldStrokes_of_free {e : Editor κ} (free : e.detector.held = none) : e.heldStrokes = [] := by
  simp [heldStrokes, held?, free]

theorem heldStrokes_of_held {e : Editor κ} {held : HeldKey} (holding : e.detector.held = some held) :
    e.heldStrokes = [held.press.replay] := by
  simp [heldStrokes, held?, holding]

variable [Control κ]

@[simp] theorem detector_inject (e : Editor κ) (strokes : List Keystroke) :
    (e.inject strokes).detector = e.detector := rfl

theorem tick_of_insert {e : Editor κ} (inserting : e.mode = .insert) (idle : e.queue = [])
    (now : Nat) :
    e.tick now = (e.withDetector (e.detector.tick now).1).inject
      ((e.detector.tick now).2.map KeyPress.replay).toList := by
  obtain ⟨mode, modes, control, queue, settle⟩ := e
  cases inserting
  rw [tick, runDue_of_idle idle]
  rfl

/-- Time does nothing to Insert mode when nothing is open. -/
theorem tick_of_vacant {e : Editor κ} (inserting : e.mode = .insert) (idle : e.queue = [])
    (free : e.detector.held = none) (now : Nat) : e.tick now = e := by
  rw [tick_of_insert inserting idle, Detector.tick, free]
  rfl

/-- Outside Insert mode time only does what is deferred. -/
theorem tick_of_idle {e : Editor κ} (away : e.mode ≠ .insert) (idle : e.queue = []) (now : Nat) :
    e.tick now = e := by
  rw [tick, runDue_of_idle idle]
  dsimp only
  rw [ModeSet.tick_of_away _ away]
  rfl

/-- With nothing open, a typed key is answered as it comes. -/
theorem key_of_idle {e : Editor κ} (away : e.mode ≠ .insert) (idle : e.queue = []) {press : KeyPress}
    (typed : press.synthetic = false) (now : Nat) : e.key press now = e.answer press now := by
  rw [key, tick_of_idle away idle, typed, runDeferred_of_idle idle]
  rfl

/-- The answer to a key that is not Escape, by what the detector makes of it. -/
theorem answer_of_insert {e : Editor κ} (inserting : e.mode = .insert) {press : KeyPress}
    (ordinary : press.isEscape = false) (now : Nat) :
    e.answer press now =
      let sensed := e.withDetector (e.detector.key press now).1
      match (e.detector.key press now).2 with
      | .waiting _ => (sensed, true)
      | .matched response => respond response sensed now
      | .released held => (sensed.inject [held.replay], false)
      | .mismatched | .echo => (sensed, false) := by
  obtain ⟨mode, modes, control, queue, settle⟩ := e
  cases inserting
  simp only [answer, ModeSet.key, InsertMode.key, ordinary, Bool.false_and, detector]
  cases (modes.insert.detector.key press now).2 <;> rfl

/-! What the next key does: it completes a chord, goes through after the held key, is held itself, or
goes through. -/

theorem answer_of_spelled {e : Editor κ} (inserting : e.mode = .insert) {press : KeyPress}
    (typed : press.synthetic = false) (ordinary : press.isEscape = false) {held : HeldKey}
    (holding : e.detector.held = some held) {chord : Chord Response}
    (spelled : e.detector.spelled? held.press.name press.name = some chord) (now : Nat) :
    e.answer press now =
      respond chord.action (e.withDetector { e.detector.heard with held := none }) now := by
  rw [answer_of_insert inserting ordinary, Detector.key_of_held holding typed, spelled]

theorem answer_of_unspelled {e : Editor κ} (inserting : e.mode = .insert) {press : KeyPress}
    (typed : press.synthetic = false) (ordinary : press.isEscape = false) {held : HeldKey}
    (holding : e.detector.held = some held)
    (unspelled : e.detector.spelled? held.press.name press.name = none) (now : Nat) :
    e.answer press now =
      ((e.withDetector (e.detector.heard.letGo held)).inject [held.press.replay], false) := by
  rw [answer_of_insert inserting ordinary, Detector.key_of_held holding typed, unspelled]

theorem answer_of_begun {e : Editor κ} (inserting : e.mode = .insert) {press : KeyPress}
    (typed : press.synthetic = false) (ordinary : press.isEscape = false)
    (free : e.detector.held = none) {chord : Chord Response}
    (begun : e.detector.begun? press.name = some chord) (now : Nat) :
    e.answer press now =
      (e.withDetector (e.detector.heard.hold ⟨press, now, chord.timeout⟩), true) := by
  rw [answer_of_insert inserting ordinary, Detector.key_of_free free typed, begun]

theorem answer_of_unbegun {e : Editor κ} (inserting : e.mode = .insert) {press : KeyPress}
    (typed : press.synthetic = false) (ordinary : press.isEscape = false)
    (free : e.detector.held = none) (unbegun : e.detector.begun? press.name = none) (now : Nat) :
    e.answer press now = (e.withDetector e.detector.heard, false) := by
  rw [answer_of_insert inserting ordinary, Detector.key_of_free free typed, unbegun]

/-- An echo goes through, also when it is that of Escape. -/
theorem answer_of_echo {e : Editor κ} (inserting : e.mode = .insert) {press : KeyPress}
    (echo : press.synthetic = true) (now : Nat) :
    ∃ d, d.held = e.detector.held ∧ d.chords = e.detector.chords ∧
      e.answer press now = (e.withDetector d, false) := by
  obtain ⟨d, held, chords, heard⟩ := e.detector.key_of_echo echo now
  refine ⟨d, held, chords, ?_⟩
  obtain ⟨mode, modes, control, queue, settle⟩ := e
  cases inserting
  change modes.insert.detector.key press now = _ at heard
  simp only [answer, ModeSet.key, InsertMode.key, echo, Bool.not_true, Bool.and_false,
    Bool.false_eq_true, ↓reduceIte, heard]
  rfl

/-- Escape types the held key and leaves for Normal mode. -/
theorem answer_escape_of_insert {e : Editor κ} (inserting : e.mode = .insert) {press : KeyPress}
    (escape : press.isEscape = true) (typed : press.synthetic = false) (now : Nat) :
    e.answer press now =
      (((e.withDetector e.detector.cancel.1).inject e.heldStrokes).setMode .normal now, true) := by
  obtain ⟨mode, modes, control, queue, settle⟩ := e
  cases inserting
  simp only [answer, ModeSet.key, InsertMode.key, escape, typed, Bool.not_false, Bool.and_self,
    ↓reduceIte, InsertMode.flush, heldStrokes, held?, ← Detector.snd_cancel]
  simp only [respond, respondAll_append, respondAll_map_inject, respondAll, Bool.and_self]
  rfl

omit [Control κ] in
/-- What is deferred on entry into a mode: Normal mode waits to show its block. -/
def entryQueue (target : Mode) (due : Nat) : List Deferred :=
  if target = .normal then [⟨due, .injectAll [.shifted .right]⟩] else []

theorem carryOut_eq (e : Editor κ) (plan : Plan) (now : Nat) :
    e.carryOut plan now =
      { e.inject plan.now with
        queue := e.queue ++
          if plan.settled.isEmpty then [] else [⟨now + e.settle, .injectAll plan.settled⟩] } := by
  unfold carryOut
  dsimp only
  split
  · rw [List.append_nil]
    rfl
  · rfl

/-- Carrying out a command is a matter of the control and the queue. -/
theorem modes_execute (e : Editor κ) (counted : Counted) (now : Nat) :
    (e.execute counted now).mode = e.mode ∧ (e.execute counted now).modes = e.modes := by
  rcases e.execute_cases counted now with ⟨-, carried⟩ | ⟨-, failed⟩
  · rw [carried, carryOut_eq]
    exact ⟨rfl, rfl⟩
  · rw [failed]
    exact ⟨rfl, rfl⟩

/-- The old mode leaves, then the new one enters; only the block of Normal mode comes later. -/
theorem setMode_eq (e : Editor κ) {mode : Mode} (away : mode ≠ e.mode) (now : Nat) :
    e.setMode mode now =
      let exit := e.modes.exit e.mode
      let enter := exit.1.enter mode e.mode
      { e.inject (exit.2 ++ enter.2.now) with
        mode := mode
        modes := enter.1
        queue := e.queue ++ entryQueue mode (now + e.settle) } := by
  rw [setMode, if_neg away]
  dsimp only
  rw [carryOut_eq, ModeSet.settled_enter _ away, entryQueue, inject_append]
  by_cases normal : mode = .normal
  · rw [if_pos normal, if_pos normal]
    rfl
  · rw [if_neg normal, if_neg normal]
    rfl

@[simp] theorem mode_setMode (e : Editor κ) (mode : Mode) (now : Nat) :
    (e.setMode mode now).mode = mode := by
  by_cases same : mode = e.mode
  · rw [same, setMode_self]
  · rw [setMode_eq e same]

theorem control_setMode (e : Editor κ) {mode : Mode} (away : mode ≠ e.mode) (now : Nat) :
    (e.setMode mode now).control =
      Control.injectAll e.control
        ((e.modes.exit e.mode).2 ++ ((e.modes.exit e.mode).1.enter mode e.mode).2.now) := by
  rw [setMode_eq e away]
  rfl

theorem queue_setMode (e : Editor κ) {mode : Mode} (away : mode ≠ e.mode) (now : Nat) :
    (e.setMode mode now).queue = e.queue ++ entryQueue mode (now + e.settle) := by
  rw [setMode_eq e away]

theorem detector_setMode (e : Editor κ) {mode : Mode} (away : mode ≠ e.mode) (now : Nat) :
    (e.setMode mode now).detector =
      if e.mode = .insert then e.detector.cancel.1 else e.detector := by
  rw [setMode_eq e away, detector]
  dsimp only
  rw [ModeSet.insert_enter, ModeSet.detector_exit]
  rfl

/-! ## Keys and ticks -/

omit [Control κ] in
/-- An editor in Insert mode with nothing deferred, whose chords change the mode. -/
structure Inserting (e : Editor κ) : Prop where
  mode : e.mode = .insert
  idle : e.queue = []
  chords : ∀ chord ∈ e.detector.chords, ∃ target, chord.action = .switchMode target

namespace Inserting

variable {e : Editor κ}

omit [Control κ] in
theorem withDetector (typing : e.Inserting) {d : Detector Response}
    (same : d.chords = e.detector.chords) : (e.withDetector d).Inserting :=
  ⟨typing.mode, typing.idle, fun chord listed => typing.chords chord (same ▸ listed)⟩

theorem inject (typing : e.Inserting) (strokes : List Keystroke) : (e.inject strokes).Inserting :=
  ⟨typing.mode, typing.idle, typing.chords⟩

theorem tick_cases (typing : e.Inserting) (now : Nat) :
    (∃ held, e.detector.held = some held ∧ held.deadline ≤ now ∧
      e.tick now = (e.withDetector (e.detector.letGo held)).inject [held.press.replay]) ∨
    (∀ held, e.detector.held = some held → now < held.deadline) ∧ e.tick now = e := by
  rw [tick_of_insert typing.mode typing.idle]
  rcases e.detector.tick_cases now with ⟨held, holding, due, ticked⟩ | ⟨early, ticked⟩
  · exact .inl ⟨held, holding, due, by rw [ticked]; rfl⟩
  · exact .inr ⟨early, by rw [ticked]; rfl⟩

theorem tick (typing : e.Inserting) (now : Nat) : (e.tick now).Inserting := by
  rcases typing.tick_cases now with ⟨held, _, _, ticked⟩ | ⟨_, ticked⟩
  · rw [ticked]
    exact (typing.withDetector (Detector.chords_letGo _ held)).inject _
  · rwa [ticked]

theorem key_eq (typing : e.Inserting) {press : KeyPress} (typed : press.synthetic = false)
    (now : Nat) : e.key press now = (e.tick now).answer press now := by
  rw [key, typed, runDeferred_of_idle (typing.tick now).idle]
  rfl

/-- What a key does once due timers have run: it completes a chord, goes through after the held key,
is held itself, or goes through. -/
theorem answer_cases (typing : e.Inserting) {press : KeyPress} (typed : press.synthetic = false)
    (ordinary : press.isEscape = false) (now : Nat) :
    (∃ held target d, e.detector.held = some held ∧ d.held = none ∧ d.chords = e.detector.chords ∧
      (e.detector.spelled? held.press.name press.name).isSome = true ∧
      e.answer press now = ((e.withDetector d).setMode target now, true)) ∨
    (∃ held d, e.detector.held = some held ∧ d.held = none ∧ d.chords = e.detector.chords ∧
      (e.detector.spelled? held.press.name press.name).isSome = false ∧
      e.answer press now = ((e.withDetector d).inject [held.press.replay], false)) ∨
    (∃ chord d, e.detector.begun? press.name = some chord ∧ e.detector.held = none ∧
      d.held = some ⟨press, now, chord.timeout⟩ ∧ d.chords = e.detector.chords ∧
      e.answer press now = (e.withDetector d, true)) ∨
    (∃ d, e.detector.held = none ∧ d.held = none ∧ d.chords = e.detector.chords ∧
      e.answer press now = (e.withDetector d, false)) := by
  cases holding : e.detector.held with
  | some held =>
      cases spelled : e.detector.spelled? held.press.name press.name with
      | some chord =>
          obtain ⟨target, action⟩ := typing.chords chord (List.mem_of_find?_eq_some spelled)
          refine .inl ⟨held, target, { e.detector.heard with held := none }, rfl, rfl, rfl,
            by rw [spelled]; rfl, ?_⟩
          rw [answer_of_spelled typing.mode typed ordinary holding spelled, action]
          rfl
      | none =>
          exact .inr (.inl ⟨held, e.detector.heard.letGo held, rfl, rfl, rfl, by rw [spelled]; rfl,
            answer_of_unspelled typing.mode typed ordinary holding spelled now⟩)
  | none =>
      cases begun : e.detector.begun? press.name with
      | some chord =>
          exact .inr (.inr (.inl ⟨chord, e.detector.heard.hold ⟨press, now, chord.timeout⟩, rfl, rfl,
            rfl, rfl, answer_of_begun typing.mode typed ordinary holding begun now⟩))
      | none =>
          exact .inr (.inr (.inr ⟨e.detector.heard, rfl, holding, rfl,
            answer_of_unbegun typing.mode typed ordinary holding begun now⟩))

end Inserting

/-- The state after leaving Insert mode: the held key has been typed, and nothing else. -/
structure Left (e after : Editor κ) (target : Mode) (now : Nat) : Prop where
  mode : after.mode = target
  control : after.control = Control.injectAll e.control e.heldStrokes
  free : after.detector.held = none
  queue : after.queue = entryQueue target (now + e.settle)

theorem Inserting.left_setMode {e : Editor κ} (typing : e.Inserting) {target : Mode}
    (away : target ≠ .insert) (now : Nat) : e.Left (e.setMode target now) target now := by
  have leaving : target ≠ e.mode := fun same => away (same.trans typing.mode)
  refine ⟨mode_setMode e target now, ?_, ?_, ?_⟩
  · have strokes : (e.modes.exit e.mode).2 = e.heldStrokes := by
      rw [typing.mode, heldStrokes, held?, ← Detector.snd_cancel]
      rfl
    rw [control_setMode e leaving, strokes, typing.mode, ModeSet.now_enter_from_insert _ away,
      List.append_nil]
  · rw [detector_setMode e leaving, if_pos typing.mode]
    exact Detector.held_cancel _
  · rw [queue_setMode e leaving, typing.idle, List.nil_append]

/-- A tick takes nothing from what the control has been sent and is still to be typed. -/
theorem Inserting.injectAll_heldStrokes_tick {e : Editor κ} (typing : e.Inserting) (now : Nat) :
    Control.injectAll (e.tick now).control (e.tick now).heldStrokes =
      Control.injectAll e.control e.heldStrokes := by
  rcases typing.tick_cases now with ⟨held, holding, _, ticked⟩ | ⟨_, ticked⟩
  · have free : (e.tick now).detector.held = none := by rw [ticked]; rfl
    rw [heldStrokes_of_free free, heldStrokes_of_held holding, ticked]
    rfl
  · rw [ticked]

theorem Inserting.settle_tick {e : Editor κ} (typing : e.Inserting) (now : Nat) :
    (e.tick now).settle = e.settle := by
  rcases typing.tick_cases now with ⟨held, _, _, ticked⟩ | ⟨_, ticked⟩ <;> rw [ticked]
  rfl

theorem Inserting.left_escape {e : Editor κ} (typing : e.Inserting) {press : KeyPress}
    (escape : press.isEscape = true) (typed : press.synthetic = false) (now : Nat) :
    e.Left (e.key press now).1 .normal now := by
  have ticked := typing.tick now
  have closed : ((e.tick now).withDetector (e.tick now).detector.cancel.1).Inserting :=
    ticked.withDetector (Detector.chords_cancel _)
  have away : Mode.normal ≠ .insert := nofun
  have left := (closed.inject (e.tick now).heldStrokes).left_setMode away now
  have free : (((e.tick now).withDetector (e.tick now).detector.cancel.1).inject
      (e.tick now).heldStrokes).heldStrokes = [] :=
    heldStrokes_of_free (Detector.held_cancel _)
  rw [typing.key_eq typed, answer_escape_of_insert ticked.mode escape typed]
  refine ⟨left.mode, ?_, left.free, ?_⟩
  · rw [left.control, free, ← typing.injectAll_heldStrokes_tick now]
    rfl
  · rw [left.queue, settle_inject, settle_withDetector, typing.settle_tick]

theorem Inserting.shutdown {e : Editor κ} (typing : e.Inserting) :
    e.shutdown.control = Control.injectAll e.control e.heldStrokes ∧
      e.shutdown.detector.held = none ∧ e.shutdown.queue = [] := by
  obtain ⟨mode, modes, control, queue, settle⟩ := e
  cases typing.mode
  refine ⟨?_, Detector.held_cancel _, rfl⟩
  simp only [Editor.shutdown, ModeSet.flush, InsertMode.flush, heldStrokes, held?, ← Detector.snd_cancel]
  rfl

end Editor

end ModalKeys
