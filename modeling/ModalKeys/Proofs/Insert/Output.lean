import ModalKeys.Proofs.Editor.Inserting
import ModalKeys.Proofs.Session
import ModalKeys.Settings.Basic

/-!
# What comes out of Insert mode

Between two keys Insert mode keeps at most one key back. What has come out, followed by the key kept
back, is what was typed without the keys of the chords that were matched.
-/

namespace ModalKeys

structure Delivery where
  press : KeyPress
  /-- The key completes a chord with the key before it. -/
  completes : Bool
deriving DecidableEq, Repr

/-- The keys that no chord uses up: a key that completes a chord goes, and so does the key before it. -/
def survivors : List Delivery → List KeyPress
  | [] => []
  | _ :: ⟨_, true⟩ :: rest => survivors rest
  | first :: rest => first.press :: survivors rest

theorem survivors_cons_passed (first : Delivery) (press : KeyPress) (rest : List Delivery) :
    survivors (first :: ⟨press, false⟩ :: rest) = first.press :: survivors (⟨press, false⟩ :: rest) := by
  rw [survivors]
  simp

namespace Editor

variable {κ : Type}

def pending (e : Editor κ) : List Delivery := (e.held?.map (⟨·, false⟩)).toList

theorem pending_of_free {e : Editor κ} (free : e.detector.held = none) : e.pending = [] := by
  simp [pending, held?, free]

theorem pending_of_held {e : Editor κ} {held : HeldKey} (holding : e.detector.held = some held) :
    e.pending = [⟨held.press, false⟩] := by
  simp [pending, held?, holding]

variable [Target κ]

/-- A key is still held when the press arrives, and the two names spell a chord. -/
def completes (e : Editor κ) (press : KeyPress) (now : Nat) : Bool :=
  match (e.tick now).held? with
  | some held => ((e.tick now).detector.spelled? held.name press.name).isSome
  | none => false

def deliveries (e : Editor κ) : List Input → List Delivery
  | [] => []
  | .key press now :: rest =>
      ⟨press, e.completes press now⟩ :: deliveries (e.take (.key press now)) rest
  | .tick now :: rest => deliveries (e.tick now) rest

/-- Every input finds the editor in Insert mode; the last one may lead out of it. -/
def InsertThroughout (e : Editor κ) : List Input → Prop
  | [] => True
  | input :: rest => e.mode = .insert ∧ InsertThroughout (e.take input) rest

instance decidableInsertThroughout (e : Editor κ) (inputs : List Input) :
    Decidable (e.InsertThroughout inputs) :=
  match inputs with
  | [] => inferInstanceAs (Decidable True)
  | input :: rest =>
      have := decidableInsertThroughout (e.take input) rest
      inferInstanceAs (Decidable (e.mode = .insert ∧ (e.take input).InsertThroughout rest))

def emitted (e : Editor (Transcript κ)) : Input → List Keystroke
  | .key press now =>
      (e.key press now).1.control.since e.control ++
        if (e.key press now).2 then [] else [press.replay]
  | .tick now => (e.tick now).control.since e.control

def output (e : Editor (Transcript κ)) : List Input → List Keystroke
  | [] => []
  | input :: rest => e.emitted input ++ output (e.take input) rest

namespace Inserting

theorem tick_of_free {e : Editor κ} (typing : e.Inserting) (free : e.detector.held = none)
    (now : Nat) : e.tick now = e :=
  tick_of_vacant typing.mode typing.idle free now

theorem tick_tick {e : Editor κ} (typing : e.Inserting) (now : Nat) :
    (e.tick now).tick now = e.tick now := by
  rcases typing.tick_cases now with ⟨held, _, _, ticked⟩ | ⟨_, ticked⟩
  · exact (typing.tick now).tick_of_free (by rw [ticked]; rfl) now
  · rw [ticked, ticked]

/-- A key acts as if a tick came just before it. -/
theorem key_tick {e : Editor κ} (typing : e.Inserting) {press : KeyPress}
    (typed : press.synthetic = false) (now : Nat) :
    (e.tick now).key press now = e.key press now := by
  rw [(typing.tick now).key_eq typed, typing.key_eq typed, typing.tick_tick]

/-- Without a held key, the next delivery completes nothing. -/
theorem survivors_cons {e : Editor κ} {inputs : List Input} (typing : e.mode = .insert → e.Inserting)
    (within : e.InsertThroughout inputs) (free : e.detector.held = none) (first : Delivery) :
    survivors (first :: e.deliveries inputs) = first.press :: survivors (e.deliveries inputs) := by
  induction inputs with
  | nil => rfl
  | cons input rest ih =>
      have here := typing within.1
      cases input with
      | tick now =>
          have stays : e.take (.tick now) = e := here.tick_of_free free now
          rw [deliveries, here.tick_of_free free]
          exact ih (stays ▸ within.2)
      | key press now =>
          have plain : e.completes press now = false := by
            simp [completes, here.tick_of_free free, held?, free]
          rw [deliveries, plain, survivors_cons_passed]

theorem emitted_tick {e : Editor (Transcript κ)} (typing : e.Inserting) {now : Nat}
    {inputs : List Input} (within : (e.tick now).InsertThroughout inputs) :
    e.emitted (.tick now) ++
        (survivors ((e.tick now).pending ++ (e.tick now).deliveries inputs)).map KeyPress.replay =
      (survivors (e.pending ++ (e.tick now).deliveries inputs)).map KeyPress.replay := by
  rcases typing.tick_cases now with ⟨held, holding, _, ticked⟩ | ⟨_, ticked⟩
  · have free : (e.tick now).detector.held = none := by rw [ticked]; rfl
    have sent : e.emitted (.tick now) = [held.press.replay] := by
      rw [emitted, ticked]
      exact Transcript.since_injectAll e.control _
    rw [pending_of_free free, pending_of_held holding, sent, List.nil_append, List.singleton_append,
      List.singleton_append, survivors_cons (fun _ => typing.tick now) within free]
    rfl
  · have sent : e.emitted (.tick now) = [] := by
      rw [emitted, ticked]
      exact Transcript.since_self _
    rw [sent, ticked, List.nil_append]

omit [Target κ] in
theorem receive {e : Editor κ} (typing : e.Inserting) (control : κ) :
    Inserting { e with control := control } :=
  ⟨typing.mode, typing.idle, typing.chords⟩

theorem take_kept {e : Editor (Transcript κ)} {press : KeyPress} {now : Nat}
    {result : Editor (Transcript κ)} (handled : e.key press now = (result, true)) :
    e.take (.key press now) = result ∧
      e.emitted (.key press now) = result.control.since e.control := by
  refine ⟨?_, by simp [emitted, handled]⟩
  exact (deliver_of_kept e press now (by rw [handled])).trans (by rw [handled])

theorem take_passed {e : Editor (Transcript κ)} {press : KeyPress} (typed : press.synthetic = false)
    {now : Nat} {result : Editor (Transcript κ)} (handled : e.key press now = (result, false)) :
    e.take (.key press now) =
        { result with control := Target.receive result.control press.replay } ∧
      e.emitted (.key press now) = result.control.since e.control ++ [press.replay] := by
  refine ⟨?_, by simp [emitted, handled]⟩
  exact (deliver_of_passed e press now (by rw [handled]) typed).trans (by rw [handled])

/-- A matched chord brings nothing out and leaves nothing held. -/
theorem matched_chord {e : Editor (Transcript κ)} (typing : e.Inserting) {d : Detector Response}
    (free : d.held = none) (same : d.chords = e.detector.chords) (target : Mode) (now : Nat) :
    let after := (e.withDetector d).setMode target now
    (after.mode = .insert → after.Inserting) ∧ after.pending = [] ∧ after.control = e.control := by
  by_cases away : target = .insert
  · have stays : (e.withDetector d).setMode target now = e.withDetector d :=
      if_pos (away.trans typing.mode.symm)
    rw [stays]
    exact ⟨fun _ => typing.withDetector same, pending_of_free free, rfl⟩
  · have left := (typing.withDetector same).left_setMode away now
    have nothing : (e.withDetector d).heldStrokes = [] := heldStrokes_of_free free
    refine ⟨fun still => absurd (left.mode.symm.trans still) away, pending_of_free left.free, ?_⟩
    rw [left.control, nothing]
    rfl

/-- A key that is held instead brings nothing out. -/
theorem held_key {e : Editor (Transcript κ)} (typing : e.Inserting) {press : KeyPress} {now : Nat}
    {d : Detector Response} (same : d.chords = e.detector.chords)
    (handled : e.key press now = (e.withDetector d, true)) :
    let after := e.take (.key press now)
    after.Inserting ∧ after.detector.held = d.held ∧ e.emitted (.key press now) = [] := by
  intro after
  obtain ⟨result, sent⟩ := take_kept handled
  have here : after = e.withDetector d := result
  refine ⟨?_, ?_, ?_⟩
  · rw [here]
    exact typing.withDetector same
  · rw [here]
    rfl
  · rw [sent, control_withDetector, Transcript.since_self]

/-- A key that goes through comes out behind the strokes that are injected. -/
theorem passed_key {e : Editor (Transcript κ)} (typing : e.Inserting) {press : KeyPress}
    (typed : press.synthetic = false) {now : Nat} {d : Detector Response}
    (same : d.chords = e.detector.chords) {strokes : List Keystroke}
    (handled : e.key press now = ((e.withDetector d).inject strokes, false)) :
    let after := e.take (.key press now)
    after.Inserting ∧ after.detector.held = d.held ∧
      e.emitted (.key press now) = strokes ++ [press.replay] := by
  intro after
  obtain ⟨result, sent⟩ := take_passed typed handled
  refine ⟨?_, ?_, ?_⟩
  · rw [show after = _ from result]
    exact ((typing.withDetector same).inject strokes).receive _
  · rw [show after = _ from result]
    rfl
  · rw [sent, control_inject, control_withDetector, Transcript.since_injectAll]

/-- The law for a key that finds no timer due: what comes out and what stays open make up for what was
open and the key. -/
theorem emitted_key {e : Editor (Transcript κ)} (typing : e.Inserting) {press : KeyPress}
    (typed : press.synthetic = false) (ordinary : press.isEscape = false) {now : Nat}
    (current : e.tick now = e) {inputs : List Input}
    (within : (e.take (.key press now)).InsertThroughout inputs) :
    let after := e.take (.key press now)
    (after.mode = .insert → after.Inserting) ∧
      e.emitted (.key press now) ++
          (survivors (after.pending ++ after.deliveries inputs)).map KeyPress.replay =
        (survivors (e.pending ++ ⟨press, e.completes press now⟩ :: after.deliveries inputs)).map
          KeyPress.replay := by
  intro after
  have keyed : e.key press now = e.answer press now := by rw [typing.key_eq typed, current]
  rcases typing.answer_cases typed ordinary now with
    ⟨held, target, d, holding, free, same, spelled, answered⟩ |
    ⟨held, d, holding, free, same, spelled, answered⟩ |
    ⟨chord, d, _, empty, waiting, same, answered⟩ | ⟨d, empty, free, same, answered⟩
  · have completes : e.completes press now = true := by
      simp [Editor.completes, current, held?, holding, spelled]
    obtain ⟨result, sent⟩ := take_kept (keyed.trans answered)
    obtain ⟨ending, closed, unchanged⟩ := typing.matched_chord free same target now
    rw [← result] at ending closed
    refine ⟨ending, ?_⟩
    rw [sent, unchanged, Transcript.since_self, closed, completes, pending_of_held holding]
    rfl
  · have completes : e.completes press now = false := by
      simp [Editor.completes, current, held?, holding, spelled]
    obtain ⟨inserting, released, sent⟩ := typing.passed_key typed same (keyed.trans answered)
    refine ⟨fun _ => inserting, ?_⟩
    rw [sent, completes, pending_of_held holding, pending_of_free (released.trans free),
      List.nil_append, List.singleton_append, List.singleton_append, survivors_cons_passed,
      survivors_cons (fun _ => inserting) within (released.trans free)]
    rfl
  · have completes : e.completes press now = false := by
      simp [Editor.completes, current, held?, empty]
    obtain ⟨inserting, holding, sent⟩ := typing.held_key same (keyed.trans answered)
    refine ⟨fun _ => inserting, ?_⟩
    rw [sent, completes, pending_of_free empty, pending_of_held (holding.trans waiting)]
    rfl
  · have completes : e.completes press now = false := by
      simp [Editor.completes, current, held?, empty]
    rw [← inject_nil (e.withDetector d)] at answered
    obtain ⟨inserting, still, sent⟩ := typing.passed_key typed same (keyed.trans answered)
    refine ⟨fun _ => inserting, ?_⟩
    rw [sent, completes, pending_of_free empty, pending_of_free (still.trans free), List.nil_append,
      List.nil_append, List.nil_append, survivors_cons (fun _ => inserting) within (still.trans free)]
    rfl

/-! ## A whole session -/

theorem take_tick {e : Editor κ} (typing : e.Inserting) {press : KeyPress}
    (typed : press.synthetic = false) (now : Nat) :
    (e.tick now).take (.key press now) = e.take (.key press now) := by
  rw [take, take, deliver, deliver, typing.key_tick typed]

theorem deliveries_tick {e : Editor κ} (typing : e.Inserting) {press : KeyPress}
    (typed : press.synthetic = false) (now : Nat) (rest : List Input) :
    (e.tick now).deliveries (.key press now :: rest) = e.deliveries (.key press now :: rest) := by
  rw [deliveries, deliveries, typing.take_tick typed, completes, completes, typing.tick_tick]

theorem insertThroughout_tick {e : Editor κ} (typing : e.Inserting) {press : KeyPress}
    (typed : press.synthetic = false) {now : Nat} {rest : List Input}
    (within : e.InsertThroughout (.key press now :: rest)) :
    (e.tick now).InsertThroughout (.key press now :: rest) := by
  refine ⟨(typing.tick now).mode, ?_⟩
  rw [typing.take_tick typed]
  exact within.2

/-- A key types nothing but a held key, and when its own tick has typed that there is no other. -/
theorem emitted_key_eq {e : Editor (Transcript κ)} (typing : e.Inserting) {press : KeyPress}
    (typed : press.synthetic = false) (ordinary : press.isEscape = false) (now : Nat) :
    e.emitted (.key press now) = e.emitted (.tick now) ++ (e.tick now).emitted (.key press now) := by
  simp only [emitted, typing.key_tick typed]
  rw [← List.append_assoc]
  congr 1
  rcases typing.tick_cases now with ⟨held, _, _, ticked⟩ | ⟨_, ticked⟩
  · have free : (e.tick now).detector.held = none := by rw [ticked]; rfl
    have unchanged : (e.key press now).1.control = (e.tick now).control := by
      rw [typing.key_eq typed]
      rcases (typing.tick now).answer_cases typed ordinary now with
        ⟨_, _, _, holding, _⟩ | ⟨_, _, holding, _⟩ | ⟨_, _, _, _, _, _, answered⟩ | ⟨_, _, _, _, answered⟩
      · cases free.symm.trans holding
      · cases free.symm.trans holding
      · rw [answered]
        rfl
      · rw [answered]
        rfl
    rw [unchanged, Transcript.since_self, List.append_nil]
  · rw [ticked, Transcript.since_self, List.nil_append]

/-- The key's own tick may type the held key; the key itself then finds no timer due. -/
theorem emitted_key_tick {e : Editor (Transcript κ)} (typing : e.Inserting) {press : KeyPress}
    (typed : press.synthetic = false) (ordinary : press.isEscape = false) {now : Nat} {rest : List Input}
    (within : e.InsertThroughout (.key press now :: rest)) :
    let after := e.take (.key press now)
    (after.mode = .insert → after.Inserting) ∧
      (e.tick now).emitted (.key press now) ++
          (survivors (after.pending ++ after.deliveries rest)).map KeyPress.replay =
        (survivors ((e.tick now).pending ++ (e.tick now).deliveries (.key press now :: rest))).map
          KeyPress.replay := by
  have later := (typing.insertThroughout_tick typed within).2
  have law := (typing.tick now).emitted_key typed ordinary (typing.tick_tick now) later
  dsimp only at law
  rw [← deliveries, typing.take_tick typed] at law
  exact law

theorem output_append_heldStrokes {e : Editor (Transcript κ)} {inputs : List Input}
    (typing : e.mode = .insert → e.Inserting) (ordinary : ∀ input ∈ inputs, input.IsOrdinary)
    (within : e.InsertThroughout inputs) :
    e.output inputs ++ (e.run inputs).heldStrokes =
      (survivors (e.pending ++ e.deliveries inputs)).map KeyPress.replay := by
  induction inputs generalizing e with
  | nil => cases holding : e.held? <;> simp [output, heldStrokes, pending, deliveries, holding, survivors]
  | cons input rest ih =>
      have here := typing within.1
      obtain ⟨ordinaryInput, ordinaryRest⟩ := List.forall_mem_cons.mp ordinary
      cases input with
      | tick now =>
          have later := ih (fun _ => here.tick now) ordinaryRest within.2
          rw [output, run_cons, take, List.append_assoc, later, deliveries]
          exact here.emitted_tick within.2
      | key press now =>
          obtain ⟨typed, plain⟩ := ordinaryInput
          obtain ⟨ending, law⟩ := here.emitted_key_tick typed plain within
          rw [output, run_cons, List.append_assoc, ih ending ordinaryRest within.2,
            here.emitted_key_eq typed plain, List.append_assoc, law,
            here.emitted_tick (here.insertThroughout_tick typed within), here.deliveries_tick typed]

theorem run_inserting {e : Editor (Transcript κ)} {inputs : List Input}
    (typing : e.mode = .insert → e.Inserting) (ordinary : ∀ input ∈ inputs, input.IsOrdinary)
    (within : e.InsertThroughout inputs) (still : (e.run inputs).mode = .insert) :
    (e.run inputs).Inserting := by
  induction inputs generalizing e with
  | nil => exact typing still
  | cons input rest ih =>
      have here := typing within.1
      obtain ⟨ordinaryInput, ordinaryRest⟩ := List.forall_mem_cons.mp ordinary
      refine ih ?_ ordinaryRest within.2 still
      cases input with
      | tick now => exact fun _ => here.tick now
      | key press now =>
          obtain ⟨typed, plain⟩ := ordinaryInput
          exact (here.emitted_key_tick typed plain within).1

end Inserting

/-- Insert mode loses, doubles and reorders nothing. What has come out, then the key held back, is
what was typed without the keys of the matched chords; and however Insert mode is left, the held key
is typed first. -/
theorem insert_keeps_every_key {e : Editor (Transcript κ)} {chords : List ChordSetting}
    {inputs : List Input} (configured : e.detector.chords = chords.map ChordSetting.chord)
    (inserting : e.mode = .insert) (free : e.detector.held = none) (idle : e.queue = [])
    (ordinary : ∀ input ∈ inputs, input.IsOrdinary) (within : e.InsertThroughout inputs) :
    let here := e.run inputs
    e.output inputs ++ here.heldStrokes = (survivors (e.deliveries inputs)).map KeyPress.replay ∧
      (here.mode = .insert →
        (∀ press now, press.isEscape = true → press.synthetic = false →
          here.Left (here.key press now).1 .normal now) ∧
        (∀ target now, target ≠ .insert → here.Left (here.setMode target now) target now) ∧
        here.shutdown.control = Control.injectAll here.control here.heldStrokes ∧
          here.shutdown.detector.held = none ∧ here.shutdown.queue = []) := by
  have typing : e.Inserting := by
    refine ⟨inserting, idle, fun chord listed => ?_⟩
    rw [configured] at listed
    obtain ⟨setting, _, rfl⟩ := List.mem_map.mp listed
    exact ⟨setting.target, rfl⟩
  refine ⟨?_, fun still => ?_⟩
  · have law := Inserting.output_append_heldStrokes (fun _ => typing) ordinary within
    rwa [pending_of_free free] at law
  · have last := Inserting.run_inserting (fun _ => typing) ordinary within still
    exact ⟨fun press now escape typed => last.left_escape escape typed now,
      fun target now away => last.left_setMode away now, last.shutdown⟩

/-- Two `j` typed within the chord's time, a `k` and a `j` that come too late, and then the chord. -/
theorem insert_keeps_every_key_of_late_chord :
    let j : KeyPress := ⟨"j", ⟨0x26⟩, false⟩
    let k : KeyPress := ⟨"k", ⟨0x28⟩, false⟩
    let e := Settings.usual.editor (Transcript.of (Recorder.answering none none))
    let late : List Input :=
      [.key j 0, .key j 50, .tick 60, .key k 70, .key j 100, .tick 240, .key j 300]
    let matched := late ++ [.key k 350]
    let waiting := e.run late
    (e.output matched ++ (e.run matched).heldStrokes = [j, j, k, j].map KeyPress.replay) ∧
      waiting.Left (waiting.key .escape 350).1 .normal 350 := by
  intro j k e late matched waiting
  have within : e.InsertThroughout matched := by decide +kernel
  have withinLate : e.InsertThroughout late := by decide +kernel
  have ordinary : ∀ input ∈ matched, input.IsOrdinary := by decide
  have left := @insert_keeps_every_key Recorder _ e [.usual] matched rfl rfl rfl rfl ordinary within
  have stays := @insert_keeps_every_key Recorder _ e [.usual] late rfl rfl rfl rfl
    (fun input listed => ordinary input (List.mem_append_left _ listed)) withinLate
  refine ⟨left.1.trans ?_, (stays.2 ?_).1 .escape 350 rfl rfl⟩
  · decide +kernel
  · decide +kernel

end Editor

end ModalKeys
