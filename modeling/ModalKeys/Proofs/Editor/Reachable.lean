import Mathlib.Data.List.Induction
import ModalKeys.Proofs.Editor.Orderly
import ModalKeys.Proofs.Session

/-!
# Reachable editors

Whatever reaches an editor, it stays orderly. A key is held only by the typed key itself; time and echoes
hold nothing, and they let a held key go at its deadline and no sooner.
-/

namespace ModalKeys

def Input.IsQuiet : Input → Prop
  | .key press _ => press.synthetic = true
  | .tick _ => True

instance (input : Input) : Decidable input.IsQuiet :=
  match input with
  | .key press _ => inferInstanceAs (Decidable (press.synthetic = true))
  | .tick _ => inferInstanceAs (Decidable True)

namespace Editor

variable {κ : Type} [Target κ]

/-- An echo does no more than time does; only whether it was expected is forgotten. -/
theorem key_of_echo (e : Editor κ) {press : KeyPress} (echo : press.synthetic = true) (now : Nat) :
    ∃ d, d.held = (e.tick now).detector.held ∧ d.chords = (e.tick now).detector.chords ∧
      e.key press now = ((e.tick now).withDetector d, false) := by
  by_cases inside : (e.tick now).mode = .insert
  · obtain ⟨d, held, same, answered⟩ := answer_of_echo inside echo now
    refine ⟨d, held, same, ?_⟩
    rw [key, echo, inside, ← answered]
    rfl
  · refine ⟨(e.tick now).detector, rfl, rfl, ?_⟩
    have away : (e.tick now).mode.isInsert = false := by
      cases mode : (e.tick now).mode with
      | insert => exact absurd mode inside
      | normal | visual | visualLine => rfl
    rw [key, echo, away]
    rfl

theorem take_of_quiet (e : Editor κ) {input : Input} (quiet : input.IsQuiet) :
    ∃ d, d.held = (e.tick input.time).detector.held ∧ d.chords = (e.tick input.time).detector.chords ∧
      e.take input = (e.tick input.time).withDetector d := by
  cases input with
  | key press now =>
      obtain ⟨d, held, same, handled⟩ := e.key_of_echo quiet now
      have echo : press.synthetic = true := quiet
      refine ⟨d, held, same, ?_⟩
      rw [take, deliver, handled]
      simp [echo, Input.time]
  | tick now => exact ⟨(e.tick now).detector, rfl, rfl, rfl⟩

namespace Orderly

variable {chords : List ChordSetting} {e : Editor κ}

omit [Target κ] in
/-- What a deadline does to the held key. -/
theorem held_of_overdue {now : Nat} {held : HeldKey} :
    (if e.overdue now then e.detector.cancel.1 else e.detector).held = some held ↔
      e.detector.held = some held ∧ now < held.deadline := by
  cases late : e.overdue now with
  | true =>
      rw [if_pos rfl, Detector.held_cancel]
      constructor
      · nofun
      · rintro ⟨holding, early⟩
        rw [overdue_of_held holding] at late
        exact absurd early (Nat.not_lt.mpr (of_decide_eq_true late))
  | false =>
      rw [if_neg Bool.false_ne_true]
      constructor
      · intro holding
        exact ⟨holding, (overdue_eq_false_iff now).mp late held holding⟩
      · exact And.left

theorem mode_ready (orderly : e.Orderly chords) (now : Nat) : (e.ready now).mode = e.mode := by
  rw [orderly.ready_eq, orderly.mode_caughtUp]

theorem ready (orderly : e.Orderly chords) (now : Nat) : (e.ready now).Orderly chords := by
  rw [orderly.ready_eq]
  exact orderly.caughtUp _

theorem held_ready_iff (orderly : e.Orderly chords) {now : Nat} {held : HeldKey} :
    (e.ready now).detector.held = some held ↔ e.detector.held = some held ∧ now < held.deadline := by
  rw [orderly.ready_eq, orderly.detector_caughtUp]
  exact held_of_overdue

theorem held_tick_iff (orderly : e.Orderly chords) {now : Nat} {held : HeldKey} :
    (e.tick now).detector.held = some held ↔ e.detector.held = some held ∧ now < held.deadline := by
  rcases orderly.tick_cases now with ⟨ticked, early⟩ | ticked
  · have still := @held_of_overdue _ e now held
    rw [early, if_neg Bool.false_ne_true] at still
    rw [ticked]
    exact still
  · rw [ticked, orderly.detector_caughtUp]
    exact held_of_overdue

omit [Target κ] in
theorem inside_of_held (orderly : e.Orderly chords) {held : HeldKey}
    (holding : e.detector.held = some held) : e.mode = .insert := by
  by_cases inside : e.mode = .insert
  · exact inside
  · cases (orderly.free inside).symm.trans holding

/-- Until the deadline of the held key, time does nothing. -/
theorem tick_of_early (orderly : e.Orderly chords) {held : HeldKey}
    (holding : e.detector.held = some held) {now : Nat} (early : now < held.deadline) :
    e.tick now = e := by
  rcases (orderly.inserting (orderly.inside_of_held holding)).tick_cases now with
    ⟨other, same, due, _⟩ | ⟨_, ticked⟩
  · cases holding.symm.trans same
    exact absurd due (Nat.not_le.mpr early)
  · exact ticked

omit [Target κ] in
theorem withHeld (orderly : e.Orderly chords) {d : Detector Response} (held : d.held = e.detector.held)
    (same : d.chords = e.detector.chords) : (e.withDetector d).Orderly chords where
  configured := same.trans orderly.configured
  timeout key holding := orderly.timeout key (held.symm.trans holding)
  free away := held.trans (orderly.free away)
  queued := orderly.queued

theorem deliver (orderly : e.Orderly chords) {press : KeyPress} (typed : press.synthetic = false)
    (now : Nat) :
    (e.deliver press now).1.Orderly chords ∧
      ∀ held, (e.deliver press now).1.detector.held = some held → Holds chords e press now held := by
  obtain ⟨kept, holds⟩ := orderly.key typed now
  cases passed : (e.key press now).2 with
  | true =>
      rw [deliver_of_kept e press now passed]
      exact ⟨kept, holds⟩
  | false =>
      rw [deliver_of_passed e press now passed typed]
      exact ⟨kept.receive _, holds⟩

theorem take (orderly : e.Orderly chords) (input : Input) : (e.take input).Orderly chords := by
  by_cases quiet : input.IsQuiet
  · obtain ⟨d, held, same, taken⟩ := e.take_of_quiet quiet
    rw [taken]
    exact (orderly.tick _).withHeld held same
  · cases input with
    | key press now => exact (orderly.deliver (eq_false_of_ne_true quiet) now).1
    | tick now => exact absurd trivial quiet

theorem run (orderly : e.Orderly chords) (inputs : List Input) : (e.run inputs).Orderly chords := by
  induction inputs generalizing e with
  | nil => exact orderly
  | cons input rest ih => exact ih (orderly.take input)

theorem held_take_iff (orderly : e.Orderly chords) {input : Input} (quiet : input.IsQuiet)
    {held : HeldKey} :
    (e.take input).detector.held = some held ↔
      e.detector.held = some held ∧ input.time < held.deadline := by
  obtain ⟨d, same, _, taken⟩ := e.take_of_quiet quiet
  rw [taken, ← orderly.held_tick_iff, ← same]
  rfl

/-- A key held at the end was held at the beginning, and its deadline has not come. -/
theorem held_run_iff (orderly : e.Orderly chords) {inputs : List Input}
    (quiet : ∀ input ∈ inputs, input.IsQuiet) {held : HeldKey} :
    (e.run inputs).detector.held = some held ↔
      e.detector.held = some held ∧ ∀ input ∈ inputs, input.time < held.deadline := by
  induction inputs generalizing e with
  | nil => simp
  | cons input rest ih =>
      obtain ⟨quietInput, quietRest⟩ := List.forall_mem_cons.mp quiet
      rw [run_cons, ih (orderly.take input) quietRest, orderly.held_take_iff quietInput, and_assoc,
        List.forall_mem_cons]

/-- Before the deadline of the held key nothing happens but that echoes are heard. -/
theorem run_of_early (orderly : e.Orderly chords) {held : HeldKey}
    (holding : e.detector.held = some held) {inputs : List Input}
    (quiet : ∀ input ∈ inputs, input.IsQuiet) (early : ∀ input ∈ inputs, input.time < held.deadline) :
    ∃ d, d.held = some held ∧ d.chords = e.detector.chords ∧ e.run inputs = e.withDetector d := by
  induction inputs generalizing e with
  | nil => exact ⟨e.detector, holding, rfl, rfl⟩
  | cons input rest ih =>
      obtain ⟨quietInput, quietRest⟩ := List.forall_mem_cons.mp quiet
      obtain ⟨earlyInput, earlyRest⟩ := List.forall_mem_cons.mp early
      obtain ⟨d, kept, same, taken⟩ := e.take_of_quiet quietInput
      rw [orderly.tick_of_early holding earlyInput] at kept same taken
      have waiting : (e.take input).detector.held = some held := by
        rw [taken]
        exact kept.trans holding
      obtain ⟨d', held', same', ran⟩ := ih (orderly.take input) waiting quietRest earlyRest
      refine ⟨d', held', same'.trans ?_, ran.trans ?_⟩
      · rw [taken]
        exact same
      · rw [taken]
        rfl

/-- A held key goes back to the last key typed, which was typed in Insert mode and begins a chord. -/
theorem exists_holds (orderly : e.Orderly chords) (free : e.detector.held = none) {inputs : List Input}
    {held : HeldKey} (holding : (e.run inputs).detector.held = some held) :
    ∃ before press now between, inputs = before ++ .key press now :: between ∧
      press.synthetic = false ∧ (∀ input ∈ between, input.IsQuiet) ∧
      Holds chords (e.run before) press now held ∧
      (e.run (before ++ [.key press now])).detector.held = some held := by
  induction inputs using List.reverseRecOn with
  | nil => cases free.symm.trans holding
  | append_singleton earlier input ih =>
      have here := orderly.run earlier
      rw [run_append] at holding
      by_cases quiet : input.IsQuiet
      · have held_before := ((here.held_take_iff quiet).mp holding).1
        obtain ⟨before, press, now, between, split, typed, quietBetween, holds, right⟩ := ih held_before
        refine ⟨before, press, now, between ++ [input], ?_, typed, ?_, holds, right⟩
        · rw [split, List.append_assoc, List.cons_append]
        · intro later listed
          rcases List.mem_append.mp listed with inBetween | isLast
          · exact quietBetween later inBetween
          · cases List.mem_singleton.mp isLast
            exact quiet
      · cases input with
        | tick now => exact absurd trivial quiet
        | key press now =>
            have typed : press.synthetic = false := eq_false_of_ne_true quiet
            refine ⟨earlier, press, now, [], rfl, typed, nofun, ?_, ?_⟩
            · exact (here.deliver typed now).2 held holding
            · rw [run_append]
              exact holding

end Orderly

end Editor

end ModalKeys
