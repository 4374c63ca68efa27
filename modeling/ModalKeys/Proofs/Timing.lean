import ModalKeys.Proofs.Editor.Reachable
import ModalKeys.Proofs.Editor.Timeless

/-!
# Timing

Two people type the same keys at different speeds. As long as every pause is on the same side of each
chord's timeout, both get the same answers, and both end with the same control.
-/

namespace ModalKeys

/-- Pause by pause, two lists of times are on the same side of each timeout. -/
def SameGaps (timeouts : List Nat) : List Nat → List Nat → Prop
  | earlier :: later :: rest, earlier' :: later' :: rest' =>
      (∀ timeout ∈ timeouts, later - earlier < timeout ↔ later' - earlier' < timeout) ∧
        SameGaps timeouts (later :: rest) (later' :: rest')
  | _, _ => True

/-- No input comes later than a key that follows it. Ticks may come at any time up to the next key. -/
def Timely (inputs : List Input) : Prop :=
  inputs.Pairwise fun earlier later => later.key?.isSome → earlier.time ≤ later.time

theorem Timely.le_of_mem {input : Input} {rest : List Input} (timely : Timely (input :: rest))
    {key : KeyPress × Nat} (listed : key ∈ typedKeys rest) : input.time ≤ key.2 :=
  (List.pairwise_cons.mp timely).1 _ (mem_of_mem_typedKeys listed) rfl

theorem Timely.keyTimes {inputs : List Input} (timely : Timely inputs) :
    (keyTimes inputs).Pairwise (· ≤ ·) := by
  induction inputs with
  | nil => exact .nil
  | cons input rest ih =>
      have later := ih (List.pairwise_cons.mp timely).2
      cases input with
      | tick now => exact later
      | key press now =>
          refine List.pairwise_cons.mpr ⟨fun time listed => ?_, later⟩
          obtain ⟨key, found, rfl⟩ := List.mem_map.mp listed
          exact timely.le_of_mem found

def keyInputs (keys : List (KeyPress × Nat)) : List Input := keys.map fun key => .key key.1 key.2

/-! The first key follows no pause; a time before it may be put in front that is its own. -/

theorem pairwise_headD {times : List Nat} (ascending : times.Pairwise (· ≤ ·)) :
    (times.headD 0 :: times).Pairwise (· ≤ ·) := by
  cases times with
  | nil => exact List.pairwise_singleton _ _
  | cons time rest =>
      refine List.pairwise_cons.mpr ⟨fun later listed => ?_, ascending⟩
      rcases List.mem_cons.mp listed with rfl | inRest
      · exact Nat.le_refl _
      · exact (List.pairwise_cons.mp ascending).1 later inRest

theorem sameGaps_headD {timeouts first second : List Nat} (gaps : SameGaps timeouts first second) :
    SameGaps timeouts (first.headD 0 :: first) (second.headD 0 :: second) := by
  cases first with
  | nil => trivial
  | cons time rest =>
      cases second with
      | nil => trivial
      | cons time' rest' =>
          refine ⟨fun timeout _ => ?_, gaps⟩
          rw [List.headD_cons, List.headD_cons, Nat.sub_self, Nat.sub_self]

namespace Editor

variable {κ : Type} [Target κ]

/-- After each key, whether it was kept and which mode the editor is in. -/
def answers (e : Editor κ) : List Input → List (Bool × Mode)
  | [] => []
  | .key press now :: rest =>
      ((e.deliver press now).2, (e.deliver press now).1.mode) :: answers (e.take (.key press now)) rest
  | .tick now :: rest => answers (e.tick now) rest

namespace Orderly

variable {chords : List ChordSetting} {e : Editor κ}

theorem deliver_tick (orderly : e.Orderly chords) {press : KeyPress} (typed : press.synthetic = false)
    {early now : Nat} (before : early ≤ now) :
    (e.tick early).deliver press now = e.deliver press now := by
  rw [Editor.deliver, Editor.deliver, orderly.key_tick typed before]

/-- A tick before the keys of a session makes no difference to them. -/
theorem run_tick (orderly : e.Orderly chords) {now : Nat} {keys : List (KeyPress × Nat)}
    (typed : ∀ key ∈ keys, key.1.synthetic = false) (before : ∀ key ∈ keys, now ≤ key.2) :
    (e.tick now).answers (keyInputs keys) = e.answers (keyInputs keys) ∧
      ((e.tick now).run (keyInputs keys)).caughtUp true = (e.run (keyInputs keys)).caughtUp true := by
  cases keys with
  | nil => exact ⟨rfl, orderly.caughtUp_tick now⟩
  | cons key rest =>
      have same := orderly.deliver_tick (typed key List.mem_cons_self) (before key List.mem_cons_self)
      simp only [keyInputs, List.map_cons, answers, run_cons, Editor.take, same]
      exact ⟨trivial, trivial⟩

theorem run_typedKeys {inputs : List Input} (orderly : e.Orderly chords)
    (typed : ∀ key ∈ typedKeys inputs, key.1.synthetic = false) (timely : Timely inputs) :
    e.answers inputs = e.answers (keyInputs (typedKeys inputs)) ∧
      (e.run inputs).caughtUp true = (e.run (keyInputs (typedKeys inputs))).caughtUp true ∧
      (e.run inputs).Orderly chords := by
  induction inputs generalizing e with
  | nil => exact ⟨rfl, rfl, orderly⟩
  | cons input rest ih =>
      have later : Timely rest := (List.pairwise_cons.mp timely).2
      cases input with
      | key press now =>
          have first : press.synthetic = false := typed (press, now) List.mem_cons_self
          obtain ⟨answers, caught, kept⟩ := ih (orderly.deliver first now).1
            (fun key listed => typed key (List.mem_cons_of_mem _ listed)) later
          exact ⟨congrArg (List.cons _) answers, caught, kept⟩
      | tick now =>
          obtain ⟨answers, caught, kept⟩ := ih (orderly.tick now) typed later
          have before : ∀ key ∈ typedKeys rest, now ≤ key.2 := fun key listed => timely.le_of_mem listed
          obtain ⟨answers', caught'⟩ := orderly.run_tick typed before
          exact ⟨answers.trans answers', caught.trans caught', kept⟩

/-! ## Two sessions side by side -/

/-- Two editors that differ only in their times, each with the time of its last key. -/
structure Alike (chords : List ChordSetting) (last last' : Nat) (e e' : Editor κ) : Prop where
  first : e.Orderly chords
  second : e'.Orderly chords
  timeless : e.timeless = e'.timeless
  since : ∀ held, e.detector.held = some held → held.since = last
  since' : ∀ held, e'.detector.held = some held → held.since = last'

namespace Alike

variable {last last' : Nat} {e' : Editor κ}

omit [Target κ] in
theorem overdue (alike : Alike chords last last' e e') {now now' : Nat} (after : last ≤ now)
    (after' : last' ≤ now')
    (gap : ∀ timeout ∈ chords.map ChordSetting.timeout, now - last < timeout ↔ now' - last' < timeout) :
    e.overdue now = e'.overdue now' := by
  have held : e.detector.held.map HeldKey.timeless = e'.detector.held.map HeldKey.timeless :=
    congrArg (fun t => t.detector.held) alike.timeless
  cases holding : e.detector.held with
  | none =>
      rw [holding] at held
      have free : e'.detector.held = none := Option.map_eq_none_iff.mp held.symm
      rw [overdue_of_free holding, overdue_of_free free]
  | some mine =>
      rw [holding] at held
      obtain ⟨yours, holding', same⟩ := Option.map_eq_some_iff.mp held.symm
      have timeout : yours.timeless.timeout = mine.timeless.timeout := congrArg HeldKey.timeout same
      have since := alike.since mine holding
      have since' := alike.since' yours holding'
      have side := gap mine.timeout (alike.first.timeout mine holding)
      rw [overdue_of_held holding, overdue_of_held holding', decide_eq_decide]
      unfold HeldKey.deadline
      simp only [HeldKey.timeless] at timeout
      omega

/-- One key, typed at different times after pauses of the same kind. -/
theorem deliver (alike : Alike chords last last' e e') {press : KeyPress}
    (typed : press.synthetic = false) {now now' : Nat} (after : last ≤ now) (after' : last' ≤ now')
    (gap : ∀ timeout ∈ chords.map ChordSetting.timeout, now - last < timeout ↔ now' - last' < timeout) :
    Alike chords now now' (e.deliver press now).1 (e'.deliver press now').1 ∧
      (e.deliver press now).2 = (e'.deliver press now').2 := by
  have caught : (e.caughtUp (e.overdue now)).timeless = (e'.caughtUp (e'.overdue now')).timeless := by
    rw [← alike.first.caughtUp_timeless, ← alike.second.caughtUp_timeless, alike.timeless,
      alike.overdue after after' gap]
  have mine := answer_timeless (e.caughtUp (e.overdue now)) press now
  have yours := answer_timeless (e'.caughtUp (e'.overdue now')) press now'
  rw [caught, ← alike.first.key_eq typed] at mine
  rw [← alike.second.key_eq typed] at yours
  obtain ⟨timeless, kept⟩ := Prod.mk.inj (mine.symm.trans yours)
  obtain ⟨first, holds⟩ := alike.first.deliver typed now
  obtain ⟨second, holds'⟩ := alike.second.deliver typed now'
  refine ⟨⟨first, second, ?_, fun held holding => (holds held holding).since,
    fun held holding => (holds' held holding).since⟩, by rw [deliver_snd, deliver_snd, kept]⟩
  cases passed : (e.key press now).2 with
  | true => rw [deliver_of_kept e press now passed, deliver_of_kept e' press now' (kept ▸ passed), timeless]
  | false =>
      rw [deliver_of_passed e press now passed typed,
        deliver_of_passed e' press now' (kept ▸ passed) typed]
      exact congrArg
        (fun t : Editor κ => { t with control := Target.receive t.control press.replay }) timeless

omit [Target κ] in
theorem mode (alike : Alike chords last last' e e') : e.mode = e'.mode :=
  congrArg (fun t => t.mode) alike.timeless

theorem run {keys keys' : List (KeyPress × Nat)} (alike : Alike chords last last' e e')
    (same : keys.map Prod.fst = keys'.map Prod.fst) (typed : ∀ key ∈ keys, key.1.synthetic = false)
    (ascending : (last :: keys.map Prod.snd).Pairwise (· ≤ ·))
    (ascending' : (last' :: keys'.map Prod.snd).Pairwise (· ≤ ·))
    (gaps : SameGaps (chords.map ChordSetting.timeout) (last :: keys.map Prod.snd)
      (last' :: keys'.map Prod.snd)) :
    e.answers (keyInputs keys) = e'.answers (keyInputs keys') ∧
      ∃ last last', Alike chords last last' (e.run (keyInputs keys)) (e'.run (keyInputs keys')) := by
  induction keys generalizing e e' last last' keys' with
  | nil =>
      cases keys' with
      | nil => exact ⟨rfl, last, last', alike⟩
      | cons key rest => cases same
  | cons key rest ih =>
      cases keys' with
      | nil => cases same
      | cons key' rest' =>
          obtain ⟨press, now⟩ := key
          obtain ⟨press', now'⟩ := key'
          obtain ⟨samePress, sameRest⟩ := List.cons.inj same
          cases samePress
          obtain ⟨gap, laterGaps⟩ := gaps
          obtain ⟨before, later⟩ := List.pairwise_cons.mp ascending
          obtain ⟨before', later'⟩ := List.pairwise_cons.mp ascending'
          obtain ⟨next, kept⟩ := alike.deliver (typed _ List.mem_cons_self)
            (before now List.mem_cons_self) (before' now' List.mem_cons_self) gap
          obtain ⟨answers, ended⟩ := ih next sameRest
            (fun key listed => typed key (List.mem_cons_of_mem _ listed)) later later' laterGaps
          refine ⟨?_, ended⟩
          change (_, _) :: _ = (_, _) :: _
          rw [kept, next.mode]
          exact congrArg _ answers

end Alike

end Orderly

/-- Neither the answers to the keys nor the final state depend on when timers ran. -/
theorem outcome_eq_of_same_gaps (settings : Settings) (control : κ) {first second : List Input}
    (typed : ∀ press ∈ presses first, press.synthetic = false) (same : presses first = presses second)
    (timely : Timely first) (timely' : Timely second)
    (gaps : SameGaps (settings.chords.map ChordSetting.timeout) (keyTimes first) (keyTimes second)) :
    let e := settings.editor (Transcript.of control)
    e.answers first = e.answers second ∧
      ((e.run first).deadline? = none → (e.run second).deadline? = none →
        (e.run first).control = (e.run second).control ∧
          (e.run first).pendingKeys = (e.run second).pendingKeys) := by
  intro e
  have orderly : e.Orderly settings.chords := Orderly.start settings _
  have typed' : ∀ key ∈ typedKeys first, key.1.synthetic = false := fun key listed =>
    typed key.1 (List.mem_map_of_mem listed)
  have typed'' : ∀ key ∈ typedKeys second, key.1.synthetic = false := fun key listed =>
    typed key.1 (same ▸ List.mem_map_of_mem listed)
  obtain ⟨answers, caught, kept⟩ := orderly.run_typedKeys typed' timely
  obtain ⟨answers', caught', kept'⟩ := orderly.run_typedKeys typed'' timely'
  have alike : Orderly.Alike settings.chords ((keyTimes first).headD 0) ((keyTimes second).headD 0) e e :=
    ⟨orderly, orderly, rfl, nofun, nofun⟩
  obtain ⟨sameAnswers, last, last', ended⟩ := alike.run same typed' (pairwise_headD timely.keyTimes)
    (pairwise_headD timely'.keyTimes) (sameGaps_headD gaps)
  refine ⟨answers.trans (sameAnswers.trans answers'.symm), fun done done' => ?_⟩
  have state : (e.run first).timeless = (e.run second).timeless := by
    rw [← kept.caughtUp_of_deadline_none done, ← kept'.caughtUp_of_deadline_none done', caught, caught',
      ← ended.first.caughtUp_timeless, ← ended.second.caughtUp_timeless, ended.timeless]
  refine ⟨congrArg (fun t => t.control) state, ?_⟩
  rw [← pendingKeys_timeless, ← pendingKeys_timeless (e.run second), state]

/-- Words are crossed and a character is deleted, once with time for the block to show in between and
once without; then `j` is typed in Insert mode and waits for its chord in vain. -/
theorem outcome_eq_of_same_gaps_of_hurry :
    let w : KeyPress := ⟨"w", ⟨0x0D⟩, false⟩
    let x : KeyPress := ⟨"x", ⟨0x07⟩, false⟩
    let i : KeyPress := ⟨"i", ⟨0x22⟩, false⟩
    let j : KeyPress := ⟨"j", ⟨0x26⟩, false⟩
    let first : List Input :=
      [.key w 0, .tick 5, .key x 100, .tick 130, .key i 200, .key j 300, .tick 1000]
    let second : List Input := [.key w 0, .key x 1, .key i 2, .key j 3, .tick 4, .tick 500]
    let e := { Settings.usual with startMode := .normal }.editor
      (Transcript.of (TextField.ofText "one two".toList))
    e.answers first = e.answers second ∧ (e.run first).control = (e.run second).control := by
  intro w x i j first second e
  have gaps : SameGaps [140] (keyTimes first) (keyTimes second) := by
    refine ⟨?_, ?_, ?_, trivial⟩ <;> decide
  have typed : ∀ press ∈ presses first, press.synthetic = false := by decide
  have same : presses first = presses second := rfl
  have timely : Timely first := by
    unfold Timely
    decide
  have timely' : Timely second := by
    unfold Timely
    decide
  have law := outcome_eq_of_same_gaps { Settings.usual with startMode := .normal }
    (TextField.ofText "one two".toList) typed same timely timely' gaps
  exact ⟨law.1, (law.2 (by decide +kernel) (by decide +kernel)).1⟩

end Editor

end ModalKeys
