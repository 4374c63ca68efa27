import Mathlib.Data.List.Find
import ModalKeys.Proofs.Editor.Reachable

/-!
# Chords in time

A chord is completed by the second key when the first is still held. How long the first key is held is up
to the first chord listed that starts with it; what the second key then does, to the first chord listed
that the two spell.
-/

namespace ModalKeys

namespace Settings

def starting? (s : Settings) (name : String) : Option ChordSetting :=
  s.chords.find? fun setting => name.toList.isPrefixOf setting.keys.toList

theorem chord_of_valid {s : Settings} (valid : s.fault? = none) {setting : ChordSetting}
    (listed : setting ∈ s.chords) :
    setting.keys.toList.length = 2 ∧ setting.timeout ≠ 0 ∧ setting.target ≠ .insert := by
  have sound : s.chords.findSome? chordFault? = none := by
    unfold fault? at valid
    split at valid
    · cases valid
    · assumption
  have own := List.findSome?_eq_none_iff.mp sound setting listed
  unfold chordFault? at own
  split at own
  · cases own
  split at own
  · cases own
  split at own
  · cases own
  exact ⟨Decidable.not_not.mp ‹_›, ‹_›, ‹_›⟩

/-- Chords have two keys, so a name that begins one is a single character. -/
theorem length_of_begun {s : Settings} (valid : s.fault? = none) {name : String} {opening : ChordSetting}
    (begun : ChordSetting.begun? s.chords name = some opening) : name.toList.length = 1 := by
  have begins : opening.chord.beginsWith name = true :=
    List.find?_some (p := fun setting : ChordSetting => setting.chord.beginsWith name) begun
  have two := (chord_of_valid valid (List.mem_of_find?_eq_some begun)).1
  obtain ⟨starts, shorter⟩ := Bool.and_eq_true_iff.mp begins
  have longer : name.toList.length < opening.keys.toList.length := of_decide_eq_true shorter
  cases letters : name.toList with
  | nil => simp [letters] at starts
  | cons letter rest =>
      rw [letters, two, List.length_cons] at longer
      rw [List.length_cons]
      omega

theorem starting?_eq_begun? {s : Settings} (valid : s.fault? = none) {name : String}
    (single : name.toList.length = 1) : s.starting? name = ChordSetting.begun? s.chords name := by
  refine List.find?_congr fun setting listed => ?_
  have two := (chord_of_valid valid listed).1
  have nonempty : name.toList.isEmpty = false := by
    cases h : name.toList
    · simp [h] at single
    · rfl
  simp [Chord.beginsWith, ChordSetting.chord, nonempty, single, two]

/-! A chord that is listed has a first one that starts like it, and a first one with its keys. -/

theorem exists_starting {s : Settings} {chord : ChordSetting} (listed : chord ∈ s.chords) {a b : Char}
    (keys : chord.keys.toList = [a, b]) : ∃ opening, s.starting? (String.singleton a) = some opening := by
  refine Option.isSome_iff_exists.mp (List.find?_isSome.mpr ⟨chord, listed, ?_⟩)
  rw [keys, String.toList_singleton]
  simp

theorem exists_spelled {s : Settings} {chord : ChordSetting} (listed : chord ∈ s.chords) {a b : Char}
    (keys : chord.keys.toList = [a, b]) :
    ∃ firing,
      ChordSetting.spelled? s.chords (String.singleton a) (String.singleton b) = some firing := by
  refine Option.isSome_iff_exists.mp (List.find?_isSome.mpr ⟨chord, listed, decide_eq_true ?_⟩)
  rw [← String.toList_inj, keys]
  simp

end Settings

namespace Editor

variable {κ : Type} [Target κ]

/-- The response that a key brings about by completing a chord. -/
def completed? (e : Editor κ) (press : KeyPress) (now : Nat) : Option Response :=
  match ((e.ready now).detector.key press now).2 with
  | .matched response => some response
  | _ => none

/-- The last key typed came at that time, in Insert mode. It was held, and it still is. -/
def HeldSince (e : Editor κ) (inputs : List Input) (first : KeyPress) (since : Nat) : Prop :=
  ∃ before between, inputs = before ++ .key first since :: between ∧ first.synthetic = false ∧
    (∀ input ∈ between, input.IsQuiet) ∧ ((e.run before).ready since).mode = .insert ∧
    (e.run (before ++ [.key first since])).held? = some first ∧ (e.run inputs).held? = some first

theorem Orderly.heldSince_iff {chords : List ChordSetting} {e : Editor κ} (orderly : e.Orderly chords)
    (free : e.detector.held = none) {inputs : List Input} {first : KeyPress} {since : Nat} :
    e.HeldSince inputs first since ↔
      ∃ opening, ChordSetting.begun? chords first.name = some opening ∧
        (e.run inputs).detector.held = some ⟨first, since, opening.timeout⟩ := by
  constructor
  · rintro ⟨before, between, split, typed, quiet, -, -, still⟩
    obtain ⟨held, holding, same⟩ := Option.map_eq_some_iff.mp still
    have typing := (orderly.run before).deliver typed since
    rw [split, run_append, run_cons] at holding
    have opened := ((typing.1.held_run_iff quiet).mp holding).1
    obtain ⟨_, opening, begun, rfl⟩ := typing.2 held opened
    exact ⟨opening, begun, by rw [split, run_append, run_cons, holding]⟩
  · rintro ⟨opening, begun, holding⟩
    obtain ⟨before, press, now, between, split, typed, quiet, ⟨inside, other, _, same⟩, opened⟩ :=
      orderly.exists_holds free holding
    obtain ⟨rfl, rfl, _⟩ := HeldKey.mk.inj same
    refine ⟨before, between, split, typed, quiet, ?_, ?_, ?_⟩
    · rw [(orderly.run before).mode_ready, inside]
    · rw [held?, opened]
      rfl
    · rw [held?, holding]
      rfl

/-- What completes a chord is the second key of one whose first key is held and not yet due. -/
theorem Orderly.completed?_eq_some_iff {chords : List ChordSetting} {e : Editor κ}
    (orderly : e.Orderly chords) {press : KeyPress} (typed : press.synthetic = false) {now : Nat}
    {response : Response} :
    e.completed? press now = some response ↔
      ∃ held chord, e.detector.held = some held ∧ now < held.deadline ∧
        ChordSetting.spelled? chords held.press.name press.name = some chord ∧
        response = .switchMode chord.target := by
  have settled := orderly.ready now
  unfold completed?
  constructor
  · intro completed
    cases holding : (e.ready now).detector.held with
    | none =>
        rw [Detector.key_of_free holding typed] at completed
        cases begun : (e.ready now).detector.begun? press.name <;> simp [begun] at completed
    | some held =>
        rw [Detector.key_of_held holding typed, settled.spelled?_eq] at completed
        obtain ⟨here, early⟩ := orderly.held_ready_iff.mp holding
        cases spelled : ChordSetting.spelled? chords held.press.name press.name with
        | none => simp [spelled] at completed
        | some chord =>
            rw [spelled] at completed
            cases completed
            exact ⟨held, chord, here, early, spelled, rfl⟩
  · rintro ⟨held, chord, here, early, spelled, rfl⟩
    rw [Detector.key_of_held (orderly.held_ready_iff.mpr ⟨here, early⟩) typed, settled.spelled?_eq,
      spelled]
    rfl

/-- A key that completes a chord brings its response about; any other leaves the mode as it is. -/
theorem key_of_completed {e : Editor κ} {now : Nat} (inside : (e.ready now).mode = .insert)
    {press : KeyPress} (ordinary : (Input.key press now).IsOrdinary) :
    match e.completed? press now with
    | some response =>
        e.key press now =
          respond response ((e.ready now).withDetector ((e.ready now).detector.key press now).1) now
    | none => (e.key press now).1.mode = .insert := by
  rw [key_of_typed e ordinary.1, answer_of_insert inside ordinary.2, completed?]
  cases ((e.ready now).detector.key press now).2 with
  | matched response => rfl
  | waiting deadline | released held | mismatched | echo => exact inside

/-- The first key of a chord is held. -/
theorem Orderly.deliver_of_begun {chords : List ChordSetting} {e : Editor κ} (orderly : e.Orderly chords)
    (inside : e.mode = .insert) (free : e.detector.held = none) {press : KeyPress} {now : Nat}
    (ordinary : (Input.key press now).IsOrdinary) {opening : ChordSetting}
    (begun : ChordSetting.begun? chords press.name = some opening) :
    e.deliver press now =
      (e.withDetector (e.detector.heard.hold ⟨press, now, opening.timeout⟩), true) := by
  have typing := orderly.inserting inside
  have keyed := typing.key_eq ordinary.1 now
  have found : e.detector.begun? press.name = some opening.chord := by
    rw [orderly.begun?_eq, begun]
    rfl
  rw [tick_of_vacant inside typing.idle free, answer_of_begun inside ordinary.1 ordinary.2 free found]
    at keyed
  rw [Editor.deliver, keyed]
  rfl

/-- The second key of a chord changes the mode while the first is held and not yet due. -/
theorem Orderly.deliver_of_spelled {chords : List ChordSetting} {e : Editor κ}
    (orderly : e.Orderly chords) {held : HeldKey} (holding : e.detector.held = some held)
    {press : KeyPress} {now : Nat} (early : now < held.deadline)
    (ordinary : (Input.key press now).IsOrdinary) {firing : ChordSetting}
    (spelled : ChordSetting.spelled? chords held.press.name press.name = some firing) :
    e.deliver press now =
      ((e.withDetector { e.detector.heard with held := none }).setMode firing.target now, true) := by
  have inside := orderly.inside_of_held holding
  have keyed := (orderly.inserting inside).key_eq ordinary.1 now
  have found : e.detector.spelled? held.press.name press.name = some firing.chord := by
    rw [orderly.spelled?_eq, spelled]
    rfl
  rw [orderly.tick_of_early holding early, answer_of_spelled inside ordinary.1 ordinary.2 holding found]
    at keyed
  rw [Editor.deliver, keyed]
  rfl

/-! ## When a chord is completed -/

/-- A key completes a chord exactly when the last key typed before it was held in Insert mode, still is,
and the two spell the chord in time. Otherwise it does not change the mode. -/
theorem chord_completed_iff {settings : Settings} (valid : settings.fault? = none) (control : κ)
    {inputs : List Input} {press : KeyPress} {now : Nat}
    (ordinary : (Input.key press now).IsOrdinary)
    (ascending : ((inputs ++ [Input.key press now]).map Input.time).Pairwise (· ≤ ·)) :
    let start := settings.editor control
    let e := start.run inputs
    (e.ready now).mode = .insert →
      (∀ response, e.completed? press now = some response ↔
        ∃ first since opening chord, start.HeldSince inputs first since ∧ since ≤ now ∧
          settings.starting? first.name = some opening ∧ now < since + opening.timeout ∧
          ChordSetting.spelled? settings.chords first.name press.name = some chord ∧
          response = .switchMode chord.target) ∧
      match e.completed? press now with
      | some response =>
          e.key press now =
            respond response ((e.ready now).withDetector ((e.ready now).detector.key press now).1) now
      | none => (e.key press now).1.mode = .insert := by
  intro start e inside
  have fresh : start.Orderly settings.chords := Orderly.start settings control
  have orderly : e.Orderly settings.chords := fresh.run inputs
  refine ⟨fun response => ?_, key_of_completed inside ordinary⟩
  rw [orderly.completed?_eq_some_iff ordinary.1]
  constructor
  · rintro ⟨held, chord, holding, early, spelled, rfl⟩
    obtain ⟨before, first, since, between, split, _, _, ⟨_, opening, begun, rfl⟩, _⟩ :=
      fresh.exists_holds rfl holding
    have since_le : since ≤ now := by
      rw [split, List.map_append, List.pairwise_append] at ascending
      refine ascending.2.2 since ?_ now (List.mem_singleton.mpr rfl)
      exact List.mem_map.mpr ⟨Input.key first since, by simp, rfl⟩
    have starting := Settings.starting?_eq_begun? valid (Settings.length_of_begun valid begun)
    exact ⟨first, since, opening, chord, (fresh.heldSince_iff rfl).mpr ⟨opening, begun, holding⟩,
      since_le, starting.trans begun, early, spelled, rfl⟩
  · rintro ⟨first, since, opening, chord, held, _, starting, early, spelled, rfl⟩
    obtain ⟨other, begun, holding⟩ := (fresh.heldSince_iff rfl).mp held
    rw [Settings.starting?_eq_begun? valid (Settings.length_of_begun valid begun), begun] at starting
    cases starting
    exact ⟨_, chord, holding, early, spelled, rfl⟩

/-- `j` waits as long as the chord listed first says, and an echo of it changes nothing: `w` completes
the second chord though that one would have waited less. -/
theorem chord_completed_iff_of_shared_key :
    let x : KeyPress := ⟨"x", ⟨0x07⟩, false⟩
    let j : KeyPress := ⟨"j", ⟨0x26⟩, false⟩
    let w : KeyPress := ⟨"w", ⟨0x0D⟩, false⟩
    let settings := { Settings.usual with chords := [⟨"jk", 140, .normal⟩, ⟨"jw", 90, .visual⟩] }
    let inputs : List Input :=
      [.key x 0, .key j 10, .tick 60, .key { j with synthetic := true } 70, .tick 120]
    let e := (settings.editor (Recorder.answering none none)).run inputs
    e.completed? w 149 = some (.switchMode .visual) := by
  intro x j w settings inputs e
  have valid : settings.fault? = none := by decide +kernel
  have ascending : ((inputs ++ [Input.key w 149]).map Input.time).Pairwise (· ≤ ·) := by decide
  have law := chord_completed_iff valid (Recorder.answering none none) ⟨rfl, rfl⟩ ascending
    (by decide +kernel)
  refine (law.1 _).mpr ⟨j, 10, ⟨"jk", 140, .normal⟩, ⟨"jw", 90, .visual⟩, ?_, ?_, ?_, ?_, ?_, rfl⟩
  · refine ⟨[.key x 0], _, rfl, rfl, ?_, ?_, ?_, ?_⟩ <;> decide +kernel
  · decide
  · decide +kernel
  · decide
  · decide +kernel

/-- Two keys that spell a chord complete one, if the second comes while the first chord listed that starts
with the first key still lets it wait. Neither key is typed, and the mode is the one that the first chord
listed with these two keys leads to. -/
theorem chord_completed_in_time {settings : Settings} (valid : settings.fault? = none) (control : κ)
    {chord : ChordSetting} (listed : chord ∈ settings.chords) {a b : Char}
    (keys : chord.keys.toList = [a, b]) {first second : KeyPress}
    (firstName : first.name = String.singleton a) (secondName : second.name = String.singleton b)
    {inputs between : List Input} {opens shuts : Nat} (ordinary : (Input.key first opens).IsOrdinary)
    (ordinary' : (Input.key second shuts).IsOrdinary) (quiet : ∀ input ∈ between, input.IsQuiet)
    (before : ∀ input ∈ between, input.time ≤ shuts) :
    let e := (settings.editor control).run inputs
    e.mode = .insert → e.held? = none →
      ∃ opening firing, settings.starting? first.name = some opening ∧
        ChordSetting.spelled? settings.chords first.name second.name = some firing ∧
        (shuts < opens + opening.timeout →
          let opened := e.deliver first opens
          let fired := (opened.1.run between).deliver second shuts
          opened.2 = true ∧ fired.2 = true ∧ fired.1.control = e.control ∧
            fired.1.mode = firing.target) := by
  intro e inside free
  have orderly : e.Orderly settings.chords := (Orderly.start settings control).run inputs
  have typing := orderly.inserting inside
  have vacant : e.detector.held = none := Option.map_eq_none_iff.mp free
  obtain ⟨opening, starting⟩ : ∃ opening, settings.starting? first.name = some opening := by
    rw [firstName]
    exact Settings.exists_starting listed keys
  obtain ⟨firing, spelled⟩ :
      ∃ firing, ChordSetting.spelled? settings.chords first.name second.name = some firing := by
    rw [firstName, secondName]
    exact Settings.exists_spelled listed keys
  refine ⟨opening, firing, starting, spelled, fun inTime => ?_⟩
  have single : first.name.toList.length = 1 := by
    rw [firstName]
    simp
  have begun := (Settings.starting?_eq_begun? valid single).symm.trans starting
  have opened := orderly.deliver_of_begun inside vacant ordinary begun
  have waiting := (orderly.deliver ordinary.1 opens).1
  rw [opened] at waiting ⊢
  have early : ∀ input ∈ between, input.time < opens + opening.timeout := fun input listed =>
    Nat.lt_of_le_of_lt (before input listed) inTime
  have still := (waiting.held_run_iff quiet).mpr ⟨rfl, early⟩
  have fired := (waiting.run between).deliver_of_spelled still inTime ordinary' spelled
  obtain ⟨d, _, same, ran⟩ := waiting.run_of_early rfl quiet early
  have away := (Settings.chord_of_valid valid (List.mem_of_find?_eq_some spelled)).2.2
  dsimp only
  rw [fired, ran]
  have left := (typing.withDetector (d := { d.heard with held := none }) same).left_setMode away shuts
  exact ⟨rfl, rfl, left.control, left.mode⟩

/-- The second chord has not long enough a time of its own, but the first one lends it its time; and it is
completed in a session that a late `j` and `k` began. -/
theorem chord_completed_in_time_of_lent_time :
    let j : KeyPress := ⟨"j", ⟨0x26⟩, false⟩
    let k : KeyPress := ⟨"k", ⟨0x28⟩, false⟩
    let w : KeyPress := ⟨"w", ⟨0x0D⟩, false⟩
    let settings := { Settings.usual with chords := [⟨"jk", 140, .normal⟩, ⟨"jw", 90, .visual⟩] }
    let e := (settings.editor (TextField.ofText [])).run [.key j 0, .key k 140]
    let opened := e.deliver j 200
    let fired := (opened.1.run [.tick 250, .tick 300]).deliver w 330
    opened.2 = true ∧ fired.2 = true ∧ fired.1.control.text = "jk".toList ∧ fired.1.mode = .visual := by
  intro j k w settings e opened fired
  have valid : settings.fault? = none := by decide +kernel
  have listed : ⟨"jw", 90, .visual⟩ ∈ settings.chords := by decide
  have ordinary : (Input.key j 200).IsOrdinary := ⟨rfl, rfl⟩
  have ordinary' : (Input.key w 330).IsOrdinary := ⟨rfl, rfl⟩
  have quiet : ∀ input ∈ [Input.tick 250, Input.tick 300], input.IsQuiet := by decide
  have inside : e.mode = .insert := by decide +kernel
  have free : e.held? = none := by decide +kernel
  obtain ⟨opening, firing, starting, spelled, completes⟩ :=
    chord_completed_in_time valid (TextField.ofText []) listed rfl rfl rfl ordinary ordinary' quiet
      (by decide) inside free
  have first : settings.starting? j.name = some ⟨"jk", 140, .normal⟩ := by decide +kernel
  have second : ChordSetting.spelled? settings.chords j.name w.name = some ⟨"jw", 90, .visual⟩ := by
    decide +kernel
  cases starting.symm.trans first
  cases spelled.symm.trans second
  obtain ⟨kept, kept', control, mode⟩ := completes (by decide)
  refine ⟨kept, kept', ?_, mode⟩
  rw [show fired.1.control = e.control from control]
  decide +kernel

/-- A chord listed behind one with the same first key and less time does not get its own time, and one
listed behind another with the same keys is never completed. -/
theorem chord_shadowed_by_earlier :
    let j : KeyPress := ⟨"j", ⟨0x26⟩, false⟩
    let k : KeyPress := ⟨"k", ⟨0x28⟩, false⟩
    let w : KeyPress := ⟨"w", ⟨0x0D⟩, false⟩
    let late : ChordSetting := ⟨"jw", 300, .visual⟩
    let second : ChordSetting := ⟨"jk", 300, .visual⟩
    let settings := { Settings.usual with chords := [⟨"jk", 100, .normal⟩, late, second] }
    let e := settings.editor (TextField.ofText [])
    let opened := (e.deliver j 0).1
    settings.fault? = none ∧ e.mode = .insert ∧ e.held? = none ∧ late ∈ settings.chords ∧
      200 < 0 + late.timeout ∧ (opened.deliver w 200).2 = false ∧
      (opened.deliver w 200).1.mode = .insert ∧
      (opened.deliver w 200).1.control.text = "jw".toList ∧ second ∈ settings.chords ∧
      50 < 0 + second.timeout ∧ (opened.deliver k 50).1.mode ≠ second.target := by
  intro j k w late second settings e opened
  exact ⟨by decide +kernel, rfl, rfl, by decide, by decide, by decide +kernel, by decide +kernel,
    by decide +kernel, by decide, by decide, by decide +kernel⟩

end Editor

end ModalKeys
