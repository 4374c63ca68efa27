import ModalKeys.Proofs.Editor.Commanding
import ModalKeys.Settings.Basic

/-!
# Orderly editors

Between two inputs at most one thing is open: outside Insert mode no key is held, and only Normal mode
defers anything, namely one stroke that shows its block. What is open is done before the next key is
answered, by time or by the key itself, and it makes no difference which of the two does it.
-/

namespace ModalKeys

namespace ChordSetting

/-- The first chord listed that goes on after the name. -/
def begun? (chords : List ChordSetting) (name : String) : Option ChordSetting :=
  chords.find? fun setting => setting.chord.beginsWith name

/-- The first chord listed that the two names spell. -/
def spelled? (chords : List ChordSetting) (first second : String) : Option ChordSetting :=
  chords.find? fun setting => setting.keys = first ++ second

end ChordSetting

namespace Editor

variable {κ : Type}

structure Orderly (chords : List ChordSetting) (e : Editor κ) : Prop where
  configured : e.detector.chords = chords.map ChordSetting.chord
  timeout : ∀ held, e.detector.held = some held → held.timeout ∈ chords.map ChordSetting.timeout
  free : e.mode ≠ .insert → e.detector.held = none
  queued : e.queue = [] ∨
    e.mode = .normal ∧ ∃ due stroke, IsBlock stroke ∧ e.queue = [⟨due, .injectAll [stroke]⟩]

/-- Insert mode holds back a key typed now, for as long as the first chord it begins says. -/
def Holds (chords : List ChordSetting) (e : Editor κ) (press : KeyPress) (now : Nat) (held : HeldKey) :
    Prop :=
  e.mode = .insert ∧
    ∃ opening, ChordSetting.begun? chords press.name = some opening ∧ held = ⟨press, now, opening.timeout⟩

theorem Holds.since {chords : List ChordSetting} {e : Editor κ} {press : KeyPress} {now : Nat}
    {held : HeldKey} (holds : Holds chords e press now held) : held.since = now := by
  obtain ⟨_, opening, _, rfl⟩ := holds
  rfl

def overdue (e : Editor κ) (now : Nat) : Bool := e.detector.held.any fun held => held.deadline ≤ now

variable [Control κ]

/-- The editor as it answers a typed key: due timers have run, and then all that is deferred. -/
def ready (e : Editor κ) (now : Nat) : Editor κ := (e.tick now).runDeferred now

theorem key_of_typed (e : Editor κ) {press : KeyPress} (typed : press.synthetic = false) (now : Nat) :
    e.key press now = (e.ready now).answer press now := by
  rw [key, typed]
  rfl

/-- Everything deferred is done and, if it is late, the held key is typed. -/
def caughtUp (e : Editor κ) (late : Bool) : Editor κ :=
  let settled := e.runDeferred 0
  if late then (settled.withDetector settled.detector.cancel.1).inject settled.heldStrokes else settled

variable {chords : List ChordSetting} {e : Editor κ}

theorem Orderly.start (settings : Settings) (control : κ) :
    (settings.editor control).Orderly settings.chords where
  configured := rfl
  timeout := nofun
  free _ := rfl
  queued := .inl rfl

namespace Orderly

omit [Control κ] in
theorem begun?_eq (orderly : e.Orderly chords) (name : String) :
    e.detector.begun? name = (ChordSetting.begun? chords name).map ChordSetting.chord := by
  rw [Detector.begun?, orderly.configured, List.find?_map]
  rfl

omit [Control κ] in
theorem spelled?_eq (orderly : e.Orderly chords) (first second : String) :
    e.detector.spelled? first second =
      (ChordSetting.spelled? chords first second).map ChordSetting.chord := by
  rw [Detector.spelled?, orderly.configured, List.find?_map]
  rfl

omit [Control κ] in
theorem idle_of_away (orderly : e.Orderly chords) (away : e.mode ≠ .normal) : e.queue = [] :=
  orderly.queued.resolve_right fun ⟨normal, _⟩ => away normal

omit [Control κ] in
theorem inserting (orderly : e.Orderly chords) (inside : e.mode = .insert) : e.Inserting := by
  refine ⟨inside, orderly.idle_of_away (by rw [inside]; nofun), fun chord listed => ?_⟩
  rw [orderly.configured] at listed
  obtain ⟨setting, _, rfl⟩ := List.mem_map.mp listed
  exact ⟨setting.target, rfl⟩

/-- Carrying out what is deferred only injects, and time plays no part in it. -/
theorem runDeferred_eq (orderly : e.Orderly chords) :
    ∃ strokes, ∀ now, e.runDeferred now = { e with queue := [] }.inject strokes := by
  rcases orderly.queued with idle | ⟨_, due, stroke, _, queued⟩
  · refine ⟨[], fun now => ?_⟩
    rw [runDeferred_of_idle idle, inject_nil, ← idle]
  · exact ⟨[stroke], runDeferred_of_injectAll queued⟩

theorem runDue_cases (orderly : e.Orderly chords) (now : Nat) :
    e.runDue now = e ∨ e.runDue now = e.runDeferred 0 := by
  rcases orderly.queued with idle | ⟨_, due, stroke, _, queued⟩
  · exact .inl (runDue_of_idle idle now)
  · rw [runDue_of_injectAll queued, runDeferred_of_injectAll queued]
    by_cases early : due ≤ now
    · exact .inr (if_pos early)
    · exact .inl (if_neg early)

omit [Control κ] in
theorem overdue_of_free (free : e.detector.held = none) (now : Nat) : e.overdue now = false := by
  simp [overdue, free]

omit [Control κ] in
theorem overdue_of_held {held : HeldKey} (holding : e.detector.held = some held) (now : Nat) :
    e.overdue now = decide (held.deadline ≤ now) := by
  simp [overdue, holding]

omit [Control κ] in
theorem overdue_eq_false_iff (now : Nat) :
    e.overdue now = false ↔ ∀ held, e.detector.held = some held → now < held.deadline := by
  cases holding : e.detector.held with
  | none => exact iff_of_true (overdue_of_free holding now) nofun
  | some held =>
      rw [overdue_of_held holding, decide_eq_false_iff_not, Nat.not_le]
      constructor
      · intro early other same
        cases same
        exact early
      · intro early
        exact early held rfl

theorem runDeferred_runDeferred (orderly : e.Orderly chords) (now : Nat) :
    (e.runDeferred 0).runDeferred now = e.runDeferred 0 := by
  obtain ⟨strokes, ran⟩ := orderly.runDeferred_eq
  exact runDeferred_of_idle (by rw [ran]; rfl) now

theorem runDeferred_now (orderly : e.Orderly chords) (now : Nat) :
    e.runDeferred now = e.runDeferred 0 := by
  obtain ⟨strokes, ran⟩ := orderly.runDeferred_eq
  rw [ran, ran]

theorem mode_caughtUp (orderly : e.Orderly chords) (late : Bool) : (e.caughtUp late).mode = e.mode := by
  obtain ⟨strokes, ran⟩ := orderly.runDeferred_eq
  cases late <;> simp [Editor.caughtUp, ran]

theorem queue_caughtUp (orderly : e.Orderly chords) (late : Bool) : (e.caughtUp late).queue = [] := by
  obtain ⟨strokes, ran⟩ := orderly.runDeferred_eq
  cases late <;> simp [Editor.caughtUp, ran]

theorem detector_caughtUp (orderly : e.Orderly chords) (late : Bool) :
    (e.caughtUp late).detector = if late then e.detector.cancel.1 else e.detector := by
  obtain ⟨strokes, ran⟩ := orderly.runDeferred_eq
  cases late <;> simp [Editor.caughtUp, ran] <;> rfl

theorem normal_caughtUp (orderly : e.Orderly chords) (late : Bool) :
    (e.caughtUp late).modes.normal = e.modes.normal := by
  obtain ⟨strokes, ran⟩ := orderly.runDeferred_eq
  cases late <;> simp [Editor.caughtUp, ran, Editor.withDetector]

theorem caughtUp_of_idle (idle : e.queue = []) (free : e.detector.held = none) (late : Bool) :
    e.caughtUp late = e := by
  unfold Editor.caughtUp
  rw [runDeferred_of_idle idle]
  dsimp only
  rw [heldStrokes_of_free free, inject_nil, Detector.cancel, free]
  cases late <;> rfl

theorem caughtUp_caughtUp (orderly : e.Orderly chords) (first second : Bool) :
    (e.caughtUp first).caughtUp second = e.caughtUp (first || second) := by
  cases first with
  | true =>
      refine caughtUp_of_idle (orderly.queue_caughtUp true) ?_ second
      rw [orderly.detector_caughtUp]
      exact Detector.held_cancel _
  | false =>
      change (e.runDeferred 0).caughtUp second = _
      unfold Editor.caughtUp
      rw [orderly.runDeferred_runDeferred]
      rfl

theorem caughtUp_of_free (orderly : e.Orderly chords) (free : e.detector.held = none) (late : Bool) :
    e.caughtUp late = e.runDeferred 0 := by
  have settled := orderly.caughtUp_caughtUp false late
  rw [Bool.false_or] at settled
  rw [← settled]
  refine caughtUp_of_idle (orderly.queue_caughtUp false) ?_ late
  rw [orderly.detector_caughtUp]
  exact free

theorem overdue_caughtUp (orderly : e.Orderly chords) (late : Bool) (now : Nat) :
    (e.caughtUp late).overdue now = if late then false else e.overdue now := by
  rw [overdue, orderly.detector_caughtUp]
  cases late with
  | true => simp
  | false => rfl

theorem caughtUp (orderly : e.Orderly chords) (late : Bool) : (e.caughtUp late).Orderly chords where
  configured := by
    rw [orderly.detector_caughtUp]
    cases late with
    | true => exact (Detector.chords_cancel _).trans orderly.configured
    | false => exact orderly.configured
  timeout held holding := by
    rw [orderly.detector_caughtUp] at holding
    cases late with
    | true => simp at holding
    | false => exact orderly.timeout held holding
  free away := by
    rw [orderly.mode_caughtUp] at away
    rw [orderly.detector_caughtUp]
    cases late with
    | true => exact Detector.held_cancel _
    | false => exact orderly.free away
  queued := .inl (orderly.queue_caughtUp late)

theorem tick_of_away (orderly : e.Orderly chords) (away : e.mode ≠ .insert) (now : Nat) :
    e.tick now = e.runDue now := by
  have stays : (e.runDue now).mode ≠ .insert := by
    rcases orderly.runDue_cases now with ran | ran <;> rw [ran]
    · exact away
    · exact fun inside => away ((orderly.mode_caughtUp false).symm.trans inside)
  rw [Editor.tick]
  dsimp only
  rw [ModeSet.tick_of_away _ stays]
  rfl

/-- A tick catches up completely or does nothing. -/
theorem tick_cases (orderly : e.Orderly chords) (now : Nat) :
    (e.tick now = e ∧ e.overdue now = false) ∨ e.tick now = e.caughtUp (e.overdue now) := by
  by_cases inside : e.mode = .insert
  · have typing := orderly.inserting inside
    rcases typing.tick_cases now with ⟨held, holding, due, ticked⟩ | ⟨early, ticked⟩
    · right
      rw [ticked, overdue_of_held holding, decide_eq_true due]
      unfold Editor.caughtUp
      rw [runDeferred_of_idle typing.idle]
      dsimp only
      rw [heldStrokes_of_held holding, Detector.cancel, holding]
      rfl
    · exact .inl ⟨ticked, (overdue_eq_false_iff now).mpr early⟩
  · rw [orderly.tick_of_away inside, overdue_of_free (orderly.free inside)]
    rcases orderly.runDue_cases now with ran | ran
    · exact .inl ⟨ran, rfl⟩
    · exact .inr ran

theorem tick (orderly : e.Orderly chords) (now : Nat) : (e.tick now).Orderly chords := by
  rcases orderly.tick_cases now with ⟨ticked, _⟩ | ticked <;> rw [ticked]
  · exact orderly
  · exact orderly.caughtUp _

theorem ready_eq (orderly : e.Orderly chords) (now : Nat) :
    e.ready now = e.caughtUp (e.overdue now) := by
  rcases orderly.tick_cases now with ⟨ticked, early⟩ | ticked
  · rw [ready, ticked, early, orderly.runDeferred_now]
    rfl
  · rw [ready, ticked]
    exact runDeferred_of_idle (orderly.queue_caughtUp _) now

/-- A typed key is answered once everything open at its time is done. -/
theorem key_eq (orderly : e.Orderly chords) {press : KeyPress} (typed : press.synthetic = false)
    (now : Nat) : e.key press now = (e.caughtUp (e.overdue now)).answer press now := by
  rw [key_of_typed e typed, orderly.ready_eq]

/-- A tick before a key changes nothing about the key. -/
theorem key_tick (orderly : e.Orderly chords) {press : KeyPress} (typed : press.synthetic = false)
    {early now : Nat} (before : early ≤ now) : (e.tick early).key press now = e.key press now := by
  rw [(orderly.tick early).key_eq typed, orderly.key_eq typed]
  rcases orderly.tick_cases early with ⟨ticked, _⟩ | ticked
  · rw [ticked]
  · rw [ticked, orderly.caughtUp_caughtUp, orderly.overdue_caughtUp]
    cases late : e.overdue early with
    | false => rfl
    | true =>
        have later : e.overdue now = true := by
          cases holding : e.detector.held with
          | none =>
              rw [overdue_of_free holding] at late
              cases late
          | some held =>
              rw [overdue_of_held holding] at late ⊢
              exact decide_eq_true (Nat.le_trans (of_decide_eq_true late) before)
        rw [later]
        rfl

/-- With all the time there is, the same things get done. -/
theorem caughtUp_tick (orderly : e.Orderly chords) (now : Nat) :
    (e.tick now).caughtUp true = e.caughtUp true := by
  rcases orderly.tick_cases now with ⟨ticked, _⟩ | ticked
  · rw [ticked]
  · rw [ticked, orderly.caughtUp_caughtUp, Bool.or_true]

theorem caughtUp_of_deadline_none (orderly : e.Orderly chords) (done : e.deadline? = none) :
    e.caughtUp true = e := by
  have idle := queue_of_deadline_none done
  refine caughtUp_of_idle idle ?_ true
  by_cases inside : e.mode = .insert
  · rw [deadline?, idle, inside] at done
    exact Option.map_eq_none_iff.mp done
  · exact orderly.free inside

/-! ## Keys -/

theorem inject (orderly : e.Orderly chords) (strokes : List Keystroke) :
    (e.inject strokes).Orderly chords :=
  ⟨orderly.configured, orderly.timeout, orderly.free, orderly.queued⟩

omit [Control κ] in
theorem receive (orderly : e.Orderly chords) (control : κ) :
    Orderly chords { e with control := control } :=
  ⟨orderly.configured, orderly.timeout, orderly.free, orderly.queued⟩

omit [Control κ] in
theorem withNormal (orderly : e.Orderly chords) (m : NormalMode) : (e.withNormal m).Orderly chords :=
  ⟨orderly.configured, orderly.timeout, orderly.free, orderly.queued⟩

omit [Control κ] in
theorem detector_withSelecting (e : Editor κ) (m : VisualMode) :
    (e.withSelecting m).detector = e.detector := by
  unfold withSelecting detector
  dsimp only
  split <;> rfl

omit [Control κ] in
theorem withSelecting (orderly : e.Orderly chords) (m : VisualMode) :
    (e.withSelecting m).Orderly chords where
  configured := (congrArg Detector.chords (detector_withSelecting e m)).trans orderly.configured
  timeout held holding := orderly.timeout held (detector_withSelecting e m ▸ holding)
  free away := (congrArg Detector.held (detector_withSelecting e m)).trans (orderly.free away)
  queued := orderly.queued

omit [Control κ] in
theorem withDetector (orderly : e.Orderly chords) (inside : e.mode = .insert) {d : Detector Response}
    (same : d.chords = e.detector.chords)
    (timeout : ∀ held, d.held = some held → held.timeout ∈ chords.map ChordSetting.timeout) :
    (e.withDetector d).Orderly chords :=
  ⟨same.trans orderly.configured, timeout, fun away => absurd inside away, orderly.queued⟩

theorem held_setMode (orderly : e.Orderly chords) {mode : Mode} (away : mode ≠ e.mode) (now : Nat) :
    (e.setMode mode now).detector.held = none := by
  rw [detector_setMode e away]
  split
  · exact Detector.held_cancel _
  · next outside => exact orderly.free outside

theorem setMode (orderly : e.Orderly chords) (idle : e.queue = []) (mode : Mode) (now : Nat) :
    (e.setMode mode now).Orderly chords := by
  by_cases same : mode = e.mode
  · rw [same, setMode_self]
    exact orderly
  have free := orderly.held_setMode same now
  refine ⟨?_, fun held holding => ?_, fun _ => free, ?_⟩
  · rw [detector_setMode e same]
    split
    · exact (Detector.chords_cancel _).trans orderly.configured
    · exact orderly.configured
  · rw [free] at holding
    cases holding
  · rw [queue_setMode e same, idle, mode_setMode, entryQueue]
    by_cases normal : mode = .normal
    · rw [if_pos normal]
      exact .inr ⟨normal, _, _, .right, rfl⟩
    · rw [if_neg normal]
      exact .inl rfl

theorem carryOut (orderly : e.Orderly chords) (idle : e.queue = []) (normal : e.mode = .normal)
    {plan : Plan} (block : plan.EndsInBlock) (now : Nat) : (e.carryOut plan now).Orderly chords := by
  rw [carryOut_eq]
  refine ⟨orderly.configured, orderly.timeout, orderly.free, ?_⟩
  dsimp only
  rw [idle]
  rcases block with nothing | ⟨stroke, shown, settled⟩
  · exact .inl (by rw [nothing]; rfl)
  · exact .inr ⟨normal, _, stroke, shown, by rw [settled]; rfl⟩

omit [Control κ] in
theorem failing (orderly : e.Orderly chords) : Orderly chords { e with failed := true } :=
  ⟨orderly.configured, orderly.timeout, orderly.free, orderly.queued⟩

theorem execute (orderly : e.Orderly chords) (idle : e.queue = []) (normal : e.mode = .normal)
    (counted : Counted) (now : Nat) : (e.execute counted now).Orderly chords := by
  rcases e.execute_cases counted now with ⟨-, carried⟩ | ⟨-, failed⟩
  · rw [carried]
    exact orderly.carryOut idle normal (counted.endsInBlock_plan _) now
  · rw [failed]
    exact orderly.failing

/-- A change defers nothing, so it does not matter that Normal mode has been left. -/
theorem execute_of_change (orderly : e.Orderly chords) {counted : Counted} {edit : Edit}
    (command : counted.command = .edit edit) (enters : edit.entersInsert = true) (now : Nat) :
    (e.execute counted now).Orderly chords := by
  rw [Editor.execute_of_change command enters]
  split
  · exact orderly.inject _
  · exact orderly.failing

theorem answer_normal (orderly : e.Orderly chords) (idle : e.queue = []) (normal : e.mode = .normal)
    (press : KeyPress) (now : Nat) :
    (e.answer press now).1.Orderly chords ∧ (e.answer press now).1.detector.held = none := by
  have away : e.mode ≠ .insert := by rw [normal]; nofun
  have free := orderly.free away
  rcases normal_cases normal press now with ⟨keys, answered⟩ | ⟨counted, _, _, answered⟩
  · rw [answered]
    exact ⟨orderly.withNormal _, free⟩
  have here := orderly.withNormal e.modes.normal.cleared
  rw [answered]
  rcases counted.command_cases with stays | ⟨edit, command, enters⟩ | ⟨entry, command⟩
  · rw [respond_of_plan stays]
    refine ⟨here.execute idle normal counted now, ?_⟩
    rw [detector, (modes_execute _ counted now).2]
    exact free
  · rw [respond_of_change command enters]
    refine ⟨(here.setMode idle .insert now).execute_of_change command enters now, ?_⟩
    rw [detector, (modes_execute _ counted now).2]
    exact here.held_setMode (Ne.symm away) now
  · rw [respond_of_entry command]
    have leaving : entry.target ≠ e.mode := fun same => entry.target_ne_normal (same.trans normal)
    exact ⟨(here.setMode idle entry.target now).inject _, here.held_setMode leaving now⟩

theorem held_setMode_of_free (orderly : e.Orderly chords) (free : e.detector.held = none) (mode : Mode)
    (now : Nat) : (e.setMode mode now).detector.held = none := by
  by_cases same : mode = e.mode
  · rwa [same, setMode_self]
  · exact orderly.held_setMode same now

theorem answer_visual (orderly : e.Orderly chords) (idle : e.queue = [])
    (visual : e.mode = .visual ∨ e.mode = .visualLine) (press : KeyPress) (now : Nat) :
    (e.answer press now).1.Orderly chords ∧ (e.answer press now).1.detector.held = none := by
  have free : ∀ m, (e.withSelecting m).detector.held = none := fun m =>
    (orderly.withSelecting m).free (away_of_visual visual)
  rcases visual_cases visual press now with ⟨m, strokes, _, answered⟩ | ⟨m, target, _, _, answered⟩ |
    ⟨m, strokes, target, _, _, _, answered⟩
  · rw [answered]
    exact ⟨(orderly.withSelecting m).inject _, free m⟩
  · rw [answered]
    have here := (orderly.withSelecting m).inject [.plain .backspace]
    exact ⟨here.setMode idle _ now, here.held_setMode_of_free (free m) _ now⟩
  · rw [answered]
    have here := (orderly.withSelecting m).inject strokes
    exact ⟨here.setMode idle _ now, here.held_setMode_of_free (free m) _ now⟩

theorem answer_insert (orderly : e.Orderly chords) (inside : e.mode = .insert) {press : KeyPress}
    (typed : press.synthetic = false) (now : Nat) :
    (e.answer press now).1.Orderly chords ∧
      ∀ held, (e.answer press now).1.detector.held = some held → Holds chords e press now held := by
  have typing := orderly.inserting inside
  cases escape : press.isEscape with
  | true =>
      rw [answer_escape_of_insert inside escape typed]
      have closed := (orderly.withDetector inside (d := e.detector.cancel.1)
        (Detector.chords_cancel _) (by simp)).inject e.heldStrokes
      refine ⟨closed.setMode typing.idle .normal now, fun held holding => ?_⟩
      rw [closed.held_setMode_of_free (Detector.held_cancel _)] at holding
      cases holding
  | false =>
      rcases typing.answer_cases typed escape now with
        ⟨held, target, d, _, free, same, _, answered⟩ | ⟨held, d, _, free, same, _, answered⟩ |
        ⟨chord, d, begun, _, waiting, same, answered⟩ | ⟨d, _, free, same, answered⟩
      · rw [answered]
        have heard := orderly.withDetector inside same (by simp [free])
        refine ⟨heard.setMode typing.idle target now, fun held holding => ?_⟩
        rw [heard.held_setMode_of_free free] at holding
        cases holding
      · rw [answered]
        refine ⟨(orderly.withDetector inside same (by simp [free])).inject _, fun held holding => ?_⟩
        cases free.symm.trans holding
      · rw [orderly.begun?_eq] at begun
        obtain ⟨opening, found, rfl⟩ := Option.map_eq_some_iff.mp begun
        rw [answered]
        refine ⟨orderly.withDetector inside same ?_, fun held holding => ?_⟩
        · rintro held holding
          cases waiting.symm.trans holding
          exact List.mem_map_of_mem (List.mem_of_find?_eq_some found)
        · cases waiting.symm.trans holding
          exact ⟨inside, opening, found, rfl⟩
      · rw [answered]
        refine ⟨orderly.withDetector inside same (by simp [free]), fun held holding => ?_⟩
        cases free.symm.trans holding

/-- A key keeps the editor orderly, and a key held afterwards is that key. -/
theorem answer (orderly : e.Orderly chords) (idle : e.queue = []) {press : KeyPress}
    (typed : press.synthetic = false) (now : Nat) :
    (e.answer press now).1.Orderly chords ∧
      ∀ held, (e.answer press now).1.detector.held = some held → Holds chords e press now held := by
  have nothing : ∀ after : Editor κ, after.detector.held = none →
      ∀ held, after.detector.held = some held → Holds chords e press now held := by
    intro after free held holding
    cases free.symm.trans holding
  cases mode : e.mode with
  | insert => exact orderly.answer_insert mode typed now
  | normal =>
      obtain ⟨kept, free⟩ := orderly.answer_normal idle mode press now
      exact ⟨kept, nothing _ free⟩
  | visual =>
      obtain ⟨kept, free⟩ := orderly.answer_visual idle (.inl mode) press now
      exact ⟨kept, nothing _ free⟩
  | visualLine =>
      obtain ⟨kept, free⟩ := orderly.answer_visual idle (.inr mode) press now
      exact ⟨kept, nothing _ free⟩

theorem key (orderly : e.Orderly chords) {press : KeyPress} (typed : press.synthetic = false)
    (now : Nat) :
    (e.key press now).1.Orderly chords ∧
      ∀ held, (e.key press now).1.detector.held = some held → Holds chords e press now held := by
  rw [orderly.key_eq typed]
  obtain ⟨kept, holds⟩ := (orderly.caughtUp _).answer (orderly.queue_caughtUp _) typed now
  refine ⟨kept, fun held holding => ?_⟩
  obtain ⟨inside, opening, found, same⟩ := holds held holding
  exact ⟨(orderly.mode_caughtUp _).symm.trans inside, opening, found, same⟩

end Orderly

end Editor

end ModalKeys
