import Mathlib.Data.List.Induction
import ModalKeys.Proofs.Editor.Injecting
import ModalKeys.Proofs.Editor.Orderly
import ModalKeys.Proofs.Normal.Typing

/-!
# The block cursor

At rest in Normal mode a field shows a block: at most one character is selected. Only undo and redo
leave something else, because they bring back a draft together with what was selected in it.
-/

namespace ModalKeys

theorem singleKey?_ne_yank {key : String} {command : Command} (read : singleKey? key = some command) :
    command ≠ .edit .yank := by
  rintro rfl
  unfold singleKey? at read
  split at read <;> cases read

theorem doubleKey?_ne_yank {first second : String} {command : Command}
    (read : doubleKey? first second = some command) : command ≠ .edit .yank := by
  rintro rfl
  unfold doubleKey? at read
  split at read <;> cases read

/-- No keys in Normal mode read as a plain copy. -/
theorem CommandReader.read_ne_yank {reader : CommandReader} {keys : List String} {counted : Counted}
    (read : reader.read keys = .complete counted) : counted.command ≠ .edit .yank := by
  unfold CommandReader.read at read
  dsimp only at read
  split at read
  · cases read
  · split at read
    · next found =>
        cases read
        exact singleKey?_ne_yank found
    · split at read <;> cases read
  · split at read
    · next found =>
        cases read
        exact doubleKey?_ne_yank found
    · cases read
  · cases read

theorem Edit.settled_plan_ne_nil {edit : Edit} (stays : edit.entersInsert = false)
    (changes : edit ≠ .yank ∧ edit ≠ .undo ∧ edit ≠ .redo) (count : Nat) :
    (edit.plan count).settled ≠ [] := by
  obtain ⟨notYank, notUndo, notRedo⟩ := changes
  cases edit with
  | deleteChar | deleteLine | deleteToLineEnd | yankLine | pasteAfter | pasteBefore =>
      exact List.cons_ne_nil _ _
  | changeChar | changeLine | changeToLineEnd => cases stays
  | yank => exact absurd rfl notYank
  | undo => exact absurd rfl notUndo
  | redo => exact absurd rfl notRedo

/-- A command that shows its block at the end has left a caret before. -/
theorem Counted.isCaret_plan {counted : Counted} {f : TextField}
    (shows : (counted.plan f).settled ≠ []) :
    (Control.injectAll f (counted.plan f).now).draft.IsCaret := by
  obtain ⟨command, count, positive⟩ := counted
  cases command with
  | motion motion => exact motion.isCaret_plan positive f
  | edit edit =>
      refine (Edit.endsInCaret_plan ⟨?_, ?_, ?_⟩ positive).isCaret f <;>
        (rintro rfl; exact shows rfl)
  | entry entry => exact absurd rfl shows

/-- Of the commands that Normal mode reads and that stay there, undo and redo alone show no block. -/
theorem Counted.restores_of_settled_nil {counted : Counted} {f : TextField}
    (stays : counted.command.StaysNormal) (notYank : counted.command ≠ .edit .yank)
    (hidden : (counted.plan f).settled = []) :
    counted.command = .edit .undo ∨ counted.command = .edit .redo := by
  obtain ⟨command, count, positive⟩ := counted
  cases command with
  | motion motion =>
      have shown := motion.settled_plan count f
      cases shown.symm.trans hidden
  | edit edit =>
      by_cases undo : edit = .undo
      · exact .inl (congrArg _ undo)
      by_cases redo : edit = .redo
      · exact .inr (congrArg _ redo)
      have changes : edit ≠ .yank := fun same => notYank (congrArg _ same)
      exact absurd hidden (Edit.settled_plan_ne_nil stays ⟨changes, undo, redo⟩ count)
  | entry entry => exact stays.elim

theorem Entry.endsInCaret_positioning (entry : Entry) :
    EndsInCaret (.plain .left :: entry.positioning) := by
  cases entry with
  | insert | visual | visualLine => exact .single rfl
  | insertAfter => exact ⟨[.plain .left], _, rfl, rfl⟩
  | insertLineStart => exact ⟨[.plain .left], _, rfl, rfl⟩
  | insertLineEnd => exact ⟨[.plain .left], _, rfl, rfl⟩
  | openLineBelow => exact ⟨[.plain .left, .command .right], _, rfl, rfl⟩
  | openLineAbove => exact ⟨[.plain .left, .command .left, .plain .enter], _, rfl, rfl⟩

namespace Editor

variable {κ : Type}

def Restores (e : Editor κ) (press : KeyPress) : Prop :=
  e.mode = .normal ∧ press.isEscape = false ∧
    ∃ counted, e.modes.normal.reader.read (e.modes.normal.keys ++ [press.name]) = .complete counted ∧
      (counted.command = .edit .undo ∨ counted.command = .edit .redo)

/-- No operator of a Visual mode has deleted its selection. -/
def Unconsumed (e : Editor κ) : Prop :=
  e.modes.visual.consumed = false ∧ e.modes.visualLine.consumed = false

/-- Between two inputs a field can be anywhere in its text, but Insert mode has a caret, and so has
the block that is about to be shown. -/
structure Steady (chords : List ChordSetting) (e : Editor TextField) : Prop where
  orderly : e.Orderly chords
  bounds : e.control.InBounds
  inserting : e.mode = .insert → e.control.draft.IsCaret
  showing : e.queue ≠ [] → e.control.draft.IsCaret
  held : ∀ held, e.detector.held = some held → held.press.replay.collapses = true
  unconsumed : e.Unconsumed

variable [Control κ] {e : Editor κ}

/-- A change of the mode forgets what an operator of the mode that is left has deleted. -/
theorem unconsumed_setMode {mode : Mode} (away : mode ≠ e.mode)
    (visual : e.mode ≠ .visual → e.modes.visual.consumed = false)
    (visualLine : e.mode ≠ .visualLine → e.modes.visualLine.consumed = false) (now : Nat) :
    (e.setMode mode now).Unconsumed := by
  rw [setMode_eq e away]
  obtain ⟨origin, modes, control, queue, settle⟩ := e
  refine ⟨?_, ?_⟩
  · cases origin <;> cases mode <;> first | rfl | exact visual nofun
  · cases origin <;> cases mode <;> first | rfl | exact visualLine nofun

theorem Unconsumed.setMode (unconsumed : e.Unconsumed) (mode : Mode) (now : Nat) :
    (e.setMode mode now).Unconsumed := by
  by_cases same : mode = e.mode
  · rwa [same, setMode_self]
  · exact unconsumed_setMode same (fun _ => unconsumed.1) (fun _ => unconsumed.2) now

theorem not_rests_setMode {mode : Mode} (leaves : mode ≠ .normal ∨ e.mode ≠ .normal) (now : Nat) :
    ¬ (e.setMode mode now).Rests := by
  rintro ⟨normal, idle⟩
  rw [mode_setMode] at normal
  subst normal
  have away : Mode.normal ≠ e.mode := (leaves.resolve_left (· rfl)).symm
  rw [queue_setMode e away, entryQueue, if_pos rfl] at idle
  exact List.append_ne_nil_of_right_ne_nil _ (List.cons_ne_nil _ _) idle

omit [Control κ] in
theorem Unconsumed.selecting (unconsumed : e.Unconsumed) : e.selecting.consumed = false := by
  unfold Editor.selecting
  split
  · exact unconsumed.2
  · exact unconsumed.1

omit [Control κ] in
theorem Unconsumed.withSelecting (unconsumed : e.Unconsumed) {m : VisualMode}
    (kept : m.consumed = false) : (e.withSelecting m).Unconsumed := by
  unfold Editor.withSelecting
  split
  · exact ⟨unconsumed.1, kept⟩
  · exact ⟨kept, unconsumed.2⟩

omit [Control κ] in
/-- The Visual mode that the editor is not in has nothing consumed. -/
theorem Unconsumed.others (unconsumed : e.Unconsumed) (visual : e.mode = .visual ∨ e.mode = .visualLine)
    (m : VisualMode) :
    (e.mode ≠ .visual → (e.withSelecting m).modes.visual.consumed = false) ∧
      (e.mode ≠ .visualLine → (e.withSelecting m).modes.visualLine.consumed = false) := by
  unfold Editor.withSelecting
  rcases visual with mode | mode
  · refine ⟨fun away => absurd mode away, fun _ => ?_⟩
    rw [mode]
    exact unconsumed.2
  · refine ⟨fun _ => ?_, fun away => absurd mode away⟩
    rw [mode]
    exact unconsumed.1

namespace Steady

variable {chords : List ChordSetting} {e : Editor TextField}

/-- Typing the held key keeps a caret a caret. -/
theorem isCaret_heldStrokes (steady : e.Steady chords) (caret : e.control.draft.IsCaret) :
    (Control.injectAll e.control e.heldStrokes).draft.IsCaret := by
  cases holding : e.detector.held with
  | none =>
      rw [heldStrokes_of_free holding]
      exact caret
  | some held =>
      rw [heldStrokes_of_held holding]
      exact (EndsInCaret.single (steady.held held holding)).isCaret _

theorem runDeferred (steady : e.Steady chords) : (e.runDeferred 0).Steady chords := by
  rcases steady.orderly.queued with idle | ⟨normal, due, stroke, _, queued⟩
  · rw [runDeferred_of_idle idle]
    exact steady
  · have orderly : (e.runDeferred 0).Orderly chords := steady.orderly.caughtUp false
    rw [runDeferred_of_injectAll queued] at orderly ⊢
    refine ⟨orderly, steady.bounds.injectAll _, fun inside => ?_, fun waiting => absurd rfl waiting,
      steady.held, steady.unconsumed⟩
    cases normal.symm.trans inside

theorem caughtUp (steady : e.Steady chords) (late : Bool) : (e.caughtUp late).Steady chords := by
  have settled := steady.runDeferred
  have orderly := steady.orderly.caughtUp late
  cases late with
  | false => exact settled
  | true =>
      have nothing := steady.orderly.queue_caughtUp true
      refine ⟨orderly, settled.bounds.injectAll _, fun inside => ?_, fun waiting => absurd nothing waiting,
        fun held holding => ?_, settled.unconsumed⟩
      · exact settled.isCaret_heldStrokes (settled.inserting inside)
      · rw [steady.orderly.detector_caughtUp] at holding
        simp at holding

theorem tick (steady : e.Steady chords) (now : Nat) : (e.tick now).Steady chords := by
  rcases steady.orderly.tick_cases now with ⟨ticked, _⟩ | ticked <;> rw [ticked]
  · exact steady
  · exact steady.caughtUp _

/-- When the block has been shown it is all that is selected. -/
theorem narrow_caughtUp (steady : e.Steady chords) {late : Bool} (rests : (e.caughtUp late).Rests) :
    (e.caughtUp late).control.selection.length ≤ 1 ∨ e.caughtUp late = e := by
  have normal : e.mode = .normal := (steady.orderly.mode_caughtUp late).symm.trans rests.1
  have free : e.detector.held = none := steady.orderly.free (by rw [normal]; nofun)
  rcases steady.orderly.queued with idle | ⟨_, due, stroke, block, queued⟩
  · exact .inr (Orderly.caughtUp_of_idle idle free late)
  · left
    have caret := steady.showing (by rw [queued]; exact List.cons_ne_nil _ _)
    rw [steady.orderly.caughtUp_of_free free, runDeferred_of_injectAll queued]
    exact TextField.length_selection_block steady.bounds caret block

/-! ## Keys -/

/-- What a key comes to when nothing is deferred. If the editor rests afterwards, the key was an undo or
a redo, or it did nothing to the control. -/
structure Outcome (chords : List ChordSetting) (e : Editor TextField) (press : KeyPress)
    (answer : Editor TextField × Bool) : Prop where
  steady : answer.1.Steady chords
  passed : answer.2 = false → answer.1.mode = .insert ∧ press.replay.collapses = true
  rests : answer.1.Rests → e.Restores press ∨ e.Rests ∧ answer.1.control = e.control

theorem carryOut (steady : e.Steady chords) (idle : e.queue = []) (normal : e.mode = .normal)
    {plan : Plan} (block : plan.EndsInBlock)
    (caret : plan.settled ≠ [] → (Control.injectAll e.control plan.now).draft.IsCaret) (now : Nat) :
    (e.carryOut plan now).Steady chords ∧ ((e.carryOut plan now).Rests → plan.settled = []) := by
  have orderly := steady.orderly.carryOut idle normal block now
  rw [carryOut_eq] at orderly ⊢
  have shown : e.queue ++ (if plan.settled.isEmpty then [] else
      [⟨now + e.settle, .injectAll plan.settled⟩]) = [] → plan.settled = [] := by
    intro nothing
    cases settled : plan.settled with
    | nil => rfl
    | cons stroke rest =>
        rw [settled] at nothing
        cases (List.append_eq_nil_iff.mp nothing).2
  refine ⟨⟨orderly, steady.bounds.injectAll _, fun inside => ?_, fun waiting => caret fun hidden => ?_,
    steady.held, steady.unconsumed⟩, fun rests => shown rests.2⟩
  · cases normal.symm.trans inside
  · rw [hidden, idle] at waiting
    exact waiting rfl

theorem withNormal (steady : e.Steady chords) (m : NormalMode) : (e.withNormal m).Steady chords :=
  ⟨steady.orderly.withNormal m, steady.bounds, steady.inserting, steady.showing, steady.held,
    steady.unconsumed⟩

theorem inject (steady : e.Steady chords) {strokes : List Keystroke}
    (caret : (Control.injectAll e.control strokes).draft.IsCaret) : (e.inject strokes).Steady chords :=
  ⟨steady.orderly.inject _, steady.bounds.injectAll _, fun _ => caret, fun _ => caret, steady.held,
    steady.unconsumed⟩

theorem failing (steady : e.Steady chords) : Steady chords { e with failed := true } :=
  ⟨steady.orderly.failing, steady.bounds, steady.inserting, steady.showing, steady.held, steady.unconsumed⟩

/-- A change leaves Normal mode with a caret, and what it deletes leaves one again. -/
theorem change_normal (steady : e.Steady chords) (idle : e.queue = []) (normal : e.mode = .normal)
    {counted : Counted} {edit : Edit} (command : counted.command = .edit edit)
    (enters : edit.entersInsert = true) (before : Editor TextField) (press : KeyPress) (now : Nat) :
    Outcome chords before press ((e.setMode .insert now).execute counted now, true) := by
  have away : Mode.insert ≠ e.mode := by rw [normal]; nofun
  have changes : edit ≠ .yank ∧ edit ≠ .undo ∧ edit ≠ .redo := by
    refine ⟨?_, ?_, ?_⟩ <;> (rintro rfl; cases enters)
  have caret : (e.setMode .insert now).control.draft.IsCaret := by
    rw [control_setMode_of_normal normal]
    exact TextField.isCaret_press _ rfl
  have entered : (e.setMode .insert now).Steady chords := by
    refine ⟨steady.orderly.setMode idle .insert now, steady.bounds.reaches (reaches_setMode _ _ _),
      fun _ => caret, fun _ => caret, fun held holding => ?_, steady.unconsumed.setMode .insert now⟩
    rw [steady.orderly.held_setMode away] at holding
    cases holding
  refine ⟨?_, nofun, fun rests => ?_⟩
  · rw [execute_of_change command enters]
    split
    · exact entered.inject ((Edit.endsInCaret_plan changes counted.one_le_count).isCaret _)
    · exact entered.failing
  · have inserting := (modes_execute (e.setMode .insert now) counted now).1.trans (mode_setMode e .insert now)
    cases inserting.symm.trans rests.1

/-- An entry into Insert mode collapses the block and places the caret. -/
theorem enter_normal (steady : e.Steady chords) (idle : e.queue = []) (normal : e.mode = .normal)
    (entry : Entry) (before : Editor TextField) (press : KeyPress) (now : Nat) :
    Outcome chords before press ((e.setMode entry.target now).inject entry.positioning, true) := by
  have leaving : entry.target ≠ e.mode := fun same => entry.target_ne_normal (same.trans normal)
  have orderly := steady.orderly.setMode idle entry.target now
  have outside : (e.setMode entry.target now).mode ≠ .normal := by
    rw [mode_setMode]
    exact entry.target_ne_normal
  refine ⟨⟨orderly.inject _, (steady.bounds.reaches (reaches_setMode _ _ _)).injectAll _, fun inside => ?_,
    fun waiting => absurd (orderly.idle_of_away outside) waiting, fun held holding => ?_, ?_⟩, nofun,
    fun rests => absurd rests.1 outside⟩
  · have target : entry.target = .insert := (mode_setMode _ _ _).symm.trans inside
    rw [control_inject, target, control_setMode_of_normal normal]
    exact entry.endsInCaret_positioning.isCaret _
  · rw [detector_inject, steady.orderly.held_setMode leaving] at holding
    cases holding
  · exact steady.unconsumed.setMode entry.target now

theorem answer_normal (steady : e.Steady chords) (idle : e.queue = []) (normal : e.mode = .normal)
    (press : KeyPress) (now : Nat) : Outcome chords e press (e.answer press now) := by
  have here := steady.withNormal e.modes.normal.cleared
  rcases normal_cases normal press now with ⟨keys, answered⟩ | ⟨counted, plain, read, answered⟩
  · rw [answered]
    exact ⟨steady.withNormal _, nofun, fun _ => .inr ⟨⟨normal, idle⟩, rfl⟩⟩
  rcases counted.command_cases with stays | ⟨edit, command, enters⟩ | ⟨entry, command⟩
  · rw [answered, respond_of_plan stays]
    rcases (e.withNormal e.modes.normal.cleared).execute_cases counted now with ⟨-, carried⟩ | ⟨-, failed⟩
    · rw [carried]
      obtain ⟨after, rests⟩ := here.carryOut idle normal (counted.endsInBlock_plan _)
        Counted.isCaret_plan now
      refine ⟨after, nofun, fun resting => .inl ⟨normal, plain, counted, read, ?_⟩⟩
      exact Counted.restores_of_settled_nil stays (CommandReader.read_ne_yank read) (rests resting)
    · rw [failed]
      exact ⟨here.failing, nofun, fun _ => .inr ⟨⟨normal, idle⟩, rfl⟩⟩
  · rw [answered, respond_of_change command enters]
    exact here.change_normal idle normal command enters e press now
  · rw [answered, respond_of_entry command]
    exact here.enter_normal idle normal entry e press now

theorem stay_visual (steady : e.Steady chords) (idle : e.queue = [])
    (visual : e.mode = .visual ∨ e.mode = .visualLine) {m : VisualMode} (kept : m.consumed = false)
    (strokes : List Keystroke) (press : KeyPress) :
    Outcome chords e press ((e.withSelecting m).inject strokes, true) := by
  have outside : e.mode ≠ .normal ∧ e.mode ≠ .insert := by
    rcases visual with mode | mode <;> rw [mode] <;> exact ⟨nofun, nofun⟩
  refine ⟨⟨(steady.orderly.withSelecting m).inject _, steady.bounds.injectAll _,
    fun inside => absurd inside outside.2, fun waiting => absurd idle waiting, fun held holding => ?_,
    steady.unconsumed.withSelecting kept⟩, nofun, fun rests => absurd rests.1 outside.1⟩
  rw [detector_inject, Orderly.detector_withSelecting] at holding
  exact steady.held held holding

/-- A Visual mode is left with its selection deleted, or with one that the leaving collapses. -/
theorem leave_visual (steady : e.Steady chords) (idle : e.queue = [])
    (visual : e.mode = .visual ∨ e.mode = .visualLine) {m : VisualMode} {strokes : List Keystroke}
    {target : Mode} (leaves : m.consumed = true → target = .normal ∨ target = .insert)
    (caret : (Control.injectAll (Control.injectAll e.control strokes)
      (if m.consumed then [] else [.plain .left])).draft.IsCaret) (press : KeyPress) (now : Nat) :
    Outcome chords e press (((e.withSelecting m).inject strokes).setMode target now, true) := by
  have outside : e.mode ≠ .normal ∧ e.mode ≠ .insert := by
    rcases visual with mode | mode <;> rw [mode] <;> exact ⟨nofun, nofun⟩
  let here := (e.withSelecting m).inject strokes
  have selecting : here.selecting = m := selecting_withSelecting e m
  by_cases same : target = e.mode
  · have kept : m.consumed = false := by
      cases consumed : m.consumed with
      | false => rfl
      | true =>
          rcases leaves consumed with normal | insert
          · exact absurd (same.symm.trans normal) outside.1
          · exact absurd (same.symm.trans insert) outside.2
    rw [show here.setMode target now = here from if_pos same]
    exact steady.stay_visual idle visual kept strokes press
  · have orderlyHere := (steady.orderly.withSelecting m).inject strokes
    have orderly := orderlyHere.setMode idle target now
    have collapsed : target = .normal ∨ target = .insert →
        (here.setMode target now).control.draft.IsCaret := by
      intro ends
      rw [control_setMode_of_visual (e := here) visual ends, selecting]
      exact caret
    refine ⟨⟨orderly, (steady.bounds.injectAll _).reaches (reaches_setMode _ _ _), fun inside => ?_,
      fun waiting => ?_, fun held holding => ?_, ?_⟩, nofun, fun rests => ?_⟩
    · exact collapsed (.inr ((mode_setMode here target now).symm.trans inside))
    · refine collapsed (.inl ?_)
      by_cases normal : target = .normal
      · exact normal
      · have away : (here.setMode target now).mode ≠ .normal := by
          rwa [mode_setMode]
        exact absurd (orderly.idle_of_away away) waiting
    · rw [orderlyHere.held_setMode same] at holding
      cases holding
    · have others := steady.unconsumed.others visual m
      exact unconsumed_setMode (e := here) same others.1 others.2 now
    · exact absurd rests (not_rests_setMode (e := here) (.inr outside.1) now)

theorem answer_visual (steady : e.Steady chords) (idle : e.queue = [])
    (visual : e.mode = .visual ∨ e.mode = .visualLine) (press : KeyPress) (now : Nat) :
    Outcome chords e press (e.answer press now) := by
  have unconsumed := steady.unconsumed.selecting
  rcases visual_cases visual press now with ⟨m, strokes, kept, answered⟩ |
    ⟨m, target, deleted, leaves, answered⟩ | ⟨m, strokes, target, kept, _, away, answered⟩
  · rw [answered]
    exact steady.stay_visual idle visual (kept.trans unconsumed) strokes press
  · rw [answered]
    refine steady.leave_visual idle visual (fun _ => leaves) ?_ press now
    rw [deleted]
    exact (EndsInCaret.single rfl).isCaret _
  · rw [answered]
    rw [unconsumed] at kept
    refine steady.leave_visual idle visual (fun consumed => ?_) ?_ press now
    · cases kept.symm.trans consumed
    · rw [kept]
      exact (EndsInCaret.single rfl).isCaret _

theorem withDetector (steady : e.Steady chords) (inside : e.mode = .insert) {d : Detector Response}
    (orderly : (e.withDetector d).Orderly chords)
    (held : ∀ held, d.held = some held → held.press.replay.collapses = true) :
    (e.withDetector d).Steady chords :=
  ⟨orderly, steady.bounds, fun _ => steady.inserting inside, fun _ => steady.inserting inside, held,
    steady.unconsumed⟩

/-- With no key held, leaving Insert mode sends nothing at once. -/
theorem leave_insert (steady : e.Steady chords) (inside : e.mode = .insert)
    (free : e.detector.held = none) (before : Editor TextField) (press : KeyPress) (target : Mode)
    (now : Nat) : Outcome chords before press (e.setMode target now, true) := by
  have typing := steady.orderly.inserting inside
  have caret := steady.inserting inside
  by_cases away : target = .insert
  · rw [away, ← inside, setMode_self]
    refine ⟨steady, nofun, fun rests => ?_⟩
    cases inside.symm.trans rests.1
  · have left := typing.left_setMode away now
    have outside : e.mode ≠ .normal := by rw [inside]; nofun
    have kept : (e.setMode target now).control = e.control := by
      rw [left.control, heldStrokes_of_free free]
      rfl
    refine ⟨⟨steady.orderly.setMode typing.idle target now, by rw [kept]; exact steady.bounds,
      fun _ => by rw [kept]; exact caret, fun _ => by rw [kept]; exact caret, fun held holding => ?_,
      steady.unconsumed.setMode target now⟩, nofun, fun rests => absurd rests (not_rests_setMode (.inr outside) now)⟩
    cases left.free.symm.trans holding

/-- An answer that stays in Insert mode. -/
theorem stay_insert (steady : e.Steady chords) (inside : e.mode = .insert) (before : Editor TextField)
    {press : KeyPress} (types : press.replay.collapses = true) (kept : Bool) :
    Outcome chords before press (e, kept) := by
  refine ⟨steady, fun _ => ⟨inside, types⟩, fun rests => ?_⟩
  cases inside.symm.trans rests.1

theorem answer_insert (steady : e.Steady chords) (inside : e.mode = .insert) {press : KeyPress}
    (typed : press.synthetic = false) (types : press.isEscape = true ∨ press.replay.collapses = true)
    (now : Nat) : Outcome chords e press (e.answer press now) := by
  have typing := steady.orderly.inserting inside
  have caret := steady.inserting inside
  have freed : ∀ {d : Detector Response}, d.held = none → d.chords = e.detector.chords →
      (e.withDetector d).Steady chords := by
    intro d free same
    exact steady.withDetector inside (steady.orderly.withDetector inside same (by simp [free]))
      (by simp [free])
  cases escape : press.isEscape with
  | true =>
      rw [answer_escape_of_insert inside escape typed]
      have flushed : (Control.injectAll e.control e.heldStrokes).draft.IsCaret :=
        steady.isCaret_heldStrokes caret
      have closed := (freed (Detector.held_cancel _) (Detector.chords_cancel _)).inject flushed
      exact closed.leave_insert inside (Detector.held_cancel _) e press .normal now
  | false =>
      have collapses : press.replay.collapses = true := types.resolve_left (by rw [escape]; nofun)
      rcases typing.answer_cases typed escape now with
        ⟨held, target, d, _, free, same, _, answered⟩ | ⟨held, d, holding, free, same, _, answered⟩ |
        ⟨chord, d, listed, _, waiting, same, answered⟩ | ⟨d, _, free, same, answered⟩
      · rw [answered]
        exact (freed free same).leave_insert inside free e press target now
      · rw [answered]
        have released := (EndsInCaret.single (steady.held held holding)).isCaret e.control
        exact stay_insert ((freed free same).inject released) inside e collapses false
      · have orderly := (steady.orderly.answer_insert inside typed now).1
        rw [answered] at orderly ⊢
        refine stay_insert (steady.withDetector inside orderly fun held holding => ?_) inside e collapses true
        cases waiting.symm.trans holding
        exact collapses
      · rw [answered]
        exact stay_insert (freed free same) inside e collapses false

theorem answer (steady : e.Steady chords) (idle : e.queue = []) {press : KeyPress}
    (typed : press.synthetic = false) (types : press.isEscape = true ∨ press.replay.collapses = true)
    (now : Nat) : Outcome chords e press (e.answer press now) := by
  cases mode : e.mode with
  | normal => exact steady.answer_normal idle mode press now
  | insert => exact steady.answer_insert mode typed types now
  | visual => exact steady.answer_visual idle (.inl mode) press now
  | visualLine => exact steady.answer_visual idle (.inr mode) press now

theorem typed_cases {press : KeyPress} (typed : press.Typed) :
    press.synthetic = false ∧ (press.isEscape = true ∨ press.replay.collapses = true) := by
  rcases typed with rfl | ⟨c, found⟩
  · exact ⟨rfl, .inl rfl⟩
  · exact ⟨(KeyPress.plain_of_ofChar? found).1, .inr (KeyPress.collapses_replay found)⟩

theorem deliver (steady : e.Steady chords) {press : KeyPress} (typed : press.Typed) (now : Nat) :
    let caught := e.caughtUp (e.overdue now)
    (e.deliver press now).1.Steady chords ∧
      ((e.deliver press now).1.Rests →
        caught.Restores press ∨ caught.Rests ∧ (e.deliver press now).1.control = caught.control) := by
  intro caught
  obtain ⟨physical, types⟩ := typed_cases typed
  have outcome : Outcome chords caught press (e.key press now) := by
    rw [steady.orderly.key_eq physical]
    exact (steady.caughtUp _).answer (steady.orderly.queue_caughtUp _) physical types now
  cases kept : (e.key press now).2 with
  | true =>
      rw [deliver_of_kept e press now kept]
      exact ⟨outcome.steady, outcome.rests⟩
  | false =>
      obtain ⟨inside, collapses⟩ := outcome.passed kept
      have after := outcome.steady
      have caret := TextField.isCaret_press (e.key press now).1.control collapses
      rw [deliver_of_passed e press now kept physical]
      refine ⟨⟨after.orderly.receive _, after.bounds.press _, fun _ => caret, fun _ => caret, after.held,
        after.unconsumed⟩, fun rests => ?_⟩
      cases inside.symm.trans rests.1

/-- If the editor rests after an input, it shows a block, or the input was an undo or a redo, or it
rested before and nothing happened to the field. -/
theorem take (steady : e.Steady chords) {input : Input}
    (typed : ∀ key, input.key? = some key → key.1.Typed) :
    (e.take input).Steady chords ∧
      ((e.take input).Rests →
        (e.take input).control.selection.length ≤ 1 ∨
        (∃ press now, input = .key press now ∧ e.Restores press) ∨
        e.Rests ∧ (e.take input).control = e.control) := by
  cases input with
  | tick now =>
      refine ⟨steady.tick now, fun rests => ?_⟩
      have same : e.take (.tick now) = e.tick now := rfl
      rw [same] at rests ⊢
      rcases steady.orderly.tick_cases now with ⟨ticked, _⟩ | ticked
      · rw [ticked] at rests ⊢
        exact .inr (.inr ⟨rests, rfl⟩)
      · rw [ticked] at rests ⊢
        rcases steady.narrow_caughtUp rests with narrow | nothing
        · exact .inl narrow
        · rw [nothing] at rests ⊢
          exact .inr (.inr ⟨rests, rfl⟩)
  | key press now =>
      obtain ⟨after, outcome⟩ := steady.deliver (typed _ rfl) now
      refine ⟨after, fun rests => ?_⟩
      rcases outcome rests with ⟨normal, plain, restores⟩ | ⟨rested, kept⟩
      · right
        left
        rw [steady.orderly.mode_caughtUp] at normal
        rw [steady.orderly.normal_caughtUp] at restores
        exact ⟨press, now, rfl, normal, plain, restores⟩
      · have same : (e.take (.key press now)).control = (e.caughtUp (e.overdue now)).control := kept
        rw [same]
        rcases steady.narrow_caughtUp rested with narrow | nothing
        · exact .inl narrow
        · rw [nothing] at rested ⊢
          exact .inr (.inr ⟨rested, rfl⟩)

end Steady

end Editor

namespace Editor

/-- The last key that did anything to the control was an undo or a redo. -/
def RestoredBy {κ : Type} [Target κ] (start : Editor κ) (inputs : List Input) : Prop :=
  ∃ before press now after, inputs = before ++ .key press now :: after ∧
    (start.run before).Restores press ∧
    (start.run inputs).control = (start.run (before ++ [.key press now])).control

theorem Steady.run {chords : List ChordSetting} {start : Editor TextField} (steady : start.Steady chords)
    (narrow : start.control.selection.length ≤ 1) {inputs : List Input}
    (typed : ∀ press ∈ presses inputs, press.Typed) :
    (start.run inputs).Steady chords ∧
      ((start.run inputs).Rests →
        (start.run inputs).control.selection.length ≤ 1 ∨ start.RestoredBy inputs) := by
  induction inputs using List.reverseRecOn with
  | nil => exact ⟨steady, fun _ => .inl narrow⟩
  | append_singleton before input ih =>
      rw [presses_append] at typed
      obtain ⟨here, earlier⟩ := ih fun press listed => typed press (List.mem_append_left _ listed)
      have typedLast : ∀ key, input.key? = some key → key.1.Typed := by
        intro key found
        refine typed key.1 (List.mem_append_right _ (List.mem_map_of_mem ?_))
        exact List.mem_filterMap.mpr ⟨input, List.mem_singleton_self _, found⟩
      obtain ⟨after, outcome⟩ := here.take typedLast
      have last : start.run (before ++ [input]) = (start.run before).take input := run_append _ _ _
      rw [last]
      refine ⟨after, fun rests => ?_⟩
      rcases outcome rests with narrow | ⟨press, now, rfl, restores⟩ | ⟨rested, kept⟩
      · exact .inl narrow
      · exact .inr ⟨before, press, now, [], rfl, restores, rfl⟩
      · rcases earlier rested with narrow | ⟨first, press, now, later, rfl, restores, same⟩
        · left
          rw [kept]
          exact narrow
        · refine .inr ⟨first, press, now, later ++ [input], ?_, restores, ?_⟩
          · rw [List.append_assoc, List.cons_append]
          · rw [last, kept, same]

/-- At rest in Normal mode at most one character is selected, unless nothing has been done to the field
since an undo or a redo. This is about runs to the end of which the editor works: no command had more strokes than
can be counted. -/
theorem block_or_restored (settings : Settings) {field : TextField} (starts : settings.startMode = .normal)
    (bounds : field.InBounds) (narrow : field.selection.length ≤ 1) {inputs : List Input}
    (typed : ∀ press ∈ presses inputs, press.Typed) :
    let start := settings.editor field
    let e := start.run inputs
    e.failed = false → e.mode = .normal → e.deadline? = none →
      e.control.selection.length ≤ 1 ∨ start.RestoredBy inputs := by
  intro start e _ normal done
  have steady : start.Steady settings.chords := by
    refine ⟨Orderly.start settings field, bounds, fun inside => ?_, fun waiting => absurd rfl waiting,
      nofun, rfl, rfl⟩
    cases starts.symm.trans inside
  obtain ⟨ended, outcome⟩ := steady.run narrow typed
  exact outcome ⟨normal, queue_of_deadline_none done⟩

/-- A word forward, a change to the end of the line, Escape, and time for the block to show. -/
theorem block_or_restored_of_change :
    let keys := KeyPress.ofText "wCx".toList
    let inputs : List Input := keys.map (.key · 0) ++ [.key .escape 10, .tick 100]
    let start := { Settings.usual with startMode := .normal }.editor
      ((TextField.ofText "one two".toList).select ⟨0, 1⟩)
    (start.run inputs).control.text = "one x".toList ∧
      ((start.run inputs).control.selection.length ≤ 1 ∨ start.RestoredBy inputs) := by
  intro keys inputs start
  have typed : ∀ press ∈ presses inputs, press.Typed := by
    intro press listed
    have split : presses inputs = keys ++ [.escape] := rfl
    rw [split] at listed
    rcases List.mem_append.mp listed with character | escape
    · exact KeyPress.typed_of_mem_ofText character
    · exact .inl (List.mem_singleton.mp escape)
  refine ⟨by decide +kernel, ?_⟩
  exact block_or_restored { Settings.usual with startMode := .normal } rfl
    (TextField.inBounds_select (TextField.inBounds_ofText _) _) (by decide) typed (by decide +kernel)
    (by decide +kernel) (by decide +kernel)

/-- An undo brings back the selection that a deletion of the line went through. -/
theorem undo_restores_selected_line :
    let keys := KeyPress.ofText "ddu".toList
    let inputs : List Input := keys.map (.key · 0)
    let settings := { Settings.usual with startMode := .normal }
    let field := (TextField.ofText "hello".toList).select ⟨0, 1⟩
    let e := (settings.editor field).run inputs
    settings.fault? = none ∧ field.selection.length ≤ 1 ∧ (∀ press ∈ presses inputs, press.Typed) ∧
      e.failed = false ∧ e.mode = .normal ∧ e.deadline? = none ∧ e.control.selection.length = 5 := by
  intro keys inputs settings field e
  have typed : ∀ press ∈ presses inputs, press.Typed := by
    intro press listed
    have same : presses inputs = keys := rfl
    rw [same] at listed
    exact KeyPress.typed_of_mem_ofText listed
  exact ⟨by decide +kernel, by decide, typed, by decide +kernel, by decide +kernel, by decide +kernel,
    by decide +kernel⟩

end Editor

end ModalKeys
