import ModalKeys.Proofs.Editor.Editing

/-!
# There and back

Into another mode and back again: on one way the character behind the caret becomes the block, and on the
other a left arrow collapses the block onto its start. Behind the last character there is no block to show,
and the arrow then takes the caret one character back.
-/

namespace ModalKeys

/-- Time may pass before the first key and after it. -/
theorem exists_silent_of_presses {inputs : List Input} {press : KeyPress} {others : List KeyPress}
    (typed : presses inputs = press :: others) :
    ∃ silent now rest, inputs = silent ++ .key press now :: rest ∧ presses silent = [] ∧
      presses rest = others ∧ now ∈ keyTimes inputs := by
  induction inputs with
  | nil => cases typed
  | cons input inputs ih =>
      cases input with
      | key first now =>
          obtain ⟨rfl, remaining⟩ := List.cons.inj typed
          exact ⟨[], now, inputs, rfl, rfl, remaining, List.mem_cons_self⟩
      | tick early =>
          obtain ⟨silent, now, rest, rfl, quiet, remaining, timed⟩ := ih typed
          exact ⟨.tick early :: silent, now, rest, rfl, quiet, remaining, timed⟩

/-- Whatever a Visual mode has gathered, it stays the kind that it is. -/
theorem VisualMode.kind_key (m : VisualMode) (press : KeyPress) : (m.key press).1.kind = m.kind := by
  rcases m.key_cases press with ⟨target, _, heard⟩ | heard | heard | heard
  · rw [heard]
  · rw [heard]
  · rw [heard]
    rcases m.gather_cases press.name with ⟨keys, gathered⟩ | ⟨strokes, gathered⟩ | ⟨target, _, gathered⟩ <;>
      rw [gathered] <;> rfl
  · rw [heard]
    rfl

namespace ModeSet

def kinds (s : ModeSet) : VisualKind × VisualKind := (s.visual.kind, s.visualLine.kind)

theorem kinds_exit (s : ModeSet) (mode : Mode) : (s.exit mode).1.kinds = s.kinds := by
  cases mode <;> rfl

theorem kinds_enter (s : ModeSet) (mode origin : Mode) : (s.enter mode origin).1.kinds = s.kinds := by
  cases mode <;> rfl

theorem kinds_tick (s : ModeSet) (mode : Mode) (now : Nat) : (s.tick mode now).1.kinds = s.kinds := by
  cases mode <;> rfl

theorem kinds_flush (s : ModeSet) (mode : Mode) : (s.flush mode).1.kinds = s.kinds := by
  cases mode <;> rfl

theorem kinds_key (s : ModeSet) (mode : Mode) (press : KeyPress) (now : Nat) :
    (s.key mode press now).1.kinds = s.kinds := by
  cases mode with
  | normal | insert => rfl
  | visual => exact congrArg (·, s.visualLine.kind) (s.visual.kind_key press)
  | visualLine => exact congrArg (s.visual.kind, ·) (s.visualLine.kind_key press)

end ModeSet

namespace Editor

section Kinds

variable {κ : Type} [Control κ]

theorem kinds_setMode (e : Editor κ) (mode : Mode) (now : Nat) :
    (e.setMode mode now).modes.kinds = e.modes.kinds := by
  by_cases same : mode = e.mode
  · rw [same, setMode_self]
  · rw [setMode_eq e same]
    exact (ModeSet.kinds_enter _ mode e.mode).trans (e.modes.kinds_exit e.mode)

theorem leavesKeep_kinds (kinds : VisualKind × VisualKind) (now : Nat) :
    LeavesKeep now fun e : Editor κ => e.modes.kinds = kinds where
  leaf {e} leaf isLeaf same := by
    refine Eq.trans ?_ same
    cases leaf with
    | switchMode mode => exact kinds_setMode e mode now
    | run counted => exact congrArg ModeSet.kinds (modes_execute e counted now).2
    | all responses => exact isLeaf.elim
    | inject _ | defer _ | consume | passThrough => rfl
  queue _ same := same

theorem kinds_respond (response : Response) (e : Editor κ) (now : Nat) :
    (respond response e now).1.modes.kinds = e.modes.kinds :=
  (leavesKeep_kinds e.modes.kinds now).respond response rfl

theorem kinds_runDue (e : Editor κ) (now : Nat) : (e.runDue now).modes.kinds = e.modes.kinds :=
  (leavesKeep_kinds e.modes.kinds now).runDue rfl

theorem kinds_runDeferred (e : Editor κ) (now : Nat) :
    (e.runDeferred now).modes.kinds = e.modes.kinds :=
  (leavesKeep_kinds e.modes.kinds now).runDeferred rfl

theorem kinds_tick (e : Editor κ) (now : Nat) : (e.tick now).modes.kinds = e.modes.kinds :=
  (ModeSet.kinds_tick _ _ now).trans (e.kinds_runDue now)

theorem kinds_answer (e : Editor κ) (press : KeyPress) (now : Nat) :
    (e.answer press now).1.modes.kinds = e.modes.kinds := by
  unfold answer
  dsimp only
  split
  · exact e.modes.kinds_key e.mode press now
  · exact (kinds_respond _ _ now).trans (e.modes.kinds_key e.mode press now)

theorem kinds_key (e : Editor κ) (press : KeyPress) (now : Nat) :
    (e.key press now).1.modes.kinds = e.modes.kinds := by
  have ticked := e.kinds_tick now
  unfold key
  dsimp only
  split
  · split
    · exact (kinds_answer _ press now).trans ticked
    · exact ticked
  · exact (kinds_answer _ press now).trans ((kinds_runDeferred _ now).trans ticked)

/-- Whatever is done to an editor, it keeps one Visual mode of each kind. -/
theorem Reached.kinds {settings : Settings} {allowed : Operation → Prop} {e : Editor κ}
    (reached : e.Reached settings allowed) : e.modes.kinds = (.charwise, .linewise) := by
  induction reached with
  | start control => rfl
  | @operate e _ operation _ ih =>
      have kept : (e.operate operation).modes.kinds = e.modes.kinds := by
        cases operation with
        | key press now => exact e.kinds_key press now
        | tick now => exact e.kinds_tick now
        | setMode mode now => exact e.kinds_setMode mode now
        | execute response now => exact kinds_respond response e now
        | shutdown => exact e.modes.kinds_flush e.mode
      exact kept.trans ih
  | changed _ control ih => exact ih

end Kinds

section Block

variable {κ : Type} [Target κ] {e : Editor κ}

/-! ## The block that is still to come -/

variable (normal : e.mode = .normal) {due : Nat} {strokes : List Keystroke}
  (queued : e.queue = [⟨due, .injectAll strokes⟩])

include normal queued

theorem ready_of_block (now : Nat) : e.ready now = { e with queue := [] }.inject strokes := by
  have ticked : e.run [.tick now] = e ∨ e.run [.tick now] = { e with queue := [] }.inject strokes :=
    run_of_deferred_cases normal queued rfl
  change (e.run [.tick now]).runDeferred now = _
  rcases ticked with waiting | shown
  · rw [waiting, runDeferred_of_injectAll queued]
  · rw [shown, runDeferred_of_idle rfl]

/-- A key finds the block shown, whether or not time has passed before. -/
theorem deliver_of_block {silent : List Input} (quiet : presses silent = []) {press : KeyPress}
    (typed : press.synthetic = false) (now : Nat) :
    (e.run silent).deliver press now = ({ e with queue := [] }.inject strokes).deliver press now := by
  let shown := { e with queue := [] }.inject strokes
  have rests : shown.Rests := ⟨normal, rfl⟩
  have ready : (e.run silent).ready now = shown.ready now := by
    have done : shown.ready now = shown := by
      rw [ready, rests.tick, runDeferred_of_idle rfl]
    rw [done]
    rcases run_of_deferred_cases normal queued quiet with waiting | ran
    · rw [waiting, ready_of_block normal queued]
    · rw [ran]
      exact done
  have same : (e.run silent).key press now = shown.key press now := by
    rw [key_of_typed _ typed, key_of_typed _ typed, ready]
  change (e.run silent).deliver press now = shown.deliver press now
  unfold deliver
  rw [same]

theorem run_of_block {silent : List Input} (quiet : presses silent = []) {later : Nat}
    (reached : due ≤ later) :
    e.run (silent ++ [.tick later]) = { e with queue := [] }.inject strokes := by
  have shown : Rests ({ e with queue := [] }.inject strokes) := ⟨normal, rfl⟩
  rw [run_append]
  change (e.run silent).tick later = _
  rcases run_of_deferred_cases normal queued quiet with waiting | ran
  · have away : e.mode ≠ .insert := by rw [normal]; nofun
    rw [waiting, tick, runDue_of_injectAll queued, if_pos reached]
    dsimp only
    rw [mode_inject, ModeSet.tick_of_away _ away]
    rfl
  · rw [ran, shown.tick]

end Block

section Modes

variable {κ : Type} [Target κ] {e : Editor κ}

/-- Escape without a held key sends nothing; the block is to come. -/
theorem left_by_escape (inside : e.mode = .insert) (idle : e.queue = []) (free : e.detector.held = none)
    (now : Nat) :
    let left := (e.deliver .escape now).1
    left.mode = .normal ∧ left.modes.normal.keys = [] ∧ left.detector.held = none ∧
      left.queue = [⟨now + e.settle, .injectAll [.shifted .right]⟩] ∧ left.control = e.control := by
  intro left
  let here := e.withDetector e.detector.cancel.1
  have mode : here.mode = .insert := inside
  have away : Mode.normal ≠ here.mode := by rw [mode]; nofun
  have vacant : here.detector.held = none := Detector.held_cancel _
  have ready : e.ready now = e := by
    rw [ready, tick_of_vacant inside idle free, runDeferred_of_idle idle]
  have answered : e.key .escape now = (here.setMode .normal now, true) := by
    rw [key_of_typed e rfl, ready, answer_escape_of_insert inside rfl rfl, heldStrokes_of_free free,
      inject_nil]
  have gone : left = here.setMode .normal now := by
    change (e.deliver .escape now).1 = _
    rw [deliver_of_kept e .escape now (congrArg Prod.snd answered), answered]
  rw [gone]
  refine ⟨mode_setMode here .normal now, ?_, ?_, ?_, ?_⟩
  · rw [setMode_eq here away]
    rfl
  · rw [detector_setMode here away, if_pos mode]
    exact Detector.held_cancel _
  · rw [queue_setMode here away, show here.queue = [] from idle]
    rfl
  · rw [control_setMode here away, mode, here.modes.exit_insert_of_free vacant]
    rfl

/-- The key of an entry changes the mode, and the caret is put where the entry says. -/
theorem Rests.deliver_of_entry (rests : e.Rests) (fresh : e.modes.normal.keys = []) {c : Char}
    {press : KeyPress} (found : KeyPress.ofChar? c = some press) (other : c.isDigit = false) {entry : Entry}
    (single : singleKey? (String.singleton c) = some (.entry entry)) (now : Nat) :
    (e.deliver press now).1 = (e.setMode entry.target now).inject entry.positioning := by
  obtain ⟨typed, plain, name⟩ := KeyPress.plain_of_ofChar? found
  have decimal : ∀ c ∈ ([] : List Char), c.isDigit = true := nofun
  have read := e.modes.normal.reader.read_single decimal ((isDigitKey_singleton c).trans other) single
  rw [← name] at read
  have gathered : e.modes.normal.keys ++ [press.name] = [].map String.singleton ++ [press.name] := by
    rw [fresh]
    rfl
  rw [← gathered] at read
  have cleared : e.withNormal e.modes.normal.cleared = e := by
    rw [NormalMode.cleared, ← fresh]
    rfl
  rw [rests.deliver_of_complete typed plain read, cleared, respond_of_entry rfl]

/-- Whether or not the block has been shown in between, it is shown and taken back. -/
theorem run_to_normal_and_back (inside : e.mode = .insert) (idle : e.queue = [])
    (free : e.detector.held = none) {inputs : List Input}
    (typed : presses inputs = .escape :: KeyPress.ofText ['i']) :
    let after := e.run inputs
    after.mode = .insert ∧ after.deadline? = none ∧
      after.control = Control.injectAll e.control [.shifted .right, .plain .left] := by
  intro after
  let i : KeyPress := ⟨"i", ⟨0x22⟩, false⟩
  have key : KeyPress.ofText ['i'] = [i] := by decide
  rw [key] at typed
  obtain ⟨first, now, rest, split, quiet, others, _⟩ := exists_silent_of_presses typed
  obtain ⟨second, later, last, resplit, silent, nothing, _⟩ := exists_silent_of_presses others
  obtain ⟨mode, fresh, vacant, queued, control⟩ := left_by_escape inside idle free now
  let left := (e.deliver .escape now).1
  let shown := { left with queue := [] }.inject [.shifted .right]
  have rests : shown.Rests := ⟨mode, rfl⟩
  have entered : (shown.deliver i later).1 = (shown.setMode .insert later).inject [] :=
    rests.deliver_of_entry fresh (by decide : KeyPress.ofChar? 'i' = some i) rfl rfl later
  have ran : after = ((shown.setMode .insert later).inject []).run last := by
    change e.run inputs = _
    rw [split, resplit, run_append, run_of_still (tick_of_vacant inside idle free) quiet, run_cons,
      run_append, run_cons]
    change ((left.run second).deliver i later).1.run last = _
    rw [deliver_of_block mode queued silent rfl, entered]
  obtain ⟨done, back⟩ := rests.run_of_inserting vacant [] later nothing
  rw [ran]
  refine ⟨done.inside, done.deadline, back.trans ?_⟩
  change Control.inject (Control.inject left.control _) _ = _
  rw [control]
  rfl

/-- The charwise kind is entered with the block as its selection. -/
theorem entered_by_v (rests : e.Rests) (charwise : e.modes.visual.kind = .charwise) (now : Nat) :
    let entered := e.setMode .visual now
    entered.mode = .visual ∧ entered.queue = [] ∧ entered.selecting.consumed = false ∧
      entered.settle = e.settle ∧ entered.control = e.control := by
  obtain ⟨mode, idle, settle, selecting, control⟩ := rests.entered_visual (.inl ⟨rfl, rfl⟩) now
  have nothing : (e.modes.visual.enter .normal).2 = .empty := by
    simp only [VisualMode.enter, charwise]
  refine ⟨mode, idle, ?_, settle, ?_⟩
  · rw [selecting]
    rfl
  · rw [control, nothing]
    rfl

/-- Escape collapses the selection, and the block is to come. -/
theorem left_visual_by_escape (visual : e.mode = .visual) (idle : e.queue = [])
    (unconsumed : e.selecting.consumed = false) (now : Nat) :
    let left := (e.deliver .escape now).1
    left.mode = .normal ∧ left.queue = [⟨now + e.settle, .injectAll [.shifted .right]⟩] ∧
      left.control = Control.inject e.control (.plain .left) := by
  intro left
  let here := e.withSelecting e.selecting.cleared
  have mode : here.mode = .visual := visual
  have away : Mode.normal ≠ here.mode := by rw [mode]; nofun
  have answered : e.key .escape now = (here.setMode .normal now, true) := by
    rw [key_of_idle (by rw [visual]; nofun) idle rfl, answer_of_visual (.inl visual)]
    rfl
  have gone : left = here.setMode .normal now := by
    change (e.deliver .escape now).1 = _
    rw [deliver_of_kept e .escape now (congrArg Prod.snd answered), answered]
  rw [gone]
  refine ⟨mode_setMode here .normal now, ?_, ?_⟩
  · rw [queue_setMode here away, show here.queue = [] from idle]
    rfl
  · have selection : here.selecting.consumed = false := by
      rw [selecting_withSelecting]
      exact unconsumed
    rw [control_setMode_of_visual (.inl mode) (.inl rfl), selection]
    rfl

/-- A selection that nothing was done to is collapsed, and the block is shown where it began. -/
theorem run_to_visual_and_back (rests : e.Rests) (fresh : e.modes.normal.keys = [])
    (charwise : e.modes.visual.kind = .charwise) {inputs : List Input}
    (typed : presses inputs = KeyPress.ofText ['v'] ++ [.escape]) {later : Nat}
    (waited : ∀ time ∈ keyTimes inputs, time + e.settle ≤ later) :
    let after := e.run (inputs ++ [.tick later])
    after.mode = .normal ∧ after.deadline? = none ∧
      after.control = Control.injectAll e.control [.plain .left, .shifted .right] := by
  intro after
  let v : KeyPress := ⟨"v", .v, false⟩
  have key : KeyPress.ofText ['v'] ++ [.escape] = [v, .escape] := by decide
  rw [key] at typed
  obtain ⟨first, now, rest, rfl, quiet, others, _⟩ := exists_silent_of_presses typed
  obtain ⟨second, last, remaining, rfl, silent, nothing, timed⟩ := exists_silent_of_presses others
  obtain ⟨visual, idle, unconsumed, settle, control⟩ := entered_by_v rests charwise now
  let entered := e.setMode .visual now
  have chosen : (e.deliver v now).1 = entered :=
    rests.deliver_of_entry fresh (by decide : KeyPress.ofChar? 'v' = some v) rfl rfl now
  obtain ⟨normal, queued, collapsed⟩ := left_visual_by_escape visual idle unconsumed last
  let left := (entered.deliver .escape last).1
  have reached : last + entered.settle ≤ later := by
    rw [settle]
    exact waited last (by simp [keyTimes, typedKeys, Input.key?])
  have still : ∀ now, entered.tick now = entered := tick_of_idle (by rw [visual]; decide) idle
  have ran : after = { left with queue := [] }.inject [.shifted .right] := by
    change e.run _ = _
    rw [List.append_assoc, List.cons_append, run_append, rests.run_of_silent quiet, run_cons]
    change (e.deliver v now).1.run _ = _
    rw [chosen, List.append_assoc, List.cons_append, run_append, run_of_still still silent, run_cons]
    exact run_of_block normal queued nothing reached
  have rested : after.Rests := by
    rw [ran]
    exact ⟨normal, rfl⟩
  refine ⟨rested.1, rested.deadline, ?_⟩
  rw [ran]
  change Control.inject left.control _ = _
  rw [collapsed, control]
  rfl

end Modes

variable {e : Editor TextField}

/-- The block is shown at a caret and taken back. -/
theorem selection_there_and_back {f : TextField} (bounds : f.draft.InBounds)
    (caret : f.selection.length = 0) :
    (Control.injectAll f [.shifted .right, .plain .left]).selection =
      ⟨if f.selection.offset < f.text.length then f.selection.offset else f.selection.offset - 1, 0⟩ := by
  let shown := Control.inject f (.shifted .right)
  have within : f.selection.offset ≤ f.text.length := Draft.start_le_length bounds
  have draft : shown.draft = ⟨f.text, f.selection.offset, min (f.selection.offset + 1) f.text.length⟩ := by
    have there := TextField.draft_shiftRight f
    rwa [Draft.eq_of_length_eq_zero caret] at there
  have inside : shown.draft.InBounds := by
    rw [draft]
    exact ⟨within, Nat.min_le_right _ _⟩
  have back : (Control.inject shown (.plain .left)).draft = ⟨_, _, _⟩ := Motion.draft_left inside
  change (Control.inject shown (.plain .left)).draft.selection = _
  rw [back, Draft.selection_caret, draft, Draft.leftward_shown within]

/-- A block or a caret is collapsed, and the block is shown behind it. -/
theorem selection_back_and_there {f : TextField} (bounds : f.draft.InBounds)
    (block : f.selection.length ≤ 1) :
    (Control.injectAll f [.plain .left, .shifted .right]).selection =
      let there := if f.selection.length = 1 then f.selection.offset else f.selection.offset - 1
      ⟨there, min 1 (f.text.length - there)⟩ := by
  let collapsed := Control.inject f (.plain .left)
  have left : collapsed.draft = ⟨f.text, f.draft.leftward, f.draft.leftward⟩ := Motion.draft_left bounds
  have within : f.draft.leftward ≤ f.text.length :=
    Nat.le_trans f.draft.leftward_le (Draft.start_le_length bounds)
  have shown : (Control.inject collapsed (.shifted .right)).draft = ⟨_, _, _⟩ :=
    TextField.draft_shiftRight collapsed
  change (Control.inject collapsed (.shifted .right)).draft.selection = _
  rw [shown, left, Draft.selection_shown within, Draft.leftward_of_block block]
  rfl

/-- Escape and `i`, and `v` and Escape, leave the text, the clipboard and the history as they are. The cursor
is where it was if there is a character behind the caret, or a block to begin with, and otherwise one
character before that. -/
theorem mode_round_trip_iff (settings : Settings) {e : Editor TextField}
    (reached : e.Reached settings fun _ => True) (idle : e.queue = []) (bounds : e.control.draft.InBounds)
    {inputs : List Input} :
    let text := e.control.text
    let cursor := e.control.selection.offset
    (e.mode = .insert → e.detector.held = none → e.control.selection.length = 0 →
      presses inputs = .escape :: KeyPress.ofText ['i'] →
      let after := e.run inputs
      after.mode = .insert ∧ after.deadline? = none ∧ TextField.SameContent e.control after.control ∧
        after.control.selection = ⟨if cursor < text.length then cursor else cursor - 1, 0⟩ ∧
        (after.control.selection.offset = cursor ↔ cursor < text.length ∨ cursor = 0)) ∧
    (e.mode = .normal → e.modes.normal.keys = [] → e.control.selection.length ≤ 1 →
      presses inputs = KeyPress.ofText ['v'] ++ [.escape] →
      ∀ later, (∀ time ∈ keyTimes inputs, time + e.settle ≤ later) →
      let after := e.run (inputs ++ [.tick later])
      let there := if e.control.selection.length = 1 then cursor else cursor - 1
      after.mode = .normal ∧ after.deadline? = none ∧ TextField.SameContent e.control after.control ∧
        after.control.selection = ⟨there, min 1 (text.length - there)⟩ ∧
        (after.control.selection.offset = cursor ↔ e.control.selection.length = 1 ∨ cursor = 0)) := by
  intro text cursor
  have moves : ∀ stroke ∈ [Keystroke.plain .left, .shifted .right], stroke.Moves :=
    List.forall_mem_cons.mpr ⟨⟨_, _, rfl⟩, List.forall_mem_singleton.mpr ⟨_, _, rfl⟩⟩
  constructor
  · intro inside free caret typed after
    obtain ⟨mode, done, control⟩ := run_to_normal_and_back inside idle free typed
    have selection := selection_there_and_back bounds caret
    rw [← control] at selection
    refine ⟨mode, done, ?_, selection, ?_⟩
    · rw [control]
      exact .injectAll e.control fun stroke listed => moves stroke (by simpa [or_comm] using listed)
    · rw [selection]
      change (if cursor < text.length then cursor else cursor - 1) = cursor ↔ _
      split <;> omega
  · intro normal fresh block typed later waited after there
    have charwise : e.modes.visual.kind = .charwise := congrArg Prod.fst reached.kinds
    obtain ⟨mode, done, control⟩ := run_to_visual_and_back ⟨normal, idle⟩ fresh charwise typed waited
    have selection := selection_back_and_there bounds block
    rw [← control] at selection
    refine ⟨mode, done, ?_, selection, ?_⟩
    · rw [control]
      exact .injectAll e.control moves
    · rw [selection]
      change (if e.control.selection.length = 1 then cursor else cursor - 1) = cursor ↔ _
      split <;> omega

/-- From a caret before the second letter and back, and from a block on the last letter and back. -/
theorem mode_round_trip_iff_of_abc :
    let text := "abc".toList
    let keys (name : Char) := KeyPress.ofText [name]
    let inserting := Settings.usual.editor ((TextField.ofText text).select ⟨1, 0⟩)
    let there : List Input := [.key .escape 0, .tick 10] ++ (keys 'i').map (.key · 20)
    let resting := { Settings.usual with startMode := .normal }.editor ((TextField.ofText text).select ⟨2, 1⟩)
    let back : List Input := (keys 'v').map (.key · 0) ++ [.key .escape 3]
    (inserting.run there).control.selection = ⟨1, 0⟩ ∧
      (resting.run (back ++ [.tick 8])).control.selection = ⟨2, 1⟩ := by
  intro text keys inserting there resting back
  have typed : presses there = .escape :: KeyPress.ofText ['i'] := by decide
  have typedBack : presses back = KeyPress.ofText ['v'] ++ [.escape] := by decide
  have waited : ∀ time ∈ keyTimes back, time + resting.settle ≤ 8 := by decide
  obtain ⟨_, _, _, caret, _⟩ := (mode_round_trip_iff Settings.usual (e := inserting) (.start _) rfl
    (Draft.inBounds_select _ _)).1 rfl rfl (by decide) typed
  obtain ⟨_, _, _, block, _⟩ := (mode_round_trip_iff { Settings.usual with startMode := .normal }
    (e := resting) (.start _) rfl (Draft.inBounds_select _ _)).2 rfl rfl (by decide) typedBack 8 waited
  exact ⟨caret.trans (by decide), block.trans (by decide)⟩

/-- Behind the last character the caret does not come back to where it was. -/
theorem caret_at_end_moves_back :
    let e := Settings.usual.editor ((TextField.ofText "abc".toList).select ⟨3, 0⟩)
    let inputs : List Input := [.key .escape 0, .tick 5] ++ (KeyPress.ofText ['i']).map (.key · 5)
    let after := e.run inputs
    e.mode = .insert ∧ e.detector.held = none ∧ e.queue = [] ∧ e.control.draft.InBounds ∧
      e.control.selection = ⟨3, 0⟩ ∧ presses inputs = .escape :: KeyPress.ofText ['i'] ∧
      after.mode = .insert ∧ after.deadline? = none ∧ after.control.selection = ⟨2, 0⟩ := by
  intro e inputs after
  exact ⟨rfl, rfl, rfl, Draft.inBounds_select _ _, by decide, by decide, by decide +kernel,
    by decide +kernel, by decide +kernel⟩

end Editor

end ModalKeys
