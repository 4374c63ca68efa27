import ModalKeys.Proofs.Normal.ThereAndBack

/-!
# Selecting lines

The linewise kind selects the line of the selection's head on entry. From then on a step down extends the
selection as it does in the charwise kind: to the same column of the next line, or to its end.
-/

namespace ModalKeys

open Text (lineStart lineEnd lineDown lineAfter lineLength columnAfter)

/-- Keys that step down a number of times, one by one or by counts. -/
inductive StepsDown (limit : Nat) : List Char → Nat → Prop where
  | none : StepsDown limit [] 0
  | more {digits keys : List Char} {count steps : Nat} (spelled : SpellsCount digits count) (positive : 1 ≤ count)
      (allowed : count ≤ limit) (rest : StepsDown limit keys steps) :
      StepsDown limit (digits ++ 'j' :: keys) (count + steps)

namespace TextField

theorem draft_extendDown (f : TextField) (count : Nat) :
    (Control.injectAll f (List.replicate count (.shifted .down))).draft =
      ⟨f.text, f.draft.anchor, (lineDown f.text)^[count] f.draft.head⟩ := by
  induction count generalizing f with
  | zero => rfl
  | succ count ih =>
      have once : (Control.inject f (.shifted .down)).draft = _ :=
        (draft_inject_of_move f rfl).trans f.draft.extend_down
      rw [List.replicate_succ, Control.injectAll_cons, ih, text, once, Function.iterate_succ_apply]
      rfl

end TextField

theorem exists_append_of_presses {inputs : List Input} {first second : List KeyPress}
    (typed : presses inputs = first ++ second) :
    ∃ one two, inputs = one ++ two ∧ presses one = first ∧ presses two = second := by
  obtain ⟨keys, others, split, rfl, rfl⟩ := List.map_eq_append_iff.mp typed
  obtain ⟨one, two, rfl, rfl, rfl⟩ := List.filterMap_eq_append_iff.mp split
  exact ⟨one, two, rfl, rfl, rfl⟩

namespace VisualMode

theorem key_of_operand (m : VisualMode) {press : KeyPress} (plain : press.isEscape = false)
    (operand : operator? press.name = none) : m.key press = m.gather press.name := by
  simp only [key, plain, operand, Bool.false_eq_true, ↓reduceIte, ite_self]

/-- The keys of a step down are no operators. -/
theorem operator?_of_step {c : Char} (step : c.isDigit = true ∨ c = 'j') :
    operator? (String.singleton c) = none := by
  rcases step with decimal | rfl
  · have none : ∀ n < 58, 48 ≤ n → operator? (String.singleton (Char.ofNat n)) = none := by decide
    obtain ⟨low, high⟩ := Char.isDigit_iff_toNat.mp decimal
    have found := none c.toNat (Nat.lt_succ_of_le high) low
    rwa [Char.ofNat_toNat] at found
  · rfl

end VisualMode

namespace Editor

section Keys

variable {κ : Type} [Target κ] {e : Editor κ}

omit [Target κ] in
theorem withSelecting_withSelecting (e : Editor κ) (m n : VisualMode) :
    (e.withSelecting m).withSelecting n = e.withSelecting n := by
  unfold withSelecting
  split <;> rfl

omit [Target κ] in
theorem withSelecting_selecting (e : Editor κ) : e.withSelecting e.selecting = e := by
  unfold withSelecting selecting
  split <;> rfl

variable (visual : e.mode = .visual ∨ e.mode = .visualLine) (idle : e.queue = [])

include visual idle

theorem tick_of_visual (now : Nat) : e.tick now = e :=
  tick_of_idle (away_of_visual visual) idle now

section Press

variable {press : KeyPress} (typed : press.synthetic = false) (plain : press.isEscape = false)
  (operand : VisualMode.operator? press.name = none) (now : Nat)

include typed plain operand

theorem key_of_operand :
    e.key press now =
      let heard := e.selecting.gather press.name
      respond heard.2 (e.withSelecting heard.1) now := by
  rw [key_of_idle (away_of_visual visual) idle typed, answer_of_visual visual, e.selecting.key_of_operand plain operand]

theorem deliver_of_gathered (read : e.selecting.reader.read (e.selecting.keys ++ [press.name]) = .pending) :
    (e.deliver press now).1 = e.withSelecting { e.selecting with keys := e.selecting.keys ++ [press.name] } := by
  have answered := key_of_operand visual idle typed plain operand now
  simp only [VisualMode.gather, read] at answered
  rw [deliver_of_kept e press now (congrArg Prod.snd answered), answered]
  rfl

theorem deliver_of_extending {motion : Motion} {count : Nat} {positive : 1 ≤ count}
    (read : e.selecting.reader.read (e.selecting.keys ++ [press.name]) =
      .complete ⟨.motion motion, count, positive⟩) :
    (e.deliver press now).1 =
      (e.withSelecting e.selecting.cleared).inject (List.replicate count motion.extending) := by
  have answered := key_of_operand visual idle typed plain operand now
  simp only [VisualMode.gather, read, VisualMode.response, respond_injectAll] at answered
  rw [deliver_of_kept e press now (congrArg Prod.snd answered), answered]

end Press

/-- Keys that read as a motion extend the selection by it, and that is all. -/
theorem run_of_extending {motion : Motion} {count : Nat} {positive : 1 ≤ count} {inputs : List Input}
    {keys : List KeyPress} (operands : ∀ press ∈ keys, VisualMode.operator? press.name = none)
    (typed : presses inputs = keys)
    (reads : NormalMode.Reads ⟨e.selecting.reader, e.selecting.keys⟩ keys ⟨.motion motion, count, positive⟩) :
    e.run inputs = (e.withSelecting e.selecting.cleared).inject (List.replicate count motion.extending) := by
  induction inputs generalizing e keys with
  | nil =>
      subst typed
      cases reads
  | cons input inputs ih =>
      cases input with
      | tick now =>
          change (e.tick now).run inputs = _
          rw [tick_of_visual visual idle]
          exact ih visual idle operands typed reads
      | key press now =>
          change press :: presses inputs = keys at typed
          cases reads with
          | last physical plain read =>
              obtain ⟨rfl, silent⟩ := List.cons.inj typed
              have operand := operands press List.mem_cons_self
              change (e.deliver press now).1.run inputs = _
              rw [deliver_of_extending visual idle physical plain operand now read]
              let done := (e.withSelecting e.selecting.cleared).inject (List.replicate count motion.extending)
              exact run_of_still (e := done) (tick_of_visual (e := done) visual idle) silent
          | more physical plain read reads =>
              obtain ⟨rfl, remaining⟩ := List.cons.inj typed
              have operand := operands press List.mem_cons_self
              let longer := { e.selecting with keys := e.selecting.keys ++ [press.name] }
              have gathered : (e.withSelecting longer).selecting = longer := selecting_withSelecting e longer
              change (e.deliver press now).1.run inputs = _
              rw [deliver_of_gathered visual idle physical plain operand now read]
              have later := ih (e := e.withSelecting longer) visual idle
                (fun other listed => operands other (List.mem_cons_of_mem _ listed)) remaining
                (by rw [gathered]; exact reads)
              rwa [gathered, withSelecting_withSelecting] at later

/-- Steps down, one by one or by counts, extend the selection as many times. -/
theorem run_of_stepsDown (fresh : e.selecting.keys = []) {limit : Nat}
    (allowed : limit ≤ e.selecting.reader.maxCount) (small : limit ≤ countLimit) {keys : List Char} {steps : Nat}
    (down : StepsDown limit keys steps) {inputs : List Input} (typed : presses inputs = KeyPress.ofText keys) :
    e.run inputs = e.inject (List.replicate steps (.shifted .down)) := by
  induction down generalizing inputs e with
  | none => exact run_of_still (tick_of_visual visual idle) typed
  | @more digits keys count steps spelled positive within rest ih =>
      have parts : KeyPress.ofText (digits ++ 'j' :: keys) =
          KeyPress.ofText (digits ++ ['j']) ++ KeyPress.ofText keys := by
        rw [List.append_cons]
        exact List.filterMap_append
      obtain ⟨one, two, rfl, first, others⟩ := exists_append_of_presses (typed.trans parts)
      have reads : NormalMode.Reads ⟨e.selecting.reader, e.selecting.keys⟩ (KeyPress.ofText (digits ++ ['j']))
          ⟨.motion .down, count, positive⟩ :=
        NormalMode.reads_counted fresh spelled positive (Nat.le_trans within allowed) (Nat.le_trans within small)
          rfl rfl rfl
      have operands : ∀ press ∈ KeyPress.ofText (digits ++ ['j']), VisualMode.operator? press.name = none := by
        intro press listed
        obtain ⟨c, among, found⟩ := List.mem_filterMap.mp listed
        obtain ⟨_, _, name⟩ := KeyPress.plain_of_ofChar? found
        rw [name]
        refine VisualMode.operator?_of_step ?_
        rcases List.mem_append.mp among with digit | step
        · exact .inl (spelled.isDigit c digit)
        · exact .inr (List.mem_singleton.mp step)
      have cleared : e.withSelecting e.selecting.cleared = e := by
        rw [VisualMode.cleared, ← fresh]
        exact e.withSelecting_selecting
      have extended := run_of_extending visual idle operands first reads
      rw [cleared] at extended
      rw [run_append, extended, ← List.replicate_append_replicate, inject_append]
      exact ih (e := e.inject (List.replicate count (.shifted .down))) visual idle fresh allowed others

end Keys

/-! ## From Normal mode -/

/-- The linewise kind is entered with the line of the head as its selection. -/
theorem entered_by_V {κ : Type} [Target κ] {e : Editor κ} (rests : e.Rests)
    (linewise : e.modes.visualLine.kind = .linewise) (now : Nat) :
    let entered := e.setMode .visualLine now
    entered.mode = .visualLine ∧ entered.queue = [] ∧ entered.selecting.keys = [] ∧
      entered.selecting.reader = e.modes.visualLine.reader ∧
      entered.control = Control.injectAll e.control [.command .left, .commandShift .right] := by
  obtain ⟨mode, idle, _, selecting, control⟩ := rests.entered_visual (.inr ⟨rfl, rfl⟩) now
  have line : (e.modes.visualLine.enter .normal).2 = .atOnce [.command .left, .commandShift .right] := by
    simp only [VisualMode.enter, linewise]
  refine ⟨mode, idle, ?_, ?_, ?_⟩
  · rw [selecting]
    rfl
  · rw [selecting]
    rfl
  · rw [control, line]
    rfl

/-- Steps down from the line that was entered are all that happens to the selection. -/
theorem run_of_V (settings : Settings) {κ : Type} [Target κ] {e : Editor κ}
    (reached : e.Reached settings fun _ => True) (rests : e.Rests) (fresh : e.modes.normal.keys = [])
    {keys : List Char} {steps : Nat} (down : StepsDown (min e.modes.normal.reader.maxCount countLimit) keys steps)
    {inputs : List Input} (typed : presses inputs = KeyPress.ofText ('V' :: keys)) :
    let after := e.run inputs
    after.mode = .visualLine ∧ after.queue = [] ∧
      after.control = Control.injectAll e.control
        ([.command .left, .commandShift .right] ++ List.replicate steps (.shifted .down)) := by
  intro after
  let V : KeyPress := ⟨"V", .v, false⟩
  have found : KeyPress.ofChar? 'V' = some V := by decide
  rw [KeyPress.ofText, List.filterMap_cons_some found] at typed
  obtain ⟨silent, now, rest, rfl, quiet, others, _⟩ := exists_silent_of_presses typed
  let entered := e.setMode .visualLine now
  have alike := reached.tidy.alike
  obtain ⟨mode, idle, empty, reader, control⟩ := entered_by_V rests (congrArg Prod.snd reached.kinds) now
  have same : entered.selecting.reader = e.modes.normal.reader :=
    reader.trans (alike.visualLine.trans alike.normal.symm)
  have allowed : min e.modes.normal.reader.maxCount countLimit ≤ entered.selecting.reader.maxCount := by
    rw [same]
    exact Nat.min_le_left _ _
  have ran : after = entered.inject (List.replicate steps (.shifted .down)) := by
    have chosen : (e.deliver V now).1 = entered := rests.deliver_of_entry fresh found rfl rfl now
    change e.run _ = _
    rw [run_append, rests.run_of_silent quiet, run_cons]
    change (e.deliver V now).1.run rest = _
    rw [chosen]
    exact run_of_stepsDown (.inr mode) idle empty allowed (Nat.min_le_right _ _) down others
  rw [ran]
  refine ⟨mode, idle, ?_⟩
  change Control.injectAll entered.control _ = _
  rw [control, ← Control.injectAll_append]

/-- From the line of the head, steps down select up to the column that they lead to from the end of that line.
These are the cursor's line and the whole lines below it exactly if the head is on that line, and if none of
them is shorter than the last. Steps that find no more lines select up to the end of the text. -/
theorem visual_line_selects_lines_iff (settings : Settings) {e : Editor TextField}
    (reached : e.Reached settings fun _ => True) (rests : e.Rests) (fresh : e.modes.normal.keys = [])
    {keys : List Char} {steps : Nat} (down : StepsDown (min e.modes.normal.reader.maxCount countLimit) keys steps)
    {inputs : List Input} (typed : presses inputs = KeyPress.ofText ('V' :: keys)) :
    let text := e.control.text
    let first := lineStart text e.control.selection.offset
    let last := lineAfter text first steps
    let origin := lineStart text e.control.draft.head
    let after := e.run inputs
    after.mode = .visualLine ∧ after.deadline? = none ∧ TextField.SameContent e.control after.control ∧
      after.control.selection = ⟨origin, (lineDown text)^[steps] (lineEnd text origin) - origin⟩ ∧
      (after.control.selection = ⟨first, lineEnd text last - first⟩ ↔
        origin = first ∧ ∀ i ≤ steps, lineLength text last ≤ lineLength text (lineAfter text first i)) := by
  intro text first last origin after
  obtain ⟨mode, idle, control⟩ := run_of_V settings reached rests fresh down typed
  have starts : Text.StartsLine text origin := .inl (Text.lineStart_lineStart text _)
  have ends : origin + lineLength text origin = lineEnd text origin :=
    Nat.add_sub_cancel' (Text.le_lineEnd starts.le_length)
  have led := Text.iterate_lineDown starts (Nat.le_refl _) steps
  rw [ends] at led
  have further := starts.le_lineAfter steps
  have draft : after.control.draft = ⟨text, origin, (lineDown text)^[steps] (lineEnd text origin)⟩ := by
    rw [control, Control.injectAll_append, TextField.draft_extendDown, TextField.text, TextField.draft_selectLine]
  have selection : after.control.selection = ⟨origin, (lineDown text)^[steps] (lineEnd text origin) - origin⟩ := by
    change after.control.draft.selection = _
    rw [draft, Draft.selection_of_le (by omega)]
  refine ⟨mode, ?_, ?_, selection, ?_⟩
  · rw [deadline?, idle, mode]
    rfl
  · have line : ∀ stroke ∈ [Keystroke.command .left, .commandShift .right], stroke.Moves :=
      List.forall_mem_cons.mpr ⟨⟨_, _, rfl⟩, List.forall_mem_singleton.mpr ⟨_, _, rfl⟩⟩
    have step : ∀ stroke ∈ List.replicate steps (Keystroke.shifted .down), stroke.Moves := by
      intro stroke listed
      rw [List.eq_of_mem_replicate listed]
      exact ⟨_, _, rfl⟩
    rw [control]
    exact .injectAll e.control (List.forall_mem_append.mpr ⟨line, step⟩)
  · rw [selection, Selection.mk.injEq]
    refine and_congr_right fun here => ?_
    have there : lineAfter text origin steps = last := by rw [here]
    have whole := Nat.add_sub_cancel' (Text.le_lineEnd (starts.lineAfter steps).le_length)
    rw [← there, ← here, ← Text.columnAfter_lineLength_iff, led]
    rw [← lineLength] at whole
    omega

/-- One step and two more from the first of three lines: all of the text is selected. -/
theorem visual_line_selects_lines_iff_of_three :
    let settings := { Settings.usual with startMode := .normal }
    let e := settings.editor ((TextField.ofText "abc\nde\nf".toList).select ⟨1, 1⟩)
    let inputs : List Input := (KeyPress.ofText ['V', 'j', '2', 'j']).map (.key · 0)
    (e.run inputs).control.selection = ⟨0, 8⟩ := by
  intro settings e inputs
  let limit := min e.modes.normal.reader.maxCount countLimit
  have two : SpellsCount ['2'] 2 := .inl (by decide)
  have twice : StepsDown limit ['2', 'j'] 2 := @StepsDown.more limit ['2'] [] 2 0 two (by decide) (by decide) .none
  have down : StepsDown limit ['j', '2', 'j'] 3 :=
    @StepsDown.more limit [] ['2', 'j'] 1 2 (.inr ⟨rfl, rfl⟩) (by decide) (by decide) twice
  have typed : presses inputs = KeyPress.ofText ('V' :: ['j', '2', 'j']) := by decide
  obtain ⟨_, _, _, _, selects⟩ := visual_line_selects_lines_iff settings (e := e) (.start _) ⟨rfl, rfl⟩ rfl down
    typed
  exact (selects.mpr ⟨by decide, by decide⟩).trans (by decide)

/-- From a block on a newline the next line is selected, and a step down to a longer line stops within it. -/
theorem visual_line_misses_lines :
    let settings := { Settings.usual with startMode := .normal }
    let onNewline := settings.editor ((TextField.ofText "ab\ncd".toList).select ⟨2, 1⟩)
    let onLetter := settings.editor ((TextField.ofText "a\nbcd".toList).select ⟨0, 1⟩)
    let enter : List Input := (KeyPress.ofText ['V']).map (.key · 0)
    let enterAndStep : List Input := (KeyPress.ofText ['V', 'j']).map (.key · 0)
    onNewline.Rests ∧ onNewline.modes.normal.keys = [] ∧ onNewline.control.selection = ⟨2, 1⟩ ∧
      lineStart onNewline.control.text 2 = 0 ∧ lineEnd onNewline.control.text 0 = 2 ∧
      (onNewline.run enter).mode = .visualLine ∧ (onNewline.run enter).control.selection = ⟨3, 2⟩ ∧
      onLetter.Rests ∧ onLetter.modes.normal.keys = [] ∧ onLetter.control.selection = ⟨0, 1⟩ ∧
      lineStart onLetter.control.text 0 = 0 ∧
      lineEnd onLetter.control.text (lineAfter onLetter.control.text 0 1) = 5 ∧
      (onLetter.run enterAndStep).mode = .visualLine ∧
      (onLetter.run enterAndStep).control.selection = ⟨0, 3⟩ := by
  intro settings onNewline onLetter enter enterAndStep
  exact ⟨⟨rfl, rfl⟩, rfl, by decide, by decide, by decide, by decide +kernel, by decide +kernel,
    ⟨rfl, rfl⟩, rfl, by decide, by decide, by decide, by decide +kernel, by decide +kernel⟩

end Editor

end ModalKeys
