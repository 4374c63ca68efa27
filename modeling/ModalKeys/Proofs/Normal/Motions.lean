import ModalKeys.Proofs.Normal.Counts
import ModalKeys.Proofs.Text.Words
import ModalKeys.Proofs.TextField.Arrows
import ModalKeys.Settings.Basic

/-!
# Where motions lead

A motion brings the field to a caret, moves that by arrows and shows the block behind it. The word motions
collapse a selection only if there is one; the others press the left arrow in any case, and a caret is then
one character back before the first step.
-/

namespace ModalKeys

theorem mem_of_mem_repeated {strokes : List Keystroke} {count : Nat} {stroke : Keystroke}
    (listed : stroke ∈ repeated strokes count) : stroke ∈ strokes := by
  obtain ⟨group, among, inside⟩ := List.mem_flatten.mp listed
  rwa [List.eq_of_mem_replicate among] at inside

def Plan.parts (plan : Plan) : List Keystroke := plan.before ++ plan.group ++ plan.after

theorem Plan.forall_mem_now {sort : Keystroke → Prop} {plan : Plan} (sorted : ∀ stroke ∈ plan.parts, sort stroke) :
    ∀ stroke ∈ plan.now, sort stroke := by
  simp only [parts, List.forall_mem_append] at sorted
  obtain ⟨⟨before, group⟩, after⟩ := sorted
  refine List.forall_mem_append.mpr ⟨List.forall_mem_append.mpr ⟨before, fun stroke listed => ?_⟩, after⟩
  exact group stroke (mem_of_mem_repeated listed)

def Plan.Moves (plan : Plan) : Prop := ∀ stroke ∈ plan.now ++ plan.settled, stroke.Moves

theorem Plan.moves_thenBlockRight {plan : Plan} (moves : ∀ stroke ∈ plan.now, stroke.Moves) :
    plan.thenBlockRight.Moves := by
  intro stroke listed
  rcases List.mem_append.mp listed with now | settled
  · exact moves stroke now
  · rw [List.mem_singleton.mp settled]
    exact ⟨_, _, rfl⟩

namespace Motion

/-- A left arrow and then some moves, over and over. -/
theorem moves_collapsing {group : List Keystroke} (moves : ∀ stroke ∈ group, stroke.Moves) (times : Nat) :
    ∀ stroke ∈ (Plan.collapsing group times).now, stroke.Moves := by
  refine Plan.forall_mem_now (List.forall_mem_append.mpr ⟨List.forall_mem_cons.mpr ⟨⟨_, _, rfl⟩, moves⟩, ?_⟩)
  exact List.forall_mem_nil _

theorem moves_measuredPlan (step : Nat → List Char → Option Nat) (count : Nat) (text : List Char)
    (selection : Selection) : ∀ stroke ∈ (measuredPlan step count text selection).now, stroke.Moves := by
  refine Plan.forall_mem_now fun stroke listed => ?_
  simp only [Plan.parts, measuredPlan, List.append_nil] at listed
  rcases List.mem_append.mp listed with collapse | arrows
  · split at collapse
    · cases collapse
    · rw [List.mem_singleton.mp collapse]
      exact ⟨_, _, rfl⟩
  · rw [List.mem_singleton.mp arrows]
    exact moves_arrow _

theorem moves_wordPlan {κ : Type} [Control κ] (step : Nat → List Char → Option Nat)
    {combination : List Keystroke} (moves : ∀ stroke ∈ combination, stroke.Moves) (count : Nat)
    (control : κ) : ∀ stroke ∈ (wordPlan step combination count control).now, stroke.Moves := by
  unfold wordPlan
  split
  · exact moves_measuredPlan step count _ _
  · exact moves_collapsing moves count

theorem moves_plan {κ : Type} [Control κ] (motion : Motion) (count : Nat) (control : κ) :
    (motion.plan count control).Moves := by
  have single : ∀ {stroke : Keystroke}, stroke.Moves → ∀ other ∈ [stroke], other.Moves :=
    fun moves => List.forall_mem_singleton.mpr moves
  refine Plan.moves_thenBlockRight ?_
  cases motion with
  | left | right | up | down => exact moves_collapsing (single ⟨_, _, rfl⟩) count
  | firstLine | lastLine => exact List.forall_mem_cons.mpr ⟨⟨_, _, rfl⟩, single ⟨_, _, rfl⟩⟩
  | wordForward | wordBackward => exact moves_wordPlan _ (single ⟨_, _, rfl⟩) count control
  | wordEnd =>
      exact moves_wordPlan _ (List.forall_mem_cons.mpr ⟨⟨_, _, rfl⟩, single ⟨_, _, rfl⟩⟩) count control

def reach (motion : Motion) (text : List Char) (count pos : Nat) : Nat :=
  match motion with
  | .left => pos - count
  | .right => min text.length (pos + count)
  | .up => (Text.lineUp text)^[count] pos
  | .down => (Text.lineDown text)^[count] pos
  | .wordForward => Text.repeatStep (Text.nextWordStart? · text) count pos
  | .wordEnd => Text.repeatStep (Text.wordEnd? · text) count pos
  | .wordBackward => Text.repeatStep (Text.previousWordStart? · text) count pos
  | .firstLine => 0
  | .lastLine => text.length

def origin (motion : Motion) (d : Draft) : Nat := if motion.isWord then d.start else d.leftward

theorem reach_le_length (motion : Motion) {text : List Char} {pos : Nat} (within : pos ≤ text.length)
    (count : Nat) : motion.reach text count pos ≤ text.length := by
  cases motion with
  | left => exact Nat.le_trans (Nat.sub_le pos count) within
  | right => exact Nat.min_le_left _ _
  | up => exact Text.iterate_le_length (Text.lineUp_le_length text) within count
  | down => exact Text.iterate_le_length (Text.lineDown_le_length text) within count
  | wordForward => exact Text.repeatStep_le_length Text.nextWordStart?_lt count within
  | wordEnd => exact Text.repeatStep_le_length Text.wordEnd?_lt count within
  | wordBackward => exact Text.repeatStep_le_length Text.previousWordStart?_lt count within
  | firstLine => exact Nat.zero_le _
  | lastLine => exact Nat.le_refl _

theorem origin_le_length (motion : Motion) {d : Draft} (bounds : d.InBounds) :
    motion.origin d ≤ d.text.length := by
  have start := Draft.start_le_length bounds
  unfold origin
  split
  · exact start
  · exact Nat.le_trans d.leftward_le start

/-- One character further back, and the motion leads to the same offset. -/
def Absorbs (motion : Motion) (text : List Char) (count pos : Nat) : Prop :=
  match motion with
  | .left => pos ≤ count
  | .right => pos = 0 ∨ text.length < pos + count
  | _ => motion.reach text count (pos - 1) = motion.reach text count pos

theorem reach_pred_iff (motion : Motion) (text : List Char) (count pos : Nat) :
    motion.reach text count (pos - 1) = motion.reach text count pos ↔ motion.Absorbs text count pos := by
  cases motion with
  | left =>
      change pos - 1 - count = pos - count ↔ pos ≤ count
      omega
  | right =>
      change min text.length (pos - 1 + count) = min text.length (pos + count) ↔
        pos = 0 ∨ text.length < pos + count
      omega
  | up | down | wordForward | wordEnd | wordBackward | firstLine | lastLine => exact Iff.rfl

/-! ## What the strokes of a motion do to a field -/

variable {f : TextField} (bounds : f.draft.InBounds)

include bounds

theorem draft_left :
    (Control.inject f (.plain .left)).draft = ⟨f.text, f.draft.leftward, f.draft.leftward⟩ :=
  (TextField.draft_inject_of_move f rfl).trans (Draft.move_left bounds)

/-- A left arrow and then the same arrow a number of times. -/
theorem draft_collapsing (stroke : Keystroke) (arrow : Arrow)
    (moves : Shortcut.ofKeystroke stroke = .move arrow false) (count : Nat) :
    (Control.injectAll f (Plan.collapsing [stroke] count).now).draft =
      let there := (Draft.stepped f.text arrow)^[count] f.draft.leftward
      ⟨f.text, there, there⟩ := by
  rw [Plan.now_collapsing]
  exact TextField.draft_repeated_arrow stroke arrow moves (draft_left bounds) count

/-- A selection is collapsed onto its start, and a caret is left where it is. -/
theorem draft_collapse :
    (Control.injectAll f (if f.selection.isEmpty then [] else [.plain .left])).draft =
      ⟨f.text, f.draft.start, f.draft.start⟩ := by
  split
  · next empty =>
      have caret : f.draft.IsCaret := TextField.isCaret_of_isEmpty empty
      obtain ⟨⟨text, anchor, head⟩, clipboard, undo, redo, introspection, log⟩ := f
      cases caret
      exact congrArg (fun pos => (⟨text, pos, pos⟩ : Draft)) (Nat.min_self anchor).symm
  · next selected =>
      have proper : f.draft.start < f.draft.stop := by
        simp only [TextField.selection, Draft.selection, Selection.isEmpty, beq_iff_eq] at selected
        omega
      rw [← Draft.leftward_of_selected proper]
      exact draft_left bounds

/-- As many arrows as there are characters in between lead to the offset that was found. -/
theorem draft_measuredPlan {step : Nat → List Char → Option Nat}
    (inside : ∀ {cursor found}, step cursor f.text = some found → found < f.text.length) (count : Nat) :
    (Control.injectAll f (measuredPlan step count f.text f.selection).now).draft =
      let there := Text.repeatStep (step · f.text) count f.draft.start
      ⟨f.text, there, there⟩ := by
  have within : f.draft.start ≤ f.text.length := Draft.start_le_length bounds
  have reached : Text.repeatStep (step · f.text) count f.draft.start ≤ f.text.length :=
    Text.repeatStep_le_length inside count within
  rw [now_measuredPlan, Control.injectAll_append]
  exact TextField.draft_arrowSteps (draft_collapse bounds) within reached

theorem stop_selection_le : f.selection.stop ≤ f.text.length :=
  calc f.selection.stop
    _ = f.draft.stop := f.draft.stop_selection
    _ ≤ f.text.length := Draft.stop_le_length bounds

theorem passage?_of_readable (readable : f.introspection = true) :
    Control.passage? f = some (f.text, f.selection) := by
  simp only [Control.passage?, Control.text?, Control.selection?, readable, ↓reduceIte, stop_selection_le bounds]

theorem inRange_of_inBounds : Control.inRange f = true := by
  cases introspection : f.introspection with
  | false => simp only [Control.inRange, Control.text?, introspection, Bool.false_eq_true, ↓reduceIte]
  | true =>
      simp only [Control.inRange, Control.text?, Control.selection?, introspection, ↓reduceIte,
        stop_selection_le bounds, decide_true, Bool.true_or]

/-- Measured arrows can be counted off, and native jumps as long as the number of their strokes is small enough. -/
theorem fits_wordPlan_iff (step : Nat → List Char → Option Nat) (combination : List Keystroke) (count : Nat) :
    (wordPlan step combination count f).fits = true ↔
      (f.introspection = false → combination.length ≤ 1 ∨ combination.length * count < UInt64.size) := by
  cases introspection : f.introspection with
  | true =>
      rw [wordPlan, passage?_of_readable bounds introspection]
      exact iff_of_true (Plan.fits_of_single rfl (Nat.le_refl 1)) nofun
  | false =>
      have unread := TextField.passage?_of_hidden introspection
      simp [wordPlan, unread, Plan.fits, Plan.total, Plan.collapsing, inRange_of_inBounds bounds]

/-- On a field, only jumps to word ends of two strokes each can be too many to be counted. -/
theorem fits_plan_iff (motion : Motion) (count : Nat) :
    (motion.plan count f).fits = true ↔
      (motion = .wordEnd → f.introspection = false → 2 * count < UInt64.size) := by
  cases motion with
  | left | right | up | down => exact iff_of_true (Plan.fits_of_single rfl (Nat.le_refl 1)) nofun
  | firstLine | lastLine => exact iff_of_true rfl nofun
  | wordForward | wordBackward =>
      exact iff_of_true ((fits_wordPlan_iff bounds _ _ count).mpr fun _ => .inl (Nat.le_refl 1)) nofun
  | wordEnd =>
      refine (fits_wordPlan_iff bounds _ _ count).trans ?_
      simp

theorem draft_wordPlan (readable : f.introspection = true) {step : Nat → List Char → Option Nat}
    (inside : ∀ {cursor found}, step cursor f.text = some found → found < f.text.length)
    (combination : List Keystroke) (count : Nat) :
    (Control.injectAll f (wordPlan step combination count f).now).draft =
      let there := Text.repeatStep (step · f.text) count f.draft.start
      ⟨f.text, there, there⟩ := by
  rw [wordPlan, passage?_of_readable bounds readable]
  exact draft_measuredPlan bounds inside count

/-- The strokes that a motion sends at once leave a caret where the motion leads. -/
theorem draft_plan (motion : Motion) (readable : motion.isWord = true → f.introspection = true)
    (count : Nat) :
    (Control.injectAll f (motion.plan count f).now).draft =
      let there := motion.reach f.text count (motion.origin f.draft)
      ⟨f.text, there, there⟩ := by
  have left : f.draft.leftward ≤ f.text.length :=
    Nat.le_trans f.draft.leftward_le (Draft.start_le_length bounds)
  cases motion with
  | left =>
      have stepped := draft_collapsing bounds (.plain .left) (.left .char) rfl count
      rwa [Draft.iterate_stepped_left left] at stepped
  | right =>
      have stepped := draft_collapsing bounds (.plain .right) (.right .char) rfl count
      rwa [Draft.iterate_stepped_right left] at stepped
  | up =>
      have stepped := draft_collapsing bounds (.plain .up) .up rfl count
      rwa [Draft.stepped_up] at stepped
  | down =>
      have stepped := draft_collapsing bounds (.plain .down) .down rfl count
      rwa [Draft.stepped_down] at stepped
  | firstLine =>
      have top : Shortcut.ofKeystroke (.command .up) = .move .top false := rfl
      have moved : (Control.inject (Control.inject f (.plain .left)) (.command .up)).draft = _ :=
        TextField.draft_inject_of_move _ top
      rw [draft_left bounds, Draft.move_caret] at moved
      exact moved.trans (congrArg (fun pos => (⟨f.text, pos, pos⟩ : Draft)) (Nat.zero_min _))
  | lastLine =>
      have bottom : Shortcut.ofKeystroke (.command .down) = .move .bottom false := rfl
      have moved : (Control.inject (Control.inject f (.plain .left)) (.command .down)).draft = _ :=
        TextField.draft_inject_of_move _ bottom
      rw [draft_left bounds, Draft.move_caret] at moved
      exact moved.trans (congrArg (fun pos => (⟨f.text, pos, pos⟩ : Draft)) (Nat.min_self _))
  | wordForward => exact draft_wordPlan bounds (readable rfl) Text.nextWordStart?_lt _ count
  | wordEnd => exact draft_wordPlan bounds (readable rfl) Text.wordEnd?_lt _ count
  | wordBackward => exact draft_wordPlan bounds (readable rfl) Text.previousWordStart?_lt _ count

end Motion

namespace Editor

variable {e : Editor TextField}

/-- Once the delay has passed, the strokes of a motion that has been typed have been sent and nothing else
has happened. -/
theorem run_of_motion (rests : e.Rests) (fresh : e.modes.normal.keys = []) {motion : Motion} {count : Nat}
    (positive : 1 ≤ count) (allowed : count ≤ e.modes.normal.reader.maxCount) (small : count ≤ countLimit)
    {digits : List Char} (spelled : SpellsCount digits count) {c : Char} {press : KeyPress}
    (found : KeyPress.ofChar? c = some press) (other : c.isDigit = false)
    (single : singleKey? (String.singleton c) = some (.motion motion))
    (fits : (motion.plan count e.control).fits = true) {inputs : List Input}
    (typed : presses inputs = KeyPress.ofText (digits ++ [c])) {later : Nat}
    (waited : ∀ time ∈ keyTimes inputs, time + e.settle ≤ later) :
    (e.run (inputs ++ [.tick later])).Rests ∧
      e.run (inputs ++ [.tick later]) =
        (e.withNormal e.modes.normal.cleared).inject
          ((motion.plan count e.control).now ++ (motion.plan count e.control).settled) := by
  have reads := NormalMode.reads_counted fresh spelled positive allowed small found other single
  rw [← typed] at reads
  exact rests.carried_out_of_reads reads trivial fits waited

/-- A motion that has been typed leads the block where it should from where it starts, once the delay has
passed, and edits nothing. -/
theorem moved_by_motion (rests : e.Rests) (fresh : e.modes.normal.keys = [])
    (bounds : e.control.draft.InBounds) {motion : Motion}
    (readable : motion.isWord = true → e.control.introspection = true) {count : Nat} (positive : 1 ≤ count)
    (allowed : count ≤ e.modes.normal.reader.maxCount) (small : count ≤ countLimit) {digits : List Char}
    (spelled : SpellsCount digits count) {c : Char} {press : KeyPress}
    (found : KeyPress.ofChar? c = some press) (other : c.isDigit = false)
    (single : singleKey? (String.singleton c) = some (.motion motion)) {inputs : List Input}
    (typed : presses inputs = KeyPress.ofText (digits ++ [c])) {later : Nat}
    (waited : ∀ time ∈ keyTimes inputs, time + e.settle ≤ later) :
    let after := e.run (inputs ++ [.tick later])
    let there := motion.reach e.control.text count (motion.origin e.control.draft)
    after.mode = .normal ∧ after.deadline? = none ∧
      after.control.selection = ⟨there, min 1 (e.control.text.length - there)⟩ ∧
      TextField.SameContent e.control after.control := by
  intro after there
  have fits : (motion.plan count e.control).fits = true := by
    refine (motion.fits_plan_iff bounds count).mpr fun wordEnd hidden => ?_
    subst wordEnd
    cases hidden.symm.trans (readable rfl)
  obtain ⟨rested, ran⟩ :=
    run_of_motion rests fresh positive allowed small spelled found other single fits typed waited
  have sent : after.control = Control.injectAll e.control
      ((motion.plan count e.control).now ++ (motion.plan count e.control).settled) :=
    congrArg Editor.control ran
  have within : there ≤ e.control.text.length :=
    motion.reach_le_length (motion.origin_le_length bounds) count
  refine ⟨rested.1, rested.deadline, ?_, ?_⟩
  · have shown : after.control.draft =
        ⟨e.control.text, there, min (there + 1) e.control.text.length⟩ := by
      rw [sent, Control.injectAll_append, motion.settled_plan]
      refine (TextField.draft_shiftRight _).trans ?_
      rw [motion.draft_plan bounds readable count]
    change after.control.draft.selection = _
    rw [shown, Draft.selection_shown within]
  · rw [sent]
    exact .injectAll e.control (motion.moves_plan count e.control)

/-- A word motion leads from the start of the selection, whichever way that was made, to where its search
leads, and shows the block there unless the text ends. -/
theorem word_motion_lands (rests : e.Rests) (fresh : e.modes.normal.keys = [])
    (bounds : e.control.draft.InBounds) (readable : e.control.introspection = true) {count : Nat}
    (positive : 1 ≤ count) (allowed : count ≤ e.modes.normal.reader.maxCount) (small : count ≤ countLimit)
    {digits : List Char} (spelled : SpellsCount digits count) {c : Char}
    {step : Nat → List Char → Option Nat}
    (key : (c, step) ∈
      [('w', Text.nextWordStart?), ('e', Text.wordEnd?), ('b', Text.previousWordStart?)])
    {inputs : List Input} (typed : presses inputs = KeyPress.ofText (digits ++ [c])) {later : Nat}
    (waited : ∀ time ∈ keyTimes inputs, time + e.settle ≤ later) :
    let after := e.run (inputs ++ [.tick later])
    let there := Text.repeatStep (step · e.control.text) count e.control.selection.offset
    after.mode = .normal ∧ after.deadline? = none ∧
      after.control.selection = ⟨there, min 1 (e.control.text.length - there)⟩ ∧
      TextField.SameContent e.control after.control := by
  have named : ∃ motion press, KeyPress.ofChar? c = some press ∧ c.isDigit = false ∧
      singleKey? (String.singleton c) = some (.motion motion) ∧ motion.isWord = true ∧
      motion.reach e.control.text count = Text.repeatStep (step · e.control.text) count := by
    simp only [List.mem_cons, Prod.mk.injEq, List.not_mem_nil, or_false] at key
    rcases key with ⟨rfl, rfl⟩ | ⟨rfl, rfl⟩ | ⟨rfl, rfl⟩ <;> exact ⟨_, _, rfl, rfl, rfl, rfl, rfl⟩
  obtain ⟨motion, press, found, other, single, word, reach⟩ := named
  have origin : motion.origin e.control.draft = e.control.selection.offset := if_pos word
  have moved := moved_by_motion rests fresh bounds (fun _ => readable) positive allowed small spelled found
    other single typed waited
  rw [origin, reach] at moved
  exact moved

/-- Two words forward from a selection made backwards over the second word. -/
theorem word_motion_lands_of_backward :
    let text := "the quick brown fox".toList
    let field := { TextField.ofText text with draft := ⟨text, 9, 4⟩, undo := [.ofText "the".toList] }
    let start := { Settings.usual with startMode := .normal }.editor field
    let inputs : List Input := (KeyPress.ofText ['2', 'w']).map (.key · 0)
    let after := start.run (inputs ++ [.tick 5])
    after.control.selection = ⟨16, 1⟩ ∧ after.control.undo = [.ofText "the".toList] := by
  intro text field start inputs after
  have bounds : field.draft.InBounds := ⟨by decide, by decide⟩
  have spelled : SpellsCount ['2'] 2 := .inl (by decide)
  have typed : presses inputs = KeyPress.ofText (['2'] ++ ['w']) := by decide
  have waited : ∀ time ∈ keyTimes inputs, time + start.settle ≤ 5 := by decide
  obtain ⟨_, _, selection, same⟩ := word_motion_lands (e := start) ⟨rfl, rfl⟩ rfl bounds rfl (by decide)
    (by decide) (by decide) spelled List.mem_cons_self typed waited
  exact ⟨selection.trans (by decide +kernel), same.undo⟩

/-- The four motions by steps lead where their count says from a block. From a caret they start one character
before it, and lead there only if that makes no difference. -/
theorem step_motion_lands_iff (rests : e.Rests) (fresh : e.modes.normal.keys = [])
    (bounds : e.control.draft.InBounds) (block : e.control.selection.length ≤ 1) {count : Nat}
    (positive : 1 ≤ count) (allowed : count ≤ e.modes.normal.reader.maxCount) (small : count ≤ countLimit)
    {digits : List Char} (spelled : SpellsCount digits count) {c : Char} {motion : Motion}
    (key : (c, motion) ∈ [('h', .left), ('l', .right), ('j', .down), ('k', .up)]) {inputs : List Input}
    (typed : presses inputs = KeyPress.ofText (digits ++ [c])) {later : Nat}
    (waited : ∀ time ∈ keyTimes inputs, time + e.settle ≤ later) :
    let after := e.run (inputs ++ [.tick later])
    let text := e.control.text
    let cursor := e.control.selection.offset
    let there := after.control.selection.offset
    after.mode = .normal ∧ after.deadline? = none ∧ TextField.SameContent e.control after.control ∧
      there = motion.reach text count (if e.control.selection.length = 1 then cursor else cursor - 1) ∧
      after.control.selection.length = min 1 (text.length - there) ∧
      (there = motion.reach text count cursor ↔
        e.control.selection.length = 1 ∨ motion.Absorbs text count cursor) := by
  intro after text cursor there
  have named : ∃ press, KeyPress.ofChar? c = some press ∧ c.isDigit = false ∧
      singleKey? (String.singleton c) = some (.motion motion) ∧ motion.isWord = false := by
    simp only [List.mem_cons, Prod.mk.injEq, List.not_mem_nil, or_false] at key
    rcases key with ⟨rfl, rfl⟩ | ⟨rfl, rfl⟩ | ⟨rfl, rfl⟩ | ⟨rfl, rfl⟩ <;> exact ⟨_, rfl, rfl, rfl, rfl⟩
  obtain ⟨press, found, other, single, steps⟩ := named
  have origin : motion.origin e.control.draft = e.control.draft.leftward :=
    if_neg (by rw [steps]; nofun)
  obtain ⟨normal, settled, selection, same⟩ := moved_by_motion rests fresh bounds
    (fun word => absurd word (by rw [steps]; nofun)) positive allowed small spelled found other single typed
    waited
  have offset : there = motion.reach text count e.control.draft.leftward := by
    rw [← origin]
    exact congrArg Selection.offset selection
  have length : after.control.selection.length = min 1 (text.length - there) := by
    rw [offset, ← origin]
    exact congrArg Selection.length selection
  have first : there = motion.reach text count
      (if e.control.selection.length = 1 then cursor else cursor - 1) :=
    offset.trans (congrArg (motion.reach text count) (Draft.leftward_of_block block))
  refine ⟨normal, settled, same, first, length, ?_⟩
  rw [first]
  by_cases one : e.control.selection.length = 1
  · rw [if_pos one]
    exact iff_of_true rfl (.inl one)
  · rw [if_neg one, motion.reach_pred_iff]
    exact (or_iff_right one).symm

/-- Two lines down from a block on the last letter of its line, over a line that is shorter. -/
theorem step_motion_lands_iff_of_down :
    let field := (TextField.ofText "abc\nde\nfghi".toList).select ⟨2, 1⟩
    let start := { Settings.usual with startMode := .normal }.editor field
    let inputs : List Input := (KeyPress.ofText ['2', 'j']).map (.key · 0)
    let after := start.run (inputs ++ [.tick 5])
    after.control.selection = ⟨9, 1⟩ ∧ Motion.down.reach field.text 2 2 = 9 := by
  intro field start inputs after
  have spelled : SpellsCount ['2'] 2 := .inl (by decide)
  have typed : presses inputs = KeyPress.ofText (['2'] ++ ['j']) := by decide
  have waited : ∀ time ∈ keyTimes inputs, time + start.settle ≤ 5 := by decide
  have there : Motion.down.reach field.text 2 2 = 9 := by decide
  have key : ('j', Motion.down) ∈ [('h', .left), ('l', .right), ('j', .down), ('k', .up)] := by decide
  obtain ⟨_, _, _, _, length, lands⟩ := step_motion_lands_iff (e := start) ⟨rfl, rfl⟩ rfl
    (Draft.inBounds_select _ _) (by decide) (by decide) (by decide) (by decide) spelled key typed waited
  have offset : after.control.selection.offset = 9 := (lands.mpr (.inl rfl)).trans there
  rw [offset] at length
  exact ⟨congr (congrArg Selection.mk offset) length, there⟩

/-- From the caret behind the last character, a step back leads two characters back. -/
theorem step_back_skips_character :
    let field := (TextField.ofText "abc".toList).select ⟨0, 1⟩
    let start := { Settings.usual with startMode := .normal }.editor field
    let e := start.run ((KeyPress.ofText ['G']).map (.key · 0) ++ [.tick 5])
    let inputs : List Input := (KeyPress.ofText ['h']).map (.key · 5)
    let after := e.run (inputs ++ [.tick 10])
    e.Rests ∧ e.modes.normal.keys = [] ∧ e.control.draft.InBounds ∧ e.control.selection = ⟨3, 0⟩ ∧
      presses inputs = KeyPress.ofText ['h'] ∧ (∀ time ∈ keyTimes inputs, time + e.settle ≤ 10) ∧
      after.mode = .normal ∧ after.deadline? = none ∧ after.control.selection = ⟨1, 1⟩ ∧
      Motion.left.reach e.control.text 1 3 = 2 := by
  intro field start e inputs after
  have bounds : e.control.draft.InBounds := ⟨by decide +kernel, by decide +kernel⟩
  have idle : e.queue = [] := List.eq_nil_of_length_eq_zero (by decide +kernel)
  exact ⟨⟨by decide +kernel, idle⟩, by decide +kernel, bounds, by decide +kernel, by decide,
    by decide +kernel, by decide +kernel, by decide +kernel, by decide +kernel, by decide +kernel⟩

end Editor

end ModalKeys
