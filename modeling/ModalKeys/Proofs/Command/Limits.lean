import ModalKeys.Proofs.Command.LeadingCount
import ModalKeys.Proofs.Editor.Leaves
import ModalKeys.Proofs.Normal.Motions

/-!
# The limits of planning

A plan counts off its strokes from a group that is repeated, and it measures a motion on a text whose selection
lies inside. Both rest on 64 bits, one on a product and the other on a sum, and the editor fails where these are too
large for them.
-/

namespace ModalKeys

/-- What the control answers is made of 64-bit numbers. -/
structure Control.Addressable {κ : Type} [Control κ] (control : κ) : Prop where
  text : ∀ text, Control.text? control = some text → text.length < UInt64.size
  offset : ∀ selection, Control.selection? control = some selection → selection.offset < UInt64.size
  length : ∀ selection, Control.selection? control = some selection → selection.length < UInt64.size

theorem Recorder.addressable_answering {text : List Char} {selection : Selection} (short : text.length < UInt64.size)
    (offset : selection.offset < UInt64.size) (length : selection.length < UInt64.size) :
    Control.Addressable (answering (some text) (some selection)) := by
  constructor
  · rintro _ ⟨⟩
    exact short
  · rintro _ ⟨⟩
    exact offset
  · rintro _ ⟨⟩
    exact length

namespace Control

variable {κ : Type} [Control κ] {control : κ} {text : List Char} {selection : Selection}

theorem passage?_eq_some_iff :
    passage? control = some (text, selection) ↔
      text? control = some text ∧ selection? control = some selection ∧ selection.stop ≤ text.length := by
  unfold passage?
  cases read : text? control with
  | none => simp
  | some found =>
      cases shown : selection? control with
      | none => simp
      | some seen =>
          simp only [Option.ite_none_right_eq_some, Option.some.injEq, Prod.mk.injEq]
          constructor
          · rintro ⟨ends, rfl, rfl⟩
            exact ⟨rfl, rfl, ends⟩
          · rintro ⟨rfl, rfl, ends⟩
            exact ⟨ends, rfl, rfl⟩

/-- The end of every selection that comes with a text is a 64-bit number. -/
def EndsInRange (control : κ) : Prop :=
  ∀ text selection, text? control = some text → selection? control = some selection →
    selection.stop < UInt64.size

theorem inRange_iff (addressable : Addressable control) : inRange control = true ↔ EndsInRange control := by
  unfold inRange EndsInRange
  cases read : text? control with
  | none => simp
  | some text =>
      cases shown : selection? control with
      | none => simp
      | some selection =>
          have short := addressable.text text read
          simp only [Selection.stop?, Option.some.injEq, Bool.or_eq_true, decide_eq_true_eq, Option.isSome_ite]
          constructor
          · rintro (within | fits) _ _ rfl rfl
            · exact Nat.lt_of_le_of_lt within short
            · exact fits
          · intro ends
            exact .inr (ends text selection rfl rfl)

end Control

/-! ## The plans of commands -/

/-- A plan repeats a single stroke, or at most four strokes as often as a count says. -/
structure Plan.Bounded (plan : Plan) (count : Nat) : Prop where
  times : plan.times < UInt64.size
  group : plan.group.length ≤ 1 ∨ plan.group.length ≤ 4 ∧ plan.times ≤ count

namespace Plan.Bounded

variable {plan : Plan} {count : Nat} (bounded : plan.Bounded count)

include bounded

theorem fits_iff : plan.fits = true ↔ plan.inRange = true ∧ plan.total < UInt64.size := by
  simp only [fits, Bool.and_eq_true, Bool.or_eq_true, decide_eq_true_eq]
  refine and_congr_right fun _ => or_iff_right_of_imp fun single => ?_
  calc plan.group.length * plan.times
    _ ≤ 1 * plan.times := Nat.mul_le_mul_right plan.times single
    _ < UInt64.size := Nat.lt_of_le_of_lt (Nat.le_of_eq (Nat.one_mul _)) bounded.times

theorem total_lt (few : count < UInt64.size / 4) : plan.total < UInt64.size := by
  unfold total
  rcases bounded.group with single | ⟨small, counted⟩
  · have once := Nat.mul_le_mul_right plan.times single
    have times := bounded.times
    omega
  · have often := Nat.mul_le_mul small counted
    omega

end Plan.Bounded

/-- The commands that are planned from what the control answers. -/
def Command.isWordMotion : Command → Bool
  | .motion kind => kind.isWord
  | .edit _ | .entry _ => false

section

variable {κ : Type} [Control κ] {control : κ}

theorem inRange_wordPlan (step : Nat → List Char → Option Nat) (combination : List Keystroke) (count : Nat) :
    (wordPlan step combination count control).inRange = Control.inRange control := by
  unfold wordPlan
  split
  · next text selection passage =>
      obtain ⟨read, shown, ends⟩ := Control.passage?_eq_some_iff.mp passage
      simp [measuredPlan, Control.inRange, read, shown, ends]
  · rfl

theorem Counted.inRange_plan (counted : Counted) :
    (counted.plan control).inRange = true ↔
      (counted.command.isWordMotion = true → Control.inRange control = true) := by
  obtain ⟨command, count, positive⟩ := counted
  have plain {plan : Plan} (inRange : plan.inRange = true) :
      plan.inRange = true ↔ (false = true → Control.inRange control = true) :=
    iff_of_true inRange fun word => absurd word Bool.false_ne_true
  cases command with
  | motion motion =>
      cases motion with
      | wordForward | wordEnd | wordBackward =>
          simp only [plan, Motion.plan, Plan.thenBlockRight, inRange_wordPlan]
          exact ⟨fun inRange _ => inRange, fun ends => ends rfl⟩
      | left | right | up | down | firstLine | lastLine => exact plain rfl
  | edit edit =>
      refine plain ?_
      cases edit <;> rfl
  | entry entry => exact plain rfl

theorem Edit.bounded_plan (edit : Edit) {count : Nat} (small : count ≤ countLimit) :
    (edit.plan count).Bounded count := by
  have limit : countLimit < UInt64.size := by decide
  cases edit <;> constructor <;>
    simp [plan, Plan.thenBlockRight, Plan.thenBlockLeft, Plan.repeating, Plan.collapsing, Plan.atOnce] <;> omega

section

variable (addressable : Control.Addressable control) {count : Nat} (small : count ≤ countLimit)

include addressable small

/-- A word motion repeats no more arrows than it has characters to pass, or a combination of two strokes. -/
theorem bounded_wordPlan {step : Nat → List Char → Option Nat}
    (inside : ∀ {text cursor found}, step cursor text = some found → found < text.length)
    {combination : List Keystroke} (short : combination.length ≤ 2) :
    (wordPlan step combination count control).Bounded count := by
  unfold wordPlan
  split
  · next text selection passage =>
      obtain ⟨read, shown, -⟩ := Control.passage?_eq_some_iff.mp passage
      have length := addressable.text text read
      have offset := addressable.offset selection shown
      have steps := Text.arrowSteps_le selection.offset (Text.repeatStep (step · text) count selection.offset)
      have reached := Text.repeatStep_cases (step · text) inside count selection.offset
      refine ⟨?_, .inl (Nat.le_refl 1)⟩
      change (Text.arrowSteps _ _).1 < _
      omega
  · have limit : countLimit < UInt64.size := by decide
    exact ⟨Nat.lt_of_le_of_lt small limit, .inr ⟨Nat.le_trans short (by decide), Nat.le_refl count⟩⟩

theorem Motion.bounded_plan (motion : Motion) : (motion.plan count control).Bounded count := by
  have limit : count < UInt64.size := Nat.lt_of_le_of_lt small (by decide)
  have word {step : Nat → List Char → Option Nat}
      (inside : ∀ {text cursor found}, step cursor text = some found → found < text.length)
      {combination : List Keystroke} (short : combination.length ≤ 2) :
      (wordPlan step combination count control).thenBlockRight.Bounded count :=
    have plan := bounded_wordPlan addressable small inside short
    ⟨plan.times, plan.group⟩
  cases motion with
  | wordForward => exact word Text.nextWordStart?_lt (by decide)
  | wordEnd => exact word Text.wordEnd?_lt (by decide)
  | wordBackward => exact word Text.previousWordStart?_lt (by decide)
  | left | right | up | down => exact ⟨limit, .inl (Nat.le_refl 1)⟩
  | firstLine | lastLine => exact ⟨Nat.zero_lt_succ _, .inl (Nat.zero_le 1)⟩

end

theorem Counted.bounded_plan (addressable : Control.Addressable control) {counted : Counted}
    (small : counted.count ≤ countLimit) : (counted.plan control).Bounded counted.count := by
  unfold plan
  split
  · exact Motion.bounded_plan addressable small _
  · exact Edit.bounded_plan _ small
  · exact ⟨by decide, .inl (Nat.zero_le 1)⟩

end

/-- From a selection that ends in the text, a measured motion sends no more strokes than the text has characters,
and one to collapse the selection. -/
theorem length_measuredPlan_le {text : List Char} {selection : Selection} {step : Nat → List Char → Option Nat}
    (inside : ∀ {cursor found}, step cursor text = some found → found < text.length) (count : Nat)
    (ends : selection.stop ≤ text.length) :
    (measuredPlan step count text selection).now.length ≤ text.length + 1 := by
  have start : selection.offset ≤ text.length := Nat.le_trans (Nat.le_add_right _ _) ends
  have steps : (Text.arrowSteps selection.offset
      (Text.repeatStep (step · text) count selection.offset)).1 ≤ text.length := by
    have reached := Text.repeatStep_cases (step · text) inside count selection.offset
    unfold Text.arrowSteps
    split <;> omega
  have collapse : (if selection.isEmpty then [] else [Keystroke.plain .left]).length ≤ 1 := by split <;> decide
  simp only [now_measuredPlan, List.length_append, length_repeated, List.length_singleton, Nat.one_mul]
  omega

theorem Counted.length_plan_le {κ : Type} [Control κ] {control : κ} {text : List Char} {selection : Selection}
    (passage : Control.passage? control = some (text, selection)) {counted : Counted}
    (word : counted.command.isWordMotion = true) : (counted.plan control).now.length ≤ text.length + 1 := by
  obtain ⟨-, -, ends⟩ := Control.passage?_eq_some_iff.mp passage
  obtain ⟨command, count, positive⟩ := counted
  have measured {step : Nat → List Char → Option Nat}
      (inside : ∀ {cursor found}, step cursor text = some found → found < text.length)
      (combination : List Keystroke) :
      (wordPlan step combination count control).now.length ≤ text.length + 1 := by
    rw [wordPlan, passage]
    exact length_measuredPlan_le inside count ends
  cases command with
  | motion motion =>
      cases motion with
      | wordForward => exact measured Text.nextWordStart?_lt _
      | wordEnd => exact measured Text.wordEnd?_lt _
      | wordBackward => exact measured Text.previousWordStart?_lt _
      | left | right | up | down | firstLine | lastLine => cases word
  | edit edit => cases word
  | entry entry => cases word

namespace CommandReader

variable (reader : CommandReader) {keys : List String} {counted : Counted}

theorem count_le_maxCount (read : reader.read keys = .complete counted) : counted.count ≤ reader.maxCount := by
  obtain ⟨-, counts⟩ := (reader.read_eq_complete keys).mp read
  rw [counts]
  exact Nat.max_le.mpr ⟨Nat.min_le_right _ _, reader.one_le_maxCount⟩

theorem count_le_countLimit (read : reader.read keys = .complete counted) : counted.count ≤ countLimit := by
  obtain ⟨-, counts⟩ := (reader.read_eq_complete keys).mp read
  have one : 1 ≤ countLimit := by decide
  have leading : (leadingCount? keys).getD 1 ≤ countLimit := by
    rw [leadingCount?_eq]
    split
    · exact one
    · exact Nat.min_le_right _ _
  rw [counts]
  exact Nat.max_le.mpr ⟨Nat.le_trans (Nat.min_le_left _ _) leading, one⟩

/-- Every count that is allowed can be typed ahead of a line to delete. -/
theorem exists_deleteLine {count : Nat} (positive : 1 ≤ count) (allowed : count ≤ reader.maxCount)
    (small : count ≤ countLimit) : ∃ keys, reader.read keys = .complete ⟨.edit .deleteLine, count, positive⟩ := by
  have spelled : SpellsCount (Nat.toDigits 10 count) count := .inl rfl
  have doubled : doubleKey? "d" "d" = some (.edit .deleteLine) := rfl
  have read := reader.read_doubled spelled.isDigit rfl doubled
  rw [spelled.times_leadingCount? positive allowed small rfl] at read
  exact ⟨_, read⟩

end CommandReader

theorem Settings.one_le_maxCount {settings : Settings} (accepted : settings.fault? = none) :
    1 ≤ settings.maxCount := by
  unfold fault? at accepted
  split at accepted
  · cases accepted
  · refine Nat.pos_of_ne_zero fun none => ?_
    simp only [none, ↓reduceIte] at accepted
    split at accepted <;> cases accepted

namespace Editor

variable {κ : Type}

/-- An editor that works carries a command out and goes on, or it fails and nothing else is changed. -/
theorem execute_of_works [Control κ] {e : Editor κ} (works : e.failed = false) (counted : Counted) (now : Nat) :
    let plan := counted.plan e.control
    let after := e.execute counted now
    (plan.fits = true ∧ after.failed = false ∧ after.control = Control.injectAll e.control plan.now) ∨
      (plan.fits = false ∧ after.failed = true ∧ after = { e with failed := true }) := by
  intro plan after
  rcases e.execute_cases counted now with ⟨fits, carried⟩ | ⟨unfit, failed⟩
  · have sent := carried.trans (carryOut_eq e plan now)
    refine .inl ⟨fits, ?_, congrArg Editor.control sent⟩
    exact (congrArg Editor.failed sent).trans works
  · exact .inr ⟨unfit, congrArg Editor.failed failed, failed⟩

theorem leavesKeep_failed [Control κ] (now : Nat) : LeavesKeep now fun e : Editor κ => e.failed = true where
  leaf {e} leaf isLeaf failed := by
    cases leaf with
    | switchMode mode =>
        by_cases same : mode = e.mode
        · rw [respond, same, setMode_self]
          exact failed
        · rw [respond, setMode_eq e same]
          exact failed
    | run counted =>
        rcases e.execute_cases counted now with ⟨-, carried⟩ | ⟨-, broken⟩
        · exact (congrArg Editor.failed (carried.trans (carryOut_eq e _ now))).trans failed
        · exact congrArg Editor.failed broken
    | all responses => exact isLeaf.elim
    | inject _ | defer _ | consume | passThrough => exact failed
  queue _ failed := failed

theorem failed_key [Control κ] {e : Editor κ} (failed : e.failed = true) (press : KeyPress) (now : Nat) :
    (e.key press now).1.failed = true := by
  have answered : ∀ {e : Editor κ}, e.failed = true → (e.answer press now).1.failed = true := by
    intro e failed
    unfold answer
    dsimp only
    split
    · exact failed
    · exact (leavesKeep_failed now).respond _ failed
  have ticked : (e.tick now).failed = true := (leavesKeep_failed now).runDue failed
  unfold key
  dsimp only
  split
  · split
    · exact answered ticked
    · exact ticked
  · exact answered ((leavesKeep_failed now).runDeferred ticked)

/-- An editor that has failed stays so: one that works at the end of a run has failed nowhere on it. -/
theorem failed_run [Target κ] {e : Editor κ} (failed : e.failed = true) (inputs : List Input) :
    (e.run inputs).failed = true := by
  induction inputs generalizing e with
  | nil => exact failed
  | cons input rest ih =>
      refine ih ?_
      cases input with
      | key press now =>
          have kept := failed_key failed press now
          unfold take deliver
          dsimp only
          split <;> exact kept
      | tick now => exact (leavesKeep_failed now).runDue failed

end Editor

/-- The commands that can be typed are all counted with 64 bits exactly as long as the largest count is below a
quarter of the 64-bit numbers, since a line is deleted with four strokes. An editor carries a command out as planned
when its strokes can be counted, and for a word motion also the end of the selection. Else it fails and sends
nothing. Only a selection that ends in the text is measured, and from there a motion sends few strokes. -/
theorem planning_exact_iff {settings : Settings} (accepted : settings.fault? = none) {κ : Type} [Control κ]
    {e : Editor κ} (works : e.failed = false) (addressable : Control.Addressable e.control) :
    let reader := CommandReader.upTo settings.maxCount
    ((∀ keys counted, reader.read keys = .complete counted → (counted.plan e.control).total < UInt64.size) ↔
      settings.maxCount < UInt64.size / 4) ∧
    ∀ keys counted now, reader.read keys = .complete counted →
      let plan := counted.plan e.control
      let after := e.execute counted now
      (after.failed = false ↔ plan.total < UInt64.size ∧
        (counted.command.isWordMotion = true → Control.EndsInRange e.control)) ∧
      (after.failed = false → after.control = Control.injectAll e.control plan.now) ∧
      (after.failed = true → after = { e with failed := true }) ∧
      plan.now.length = plan.before.length + plan.total + plan.after.length ∧
      ∀ text selection, Control.passage? e.control = some (text, selection) →
        selection.stop ≤ text.length ∧
          (counted.command.isWordMotion = true → plan.now.length ≤ text.length + 1) := by
  intro reader
  have counts {keys : List String} {counted : Counted} (read : reader.read keys = .complete counted) :=
    Counted.bounded_plan addressable (reader.count_le_countLimit read)
  have largest : reader.maxCount = settings.maxCount := Nat.max_eq_left (Settings.one_le_maxCount accepted)
  refine ⟨⟨?_, ?_⟩, ?_⟩
  · intro exact
    refine Nat.lt_of_not_le fun many => ?_
    obtain ⟨keys, read⟩ := reader.exists_deleteLine
      (by decide : 1 ≤ UInt64.size / 4) (by rwa [largest]) (by decide)
    have fits : 4 * (UInt64.size / 4) < UInt64.size := exact keys _ read
    exact absurd fits (by decide)
  · intro few keys counted read
    have held := reader.count_le_maxCount read
    rw [largest] at held
    exact (counts read).total_lt (Nat.lt_of_le_of_lt held few)
  · intro keys counted now read plan after
    have fits : plan.fits = true ↔ plan.total < UInt64.size ∧
        (counted.command.isWordMotion = true → Control.EndsInRange e.control) := by
      rw [(counts read).fits_iff, counted.inRange_plan, Control.inRange_iff addressable]
      exact and_comm
    have measured : ∀ text selection, Control.passage? e.control = some (text, selection) →
        selection.stop ≤ text.length ∧
          (counted.command.isWordMotion = true → plan.now.length ≤ text.length + 1) := fun text selection passage =>
      ⟨(Control.passage?_eq_some_iff.mp passage).2.2, Counted.length_plan_le passage⟩
    rcases Editor.execute_of_works works counted now with ⟨fit, working, sent⟩ | ⟨unfit, failed, still⟩
    · refine ⟨iff_of_true working (fits.mp fit), fun _ => sent, fun failed => ?_, plan.length_now, measured⟩
      cases working.symm.trans failed
    · have broken : ¬ after.failed = false := Bool.not_eq_false _ ▸ failed
      have many := mt fits.mpr (Bool.eq_false_iff.mp unfit)
      exact ⟨iff_of_false broken many, fun working => absurd working broken, fun _ => still, plan.length_now, measured⟩

/-- The usual settings, and a selection of the second of two words: nine lines can be deleted, and from the selection
two words back lead to the start of the text. -/
theorem planning_exact_iff_of_words :
    let control := Recorder.answering (some "one two".toList) (some ⟨4, 3⟩)
    let e := { Settings.usual with startMode := .normal }.editor control
    let lines : Counted := ⟨.edit .deleteLine, 9, by decide⟩
    let words : Counted := ⟨.motion .wordBackward, 2, by decide⟩
    Settings.usual.fault? = none ∧ Control.Addressable control ∧
      (CommandReader.upTo 999).read ["9", "d", "d"] = .complete lines ∧
      (CommandReader.upTo 999).read ["2", "b"] = .complete words ∧
      (lines.plan control).total < UInt64.size ∧ (e.execute words 0).failed = false ∧
      (words.plan control).now.length ≤ 8 := by
  intro control e lines words
  have accepted : Settings.usual.fault? = none := by decide
  have addressable : Control.Addressable control :=
    Recorder.addressable_answering (by decide) (by decide) (by decide)
  have readLines : (CommandReader.upTo 999).read ["9", "d", "d"] = .complete lines := by decide
  have readWords : (CommandReader.upTo 999).read ["2", "b"] = .complete words := by decide
  have ends : Control.EndsInRange control := by
    rintro _ _ ⟨⟩ ⟨⟩
    decide
  obtain ⟨products, carries⟩ := planning_exact_iff accepted (e := e) rfl addressable
  obtain ⟨exact, -, -, -, measured⟩ := carries _ words 0 readWords
  have few : (words.plan control).total < UInt64.size := products.mpr (by decide) _ words readWords
  refine ⟨accepted, addressable, readLines, readWords, products.mpr (by decide) _ lines readLines,
    exact.mpr ⟨few, fun _ => ends⟩, ?_⟩
  exact (measured "one two".toList ⟨4, 3⟩ (by decide)).2 rfl

/-- The end of a selection that lies far behind a text of three characters is no 64-bit number. Neither is, with the
largest count that the settings allow here, the number of strokes that delete the lines. -/
theorem planning_overflows :
    let settings := { Settings.usual with startMode := .normal, maxCount := UInt64.size / 4 }
    let reader := CommandReader.upTo settings.maxCount
    let selection : Selection := ⟨5, UInt64.size - 4⟩
    let start := settings.editor (Recorder.answering (some "abc".toList) (some selection))
    let word : Counted := ⟨.motion .wordBackward, 1, by decide⟩
    let lines : Counted := ⟨.edit .deleteLine, UInt64.size / 4, by decide⟩
    let typing (keys : List Char) : List Input := (KeyPress.ofText keys).map (.key · 0)
    settings.fault? = none ∧ Control.Addressable start.control ∧ start.failed = false ∧
      reader.read ["b"] = .complete word ∧ UInt64.size ≤ selection.stop ∧
      (start.run (typing ['b'])).failed = true ∧ (start.run (typing ['b'])).control.injected = [] ∧
      reader.read ("4611686018427387904dd".toList.map String.singleton) = .complete lines ∧
      (lines.plan start.control).total = UInt64.size ∧
      (start.run (typing "4611686018427387904dd".toList)).failed = true ∧
      (start.run (typing "4611686018427387904dd".toList)).control.injected = [] := by
  intro settings reader selection start word lines typing
  have addressable : Control.Addressable start.control :=
    Recorder.addressable_answering (by decide) (by decide) (by decide)
  have read : reader.read ("4611686018427387904dd".toList.map String.singleton) = .complete lines := by
    decide +kernel
  exact ⟨by decide, addressable, rfl, by decide, by decide, by decide +kernel, by decide +kernel, read, by decide,
    by decide +kernel, by decide +kernel⟩

end ModalKeys
