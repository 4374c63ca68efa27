import ModalKeys.Proofs.Editor.Alike
import ModalKeys.Proofs.Normal.Motions

/-!
# Counts add up

A motion shows the block where it leads, and the next motion takes the block back to its start. At the end of
the text there is no block, and the left arrow goes one character back; a step from there leads to the end
again. So two motions in a row lead where one leads with both counts together.
-/

namespace ModalKeys

open Text (lineUp lineDown)

/-- A step that can lead to the end of the text leads from the last character where it leads from the end. -/
def Text.Rejoins (text : List Char) (step : Nat → Nat) : Prop :=
  ∀ pos ≤ text.length, step pos = text.length → step (text.length - 1) = step text.length

theorem Text.Rejoins.iterate {text : List Char} {step : Nat → Nat} (rejoins : Rejoins text step)
    (inside : ∀ pos, step pos ≤ text.length) {pos : Nat} (within : pos ≤ text.length) {first second : Nat}
    (led : 1 ≤ first) (leads : 1 ≤ second) (last : step^[first] pos = text.length) :
    step^[second] (text.length - 1) = step^[second] text.length := by
  obtain ⟨before, rfl⟩ := Nat.exists_eq_add_of_le' led
  obtain ⟨after, rfl⟩ := Nat.exists_eq_add_of_le' leads
  rw [Function.iterate_succ_apply'] at last
  rw [Function.iterate_succ_apply, Function.iterate_succ_apply,
    rejoins _ (iterate_le_length inside within before) last]

theorem Text.rejoins_of_empty {text : List Char} {step : Nat → Nat}
    (empty : ∀ pos ≤ text.length, step pos = text.length → text.length = 0) : Rejoins text step := by
  intro pos within last
  rw [empty pos within last]

namespace Motion

/-- One native jump of a word motion, from a caret to the next. The other motions have no jumps. -/
def jump (motion : Motion) (text : List Char) (pos : Nat) : Nat :=
  match motion with
  | .wordForward => Draft.stepped text (.right .word) pos
  | .wordEnd => Draft.stepped text (.left .char) (Draft.stepped text (.right .word) pos)
  | .wordBackward => Draft.stepped text (.left .word) pos
  | .left | .right | .up | .down | .firstLine | .lastLine => min pos text.length

theorem jump_le_length (motion : Motion) (text : List Char) (pos : Nat) :
    motion.jump text pos ≤ text.length := by
  cases motion with
  | wordForward | wordEnd | wordBackward => exact Draft.stepped_le_length text _ _
  | left | right | up | down | firstLine | lastLine => exact Nat.min_le_right _ _

theorem rejoins_jump {motion : Motion} (word : motion.isWord = true) (text : List Char) :
    Text.Rejoins text (motion.jump text) := by
  cases motion with
  | wordForward =>
      intro pos within last
      change Draft.stepped text (.right .word) (text.length - 1) = Draft.stepped text (.right .word) text.length
      rw [Draft.stepped_wordRight_length]
      rcases Nat.eq_zero_or_pos text.length with empty | positive
      · have same : text.length - 1 = text.length := by omega
        rw [same, Draft.stepped_wordRight_length]
      · have inside : text.length - 1 < text.length := Nat.sub_one_lt (Nat.ne_of_gt positive)
        have onward := Draft.lt_stepped_wordRight inside
        have ends := Draft.stepped_le_length text (.right .word) (text.length - 1)
        omega
  | wordEnd =>
      refine Text.rejoins_of_empty fun pos within last => ?_
      have right := Draft.stepped_le_length text (.right .word) pos
      have left : Draft.stepped text (.left .char) (Draft.stepped text (.right .word) pos) = text.length := last
      rw [Draft.stepped_left right] at left
      omega
  | wordBackward =>
      refine Text.rejoins_of_empty fun pos within last => ?_
      have jumped : Draft.stepped text (.left .word) pos = text.length := last
      rcases Nat.eq_zero_or_pos pos with rfl | positive
      · exact jumped.symm.trans (Nat.zero_min _)
      · have back := Draft.stepped_wordLeft_lt positive within
        omega
  | left | right | up | down | firstLine | lastLine => cases word

/-- The offset to which a motion with a count leads, in a field that can be read or in one that cannot. -/
def landing (motion : Motion) (readable : Bool) (text : List Char) (count pos : Nat) : Nat :=
  if motion.isWord && !readable then (motion.jump text)^[count] pos else motion.reach text count pos

/-- The offset from which a motion counts, in a field that can be read or in one that cannot. -/
def departure (motion : Motion) (readable : Bool) (d : Draft) : Nat :=
  if motion.isWord && readable then d.start else d.leftward

theorem reach_add (motion : Motion) {text : List Char} {pos : Nat} (first second : Nat) :
    motion.reach text (first + second) pos = motion.reach text second (motion.reach text first pos) := by
  cases motion with
  | left => exact Nat.sub_add_eq pos first second
  | right =>
      change min text.length (pos + (first + second)) = min text.length (min text.length (pos + first) + second)
      omega
  | up | down =>
      rw [reach, Nat.add_comm, Function.iterate_add_apply]
      rfl
  | wordForward | wordEnd | wordBackward => exact Text.repeatStep_add _ first second
  | firstLine | lastLine => rfl

theorem landing_add (motion : Motion) (readable : Bool) (text : List Char) (first second pos : Nat) :
    motion.landing readable text (first + second) pos =
      motion.landing readable text second (motion.landing readable text first pos) := by
  unfold landing
  split
  · rw [Nat.add_comm, Function.iterate_add_apply]
  · exact motion.reach_add first second

theorem landing_le_length (motion : Motion) (readable : Bool) {text : List Char} {pos : Nat}
    (within : pos ≤ text.length) (count : Nat) : motion.landing readable text count pos ≤ text.length := by
  unfold landing
  split
  · exact Text.iterate_le_length (motion.jump_le_length text) within count
  · exact motion.reach_le_length within count

/-- Where a motion has led to the end of the text, one more leads from the last character to where it leads from
the end. -/
theorem landing_pred {motion : Motion} {readable : Bool} (steps : ¬ (motion.isWord && readable) = true)
    {text : List Char} {pos : Nat} (within : pos ≤ text.length) {first second : Nat} (led : 1 ≤ first)
    (leads : 1 ≤ second) (last : motion.landing readable text first pos = text.length) :
    motion.landing readable text second (text.length - 1) =
      motion.landing readable text second text.length := by
  unfold landing at last ⊢
  split at last
  · next native =>
      have word : motion.isWord = true := (Bool.and_eq_true _ _ ▸ native).1
      rw [if_pos native, if_pos native]
      exact (rejoins_jump word text).iterate (motion.jump_le_length text) within led leads last
  · next native =>
      rw [if_neg native, if_neg native]
      cases motion with
      | left =>
          change pos - first = text.length at last
          change text.length - 1 - second = text.length - second
          omega
      | right =>
          change min text.length (text.length - 1 + second) = min text.length (text.length + second)
          omega
      | up =>
          -- No step up leads to the end of a text that is not empty.
          have meets : Text.Rejoins text (lineUp text) :=
            Text.rejoins_of_empty fun _ _ => Text.length_eq_zero_of_lineUp
          exact meets.iterate (Text.lineUp_le_length text) within led leads last
      | down =>
          have meets : Text.Rejoins text (lineDown text) := fun _ _ _ =>
            (Text.lineDown_pred text).trans (Text.lineDown_length text).symm
          exact meets.iterate (Text.lineDown_le_length text) within led leads last
      | wordForward | wordEnd | wordBackward =>
          cases readable with
          | true => exact absurd rfl steps
          | false => exact absurd rfl native
      | firstLine | lastLine => rfl

/-- The block shown where a motion has led leads the next one on from there. -/
theorem landing_departure (motion : Motion) (readable : Bool) {text : List Char} {pos : Nat}
    (within : pos ≤ text.length) {first second : Nat} (led : 1 ≤ first) (leads : 1 ≤ second) :
    let there := motion.landing readable text first pos
    motion.landing readable text second
        (motion.departure readable ⟨text, there, min (there + 1) text.length⟩) =
      motion.landing readable text second there := by
  intro there
  have inside : there ≤ text.length := motion.landing_le_length readable within first
  unfold departure
  split
  · have start := congrArg Selection.offset (Draft.selection_shown inside)
    exact congrArg (motion.landing readable text second) start
  · next steps =>
      -- The left arrow only leaves the offset where there was no character to show.
      rw [Draft.leftward_shown inside]
      split
      · rfl
      · next outside =>
          have last : there = text.length := Nat.le_antisymm inside (Nat.le_of_not_lt outside)
          rw [last]
          exact landing_pred steps within led leads last

section

variable {f : TextField} (bounds : f.draft.InBounds)

include bounds

theorem departure_le_length (motion : Motion) (readable : Bool) :
    motion.departure readable f.draft ≤ f.text.length := by
  have start : f.draft.start ≤ f.text.length := Draft.start_le_length bounds
  unfold departure
  split
  · exact start
  · exact Nat.le_trans f.draft.leftward_le start

/-- Where the field cannot be read, a word motion is a number of native jumps. -/
theorem draft_nativePlan (hidden : f.introspection = false) (search : Nat → List Char → Option Nat)
    {combination : List Keystroke} {step : Nat → Nat}
    (once : ∀ {g : TextField} {pos : Nat}, g.draft = ⟨f.text, pos, pos⟩ →
      (Control.injectAll g combination).draft = ⟨f.text, step pos, step pos⟩) (count : Nat) :
    (Control.injectAll f (wordPlan search combination count f).now).draft =
      let there := step^[count] f.draft.leftward
      ⟨f.text, there, there⟩ := by
  have strokes : (wordPlan search combination count f).now = .plain .left :: repeated combination count := by
    rw [wordPlan, TextField.passage?_of_hidden hidden]
    exact Plan.now_collapsing combination count
  rw [strokes]
  exact TextField.draft_repeated once (draft_left bounds) count

theorem draft_landing (motion : Motion) (count : Nat) :
    (Control.injectAll f (motion.plan count f).now).draft =
      let there := motion.landing f.introspection f.text count (motion.departure f.introspection f.draft)
      ⟨f.text, there, there⟩ := by
  by_cases native : (motion.isWord && !f.introspection) = true
  · obtain ⟨word, hidden⟩ := (Bool.and_eq_true _ _).mp native
    have hidden : f.introspection = false := (Bool.not_eq_true' _).mp hidden
    rw [landing, if_pos native, departure, hidden, Bool.and_false, if_neg Bool.false_ne_true]
    cases motion with
    | wordForward =>
        exact draft_nativePlan bounds hidden _
          (TextField.draft_arrow (.option .right) (.right .word) rfl) count
    | wordEnd =>
        refine draft_nativePlan bounds hidden _ (fun caret => ?_) count
        have right := TextField.draft_arrow (.option .right) (.right .word) rfl caret
        exact TextField.draft_arrow (.plain .left) (.left .char) rfl right
    | wordBackward =>
        exact draft_nativePlan bounds hidden _ (TextField.draft_arrow (.option .left) (.left .word) rfl) count
    | left | right | up | down | firstLine | lastLine => cases word
  · have readable : motion.isWord = true → f.introspection = true := by
      intro word
      rw [word, Bool.true_and, Bool.not_eq_true', Bool.not_eq_false] at native
      exact native
    have origin : motion.departure f.introspection f.draft = motion.origin f.draft := by
      unfold departure Motion.origin
      cases word : motion.isWord with
      | true => rw [readable word]; rfl
      | false => rfl
    rw [landing, if_neg native, origin]
    exact motion.draft_plan bounds readable count

end

end Motion

theorem TextField.introspection_injectAll (f : TextField) (strokes : List Keystroke) :
    (Control.injectAll f strokes).introspection = f.introspection := by
  induction strokes generalizing f with
  | nil => rfl
  | cons stroke rest ih => exact (ih (Control.inject f stroke)).trans (introspection_press (f.record stroke) stroke)

namespace Editor

/-! ## Two motions and one -/

/-- A count and a key are typed, among any ticks, and a last tick comes once the delay has passed. -/
inductive Types (settle count : Nat) (c : Char) : List Input → Prop where
  | intro {digits : List Char} (spelled : SpellsCount digits count) {inputs : List Input}
      (typed : presses inputs = KeyPress.ofText (digits ++ [c])) {later : Nat}
      (waited : ∀ time ∈ keyTimes inputs, time + settle ≤ later) :
      Types settle count c (inputs ++ [.tick later])

/-- The block has been led to an offset, and the editor waits for the next command as before. -/
structure Led (e after : Editor TextField) (there : Nat) : Prop where
  rests : after.Rests
  fresh : after.modes.normal.keys = []
  reader : after.modes.normal.reader = e.modes.normal.reader
  settle : after.settle = e.settle
  failed : after.failed = e.failed
  introspection : after.control.introspection = e.control.introspection
  content : TextField.SameContent e.control after.control
  draft : after.control.draft = ⟨e.control.text, there, min (there + 1) e.control.text.length⟩

variable {e : Editor TextField}

theorem led_by_motion (rests : e.Rests) (fresh : e.modes.normal.keys = []) (bounds : e.control.draft.InBounds)
    {motion : Motion} {count : Nat} (positive : 1 ≤ count) (allowed : count ≤ e.modes.normal.reader.maxCount)
    (small : count ≤ countLimit) {c : Char} {press : KeyPress} (found : KeyPress.ofChar? c = some press)
    (other : c.isDigit = false) (single : singleKey? (String.singleton c) = some (.motion motion))
    (fits : (motion.plan count e.control).fits = true) {inputs : List Input} (types : Types e.settle count c inputs) :
    Led e (e.run inputs) (motion.landing e.control.introspection e.control.text count
      (motion.departure e.control.introspection e.control.draft)) := by
  cases types with
  | @intro _ spelled typing typed later waited =>
      obtain ⟨rested, ran⟩ :=
        run_of_motion rests fresh positive allowed small spelled found other single fits typed waited
      have sent : (e.run (typing ++ [.tick later])).control = Control.injectAll e.control _ :=
        congrArg Editor.control ran
      refine ⟨rested, congrArg (·.modes.normal.keys) ran, congrArg (·.modes.normal.reader) ran,
        congrArg (·.settle) ran, congrArg (·.failed) ran, ?_, ?_, ?_⟩
      · rw [sent]
        exact TextField.introspection_injectAll _ _
      · rw [sent]
        exact .injectAll e.control (motion.moves_plan count e.control)
      · rw [sent, Control.injectAll_append, motion.settled_plan]
        refine (TextField.draft_shiftRight _).trans ?_
        rw [motion.draft_landing bounds count]

theorem failed_by_motion (rests : e.Rests) (fresh : e.modes.normal.keys = []) {motion : Motion} {count : Nat}
    (positive : 1 ≤ count) (allowed : count ≤ e.modes.normal.reader.maxCount) (small : count ≤ countLimit) {c : Char}
    {press : KeyPress} (found : KeyPress.ofChar? c = some press) (other : c.isDigit = false)
    (single : singleKey? (String.singleton c) = some (.motion motion))
    (unfit : (motion.plan count e.control).fits = false) {inputs : List Input} (types : Types e.settle count c inputs) :
    e.run inputs = { e.withNormal e.modes.normal.cleared with failed := true } := by
  cases types with
  | intro spelled typed waited =>
      have reads := NormalMode.reads_counted fresh spelled positive allowed small found other single
      rw [← typed, ← presses_tick] at reads
      exact rests.failed_of_reads reads trivial unfit

/-- When the same motion twice leads where it leads once with both counts together, and edits nothing: always, but
for jumps to word ends in a field that cannot be read. Those take two strokes each, and when 64 bits cannot count
them the editor fails. -/
theorem motion_counts_add_iff (works : e.failed = false) (rests : e.Rests) (fresh : e.modes.normal.keys = [])
    (bounds : e.control.draft.InBounds) {c : Char} (key : c ∈ ['h', 'j', 'k', 'l', 'w', 'e', 'b'])
    {first second : Nat} (led : 1 ≤ first) (leads : 1 ≤ second)
    (allowed : first + second ≤ e.modes.normal.reader.maxCount) (small : first + second ≤ countLimit)
    {one another both : List Input} (typesOne : Types e.settle first c one)
    (typesAnother : Types e.settle second c another) (typesBoth : Types e.settle (first + second) c both) :
    let twice := e.run (one ++ another)
    let once := e.run both
    (twice.failed = false ∧ once.failed = false ∧
      twice.control.text = once.control.text ∧ twice.control.selection = once.control.selection ∧
      twice.control.draft = once.control.draft ∧ TextField.SameContent e.control twice.control ∧
      twice.mode = .normal ∧ twice.deadline? = none ∧ once.mode = .normal ∧ once.deadline? = none) ↔
    (c = 'e' → e.control.introspection = false → 2 * (first + second) < UInt64.size) := by
  intro twice once
  have named : ∃ motion press, KeyPress.ofChar? c = some press ∧ c.isDigit = false ∧
      singleKey? (String.singleton c) = some (.motion motion) ∧ (motion = .wordEnd ↔ c = 'e') := by
    simp only [List.mem_cons, List.not_mem_nil, or_false] at key
    rcases key with rfl | rfl | rfl | rfl | rfl | rfl | rfl <;> exact ⟨_, _, rfl, rfl, rfl, by decide⟩
  obtain ⟨motion, press, found, other, single, jumps⟩ := named
  have counted : ∀ count, (motion.plan count e.control).fits = true ↔
      (c = 'e' → e.control.introspection = false → 2 * count < UInt64.size) := by
    intro count
    rw [motion.fits_plan_iff bounds, jumps]
  have allowedFirst := Nat.le_trans (Nat.le_add_right first second) allowed
  have allowedSecond := Nat.le_trans (Nat.le_add_left second first) allowed
  have smallFirst := Nat.le_trans (Nat.le_add_right first second) small
  have smallSecond := Nat.le_trans (Nat.le_add_left second first) small
  refine ⟨fun done => ?_, fun few => ?_⟩
  · rw [← counted]
    by_contra unfit
    have failed := failed_by_motion rests fresh (Nat.le_add_right_of_le led) allowed small found other single
      (Bool.eq_false_iff.mpr unfit) typesBoth
    cases done.2.1.symm.trans (congrArg Editor.failed failed)
  have fewFirst := (counted first).mpr fun e hidden => by have := few e hidden; omega
  have ledOnce := led_by_motion rests fresh bounds (Nat.le_add_right_of_le led) allowed small
    found other single ((counted _).mpr few) typesBoth
  have ledOne := led_by_motion rests fresh bounds led allowedFirst smallFirst found other single fewFirst typesOne
  have within := motion.departure_le_length bounds e.control.introspection
  have shown : (e.run one).control.draft.InBounds := by
    rw [ledOne.draft]
    exact ⟨motion.landing_le_length _ within first, Nat.min_le_right _ _⟩
  have fewSecond : (motion.plan second (e.run one).control).fits = true := by
    rw [motion.fits_plan_iff shown, ledOne.introspection, jumps]
    intro e hidden
    have := few e hidden
    omega
  rw [← ledOne.settle] at typesAnother
  have ledAnother := led_by_motion ledOne.rests ledOne.fresh shown leads (by rw [ledOne.reader]; exact allowedSecond)
    smallSecond found other single fewSecond typesAnother
  rw [ledOne.introspection, ledOne.content.text, ledOne.draft,
    motion.landing_departure _ within led leads, ← motion.landing_add] at ledAnother
  have ran : twice = (e.run one).run another := run_append e one another
  rw [← ran] at ledAnother
  have drawn := ledAnother.draft
  rw [ledOne.content.text] at drawn
  have same : twice.control.draft = once.control.draft := drawn.trans ledOnce.draft.symm
  have worked : twice.failed = false := ledAnother.failed.trans (ledOne.failed.trans works)
  exact ⟨worked, ledOnce.failed.trans works, congrArg Draft.text same, congrArg Draft.selection same, same,
    ledOne.content.trans ledAnother.content, ledAnother.rests.1, ledAnother.rests.deadline,
    ledOnce.rests.1, ledOnce.rests.deadline⟩

/-- Two words and one more in a field that cannot be read, from a selection made backwards. -/
theorem motion_counts_add_iff_of_unreadable :
    let text := "one two three four".toList
    let field := { TextField.ofText text with draft := ⟨text, 5, 1⟩, introspection := false }
    let start := { Settings.usual with startMode := .normal }.editor field
    let one : List Input := (KeyPress.ofText ['2', 'w']).map (.key · 0) ++ [.tick 5]
    let another : List Input := (KeyPress.ofText ['w']).map (.key · 6) ++ [.tick 11]
    let both : List Input := (KeyPress.ofText ['3', 'w']).map (.key · 0) ++ [.tick 5]
    (start.run one).control.selection = ⟨7, 1⟩ ∧ (start.run both).control.selection = ⟨13, 1⟩ ∧
      (start.run (one ++ another)).control.selection = ⟨13, 1⟩ := by
  intro text field start one another both
  have bounds : field.draft.InBounds := ⟨by decide, by decide⟩
  have two : SpellsCount ['2'] 2 := .inl (by decide)
  have implied : SpellsCount [] 1 := .inr ⟨rfl, rfl⟩
  have three : SpellsCount ['3'] 3 := .inl (by decide)
  have typesOne : Types start.settle 2 'w' one := .intro two (by decide) (by decide)
  have typesAnother : Types start.settle 1 'w' another := .intro implied (by decide) (by decide)
  have typesBoth : Types start.settle 3 'w' both := .intro three (by decide) (by decide)
  have twoWords : (start.run one).control.selection = ⟨7, 1⟩ := by decide +kernel
  have threeWords : (start.run both).control.selection = ⟨13, 1⟩ := by decide +kernel
  have law := motion_counts_add_iff (e := start) rfl ⟨rfl, rfl⟩ rfl bounds (by decide) (by decide)
    (by decide) (by decide) (by decide) typesOne typesAnother typesBoth
  obtain ⟨-, -, -, selection, -⟩ := law.mpr nofun
  exact ⟨twoWords, threeWords, selection.trans threeWords⟩

/-- The jumps of either half could be counted, but those of both halves are two strokes for each of half the 64-bit
numbers. -/
theorem motion_counts_too_many :
    let field := ((TextField.ofText "one two".toList).withIntrospection false).select ⟨0, 1⟩
    let start := { Settings.usual with startMode := .normal, maxCount := countLimit }.editor field
    let half := UInt64.size / 4
    let both : List Input := (KeyPress.ofText "9223372036854775808e".toList).map (.key · 0) ++ [.tick 5]
    field.draft.InBounds ∧ start.Rests ∧ start.modes.normal.keys = [] ∧ start.failed = false ∧
      half + half ≤ start.modes.normal.reader.maxCount ∧ Types start.settle (half + half) 'e' both ∧
      (Motion.plan .wordEnd half field).fits = true ∧ (start.run both).failed = true := by
  intro field start half both
  have spelled : SpellsCount "9223372036854775808".toList (half + half) := .inl (by decide +kernel)
  have types : Types start.settle (half + half) 'e' both := .intro spelled (by decide +kernel) (by decide +kernel)
  exact ⟨Draft.inBounds_select _ _, ⟨rfl, rfl⟩, rfl, rfl, by decide, types, by decide, by decide +kernel⟩

end Editor

end ModalKeys
