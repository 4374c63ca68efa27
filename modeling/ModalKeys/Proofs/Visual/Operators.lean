import ModalKeys.Proofs.Editor.Injecting
import ModalKeys.Proofs.Editor.Reachable
import ModalKeys.Proofs.Editor.Tidy
import ModalKeys.Proofs.Normal.Typing
import ModalKeys.Proofs.TextField.Arrows

/-!
# Operators on a selection

An operator of a Visual mode deletes with a backspace. That takes the selection when there is one; when
motions have brought the selection back to nothing, it takes the character before the caret.
-/

namespace ModalKeys

namespace Draft

def unselected (d : Draft) : List Char := d.text.take d.start ++ d.text.drop d.stop

variable {d : Draft}

theorem backspaced_of_hasSelection (selected : d.hasSelection = true) :
    d.backspaced = ⟨d.unselected, d.start, d.start⟩ := by
  rw [backspaced, if_pos selected, splice, List.append_nil]
  rfl

theorem start_stop_of_caret (caret : d.IsCaret) : d.start = d.head ∧ d.stop = d.head := by
  unfold IsCaret at caret
  unfold start stop
  omega

/-- A backspace takes out what is selected and nothing else, unless it has nothing but the character
before the caret to take. -/
theorem text_backspaced_iff (bounds : d.InBounds) :
    d.backspaced.text = d.unselected ↔ d.start < d.stop ∨ d.start = 0 := by
  by_cases selected : d.hasSelection = true
  · rw [backspaced_of_hasSelection selected]
    exact iff_of_true rfl (.inl (hasSelection_iff.mp selected))
  · have caret := TextField.isCaret_of_not_hasSelection selected
    have within := bounds.head
    obtain ⟨first, last⟩ := start_stop_of_caret caret
    rw [backspaced_of_caret caret, unselected, splice, first, last, List.append_nil]
    constructor
    · intro same
      have lengths := congrArg List.length same
      rw [Text.length_take_append_drop within,
        Text.length_take_append_drop (Nat.le_trans (Nat.sub_le d.head 1) within)] at lengths
      omega
    · rintro (beyond | zero)
      · exact absurd beyond (Nat.lt_irrefl d.head)
      · rw [zero]

theorem backspaced_eq_iff (bounds : d.InBounds) :
    d.backspaced = ⟨d.unselected, d.start, d.start⟩ ↔ d.start < d.stop ∨ d.start = 0 := by
  constructor
  · intro same
    exact (text_backspaced_iff bounds).mp (congrArg text same)
  · intro taken
    by_cases selected : d.hasSelection = true
    · exact backspaced_of_hasSelection selected
    · have caret := TextField.isCaret_of_not_hasSelection selected
      have zero := taken.resolve_left (mt hasSelection_iff.mpr selected)
      have head : d.head = 0 := (start_stop_of_caret caret).1.symm.trans zero
      rw [← (text_backspaced_iff bounds).mpr taken, backspaced_of_caret caret, zero, head]
      rfl

end Draft

namespace TextField

theorem kept_of_copy (f : TextField) :
    (Control.inject f (.command .c)).text = f.text ∧
      (Control.inject f (.command .c)).clipboard =
        if f.draft.start < f.draft.stop then f.draft.selected else f.clipboard := by
  change (f.record (.command .c)).copy.text = _ ∧ (f.record (.command .c)).copy.clipboard = _
  have same : (f.record (.command .c)).draft = f.draft := rfl
  unfold copy
  rw [same]
  by_cases selected : f.draft.hasSelection = true
  · rw [if_pos selected, if_pos (Draft.hasSelection_iff.mp selected)]
    exact ⟨rfl, rfl⟩
  · rw [if_neg selected, if_neg (mt Draft.hasSelection_iff.mpr selected)]
    exact ⟨rfl, rfl⟩

end TextField

namespace Editor

variable {κ : Type} [Target κ] {e : Editor κ}

/-- The operators act when no keys have been gathered. -/
theorem answer_of_operator (visual : e.mode = .visual ∨ e.mode = .visualLine)
    (fresh : e.selecting.keys = []) {press : KeyPress} (plain : press.isEscape = false) {deletes : Bool}
    {response : Response} (operator : VisualMode.operator? press.name = some (deletes, response))
    (now : Nat) :
    e.answer press now =
      respond response
        (e.withSelecting { e.selecting with consumed := e.selecting.consumed || deletes }) now := by
  have heard : e.selecting.key press =
      ({ e.selecting with consumed := e.selecting.consumed || deletes }, response) := by
    simp [VisualMode.key, plain, fresh, operator]
  rw [answer_of_visual visual, heard]

theorem run_of_operator (visual : e.mode = .visual ∨ e.mode = .visualLine) (idle : e.queue = [])
    (fresh : e.selecting.keys = []) {press : KeyPress} (typed : press.synthetic = false)
    (plain : press.isEscape = false) {deletes : Bool} {response : Response}
    (operator : VisualMode.operator? press.name = some (deletes, response))
    (kept : ∀ (e : Editor κ) now, (respond response e now).2 = true) (now : Nat) (rest : List Input) :
    e.run (.key press now :: rest) =
      (respond response
        (e.withSelecting { e.selecting with consumed := e.selecting.consumed || deletes }) now).1.run
        rest := by
  have handled := (key_of_idle (away_of_visual visual) idle typed now).trans
    (answer_of_operator visual fresh plain operator now)
  have passed : (e.key press now).2 = true := by
    rw [handled]
    exact kept _ now
  rw [run_cons, take, deliver_of_kept e press now passed, handled]

/-- Time after a change of the mode: only Normal mode has something to wait for, its block. -/
theorem run_of_entered {due : Nat} (queued : e.queue = entryQueue e.mode due)
    (free : e.detector.held = none) (enters : e.mode = .normal ∨ e.mode = .insert) {rest : List Input}
    (silent : presses rest = []) :
    e.run rest = e ∨ e.mode = .normal ∧ e.run rest = { e with queue := [] }.inject [.shifted .right] := by
  rcases enters with normal | inside
  · rw [entryQueue, if_pos normal] at queued
    rcases run_of_deferred_cases normal queued silent with waiting | shown
    · exact .inl waiting
    · exact .inr ⟨normal, shown⟩
  · have idle : e.queue = [] := by
      rw [queued, inside]
      rfl
    exact .inl (run_of_still (tick_of_vacant inside idle free) silent)

/-- What reaches the control on the way out of a Visual mode and in the time after that. -/
theorem exists_shown_of_left {reader : CommandReader} (tidy : e.Tidy reader)
    (visual : e.mode = .visual ∨ e.mode = .visualLine) (idle : e.queue = []) (m : VisualMode)
    (strokes : List Keystroke) {target : Mode} (leaves : target = .normal ∨ target = .insert) (now : Nat)
    {rest : List Input} (silent : presses rest = []) :
    let after := (((e.withSelecting m).inject strokes).setMode target now).run rest
    let collapse : List Keystroke := if m.consumed then [] else [.plain .left]
    after.mode = target ∧ ∃ shown, (shown = [] ∨ target = .normal ∧ shown = [.shifted .right]) ∧
      after.control = Control.injectAll e.control (strokes ++ collapse ++ shown) := by
  intro after collapse
  let here := (e.withSelecting m).inject strokes
  have away : target ≠ here.mode := by
    change target ≠ e.mode
    rcases visual with mode | mode <;> rcases leaves with rfl | rfl <;> rw [mode] <;> nofun
  have outside : e.mode ≠ .insert := away_of_visual visual
  have sent : (here.setMode target now).control = Control.injectAll e.control (strokes ++ collapse) := by
    rw [control_setMode_of_visual (e := here) visual leaves, Control.injectAll_append,
      show here.selecting = m from selecting_withSelecting e m]
    rfl
  have queued : (here.setMode target now).queue =
      entryQueue (here.setMode target now).mode (now + e.settle) := by
    rw [queue_setMode here away, show here.queue = [] from idle, mode_setMode]
    rfl
  have free : (here.setMode target now).detector.held = none := by
    rw [detector_setMode here away, if_neg (show here.mode ≠ .insert from outside)]
    exact (congrArg Detector.held (Orderly.detector_withSelecting e m)).trans
      (tidy.vacant .insert (Ne.symm outside))
  have entered := run_of_entered queued free (by rwa [mode_setMode]) silent
  rw [mode_setMode] at entered
  rcases entered with same | ⟨normal, shown⟩
  · refine ⟨(congrArg Editor.mode same).trans (mode_setMode here target now), [], .inl rfl, ?_⟩
    rw [List.append_nil]
    exact (congrArg Editor.control same).trans sent
  · refine ⟨congrArg Editor.mode shown, _, .inr ⟨normal, rfl⟩, ?_⟩
    rw [Control.injectAll_append, ← sent]
    exact congrArg Editor.control shown

omit [Target κ] in
theorem visual_of_gathered (isVisual : e.mode.isVisual = true) (empty : e.modes.gathered e.mode = []) :
    (e.mode = .visual ∨ e.mode = .visualLine) ∧ e.selecting.keys = [] := by
  unfold selecting
  cases mode : e.mode with
  | normal | insert =>
      rw [mode] at isVisual
      cases isVisual
  | visual =>
      rw [mode] at empty
      exact ⟨.inl rfl, empty⟩
  | visualLine =>
      rw [mode] at empty
      exact ⟨.inr rfl, empty⟩

/-! ## Operators -/

section TextField

variable {reader : CommandReader} {e : Editor TextField} (tidy : e.Tidy reader)
  (visual : e.mode = .visual ∨ e.mode = .visualLine) (idle : e.queue = [])
  (fresh : e.selecting.keys = []) {press : KeyPress} (typed : press.synthetic = false)
  (plain : press.isEscape = false) {rest : List Input} (silent : presses rest = [])

include tidy visual idle fresh typed plain silent

/-- An operator that deletes is one backspace; the block of Normal mode comes after it. -/
theorem deleted_by_operator {target : Mode} (leaves : target = .normal ∨ target = .insert)
    (operator : VisualMode.operator? press.name =
      some (true, .all [.inject (.plain .backspace), .switchMode target])) (now : Nat) :
    let after := e.run (.key press now :: rest)
    after.mode = target ∧ after.control.text = e.control.draft.backspaced.text ∧
      (target = .insert → after.control.draft = e.control.draft.backspaced) := by
  intro after
  have ran := run_of_operator visual idle fresh typed plain operator (fun _ _ => rfl) now rest
  rw [Bool.or_true] at ran
  obtain ⟨mode, shown, shows, control⟩ := exists_shown_of_left tidy visual idle
    { e.selecting with consumed := true } [.plain .backspace] leaves now silent
  change after = _ at ran
  rw [← TextField.draft_backspace]
  refine ⟨(congrArg Editor.mode ran).trans mode, ?_⟩
  have sent : after.control = Control.injectAll (Control.inject e.control (.plain .backspace)) shown :=
    (congrArg Editor.control ran).trans control
  rcases shows with rfl | ⟨normal, rfl⟩
  · rw [sent]
    exact ⟨rfl, fun _ => rfl⟩
  · rw [sent]
    refine ⟨(TextField.SameContent.inject _ ⟨_, _, rfl⟩).text, fun inside => ?_⟩
    cases normal.symm.trans inside

/-- The operator that copies collapses the selection afterwards. -/
theorem copied_by_operator (operator : VisualMode.operator? press.name =
      some (false, .all [.run ((Command.edit .yank).times 1), .switchMode .normal])) (now : Nat) :
    let after := e.run (.key press now :: rest)
    after.mode = .normal ∧ after.control.text = e.control.text ∧
      after.control.clipboard =
        if e.control.draft.start < e.control.draft.stop then e.control.draft.selected
        else e.control.clipboard := by
  intro after
  have ran := run_of_operator visual idle fresh typed plain operator (fun _ _ => rfl) now rest
  have unconsumed := (tidy.selecting visual).unconsumed
  obtain ⟨mode, shown, shows, control⟩ := exists_shown_of_left tidy visual idle e.selecting
    [.command .c] (.inl rfl) now silent
  rw [Bool.or_false] at ran
  change after = _ at ran
  rw [unconsumed] at control
  refine ⟨(congrArg Editor.mode ran).trans mode, ?_⟩
  let copied := Control.inject e.control (.command .c)
  let collapsed := Control.inject copied (.plain .left)
  have sent : after.control = Control.injectAll collapsed shown := by
    refine (congrArg Editor.control ran).trans (control.trans ?_)
    rw [Control.injectAll_append]
    rfl
  have kept : TextField.SameContent copied after.control := by
    have left : TextField.SameContent copied collapsed := .inject copied ⟨_, _, rfl⟩
    rw [sent]
    rcases shows with rfl | ⟨_, rfl⟩
    · exact left
    · exact left.trans (.inject collapsed ⟨_, _, rfl⟩)
  rw [kept.text, kept.clipboard]
  exact TextField.kept_of_copy e.control

end TextField

/-- An operator typed in a Visual mode takes exactly the selected text, whatever has been typed before;
one that deletes does so unless nothing is selected and there is a character before the caret. -/
theorem operators_take_selection_iff (settings : Settings) {field : TextField} (bounds : field.InBounds)
    (inputs : List Input) :
    let e := (settings.editor field).run inputs
    let first := e.control.selection.offset
    let last := e.control.selection.stop
    let remaining := e.control.text.take first ++ e.control.text.drop last
    e.mode.isVisual = true → e.modes.gathered e.mode = [] →
    ∀ press now rest, press.synthetic = false → press.isEscape = false → presses rest = [] →
      let after := e.run (.key press now :: rest)
      (press.name = "d" ∨ press.name = "x" →
        after.mode = .normal ∧ (after.control.text = remaining ↔ first < last ∨ first = 0)) ∧
      (press.name = "c" ∨ press.name = "s" →
        after.mode = .insert ∧
          (after.control.draft = ⟨remaining, first, first⟩ ↔ first < last ∨ first = 0)) ∧
      (press.name = "y" →
        after.mode = .normal ∧ after.control.text = e.control.text ∧
          after.control.clipboard =
            if first < last then (e.control.text.drop first).take (last - first)
            else e.control.clipboard) := by
  intro e first last remaining isVisual empty press now rest typed plain silent after
  have tidy : e.Tidy (.upTo settings.maxCount) := (Tidy.start _ _ _ _ field).run inputs
  have orderly : e.Orderly settings.chords := (Orderly.start settings field).run inputs
  have inBounds : e.control.InBounds := TextField.InBounds.run (e := settings.editor field) bounds inputs
  obtain ⟨visual, fresh⟩ := visual_of_gathered isVisual empty
  have idle : e.queue = [] :=
    orderly.idle_of_away (by rcases visual with mode | mode <;> rw [mode] <;> nofun)
  have stop : last = e.control.draft.stop := Draft.stop_selection e.control.draft
  have left : remaining = e.control.draft.unselected := by
    change e.control.text.take first ++ e.control.text.drop last = _
    rw [stop]
    rfl
  have deleted := fun target (leaves : target = Mode.normal ∨ target = .insert) operator =>
    deleted_by_operator tidy visual idle fresh typed plain silent leaves operator now
  rw [left, stop]
  refine ⟨fun name => ?_, fun name => ?_, fun name => ?_⟩
  · have operator : VisualMode.operator? press.name =
        some (true, .all [.inject (.plain .backspace), .switchMode .normal]) := by
      rcases name with name | name <;> rw [name] <;> rfl
    obtain ⟨mode, text, _⟩ := deleted .normal (.inl rfl) operator
    exact ⟨mode, by rw [text]; exact Draft.text_backspaced_iff inBounds.draft⟩
  · have operator : VisualMode.operator? press.name =
        some (true, .all [.inject (.plain .backspace), .switchMode .insert]) := by
      rcases name with name | name <;> rw [name] <;> rfl
    obtain ⟨mode, _, draft⟩ := deleted .insert (.inr rfl) operator
    exact ⟨mode, by rw [draft rfl]; exact Draft.backspaced_eq_iff inBounds.draft⟩
  · exact copied_by_operator tidy visual idle fresh typed plain silent (by rw [name]; rfl) now

/-- Backwards over a word from its last letter: the selection has its head at the start of the word. -/
theorem operators_take_selection_iff_of_word :
    let field := (TextField.ofText "one two".toList).select ⟨6, 1⟩
    let settings := { Settings.usual with startMode := .normal }
    let e := (settings.editor field).run ((KeyPress.ofText ['v', 'b']).map (.key · 0))
    let pressed (name : String) := e.run [.key ⟨name, .a, false⟩ 0]
    e.control.draft = ⟨"one two".toList, 6, 4⟩ ∧
      (pressed "x").control.text = "one o".toList ∧
      (pressed "s").control.draft = ⟨"one o".toList, 4, 4⟩ ∧
      (pressed "y").control.clipboard = "tw".toList := by
  intro field settings e pressed
  have bounds : field.InBounds := TextField.inBounds_select (TextField.inBounds_ofText _) _
  have draft : e.control.draft = ⟨"one two".toList, 6, 4⟩ := by decide +kernel
  have chosen := fun name plain => operators_take_selection_iff settings bounds
    ((KeyPress.ofText ['v', 'b']).map (.key · 0)) (by decide +kernel) (by decide +kernel)
    ⟨name, .a, false⟩ 0 [] rfl plain rfl
  have proper : e.control.selection.offset < e.control.selection.stop := by decide +kernel
  refine ⟨draft, ?_, ?_, ?_⟩
  · exact (((chosen "x" (by decide)).1 (.inr rfl)).2.mpr (.inl proper)).trans (by decide +kernel)
  · exact (((chosen "s" (by decide)).2.1 (.inr rfl)).2.mpr (.inl proper)).trans (by decide +kernel)
  · exact ((chosen "y" (by decide)).2.2 rfl).2.2.trans (by decide +kernel)

/-- A motion against the block brings the selection back to nothing, and the character before it goes. -/
theorem operator_takes_character_before :
    let field := (TextField.ofText "abc".toList).select ⟨2, 1⟩
    let settings := { Settings.usual with startMode := .normal }
    let e := (settings.editor field).run ((KeyPress.ofText ['v', 'h']).map (.key · 0))
    let after := e.run ((KeyPress.ofText ['d']).map (.key · 0))
    settings.fault? = none ∧ field.InBounds ∧ field.selection.length = 1 ∧
      e.mode = .visual ∧ e.modes.gathered e.mode = [] ∧ e.queue = [] ∧ e.control.selection = ⟨2, 0⟩ ∧
      after.mode = .normal ∧ after.control.text = "ac".toList ∧
      e.control.text.take 2 ++ e.control.text.drop 2 = "abc".toList := by
  intro field settings e after
  exact ⟨by decide +kernel, TextField.inBounds_select (TextField.inBounds_ofText _) _, by decide,
    by decide +kernel, by decide +kernel, List.eq_nil_of_length_eq_zero (by decide +kernel),
    by decide +kernel, by decide +kernel, by decide +kernel, by decide +kernel⟩

end Editor

end ModalKeys
