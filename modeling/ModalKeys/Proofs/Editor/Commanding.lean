import ModalKeys.Proofs.Editor.Inserting

/-!
# An editor outside Insert mode

Normal mode and the Visual modes keep every key. A key is only remembered, or it is the last one of
a command; then strokes are sent, and the mode may change once.
-/

namespace ModalKeys

inductive IsBlock : Keystroke → Prop where
  | left : IsBlock (.shifted .left)
  | right : IsBlock (.shifted .right)

/-- Nothing is left for later but the block cursor. -/
def Plan.EndsInBlock (plan : Plan) : Prop :=
  plan.settled = [] ∨ ∃ stroke, IsBlock stroke ∧ plan.settled = [stroke]

theorem Motion.endsInBlock_plan {κ : Type} [Control κ] (motion : Motion) (count : Nat) (control : κ) :
    (motion.plan count control).EndsInBlock :=
  .inr ⟨_, .right, motion.settled_plan count control⟩

theorem Edit.endsInBlock_plan (edit : Edit) (count : Nat) : (edit.plan count).EndsInBlock := by
  cases edit
  case pasteAfter | pasteBefore => exact .inr ⟨_, .left, rfl⟩
  case deleteChar | deleteLine | deleteToLineEnd | yankLine => exact .inr ⟨_, .right, rfl⟩
  all_goals exact .inl rfl

theorem Counted.endsInBlock_plan {κ : Type} [Control κ] (counted : Counted) (control : κ) :
    (counted.plan control).EndsInBlock := by
  unfold Counted.plan
  split
  · exact Motion.endsInBlock_plan _ _ _
  · exact Edit.endsInBlock_plan _ _
  · exact .inl rfl

theorem Edit.settled_plan_of_entersInsert {edit : Edit} (enters : edit.entersInsert = true)
    (count : Nat) : (edit.plan count).settled = [] := by
  cases edit <;> first | rfl | cases enters

/-- Motions, and edits that are not changes, are carried out within Normal mode. -/
def Command.StaysNormal : Command → Prop
  | .motion _ => True
  | .edit e => e.entersInsert = false
  | .entry _ => False

theorem Counted.command_cases (counted : Counted) :
    counted.command.StaysNormal ∨ (∃ edit, counted.command = .edit edit ∧ edit.entersInsert = true) ∨
      ∃ entry, counted.command = .entry entry := by
  obtain ⟨command, count, positive⟩ := counted
  cases command with
  | motion motion => exact .inl trivial
  | edit edit =>
      cases enters : edit.entersInsert with
      | false => exact .inl enters
      | true => exact .inr (.inl ⟨edit, rfl, enters⟩)
  | entry entry => exact .inr (.inr ⟨entry, rfl⟩)

/-- Where an entry puts the caret once it has left Normal mode. -/
def Entry.positioning : Entry → List Keystroke
  | .insert | .visual | .visualLine => []
  | .insertAfter => [.plain .right]
  | .insertLineStart => [.command .left]
  | .insertLineEnd => [.command .right]
  | .openLineBelow => [.command .right, .plain .enter]
  | .openLineAbove => [.command .left, .plain .enter, .plain .up]

theorem Entry.target_ne_normal (entry : Entry) : entry.target ≠ .normal := by
  cases entry <;> nofun

/-- A key is remembered or dropped, or it completes a command. -/
theorem NormalMode.key_cases (m : NormalMode) (press : KeyPress) :
    (∃ keys, m.key press = ({ m with keys := keys }, .consume)) ∨
      ∃ counted, press.isEscape = false ∧ m.reader.read (m.keys ++ [press.name]) = .complete counted ∧
        m.key press = (m.cleared, counted.response) := by
  unfold key
  cases press.isEscape with
  | true => exact .inl ⟨[], rfl⟩
  | false =>
      cases reading : m.reader.read (m.keys ++ [press.name]) with
      | complete counted => exact .inr ⟨counted, rfl, rfl, by simp [reading]⟩
      | pending => exact .inl ⟨m.keys ++ [press.name], by simp [reading]⟩
      | invalid => exact .inl ⟨[], by simp [reading, cleared]⟩

namespace VisualMode

theorem response_cases (m : VisualMode) (counted : Counted) :
    (∃ strokes, m.response counted = .injectAll strokes) ∨
      ∃ target, target ≠ .insert ∧ m.response counted = .switchMode target := by
  have toggled : ∀ kind, ∃ target, target ≠ .insert ∧ m.toggle kind = .switchMode target := by
    intro kind
    refine ⟨_, ?_, rfl⟩
    split
    · nofun
    · cases kind <;> nofun
  obtain ⟨command, count, positive⟩ := counted
  cases command with
  | motion motion => exact .inl ⟨_, rfl⟩
  | edit edit => exact .inr ⟨.normal, nofun, rfl⟩
  | entry entry =>
      cases entry
      case visual => exact .inr (toggled .charwise)
      case visualLine => exact .inr (toggled .linewise)
      all_goals exact .inr ⟨.normal, nofun, rfl⟩

theorem gather_cases (m : VisualMode) (name : String) :
    (∃ keys, m.gather name = ({ m with keys := keys }, .consume)) ∨
      (∃ strokes, m.gather name = (m.cleared, .injectAll strokes)) ∨
      ∃ target, target ≠ .insert ∧ m.gather name = (m.cleared, .switchMode target) := by
  unfold gather
  dsimp only
  cases m.reader.read (m.keys ++ [name]) with
  | complete counted =>
      rcases m.response_cases counted with ⟨strokes, answered⟩ | ⟨target, away, answered⟩
      · exact .inr (.inl ⟨strokes, by rw [← answered]⟩)
      · exact .inr (.inr ⟨target, away, by rw [← answered]⟩)
  | pending => exact .inl ⟨m.keys ++ [name], rfl⟩
  | invalid => exact .inl ⟨[], rfl⟩

theorem operator?_cases (key : String) :
    (∃ target, (target = .normal ∨ target = .insert) ∧
      operator? key = some (true, .all [.inject (.plain .backspace), .switchMode target])) ∨
    operator? key =
      some (false, .all [.run ((Command.edit .yank).times 1), .switchMode .normal]) ∨
    operator? key = none := by
  unfold operator?
  split
  · exact .inr (.inl rfl)
  · exact .inl ⟨.normal, .inl rfl, rfl⟩
  · exact .inl ⟨.normal, .inl rfl, rfl⟩
  · exact .inl ⟨.insert, .inr rfl, rfl⟩
  · exact .inl ⟨.insert, .inr rfl, rfl⟩
  · exact .inr (.inr rfl)

/-- A key deletes the selection and leaves, copies it and leaves, is gathered, or just leaves. -/
theorem key_cases (m : VisualMode) (press : KeyPress) :
    (∃ target, (target = .normal ∨ target = .insert) ∧
      m.key press = ({ m with consumed := true },
        .all [.inject (.plain .backspace), .switchMode target])) ∨
    m.key press = (m, .all [.run ((Command.edit .yank).times 1), .switchMode .normal]) ∨
    m.key press = m.gather press.name ∨
    m.key press = (m.cleared, .switchMode .normal) := by
  unfold key
  split
  · exact .inr (.inr (.inr rfl))
  · split
    · rcases operator?_cases press.name with ⟨target, away, operator⟩ | operator | operator
      · exact .inl ⟨target, away, by simp only [operator, Bool.or_true]⟩
      · exact .inr (.inl (by simp only [operator, Bool.or_false]))
      · exact .inr (.inr (.inl (by rw [operator])))
    · exact .inr (.inr (.inl rfl))

end VisualMode

namespace Editor

variable {κ : Type}

def withNormal (e : Editor κ) (m : NormalMode) : Editor κ :=
  { e with modes := { e.modes with normal := m } }

def selecting (e : Editor κ) : VisualMode :=
  if e.mode = .visualLine then e.modes.visualLine else e.modes.visual

def withSelecting (e : Editor κ) (m : VisualMode) : Editor κ :=
  { e with
    modes :=
      if e.mode = .visualLine then { e.modes with visualLine := m } else { e.modes with visual := m } }

variable [Control κ]

theorem carryOut_of_atOnce {plan : Plan} (immediate : plan.settled = []) (e : Editor κ) (now : Nat) :
    e.carryOut plan now = e.inject plan.now := by
  rw [carryOut, immediate]
  rfl

theorem answer_of_normal {e : Editor κ} (normal : e.mode = .normal) (press : KeyPress) (now : Nat) :
    e.answer press now =
      let heard := e.modes.normal.key press
      respond heard.2 (e.withNormal heard.1) now := by
  obtain ⟨mode, modes, control, queue, settle⟩ := e
  cases normal
  rfl

theorem normal_cases {e : Editor κ} (normal : e.mode = .normal) (press : KeyPress) (now : Nat) :
    (∃ keys, e.answer press now = (e.withNormal { e.modes.normal with keys := keys }, true)) ∨
      ∃ counted, press.isEscape = false ∧
        e.modes.normal.reader.read (e.modes.normal.keys ++ [press.name]) = .complete counted ∧
        e.answer press now = respond counted.response (e.withNormal e.modes.normal.cleared) now := by
  rw [answer_of_normal normal]
  rcases e.modes.normal.key_cases press with ⟨keys, heard⟩ | ⟨counted, plain, reading, heard⟩
  · exact .inl ⟨keys, by rw [heard]; rfl⟩
  · exact .inr ⟨counted, plain, reading, by rw [heard]⟩

/-- A command that stays in Normal mode is its plan. -/
theorem respond_of_plan {counted : Counted} (stays : counted.command.StaysNormal) (e : Editor κ)
    (now : Nat) : respond counted.response e now = (e.execute counted now, true) := by
  obtain ⟨command, count, positive⟩ := counted
  cases command with
  | motion motion => rfl
  | edit edit =>
      have plain : edit.entersInsert = false := stays
      simp only [Counted.response, plain]
      rfl
  | entry entry => exact stays.elim

/-- A change enters Insert mode and then deletes. -/
theorem respond_of_change {counted : Counted} {edit : Edit} (command : counted.command = .edit edit)
    (enters : edit.entersInsert = true) (e : Editor κ) (now : Nat) :
    respond counted.response e now = ((e.setMode .insert now).execute counted now, true) := by
  simp only [Counted.response, command, enters, ↓reduceIte, respond, respondAll, Bool.and_self]

/-- A change sends only strokes at once, and if they cannot be counted it sends none. -/
theorem execute_of_change {counted : Counted} {edit : Edit} (command : counted.command = .edit edit)
    (enters : edit.entersInsert = true) (e : Editor κ) (now : Nat) :
    e.execute counted now = if (edit.plan counted.count).fits then e.inject (edit.plan counted.count).now
      else { e with failed := true } := by
  have plan : counted.plan e.control = edit.plan counted.count := by simp only [Counted.plan, command]
  rw [execute, plan, carryOut_of_atOnce (Edit.settled_plan_of_entersInsert enters _)]

theorem respond_of_entry {counted : Counted} {entry : Entry} (command : counted.command = .entry entry)
    (e : Editor κ) (now : Nat) :
    respond counted.response e now =
      ((e.setMode entry.target now).inject entry.positioning, true) := by
  simp only [Counted.response, command]
  cases entry <;> rfl

/-- On the way from Normal mode to Insert mode the block is collapsed. -/
theorem control_setMode_of_normal {e : Editor κ} (normal : e.mode = .normal) (now : Nat) :
    (e.setMode .insert now).control = Control.inject e.control (.plain .left) := by
  have away : Mode.insert ≠ e.mode := by rw [normal]; nofun
  rw [control_setMode e away, normal]
  rfl

omit [Control κ] in
theorem away_of_visual {e : Editor κ} (visual : e.mode = .visual ∨ e.mode = .visualLine) : e.mode ≠ .insert := by
  rcases visual with mode | mode <;> rw [mode] <;> nofun

theorem answer_of_visual {e : Editor κ} (visual : e.mode = .visual ∨ e.mode = .visualLine)
    (press : KeyPress) (now : Nat) :
    e.answer press now =
      let heard := e.selecting.key press
      respond heard.2 (e.withSelecting heard.1) now := by
  obtain ⟨mode, modes, control, queue, settle⟩ := e
  rcases visual with mode | mode
  · cases mode
    rfl
  · cases mode
    rfl

theorem visual_cases {e : Editor κ} (visual : e.mode = .visual ∨ e.mode = .visualLine)
    (press : KeyPress) (now : Nat) :
    (∃ m strokes, m.consumed = e.selecting.consumed ∧
      e.answer press now = ((e.withSelecting m).inject strokes, true)) ∨
    (∃ m target, m.consumed = true ∧ (target = .normal ∨ target = .insert) ∧
      e.answer press now =
        (((e.withSelecting m).inject [.plain .backspace]).setMode target now, true)) ∨
    (∃ m strokes target, m.consumed = e.selecting.consumed ∧ (strokes = [] ∨ strokes = [.command .c]) ∧
      target ≠ .insert ∧
      e.answer press now = (((e.withSelecting m).inject strokes).setMode target now, true)) := by
  rw [answer_of_visual visual]
  rcases e.selecting.key_cases press with ⟨target, away, heard⟩ | heard | heard | heard
  · exact .inr (.inl ⟨_, target, rfl, away, by rw [heard]; rfl⟩)
  · exact .inr (.inr ⟨_, [.command .c], .normal, rfl, .inr rfl, nofun, by rw [heard]; rfl⟩)
  · rw [heard]
    rcases e.selecting.gather_cases press.name with
      ⟨keys, gathered⟩ | ⟨strokes, gathered⟩ | ⟨target, away, gathered⟩
    · exact .inl ⟨{ e.selecting with keys := keys }, [], rfl, by rw [gathered]; rfl⟩
    · exact .inl ⟨e.selecting.cleared, strokes, rfl, by rw [gathered, respond_injectAll]⟩
    · exact .inr (.inr ⟨e.selecting.cleared, [], target, rfl, .inl rfl, away, by rw [gathered]; rfl⟩)
  · exact .inr (.inr ⟨e.selecting.cleared, [], .normal, rfl, .inl rfl, nofun, by rw [heard]; rfl⟩)

omit [Control κ] in
@[simp] theorem selecting_withSelecting (e : Editor κ) (m : VisualMode) :
    (e.withSelecting m).selecting = m := by
  unfold selecting withSelecting
  split <;> rfl

/-- A Visual mode is left by collapsing the selection, unless an operator has deleted it. -/
theorem control_setMode_of_visual {e : Editor κ} (visual : e.mode = .visual ∨ e.mode = .visualLine) {target : Mode}
    (leaves : target = .normal ∨ target = .insert) (now : Nat) :
    (e.setMode target now).control =
      Control.injectAll e.control (if e.selecting.consumed then [] else [.plain .left]) := by
  have away : target ≠ e.mode := by
    rcases visual with mode | mode <;> rcases leaves with rfl | rfl <;> rw [mode] <;> nofun
  rw [control_setMode e away, selecting]
  rcases visual with mode | mode <;> rcases leaves with rfl | rfl <;> rw [mode] <;>
    exact congrArg _ (List.append_nil _)

end Editor

end ModalKeys
