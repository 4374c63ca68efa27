import ModalKeys.Proofs.Editor.Leaves
import ModalKeys.Proofs.Editor.Orderly
import ModalKeys.Proofs.Session

/-!
# Modes keep apart

Whatever is done to an editor, a mode that it is not in holds nothing over: no keys, no held key and no
selection taken for deleted. The mode that it is in has gathered only what can still become a command.
-/

namespace ModalKeys

theorem CommandReader.read_nil (reader : CommandReader) : reader.read [] = .pending := rfl

namespace NormalMode

theorem reader_key (m : NormalMode) (press : KeyPress) : (m.key press).1.reader = m.reader := by
  rcases m.key_cases press with ⟨keys, heard⟩ | ⟨counted, _, _, heard⟩
  · rw [heard]
  · rw [heard]
    rfl

/-- Keys that no longer lead to a command are given up. -/
theorem read_key (m : NormalMode) (press : KeyPress) :
    m.reader.read (m.key press).1.keys = .pending := by
  unfold key
  split
  · exact m.reader.read_nil
  · dsimp only
    split
    · exact m.reader.read_nil
    · next reading => exact reading
    · exact m.reader.read_nil

end NormalMode

namespace VisualMode

theorem reader_gather (m : VisualMode) (name : String) : (m.gather name).1.reader = m.reader := by
  rcases m.gather_cases name with ⟨keys, heard⟩ | ⟨strokes, heard⟩ | ⟨target, _, heard⟩ <;>
    rw [heard] <;> rfl

theorem consumed_gather (m : VisualMode) (name : String) : (m.gather name).1.consumed = m.consumed := by
  rcases m.gather_cases name with ⟨keys, heard⟩ | ⟨strokes, heard⟩ | ⟨target, _, heard⟩ <;>
    rw [heard] <;> rfl

theorem read_gather (m : VisualMode) (name : String) :
    m.reader.read (m.gather name).1.keys = .pending := by
  unfold gather
  dsimp only
  split
  · exact m.reader.read_nil
  · next reading => exact reading
  · exact m.reader.read_nil

/-- Ready to gather a command, with a selection that no operator has deleted. -/
structure Waits (reader : CommandReader) (m : VisualMode) : Prop where
  alike : m.reader = reader
  pending : reader.read m.keys = .pending
  unconsumed : m.consumed = false

theorem Waits.cleared {reader : CommandReader} {m : VisualMode} (waits : m.Waits reader) :
    m.cleared.Waits reader :=
  ⟨waits.alike, reader.read_nil, waits.unconsumed⟩

theorem Waits.gather {reader : CommandReader} {m : VisualMode} (waits : m.Waits reader) (name : String) :
    (m.gather name).1.Waits reader := by
  refine ⟨(m.reader_gather name).trans waits.alike, ?_, (m.consumed_gather name).trans waits.unconsumed⟩
  rw [← waits.alike]
  exact m.read_gather name

end VisualMode

namespace ModeSet

def gathered (s : ModeSet) : Mode → List String
  | .normal => s.normal.keys
  | .insert => []
  | .visual => s.visual.keys
  | .visualLine => s.visualLine.keys

/-- The mode holds nothing over from the last time it was entered. -/
def Vacant (s : ModeSet) : Mode → Prop
  | .normal => s.normal.keys = []
  | .insert => s.insert.detector.held = none
  | .visual => s.visual.keys = [] ∧ s.visual.consumed = false
  | .visualLine => s.visualLine.keys = [] ∧ s.visualLine.consumed = false

/-- The mode can take a key: what it has gathered can still become a command. -/
def Waits (reader : CommandReader) (s : ModeSet) : Mode → Prop
  | .normal => reader.read s.normal.keys = .pending
  | .insert => True
  | .visual => s.visual.Waits reader
  | .visualLine => s.visualLine.Waits reader

/-- All modes that read commands read them alike. -/
structure ReadWith (reader : CommandReader) (s : ModeSet) : Prop where
  normal : s.normal.reader = reader
  visual : s.visual.reader = reader
  visualLine : s.visualLine.reader = reader

variable {reader : CommandReader} {s : ModeSet} {mode : Mode}

theorem Vacant.waits (vacant : s.Vacant mode) (alike : s.ReadWith reader) : s.Waits reader mode := by
  cases mode with
  | normal =>
      have empty : s.normal.keys = [] := vacant
      exact (congrArg reader.read empty).trans reader.read_nil
  | insert => trivial
  | visual => exact ⟨alike.visual, (congrArg reader.read vacant.1).trans reader.read_nil, vacant.2⟩
  | visualLine =>
      exact ⟨alike.visualLine, (congrArg reader.read vacant.1).trans reader.read_nil, vacant.2⟩

theorem Vacant.gathered (vacant : s.Vacant mode) : s.gathered mode = [] := by
  cases mode with
  | normal => exact vacant
  | insert => rfl
  | visual | visualLine => exact vacant.1

theorem Waits.unconsumed (waits : s.Waits reader mode) :
    (mode = .visual → s.visual.consumed = false) ∧
      (mode = .visualLine → s.visualLine.consumed = false) := by
  constructor <;> (rintro rfl; exact VisualMode.Waits.unconsumed waits)

theorem Waits.read_gathered (waits : s.Waits reader mode) (away : mode ≠ .insert) :
    reader.read (s.gathered mode) = .pending := by
  cases mode with
  | normal => exact waits
  | insert => exact absurd rfl away
  | visual | visualLine => exact VisualMode.Waits.pending waits

/-- A mode is left empty. -/
theorem vacant_exit (s : ModeSet) (mode : Mode) : (s.exit mode).1.Vacant mode := by
  cases mode with
  | normal => rfl
  | insert => exact Detector.held_cancel _
  | visual | visualLine => exact ⟨rfl, rfl⟩

theorem Vacant.exit (vacant : s.Vacant mode) (left : Mode) : (s.exit left).1.Vacant mode := by
  by_cases same : left = mode
  · rw [same]
    exact s.vacant_exit mode
  · cases left <;> cases mode <;> first | exact vacant | exact absurd rfl same

theorem Vacant.enter (vacant : s.Vacant mode) (entered origin : Mode) :
    (s.enter entered origin).1.Vacant mode := by
  cases entered <;> cases mode <;> first | exact vacant | exact ⟨rfl, rfl⟩ | rfl

theorem ReadWith.exit (alike : s.ReadWith reader) (left : Mode) : (s.exit left).1.ReadWith reader := by
  cases left <;> exact ⟨alike.normal, alike.visual, alike.visualLine⟩

theorem ReadWith.enter (alike : s.ReadWith reader) (entered origin : Mode) :
    (s.enter entered origin).1.ReadWith reader := by
  cases entered <;> exact ⟨alike.normal, alike.visual, alike.visualLine⟩

end ModeSet

namespace Editor

variable {κ : Type}

/-- Only the mode that the editor is in has anything open, and that can still be completed. -/
structure Tidy (reader : CommandReader) (e : Editor κ) : Prop where
  alike : e.modes.ReadWith reader
  waits : e.modes.Waits reader e.mode
  vacant : ∀ mode, mode ≠ e.mode → e.modes.Vacant mode

variable {reader : CommandReader} {e : Editor κ}

namespace Tidy

theorem unconsumed (tidy : e.Tidy reader) :
    e.modes.visual.consumed = false ∧ e.modes.visualLine.consumed = false := by
  constructor
  · by_cases visual : Mode.visual = e.mode
    · exact tidy.waits.unconsumed.1 visual.symm
    · exact (tidy.vacant .visual visual).2
  · by_cases visualLine : Mode.visualLine = e.mode
    · exact tidy.waits.unconsumed.2 visualLine.symm
    · exact (tidy.vacant .visualLine visualLine).2

theorem start (mode : Mode) (reader : CommandReader) (chords : List (Chord Response)) (settle : Nat)
    (control : κ) : (Editor.start mode reader chords settle control).Tidy reader := by
  have vacant : ∀ mode, (ModeSet.start reader chords).Vacant mode := by
    intro mode
    cases mode with
    | normal | insert => rfl
    | visual | visualLine => exact ⟨rfl, rfl⟩
  have alike : (ModeSet.start reader chords).ReadWith reader := ⟨rfl, rfl, rfl⟩
  exact ⟨alike, (vacant mode).waits alike, fun other _ => vacant other⟩

theorem withDetector (tidy : e.Tidy reader) (inside : e.mode = .insert) (d : Detector Response) :
    (e.withDetector d).Tidy reader := by
  refine ⟨⟨tidy.alike.normal, tidy.alike.visual, tidy.alike.visualLine⟩, ?_, fun mode away => ?_⟩
  · rw [mode_withDetector, inside]
    trivial
  · have before := tidy.vacant mode away
    cases mode with
    | insert => exact absurd inside.symm away
    | normal | visual | visualLine => exact before

theorem withNormal (tidy : e.Tidy reader) (normal : e.mode = .normal) {m : NormalMode}
    (alike : m.reader = reader) (pending : reader.read m.keys = .pending) :
    (e.withNormal m).Tidy reader := by
  refine ⟨⟨alike, tidy.alike.visual, tidy.alike.visualLine⟩, ?_, fun mode away => ?_⟩
  · change (e.withNormal m).modes.Waits reader e.mode
    rw [normal]
    exact pending
  · have before := tidy.vacant mode away
    cases mode with
    | normal => exact absurd normal.symm away
    | insert | visual | visualLine => exact before

theorem alike_withSelecting (tidy : e.Tidy reader) {m : VisualMode} (alike : m.reader = reader) :
    (e.withSelecting m).modes.ReadWith reader := by
  unfold Editor.withSelecting
  dsimp only
  split
  · exact ⟨tidy.alike.normal, tidy.alike.visual, alike⟩
  · exact ⟨tidy.alike.normal, alike, tidy.alike.visualLine⟩

theorem vacant_withSelecting (tidy : e.Tidy reader) (visual : e.mode = .visual ∨ e.mode = .visualLine)
    (m : VisualMode) (mode : Mode) (away : mode ≠ e.mode) : (e.withSelecting m).modes.Vacant mode := by
  have before := tidy.vacant mode away
  rcases visual with charwise | linewise
  · have chosen : e.mode ≠ .visualLine := by rw [charwise]; nofun
    rw [Editor.withSelecting, if_neg chosen]
    cases mode with
    | visual => exact absurd charwise.symm away
    | normal | insert | visualLine => exact before
  · rw [Editor.withSelecting, if_pos linewise]
    cases mode with
    | visualLine => exact absurd linewise.symm away
    | normal | insert | visual => exact before

theorem selecting (tidy : e.Tidy reader) (visual : e.mode = .visual ∨ e.mode = .visualLine) :
    e.selecting.Waits reader := by
  have waits := tidy.waits
  rcases visual with charwise | linewise
  · rw [charwise] at waits
    have chosen : e.mode ≠ .visualLine := by rw [charwise]; nofun
    rw [Editor.selecting, if_neg chosen]
    exact waits
  · rw [linewise] at waits
    rw [Editor.selecting, if_pos linewise]
    exact waits

theorem withSelecting (tidy : e.Tidy reader) (visual : e.mode = .visual ∨ e.mode = .visualLine)
    {m : VisualMode} (waits : m.Waits reader) : (e.withSelecting m).Tidy reader := by
  refine ⟨tidy.alike_withSelecting waits.alike, ?_, tidy.vacant_withSelecting visual m⟩
  change (e.withSelecting m).modes.Waits reader e.mode
  rcases visual with charwise | linewise
  · have chosen : e.mode ≠ .visualLine := by rw [charwise]; nofun
    rw [Editor.withSelecting, if_neg chosen, charwise]
    exact waits
  · rw [Editor.withSelecting, if_pos linewise, linewise]
    exact waits

end Tidy

section Control

variable [Control κ]

/-- On the way into another mode the one that is left is emptied, whatever it held. -/
theorem tidy_setMode (alike : e.modes.ReadWith reader)
    (vacant : ∀ mode, mode ≠ e.mode → e.modes.Vacant mode) {mode : Mode} (away : mode ≠ e.mode)
    (now : Nat) : (e.setMode mode now).Tidy reader := by
  have left : ∀ other, (e.modes.exit e.mode).1.Vacant other := by
    intro other
    by_cases same : other = e.mode
    · rw [same]
      exact e.modes.vacant_exit e.mode
    · exact (vacant other same).exit e.mode
  have entered := fun other => (left other).enter mode e.mode
  have alike' := (alike.exit e.mode).enter mode e.mode
  rw [setMode_eq e away]
  exact ⟨alike', (entered mode).waits alike', fun other _ => entered other⟩

namespace Tidy

theorem setMode (tidy : e.Tidy reader) (mode : Mode) (now : Nat) : (e.setMode mode now).Tidy reader := by
  by_cases same : mode = e.mode
  · rw [same, setMode_self]
    exact tidy
  · exact tidy_setMode tidy.alike tidy.vacant same now

/-! Strokes and deferrals concern no mode. -/

theorem inject (tidy : e.Tidy reader) (strokes : List Keystroke) : (e.inject strokes).Tidy reader :=
  ⟨tidy.alike, tidy.waits, tidy.vacant⟩

omit [Control κ] in
theorem withQueue (tidy : e.Tidy reader) (queue : List Deferred) :
    Tidy reader { e with queue := queue } :=
  ⟨tidy.alike, tidy.waits, tidy.vacant⟩

theorem carryOut (tidy : e.Tidy reader) (plan : Plan) (now : Nat) : (e.carryOut plan now).Tidy reader := by
  rw [carryOut_eq]
  exact (tidy.inject plan.now).withQueue _

theorem execute (tidy : e.Tidy reader) (counted : Counted) (now : Nat) : (e.execute counted now).Tidy reader := by
  rcases e.execute_cases counted now with ⟨-, carried⟩ | ⟨-, failed⟩
  · rw [carried]
    exact tidy.carryOut _ now
  · rw [failed]
    exact ⟨tidy.alike, tidy.waits, tidy.vacant⟩

theorem leavesKeep (reader : CommandReader) (now : Nat) : LeavesKeep now (Tidy (κ := κ) reader) where
  leaf leaf isLeaf tidy := by
    cases leaf with
    | switchMode mode => exact tidy.setMode mode now
    | inject stroke => exact tidy.inject [stroke]
    | run counted => exact tidy.execute counted now
    | defer response => exact tidy.withQueue _
    | all responses => exact isLeaf.elim
    | consume | passThrough => exact tidy
  queue queue tidy := tidy.withQueue queue

theorem respond (tidy : e.Tidy reader) (response : Response) (now : Nat) :
    (Editor.respond response e now).1.Tidy reader :=
  (leavesKeep reader now).respond response tidy

/-! ## Operations -/

theorem answer_normal (tidy : e.Tidy reader) (normal : e.mode = .normal) (press : KeyPress) (now : Nat) :
    (e.answer press now).1.Tidy reader := by
  rw [answer_of_normal normal]
  have pending := e.modes.normal.read_key press
  rw [tidy.alike.normal] at pending
  have heard := tidy.withNormal normal ((e.modes.normal.reader_key press).trans tidy.alike.normal) pending
  exact heard.respond _ now

/-- An operator that has deleted the selection leaves its mode at once. -/
theorem answer_visual (tidy : e.Tidy reader) (visual : e.mode = .visual ∨ e.mode = .visualLine)
    (press : KeyPress) (now : Nat) : (e.answer press now).1.Tidy reader := by
  have waits := tidy.selecting visual
  rw [answer_of_visual visual]
  rcases e.selecting.key_cases press with ⟨target, leaves, heard⟩ | heard | heard | heard <;> rw [heard]
  · have alike := tidy.alike_withSelecting (m := { e.selecting with consumed := true }) waits.alike
    have vacant := tidy.vacant_withSelecting visual { e.selecting with consumed := true }
    have away : target ≠ e.mode := by
      rcases visual with mode | mode <;> rcases leaves with rfl | rfl <;> rw [mode] <;> nofun
    let deleted := (e.withSelecting { e.selecting with consumed := true }).inject [.plain .backspace]
    exact tidy_setMode (e := deleted) alike vacant away now
  · exact (tidy.withSelecting visual waits).respond _ now
  · exact (tidy.withSelecting visual (waits.gather press.name)).respond _ now
  · exact (tidy.withSelecting visual waits.cleared).respond _ now

theorem answer_insert (tidy : e.Tidy reader) (inside : e.mode = .insert) (press : KeyPress) (now : Nat) :
    (e.answer press now).1.Tidy reader := by
  cases echo : press.synthetic with
  | true =>
      obtain ⟨d, _, _, answered⟩ := answer_of_echo inside echo now
      rw [answered]
      exact tidy.withDetector inside d
  | false =>
      cases escape : press.isEscape with
      | true =>
          rw [answer_escape_of_insert inside escape echo]
          have closed := tidy.withDetector inside e.detector.cancel.1
          exact (closed.inject e.heldStrokes).setMode .normal now
      | false =>
          have sensed := tidy.withDetector inside (e.detector.key press now).1
          rw [answer_of_insert inside escape]
          dsimp only
          split
          · exact sensed
          · exact sensed.respond _ now
          · exact sensed.inject _
          · exact sensed
          · exact sensed

theorem answer (tidy : e.Tidy reader) (press : KeyPress) (now : Nat) :
    (e.answer press now).1.Tidy reader := by
  cases mode : e.mode with
  | normal => exact tidy.answer_normal mode press now
  | insert => exact tidy.answer_insert mode press now
  | visual => exact tidy.answer_visual (.inl mode) press now
  | visualLine => exact tidy.answer_visual (.inr mode) press now

theorem runDue (tidy : e.Tidy reader) (now : Nat) : (e.runDue now).Tidy reader :=
  (leavesKeep reader now).runDue tidy

theorem runDeferred (tidy : e.Tidy reader) (now : Nat) : (e.runDeferred now).Tidy reader :=
  (leavesKeep reader now).runDeferred tidy

omit [Control κ] in
/-- Insert mode alone gives anything up as time passes or the editor shuts down: the key it holds. -/
theorem withModes (tidy : e.Tidy reader) {modes : ModeSet}
    (inside : e.mode = .insert → ∃ d, modes = (e.withDetector d).modes)
    (outside : e.mode ≠ .insert → modes = e.modes) : Tidy reader { e with modes := modes } := by
  by_cases insert : e.mode = .insert
  · obtain ⟨d, rfl⟩ := inside insert
    exact tidy.withDetector insert d
  · rw [outside insert]
    exact tidy

theorem tick (tidy : e.Tidy reader) (now : Nat) : (e.tick now).Tidy reader := by
  have ran := tidy.runDue now
  have after : Tidy reader { e.runDue now with
      modes := ((e.runDue now).modes.tick (e.runDue now).mode now).1 } := by
    refine ran.withModes (fun inside => ?_) (fun outside => ?_)
    · rw [inside]
      exact ⟨_, rfl⟩
    · rw [ModeSet.tick_of_away _ outside]
  exact after.inject _

theorem shutdown (tidy : e.Tidy reader) : e.shutdown.Tidy reader := by
  have after : Tidy reader { e with modes := (e.modes.flush e.mode).1 } := by
    refine tidy.withModes (fun inside => ?_) (fun outside => ?_)
    · rw [inside]
      exact ⟨_, rfl⟩
    · cases mode : e.mode with
      | insert => exact absurd mode outside
      | normal | visual | visualLine => rfl
  exact (after.inject _).withQueue []

theorem key (tidy : e.Tidy reader) (press : KeyPress) (now : Nat) : (e.key press now).1.Tidy reader := by
  have ticked := tidy.tick now
  unfold Editor.key
  dsimp only
  split
  · split
    · exact ticked.answer press now
    · exact ticked
  · exact (ticked.runDeferred now).answer press now

theorem operate (tidy : e.Tidy reader) (operation : Operation) : (e.operate operation).Tidy reader := by
  cases operation with
  | key press now => exact tidy.key press now
  | tick now => exact tidy.tick now
  | setMode mode now => exact tidy.setMode mode now
  | execute response now => exact tidy.respond response now
  | shutdown => exact tidy.shutdown

theorem operateAll (tidy : e.Tidy reader) (operations : List Operation) :
    (e.operateAll operations).Tidy reader := by
  induction operations generalizing e with
  | nil => exact tidy
  | cons operation rest ih => exact ih (tidy.operate operation)

end Tidy

end Control

namespace Tidy

variable [Target κ]

/-- A key that is passed on concerns the control alone. -/
theorem take (tidy : e.Tidy reader) (input : Input) : (e.take input).Tidy reader := by
  cases input with
  | tick now => exact tidy.tick now
  | key press now =>
      have handled := tidy.key press now
      change (e.deliver press now).1.Tidy reader
      unfold Editor.deliver
      dsimp only
      split
      · exact handled
      · exact ⟨handled.alike, handled.waits, handled.vacant⟩

theorem run (tidy : e.Tidy reader) (inputs : List Input) : (e.run inputs).Tidy reader := by
  induction inputs generalizing e with
  | nil => exact tidy
  | cons input rest ih => exact ih (tidy.take input)

end Tidy

/-- Whatever is done to an editor, at whatever times: the modes that it is not in have gathered no keys,
a key is held in Insert mode only, the keys gathered elsewhere can still become a command, and no
selection is taken for deleted. -/
theorem modes_keep_apart [Control κ] (settings : Settings) (control : κ) (operations : List Operation) :
    let e := (settings.editor control).operateAll operations
    (∀ mode, mode ≠ e.mode → e.modes.gathered mode = []) ∧
      (e.detector.held.isSome = true → e.mode = .insert) ∧
      (e.mode ≠ .insert →
        (CommandReader.upTo settings.maxCount).read (e.modes.gathered e.mode) = .pending) ∧
      e.modes.visual.consumed = false ∧ e.modes.visualLine.consumed = false := by
  intro e
  have tidy : e.Tidy (.upTo settings.maxCount) := (Tidy.start _ _ _ _ _).operateAll operations
  refine ⟨fun mode away => (tidy.vacant mode away).gathered, fun holding => ?_, tidy.waits.read_gathered,
    tidy.unconsumed⟩
  by_cases inside : e.mode = .insert
  · exact inside
  · have free : e.detector.held = none := tidy.vacant .insert (Ne.symm inside)
    rw [free] at holding
    cases holding

end Editor

end ModalKeys
