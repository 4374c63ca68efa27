import ModalKeys.Proofs.Editor.Reachable
import ModalKeys.Proofs.Editor.Sending
import ModalKeys.Proofs.Editor.Tidy
import ModalKeys.Proofs.Normal.BlockCursor
import ModalKeys.Proofs.Normal.Typing
import ModalKeys.Proofs.TextField.History

/-!
# What edits a field

Outside Insert mode no key reaches the field, and the strokes that do reach it are known from the commands
that send them. Nearly all of them move; a few commands edit, and fewer copy.
-/

namespace ModalKeys

namespace Shortcut

def edits : Shortcut → Bool
  | .move _ _ | .selectAll | .copy | .unassigned => false
  | _ => true

def copies : Shortcut → Bool
  | .copy | .cut => true
  | _ => false

end Shortcut

def Keystroke.KeepsText (stroke : Keystroke) : Prop := (Shortcut.ofKeystroke stroke).edits = false

def Keystroke.KeepsClipboard (stroke : Keystroke) : Prop := (Shortcut.ofKeystroke stroke).copies = false

instance (stroke : Keystroke) : Decidable stroke.KeepsText := inferInstanceAs (Decidable (_ = _))

instance (stroke : Keystroke) : Decidable stroke.KeepsClipboard := inferInstanceAs (Decidable (_ = _))

namespace Keystroke.Moves

variable {stroke : Keystroke} (moves : stroke.Moves)

include moves

theorem keepsText : stroke.KeepsText := by
  obtain ⟨arrow, extend, shortcut⟩ := moves
  rw [KeepsText, shortcut]
  rfl

theorem keepsClipboard : stroke.KeepsClipboard := by
  obtain ⟨arrow, extend, shortcut⟩ := moves
  rw [KeepsClipboard, shortcut]
  rfl

end Keystroke.Moves

namespace TextField

theorem SameText.inject (f : TextField) {stroke : Keystroke} (keeps : stroke.KeepsText) :
    SameText f (Control.inject f stroke) := by
  change SameText f ((f.record stroke).perform (Shortcut.ofKeystroke stroke))
  unfold Keystroke.KeepsText at keeps
  cases shortcut : Shortcut.ofKeystroke stroke with
  | move _ _ | selectAll | unassigned => exact ⟨rfl, rfl, rfl⟩
  | copy =>
      change SameText f (f.record stroke).copy
      unfold copy
      split <;> exact ⟨rfl, rfl, rfl⟩
  | deleteBackward _ | deleteForward | cut | paste | undo | redo | insert _ =>
      rw [shortcut] at keeps
      cases keeps

theorem SameText.injectAll (f : TextField) {strokes : List Keystroke}
    (keeps : ∀ stroke ∈ strokes, stroke.KeepsText) : SameText f (Control.injectAll f strokes) := by
  induction strokes generalizing f with
  | nil => exact ⟨rfl, rfl, rfl⟩
  | cons stroke rest ih =>
      obtain ⟨first, later⟩ := List.forall_mem_cons.mp keeps
      have once := SameText.inject f first
      have rest := ih (Control.inject f stroke) later
      exact ⟨rest.text.trans once.text, rest.undo.trans once.undo, rest.redo.trans once.redo⟩

theorem clipboard_inject (f : TextField) {stroke : Keystroke} (keeps : stroke.KeepsClipboard) :
    (Control.inject f stroke).clipboard = f.clipboard := by
  change ((f.record stroke).perform (Shortcut.ofKeystroke stroke)).clipboard = (f.record stroke).clipboard
  unfold Keystroke.KeepsClipboard at keeps
  generalize f.record stroke = f
  cases shortcut : Shortcut.ofKeystroke stroke with
  | move _ _ | selectAll | unassigned => rfl
  | deleteBackward _ | deleteForward =>
      unfold perform
      dsimp only
      split <;> exact clipboard_deleteRange f _ _
  | paste | insert _ => exact clipboard_replaceSelection f _
  | undo =>
      change f.undoEdit.clipboard = _
      unfold undoEdit
      split <;> rfl
  | redo =>
      change f.redoEdit.clipboard = _
      unfold redoEdit
      split <;> rfl
  | copy | cut =>
      rw [shortcut] at keeps
      cases keeps

theorem clipboard_injectAll (f : TextField) {strokes : List Keystroke}
    (keeps : ∀ stroke ∈ strokes, stroke.KeepsClipboard) :
    (Control.injectAll f strokes).clipboard = f.clipboard := by
  induction strokes generalizing f with
  | nil => rfl
  | cons stroke rest ih =>
      obtain ⟨first, later⟩ := List.forall_mem_cons.mp keeps
      exact (ih (Control.inject f stroke) later).trans (clipboard_inject f first)

end TextField

namespace Edit

/-- A count repeats strokes and brings no others. -/
theorem parts_plan (edit : Edit) (count : Nat) : (edit.plan count).parts = (edit.plan 1).parts := by
  cases edit <;> rfl

theorem keepsClipboard_plan {edit : Edit} (deletes : edit ≠ .yank ∧ edit ≠ .yankLine) (count : Nat) :
    ∀ stroke ∈ (edit.plan count).now, stroke.KeepsClipboard := by
  refine Plan.forall_mem_now ?_
  rw [parts_plan]
  cases edit with
  | yank => exact absurd rfl deletes.1
  | yankLine => exact absurd rfl deletes.2
  | _ => decide

theorem keepsText_plan {edit : Edit} (yanks : edit = .yank ∨ edit = .yankLine) (count : Nat) :
    ∀ stroke ∈ (edit.plan count).now, stroke.KeepsText := by
  refine Plan.forall_mem_now ?_
  rw [parts_plan]
  rcases yanks with rfl | rfl <;> decide

end Edit

namespace Entry

theorem keepsClipboard_positioning (entry : Entry) :
    ∀ stroke ∈ entry.positioning, stroke.KeepsClipboard := by
  cases entry <;> decide

theorem keepsText_positioning {entry : Entry} (below : entry ≠ .openLineBelow)
    (above : entry ≠ .openLineAbove) : ∀ stroke ∈ entry.positioning, stroke.KeepsText := by
  cases entry with
  | openLineBelow => exact absurd rfl below
  | openLineAbove => exact absurd rfl above
  | insert | insertAfter | insertLineStart | insertLineEnd | visual | visualLine => decide

end Entry

namespace Counted

variable {counted : Counted}

theorem sends_keepsText (edits : ∀ edit, counted.command = .edit edit → edit = .yank ∨ edit = .yankLine)
    (below : counted.command ≠ .entry .openLineBelow) (above : counted.command ≠ .entry .openLineAbove) :
    counted.Sends Keystroke.KeepsText := by
  obtain ⟨command, count, positive⟩ := counted
  cases command with
  | motion motion => trivial
  | edit edit => exact Edit.keepsText_plan (edits edit rfl) count
  | entry entry =>
      exact Entry.keepsText_positioning (fun same => below (congrArg _ same))
        (fun same => above (congrArg _ same))

theorem sends_keepsClipboard (yank : counted.command ≠ .edit .yank)
    (yankLine : counted.command ≠ .edit .yankLine) : counted.Sends Keystroke.KeepsClipboard := by
  obtain ⟨command, count, positive⟩ := counted
  cases command with
  | motion motion => trivial
  | edit edit =>
      have deletes : edit ≠ .yank ∧ edit ≠ .yankLine :=
        ⟨fun same => yank (congrArg _ same), fun same => yankLine (congrArg _ same)⟩
      exact Edit.keepsClipboard_plan deletes count
  | entry entry => exact entry.keepsClipboard_positioning

end Counted

/-- Keys, echoes, time and changes of mode. -/
def Operation.IsInput : Operation → Prop
  | .key _ _ | .tick _ | .setMode _ _ => True
  | .execute _ _ | .shutdown => False

namespace Editor

variable {κ : Type} [Control κ]

/-- The key is the last one of a command in Normal mode. -/
def Completes {κ : Type} (e : Editor κ) (press : KeyPress) (command : Command) : Prop :=
  e.mode = .normal ∧ press.isEscape = false ∧
    ∃ counted, e.modes.normal.reader.read (e.modes.normal.keys ++ [press.name]) = .complete counted ∧
      counted.command = command

/-- A Visual mode takes the key for one of these operators, having gathered no keys. -/
def Operates {κ : Type} (e : Editor κ) (press : KeyPress) (operators : List String) : Prop :=
  e.mode.isVisual = true ∧ press.isEscape = false ∧ e.modes.gathered e.mode = [] ∧ press.name ∈ operators

def Edits {κ : Type} (e : Editor κ) (press : KeyPress) : Prop :=
  (∃ edit, edit ≠ .yank ∧ edit ≠ .yankLine ∧ e.Completes press (.edit edit)) ∨
    e.Completes press (.entry .openLineBelow) ∨ e.Completes press (.entry .openLineAbove) ∨
    e.Operates press ["d", "x", "c", "s"]

def Copies {κ : Type} (e : Editor κ) (press : KeyPress) : Prop :=
  e.Completes press (.edit .yankLine) ∨ e.Operates press ["y"]

variable {e : Editor κ} {press : KeyPress}

theorem kept_of_away (away : e.mode ≠ .insert) (press : KeyPress) (now : Nat) :
    (e.answer press now).2 = true := by
  have visual : e.mode = .visual ∨ e.mode = .visualLine → (e.answer press now).2 = true := by
    intro visual
    rcases visual_cases visual press now with ⟨m, strokes, _, answered⟩ | ⟨m, target, _, _, answered⟩ |
      ⟨m, strokes, target, _, _, _, answered⟩ <;> rw [answered]
  cases mode : e.mode with
  | insert => exact absurd mode away
  | normal =>
      rcases normal_cases mode press now with ⟨keys, answered⟩ | ⟨counted, _, _, answered⟩
      · rw [answered]
      · rw [answered]
        exact respond_kept counted _ now
  | visual => exact visual (.inl mode)
  | visualLine => exact visual (.inr mode)

omit [Control κ] in
theorem operates_of_selecting (visual : e.mode = .visual ∨ e.mode = .visualLine)
    (plain : press.isEscape = false) (fresh : e.selecting.keys = []) {operators : List String}
    (name : press.name ∈ operators) : e.Operates press operators := by
  have selects : e.mode.isVisual = true ∧ e.modes.gathered e.mode = e.selecting.keys := by
    rcases visual with mode | mode <;> rw [selecting, mode] <;> exact ⟨rfl, rfl⟩
  exact ⟨selects.1, plain, selects.2.trans fresh, name⟩

/-- Outside Insert mode a key sends what its command sends. -/
theorem Sent.answer {sort : Keystroke → Prop} (moves : ∀ stroke : Keystroke, stroke.Moves → sort stroke)
    (away : e.mode ≠ .insert)
    (commands : ∀ counted : Counted, e.Completes press counted.command → counted.Sends sort)
    (copies : e.Operates press ["y"] → sort (.command .c))
    (deletes : e.Operates press ["d", "x", "c", "s"] → sort (.plain .backspace)) (now : Nat) :
    Sent sort e (e.answer press now).1 := by
  have visual : e.mode = .visual ∨ e.mode = .visualLine → Sent sort e (e.answer press now).1 := by
    intro visual
    have sends := e.selecting.sends_key moves press
      (fun plain fresh name =>
        copies (operates_of_selecting visual plain fresh (List.mem_singleton.mpr name)))
      (fun plain fresh name => deletes (operates_of_selecting visual plain fresh name))
    rw [answer_of_visual visual]
    exact (of_detector (Orderly.detector_withSelecting e _) rfl rfl).trans (respond moves sends _ now)
  cases mode : e.mode with
  | insert => exact absurd mode away
  | normal =>
      have sends := e.modes.normal.sends_key press fun counted plain reading =>
        commands counted ⟨mode, plain, counted, reading, rfl⟩
      have gathered : Sent sort e (e.withNormal (e.modes.normal.key press).1) := of_detector rfl rfl rfl
      rw [answer_of_normal mode]
      exact gathered.trans (respond moves sends _ now)
  | visual => exact visual (.inl mode)
  | visualLine => exact visual (.inr mode)

/-! ## Reachable editors -/

/-- An editor after some of the operations that are allowed. Its control may change on its own, as it does
when it takes a key that was let through. -/
inductive Reached {κ : Type} [Control κ] (settings : Settings) (allowed : Operation → Prop) :
    Editor κ → Prop where
  | start (control : κ) : Reached settings allowed (settings.editor control)
  | operate {e : Editor κ} (reached : Reached settings allowed e) {operation : Operation}
      (allows : allowed operation) : Reached settings allowed (e.operate operation)
  | changed {e : Editor κ} (reached : Reached settings allowed e) (control : κ) :
      Reached settings allowed { e with control := control }

theorem Reached.tidy {settings : Settings} {allowed : Operation → Prop} (reached : e.Reached settings allowed) :
    e.Tidy (.upTo settings.maxCount) := by
  induction reached with
  | start control => exact Tidy.start _ _ _ _ _
  | operate _ _ ih => exact ih.operate _
  | changed _ control ih => exact ⟨ih.alike, ih.waits, ih.vacant⟩

theorem Reached.free {settings : Settings} {allowed : Operation → Prop} (reached : e.Reached settings allowed)
    (away : e.mode ≠ .insert) : e.detector.held = none :=
  reached.tidy.vacant .insert (Ne.symm away)

/-- A tidy editor that defers block cursors alone, and whose chords defer nothing. -/
structure Confined {κ : Type} (reader : CommandReader) (e : Editor κ) : Prop where
  tidy : e.Tidy reader
  blocks : OnlyBlocks e.queue
  chords : ∀ chord ∈ e.detector.chords, chord.action.Sends fun _ => True

namespace Confined

variable {reader : CommandReader}

omit [Control κ] in
theorem free (confined : e.Confined reader) (away : e.mode ≠ .insert) : e.detector.held = none :=
  confined.tidy.vacant .insert (Ne.symm away)

theorem of_sent {sort : Keystroke → Prop} {e' : Editor κ} (confined : e.Confined reader)
    (tidy : e'.Tidy reader) (sent : Sent sort e e') : e'.Confined reader := by
  refine ⟨tidy, sent.blocks confined.blocks, fun chord listed => ?_⟩
  rw [sent.chords] at listed
  exact confined.chords chord listed

omit [Control κ] in
theorem withDetector (confined : e.Confined reader) (inside : e.mode = .insert) {d : Detector Response}
    (same : d.chords = e.detector.chords) : (e.withDetector d).Confined reader :=
  ⟨confined.tidy.withDetector inside d, confined.blocks, fun chord listed =>
    confined.chords chord (same ▸ listed)⟩

theorem setMode (confined : e.Confined reader) (mode : Mode) (now : Nat) :
    (e.setMode mode now).Confined reader :=
  confined.of_sent (confined.tidy.setMode mode now) (Sent.setMode (fun _ _ => trivial) e mode now)

theorem inject (confined : e.Confined reader) (strokes : List Keystroke) :
    (e.inject strokes).Confined reader :=
  ⟨confined.tidy.inject strokes, confined.blocks, confined.chords⟩

theorem respond (confined : e.Confined reader) {response : Response} (sends : response.Sends fun _ => True)
    (now : Nat) : (Editor.respond response e now).1.Confined reader :=
  confined.of_sent (confined.tidy.respond response now) (Sent.respond (fun _ _ => trivial) sends e now)

theorem answer_insert (confined : e.Confined reader) (inside : e.mode = .insert) (press : KeyPress)
    (now : Nat) : (e.answer press now).1.Confined reader := by
  cases echo : press.synthetic with
  | true =>
      obtain ⟨d, _, same, answered⟩ := answer_of_echo inside echo now
      rw [answered]
      exact confined.withDetector inside same
  | false =>
      cases escape : press.isEscape with
      | true =>
          rw [answer_escape_of_insert inside escape echo]
          have closed := confined.withDetector inside (Detector.chords_cancel e.detector)
          exact (closed.inject e.heldStrokes).setMode .normal now
      | false =>
          obtain ⟨same, matched⟩ := e.detector.chords_key press now
          have sensed := confined.withDetector inside same
          rw [answer_of_insert inside escape]
          dsimp only
          split
          · exact sensed
          · next action found =>
              obtain ⟨chord, listed, rfl⟩ := matched action found
              exact sensed.respond (confined.chords chord listed) now
          · exact sensed.inject _
          · exact sensed
          · exact sensed

theorem answer (confined : e.Confined reader) (press : KeyPress) (now : Nat) :
    (e.answer press now).1.Confined reader := by
  by_cases inside : e.mode = .insert
  · exact confined.answer_insert inside press now
  · have sent : Sent (fun _ => True) e (e.answer press now).1 :=
      Sent.answer (fun _ _ => trivial) inside (fun counted _ => counted.sends_true) (fun _ => trivial)
        (fun _ => trivial) now
    exact confined.of_sent (confined.tidy.answer press now) sent

theorem tick (confined : e.Confined reader) (now : Nat) : (e.tick now).Confined reader := by
  have ran := Shows.runDue confined.blocks now
  refine ⟨confined.tidy.tick now, ran.blocks, fun chord listed => confined.chords chord ?_⟩
  have same : (e.tick now).detector.chords = e.detector.chords :=
    (ModeSet.chords_tick _ _ now).trans (congrArg (·.insert.detector.chords) ran.modes)
  exact same ▸ listed

theorem key (confined : e.Confined reader) (press : KeyPress) (now : Nat) :
    (e.key press now).1.Confined reader := by
  have ticked := confined.tick now
  have ran : Sent (fun _ => True) (e.tick now) ((e.tick now).runDeferred now) :=
    (Shows.runDeferred ticked.blocks now).sent fun _ _ => trivial
  have ready := ticked.of_sent (ticked.tidy.runDeferred now) ran
  unfold Editor.key
  dsimp only
  split
  · split
    · exact ticked.answer press now
    · exact ticked
  · exact ready.answer press now

end Confined

theorem Reached.confined {settings : Settings} (reached : e.Reached settings Operation.IsInput) :
    e.Confined (.upTo settings.maxCount) := by
  induction reached with
  | start control =>
      refine ⟨Tidy.start _ _ _ _ _, nofun, fun chord listed => ?_⟩
      obtain ⟨setting, _, rfl⟩ := List.mem_map.mp listed
      trivial
  | @operate e _ operation allows ih =>
      cases operation with
      | key press now => exact ih.key press now
      | tick now => exact ih.tick now
      | setMode mode now => exact ih.setMode mode now
      | execute _ _ | shutdown => exact allows.elim
  | changed _ control ih =>
      exact ⟨⟨ih.tidy.alike, ih.tidy.waits, ih.tidy.vacant⟩, ih.blocks, ih.chords⟩

section Outside

variable {κ : Type} [Target κ] {reader : CommandReader} {e : Editor κ} {press : KeyPress}

theorem Confined.kept (confined : e.Confined reader) (away : e.mode ≠ .insert)
    (typed : press.synthetic = false) (now : Nat) : (e.key press now).2 = true := by
  have shown := Shows.ready confined.blocks (confined.free away) now
  rw [key_of_typed e typed]
  exact kept_of_away (by rwa [shown.mode]) press now

/-- A key and the time after it send moves and what the key stands for. -/
theorem Confined.sent_run {sort : Keystroke → Prop}
    (moves : ∀ stroke : Keystroke, stroke.Moves → sort stroke) (confined : e.Confined reader)
    (away : e.mode ≠ .insert) (typed : press.synthetic = false)
    (commands : ∀ counted : Counted, e.Completes press counted.command → counted.Sends sort)
    (copies : e.Operates press ["y"] → sort (.command .c))
    (deletes : e.Operates press ["d", "x", "c", "s"] → sort (.plain .backspace)) (now : Nat)
    {rest : List Input} (silent : presses rest = []) :
    Sent sort e (e.run (.key press now :: rest)) := by
  have free := confined.free away
  have shown := Shows.ready confined.blocks free now
  have readied : Sent sort e (e.ready now) := shown.sent moves
  have answered : Sent sort (e.ready now) ((e.ready now).answer press now).1 := by
    refine Sent.answer moves (by rwa [shown.mode]) ?_ ?_ ?_ now
    · unfold Completes
      rw [shown.mode, shown.modes]
      exact commands
    · unfold Operates
      rw [shown.mode, shown.modes]
      exact copies
    · unfold Operates
      rw [shown.mode, shown.modes]
      exact deletes
  have handled := readied.trans answered
  rw [run_cons, take, deliver_of_kept e press now (confined.kept away typed now), key_of_typed e typed]
  exact handled.trans (Sent.run moves (handled.blocks confined.blocks) (handled.free free) silent)

end Outside

theorem sends_keepsText_of_completes {κ : Type} {e : Editor κ} {press : KeyPress} (harmless : ¬ e.Edits press)
    {counted : Counted} (completes : e.Completes press counted.command) :
    counted.Sends Keystroke.KeepsText := by
  refine Counted.sends_keepsText (fun edit command => ?_) (fun command => ?_) (fun command => ?_)
  · by_contra other
    rw [not_or] at other
    exact harmless (.inl ⟨edit, other.1, other.2, command ▸ completes⟩)
  · exact harmless (.inr (.inl (command ▸ completes)))
  · exact harmless (.inr (.inr (.inl (command ▸ completes))))

theorem sends_keepsClipboard_of_completes {κ : Type} {e : Editor κ} {press : KeyPress}
    (spares : ¬ e.Copies press) {counted : Counted} (completes : e.Completes press counted.command) :
    counted.Sends Keystroke.KeepsClipboard := by
  obtain ⟨_, _, read, reading, same⟩ := id completes
  refine Counted.sends_keepsClipboard ?_ fun command => spares (.inl (command ▸ completes))
  rw [← same]
  exact CommandReader.read_ne_yank reading

/-- Outside Insert mode every key that is typed is kept from the field. Unless it stands for an edit, opens a
line or takes the selection out, neither the key nor the time after it changes the text or the history; and
the clipboard changes only for a key that copies. -/
theorem keys_edit_only_by_command (settings : Settings) {e : Editor TextField}
    (reached : e.Reached settings Operation.IsInput) (away : e.mode ≠ .insert) {press : KeyPress}
    (typed : press.synthetic = false) (now : Nat) {rest : List Input} (silent : presses rest = []) :
    let after := (e.run (.key press now :: rest)).control
    (e.key press now).2 = true ∧
      (¬ e.Edits press →
        after.text = e.control.text ∧ after.undo = e.control.undo ∧ after.redo = e.control.redo) ∧
      (after.clipboard ≠ e.control.clipboard → e.Copies press) := by
  intro after
  have confined := reached.confined
  have free := confined.free away
  refine ⟨confined.kept away typed now, fun harmless => ?_, fun changed => ?_⟩
  · have sent := confined.sent_run (fun _ moves => moves.keepsText) away typed
      (fun counted completes => sends_keepsText_of_completes harmless completes) (fun _ => rfl)
      (fun operates => absurd (.inr (.inr (.inr operates))) harmless) now silent
    obtain ⟨strokes, keeps, reached⟩ := sent.control free
    obtain ⟨text, undo, redo⟩ := TextField.SameText.injectAll e.control keeps
    rw [← reached] at text undo redo
    exact ⟨text, undo, redo⟩
  · by_contra spares
    refine changed ?_
    have sent := confined.sent_run (fun _ moves => moves.keepsClipboard) away typed
      (fun counted completes => sends_keepsClipboard_of_completes spares completes)
      (fun operates => absurd (.inr operates) spares)
      (fun _ => rfl) now silent
    obtain ⟨strokes, keeps, reached⟩ := sent.control free
    have kept := TextField.clipboard_injectAll e.control keeps
    rwa [← reached] at kept

/-- A block is selected and copied: the clipboard changes, and nothing else does. -/
theorem keys_edit_only_by_command_of_copy :
    let settings := { Settings.usual with startMode := .normal }
    let field := (TextField.ofText "one".toList).select ⟨0, 1⟩
    let v : KeyPress := ⟨"v", .v, false⟩
    let y : KeyPress := ⟨"y", ⟨0x10⟩, false⟩
    let e := ((settings.editor field).key v 0).1
    let after := (e.run [.key y 5, .tick 100]).control
    (e.key y 5).2 = true ∧ after.clipboard = ['o'] ∧ e.Copies y ∧
      after.text = e.control.text ∧ after.undo = e.control.undo ∧ after.redo = e.control.redo := by
  intro settings field v y e after
  have reached : e.Reached settings Operation.IsInput :=
    @Reached.operate _ _ settings _ _ (.start field) (.key v 0) trivial
  have mode : e.mode = .visual := by decide +kernel
  have away : e.mode ≠ .insert := by rw [mode]; nofun
  obtain ⟨kept, harmless, copied⟩ :=
    @keys_edit_only_by_command settings e reached away y rfl 5 [.tick 100] rfl
  have clipboard : after.clipboard = ['o'] := by decide +kernel
  have changed : after.clipboard ≠ e.control.clipboard := by
    rw [clipboard]
    decide +kernel
  refine ⟨kept, clipboard, copied changed, harmless ?_⟩
  rintro (⟨_, _, _, normal, _⟩ | ⟨normal, _⟩ | ⟨normal, _⟩ | ⟨_, _, _, name⟩)
  · cases mode.symm.trans normal
  · cases mode.symm.trans normal
  · cases mode.symm.trans normal
  · exact absurd name (by decide)

end Editor

end ModalKeys
