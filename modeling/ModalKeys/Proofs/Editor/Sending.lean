import ModalKeys.Proofs.Editor.Orderly
import ModalKeys.Proofs.Normal.Motions

/-!
# What an editor sends

Each response has its own strokes, and they are all of one sort or another. Nothing else reaches the control
but moves: a change of mode collapses a selection or brings one back, and what is deferred are the blocks of
Normal mode.
-/

namespace ModalKeys

/-- Besides moves, a command sends only strokes of one sort. -/
def Counted.Sends (sort : Keystroke → Prop) (counted : Counted) : Prop :=
  match counted.command with
  | .motion _ => True
  | .edit edit => ∀ stroke ∈ (edit.plan counted.count).now, sort stroke
  | .entry entry => ∀ stroke ∈ entry.positioning, sort stroke

mutual

/-- Besides moves, a response sends only strokes of one sort, and it defers none but those of its plans. -/
def Response.Sends (sort : Keystroke → Prop) : Response → Prop
  | .inject stroke => sort stroke
  | .run counted => counted.Sends sort
  | .defer _ => False
  | .all responses => Response.SendsAll sort responses
  | .switchMode _ | .consume | .passThrough => True

def Response.SendsAll (sort : Keystroke → Prop) : List Response → Prop
  | [] => True
  | response :: rest => response.Sends sort ∧ Response.SendsAll sort rest

end

/-- One operator copies the selection, the others delete it. -/
theorem VisualMode.operator?_eq_some {name : String} {found : Bool × Response}
    (operator : operator? name = some found) :
    (name = "y" ∧ found.2 = .all [.run ((Command.edit .yank).times 1), .switchMode .normal]) ∨
      (name ∈ ["d", "x", "c", "s"] ∧
        ∃ target, found.2 = .all [.inject (.plain .backspace), .switchMode target]) := by
  unfold operator? at operator
  split at operator <;> cases operator
  · exact .inl ⟨rfl, rfl⟩
  all_goals exact .inr ⟨by decide, _, rfl⟩

section Sends

variable {sort : Keystroke → Prop}

theorem Response.sendsAll_inject {strokes : List Keystroke} (sent : ∀ stroke ∈ strokes, sort stroke) :
    Response.SendsAll sort (strokes.map .inject) := by
  induction strokes with
  | nil => trivial
  | cons stroke rest ih =>
      obtain ⟨first, later⟩ := List.forall_mem_cons.mp sent
      exact ⟨first, ih later⟩

theorem Counted.sends_true (counted : Counted) : counted.Sends fun _ => True := by
  unfold Counted.Sends
  split <;> simp

theorem Counted.sends_response {counted : Counted} (sends : counted.Sends sort) :
    counted.response.Sends sort := by
  have running : Response.Sends sort (.run counted) := sends
  obtain ⟨command, count, positive⟩ := counted
  cases command with
  | motion motion => trivial
  | edit edit =>
      simp only [response]
      split
      · exact ⟨trivial, running, trivial⟩
      · exact running
  | entry entry =>
      have positioned : Response.SendsAll sort (entry.positioning.map .inject) :=
        Response.sendsAll_inject sends
      cases entry with
      | insert | visual | visualLine => trivial
      | insertAfter | insertLineStart | insertLineEnd | openLineBelow | openLineAbove =>
          exact ⟨trivial, positioned⟩

theorem NormalMode.sends_key (m : NormalMode) (press : KeyPress)
    (completes : ∀ counted, press.isEscape = false →
      m.reader.read (m.keys ++ [press.name]) = .complete counted → counted.Sends sort) :
    (m.key press).2.Sends sort := by
  rcases m.key_cases press with ⟨keys, heard⟩ | ⟨counted, plain, reading, heard⟩
  · rw [heard]
    trivial
  · rw [heard]
    exact Counted.sends_response (completes counted plain reading)

variable (moves : ∀ stroke : Keystroke, stroke.Moves → sort stroke)

include moves

theorem Counted.sent_plan {κ : Type} [Control κ] {counted : Counted} (sends : counted.Sends sort)
    (control : κ) : ∀ stroke ∈ (counted.plan control).now, sort stroke := by
  obtain ⟨command, count, positive⟩ := counted
  intro stroke listed
  cases command with
  | motion motion =>
      exact moves stroke (motion.moves_plan count control stroke (List.mem_append_left _ listed))
  | edit edit => exact sends stroke listed
  | entry entry => cases listed

theorem VisualMode.sends_gather (m : VisualMode) (name : String) : (m.gather name).2.Sends sort := by
  unfold gather
  dsimp only
  cases m.reader.read (m.keys ++ [name]) with
  | complete counted =>
      obtain ⟨command, count, positive⟩ := counted
      cases command with
      | motion motion =>
          refine Response.sendsAll_inject fun stroke listed => ?_
          rw [List.eq_of_mem_replicate listed]
          exact moves _ (by cases motion <;> exact ⟨_, _, rfl⟩)
      | edit edit => trivial
      | entry entry => cases entry <;> trivial
  | pending | invalid => trivial

theorem VisualMode.sends_key (m : VisualMode) (press : KeyPress)
    (copies : press.isEscape = false → m.keys = [] → press.name = "y" → sort (.command .c))
    (deletes : press.isEscape = false → m.keys = [] → press.name ∈ ["d", "x", "c", "s"] →
      sort (.plain .backspace)) :
    (m.key press).2.Sends sort := by
  cases escape : press.isEscape with
  | true =>
      simp only [key, escape, ↓reduceIte]
      trivial
  | false =>
      cases fresh : m.keys.isEmpty with
      | false => simpa [key, escape, fresh] using m.sends_gather moves press.name
      | true =>
          have empty : m.keys = [] := List.isEmpty_iff.mp fresh
          simp only [key, escape, fresh, Bool.false_eq_true, ↓reduceIte]
          cases operator : operator? press.name with
          | none => exact m.sends_gather moves press.name
          | some found =>
              rcases operator?_eq_some operator with ⟨name, answered⟩ | ⟨listed, target, answered⟩
              · have copied : Counted.Sends sort ((Command.edit .yank).times 1) :=
                  List.forall_mem_singleton.mpr (copies escape empty name)
                rw [answered]
                exact ⟨copied, trivial, trivial⟩
              · rw [answered]
                exact ⟨deletes escape empty listed, trivial, trivial⟩

end Sends

/-! ## What has been sent -/

def OnlyBlocks (queue : List Deferred) : Prop :=
  ∀ entry ∈ queue, ∃ stroke, IsBlock stroke ∧ entry.response = .injectAll [stroke]

theorem onlyBlocks_entryQueue (target : Mode) (due : Nat) : OnlyBlocks (Editor.entryQueue target due) := by
  intro entry listed
  unfold Editor.entryQueue at listed
  split at listed
  · rw [List.mem_singleton.mp listed]
    exact ⟨_, .right, rfl⟩
  · cases listed

theorem OnlyBlocks.append {first second : List Deferred} (blocks : OnlyBlocks first)
    (others : OnlyBlocks second) : OnlyBlocks (first ++ second) := by
  intro entry listed
  rcases List.mem_append.mp listed with early | late
  · exact blocks entry early
  · exact others entry late

theorem OnlyBlocks.perm {queue other : List Deferred} (blocks : OnlyBlocks queue) (same : queue.Perm other) :
    OnlyBlocks other :=
  fun entry listed => blocks entry (same.mem_iff.mpr listed)

theorem perm_of_takeDue {now : Nat} {queue rest : List Deferred} {entry : Deferred}
    (taken : takeDue now queue = some (entry, rest)) : queue.Perm (entry :: rest) := by
  induction queue generalizing rest with
  | nil => cases taken
  | cons head tail ih =>
      unfold takeDue at taken
      split at taken
      · cases taken
        exact .refl _
      · split at taken
        · cases taken
        · next found others inner =>
            cases taken
            exact ((ih inner).cons head).trans (.swap _ _ _)

theorem IsBlock.moves {stroke : Keystroke} (block : IsBlock stroke) : stroke.Moves := by
  cases block <;> exact ⟨_, _, rfl⟩

/-- Only the chords listed are ever matched. -/
theorem Detector.chords_key {α : Type} (d : Detector α) (press : KeyPress) (now : Nat) :
    (d.key press now).1.chords = d.chords ∧
      ∀ action, (d.key press now).2 = .matched action → ∃ chord ∈ d.chords, chord.action = action := by
  cases echo : press.synthetic with
  | true =>
      obtain ⟨after, _, same, heard⟩ := d.key_of_echo echo now
      rw [heard]
      exact ⟨same, nofun⟩
  | false =>
      cases holding : d.held with
      | none =>
          rw [key_of_free holding echo]
          split <;> exact ⟨rfl, nofun⟩
      | some held =>
          rw [key_of_held holding echo]
          split
          · next chord spelled =>
              refine ⟨rfl, fun action matched => ?_⟩
              cases matched
              exact ⟨chord, List.mem_of_find?_eq_some spelled, rfl⟩
          · exact ⟨rfl, nofun⟩

namespace ModeSet

theorem chords_tick (s : ModeSet) (mode : Mode) (now : Nat) :
    (s.tick mode now).1.insert.detector.chords = s.insert.detector.chords := by
  cases mode with
  | insert =>
      change (s.insert.detector.tick now).1.chords = _
      rcases s.insert.detector.tick_cases now with ⟨held, _, _, ticked⟩ | ⟨_, ticked⟩ <;> rw [ticked]
      rfl
  | normal | visual | visualLine => rfl

theorem tick_of_free (s : ModeSet) (free : s.insert.detector.held = none) (mode : Mode) (now : Nat) :
    s.tick mode now = (s, []) := by
  cases mode with
  | insert =>
      simp only [tick, InsertMode.tick, Detector.tick, free]
      rfl
  | normal | visual | visualLine => rfl

theorem exit_insert_of_free (s : ModeSet) (free : s.insert.detector.held = none) :
    (s.exit .insert).2 = [] := by
  simp only [exit, InsertMode.exit, InsertMode.flush, Detector.cancel, free]
  rfl

/-- With no key held, leaving a mode sends nothing but moves. -/
theorem moves_exit (s : ModeSet) (free : s.insert.detector.held = none) (mode : Mode) :
    ∀ stroke ∈ (s.exit mode).2, stroke.Moves := by
  have leftward : ∀ stroke ∈ [Keystroke.plain .left], stroke.Moves :=
    List.forall_mem_singleton.mpr ⟨_, _, rfl⟩
  cases mode with
  | normal => nofun
  | insert =>
      rw [s.exit_insert_of_free free]
      nofun
  | visual | visualLine =>
      simp only [exit, VisualMode.exit]
      split
      · nofun
      · exact leftward

theorem moves_enter (s : ModeSet) (mode origin : Mode) :
    ∀ stroke ∈ (s.enter mode origin).2.now, stroke.Moves := by
  cases mode with
  | normal => cases origin <;> exact List.forall_mem_nil _
  | insert =>
      cases origin with
      | normal => exact List.forall_mem_singleton.mpr ⟨_, _, rfl⟩
      | insert | visual | visualLine => exact List.forall_mem_nil _
  | visual | visualLine =>
      simp only [enter, VisualMode.enter]
      split
      · exact List.forall_mem_cons.mpr ⟨⟨_, _, rfl⟩, List.forall_mem_singleton.mpr ⟨_, _, rfl⟩⟩
      · exact List.forall_mem_cons.mpr ⟨⟨_, _, rfl⟩, List.forall_mem_singleton.mpr ⟨_, _, rfl⟩⟩
      · exact List.forall_mem_singleton.mpr ⟨_, _, rfl⟩
      · exact List.forall_mem_nil _

end ModeSet

namespace Editor

variable {κ : Type} [Control κ]

/-- From one state to the other nothing has been sent but strokes of one sort, unless a key was held to
begin with. -/
structure Sent (sort : Keystroke → Prop) (e e' : Editor κ) : Prop where
  chords : e'.detector.chords = e.detector.chords
  blocks : OnlyBlocks e.queue → OnlyBlocks e'.queue
  free : e.detector.held = none → e'.detector.held = none
  control : e.detector.held = none →
    ∃ strokes, (∀ stroke ∈ strokes, sort stroke) ∧ e'.control = Control.injectAll e.control strokes

namespace Sent

variable {sort : Keystroke → Prop} {e : Editor κ}

/-- What the modes have gathered concerns nobody else. -/
theorem of_detector {e' : Editor κ} (detector : e'.detector = e.detector) (queue : e'.queue = e.queue)
    (control : e'.control = e.control) : Sent sort e e' :=
  ⟨congrArg Detector.chords detector, fun blocks => queue ▸ blocks, fun free => detector ▸ free,
    fun _ => ⟨[], nofun, control⟩⟩

theorem refl (e : Editor κ) : Sent sort e e := of_detector rfl rfl rfl

theorem trans {e' e'' : Editor κ} (first : Sent sort e e') (second : Sent sort e' e'') : Sent sort e e'' := by
  refine ⟨second.chords.trans first.chords, fun blocks => second.blocks (first.blocks blocks),
    fun free => second.free (first.free free), fun free => ?_⟩
  obtain ⟨early, earlySort, before⟩ := first.control free
  obtain ⟨late, lateSort, after⟩ := second.control (first.free free)
  refine ⟨early ++ late, ?_, ?_⟩
  · intro stroke listed
    rcases List.mem_append.mp listed with listed | listed
    · exact earlySort stroke listed
    · exact lateSort stroke listed
  · rw [after, before, Control.injectAll_append]

theorem inject (e : Editor κ) {strokes : List Keystroke} (sorted : ∀ stroke ∈ strokes, sort stroke) :
    Sent sort e (e.inject strokes) :=
  ⟨rfl, id, id, fun _ => ⟨strokes, sorted, rfl⟩⟩

theorem carryOut (e : Editor κ) {plan : Plan} (sorted : ∀ stroke ∈ plan.now, sort stroke)
    (ends : plan.EndsInBlock) (now : Nat) : Sent sort e (e.carryOut plan now) := by
  rw [carryOut_eq]
  refine ⟨rfl, fun blocks => blocks.append ?_, id, fun _ => ⟨plan.now, sorted, rfl⟩⟩
  rcases ends with immediate | ⟨stroke, block, settled⟩
  · rw [immediate]
    nofun
  · rw [settled]
    exact List.forall_mem_singleton.mpr ⟨stroke, block, rfl⟩

theorem execute (e : Editor κ) {counted : Counted} (sorted : ∀ stroke ∈ (counted.plan e.control).now, sort stroke)
    (now : Nat) : Sent sort e (e.execute counted now) := by
  rcases e.execute_cases counted now with ⟨-, carried⟩ | ⟨-, failed⟩
  · rw [carried]
    exact carryOut e sorted (counted.endsInBlock_plan e.control) now
  · rw [failed]
    exact ⟨rfl, id, id, fun _ => ⟨[], nofun, rfl⟩⟩

variable (moves : ∀ stroke : Keystroke, stroke.Moves → sort stroke)

include moves

theorem setMode (e : Editor κ) (mode : Mode) (now : Nat) : Sent sort e (e.setMode mode now) := by
  by_cases same : mode = e.mode
  · rw [same, setMode_self]
    exact refl e
  · refine ⟨?_, fun blocks => ?_, fun free => ?_, fun free => ⟨_, ?_, control_setMode e same now⟩⟩
    · rw [detector_setMode e same]
      split
      · exact Detector.chords_cancel _
      · rfl
    · rw [queue_setMode e same]
      exact blocks.append (onlyBlocks_entryQueue mode _)
    · rw [detector_setMode e same]
      split
      · exact Detector.held_cancel _
      · exact free
    · intro stroke listed
      rcases List.mem_append.mp listed with leaving | entering
      · exact moves stroke (e.modes.moves_exit free e.mode stroke leaving)
      · exact moves stroke (ModeSet.moves_enter _ mode e.mode stroke entering)

omit moves

mutual

theorem respond (moves : ∀ stroke : Keystroke, stroke.Moves → sort stroke) {response : Response}
    (sends : response.Sends sort) (e : Editor κ) (now : Nat) :
    Sent sort e (Editor.respond response e now).1 := by
  match response, sends with
  | .switchMode mode, _ => exact setMode moves e mode now
  | .inject stroke, sorted => exact inject e (List.forall_mem_singleton.mpr sorted)
  | .run counted, sends =>
      exact execute e (Counted.sent_plan moves sends e.control) now
  | .all responses, sends => exact respondAll moves sends e now
  | .consume, _ | .passThrough, _ => exact refl e

theorem respondAll (moves : ∀ stroke : Keystroke, stroke.Moves → sort stroke) {responses : List Response}
    (sends : Response.SendsAll sort responses) (e : Editor κ) (now : Nat) :
    Sent sort e (Editor.respondAll responses e now).1 := by
  match responses, sends with
  | [], _ => exact refl e
  | response :: rest, ⟨first, later⟩ =>
      exact (respond moves first e now).trans (respondAll moves later (Editor.respond response e now).1 now)

end

end Sent

/-- Nothing has happened but that block cursors were shown. -/
structure Shows (e e' : Editor κ) : Prop where
  mode : e'.mode = e.mode
  modes : e'.modes = e.modes
  blocks : OnlyBlocks e'.queue
  control : ∃ strokes, (∀ stroke ∈ strokes, IsBlock stroke) ∧ e'.control = Control.injectAll e.control strokes

namespace Shows

variable {e : Editor κ}

theorem refl (blocks : OnlyBlocks e.queue) : e.Shows e := ⟨rfl, rfl, blocks, [], nofun, rfl⟩

theorem trans {e' e'' : Editor κ} (first : e.Shows e') (second : e'.Shows e'') : e.Shows e'' := by
  obtain ⟨early, earlyBlocks, before⟩ := first.control
  obtain ⟨late, lateBlocks, after⟩ := second.control
  refine ⟨second.mode.trans first.mode, second.modes.trans first.modes, second.blocks, early ++ late, ?_, ?_⟩
  · intro stroke listed
    exact (List.mem_append.mp listed).elim (earlyBlocks stroke) (lateBlocks stroke)
  · rw [after, before, Control.injectAll_append]

theorem entry {entry : Deferred} {rest : List Deferred} (blocks : OnlyBlocks (entry :: rest)) (now : Nat) :
    e.Shows (Editor.respond entry.response { e with queue := rest } now).1 := by
  obtain ⟨⟨stroke, block, response⟩, others⟩ := List.forall_mem_cons.mp blocks
  rw [response, respond_injectAll]
  exact ⟨rfl, rfl, others, [stroke], List.forall_mem_singleton.mpr block, rfl⟩

theorem runDue (blocks : OnlyBlocks e.queue) (now : Nat) : e.Shows (e.runDue now) := by
  fun_induction Editor.runDue e now with
  | case1 e nothing => exact refl blocks
  | case2 e entry rest taken ih =>
      have first := Shows.entry (e := e) (blocks.perm (perm_of_takeDue taken)) now
      exact first.trans (ih first.blocks)

theorem runDeferred (blocks : OnlyBlocks e.queue) (now : Nat) : e.Shows (e.runDeferred now) := by
  fun_induction Editor.runDeferred e now with
  | case1 e nothing => exact refl blocks
  | case2 e entry rest queued ih =>
      rw [queued] at blocks
      have first := Shows.entry (e := e) blocks now
      exact first.trans (ih first.blocks)

theorem tick (blocks : OnlyBlocks e.queue) (free : e.detector.held = none) (now : Nat) :
    e.Shows (e.tick now) := by
  have ran := runDue blocks now
  have vacant : (e.runDue now).modes.insert.detector.held = none := by
    rw [ran.modes]
    exact free
  unfold Editor.tick
  dsimp only
  rw [ModeSet.tick_of_free _ vacant]
  exact ran

theorem ready (blocks : OnlyBlocks e.queue) (free : e.detector.held = none) (now : Nat) :
    e.Shows (e.ready now) :=
  (tick blocks free now).trans (runDeferred (tick blocks free now).blocks now)

theorem sent {sort : Keystroke → Prop} (moves : ∀ stroke : Keystroke, stroke.Moves → sort stroke)
    {e' : Editor κ} (shown : e.Shows e') : Sent sort e e' := by
  obtain ⟨strokes, blocks, control⟩ := shown.control
  have same : e'.detector = e.detector := congrArg (fun modes => modes.insert.detector) shown.modes
  exact ⟨congrArg Detector.chords same, fun _ => shown.blocks, fun free => same ▸ free,
    fun _ => ⟨strokes, fun stroke listed => moves stroke (blocks stroke listed).moves, control⟩⟩

end Shows

/-- Time alone sends nothing but moves when no key is held. -/
theorem Sent.run {κ : Type} [Target κ] {sort : Keystroke → Prop}
    (moves : ∀ stroke : Keystroke, stroke.Moves → sort stroke) {e : Editor κ} (blocks : OnlyBlocks e.queue)
    (free : e.detector.held = none) {inputs : List Input} (silent : presses inputs = []) :
    Sent sort e (e.run inputs) := by
  induction inputs generalizing e with
  | nil => exact refl e
  | cons input rest ih =>
      cases input with
      | key press now => cases silent
      | tick now =>
          have ticked : Sent sort e (e.tick now) := (Shows.tick blocks free now).sent moves
          exact ticked.trans (ih (ticked.blocks blocks) (ticked.free free) silent)

end Editor

end ModalKeys
