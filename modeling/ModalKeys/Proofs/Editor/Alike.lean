import ModalKeys.Proofs.Editor.Draining
import ModalKeys.Proofs.Editor.Reachable

/-!
# Editors that nothing tells apart

Two editors may expect different echoes, and they may have different controls. The first never decides
anything, and the second only shows in what the controls answer for their text and their selection. So
neither an echo leaves a trace in what an editor does, nor a field that answers nothing.
-/

namespace ModalKeys

structure Detector.Alike {α : Type} (d d' : Detector α) : Prop where
  chords : d'.chords = d.chords
  held : d'.held = d.held

namespace Detector.Alike

variable {α : Type} {d d' : Detector α}

theorem cancel (alike : d.Alike d') : d.cancel.1.Alike d'.cancel.1 ∧ d'.cancel.2 = d.cancel.2 := by
  obtain ⟨chords, held, expected⟩ := d
  obtain ⟨chords', held', expected'⟩ := d'
  obtain ⟨rfl, rfl⟩ := alike
  cases held' <;> exact ⟨⟨rfl, rfl⟩, rfl⟩

theorem tick (alike : d.Alike d') (now : Nat) :
    (d.tick now).1.Alike (d'.tick now).1 ∧ (d'.tick now).2 = (d.tick now).2 := by
  unfold Detector.tick
  rw [alike.held]
  cases d.held with
  | none => exact ⟨alike, rfl⟩
  | some held =>
      dsimp only
      split
      · exact alike.cancel
      · exact ⟨alike, rfl⟩

/-- A typed key forgets the echo that is expected before it looks at anything. -/
theorem key (alike : d.Alike d') (press : KeyPress) (now : Nat) :
    (d.key press now).1.Alike (d'.key press now).1 ∧ (d'.key press now).2 = (d.key press now).2 := by
  obtain ⟨chords, held, expected⟩ := d
  obtain ⟨chords', held', expected'⟩ := d'
  obtain ⟨rfl, rfl⟩ := alike
  cases synthetic : press.synthetic <;> simp only [Detector.key, synthetic] <;>
    exact ⟨⟨rfl, rfl⟩, rfl⟩

end Detector.Alike

structure ModeSet.Alike (s s' : ModeSet) : Prop where
  normal : s'.normal = s.normal
  insert : s.insert.detector.Alike s'.insert.detector
  visual : s'.visual = s.visual
  visualLine : s'.visualLine = s.visualLine

namespace ModeSet.Alike

variable {s s' : ModeSet} (alike : s.Alike s')

include alike

theorem flush (mode : Mode) :
    (s.flush mode).1.Alike (s'.flush mode).1 ∧ (s'.flush mode).2 = (s.flush mode).2 := by
  cases mode with
  | insert =>
      obtain ⟨cancelled, released⟩ := alike.insert.cancel
      refine ⟨⟨alike.normal, cancelled, alike.visual, alike.visualLine⟩, ?_⟩
      exact congrArg (fun press => (Option.map KeyPress.replay press).toList) released
  | normal | visual | visualLine => exact ⟨alike, rfl⟩

theorem exit (mode : Mode) :
    (s.exit mode).1.Alike (s'.exit mode).1 ∧ (s'.exit mode).2 = (s.exit mode).2 := by
  cases mode with
  | insert => exact alike.flush .insert
  | normal | visual | visualLine =>
      obtain ⟨normal, insert, visual, visualLine⟩ := s
      obtain ⟨normal', insert', visual', visualLine'⟩ := s'
      obtain ⟨rfl, detector, rfl, rfl⟩ := alike
      exact ⟨⟨rfl, detector, rfl, rfl⟩, rfl⟩

theorem enter (mode origin : Mode) :
    (s.enter mode origin).1.Alike (s'.enter mode origin).1 ∧
      (s'.enter mode origin).2 = (s.enter mode origin).2 := by
  cases mode with
  | insert => exact ⟨alike, rfl⟩
  | normal | visual | visualLine =>
      obtain ⟨normal, insert, visual, visualLine⟩ := s
      obtain ⟨normal', insert', visual', visualLine'⟩ := s'
      obtain ⟨rfl, detector, rfl, rfl⟩ := alike
      exact ⟨⟨rfl, detector, rfl, rfl⟩, rfl⟩

theorem tick (mode : Mode) (now : Nat) :
    (s.tick mode now).1.Alike (s'.tick mode now).1 ∧ (s'.tick mode now).2 = (s.tick mode now).2 := by
  cases mode with
  | insert =>
      obtain ⟨ticked, released⟩ := alike.insert.tick now
      refine ⟨⟨alike.normal, ticked, alike.visual, alike.visualLine⟩, ?_⟩
      exact congrArg (fun press => (Option.map KeyPress.replay press).toList) released
  | normal | visual | visualLine => exact ⟨alike, rfl⟩

theorem key (mode : Mode) (press : KeyPress) (now : Nat) :
    (s.key mode press now).1.Alike (s'.key mode press now).1 ∧
      (s'.key mode press now).2 = (s.key mode press now).2 := by
  obtain ⟨flushed, strokes⟩ := alike.flush .insert
  obtain ⟨normal, ⟨detector⟩, visual, visualLine⟩ := s
  obtain ⟨normal', ⟨detector'⟩, visual', visualLine'⟩ := s'
  obtain ⟨rfl, same, rfl, rfl⟩ := alike
  cases mode with
  | insert =>
      simp only [ModeSet.key, InsertMode.key]
      split
      · exact ⟨flushed, congrArg (fun strokes => some (Response.all (List.map .inject strokes ++ _))) strokes⟩
      · obtain ⟨heard, detection⟩ := Detector.Alike.key same press now
        exact ⟨⟨rfl, heard, rfl, rfl⟩, by rw [detection]⟩
  | normal | visual | visualLine => exact ⟨⟨rfl, same, rfl, rfl⟩, rfl⟩

theorem deadline? (mode : Mode) : s'.deadline? mode = s.deadline? mode := by
  cases mode with
  | insert => exact congrArg (Option.map HeldKey.deadline) alike.insert.held
  | normal | visual | visualLine => rfl

theorem pendingKeys (mode : Mode) : s'.pendingKeys mode = s.pendingKeys mode := by
  cases mode with
  | insert => exact congrArg (fun held => (Option.map (·.press.name) held).getD "") alike.insert.held
  | normal => exact congrArg NormalMode.pendingKeys alike.normal
  | visual => exact congrArg VisualMode.pendingKeys alike.visual
  | visualLine => exact congrArg VisualMode.pendingKeys alike.visualLine

end ModeSet.Alike

/-- Controls so related answer alike, and they stay related when both are sent the same. -/
structure AnswerAlike {κ : Type} [Target κ] (R : κ → κ → Prop) : Prop where
  text : ∀ {c c' : κ}, R c c' → Control.text? c' = Control.text? c
  selection : ∀ {c c' : κ}, R c c' → Control.selection? c' = Control.selection? c
  inject : ∀ {c c' : κ} (stroke : Keystroke), R c c' → R (Control.inject c stroke) (Control.inject c' stroke)
  receive : ∀ {c c' : κ} (stroke : Keystroke), R c c' → R (Target.receive c stroke) (Target.receive c' stroke)

namespace AnswerAlike

variable {κ : Type} [Target κ]

theorem eq : AnswerAlike fun c c' : κ => c' = c where
  text same := congrArg Control.text? same
  selection same := congrArg Control.selection? same
  inject stroke same := congrArg (Control.inject · stroke) same
  receive stroke same := congrArg (Target.receive · stroke) same

variable {R : κ → κ → Prop} (answers : AnswerAlike R) {c c' : κ}

include answers

theorem injectAll (related : R c c') (strokes : List Keystroke) :
    R (Control.injectAll c strokes) (Control.injectAll c' strokes) := by
  induction strokes generalizing c c' with
  | nil => exact related
  | cons stroke rest ih => exact ih (answers.inject stroke related)

/-- A plan reads nothing of a control but its answers. -/
theorem plan (related : R c c') (counted : Counted) : counted.plan c' = counted.plan c := by
  have passage : Control.passage? c' = Control.passage? c := by
    unfold Control.passage?
    rw [answers.text related, answers.selection related]
  have inRange : Control.inRange c' = Control.inRange c := by
    unfold Control.inRange
    rw [answers.text related, answers.selection related]
  unfold Counted.plan
  cases counted.command with
  | motion motion => cases motion <;> simp only [Motion.plan, wordPlan, passage, inRange]
  | edit edit => rfl
  | entry entry => rfl

end AnswerAlike

/-! ## Editors -/

namespace Editor

/-- The same editor, apart from the echo that it expects and what only its control knows. -/
structure Alike {κ : Type} (R : κ → κ → Prop) (e e' : Editor κ) : Prop where
  mode : e'.mode = e.mode
  modes : e.modes.Alike e'.modes
  control : R e.control e'.control
  queue : e'.queue = e.queue
  settle : e'.settle = e.settle
  failed : e'.failed = e.failed

namespace Alike

variable {κ : Type} {R : κ → κ → Prop}

theorem refl (e : Editor κ) : e.Alike (fun c c' => c' = c) e :=
  ⟨rfl, ⟨rfl, ⟨rfl, rfl⟩, rfl, rfl⟩, rfl, rfl, rfl, rfl⟩

/-- Which echo is expected may be changed on either side. -/
theorem withDetector {e e' : Editor κ} (alike : e.Alike R e') {d : Detector Response}
    (held : d.held = e'.detector.held) (chords : d.chords = e'.detector.chords) :
    e.Alike R (e'.withDetector d) := by
  obtain ⟨mode, ⟨normal, detector, visual, visualLine⟩, control, queue, settle, failed⟩ := alike
  have expecting : e.modes.insert.detector.Alike d :=
    ⟨chords.trans detector.chords, held.trans detector.held⟩
  exact ⟨mode, ⟨normal, expecting, visual, visualLine⟩, control, queue, settle, failed⟩

theorem withModes {e e' : Editor κ} (alike : e.Alike R e') {s s' : ModeSet} (modes : s.Alike s') :
    Alike R { e with modes := s } { e' with modes := s' } :=
  ⟨alike.mode, modes, alike.control, alike.queue, alike.settle, alike.failed⟩

theorem withMode {e e' : Editor κ} (alike : e.Alike R e') (mode : Mode) :
    Alike R { e with mode := mode } { e' with mode := mode } :=
  ⟨rfl, alike.modes, alike.control, alike.queue, alike.settle, alike.failed⟩

theorem withQueue {e e' : Editor κ} (alike : e.Alike R e') (queue : List Deferred) :
    Alike R { e with queue := queue } { e' with queue := queue } :=
  ⟨alike.mode, alike.modes, alike.control, rfl, alike.settle, alike.failed⟩

theorem deadline? {e e' : Editor κ} (alike : e.Alike R e') : e'.deadline? = e.deadline? := by
  unfold Editor.deadline?
  rw [alike.queue, alike.mode, alike.modes.deadline?]

theorem pendingKeys [Control κ] {e e' : Editor κ} (alike : e.Alike R e') :
    e'.pendingKeys = e.pendingKeys := by
  unfold Editor.pendingKeys
  rw [alike.mode, alike.modes.pendingKeys]

variable [Target κ] (answers : AnswerAlike R)

include answers

theorem inject {e e' : Editor κ} (alike : e.Alike R e') (strokes : List Keystroke) :
    (e.inject strokes).Alike R (e'.inject strokes) :=
  ⟨alike.mode, alike.modes, answers.injectAll alike.control strokes, alike.queue, alike.settle, alike.failed⟩

omit [Target κ] answers in
theorem schedule {e e' : Editor κ} (alike : e.Alike R e') (response : Response) (now : Nat) :
    (e.schedule response now).Alike R (e'.schedule response now) := by
  have queue : (e'.schedule response now).queue = (e.schedule response now).queue := by
    unfold Editor.schedule
    rw [alike.queue, alike.settle]
  exact ⟨alike.mode, alike.modes, alike.control, queue, alike.settle, alike.failed⟩

theorem carryOut {e e' : Editor κ} (alike : e.Alike R e') (plan : Plan) (now : Nat) :
    (e.carryOut plan now).Alike R (e'.carryOut plan now) := by
  unfold Editor.carryOut
  dsimp only
  split
  · exact alike.inject answers plan.now
  · exact (alike.inject answers plan.now).schedule _ now

theorem execute {e e' : Editor κ} (alike : e.Alike R e') (counted : Counted) (now : Nat) :
    (e.execute counted now).Alike R (e'.execute counted now) := by
  have plan := answers.plan alike.control counted
  unfold Editor.execute
  rw [plan]
  split
  · exact alike.carryOut answers _ now
  · exact ⟨alike.mode, alike.modes, alike.control, alike.queue, alike.settle, rfl⟩

theorem setMode {e e' : Editor κ} (alike : e.Alike R e') (mode : Mode) (now : Nat) :
    (e.setMode mode now).Alike R (e'.setMode mode now) := by
  unfold Editor.setMode
  rw [alike.mode]
  split
  · exact alike
  · obtain ⟨left, strokes⟩ := alike.modes.exit e.mode
    obtain ⟨entered, plan⟩ := left.enter mode e.mode
    dsimp only
    rw [strokes, modes_inject, modes_inject, plan]
    have here := (alike.withModes left).inject answers (e.modes.exit e.mode).2
    exact ((here.withModes entered).withMode mode).carryOut answers _ now

omit answers

mutual

theorem respond (answers : AnswerAlike R) {e e' : Editor κ} (alike : e.Alike R e') (response : Response)
    (now : Nat) :
    (Editor.respond response e now).1.Alike R (Editor.respond response e' now).1 ∧
      (Editor.respond response e' now).2 = (Editor.respond response e now).2 := by
  match response with
  | .switchMode mode => exact ⟨alike.setMode answers mode now, rfl⟩
  | .inject stroke => exact ⟨alike.inject answers [stroke], rfl⟩
  | .run counted => exact ⟨alike.execute answers counted now, rfl⟩
  | .defer response => exact ⟨alike.schedule response now, rfl⟩
  | .all responses => exact respondAll answers alike responses now
  | .consume | .passThrough => exact ⟨alike, rfl⟩

theorem respondAll (answers : AnswerAlike R) {e e' : Editor κ} (alike : e.Alike R e')
    (responses : List Response) (now : Nat) :
    (Editor.respondAll responses e now).1.Alike R (Editor.respondAll responses e' now).1 ∧
      (Editor.respondAll responses e' now).2 = (Editor.respondAll responses e now).2 := by
  match responses with
  | [] => exact ⟨alike, rfl⟩
  | response :: rest =>
      obtain ⟨first, kept⟩ := respond answers alike response now
      obtain ⟨last, restKept⟩ := respondAll answers first rest now
      exact ⟨last, congrArg₂ and kept restKept⟩

end

include answers

/-- The same entries are chosen, and they are carried out alike. -/
theorem drains {picker : Picker} {now : Nat} {e e' last : Editor κ} {ran : List Deferred}
    (drains : Drains picker now e ran last) (alike : e.Alike R e') :
    ∃ last', Drains picker now e' ran last' ∧ last.Alike R last' := by
  induction drains generalizing e' with
  | done empty =>
      rw [← alike.queue] at empty
      exact ⟨e', .done empty, alike⟩
  | pass picked drains ih =>
      rw [← alike.queue] at picked
      obtain ⟨last', later, alike'⟩ := ih ((alike.withQueue _).respond answers _ now).1
      exact ⟨last', .pass picked later, alike'⟩

theorem runDue {e e' : Editor κ} (alike : e.Alike R e') (now : Nat) :
    (e.runDue now).Alike R (e'.runDue now) := by
  obtain ⟨ran, drains⟩ := e.exists_drains_due now
  obtain ⟨last', drains', related⟩ := Alike.drains answers drains alike
  obtain ⟨ran', other⟩ := e'.exists_drains_due now
  rwa [← other.unique drains']

theorem runDeferred {e e' : Editor κ} (alike : e.Alike R e') (now : Nat) :
    (e.runDeferred now).Alike R (e'.runDeferred now) := by
  obtain ⟨ran, drains⟩ := e.exists_drains_first now
  obtain ⟨last', drains', related⟩ := Alike.drains answers drains alike
  obtain ⟨ran', other⟩ := e'.exists_drains_first now
  rwa [← other.unique drains']

theorem elapsed {e e' : Editor κ} (alike : e.Alike R e') (now : Nat) :
    (e.elapsed now).Alike R (e'.elapsed now) := by
  have ⟨ticked, strokes⟩ : (e.modes.tick e.mode now).1.Alike (e'.modes.tick e'.mode now).1 ∧
      (e'.modes.tick e'.mode now).2 = (e.modes.tick e.mode now).2 := by
    rw [alike.mode]
    exact alike.modes.tick e.mode now
  unfold Editor.elapsed
  rw [strokes]
  exact (alike.withModes ticked).inject answers _

theorem tick {e e' : Editor κ} (alike : e.Alike R e') (now : Nat) :
    (e.tick now).Alike R (e'.tick now) :=
  (alike.runDue answers now).elapsed answers now

theorem answer {e e' : Editor κ} (alike : e.Alike R e') (press : KeyPress) (now : Nat) :
    (e.answer press now).1.Alike R (e'.answer press now).1 ∧
      (e'.answer press now).2 = (e.answer press now).2 := by
  have ⟨heard, response⟩ : (e.modes.key e.mode press now).1.Alike (e'.modes.key e'.mode press now).1 ∧
      (e'.modes.key e'.mode press now).2 = (e.modes.key e.mode press now).2 := by
    rw [alike.mode]
    exact alike.modes.key e.mode press now
  have here := alike.withModes heard
  unfold Editor.answer
  dsimp only
  rw [response]
  cases (e.modes.key e.mode press now).2 with
  | none => exact ⟨here, rfl⟩
  | some response => exact here.respond answers response now

theorem key {e e' : Editor κ} (alike : e.Alike R e') (press : KeyPress) (now : Nat) :
    (e.key press now).1.Alike R (e'.key press now).1 ∧ (e'.key press now).2 = (e.key press now).2 := by
  have ticked := alike.tick answers now
  unfold Editor.key
  dsimp only
  rw [ticked.mode]
  split
  · split
    · exact ticked.answer answers press now
    · exact ⟨ticked, rfl⟩
  · exact (ticked.runDeferred answers now).answer answers press now

theorem deliver {e e' : Editor κ} (alike : e.Alike R e') (press : KeyPress) (now : Nat) :
    (e.deliver press now).1.Alike R (e'.deliver press now).1 ∧
      (e'.deliver press now).2 = (e.deliver press now).2 := by
  obtain ⟨after, kept⟩ := alike.key answers press now
  unfold Editor.deliver
  dsimp only
  rw [kept]
  split
  · exact ⟨after, rfl⟩
  · exact ⟨⟨after.mode, after.modes, answers.receive _ after.control, after.queue, after.settle,
      after.failed⟩, rfl⟩

theorem shutdown {e e' : Editor κ} (alike : e.Alike R e') : e.shutdown.Alike R e'.shutdown := by
  have ⟨flushed, strokes⟩ : (e.modes.flush e.mode).1.Alike (e'.modes.flush e'.mode).1 ∧
      (e'.modes.flush e'.mode).2 = (e.modes.flush e.mode).2 := by
    rw [alike.mode]
    exact alike.modes.flush e.mode
  unfold Editor.shutdown
  dsimp only
  rw [strokes]
  exact ((alike.withModes flushed).inject answers _).withQueue []

end Alike

end Editor

/-- Everything that is seen of an editor after an operation, its answer included. -/
structure Observation where
  reply : Option Bool
  mode : Mode
  pending : String
  deadline : Option Nat
  injected : List Keystroke
  failed : Bool
deriving DecidableEq, Repr

namespace Editor

variable {κ : Type} [Target κ]

/-- Does an operation and says what it answers; a key that is not kept goes on to the control. -/
def serve (e : Editor κ) : Operation → Editor κ × Option Bool
  | .key press now => ((e.deliver press now).1, some (e.deliver press now).2)
  | .execute response now => ((respond response e now).1, some (respond response e now).2)
  | operation => (e.operate operation, none)

def observation (e : Editor (Transcript κ)) (reply : Option Bool) : Observation :=
  ⟨reply, e.mode, e.pendingKeys, e.deadline?, e.control.injected, e.failed⟩

def watch (e : Editor (Transcript κ)) : List Operation → List Observation
  | [] => []
  | operation :: rest =>
      (e.serve operation).1.observation (e.serve operation).2 :: (e.serve operation).1.watch rest

namespace Alike

theorem serve {R : κ → κ → Prop} (answers : AnswerAlike R) {e e' : Editor κ} (alike : e.Alike R e')
    (operation : Operation) :
    (e.serve operation).1.Alike R (e'.serve operation).1 ∧
      (e'.serve operation).2 = (e.serve operation).2 := by
  cases operation with
  | key press now =>
      obtain ⟨after, kept⟩ := alike.deliver answers press now
      exact ⟨after, congrArg some kept⟩
  | tick now => exact ⟨alike.tick answers now, rfl⟩
  | setMode mode now => exact ⟨alike.setMode answers mode now, rfl⟩
  | execute response now =>
      obtain ⟨after, kept⟩ := alike.respond answers response now
      exact ⟨after, congrArg some kept⟩
  | shutdown => exact ⟨alike.shutdown answers, rfl⟩

variable {R : Transcript κ → Transcript κ → Prop} {e e' : Editor (Transcript κ)}

theorem observation (alike : e.Alike R e')
    (recorded : ∀ {t t' : Transcript κ}, R t t' → t'.injected = t.injected) (reply : Option Bool) :
    e'.observation reply = e.observation reply := by
  unfold Editor.observation
  rw [alike.mode, alike.pendingKeys, alike.deadline?, recorded alike.control, alike.failed]

/-- What relates alike editors is never seen, however long they are watched. -/
theorem watch (answers : AnswerAlike R)
    (recorded : ∀ {t t' : Transcript κ}, R t t' → t'.injected = t.injected) (alike : e.Alike R e')
    (operations : List Operation) : e'.watch operations = e.watch operations := by
  induction operations generalizing e e' with
  | nil => rfl
  | cons operation rest ih =>
      obtain ⟨after, reply⟩ := alike.serve answers operation
      simp only [Editor.watch]
      rw [reply, after.observation recorded, ih after]

end Alike

end Editor

/-! ## Echoes -/

/-- An echo becomes time that passes. -/
def Operation.silenced : Operation → Operation
  | .key press now => if press.synthetic then .tick now else .key press now
  | operation => operation

/-- An echo is let through, while time is not answered at all. -/
def Operation.answered (operation : Operation) (seen : Observation) : Observation :=
  match operation with
  | .key press _ => if press.synthetic then { seen with reply := some false } else seen
  | _ => seen

theorem Operation.echo_cases (operation : Operation) :
    (∃ press now, operation = .key press now ∧ press.synthetic = true) ∨
      operation.silenced = operation ∧ ∀ seen, operation.answered seen = seen := by
  cases operation with
  | key press now =>
      cases echo : press.synthetic with
      | true => exact .inl ⟨press, now, rfl, echo⟩
      | false => exact .inr ⟨by simp [silenced, echo], fun seen => by simp [answered, echo]⟩
  | tick _ | setMode _ _ | execute _ _ | shutdown => exact .inr ⟨rfl, fun _ => rfl⟩

namespace Editor

variable {κ : Type} [Target κ]

theorem serve_of_echo (e : Editor κ) {press : KeyPress} (echo : press.synthetic = true) (now : Nat) :
    ∃ d, d.held = (e.tick now).detector.held ∧ d.chords = (e.tick now).detector.chords ∧
      e.serve (.key press now) = ((e.tick now).withDetector d, some false) := by
  obtain ⟨d, held, chords, handled⟩ := e.key_of_echo echo now
  have delivered : e.deliver press now = ((e.tick now).withDetector d, false) := by
    rw [deliver, handled]
    simp [echo]
  exact ⟨d, held, chords, by rw [serve, delivered]⟩

/-- The run with echoes keeps alike to the run in which only time passes. -/
theorem Alike.watch_silenced {e e' : Editor (Transcript κ)} (alike : e.Alike (fun c c' => c' = c) e')
    (operations : List Operation) :
    e'.watch operations =
      List.zipWith Operation.answered operations (e.watch (operations.map Operation.silenced)) := by
  induction operations generalizing e e' with
  | nil => rfl
  | cons operation rest ih =>
      rw [List.map_cons, Editor.watch, Editor.watch, List.zipWith_cons_cons]
      rcases operation.echo_cases with ⟨press, now, rfl, echo⟩ | ⟨same, unanswered⟩
      · obtain ⟨d, held, chords, served⟩ := e'.serve_of_echo echo now
        have ticked := (alike.tick .eq now).withDetector held chords
        have silent : (Operation.key press now).silenced = .tick now := by simp [Operation.silenced, echo]
        rw [served, silent, ih ticked]
        refine congrArg (· :: _) ?_
        rw [ticked.observation (congrArg Transcript.injected)]
        simp [Operation.answered, echo, Editor.observation, Editor.serve, operate]
      · obtain ⟨after, reply⟩ := alike.serve .eq operation
        rw [same, unanswered, reply, after.observation (congrArg Transcript.injected), ih after]

/-- An echo is let through, and for the rest it is as if only time had passed: no answer to a typed key, no
mode, no pending key, no deadline and no stroke tells the difference, then or ever after. Nor does it
matter which echo an editor expects. -/
theorem echoes_leave_no_trace (e : Editor (Transcript κ)) (operations : List Operation) :
    e.watch operations =
        List.zipWith Operation.answered operations (e.watch (operations.map Operation.silenced)) ∧
      ∀ expected, (e.withDetector { e.detector with expected := expected }).watch operations =
        e.watch operations := by
  constructor
  · exact (Alike.refl e).watch_silenced operations
  · intro expected
    have other : e.Alike _ (e.withDetector { e.detector with expected := expected }) :=
      (Alike.refl e).withDetector rfl rfl
    exact other.watch .eq (congrArg Transcript.injected) operations

end Editor

namespace TextField

@[simp] theorem introspection_deleteRange (f : TextField) (first last : Nat) :
    (f.deleteRange first last).introspection = f.introspection := by
  unfold deleteRange
  split <;> rfl

@[simp] theorem introspection_replaceSelection (f : TextField) (inserted : List Char) :
    (f.replaceSelection inserted).introspection = f.introspection := by
  unfold replaceSelection
  split <;> rfl

@[simp] theorem introspection_copy (f : TextField) : f.copy.introspection = f.introspection := by
  unfold copy
  split <;> rfl

/-- Nothing that is typed into a field makes it answer, or stop answering. -/
theorem introspection_press (f : TextField) (stroke : Keystroke) :
    (f.press stroke).introspection = f.introspection := by
  unfold press
  cases Shortcut.ofKeystroke stroke with
  | move _ _ | selectAll | unassigned => rfl
  | deleteBackward _ | deleteForward =>
      unfold perform
      dsimp only
      split <;> exact introspection_deleteRange f _ _
  | copy => exact introspection_copy f
  | cut => exact (introspection_deleteRange f.copy _ _).trans (introspection_copy f)
  | paste | insert _ => exact introspection_replaceSelection f _
  | undo =>
      change f.undoEdit.introspection = _
      unfold undoEdit
      split <;> rfl
  | redo =>
      change f.redoEdit.introspection = _
      unfold redoEdit
      split <;> rfl

end TextField

namespace Transcript

/-- Both fields answer nothing, and both have received the same strokes. -/
structure Unreadable (t t' : Transcript TextField) : Prop where
  first : t.control.introspection = false
  second : t'.control.introspection = false
  received : t'.reversed = t.reversed

theorem Unreadable.answerAlike : AnswerAlike Unreadable where
  text hidden := by
    change (if _ then _ else _) = if _ then _ else _
    rw [hidden.first, hidden.second]
    rfl
  selection hidden := by
    change (if _ then _ else _) = if _ then _ else _
    rw [hidden.first, hidden.second]
    rfl
  inject stroke hidden :=
    ⟨(TextField.introspection_press _ stroke).trans hidden.first,
      (TextField.introspection_press _ stroke).trans hidden.second,
      congrArg (stroke :: ·) hidden.received⟩
  receive stroke hidden :=
    ⟨(TextField.introspection_press _ stroke).trans hidden.first,
      (TextField.introspection_press _ stroke).trans hidden.second, hidden.received⟩

end Transcript

namespace Editor

/-- A field that does not answer keeps its content to itself: whatever is done, editors over any two such
fields cannot be told apart, although the fields themselves may come to differ in everything. -/
theorem unreadable_field_leaves_no_trace (settings : Settings) {field other : TextField}
    (hidden : field.introspection = false) (hidden' : other.introspection = false)
    (operations : List Operation) :
    (settings.editor (Transcript.of field)).watch operations =
      (settings.editor (Transcript.of other)).watch operations := by
  have alike : (settings.editor (Transcript.of other)).Alike Transcript.Unreadable
      (settings.editor (Transcript.of field)) :=
    ⟨rfl, ⟨rfl, ⟨rfl, rfl⟩, rfl, rfl⟩, ⟨hidden', hidden, rfl⟩, rfl, rfl, rfl⟩
  have recorded : ∀ {t t' : Transcript TextField}, t.Unreadable t' → t'.injected = t.injected :=
    fun related => congrArg List.reverse related.received
  exact alike.watch Transcript.Unreadable.answerAlike recorded operations

/-- A word forward, a deletion and some typing, over two texts. Editors over fields that do answer would
be told apart. -/
theorem unreadable_field_leaves_no_trace_of_two_texts :
    let settings := { Settings.usual with startMode := .normal }
    let field := TextField.ofText "one two".toList
    let other := TextField.ofText "a b".toList
    let keys := KeyPress.ofText "wxi!".toList
    let operations : List Operation := keys.map (.key · 0) ++ [.key .escape 10, .tick 100]
    let watch (f : TextField) := (settings.editor (Transcript.of f)).watch operations
    watch field ≠ watch other ∧
      watch (field.withIntrospection false) = watch (other.withIntrospection false) := by
  intro settings field other keys operations watch
  exact ⟨by decide +kernel, unreadable_field_leaves_no_trace settings rfl rfl operations⟩

end Editor

end ModalKeys
