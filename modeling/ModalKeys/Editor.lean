import ModalKeys.Command.Strokes
import ModalKeys.Mode.Set

/-!
# The editor

The editor owns the focused control, the state of all modes and a queue of deferred responses. It
answers each key by whether it was kept from the control. A deferred response falls due a settle
delay after it was scheduled; it may schedule further ones, and the queue still runs dry because each
response weighs more than all it schedules.
-/

namespace ModalKeys

structure Deferred where
  due : Nat
  response : Response
deriving Repr

structure Editor (κ : Type) where
  mode : Mode
  modes : ModeSet
  control : κ
  queue : List Deferred
  settle : Nat
  /-- A plan could not be carried out. Whoever drives the editor stops then. -/
  failed : Bool
deriving Repr

/-- The first entry that is due, and the queue without it. -/
def takeDue (now : Nat) : List Deferred → Option (Deferred × List Deferred)
  | [] => none
  | entry :: rest =>
      if entry.due ≤ now then some (entry, rest)
      else
        match takeDue now rest with
        | none => none
        | some (found, others) => some (found, entry :: others)

def queueWeight (queue : List Deferred) : Nat := Response.weightAll (queue.map Deferred.response)

theorem queueWeight_append (first second : List Deferred) :
    queueWeight (first ++ second) = queueWeight first + queueWeight second := by
  simp [queueWeight, Response.weightAll_append]

theorem queueWeight_of_takeDue {now : Nat} {queue rest : List Deferred} {entry : Deferred}
    (taken : takeDue now queue = some (entry, rest)) :
    queueWeight queue = entry.response.weight + queueWeight rest := by
  induction queue generalizing rest with
  | nil => cases taken
  | cons head tail ih =>
      unfold takeDue at taken
      split at taken
      · cases taken
        rfl
      · split at taken
        · cases taken
        · next found others inner =>
            cases taken
            have tailWeight := ih inner
            simp only [queueWeight, List.map_cons, Response.weightAll] at tailWeight ⊢
            omega

namespace Editor

variable {κ : Type} [Control κ]

/-- An editor over a control, with empty buffers and nothing deferred. -/
def start (mode : Mode) (reader : CommandReader) (chords : List (Chord Response)) (settle : Nat)
    (control : κ) : Editor κ :=
  ⟨mode, .start reader chords, control, [], settle, false⟩

def inject (e : Editor κ) (strokes : List Keystroke) : Editor κ :=
  { e with control := Control.injectAll e.control strokes }

def schedule (e : Editor κ) (response : Response) (now : Nat) : Editor κ :=
  { e with queue := e.queue ++ [⟨now + e.settle, response⟩] }

/-- Sends the strokes of a plan that are for now and defers the others. -/
def carryOut (e : Editor κ) (plan : Plan) (now : Nat) : Editor κ :=
  let sent := e.inject plan.now
  if plan.settled.isEmpty then sent else sent.schedule (.injectAll plan.settled) now

/-- Carries out a command. When its plan does not fit, nothing is sent and the editor has failed. -/
def execute (e : Editor κ) (counted : Counted) (now : Nat) : Editor κ :=
  if (counted.plan e.control).fits then e.carryOut (counted.plan e.control) now
  else { e with failed := true }

/-- Leaves the current mode and enters another; a change to the same mode does nothing. -/
def setMode (e : Editor κ) (mode : Mode) (now : Nat) : Editor κ :=
  if mode = e.mode then e
  else
    let (modes, strokes) := e.modes.exit e.mode
    let left := { e with modes := modes }.inject strokes
    let (modes, plan) := left.modes.enter mode e.mode
    { left with mode := mode, modes := modes }.carryOut plan now

mutual

/-- Carries out a response and says whether the key it answers is kept from the control. -/
def respond : Response → Editor κ → Nat → Editor κ × Bool
  | .switchMode mode, e, now => (e.setMode mode now, true)
  | .inject stroke, e, _ => (e.inject [stroke], true)
  | .run counted, e, now => (e.execute counted now, true)
  | .defer response, e, now => (e.schedule response now, true)
  | .all responses, e, now => respondAll responses e now
  | .consume, e, _ => (e, true)
  | .passThrough, e, _ => (e, false)

def respondAll : List Response → Editor κ → Nat → Editor κ × Bool
  | [], e, _ => (e, true)
  | response :: rest, e, now =>
      let (first, kept) := respond response e now
      let (last, restKept) := respondAll rest first now
      (last, kept && restKept)

end

omit [Control κ] in
theorem queueWeight_schedule (e : Editor κ) (response : Response) (now : Nat) :
    queueWeight (e.schedule response now).queue = queueWeight e.queue + response.weight := by
  rw [schedule, queueWeight_append]
  rfl

theorem queueWeight_carryOut_le (e : Editor κ) (plan : Plan) (now : Nat)
    (small : plan.settled.length ≤ 1) :
    queueWeight (e.carryOut plan now).queue ≤ queueWeight e.queue + 2 := by
  unfold carryOut
  split
  · exact Nat.le_add_right _ _
  · rw [queueWeight_schedule, Response.weight_injectAll]
    exact Nat.add_le_add_left (Nat.succ_le_succ small) _

theorem execute_cases (e : Editor κ) (counted : Counted) (now : Nat) :
    (counted.plan e.control).fits = true ∧
        e.execute counted now = e.carryOut (counted.plan e.control) now ∨
      (counted.plan e.control).fits = false ∧ e.execute counted now = { e with failed := true } := by
  unfold execute
  cases (counted.plan e.control).fits with
  | true => exact .inl ⟨rfl, rfl⟩
  | false => exact .inr ⟨rfl, rfl⟩

theorem execute_of_fits {e : Editor κ} {counted : Counted} (fits : (counted.plan e.control).fits = true)
    (now : Nat) : e.execute counted now = e.carryOut (counted.plan e.control) now :=
  if_pos fits

theorem execute_of_not_fits {e : Editor κ} {counted : Counted}
    (unfit : (counted.plan e.control).fits = false) (now : Nat) :
    e.execute counted now = { e with failed := true } :=
  if_neg (Bool.eq_false_iff.mp unfit)

theorem queueWeight_execute_le (e : Editor κ) (counted : Counted) (now : Nat) :
    queueWeight (e.execute counted now).queue ≤ queueWeight e.queue + 2 := by
  rcases e.execute_cases counted now with ⟨-, carried⟩ | ⟨-, failed⟩
  · rw [carried]
    exact queueWeight_carryOut_le _ _ _ (counted.length_settled_plan_le e.control)
  · rw [failed]
    exact Nat.le_add_right _ _

theorem queueWeight_setMode_le (e : Editor κ) (mode : Mode) (now : Nat) :
    queueWeight (e.setMode mode now).queue ≤ queueWeight e.queue + 2 := by
  unfold setMode
  split
  · exact Nat.le_add_right _ _
  · exact queueWeight_carryOut_le _ _ _ (ModeSet.length_settled_enter_le _ _ _)

mutual

theorem queueWeight_respond_lt (response : Response) (e : Editor κ) (now : Nat) :
    queueWeight (respond response e now).1.queue < queueWeight e.queue + response.weight := by
  match response with
  | .switchMode mode =>
      have bound := queueWeight_setMode_le e mode now
      simp only [respond, Response.weight]
      omega
  | .inject _ | .consume | .passThrough => simp [respond, Response.weight, inject]
  | .run counted =>
      have bound := queueWeight_execute_le e counted now
      simp only [respond, Response.weight]
      omega
  | .defer response =>
      simp only [respond, queueWeight_schedule, Response.weight]
      omega
  | .all responses =>
      have bound := queueWeight_respondAll_le responses e now
      simp only [respond, Response.weight]
      omega

theorem queueWeight_respondAll_le (responses : List Response) (e : Editor κ) (now : Nat) :
    queueWeight (respondAll responses e now).1.queue ≤
      queueWeight e.queue + Response.weightAll responses := by
  match responses with
  | [] => exact Nat.le_add_right _ _
  | response :: rest =>
      have head := queueWeight_respond_lt response e now
      have tail := queueWeight_respondAll_le rest (respond response e now).1 now
      simp only [respondAll, Response.weightAll]
      omega

end

def runDue (e : Editor κ) (now : Nat) : Editor κ :=
  match _taken : takeDue now e.queue with
  | none => e
  | some (entry, rest) => runDue (respond entry.response { e with queue := rest } now).1 now
termination_by queueWeight e.queue
decreasing_by
  have smaller := queueWeight_respond_lt entry.response { e with queue := rest } now
  rw [queueWeight_of_takeDue _taken]
  simp only at smaller
  omega

def runDeferred (e : Editor κ) (now : Nat) : Editor κ :=
  match _queued : e.queue with
  | [] => e
  | entry :: rest => runDeferred (respond entry.response { e with queue := rest } now).1 now
termination_by queueWeight e.queue
decreasing_by
  have smaller := queueWeight_respond_lt entry.response { e with queue := rest } now
  rw [_queued]
  simp only [queueWeight, List.map_cons, Response.weightAll] at smaller ⊢
  omega

/-- Lets time pass: due responses run, then the current mode gives up a key held too long. -/
def tick (e : Editor κ) (now : Nat) : Editor κ :=
  let ran := e.runDue now
  let (modes, strokes) := ran.modes.tick ran.mode now
  { ran with modes := modes }.inject strokes

/-- The current mode's answer to a key, carried out. -/
def answer (e : Editor κ) (press : KeyPress) (now : Nat) : Editor κ × Bool :=
  let (modes, response) := e.modes.key e.mode press now
  let answered := { e with modes := modes }
  match response with
  | none => (answered, false)
  | some response => respond response answered now

/-- Handles a key and says whether it is kept from the control. Timers that are due come first; a
typed key also runs whatever is deferred. Synthetic keys pass through, and only Insert mode sees
them. -/
def key (e : Editor κ) (press : KeyPress) (now : Nat) : Editor κ × Bool :=
  let ticked := e.tick now
  if press.synthetic then
    if ticked.mode.isInsert then ticked.answer press now else (ticked, false)
  else (ticked.runDeferred now).answer press now

def deadline? (e : Editor κ) : Option Nat :=
  match (e.queue.map (·.due)).min?, e.modes.deadline? e.mode with
  | some queued, some held => some (min queued held)
  | some queued, none => some queued
  | none, held => held

/-- Types a held key and drops everything deferred. -/
def shutdown (e : Editor κ) : Editor κ :=
  let (modes, strokes) := e.modes.flush e.mode
  { { e with modes := modes }.inject strokes with queue := [] }

def pendingKeys (e : Editor κ) : String := e.modes.pendingKeys e.mode

end Editor

end ModalKeys
