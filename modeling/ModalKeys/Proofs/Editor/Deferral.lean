import Mathlib.Data.List.Basic
import ModalKeys.Proofs.Editor.Draining
import ModalKeys.Proofs.Editor.Orderly
import ModalKeys.Proofs.Session

/-!
# The account of the queue

Every deferral and every deferred response that is carried out is an event. The events of an operation
account for its queue: what was in it, and then what was deferred, is what left it, and then what is still
in it. With times that do not go back, what leaves it goes in the order in which it came.
-/

namespace ModalKeys

inductive Event where
  | deferred (now : Nat) (response : Response)
  | ran (now : Nat) (entry : Deferred)
  /-- A key gets the answer of the mode that the editor is in. -/
  | answered (press : KeyPress)
  | dropped (entry : Deferred)

namespace Event

def entered? (settle : Nat) : Event → Option Deferred
  | .deferred now response => some ⟨now + settle, response⟩
  | .ran _ _ | .answered _ | .dropped _ => none

def ran? : Event → Option Deferred
  | .ran _ entry => some entry
  | .deferred _ _ | .answered _ | .dropped _ => none

def left? : Event → Option Deferred
  | .ran _ entry | .dropped entry => some entry
  | .deferred _ _ | .answered _ => none

def entered (settle : Nat) (events : List Event) : List Deferred := events.filterMap (entered? settle)

def carriedOut (events : List Event) : List Deferred := events.filterMap ran?

def left (events : List Event) : List Deferred := events.filterMap left?

variable {now settle : Nat} {first second events : List Event}

theorem entered_append : entered settle (first ++ second) = entered settle first ++ entered settle second :=
  List.filterMap_append

theorem left_append : left (first ++ second) = left first ++ left second := List.filterMap_append

theorem carriedOut_append : carriedOut (first ++ second) = carriedOut first ++ carriedOut second :=
  List.filterMap_append

/-- Nothing is dropped, so what left the queue was carried out. -/
theorem left_eq_carriedOut (kept : ∀ entry, .dropped entry ∉ events) :
    left events = carriedOut events := by
  refine List.filterMap_congr fun event listed => ?_
  cases event with
  | dropped entry => exact absurd listed (kept entry)
  | deferred now response | ran now entry | answered press => rfl

/-- An event that happens now: a deferral, or an entry is carried out that may be. -/
def Allowed (permits : Deferred → Prop) (now : Nat) : Event → Prop
  | .deferred time _ => time = now
  | .ran time entry => time = now ∧ permits entry
  | .answered _ => True
  | .dropped _ => False

theorem Allowed.imp {permits wider : Deferred → Prop} {event : Event} (allowed : event.Allowed permits now)
    (implies : ∀ entry, permits entry → wider entry) : event.Allowed wider now := by
  cases event with
  | ran time entry => exact ⟨allowed.1, implies entry allowed.2⟩
  | deferred time response | answered press | dropped entry => exact allowed

/-- Only deferrals, all at one time. -/
def OnlyDeferred (now : Nat) (events : List Event) : Prop :=
  ∀ event ∈ events, ∃ response, event = .deferred now response

namespace OnlyDeferred

theorem nil : OnlyDeferred now [] := nofun

theorem append (only : OnlyDeferred now first) (also : OnlyDeferred now second) :
    OnlyDeferred now (first ++ second) := by
  intro event listed
  rcases List.mem_append.mp listed with inFirst | inSecond
  · exact only event inFirst
  · exact also event inSecond

theorem left (only : OnlyDeferred now events) : left events = [] := by
  refine List.filterMap_eq_nil_iff.mpr fun event listed => ?_
  obtain ⟨response, rfl⟩ := only event listed
  rfl

theorem carriedOut (only : OnlyDeferred now events) : carriedOut events = [] := by
  refine List.filterMap_eq_nil_iff.mpr fun event listed => ?_
  obtain ⟨response, rfl⟩ := only event listed
  rfl

theorem due_of_mem_entered (only : OnlyDeferred now events) :
    ∀ entry ∈ entered settle events, entry.due = now + settle := by
  intro entry listed
  obtain ⟨event, inEvents, made⟩ := List.mem_filterMap.mp listed
  obtain ⟨response, rfl⟩ := only event inEvents
  cases made
  rfl

theorem allowed (only : OnlyDeferred now events) (permits : Deferred → Prop) :
    ∀ event ∈ events, event.Allowed permits now := by
  intro event listed
  obtain ⟨response, rfl⟩ := only event listed
  rfl

end OnlyDeferred

end Event

open Event (entered left carriedOut OnlyDeferred)

/-! ## Events -/

def Plan.deferral (plan : Plan) (now : Nat) : List Event :=
  if plan.settled.isEmpty then [] else [.deferred now (.injectAll plan.settled)]

theorem Plan.onlyDeferred_deferral (plan : Plan) (now : Nat) : OnlyDeferred now (plan.deferral now) := by
  unfold deferral
  split
  · exact .nil
  · intro event listed
    exact ⟨_, List.mem_singleton.mp listed⟩

/-- The time at which an operation is done. A shutdown takes none. -/
def Operation.time? : Operation → Option Nat
  | .key _ now | .tick now | .setMode _ now | .execute _ now => some now
  | .shutdown => none

def operationTimes (operations : List Operation) : List Nat := operations.filterMap Operation.time?

namespace Editor

variable {κ : Type} [Control κ]

def setModeEvents (e : Editor κ) (mode : Mode) (now : Nat) : List Event :=
  if mode = e.mode then [] else ((e.modes.exit e.mode).1.enter mode e.mode).2.deferral now

def executeEvents (e : Editor κ) (counted : Counted) (now : Nat) : List Event :=
  if (counted.plan e.control).fits then (counted.plan e.control).deferral now else []

mutual

def respondEvents : Response → Editor κ → Nat → List Event
  | .switchMode mode, e, now => e.setModeEvents mode now
  | .run counted, e, now => e.executeEvents counted now
  | .defer response, _, now => [.deferred now response]
  | .all responses, e, now => respondAllEvents responses e now
  | .inject _, _, _ | .consume, _, _ | .passThrough, _, _ => []

def respondAllEvents : List Response → Editor κ → Nat → List Event
  | [], _, _ => []
  | response :: rest, e, now =>
      respondEvents response e now ++ respondAllEvents rest (respond response e now).1 now

end

/-- What happens while entries are carried out until the picker chooses none. -/
def drainEvents (picker : Picker) (now : Nat) (e : Editor κ) : List Event :=
  match _picked : picker.pick e.queue with
  | none => []
  | some (entry, rest) =>
      .ran now entry :: (respondEvents entry.response { e with queue := rest } now ++
        drainEvents picker now (e.carryOutEntry entry rest now))
termination_by queueWeight e.queue
decreasing_by exact queueWeight_carryOutEntry_lt _picked

def answerEvents (e : Editor κ) (press : KeyPress) (now : Nat) : List Event :=
  let (modes, response) := e.modes.key e.mode press now
  .answered press ::
    match response with
    | none => []
    | some response => respondEvents response { e with modes := modes } now

def keyEvents (e : Editor κ) (press : KeyPress) (now : Nat) : List Event :=
  let ticked := e.tick now
  let overdue := e.drainEvents (.due now) now
  if press.synthetic then
    if ticked.mode.isInsert then overdue ++ ticked.answerEvents press now else overdue
  else
    overdue ++ ticked.drainEvents .first now ++ (ticked.runDeferred now).answerEvents press now

def operationEvents (e : Editor κ) : Operation → List Event
  | .key press now => e.keyEvents press now
  | .tick now => e.drainEvents (.due now) now
  | .setMode mode now => e.setModeEvents mode now
  | .execute response now => respondEvents response e now
  | .shutdown => e.queue.map .dropped

def history (e : Editor κ) : List Operation → List Event
  | [] => []
  | operation :: rest => e.operationEvents operation ++ (e.operate operation).history rest

variable {e after : Editor κ} {now : Nat} {picker : Picker}

theorem drainEvents_of_none (empty : picker.pick e.queue = none) : e.drainEvents picker now = [] := by
  rw [drainEvents]
  split
  · rfl
  · next picked => cases empty.symm.trans picked

theorem drainEvents_of_some {entry : Deferred} {rest : List Deferred}
    (picked : picker.pick e.queue = some (entry, rest)) :
    e.drainEvents picker now =
      .ran now entry :: (respondEvents entry.response { e with queue := rest } now ++
        (e.carryOutEntry entry rest now).drainEvents picker now) := by
  rw [drainEvents]
  split
  · next empty => cases empty.symm.trans picked
  · next _ _ same =>
      cases picked.symm.trans same
      rfl

theorem keyEvents_eq {press : KeyPress} (typed : press.synthetic = false) :
    e.keyEvents press now =
      e.drainEvents (.due now) now ++ (e.tick now).drainEvents .first now ++
        (e.ready now).answerEvents press now := by
  rw [keyEvents, typed]
  rfl

omit [Control κ] in
theorem onlyDeferred_setModeEvents (e : Editor κ) (mode : Mode) (now : Nat) :
    OnlyDeferred now (e.setModeEvents mode now) := by
  unfold setModeEvents
  split
  · exact .nil
  · exact Plan.onlyDeferred_deferral _ now

theorem onlyDeferred_executeEvents (e : Editor κ) (counted : Counted) (now : Nat) :
    OnlyDeferred now (e.executeEvents counted now) := by
  unfold executeEvents
  split
  · exact Plan.onlyDeferred_deferral _ now
  · exact .nil

mutual

theorem onlyDeferred_respondEvents (response : Response) (e : Editor κ) (now : Nat) :
    OnlyDeferred now (respondEvents response e now) := by
  match response with
  | .switchMode mode => exact e.onlyDeferred_setModeEvents mode now
  | .run counted => exact e.onlyDeferred_executeEvents counted now
  | .defer response => exact fun event listed => ⟨response, List.mem_singleton.mp listed⟩
  | .all responses => exact onlyDeferred_respondAllEvents responses e now
  | .inject _ | .consume | .passThrough => exact .nil

theorem onlyDeferred_respondAllEvents (responses : List Response) (e : Editor κ) (now : Nat) :
    OnlyDeferred now (respondAllEvents responses e now) := by
  match responses with
  | [] => exact .nil
  | response :: rest =>
      exact (onlyDeferred_respondEvents response e now).append (onlyDeferred_respondAllEvents rest _ now)

end

theorem allowed_answerEvents (e : Editor κ) (press : KeyPress) (now : Nat) (permits : Deferred → Prop) :
    ∀ event ∈ e.answerEvents press now, event.Allowed permits now := by
  refine List.forall_mem_cons.mpr ⟨trivial, OnlyDeferred.allowed ?_ permits⟩
  split
  · exact .nil
  · exact onlyDeferred_respondEvents _ _ now

theorem Drains.allowed {permits : Deferred → Prop}
    (picks : ∀ {queue rest entry}, picker.pick queue = some (entry, rest) → permits entry)
    {last : Editor κ} {ran : List Deferred} (drains : Drains picker now e ran last) :
    ∀ event ∈ e.drainEvents picker now, event.Allowed permits now := by
  induction drains with
  | done empty =>
      rw [drainEvents_of_none empty]
      nofun
  | pass picked drains ih =>
      rw [drainEvents_of_some picked]
      refine List.forall_mem_cons.mpr ⟨⟨rfl, picks picked⟩, fun event listed => ?_⟩
      rcases List.mem_append.mp listed with own | later
      · exact (onlyDeferred_respondEvents _ _ now).allowed permits event own
      · exact ih event later

/-- What the events of a pass say was carried out is what the pass carries out. -/
theorem Drains.carriedOut_drainEvents {last : Editor κ} {ran : List Deferred}
    (drains : Drains picker now e ran last) : carriedOut (e.drainEvents picker now) = ran := by
  induction drains with
  | done empty =>
      rw [drainEvents_of_none empty]
      rfl
  | pass picked drains ih =>
      rw [drainEvents_of_some picked]
      change _ :: carriedOut (_ ++ _) = _
      rw [Event.carriedOut_append, (onlyDeferred_respondEvents _ _ now).carriedOut, ih]
      rfl

theorem allowed_drainEvents_due (e : Editor κ) (now : Nat) :
    ∀ event ∈ e.drainEvents (.due now) now, event.Allowed (·.due ≤ now) now := by
  obtain ⟨ran, drains⟩ := e.exists_drains_due now
  exact drains.allowed due_of_takeDue

theorem allowed_drainEvents_first (e : Editor κ) (now : Nat) :
    ∀ event ∈ e.drainEvents .first now, event.Allowed (fun _ => True) now := by
  obtain ⟨ran, drains⟩ := e.exists_drains_first now
  exact drains.allowed fun _ => trivial

/-- Ahead of its time, an entry runs only because a key has been typed; entries are dropped only by a
shutdown. -/
theorem allowed_operationEvents {operation : Operation} {event : Event}
    (listed : event ∈ e.operationEvents operation) :
    (operation = .shutdown ∧ ∃ entry, event = .dropped entry) ∨
      ∃ now, operation.time? = some now ∧
        event.Allowed (fun entry =>
          entry.due ≤ now ∨ ∃ press, operation = .key press now ∧ press.synthetic = false) now := by
  cases operation with
  | shutdown =>
      obtain ⟨entry, _, rfl⟩ := List.mem_map.mp listed
      exact .inl ⟨rfl, entry, rfl⟩
  | tick now =>
      exact .inr ⟨now, rfl, (allowed_drainEvents_due e now event listed).imp fun _ due => .inl due⟩
  | setMode mode now =>
      exact .inr ⟨now, rfl, (e.onlyDeferred_setModeEvents mode now).allowed _ event listed⟩
  | execute response now =>
      exact .inr ⟨now, rfl, (onlyDeferred_respondEvents response e now).allowed _ event listed⟩
  | key press now =>
      refine .inr ⟨now, rfl, ?_⟩
      have overdue : event ∈ e.drainEvents (.due now) now → event.Allowed (·.due ≤ now) now :=
        allowed_drainEvents_due e now event
      change event ∈ e.keyEvents press now at listed
      unfold keyEvents at listed
      dsimp only at listed
      split at listed
      · split at listed
        · rcases List.mem_append.mp listed with early | own
          · exact (overdue early).imp fun _ due => .inl due
          · exact allowed_answerEvents _ press now _ event own
        · exact (overdue listed).imp fun _ due => .inl due
      · next typed =>
          have physical : press.synthetic = false := eq_false_of_ne_true typed
          rcases List.mem_append.mp listed with before | own
          · rcases List.mem_append.mp before with early | forced
            · exact (overdue early).imp fun _ due => .inl due
            · have allowed := allowed_drainEvents_first _ now event forced
              exact allowed.imp fun _ _ => .inr ⟨press, rfl, physical⟩
          · exact allowed_answerEvents _ press now _ event own

/-! ## Accounts -/

/-- Between two states of an editor, the events say what has come into the queue and what has left it. -/
structure Accounts (e : Editor κ) (events : List Event) (after : Editor κ) : Prop where
  settle : after.settle = e.settle
  queue : e.queue ++ entered e.settle events = left events ++ after.queue

/-- At this time, the queue is in order and nothing in it waits longer than what is deferred now. -/
structure Paced (now : Nat) (e : Editor κ) : Prop where
  punctual : Punctual e.queue
  within : ∀ entry ∈ e.queue, entry.due ≤ now + e.settle

namespace Accounts

variable {events more : List Event} {last : Editor κ}

omit [Control κ] in
theorem trans (accounts : Accounts e events after) (later : Accounts after more last) :
    Accounts e (events ++ more) last where
  settle := later.settle.trans accounts.settle
  queue := by
    have rest := later.queue
    rw [accounts.settle] at rest
    rw [Event.entered_append, Event.left_append, ← List.append_assoc, accounts.queue, List.append_assoc,
      rest, List.append_assoc]

omit [Control κ] in
theorem of_ran {entry : Deferred} {rest : List Deferred} (queued : e.queue = entry :: rest) (now : Nat) :
    Accounts e [.ran now entry] { e with queue := rest } :=
  ⟨rfl, (List.append_nil _).trans queued⟩

omit [Control κ] in
theorem of_answered (e : Editor κ) (press : KeyPress) : Accounts e [.answered press] e :=
  ⟨rfl, List.append_nil _⟩

omit [Control κ] in
theorem queue_of_onlyDeferred (accounts : Accounts e events after) (only : OnlyDeferred now events) :
    after.queue = e.queue ++ entered e.settle events := by
  rw [accounts.queue, only.left]
  rfl

omit [Control κ] in
/-- Deferrals made now keep a queue in order. -/
theorem paced (accounts : Accounts e events after) (only : OnlyDeferred now events) (paced : e.Paced now) :
    after.Paced now := by
  have queue := accounts.queue_of_onlyDeferred only
  have due : ∀ entry ∈ entered e.settle events, entry.due = now + e.settle := only.due_of_mem_entered
  constructor
  · rw [queue]
    refine List.pairwise_append.mpr ⟨paced.punctual, ?_, fun entry listed later made => ?_⟩
    · refine List.pairwise_iff_forall_sublist.mpr fun {earlier later} both => ?_
      have first := due earlier (both.subset List.mem_cons_self)
      have second := due later (both.subset (List.mem_cons_of_mem _ List.mem_cons_self))
      exact Nat.le_of_eq (first.trans second.symm)
    · rw [due later made]
      exact paced.within entry listed
  · intro entry listed
    rw [queue] at listed
    rw [accounts.settle]
    rcases List.mem_append.mp listed with old | made
    · exact paced.within entry old
    · exact Nat.le_of_eq (due entry made)

end Accounts

namespace Paced

omit [Control κ] in
theorem mono {later : Nat} (paced : e.Paced now) (before : now ≤ later) : e.Paced later :=
  ⟨paced.punctual, fun entry listed =>
    Nat.le_trans (paced.within entry listed) (Nat.add_le_add_right before e.settle)⟩

omit [Control κ] in
theorem of_idle (idle : e.queue = []) (now : Nat) : e.Paced now := by
  constructor <;> rw [idle]
  · exact .nil
  · nofun

omit [Control κ] in
theorem rest {entry : Deferred} {rest : List Deferred} (paced : e.Paced now)
    (queued : e.queue = entry :: rest) : Paced now { e with queue := rest } := by
  have punctual := paced.punctual
  have within := paced.within
  rw [queued] at punctual within
  exact ⟨(List.pairwise_cons.mp punctual).2, (List.forall_mem_cons.mp within).2⟩

end Paced

theorem accounts_carryOut (e : Editor κ) (plan : Plan) (now : Nat) :
    Accounts e (plan.deferral now) (e.carryOut plan now) := by
  rw [carryOut_eq]
  refine ⟨rfl, ?_⟩
  unfold Plan.deferral
  split <;> rfl

theorem accounts_execute (e : Editor κ) (counted : Counted) (now : Nat) :
    Accounts e (e.executeEvents counted now) (e.execute counted now) := by
  rcases e.execute_cases counted now with ⟨fits, carried⟩ | ⟨unfit, failed⟩
  · rw [executeEvents, if_pos fits, carried]
    exact accounts_carryOut e _ now
  · rw [executeEvents, if_neg (Bool.eq_false_iff.mp unfit), failed]
    exact ⟨rfl, List.append_nil _⟩

theorem accounts_setMode (e : Editor κ) (mode : Mode) (now : Nat) :
    Accounts e (e.setModeEvents mode now) (e.setMode mode now) := by
  by_cases same : mode = e.mode
  · rw [setModeEvents, if_pos same, same, setMode_self]
    exact ⟨rfl, List.append_nil _⟩
  · let exit := e.modes.exit e.mode
    let enter := exit.1.enter mode e.mode
    let entering : Editor κ := { e.inject exit.2 with mode := mode, modes := enter.1 }
    have carried : e.setMode mode now = entering.carryOut enter.2 now := by
      rw [setMode, if_neg same]
      rfl
    have accounts := accounts_carryOut entering enter.2 now
    rw [setModeEvents, if_neg same, carried]
    exact ⟨accounts.settle, accounts.queue⟩

mutual

theorem accounts_respond (response : Response) (e : Editor κ) (now : Nat) :
    Accounts e (respondEvents response e now) (respond response e now).1 := by
  match response with
  | .switchMode mode => exact accounts_setMode e mode now
  | .run counted => exact accounts_execute e counted now
  | .defer response => exact ⟨rfl, rfl⟩
  | .all responses => exact accounts_respondAll responses e now
  | .inject _ | .consume | .passThrough => exact ⟨rfl, List.append_nil _⟩

theorem accounts_respondAll (responses : List Response) (e : Editor κ) (now : Nat) :
    Accounts e (respondAllEvents responses e now) (respondAll responses e now).1 := by
  match responses with
  | [] => exact ⟨rfl, List.append_nil _⟩
  | response :: rest =>
      exact (accounts_respond response e now).trans (accounts_respondAll rest (respond response e now).1 now)

end

theorem exists_answerEvents (e : Editor κ) (press : KeyPress) (now : Nat) :
    ∃ own, e.answerEvents press now = .answered press :: own ∧ OnlyDeferred now own ∧
      Accounts e own (e.answer press now).1 := by
  unfold answerEvents answer
  dsimp only
  cases (e.modes.key e.mode press now).2 with
  | none => exact ⟨[], rfl, .nil, ⟨rfl, List.append_nil _⟩⟩
  | some response =>
      let answered := { e with modes := (e.modes.key e.mode press now).1 }
      have responded := accounts_respond response answered now
      exact ⟨_, rfl, onlyDeferred_respondEvents response answered now, responded.settle, responded.queue⟩

theorem accounts_answer (paced : e.Paced now) (press : KeyPress) :
    Accounts e (e.answerEvents press now) (e.answer press now).1 ∧ (e.answer press now).1.Paced now := by
  obtain ⟨own, events, only, accounts⟩ := e.exists_answerEvents press now
  rw [events]
  exact ⟨(Accounts.of_answered e press).trans accounts, accounts.paced only paced⟩

theorem Drains.accounts {last : Editor κ} {ran : List Deferred} (drains : Drains picker now e ran last)
    (paced : e.Paced now) : Accounts e (e.drainEvents picker now) last ∧ last.Paced now := by
  induction drains with
  | done empty =>
      rw [drainEvents_of_none empty]
      exact ⟨⟨rfl, List.append_nil _⟩, paced⟩
  | pass picked drains ih =>
      next e last entry rest ran =>
        have queued := picker.eq_cons_of_pick paced.punctual picked
        have responded := accounts_respond entry.response { e with queue := rest } now
        have only := onlyDeferred_respondEvents entry.response { e with queue := rest } now
        obtain ⟨accounts, pacedAfter⟩ := ih (responded.paced only (paced.rest queued))
        rw [drainEvents_of_some picked]
        exact ⟨(Accounts.of_ran queued now).trans (responded.trans accounts), pacedAfter⟩

theorem accounts_tick (paced : e.Paced now) :
    Accounts e (e.drainEvents (.due now) now) (e.tick now) ∧ (e.tick now).Paced now := by
  obtain ⟨ran, drains⟩ := e.exists_drains_due now
  obtain ⟨accounts, pacedAfter⟩ := drains.accounts paced
  exact ⟨⟨accounts.settle, accounts.queue⟩, ⟨pacedAfter.punctual, pacedAfter.within⟩⟩

/-- A typed key is answered once the queue is empty. -/
theorem accounts_ready (paced : e.Paced now) :
    Accounts e (e.drainEvents (.due now) now ++ (e.tick now).drainEvents .first now) (e.ready now) ∧
      (e.ready now).queue = [] := by
  obtain ⟨accounts, pacedTick⟩ := accounts_tick paced
  obtain ⟨ran, drains⟩ := (e.tick now).exists_drains_first now
  exact ⟨accounts.trans (drains.accounts pacedTick).1, drains.queue_of_first⟩

theorem accounts_key (paced : e.Paced now) (press : KeyPress) :
    Accounts e (e.keyEvents press now) (e.key press now).1 ∧ (e.key press now).1.Paced now := by
  obtain ⟨ticked, pacedTick⟩ := accounts_tick paced
  cases synthetic : press.synthetic with
  | true =>
      unfold keyEvents key
      dsimp only
      rw [if_pos synthetic, if_pos synthetic]
      split
      · obtain ⟨answered, pacedAnswer⟩ := accounts_answer pacedTick press
        exact ⟨ticked.trans answered, pacedAnswer⟩
      · exact ⟨ticked, pacedTick⟩
  | false =>
      obtain ⟨ready, idle⟩ := accounts_ready paced
      obtain ⟨answered, pacedAnswer⟩ := accounts_answer (Paced.of_idle idle now) press
      rw [keyEvents_eq synthetic, key_of_typed e synthetic]
      exact ⟨ready.trans answered, pacedAnswer⟩

theorem accounts_shutdown (e : Editor κ) : Accounts e (e.queue.map .dropped) e.shutdown := by
  have gone : left (e.queue.map .dropped) = e.queue := by
    rw [left, List.filterMap_map]
    exact List.filterMap_some
  have none : entered e.settle (e.queue.map .dropped) = [] := by
    rw [entered, List.filterMap_map]
    exact List.filterMap_eq_nil_iff.mpr fun entry _ => rfl
  refine ⟨rfl, ?_⟩
  rw [gone, none]
  rfl

theorem accounts_operate {operation : Operation} (paced : e.Paced now)
    (timed : ∀ time, operation.time? = some time → time = now) :
    Accounts e (e.operationEvents operation) (e.operate operation) ∧ (e.operate operation).Paced now := by
  cases operation with
  | key press time =>
      cases timed time rfl
      exact accounts_key paced press
  | tick time =>
      cases timed time rfl
      exact accounts_tick paced
  | setMode mode time =>
      cases timed time rfl
      have accounts := accounts_setMode e mode now
      exact ⟨accounts, accounts.paced (e.onlyDeferred_setModeEvents mode now) paced⟩
  | execute response time =>
      cases timed time rfl
      have accounts := accounts_respond response e now
      exact ⟨accounts, accounts.paced (onlyDeferred_respondEvents response e now) paced⟩
  | shutdown => exact ⟨accounts_shutdown e, .of_idle rfl now⟩

/-- At times that do not go back, the account holds over any number of operations. -/
theorem accounts_operateAll {last : Nat} (paced : e.Paced last) {operations : List Operation}
    (ascending : (last :: operationTimes operations).Pairwise (· ≤ ·)) :
    Accounts e (e.history operations) (e.operateAll operations) ∧
      ∃ latest ∈ last :: operationTimes operations, (e.operateAll operations).Paced latest := by
  induction operations generalizing e last with
  | nil => exact ⟨⟨rfl, List.append_nil _⟩, last, List.mem_cons_self, paced⟩
  | cons operation rest ih =>
      obtain ⟨before, laterTimes⟩ := List.pairwise_cons.mp ascending
      cases timed : operation.time? with
      | none =>
          have same : operationTimes (operation :: rest) = operationTimes rest :=
            List.filterMap_cons_none timed
          have ofNone : ∀ time, operation.time? = some time → time = last := by simp [timed]
          rw [same] at ascending ⊢
          obtain ⟨accounts, pacedAfter⟩ := accounts_operate paced ofNone
          obtain ⟨more, ended⟩ := ih pacedAfter ascending
          exact ⟨accounts.trans more, ended⟩
      | some now =>
          have same : operationTimes (operation :: rest) = now :: operationTimes rest :=
            List.filterMap_cons_some timed
          have atNow : ∀ time, operation.time? = some time → time = now := by simp [timed]
          rw [same] at before laterTimes ⊢
          have pacedNow := paced.mono (before now List.mem_cons_self)
          obtain ⟨accounts, pacedAfter⟩ := accounts_operate pacedNow atNow
          obtain ⟨more, latest, listed, ended⟩ := ih pacedAfter laterTimes
          exact ⟨accounts.trans more, latest, List.mem_cons_of_mem _ listed, ended⟩

/-- Before a typed key is answered, everything in the queue is carried out, and what that defers as well. -/
theorem keyEvents_of_typed (paced : e.Paced now) {press : KeyPress} (typed : press.synthetic = false) :
    ∃ drained own early forced, e.keyEvents press now = drained ++ .answered press :: own ∧
      Drains (.due now) now e early (e.runDue now) ∧ Drains .first now (e.tick now) forced (e.ready now) ∧
      carriedOut drained = early ++ forced ∧ carriedOut drained = e.queue ++ entered e.settle drained ∧
      carriedOut own = [] := by
  obtain ⟨ready, idle⟩ := accounts_ready paced
  obtain ⟨own, events, only, _⟩ := (e.ready now).exists_answerEvents press now
  obtain ⟨early, drainsEarly⟩ := e.exists_drains_due now
  obtain ⟨forced, drainsForced⟩ := (e.tick now).exists_drains_first now
  refine ⟨e.drainEvents (.due now) now ++ (e.tick now).drainEvents .first now, own, early, forced, ?_,
    drainsEarly, drainsForced, ?_, ?_, only.carriedOut⟩
  · rw [keyEvents_eq typed, events]
  · rw [Event.carriedOut_append, drainsEarly.carriedOut_drainEvents, drainsForced.carriedOut_drainEvents]
  · have kept : ∀ entry, .dropped entry ∉
        e.drainEvents (.due now) now ++ (e.tick now).drainEvents .first now := by
      intro entry listed
      rcases List.mem_append.mp listed with early | forced
      · exact allowed_drainEvents_due e now _ early
      · exact allowed_drainEvents_first _ now _ forced
    rw [← Event.left_eq_carriedOut kept, ready.queue, idle, List.append_nil]

theorem exists_of_mem_history {operations : List Operation} {event : Event}
    (listed : event ∈ e.history operations) :
    ∃ operation ∈ operations, ∃ here : Editor κ, event ∈ here.operationEvents operation := by
  induction operations generalizing e with
  | nil => cases listed
  | cons operation rest ih =>
      rcases List.mem_append.mp listed with own | later
      · exact ⟨operation, List.mem_cons_self, e, own⟩
      · obtain ⟨other, inRest, here, found⟩ := ih later
        exact ⟨other, List.mem_cons_of_mem _ inRest, here, found⟩

theorem dropped_notMem_history {operations : List Operation} (running : .shutdown ∉ operations)
    (entry : Deferred) : .dropped entry ∉ e.history operations := by
  intro listed
  obtain ⟨operation, among, here, found⟩ := exists_of_mem_history listed
  rcases allowed_operationEvents found with ⟨rfl, _⟩ | ⟨now, _, happens⟩
  · exact running among
  · exact happens

/-- Everything that is deferred runs once, in the order in which it was deferred and not before its time,
unless a typed key comes first: that key has all of it run before it is answered. Nothing is dropped but by
a shutdown. What the events of a tick or of a typed key say is what the passes of the editor do. -/
theorem deferred_run_once_in_order {start : Editor κ} (idle : start.queue = [])
    {operations : List Operation} (ascending : (operationTimes operations).Pairwise (· ≤ ·)) :
    let e := start.operateAll operations
    let events := start.history operations
    Punctual e.queue ∧
      entered start.settle events = left events ++ e.queue ∧
      (.shutdown ∉ operations → entered start.settle events = carriedOut events ++ e.queue) ∧
      ∀ before operation after, operations = before ++ operation :: after →
        let here := start.operateAll before
        let own := here.operationEvents operation
        (∀ now response, .deferred now response ∈ own → operation.time? = some now) ∧
          (∀ now entry, .ran now entry ∈ own → operation.time? = some now ∧
            (entry.due ≤ now ∨ ∃ press, operation = .key press now ∧ press.synthetic = false)) ∧
          (∀ entry, .dropped entry ∈ own → operation = .shutdown) ∧
          (∀ now, operation = .tick now → Drains (.due now) now here (carriedOut own) (here.runDue now)) ∧
          ∀ press now, operation = .key press now → press.synthetic = false →
            ∃ drained answer early forced, own = drained ++ .answered press :: answer ∧
              Drains (.due now) now here early (here.runDue now) ∧
              Drains .first now (here.tick now) forced (here.ready now) ∧
              carriedOut drained = early ++ forced ∧
              carriedOut drained = here.queue ++ entered start.settle drained ∧ carriedOut answer = [] := by
  intro e events
  have fromZero : ∀ {operations : List Operation}, (operationTimes operations).Pairwise (· ≤ ·) →
      (0 :: operationTimes operations).Pairwise (· ≤ ·) :=
    fun ascending => List.pairwise_cons.mpr ⟨fun _ _ => Nat.zero_le _, ascending⟩
  obtain ⟨accounts, latest, _, paced⟩ := accounts_operateAll (Paced.of_idle idle 0) (fromZero ascending)
  have account : entered start.settle events = left events ++ e.queue := by
    have queue := accounts.queue
    rw [idle] at queue
    exact queue
  refine ⟨paced.punctual, account, fun running => ?_, ?_⟩
  · rw [account, Event.left_eq_carriedOut (dropped_notMem_history running)]
  · intro before operation after split here own
    refine ⟨fun now response listed => ?_, fun now entry listed => ?_, fun entry listed => ?_,
      ?_, ?_⟩
    · rcases allowed_operationEvents listed with ⟨_, _, other⟩ | ⟨time, timed, rfl⟩
      · cases other
      · exact timed
    · rcases allowed_operationEvents listed with ⟨_, _, other⟩ | ⟨time, timed, rfl, allowed⟩
      · cases other
      · exact ⟨timed, allowed⟩
    · rcases allowed_operationEvents listed with ⟨stopped, _⟩ | ⟨time, _, happens⟩
      · exact stopped
      · exact happens.elim
    · rintro now rfl
      obtain ⟨ran, drains⟩ := here.exists_drains_due now
      have same : carriedOut own = ran := drains.carriedOut_drainEvents
      rwa [same]
    · rintro press now rfl typed
      have parts : operationTimes operations = operationTimes before ++ now :: operationTimes after := by
        rw [split, operationTimes, List.filterMap_append]
        rfl
      rw [parts] at ascending
      obtain ⟨earlier, _, apart⟩ := List.pairwise_append.mp ascending
      obtain ⟨accountsHere, time, listed, pacedHere⟩ :=
        accounts_operateAll (Paced.of_idle idle 0) (fromZero earlier)
      have pacedNow : here.Paced now := by
        refine pacedHere.mono ?_
        rcases List.mem_cons.mp listed with rfl | before
        · exact Nat.zero_le _
        · exact apart time before now List.mem_cons_self
      have drains := keyEvents_of_typed pacedNow typed
      rw [accountsHere.settle] at drains
      exact drains

/-- A key typed too early for two deferrals forces them, and what the second of them defers in its turn; its
own block runs in time, and that of the next key still waits. -/
theorem deferred_run_once_in_order_of_nested :
    let start := { Settings.usual with startMode := .normal }.editor (TextField.ofText "ab cd".toList)
    let l : KeyPress := ⟨"l", ⟨0x25⟩, false⟩
    let nested : Response := .all
      [.defer (.inject (.plain .right)), .defer (.defer (.inject (.shifted .right)))]
    let operations : List Operation := [.execute nested 0, .key l 3, .tick 8, .key l 9]
    start.queue = [] ∧ (operationTimes operations).Pairwise (· ≤ ·) ∧ .shutdown ∉ operations ∧
      ((start.operateAll operations).queue.map Deferred.due = [14]) ∧
      (carriedOut (start.history operations)).map Deferred.due = [5, 5, 8, 8] := by
  intro start l nested operations
  have ascending : (operationTimes operations).Pairwise (· ≤ ·) := by decide
  have running : .shutdown ∉ operations := by simp [operations]
  have idle : start.queue = [] := rfl
  obtain ⟨_, _, kept, _⟩ := deferred_run_once_in_order idle ascending
  have waits : (start.operateAll operations).queue.map Deferred.due = [14] := by decide +kernel
  have made : (entered start.settle (start.history operations)).map Deferred.due = [5, 5, 8, 8, 14] := by
    decide +kernel
  rw [kept running, List.map_append, waits] at made
  exact ⟨idle, ascending, running, waits, List.append_cancel_right (made.trans rfl)⟩

end Editor

end ModalKeys
