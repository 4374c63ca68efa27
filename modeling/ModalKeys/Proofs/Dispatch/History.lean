import Mathlib.Data.List.Induction
import ModalKeys.Dispatch
import ModalKeys.Proofs.Session

/-!
# The history of a task

A schedule mixes the steps of callers, of the task and of the clock. Its history keeps three records: the
keys put into the channel, the keys that the task took on, and what it then had the editor do. The records
are enough to say what a task is: one editor that works through the keys it took on, in the order in which
they came.
-/

namespace ModalKeys

/-- What the task has the editor do. A key comes with the number of its call. -/
inductive Job where
  | key (call : Nat) (press : KeyPress) (now : Nat)
  | tick (now : Nat)
deriving DecidableEq, Repr

namespace Job

def operation : Job → Operation
  | .key _ press now => .key press now
  | .tick now => .tick now

def request? : Job → Option (Nat × KeyPress)
  | .key call press _ => some (call, press)
  | .tick _ => none

end Job

def DispatchRequest.key? : DispatchRequest → Option (Nat × KeyPress)
  | .key call press => some (call, press)
  | .terminate => none

namespace Editor

variable {κ : Type} [Control κ]

def work (e : Editor κ) (jobs : List Job) : Editor κ := e.operateAll (jobs.map Job.operation)

theorem work_concat (e : Editor κ) (jobs : List Job) (job : Job) :
    e.work (jobs ++ [job]) = (e.work jobs).operate job.operation := by
  unfold work operateAll
  rw [List.map_append, List.foldl_append]
  rfl

end Editor

namespace Dispatch

variable {κ : Type}

/-- A task that has stopped has closed its channel. -/
def posts (d : Dispatch κ) (press : KeyPress) : List (Nat × KeyPress) :=
  if d.running then [(d.replies.length, press)] else []

def sends (d : Dispatch κ) : DispatchStep → List (Nat × KeyPress)
  | .capture press => if press.code.isIgnored then [] else d.posts press
  | .deliver press => d.posts press
  | _ => []

/-- The key that a step takes on: the first request, when its caller still waits. -/
def accepts (d : Dispatch κ) : DispatchStep → List (Nat × KeyPress)
  | .take =>
      match d.working, d.channel with
      | none, .key call press :: _ => if d.replies[call]? = some .waiting then [(call, press)] else []
      | _, _ => []
  | _ => []

/-- What a step has the editor do, a stop apart. -/
def performs (d : Dispatch κ) : DispatchStep → List Job
  | .finish now =>
      match d.working with
      | none => []
      | some (call, press) => [.key call press now]
  | .wake now => if d.running && d.working.isNone then [.tick now] else []
  | _ => []

variable [Control κ]

theorem run_append (d : Dispatch κ) (first second : List DispatchStep) :
    d.run (first ++ second) = (d.run first).run second :=
  List.foldl_append

@[simp] theorem run_cons (d : Dispatch κ) (step : DispatchStep) (rest : List DispatchStep) :
    d.run (step :: rest) = (d.step step).run rest := rfl

/-- Goes through a schedule and records what each step shows. -/
def recorded {α : Type} (shows : Dispatch κ → DispatchStep → List α) (d : Dispatch κ) :
    List DispatchStep → List α
  | [] => []
  | step :: rest => shows d step ++ recorded shows (d.step step) rest

theorem recorded_append {α : Type} (shows : Dispatch κ → DispatchStep → List α) (d : Dispatch κ)
    (first second : List DispatchStep) :
    recorded shows d (first ++ second) = recorded shows d first ++ recorded shows (d.run first) second := by
  induction first generalizing d with
  | nil => rfl
  | cons step rest ih =>
      change shows d step ++ recorded shows (d.step step) (rest ++ second) = _
      rw [ih]
      exact (List.append_assoc _ _ _).symm

def sent (d : Dispatch κ) (steps : List DispatchStep) : List (Nat × KeyPress) := d.recorded sends steps

def accepted (d : Dispatch κ) (steps : List DispatchStep) : List (Nat × KeyPress) := d.recorded accepts steps

def performed (d : Dispatch κ) (steps : List DispatchStep) : List Job := d.recorded performs steps

/-- What a step can do, with what it records: a key sent, a key taken on, a job. -/
inductive Moves (d : Dispatch κ) :
    List (Nat × KeyPress) → List (Nat × KeyPress) → List Job → Dispatch κ → Prop where
  | rests : Moves d [] [] [] d
  | refuses : Moves d [] [] [] { d with replies := d.replies ++ [.answered false] }
  | sends (running : d.running = true) (press : KeyPress) :
      Moves d [(d.replies.length, press)] [] []
        { d with
          channel := d.channel ++ [.key d.replies.length press]
          replies := d.replies ++ [.waiting] }
  | abandons {call : Nat} (waits : d.replies[call]? = some .waiting) :
      Moves d [] [] [] { d with replies := d.replies.set call .abandoned }
  | asks (running : d.running = true) : Moves d [] [] [] { d with channel := d.channel ++ [.terminate] }
  | accepts {call : Nat} {press : KeyPress} {rest : List DispatchRequest} (idle : d.working = none)
      (first : d.channel = .key call press :: rest) (waits : d.replies[call]? = some .waiting) :
      Moves d [] [(call, press)] [] { d with channel := rest, working := some (call, press) }
  | skips {call : Nat} {press : KeyPress} {rest : List DispatchRequest} (idle : d.working = none)
      (first : d.channel = .key call press :: rest) (gone : d.replies[call]? ≠ some .waiting) :
      Moves d [] [] [] { d with channel := rest, published := d.editor.mode }
  | stops {rest : List DispatchRequest} (idle : d.working = none) (first : d.channel = .terminate :: rest) :
      Moves d [] [] [] d.stop
  | finishes {call : Nat} {press : KeyPress} (working : d.working = some (call, press)) (now : Nat) :
      Moves d [] [] [.key call press now]
        { d with
          editor := (d.editor.key press now).1
          published := (d.editor.key press now).1.mode
          working := none
          replies :=
            if d.replies[call]? = some .waiting then
              d.replies.set call (.answered (d.editor.key press now).2)
            else d.replies }
  | wakes (running : d.running = true) (idle : d.working = none) (now : Nat) :
      Moves d [] [] [.tick now]
        { d with editor := d.editor.tick now, published := (d.editor.tick now).mode }

theorem moves_send (d : Dispatch κ) (press : KeyPress) : Moves d (d.posts press) [] [] (d.send press) := by
  unfold posts send
  by_cases running : d.running = true
  · rw [if_pos running, if_pos running]
    exact .sends running press
  · rw [if_neg running, if_neg running]
    exact .refuses

theorem moves_take (d : Dispatch κ) : Moves d [] (d.accepts .take) [] d.take := by
  obtain ⟨editor, published, channel, replies, working, running⟩ := d
  cases working with
  | some key => exact .rests
  | none =>
      cases channel with
      | nil => exact .rests
      | cons request rest =>
          cases request with
          | terminate => exact .stops rfl rfl
          | key call press =>
              unfold accepts take
              by_cases waits : replies[call]? = some .waiting
              · simp only [if_pos waits]
                exact .accepts rfl rfl waits
              · simp only [if_neg waits]
                exact .skips rfl rfl waits

theorem moves_finish (d : Dispatch κ) (now : Nat) :
    Moves d [] [] (d.performs (.finish now)) (d.finish now) := by
  obtain ⟨editor, published, channel, replies, working, running⟩ := d
  cases working with
  | none => exact .rests
  | some key =>
      have finished : Moves (⟨editor, published, channel, replies, some key, running⟩ : Dispatch κ)
        [] [] [.key key.1 key.2 now] _ := .finishes rfl now
      unfold finish settleCall publish
      by_cases waits : replies[key.1]? = some .waiting
      · simp only [if_pos waits] at finished ⊢
        exact finished
      · simp only [if_neg waits] at finished ⊢
        exact finished

theorem moves_wake (d : Dispatch κ) (now : Nat) : Moves d [] [] (d.performs (.wake now)) (d.wake now) := by
  unfold performs wake
  by_cases free : (d.running && d.working.isNone) = true
  · obtain ⟨running, idle⟩ := Bool.and_eq_true_iff.mp free
    simp only [if_pos free]
    exact .wakes running (Option.isNone_iff_eq_none.mp idle) now
  · simp only [if_neg free]
    exact .rests

/-- All that a step can do. -/
theorem moves_step (d : Dispatch κ) (step : DispatchStep) :
    Moves d (d.sends step) (d.accepts step) (d.performs step) (d.step step) := by
  cases step with
  | capture press =>
      by_cases ignored : press.code.isIgnored = true
      · simp only [sends, Dispatch.step, if_pos ignored]
        exact .refuses
      · simp only [sends, Dispatch.step, if_neg ignored]
        exact d.moves_send press
  | deliver press => exact d.moves_send press
  | giveUp call =>
      by_cases waits : d.replies[call]? = some .waiting
      · simp only [Dispatch.step, settleCall, if_pos waits]
        exact .abandons waits
      · simp only [Dispatch.step, settleCall, if_neg waits]
        exact .rests
  | terminate =>
      by_cases running : d.running = true
      · simp only [Dispatch.step, if_pos running]
        exact .asks running
      · simp only [Dispatch.step, if_neg running]
        exact .rests
  | take => exact d.moves_take
  | finish now => exact d.moves_finish now
  | wake now => exact d.moves_wake now

/-- Whatever changes the mode is followed by its publication. -/
theorem Moves.current {d after : Dispatch κ} {sent accepted : List (Nat × KeyPress)} {performed : List Job}
    (moved : Moves d sent accepted performed after) (current : d.published = d.editor.mode) :
    after.published = after.editor.mode := by
  cases moved with
  | skips | finishes | wakes => rfl
  | rests | refuses | sends | abandons | asks | accepts | stops => exact current

/-- No call is forgotten. -/
theorem Moves.length_replies_le {d after : Dispatch κ} {sent accepted : List (Nat × KeyPress)}
    {performed : List Job} (moved : Moves d sent accepted performed after) :
    d.replies.length ≤ after.replies.length := by
  cases moved with
  | refuses | sends =>
      rw [List.length_append]
      exact Nat.le_add_right _ _
  | abandons => exact Nat.le_of_eq List.length_set.symm
  | stops => exact Nat.le_of_eq (List.length_map _).symm
  | finishes =>
      dsimp only
      split
      · exact Nat.le_of_eq List.length_set.symm
      · exact Nat.le_refl _
  | rests | asks | accepts | skips | wakes => exact Nat.le_refl _

/-- Only a call that waits, or a new one, gets a new reply, and only the end of a job replies with true. -/
theorem Moves.reply {d after : Dispatch κ} {sent accepted : List (Nat × KeyPress)} {performed : List Job}
    (moved : Moves d sent accepted performed after) (call : Nat) :
    after.replies[call]? = d.replies[call]? ∨
      (d.replies[call]? = none ∨ d.replies[call]? = some .waiting) ∧
        (after.replies[call]? = some (.answered true) →
          ∃ press now, d.working = some (call, press) ∧ performed = [.key call press now] ∧
            (d.editor.key press now).2 = true) := by
  cases moved with
  | rests | asks | accepts | skips | wakes => exact .inl rfl
  | refuses | sends =>
      by_cases old : call < d.replies.length
      · exact .inl (List.getElem?_append_left old)
      · have unknown := Nat.le_of_not_lt old
        refine .inr ⟨.inl (List.getElem?_eq_none unknown), fun told => ?_⟩
        rw [List.getElem?_append_right unknown] at told
        cases List.mem_singleton.mp (List.mem_of_getElem? told)
  | @abandons other waits =>
      by_cases same : other = call
      · subst same
        refine .inr ⟨.inr waits, fun told => ?_⟩
        cases (List.getElem?_set_self (List.getElem?_eq_some_iff.mp waits).1).symm.trans told
      · exact .inl (List.getElem?_set_ne same)
  | stops =>
      have mapped : d.stop.replies[call]? = (d.replies[call]?).map
          (fun reply => if reply = .waiting then .answered false else reply) := List.getElem?_map
      rw [mapped]
      by_cases waits : d.replies[call]? = some .waiting
      · refine .inr ⟨.inr waits, fun told => ?_⟩
        rw [waits] at told
        cases told
      · left
        cases found : d.replies[call]? with
        | none => rfl
        | some reply =>
            have settled : reply ≠ .waiting := by
              rintro rfl
              exact waits found
            exact congrArg some (if_neg settled)
  | @finishes other press working now =>
      dsimp only
      split
      · next waits =>
          by_cases same : other = call
          · subst same
            refine .inr ⟨.inr waits, fun told => ⟨press, now, working, rfl, ?_⟩⟩
            have replied := (List.getElem?_set_self (List.getElem?_eq_some_iff.mp waits).1).symm.trans told
            exact Reply.answered.inj (Option.some.inj replied)
          · exact .inl (List.getElem?_set_ne same)
      · exact .inl rfl

/-- What one step preserves, with what it records, a whole schedule preserves. -/
theorem run_induction
    {motive : List (Nat × KeyPress) → List (Nat × KeyPress) → List Job → Dispatch κ → Prop} {d : Dispatch κ}
    (starts : motive [] [] [] d)
    (moves : ∀ {sent accepted performed moreSent moreAccepted morePerformed} {before after : Dispatch κ},
      motive sent accepted performed before → Moves before moreSent moreAccepted morePerformed after →
        motive (sent ++ moreSent) (accepted ++ moreAccepted) (performed ++ morePerformed) after)
    (steps : List DispatchStep) :
    motive (d.sent steps) (d.accepted steps) (d.performed steps) (d.run steps) := by
  induction steps using List.reverseRecOn with
  | nil => exact starts
  | append_singleton steps step ih =>
      unfold sent accepted performed
      rw [recorded_append, recorded_append, recorded_append, run_append]
      simp only [recorded, List.append_nil]
      exact moves ih (moves_step _ step)

/-! ## One editor -/

omit [Control κ] in
def requested (d : Dispatch κ) : List (Nat × KeyPress) := d.channel.filterMap DispatchRequest.key?

/-- What a task that began with an editor has come to by what its records show. -/
structure Follows (editor : Editor κ) (sent accepted : List (Nat × KeyPress)) (performed : List Job)
    (d : Dispatch κ) : Prop where
  current : d.published = d.editor.mode
  worked : d.running = true → d.editor = editor.work performed
  shut : d.running = false → d.editor = (editor.work performed).shutdown
  halted : d.running = false → d.working = none ∧ d.channel = [] ∧ .waiting ∉ d.replies
  finished : accepted = performed.filterMap Job.request? ++ d.working.toList
  ordered : (accepted ++ d.requested).Sublist sent
  kept : ∀ call, d.replies[call]? = some (.answered true) →
    ∃ earlier press now later, performed = earlier ++ .key call press now :: later ∧
      ((editor.work earlier).key press now).2 = true

namespace Follows

variable {editor : Editor κ} {sent accepted moreSent moreAccepted : List (Nat × KeyPress)}
  {performed morePerformed : List Job} {d after : Dispatch κ}

theorem start (editor : Editor κ) : Follows editor [] [] [] (Dispatch.start editor) where
  current := rfl
  worked _ := rfl
  shut := nofun
  halted := nofun
  finished := rfl
  ordered := List.Sublist.refl []
  kept _ := nofun

section Step

variable (follows : Follows editor sent accepted performed d)
  (moved : Moves d moreSent moreAccepted morePerformed after)

include follows

/-- A task with something to do is running. -/
theorem running_of_working {key : Nat × KeyPress} (working : d.working = some key) : d.running = true := by
  by_contra stopped
  have idle := (follows.halted (Bool.eq_false_iff.mpr stopped)).1
  cases working.symm.trans idle

theorem running_of_request {request : DispatchRequest} {rest : List DispatchRequest}
    (first : d.channel = request :: rest) : d.running = true := by
  by_contra stopped
  have closed := (follows.halted (Bool.eq_false_iff.mpr stopped)).2.1
  cases first.symm.trans closed

include moved

theorem worked_moves (running : after.running = true) :
    after.editor = editor.work (performed ++ morePerformed) := by
  cases moved with
  | stops => cases running
  | finishes working now =>
      rw [Editor.work_concat, ← follows.worked running]
      rfl
  | wakes _ _ now =>
      rw [Editor.work_concat, ← follows.worked running]
      rfl
  | rests | refuses | sends | abandons | asks | accepts | skips =>
      rw [List.append_nil]
      exact follows.worked running

theorem shut_moves (stopped : after.running = false) :
    after.editor = (editor.work (performed ++ morePerformed)).shutdown := by
  cases moved with
  | stops _ first =>
      rw [List.append_nil, ← follows.worked (follows.running_of_request first)]
      rfl
  | finishes working => cases stopped.symm.trans (follows.running_of_working working)
  | wakes running => cases stopped.symm.trans running
  | rests | refuses | sends | abandons | asks | accepts | skips =>
      rw [List.append_nil]
      exact follows.shut stopped

theorem halted_moves (stopped : after.running = false) :
    after.working = none ∧ after.channel = [] ∧ .waiting ∉ after.replies := by
  cases moved with
  | rests => exact follows.halted stopped
  | refuses =>
      obtain ⟨idle, closed, answered⟩ := follows.halted stopped
      refine ⟨idle, closed, fun listed => ?_⟩
      rcases List.mem_append.mp listed with old | new
      · exact answered old
      · cases List.mem_singleton.mp new
  | abandons waits => exact absurd (List.mem_of_getElem? waits) (follows.halted stopped).2.2
  | stops idle =>
      refine ⟨idle, rfl, fun listed => ?_⟩
      obtain ⟨reply, _, same⟩ := List.mem_map.mp listed
      split at same
      · cases same
      · contradiction
  | sends running | asks running | wakes running => cases stopped.symm.trans running
  | accepts _ first | skips _ first => cases stopped.symm.trans (follows.running_of_request first)
  | finishes working => cases stopped.symm.trans (follows.running_of_working working)

theorem finished_moves :
    accepted ++ moreAccepted =
      (performed ++ morePerformed).filterMap Job.request? ++ after.working.toList := by
  have finished := follows.finished
  cases moved with
  | accepts idle =>
      rw [idle, Option.toList_none, List.append_nil] at finished
      rw [finished, List.append_nil]
      rfl
  | finishes working =>
      rw [working] at finished
      rw [List.append_nil, finished, List.filterMap_append]
      exact (List.append_nil _).symm
  | wakes =>
      rw [List.append_nil, List.filterMap_append]
      exact finished.trans (congrArg (· ++ d.working.toList) (List.append_nil _).symm)
  | rests | refuses | sends | abandons | asks | skips | stops =>
      rw [List.append_nil, List.append_nil]
      exact finished

theorem ordered_moves : (accepted ++ moreAccepted ++ after.requested).Sublist (sent ++ moreSent) := by
  have ordered := follows.ordered
  unfold requested at ordered ⊢
  cases moved with
  | sends =>
      rw [List.append_nil, List.filterMap_append, ← List.append_assoc]
      exact ordered.append (List.Sublist.refl _)
  | asks =>
      rw [List.append_nil, List.append_nil, List.filterMap_append]
      exact (List.append_nil _).symm ▸ ordered
  | accepts _ first =>
      rw [first] at ordered
      rw [List.append_nil, List.append_assoc]
      exact ordered
  | skips _ first =>
      rw [first] at ordered
      rw [List.append_nil, List.append_nil]
      exact ((List.Sublist.refl accepted).append (List.sublist_cons_self _ _)).trans ordered
  | stops =>
      rw [List.append_nil, List.append_nil]
      exact ((List.Sublist.refl accepted).append (List.nil_sublist _)).trans ordered
  | rests | refuses | abandons | finishes | wakes =>
      rw [List.append_nil, List.append_nil]
      exact ordered

theorem kept_moves {call : Nat} (told : after.replies[call]? = some (.answered true)) :
    ∃ earlier press now later, performed ++ morePerformed = earlier ++ .key call press now :: later ∧
      ((editor.work earlier).key press now).2 = true := by
  rcases moved.reply call with same | ⟨_, finished⟩
  · obtain ⟨earlier, press, now, later, split, kept⟩ := follows.kept call (same.symm.trans told)
    refine ⟨earlier, press, now, later ++ morePerformed, ?_, kept⟩
    rw [split, List.append_assoc, List.cons_append]
  · obtain ⟨press, now, working, done, kept⟩ := finished told
    rw [follows.worked (follows.running_of_working working)] at kept
    exact ⟨performed, press, now, [], congrArg (performed ++ ·) done, kept⟩

end Step

theorem moves (follows : Follows editor sent accepted performed d)
    (moved : Moves d moreSent moreAccepted morePerformed after) :
    Follows editor (sent ++ moreSent) (accepted ++ moreAccepted) (performed ++ morePerformed) after where
  current := moved.current follows.current
  worked := follows.worked_moves moved
  shut := follows.shut_moves moved
  halted := follows.halted_moves moved
  finished := follows.finished_moves moved
  ordered := follows.ordered_moves moved
  kept _ := follows.kept_moves moved

theorem accepted_of_kept (follows : Follows editor sent accepted performed d) {call : Nat}
    (answered : d.replies[call]? = some (.answered true)) :
    ∃ earlier press now later, (call, press) ∈ accepted ∧
      performed = earlier ++ .key call press now :: later ∧ ((editor.work earlier).key press now).2 = true := by
  obtain ⟨earlier, press, now, later, same, kept⟩ := follows.kept call answered
  have done : .key call press now ∈ performed := by
    rw [same]
    exact List.mem_append_right _ List.mem_cons_self
  refine ⟨earlier, press, now, later, ?_, same, kept⟩
  rw [follows.finished]
  exact List.mem_append_left _ (List.mem_filterMap.mpr ⟨_, done, rfl⟩)

theorem run (editor : Editor κ) (steps : List DispatchStep) :
    Follows editor ((Dispatch.start editor).sent steps) ((Dispatch.start editor).accepted steps)
      ((Dispatch.start editor).performed steps) ((Dispatch.start editor).run steps) :=
  run_induction (start editor) moves steps

end Follows

/-- A task that has stopped lets every key through and does nothing else. -/
theorem moves_of_halted {d after : Dispatch κ} {sent accepted : List (Nat × KeyPress)} {performed : List Job}
    (stopped : d.running = false) (idle : d.working = none) (closed : d.channel = [])
    (answered : .waiting ∉ d.replies) (moved : Moves d sent accepted performed after) :
    ∃ calls, after = { d with replies := d.replies ++ List.replicate calls (.answered false) } := by
  cases moved with
  | rests => exact ⟨0, by rw [List.replicate_zero, List.append_nil]⟩
  | refuses => exact ⟨1, rfl⟩
  | sends running | asks running | wakes running => cases stopped.symm.trans running
  | abandons waits => exact absurd (List.mem_of_getElem? waits) answered
  | accepts _ first | skips _ first | stops _ first => cases closed.symm.trans first
  | finishes working => cases idle.symm.trans working

theorem run_of_halted {d : Dispatch κ} (stopped : d.running = false) (idle : d.working = none)
    (closed : d.channel = []) (answered : .waiting ∉ d.replies) (steps : List DispatchStep) :
    ∃ calls, d.run steps = { d with replies := d.replies ++ List.replicate calls (.answered false) } := by
  induction steps generalizing d with
  | nil => exact ⟨0, by rw [List.replicate_zero, List.append_nil]; rfl⟩
  | cons step rest ih =>
      obtain ⟨now, first⟩ := moves_of_halted stopped idle closed answered (moves_step d step)
      let next : Dispatch κ := { d with replies := d.replies ++ List.replicate now (.answered false) }
      have still : .waiting ∉ next.replies := by
        intro listed
        rcases List.mem_append.mp listed with old | new
        · exact answered old
        · cases List.eq_of_mem_replicate new
      obtain ⟨more, last⟩ := ih (d := next) stopped idle closed still
      refine ⟨now + more, ?_⟩
      rw [run_cons, first, ← List.replicate_append_replicate, ← List.append_assoc]
      exact last

omit [Control κ] in
theorem eq_of_mem_posts {d : Dispatch κ} {call : Nat} {press other : KeyPress}
    (listed : (call, press) ∈ d.posts other) : press = other := by
  unfold posts at listed
  split at listed
  · exact congrArg Prod.snd (List.mem_singleton.mp listed)
  · cases listed

/-- The entry point keeps keys with an ignored code out of the channel. -/
theorem deliver_of_sent_ignored {d : Dispatch κ} {steps : List DispatchStep} {call : Nat} {press : KeyPress}
    (listed : (call, press) ∈ d.sent steps) (ignored : press.code.isIgnored = true) :
    .deliver press ∈ steps := by
  induction steps generalizing d with
  | nil => cases listed
  | cons step rest ih =>
      rcases List.mem_append.mp listed with now | later
      · cases step with
        | capture other =>
            by_cases reported : other.code.isIgnored = true
            · simp only [sends, if_pos reported] at now
              cases now
            · simp only [sends, if_neg reported] at now
              exact absurd (eq_of_mem_posts now ▸ ignored) reported
        | deliver other =>
            rw [eq_of_mem_posts now]
            exact List.mem_cons_self
        | giveUp | terminate | take | finish | wake => cases now
      · exact List.mem_cons_of_mem _ (ih later)

omit [Control κ] in
theorem answered_of_told {d : Dispatch κ} {call : Nat} (told : d.told? call = some true) :
    d.replies[call]? = some (.answered true) := by
  obtain ⟨reply, found, same⟩ := Option.bind_eq_some_iff.mp told
  cases reply with
  | waiting | abandoned => cases same
  | answered kept =>
      cases same
      exact found

/-- A task is one editor that works through the keys whose callers still waited when they were taken, in
the order of the channel, and then shuts down. A caller is told true only for such a key. -/
theorem works_as_one_editor (editor : Editor κ) (steps : List DispatchStep) :
    let begun := start editor
    let d := begun.run steps
    let performed := begun.performed steps
    d.published = d.editor.mode ∧
      (begun.accepted steps).Sublist (begun.sent steps) ∧
      begun.accepted steps = performed.filterMap Job.request? ++ d.working.toList ∧
      (d.running = true → d.editor = editor.work performed) ∧
      (d.running = false → d.working = none ∧ d.editor = (editor.work performed).shutdown ∧
        .waiting ∉ d.replies ∧
        ∀ later, ∃ calls,
          d.run later = { d with replies := d.replies ++ List.replicate calls (.answered false) }) ∧
      (∀ call, d.told? call = some true →
        ∃ earlier press now later, (call, press) ∈ begun.accepted steps ∧
          performed = earlier ++ .key call press now :: later ∧
          ((editor.work earlier).key press now).2 = true) ∧
      ∀ press, press.code.isIgnored = true →
        d.step (.capture press) = { d with replies := d.replies ++ [.answered false] } ∧
          (.deliver press ∉ steps → ∀ call, (call, press) ∉ begun.sent steps) := by
  intro begun d performed
  have follows := Follows.run editor steps
  refine ⟨follows.current, (List.sublist_append_left _ _).trans follows.ordered, follows.finished,
    follows.worked, fun stopped => ?_, fun call told => ?_, fun press ignored => ?_⟩
  · obtain ⟨idle, closed, answered⟩ := follows.halted stopped
    exact ⟨idle, follows.shut stopped, answered, run_of_halted stopped idle closed answered⟩
  · exact follows.accepted_of_kept (answered_of_told told)
  · refine ⟨if_pos ignored, fun unsent call listed => ?_⟩
    exact unsent (deliver_of_sent_ignored listed ignored)

end Dispatch

end ModalKeys
