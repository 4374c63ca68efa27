import ModalKeys.Proofs.Dispatch.History
import ModalKeys.Settings.Basic

/-!
# Keys given up

A caller that gives up has let its key through. When its request was still in the channel by then, the task
skips it, and all goes on as if the call had never reached the channel. A key that the task has already
taken on is worked on to the end all the same.
-/

namespace ModalKeys

def DispatchRequest.isFor (call : Nat) : DispatchRequest → Bool
  | .key other _ => other == call
  | .terminate => false

namespace Dispatch

variable {κ : Type} {d : Dispatch κ} {call : Nat}

/-- The same state, had a call been turned away before the channel. -/
def silenced (d : Dispatch κ) (call : Nat) : Dispatch κ :=
  { d with
    channel := d.channel.filter fun request => !request.isFor call
    replies := d.replies.set call (.answered false) }

def meets (d : Dispatch κ) (call : Nat) : DispatchStep → Bool
  | .take => d.working.isNone && d.channel.head?.any (·.isFor call)
  | _ => false

theorem told?_silenced (known : call < d.replies.length) : (d.silenced call).told? call = some false := by
  unfold told? silenced
  rw [List.getElem?_set_self known]
  rfl

theorem told?_silenced_of_ne (d : Dispatch κ) {other : Nat} (different : other ≠ call) :
    (d.silenced call).told? other = d.told? other := by
  unfold told? silenced
  rw [List.getElem?_set_ne different.symm]

theorem send_silenced (known : call < d.replies.length) (press : KeyPress) :
    (d.silenced call).send press = (d.send press).silenced call := by
  have other : (DispatchRequest.key d.replies.length press).isFor call = false :=
    beq_eq_false_iff_ne.mpr (Nat.ne_of_gt known)
  unfold send silenced
  by_cases running : d.running = true
  · simp [running, List.filter_append, other, List.set_append_left _ _ known]
  · simp [running, List.set_append_left _ _ known]

theorem length_send (d : Dispatch κ) (press : KeyPress) :
    (d.send press).replies.length = d.replies.length + 1 := by
  unfold send
  split <;> simp

theorem settleCall_silenced (d : Dispatch κ) {call other : Nat} (different : other ≠ call) (reply : Reply) :
    (d.silenced call).settleCall other reply = (d.settleCall other reply).silenced call := by
  unfold settleCall
  have same : (d.silenced call).replies[other]? = d.replies[other]? := List.getElem?_set_ne different.symm
  rw [same]
  by_cases waits : d.replies[other]? = some .waiting
  · rw [if_pos waits, if_pos waits]
    unfold silenced
    rw [List.set_comm _ _ different]
  · rw [if_neg waits, if_neg waits]

theorem giveUp_silenced (d : Dispatch κ) (call other : Nat) :
    (d.silenced call).settleCall other .abandoned = (d.settleCall other .abandoned).silenced call := by
  by_cases same : other = call
  · rw [same]
    have turnedAway : (d.silenced call).replies[call]? ≠ some .waiting := by
      intro waits
      change (d.replies.set call _)[call]? = _ at waits
      rw [List.getElem?_set_self'] at waits
      cases found : d.replies[call]? <;> rw [found] at waits <;> cases waits
    unfold settleCall
    rw [if_neg turnedAway]
    by_cases waits : d.replies[call]? = some .waiting
    · rw [if_pos waits]
      unfold silenced
      rw [List.set_set]
    · rw [if_neg waits]
  · exact d.settleCall_silenced same .abandoned

variable [Control κ]

/-- A schedule without the step that takes the request of a call. -/
def without (d : Dispatch κ) (call : Nat) : List DispatchStep → List DispatchStep
  | [] => []
  | step :: rest =>
      if d.meets call step then (d.step step).without call rest
      else step :: (d.step step).without call rest

structure Numbered (sent : List (Nat × KeyPress)) (d : Dispatch κ) : Prop where
  increasing : (sent.map Prod.fst).Pairwise (· < ·)
  known : ∀ key ∈ sent, key.1 < d.replies.length

theorem numbered_moves {sent moreSent moreAccepted : List (Nat × KeyPress)} {morePerformed : List Job}
    {after : Dispatch κ} (numbered : Numbered sent d)
    (moved : Moves d moreSent moreAccepted morePerformed after) : Numbered (sent ++ moreSent) after := by
  have more := moved.length_replies_le
  have known : ∀ key ∈ sent, key.1 < after.replies.length :=
    fun key listed => Nat.lt_of_lt_of_le (numbered.known key listed) more
  cases moved with
  | sends running press =>
      constructor
      · rw [List.map_append, List.pairwise_append]
        refine ⟨numbered.increasing, List.pairwise_singleton _ _, ?_⟩
        intro old listed new first
        obtain ⟨key, found, rfl⟩ := List.mem_map.mp listed
        rw [List.mem_singleton.mp first]
        exact numbered.known key found
      · intro key listed
        rcases List.mem_append.mp listed with old | new
        · exact known key old
        · rw [List.mem_singleton.mp new, List.length_append]
          exact Nat.lt_add_one _
  | rests | refuses | abandons | asks | accepts | skips | stops | finishes | wakes =>
      rw [List.append_nil]
      exact ⟨numbered.increasing, known⟩

theorem numbered_run (editor : Editor κ) (steps : List DispatchStep) :
    Numbered ((start editor).sent steps) ((start editor).run steps) :=
  run_induction (motive := fun sent _ _ d => Numbered sent d) ⟨.nil, nofun⟩ numbered_moves steps

/-! ## A call that is not taken on -/

/-- The task has nothing to do with a call but for a request in the channel. -/
structure Bypasses (d : Dispatch κ) (call : Nat) : Prop where
  known : call < d.replies.length
  apart : ∀ press, d.working ≠ some (call, press)
  current : d.published = d.editor.mode

theorem bypasses_moves {sent accepted : List (Nat × KeyPress)} {performed : List Job} {after : Dispatch κ}
    (bypasses : d.Bypasses call) (moved : Moves d sent accepted performed after)
    (untaken : ∀ press, (call, press) ∉ accepted) : after.Bypasses call where
  known := Nat.lt_of_lt_of_le bypasses.known moved.length_replies_le
  current := moved.current bypasses.current
  apart press := by
    cases moved with
    | accepts =>
        intro taken
        exact untaken press (Option.some.inj taken ▸ List.mem_singleton_self _)
    | finishes => nofun
    | rests | refuses | sends | abandons | asks | skips | stops | wakes => exact bypasses.apart press

theorem stop_silenced (d : Dispatch κ) (call : Nat) : (d.silenced call).stop = d.stop.silenced call := by
  unfold stop silenced
  simp only [List.map_set, List.filter_nil]
  rfl

/-- A request whose caller no longer waits passes the task by. -/
theorem take_silenced (bypasses : d.Bypasses call) (untaken : ∀ press, (call, press) ∉ d.accepts .take) :
    (if d.meets call .take then d.silenced call else (d.silenced call).take) = d.take.silenced call := by
  obtain ⟨editor, published, channel, replies, working, running⟩ := d
  cases working with
  | some key => rfl
  | none =>
      cases channel with
      | nil => rfl
      | cons request rest =>
          cases request with
          | terminate =>
              exact (⟨editor, published, .terminate :: rest, replies, none, running⟩ :
                Dispatch κ).stop_silenced call
          | key other press =>
              by_cases same : other = call
              · have gone : replies[other]? ≠ some .waiting := by
                  intro waits
                  refine untaken press ?_
                  subst same
                  simp only [accepts, if_pos waits, List.mem_singleton]
                have met : (DispatchRequest.key other press).isFor call = true := beq_iff_eq.mpr same
                have current : published = editor.mode := bypasses.current
                simp [meets, met, take, gone, silenced, publish, current]
              · have unmet : (DispatchRequest.key other press).isFor call = false :=
                  beq_eq_false_iff_ne.mpr same
                have unchanged : (replies.set call (.answered false))[other]? = replies[other]? :=
                  List.getElem?_set_ne (Ne.symm same)
                by_cases waits : replies[other]? = some .waiting
                · simp [meets, unmet, take, waits, silenced, unchanged]
                · simp [meets, unmet, take, waits, silenced, unchanged, publish]

theorem finish_silenced (bypasses : d.Bypasses call) (now : Nat) :
    (d.silenced call).finish now = (d.finish now).silenced call := by
  obtain ⟨editor, published, channel, replies, working, running⟩ := d
  cases working with
  | none => rfl
  | some key =>
      have different : key.1 ≠ call := fun same => bypasses.apart key.2 (by rw [← same])
      let done : Dispatch κ := ⟨(editor.key key.2 now).1, published, channel, replies, none, running⟩
      exact congrArg publish (done.settleCall_silenced different (.answered (editor.key key.2 now).2))

theorem step_silenced (bypasses : d.Bypasses call) {step : DispatchStep}
    (untaken : ∀ press, (call, press) ∉ d.accepts step) :
    (if d.meets call step then d.silenced call else (d.silenced call).step step) =
      (d.step step).silenced call := by
  cases step with
  | capture press =>
      change (if press.code.isIgnored then _ else (d.silenced call).send press) =
        (if press.code.isIgnored then _ else d.send press).silenced call
      by_cases ignored : press.code.isIgnored = true
      · rw [if_pos ignored, if_pos ignored]
        unfold silenced
        rw [List.set_append_left _ _ bypasses.known]
      · rw [if_neg ignored, if_neg ignored]
        exact send_silenced bypasses.known press
  | deliver press => exact send_silenced bypasses.known press
  | giveUp other => exact d.giveUp_silenced call other
  | terminate =>
      change (if d.running then _ else _) = (if d.running then _ else d).silenced call
      by_cases running : d.running = true
      · rw [if_pos running, if_pos running]
        unfold silenced
        rw [List.filter_append]
        rfl
      · rw [if_neg running, if_neg running]
  | take => exact take_silenced bypasses untaken
  | finish now => exact finish_silenced bypasses now
  | wake now =>
      change (if d.running && d.working.isNone then _ else _) =
        (if d.running && d.working.isNone then _ else d).silenced call
      by_cases free : (d.running && d.working.isNone) = true
      · rw [if_pos free, if_pos free]
        rfl
      · rw [if_neg free, if_neg free]

theorem run_silenced (bypasses : d.Bypasses call) {steps : List DispatchStep}
    (untaken : ∀ press, (call, press) ∉ d.accepted steps) :
    (d.silenced call).run (d.without call steps) = (d.run steps).silenced call := by
  induction steps generalizing d with
  | nil => rfl
  | cons step rest ih =>
      have now : ∀ press, (call, press) ∉ d.accepts step :=
        fun press listed => untaken press (List.mem_append_left _ listed)
      have later : ∀ press, (call, press) ∉ (d.step step).accepted rest :=
        fun press listed => untaken press (List.mem_append_right _ listed)
      have first := step_silenced bypasses now
      have last := ih (bypasses_moves bypasses (moves_step d step) now) later
      unfold without
      by_cases met : d.meets call step = true
      · rw [if_pos met] at first ⊢
        rw [first, last]
        rfl
      · rw [if_neg met] at first ⊢
        rw [run_cons, first, last]
        rfl

/-- What a caller was told is final. -/
theorem settled_moves {sent accepted : List (Nat × KeyPress)} {performed : List Job} {after : Dispatch κ}
    (moved : Moves d sent accepted performed after) {reply : Reply} (told : d.replies[call]? = some reply)
    (settled : reply ≠ .waiting) : after.replies[call]? = some reply := by
  rcases moved.reply call with same | ⟨unknown | waits, _⟩
  · exact same.trans told
  · cases unknown.symm.trans told
  · exact absurd (Option.some.inj (told.symm.trans waits)) settled

theorem settled_run {reply : Reply} (told : d.replies[call]? = some reply) (settled : reply ≠ .waiting)
    (steps : List DispatchStep) : (d.run steps).replies[call]? = some reply := by
  induction steps generalizing d with
  | nil => exact told
  | cons step rest ih => exact ih (settled_moves (moves_step d step) told settled)

theorem waits_of_accepted {sent accepted : List (Nat × KeyPress)} {performed : List Job} {after : Dispatch κ}
    (moved : Moves d sent accepted performed after) {press : KeyPress} (taken : (call, press) ∈ accepted) :
    d.replies[call]? = some .waiting := by
  cases moved with
  | accepts _ _ waits =>
      cases List.mem_singleton.mp taken
      exact waits
  | rests | refuses | sends | abandons | asks | skips | stops | finishes | wakes => cases taken

theorem untaken_of_settled {reply : Reply} (told : d.replies[call]? = some reply) (settled : reply ≠ .waiting)
    (steps : List DispatchStep) (press : KeyPress) : (call, press) ∉ d.accepted steps := by
  induction steps generalizing d with
  | nil => nofun
  | cons step rest ih =>
      intro taken
      rcases List.mem_append.mp taken with now | later
      · exact settled (Option.some.inj (told.symm.trans (waits_of_accepted (moves_step d step) now)))
      · exact ih (settled_moves (moves_step d step) told settled) later

/-- The keys taken on and those still in the channel belong to calls that were made. -/
theorem known_run (editor : Editor κ) (steps : List DispatchStep) :
    ∀ key ∈ (start editor).accepted steps ++ ((start editor).run steps).requested,
      key.1 < ((start editor).run steps).replies.length :=
  fun key listed => (numbered_run editor steps).known key ((Follows.run editor steps).ordered.subset listed)

theorem untaken_of_requested {editor : Editor κ} {steps : List DispatchStep} {press : KeyPress}
    (waiting : (call, press) ∈ ((start editor).run steps).requested) (other : KeyPress) :
    (call, other) ∉ (start editor).accepted steps := by
  intro taken
  have follows := Follows.run editor steps
  have increasing := (numbered_run editor steps).increasing.sublist (follows.ordered.map Prod.fst)
  rw [List.map_append, List.pairwise_append] at increasing
  exact Nat.lt_irrefl call (increasing.2.2 call (List.mem_map_of_mem taken) call (List.mem_map_of_mem waiting))

theorem settled_giveUp (known : call < d.replies.length)
    (unkept : d.replies[call]? ≠ some (.answered true)) :
    ∃ reply, (d.step (.giveUp call)).replies[call]? = some reply ∧ reply.told? = some false := by
  change ∃ reply, (d.settleCall call .abandoned).replies[call]? = some reply ∧ reply.told? = some false
  unfold settleCall
  by_cases waits : d.replies[call]? = some .waiting
  · rw [if_pos waits]
    exact ⟨.abandoned, List.getElem?_set_self known, rfl⟩
  · rw [if_neg waits]
    have found := List.getElem?_eq_getElem known
    cases reply : d.replies[call] with
    | waiting => exact absurd (found.trans (congrArg some reply)) waits
    | abandoned => exact ⟨.abandoned, found.trans (congrArg some reply), rfl⟩
    | answered kept =>
        cases kept with
        | false => exact ⟨.answered false, found.trans (congrArg some reply), rfl⟩
        | true => exact absurd (found.trans (congrArg some reply)) unkept

omit [Control κ] in
theorem silenced_send (known : ∀ key ∈ d.requested, key.1 < d.replies.length) (press : KeyPress) :
    (d.send press).silenced d.replies.length = { d with replies := d.replies ++ [.answered false] } := by
  have others : d.channel.filter (fun request => !request.isFor d.replies.length) = d.channel := by
    refine List.filter_eq_self.mpr fun request listed => ?_
    cases request with
    | terminate => rfl
    | key other held =>
        have older := known (other, held) (List.mem_filterMap.mpr ⟨_, listed, rfl⟩)
        exact congrArg (! ·) (beq_eq_false_iff_ne.mpr (Nat.ne_of_lt older))
  have own : (DispatchRequest.key d.replies.length press).isFor d.replies.length = true := beq_self_eq_true _
  unfold send silenced
  by_cases running : d.running = true
  · simp [running, List.filter_append, others, own, List.set_append_right]
  · simp [running, others, List.set_append_right]

/-- A new call has a number that the task has not met. -/
theorem bypasses_send (editor : Editor κ) (before : List DispatchStep) (press : KeyPress) :
    (((start editor).run before).send press).Bypasses ((start editor).run before).replies.length := by
  have follows := Follows.run editor before
  have moved := moves_send ((start editor).run before) press
  constructor
  · rw [length_send]
    exact Nat.lt_add_one _
  · intro other working
    have kept : (((start editor).run before).send press).working = ((start editor).run before).working := by
      unfold send
      split <;> rfl
    have held := Option.mem_toList.mpr (kept.symm.trans working)
    have taken := follows.finished.symm ▸ List.mem_append_right _ held
    exact Nat.lt_irrefl _ (known_run editor before _ (List.mem_append_left _ taken))
  · exact moved.current follows.current

/-- A key given up while its request was in the channel leaves no trace: all goes on as if its call had
never reached the channel. -/
theorem given_up_leaves_no_trace (editor : Editor κ) (before early late : List DispatchStep)
    (press : KeyPress) :
    let d := (start editor).run before
    let call := d.replies.length
    let sent := d.send press
    let unsent : Dispatch κ := { d with replies := d.replies ++ [.answered false] }
    let steps := early ++ .giveUp call :: late
    .key call press ∈ (sent.run early).channel →
      let after := sent.run steps
      let other := unsent.run (sent.without call steps)
      after.told? call = some false ∧ after.editor = other.editor ∧ after.published = other.published ∧
        ∀ caller, after.told? caller = other.told? caller := by
  intro d call sent unsent steps inChannel after other
  let whole := before ++ .deliver press :: early
  have reached : (start editor).run whole = sent.run early := run_append _ _ _
  have requested : (call, press) ∈ ((start editor).run whole).requested := by
    rw [reached]
    exact List.mem_filterMap.mpr ⟨_, inChannel, rfl⟩
  -- When the caller gives up, its key has not been taken on, and it never will be.
  have untakenBefore := untaken_of_requested requested
  have known : call < (sent.run early).replies.length :=
    reached ▸ known_run editor whole _ (List.mem_append_right _ requested)
  have unkept : (sent.run early).replies[call]? ≠ some (.answered true) := by
    intro answered
    obtain ⟨_, taken, _, _, listed, _⟩ := (Follows.run editor whole).accepted_of_kept (reached ▸ answered)
    exact untakenBefore taken listed
  obtain ⟨reply, told, letGo⟩ := settled_giveUp known unkept
  have settled : reply ≠ .waiting := by
    rintro rfl
    cases letGo
  have untaken : ∀ press, (call, press) ∉ sent.accepted steps := by
    intro press taken
    unfold accepted at taken
    rw [recorded_append] at taken
    rcases List.mem_append.mp taken with earlier | later
    · refine untakenBefore press ?_
      unfold accepted
      rw [recorded_append]
      exact List.mem_append_right _ earlier
    · exact untaken_of_settled told settled late press later
  have same : other = after.silenced call := by
    change Dispatch.run unsent _ = _
    rw [← run_silenced (bypasses_send editor before press) untaken, silenced_send]
    exact fun key listed => known_run editor before key (List.mem_append_right _ listed)
  have final : after.replies[call]? = some reply := by
    change (sent.run _).replies[call]? = _
    rw [run_append]
    exact settled_run told settled late
  have letThrough : after.told? call = some false := (congrArg (·.bind Reply.told?) final).trans letGo
  refine ⟨letThrough, (congrArg Dispatch.editor same).symm, (congrArg Dispatch.published same).symm, ?_⟩
  intro caller
  rw [same]
  by_cases own : caller = call
  · rw [own, letThrough, told?_silenced (List.getElem?_eq_some_iff.mp final).1]
  · rw [told?_silenced_of_ne _ own]

/-- While one key is worked on, the caller of the next gives up. -/
theorem given_up_leaves_no_trace_of_insert :
    let editor := { Settings.usual with startMode := .normal }.editor (Recorder.answering none none)
    let d := (start editor).run [.deliver ⟨"x", ⟨0x07⟩, false⟩, .take]
    let steps : List DispatchStep := [.giveUp 1, .finish 0, .take]
    let after := (d.send ⟨"i", ⟨0x22⟩, false⟩).run steps
    let other := Dispatch.run { d with replies := d.replies ++ [.answered false] } [.giveUp 1, .finish 0]
    after.told? 0 = some true ∧ after.told? 1 = some false ∧ after.editor = other.editor ∧
      after.editor.mode = .normal := by
  intro editor d steps after other
  have trace := given_up_leaves_no_trace editor [.deliver ⟨"x", ⟨0x07⟩, false⟩, .take] [] [.finish 0, .take]
    ⟨"i", ⟨0x22⟩, false⟩ List.mem_cons_self
  exact ⟨by decide +kernel, trace.1, trace.2.1, by decide +kernel⟩

/-- A caller that gives up on a key at work has its key used twice: let through, and acted on. It acts in full, with
the block that is shown once the stalled task wakes up. The key after it, given up on in the channel, does nothing. -/
theorem given_up_at_work_acts :
    let editor := { Settings.usual with startMode := .normal }.editor (Recorder.answering none none)
    let after := (start editor).run [.deliver ⟨"x", ⟨0x07⟩, false⟩, .take, .giveUp 0, .deliver ⟨"i", ⟨0x22⟩, false⟩,
      .giveUp 1, .finish 0, .take, .wake 240]
    let other := (start editor).run [.deliver ⟨"i", ⟨0x22⟩, false⟩, .giveUp 0, .take, .wake 240]
    after.replies = [.abandoned, .abandoned] ∧ after.told? 0 = some false ∧ after.told? 1 = some false ∧
      after.editor.control.injected = [.control .forwardDelete, .shifted .right] ∧
      after.editor.mode = .normal ∧ other.told? 0 = some false ∧ other.editor.control.injected = [] := by
  decide +kernel

end Dispatch

end ModalKeys
