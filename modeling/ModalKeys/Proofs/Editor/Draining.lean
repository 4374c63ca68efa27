import ModalKeys.Proofs.Editor.Inserting

/-!
# Draining the queue

An editor carries out deferred responses one after the other: as time passes until none is due, and for a
typed key until none is left. Each response may defer more on the way, and they may be due at once. So it
is not the length of the queue that shrinks with every pass but the weight of what is in it.
-/

namespace ModalKeys

/-- The entries come due in the order in which they stand in the queue. -/
def Punctual (queue : List Deferred) : Prop := queue.Pairwise fun earlier later => earlier.due ≤ later.due

theorem takeDue_eq_none_iff {now : Nat} {queue : List Deferred} :
    takeDue now queue = none ↔ ∀ entry ∈ queue, now < entry.due := by
  induction queue with
  | nil => exact iff_of_true rfl (List.forall_mem_nil _)
  | cons head tail ih =>
      rw [List.forall_mem_cons, ← ih, takeDue]
      by_cases due : head.due ≤ now
      · rw [if_pos due]
        exact iff_of_false (Option.some_ne_none _) fun early => absurd early.1 (Nat.not_lt.mpr due)
      · rw [if_neg due, and_iff_right (Nat.lt_of_not_le due)]
        cases takeDue now tail <;> simp

theorem due_of_takeDue {now : Nat} {queue rest : List Deferred} {entry : Deferred}
    (taken : takeDue now queue = some (entry, rest)) : entry.due ≤ now := by
  induction queue generalizing rest with
  | nil => cases taken
  | cons head tail ih =>
      unfold takeDue at taken
      split at taken
      · next due =>
          cases taken
          exact due
      · split at taken
        · cases taken
        · next found others inner =>
            cases taken
            exact ih inner

/-- In a punctual queue the first entry that is due is the first of all. -/
theorem eq_cons_of_takeDue {now : Nat} {queue rest : List Deferred} {entry : Deferred}
    (punctual : Punctual queue) (taken : takeDue now queue = some (entry, rest)) : queue = entry :: rest := by
  cases queue with
  | nil => cases taken
  | cons head tail =>
      by_cases due : head.due ≤ now
      · rw [takeDue, if_pos due] at taken
        cases taken
        rfl
      · have early : takeDue now (head :: tail) = none := by
          refine takeDue_eq_none_iff.mpr (List.forall_mem_cons.mpr ⟨Nat.lt_of_not_le due, ?_⟩)
          intro later listed
          exact Nat.lt_of_lt_of_le (Nat.lt_of_not_le due) ((List.pairwise_cons.mp punctual).1 later listed)
        cases early.symm.trans taken

def takeFirst : List Deferred → Option (Deferred × List Deferred)
  | [] => none
  | entry :: rest => some (entry, rest)

/-- A way of choosing the entry to carry out next. The entry is taken out of the queue and nothing else,
and from a punctual queue it is the first one. -/
structure Picker where
  pick : List Deferred → Option (Deferred × List Deferred)
  weight_of_pick : ∀ {queue rest : List Deferred} {entry : Deferred}, pick queue = some (entry, rest) →
    queueWeight queue = entry.response.weight + queueWeight rest
  eq_cons_of_pick : ∀ {queue rest : List Deferred} {entry : Deferred}, Punctual queue →
    pick queue = some (entry, rest) → queue = entry :: rest

namespace Picker

def due (now : Nat) : Picker := ⟨takeDue now, queueWeight_of_takeDue, eq_cons_of_takeDue⟩

theorem eq_cons_of_takeFirst {queue rest : List Deferred} {entry : Deferred}
    (taken : takeFirst queue = some (entry, rest)) : queue = entry :: rest := by
  cases queue with
  | nil => cases taken
  | cons head tail =>
      cases taken
      rfl

def first : Picker where
  pick := takeFirst
  weight_of_pick taken := by
    rw [eq_cons_of_takeFirst taken]
    rfl
  eq_cons_of_pick _ taken := eq_cons_of_takeFirst taken

end Picker

namespace Editor

variable {κ : Type} [Control κ]

/-! ## Passes -/

def carryOutEntry (e : Editor κ) (entry : Deferred) (rest : List Deferred) (now : Nat) : Editor κ :=
  (respond entry.response { e with queue := rest } now).1

/-- What a picker chooses is carried out, pass by pass, until it chooses nothing. The entries are listed in
the order in which they ran. -/
inductive Drains (picker : Picker) (now : Nat) : Editor κ → List Deferred → Editor κ → Prop where
  | done {e : Editor κ} (empty : picker.pick e.queue = none) : Drains picker now e [] e
  | pass {e last : Editor κ} {entry : Deferred} {rest ran : List Deferred}
      (picked : picker.pick e.queue = some (entry, rest))
      (drains : Drains picker now (e.carryOutEntry entry rest now) ran last) :
      Drains picker now e (entry :: ran) last

variable {picker : Picker} {now : Nat} {e last : Editor κ} {ran : List Deferred}

/-- A pass leaves less to do, although it may leave more entries. -/
theorem queueWeight_carryOutEntry_lt {entry : Deferred} {rest : List Deferred}
    (picked : picker.pick e.queue = some (entry, rest)) :
    queueWeight (e.carryOutEntry entry rest now).queue < queueWeight e.queue := by
  have smaller := queueWeight_respond_lt entry.response { e with queue := rest } now
  rw [picker.weight_of_pick picked, Nat.add_comm]
  exact smaller

namespace Drains

theorem length_le (drains : Drains picker now e ran last) : ran.length ≤ queueWeight e.queue := by
  induction drains with
  | done empty => exact Nat.zero_le _
  | pass picked drains ih => exact Nat.lt_of_le_of_lt ih (queueWeight_carryOutEntry_lt picked)

theorem pick_eq_none (drains : Drains picker now e ran last) : picker.pick last.queue = none := by
  induction drains with
  | done empty => exact empty
  | pass picked drains ih => exact ih

theorem ne_nil (drains : Drains picker now e ran last) (waits : picker.pick e.queue ≠ none) : ran ≠ [] := by
  cases drains with
  | done empty => exact absurd empty waits
  | pass picked drains => exact List.cons_ne_nil _ _

theorem eq_of_pick_eq_none (drains : Drains picker now e ran last) (empty : picker.pick e.queue = none) :
    last = e := by
  cases drains with
  | done _ => rfl
  | pass picked drains => cases empty.symm.trans picked

/-- A drain leaves nothing to chance. -/
theorem unique {last' : Editor κ} {ran' : List Deferred} (drains : Drains picker now e ran last)
    (drains' : Drains picker now e ran' last') : last' = last := by
  induction drains generalizing ran' with
  | done empty => exact drains'.eq_of_pick_eq_none empty
  | pass picked drains ih =>
      cases drains' with
      | done empty => cases empty.symm.trans picked
      | pass picked' drains' =>
          cases picked.symm.trans picked'
          exact ih drains'

theorem queue_of_first (drains : Drains .first now e ran last) : last.queue = [] := by
  have empty : takeFirst last.queue = none := drains.pick_eq_none
  cases left : last.queue with
  | nil => rfl
  | cons entry rest =>
      rw [left] at empty
      cases empty

theorem lt_due (drains : Drains (.due now) now e ran last) : ∀ entry ∈ last.queue, now < entry.due :=
  takeDue_eq_none_iff.mp drains.pick_eq_none

end Drains

theorem exists_drains_due (e : Editor κ) (now : Nat) : ∃ ran, Drains (.due now) now e ran (e.runDue now) := by
  fun_induction runDue e now with
  | case1 e empty => exact ⟨[], .done empty⟩
  | case2 e entry rest picked ih =>
      obtain ⟨ran, drains⟩ := ih
      exact ⟨entry :: ran, .pass picked drains⟩

theorem exists_drains_first (e : Editor κ) (now : Nat) :
    ∃ ran, Drains .first now e ran (e.runDeferred now) := by
  fun_induction runDeferred e now with
  | case1 e empty =>
      have nothing : Picker.first.pick e.queue = none := by rw [empty]; rfl
      exact ⟨[], .done nothing⟩
  | case2 e entry rest queued ih =>
      have picked : Picker.first.pick e.queue = some (entry, rest) := by rw [queued]; rfl
      obtain ⟨ran, drains⟩ := ih
      exact ⟨entry :: ran, .pass picked drains⟩

/-- The current mode gives up a key that it has held too long. -/
def elapsed (e : Editor κ) (now : Nat) : Editor κ :=
  { e with modes := (e.modes.tick e.mode now).1 }.inject (e.modes.tick e.mode now).2

theorem tick_eq_elapsed (e : Editor κ) (now : Nat) : e.tick now = (e.runDue now).elapsed now := rfl

omit [Control κ] in
theorem deadline_cases {due : Nat} (next : e.deadline? = some due) :
    (∃ entry ∈ e.queue, entry.due = due) ∨ e.modes.deadline? e.mode = some due := by
  have listed : ∀ least, (e.queue.map (·.due)).min? = some least → ∃ entry ∈ e.queue, entry.due = least :=
    fun least found => List.mem_map.mp (List.min?_mem found)
  unfold deadline? at next
  split at next
  · next queued held queuedNext heldNext =>
      rcases Nat.le_total queued held with first | first
      · rw [Nat.min_eq_left first] at next
        cases next
        exact .inl (listed _ queuedNext)
      · rw [Nat.min_eq_right first] at next
        cases next
        exact .inr heldNext
  · next queued queuedNext heldNext =>
      cases next
      exact .inl (listed _ queuedNext)
  · next queuedNext =>
      exact .inr next

omit [Control κ] in
/-- Only Insert mode has a deadline of its own, that of the key it holds. -/
theorem exists_held_of_deadline {due : Nat} (next : e.modes.deadline? e.mode = some due) :
    ∃ held, e.mode = .insert ∧ e.detector.held = some held ∧ held.deadline = due := by
  cases mode : e.mode with
  | insert =>
      rw [mode] at next
      obtain ⟨held, holding, same⟩ := Option.map_eq_some_iff.mp next
      exact ⟨held, rfl, holding, same⟩
  | normal | visual | visualLine =>
      rw [mode] at next
      cases next

theorem elapsed_of_held {held : HeldKey} (inside : e.mode = .insert) (holding : e.detector.held = some held)
    (due : held.deadline ≤ now) :
    e.elapsed now = (e.withDetector (e.detector.letGo held)).inject [held.press.replay] := by
  have ticked : e.detector.tick now = (e.detector.letGo held, some held.press) := by
    rcases e.detector.tick_cases now with ⟨other, same, _, ticked⟩ | ⟨early, _⟩
    · cases holding.symm.trans same
      exact ticked
    · exact absurd (early held holding) (Nat.not_lt.mpr due)
  obtain ⟨mode, modes, control, queue, settle⟩ := e
  cases inside
  change modes.insert.detector.tick now = _ at ticked
  simp only [elapsed, ModeSet.tick, InsertMode.tick, ticked]
  rfl

theorem lt_deadline_of_held_elapsed {held : HeldKey} (inside : e.mode = .insert)
    (holding : (e.elapsed now).detector.held = some held) : now < held.deadline := by
  have after : (e.elapsed now).detector = (e.detector.tick now).1 := by
    obtain ⟨mode, modes, control, queue, settle⟩ := e
    cases inside
    rfl
  rw [after] at holding
  rcases e.detector.tick_cases now with ⟨other, _, _, ticked⟩ | ⟨early, ticked⟩
  · rw [ticked] at holding
    cases holding
  · rw [ticked] at holding
    exact early held holding

/-- After a tick there is nothing left to do at once. -/
theorem lt_deadline_tick {due : Nat} (next : (e.tick now).deadline? = some due) : now < due := by
  obtain ⟨ran, drains⟩ := e.exists_drains_due now
  rcases deadline_cases next with ⟨entry, listed, rfl⟩ | held
  · exact drains.lt_due entry listed
  · obtain ⟨key, inside, holding, rfl⟩ := exists_held_of_deadline held
    exact lt_deadline_of_held_elapsed (e := e.runDue now) inside holding

/-- What a tick does once a deadline has come. -/
theorem ran_or_let_go (drains : Drains (.due now) now e ran (e.runDue now)) {due : Nat}
    (next : e.deadline? = some due) (reached : due ≤ now) :
    ran ≠ [] ∨ ∃ held, e.mode = .insert ∧ e.detector.held = some held ∧
      e.tick now = (e.withDetector (e.detector.letGo held)).inject [held.press.replay] := by
  by_cases waits : (Picker.due now).pick e.queue = none
  · right
    rcases deadline_cases next with ⟨entry, listed, rfl⟩ | held
    · exact absurd (takeDue_eq_none_iff.mp waits entry listed) (Nat.not_lt.mpr reached)
    · obtain ⟨key, inside, holding, rfl⟩ := exists_held_of_deadline held
      refine ⟨key, inside, holding, ?_⟩
      rw [tick_eq_elapsed, drains.eq_of_pick_eq_none waits]
      exact elapsed_of_held inside holding reached
  · exact .inl (drains.ne_nil waits)

/-- A tick comes to an end whatever the responses that it carries out defer, and so does what a typed key
has carried out first. A tick leaves nothing that is due, and one that comes at a deadline or later has
something to do. -/
theorem timers_make_progress (e : Editor κ) (now : Nat) :
    (∃ ran last, Drains (.due now) now e ran last ∧ ran.length ≤ queueWeight e.queue ∧
        e.tick now = last.elapsed now ∧
        ∀ due, e.deadline? = some due → due ≤ now →
          ran ≠ [] ∨ ∃ held, e.mode = .insert ∧ e.detector.held = some held ∧
            e.tick now = (e.withDetector (e.detector.letGo held)).inject [held.press.replay]) ∧
      (∃ ran, Drains .first now e ran (e.runDeferred now) ∧ ran.length ≤ queueWeight e.queue ∧
        (e.runDeferred now).queue = []) ∧
      ∀ due, (e.tick now).deadline? = some due → now < due := by
  obtain ⟨ran, drains⟩ := e.exists_drains_due now
  obtain ⟨all, drainsAll⟩ := e.exists_drains_first now
  refine ⟨⟨ran, e.runDue now, drains, drains.length_le, rfl, ?_⟩, ?_, ?_⟩
  · intro due next reached
    exact ran_or_let_go drains next reached
  · exact ⟨all, drainsAll, drainsAll.length_le, drainsAll.queue_of_first⟩
  · intro due next
    exact lt_deadline_tick next

end Editor

end ModalKeys
