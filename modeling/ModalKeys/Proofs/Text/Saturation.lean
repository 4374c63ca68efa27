import ModalKeys.Proofs.Text.Tokens

/-!
# Repeated word searches

Each step of a word search leaves less of the text to be searched. So it takes at most as many steps as the text
has characters, and a larger count changes nothing.
-/

namespace ModalKeys.Text

variable {text : List Char} {cursor found count size : Nat} {step : Nat → Option Nat}

theorem lt_of_nextWordStart? (next : nextWordStart? cursor text = some found) : cursor < found := by
  have least := leastOf_nextWordStart? text cursor
  rw [next] at least
  exact least.1.2

theorem lt_of_wordEnd? (next : wordEnd? cursor text = some found) : cursor < found := by
  cases here : text[cursor]? with
  | none =>
      rw [wordEnd?, here] at next
      cases next
  | some c =>
      by_cases punctuation : CharClass.of c = .punctuation
      · have least := leastOf_wordEnd?_of_punctuation here punctuation
        rw [next] at least
        exact Nat.lt_of_le_of_lt (runsThrough_tokenEnd here).le least.1.2
      · have least := leastOf_wordEnd? here punctuation
        rw [next] at least
        exact least.1.2

theorem lt_min_of_previousWordStart? (previous : previousWordStart? cursor text = some found) :
    found < min cursor text.length := by
  have greatest := greatestOf_previousWordStart? text cursor
  rw [previous] at greatest
  exact greatest.1.2

/-- From one count to the next there is one more step or none. -/
theorem rel_repeatStep_succ (r : Nat → Nat → Prop) (refl : ∀ i, r i i)
    (leads : ∀ {cursor found}, step cursor = some found → r cursor found) (count : Nat) :
    r (repeatStep step count cursor) (repeatStep step (count + 1) cursor) := by
  rw [repeatStep_add, repeatStep]
  cases next : step (repeatStep step count cursor) with
  | none => exact refl _
  | some found => exact leads next

theorem monotone_repeatStep (forward : ∀ {cursor found}, step cursor = some found → cursor < found) :
    Monotone (repeatStep step · cursor) :=
  monotone_nat_of_le_succ (rel_repeatStep_succ (· ≤ ·) Nat.le_refl fun next => Nat.le_of_lt (forward next))

theorem antitone_repeatStep (backward : ∀ {cursor found}, step cursor = some found → found < cursor) :
    Antitone (repeatStep step · cursor) :=
  antitone_nat_of_succ_le (rel_repeatStep_succ (· ≥ ·) Nat.le_refl fun next => Nat.le_of_lt (backward next))

def trail (step : Nat → Option Nat) : Nat → Nat → List Nat
  | 0, _ => []
  | count + 1, position =>
      match step position with
      | none => []
      | some next => next :: trail step count next

theorem trail_of_none (fails : step cursor = none) (count : Nat) : trail step count cursor = [] := by
  cases count with
  | zero => rfl
  | succ count => rw [trail, fails]

/-- Repeated steps lead to the last offset of their trail. -/
theorem repeatStep_eq_getLastD (step : Nat → Option Nat) (count cursor : Nat) :
    repeatStep step count cursor = (trail step count cursor).getLastD cursor := by
  induction count generalizing cursor with
  | zero => rfl
  | succ count ih =>
      rw [repeatStep, trail]
      cases step cursor with
      | none => rfl
      | some next =>
          rw [List.getLastD_cons]
          exact ih next

section

variable {room : Nat → Nat} (shrinks : ∀ {cursor found}, step cursor = some found → room found < room cursor)

include shrinks

theorem step_of_room_eq_zero (narrow : room cursor = 0) : step cursor = none := by
  cases next : step cursor with
  | none => rfl
  | some found => exact absurd (narrow ▸ shrinks next) (Nat.not_lt_zero _)

/-- After as many steps as there is room for, the next one fails. -/
theorem step_repeatStep_of_room_le (enough : room cursor ≤ count) : step (repeatStep step count cursor) = none := by
  induction count generalizing cursor with
  | zero => exact step_of_room_eq_zero shrinks (Nat.le_zero.mp enough)
  | succ count ih =>
      rw [repeatStep]
      cases next : step cursor with
      | none => exact next
      | some found => exact ih (Nat.le_of_lt_succ (Nat.lt_of_lt_of_le (shrinks next) enough))

/-- All counts for which there is no more room take the same steps. -/
theorem trail_of_room_le {first second : Nat} (enough : room cursor ≤ first) (more : room cursor ≤ second) :
    trail step first cursor = trail step second cursor := by
  induction first generalizing cursor second with
  | zero =>
      have fails := step_of_room_eq_zero shrinks (Nat.le_zero.mp enough)
      rw [trail_of_none fails, trail_of_none fails]
  | succ first ih =>
      cases next : step cursor with
      | none => rw [trail_of_none next, trail_of_none next]
      | some found =>
          have less := shrinks next
          cases second with
          | zero => exact absurd less (Nat.not_lt.mpr (Nat.le_trans more (Nat.zero_le _)))
          | succ second =>
              rw [trail, trail, next]
              exact congrArg (found :: ·) (ih (by omega) (by omega))

theorem trail_min (bound : room cursor ≤ size) (count : Nat) :
    trail step count cursor = trail step (min count size) cursor := by
  rcases Nat.le_total count size with few | many
  · rw [Nat.min_eq_left few]
  · rw [Nat.min_eq_right many]
    exact trail_of_room_le shrinks (Nat.le_trans bound many) bound

end

/-- Repeated steps add up, and they come to an end within the text. -/
structure Saturates (text : List Char) (step : Nat → Option Nat) (cursor : Nat) : Prop where
  add : ∀ first second,
    repeatStep step (first + second) cursor = repeatStep step second (repeatStep step first cursor)
  /-- No count leads further than the length of the text does. -/
  capped : ∀ count, repeatStep step count cursor = repeatStep step (min count text.length) cursor
  inside : ∀ count, repeatStep step count cursor = cursor ∨ repeatStep step count cursor < text.length
  /-- No count takes more steps than the length of the text does. -/
  steps : ∀ count, trail step count cursor = trail step (min count text.length) cursor
  stops : ∀ count, text.length ≤ count → step (repeatStep step count cursor) = none
  arrows : cursor ≤ text.length → ∀ count, (arrowSteps cursor (repeatStep step count cursor)).1 ≤ text.length

/-- Steps that find characters of the text saturate if each leaves less room for others. -/
theorem saturates_of_room (room : Nat → Nat)
    (shrinks : ∀ {cursor found}, step cursor = some found → room found < room cursor)
    (bound : room cursor ≤ text.length)
    (inside : ∀ {cursor found}, step cursor = some found → found < text.length) : Saturates text step cursor where
  add := repeatStep_add step
  capped count := by
    rw [repeatStep_eq_getLastD, repeatStep_eq_getLastD, ← trail_min shrinks bound]
  inside count := (repeatStep_cases step inside count cursor).symm
  steps := trail_min shrinks bound
  stops count large := step_repeatStep_of_room_le shrinks (Nat.le_trans bound large)
  arrows within count :=
    Nat.le_trans (arrowSteps_le _ _) (Nat.max_le.mpr ⟨within, repeatStep_le_length inside count within⟩)

/-- Forward, the room is what lies behind the cursor. -/
theorem saturates_of_forward (forward : ∀ {cursor found}, step cursor = some found → cursor < found)
    (inside : ∀ {cursor found}, step cursor = some found → found < text.length) (cursor : Nat) :
    Saturates text step cursor := by
  refine saturates_of_room (text.length - ·) (fun next => ?_) (Nat.sub_le _ _) inside
  exact Nat.sub_lt_sub_left (Nat.lt_trans (forward next) (inside next)) (forward next)

/-- However often a word search is repeated, its counts add up, it ends at the cursor or on a character of the text,
it never turns back, and no count does more than the length of the text. -/
theorem word_searches_saturate (text : List Char) (cursor : Nat) :
    (Saturates text (nextWordStart? · text) cursor ∧ Monotone (repeatStep (nextWordStart? · text) · cursor)) ∧
      (Saturates text (wordEnd? · text) cursor ∧ Monotone (repeatStep (wordEnd? · text) · cursor)) ∧
      Saturates text (previousWordStart? · text) cursor ∧
      Antitone (repeatStep (previousWordStart? · text) · cursor) := by
  refine ⟨⟨?_, ?_⟩, ⟨?_, ?_⟩, ?_, ?_⟩
  · exact saturates_of_forward lt_of_nextWordStart? nextWordStart?_lt cursor
  · exact monotone_repeatStep lt_of_nextWordStart?
  · exact saturates_of_forward lt_of_wordEnd? wordEnd?_lt cursor
  · exact monotone_repeatStep lt_of_wordEnd?
  · -- A cursor behind the end has no more room than one at the end.
    refine saturates_of_room (min · text.length) (fun previous => ?_) (Nat.min_le_right _ _)
      previousWordStart?_lt
    exact Nat.lt_of_le_of_lt (Nat.min_le_left _ _) (lt_min_of_previousWordStart? previous)
  · exact antitone_repeatStep fun previous => (Nat.lt_min.mp (lt_min_of_previousWordStart? previous)).1

/-- Backward from behind the end, each character is a token of its own and takes one step. -/
example : trail (previousWordStart? · "a,b".toList) 9 7 = [2, 1, 0] := by decide

end ModalKeys.Text
