import ModalKeys.Text.Boundary

/-!
# Where the word searches can end

Each search finds a character of the text or nothing. So repeated steps stay within the text, however many
there are, and the arrows that follow them are no more than the text is long.
-/

namespace ModalKeys.Text

variable {text : List Char} {cursor found : Nat}

theorem runEnd_le_length (p : Char → Bool) {i : Nat} (within : i ≤ text.length) :
    runEnd p text i ≤ text.length := by
  have short := (List.takeWhile_sublist p (l := text.drop i)).length_le
  rw [List.length_drop] at short
  rw [runEnd]
  omega

theorem le_runEnd (p : Char → Bool) (text : List Char) (i : Nat) : i ≤ runEnd p text i := Nat.le_add_right _ _

/-- A run goes on over a character that passes. -/
theorem lt_runEnd {p : Char → Bool} {text : List Char} {i : Nat} (inside : i < text.length)
    (passes : p text[i] = true) : i < runEnd p text i := by
  rw [runEnd, List.drop_eq_getElem_cons inside, List.takeWhile_cons_of_pos passes, List.length_cons]
  omega

theorem runEnd_of_fails {p : Char → Bool} {text : List Char} {i : Nat} (inside : i < text.length)
    (fails : ¬ p text[i] = true) : runEnd p text i = i := by
  rw [runEnd, List.drop_eq_getElem_cons inside, List.takeWhile_cons_of_neg fails]
  rfl

theorem lt_length_of_getElem? {i : Nat} {c : Char} (here : text[i]? = some c) : i < text.length :=
  (List.getElem?_eq_some_iff.mp here).1

theorem tokenEnd_le_length {i : Nat} {c : Char} (here : text[i]? = some c) :
    tokenEnd text i c ≤ text.length :=
  runEnd_le_length _ (Nat.le_of_lt (lt_length_of_getElem? here))

/-- The last character of a token is one of the text. -/
theorem tokenLast_lt_length {i : Nat} {c : Char} (here : text[i]? = some c) :
    tokenEnd text i c - 1 < text.length := by
  have inside := lt_length_of_getElem? here
  have ends := tokenEnd_le_length here
  omega

theorem nextTokenLast?_lt {i : Nat} (next : nextTokenLast? text i = some found) : found < text.length := by
  unfold nextTokenLast? at next
  dsimp only at next
  split at next
  · cases next
  · next c here =>
      cases next
      exact tokenLast_lt_length here

theorem nextWordStart?_lt (next : nextWordStart? cursor text = some found) : found < text.length := by
  unfold nextWordStart? at next
  split at next
  · cases next
  · obtain ⟨inside, same⟩ := Option.ite_none_right_eq_some.mp next
    cases same
    exact inside

theorem wordEnd?_lt (next : wordEnd? cursor text = some found) : found < text.length := by
  unfold wordEnd? at next
  split at next
  · cases next
  · next c here =>
      split at next
      · exact nextTokenLast?_lt next
      · exact nextTokenLast?_lt next
      · dsimp only at next
        split at next
        · cases next
          exact tokenLast_lt_length here
        · exact nextTokenLast?_lt next

theorem previousWordStart?_lt (previous : previousWordStart? cursor text = some found) :
    found < text.length := by
  unfold previousWordStart? at previous
  split at previous
  · cases previous
  · next c before skipped =>
      cases previous
      have run := (List.dropWhile_sublist (sameClass c) (l := before)).length_le
      have blanks := (List.dropWhile_sublist isBlank (l := (text.take cursor).reverse)).length_le
      rw [skipped, List.length_cons, List.length_reverse] at blanks
      exact Nat.lt_of_lt_of_le (Nat.lt_succ_of_le run)
        (Nat.le_trans blanks (List.length_take_le' _ _))

/-- Wherever they begin, steps that find characters of the text lead to one of them or nowhere. -/
theorem repeatStep_cases (step : Nat → Option Nat)
    (inside : ∀ {cursor found}, step cursor = some found → found < text.length) (count cursor : Nat) :
    repeatStep step count cursor < text.length ∨ repeatStep step count cursor = cursor := by
  induction count generalizing cursor with
  | zero => exact .inr rfl
  | succ count ih =>
      rw [repeatStep]
      cases next : step cursor with
      | none => exact .inr rfl
      | some found =>
          rcases ih found with inner | still
          · exact .inl inner
          · exact .inl (Nat.lt_of_le_of_lt (Nat.le_of_eq still) (inside next))

/-- Steps that find characters of the text stay within it. -/
theorem repeatStep_le_length {step : Nat → Option Nat}
    (inside : ∀ {cursor found}, step cursor = some found → found < text.length) (count : Nat)
    (within : cursor ≤ text.length) : repeatStep step count cursor ≤ text.length := by
  rcases repeatStep_cases step inside count cursor with inner | still
  · exact Nat.le_of_lt inner
  · exact Nat.le_trans (Nat.le_of_eq still) within

/-- Where a step fails, more of them stay. -/
theorem repeatStep_of_none {step : Nat → Option Nat} (fails : step cursor = none) (count : Nat) :
    repeatStep step count cursor = cursor := by
  cases count with
  | zero => rfl
  | succ count => rw [repeatStep, fails]

theorem repeatStep_add (step : Nat → Option Nat) (first second : Nat) :
    repeatStep step (first + second) cursor = repeatStep step second (repeatStep step first cursor) := by
  induction first generalizing cursor with
  | zero => rw [Nat.zero_add, repeatStep]
  | succ first ih =>
      rw [Nat.succ_add_eq_add_succ, Nat.add_succ, repeatStep, repeatStep]
      cases next : step cursor with
      | none => exact (repeatStep_of_none next second).symm
      | some found => exact ih

theorem arrowSteps_le (start target : Nat) : (arrowSteps start target).1 ≤ max start target := by
  unfold arrowSteps
  split
  · exact Nat.le_trans (Nat.sub_le _ _) (Nat.le_max_right _ _)
  · exact Nat.le_trans (Nat.sub_le _ _) (Nat.le_max_left _ _)

end ModalKeys.Text
