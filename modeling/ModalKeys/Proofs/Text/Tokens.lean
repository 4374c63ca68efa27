import Mathlib.Order.Bounds.Basic
import ModalKeys.Proofs.Text.Runs

/-!
# Tokens

A token begins where a character that is no blank follows one of another class, and it ends in the same way.
The word searches lead to the nearest such offsets. A search that begins on punctuation leaves out the rest of
its run.
-/

namespace ModalKeys.Text

def classAt? (text : List Char) (i : Nat) : Option CharClass := text[i]?.map CharClass.of

def IsVisible (text : List Char) (i : Nat) : Prop := classAt? text i ≠ none ∧ classAt? text i ≠ some .blank

/-- A visible character at the front of the text or behind one of another class. -/
structure IsTokenStart (text : List Char) (i : Nat) : Prop where
  visible : IsVisible text i
  first : i = 0 ∨ classAt? text (i - 1) ≠ classAt? text i

/-- A visible character at the end of the text or before one of another class. -/
structure IsTokenEnd (text : List Char) (i : Nat) : Prop where
  visible : IsVisible text i
  last : i + 1 = text.length ∨ classAt? text (i + 1) ≠ classAt? text i

/-- All characters from `i` through `last` are of one class. -/
structure Uniform (text : List Char) (i last : Nat) : Prop where
  le : i ≤ last
  same : ∀ j, i ≤ j → j ≤ last → classAt? text j = classAt? text i

/-- All characters from `i` through `last` are of one class, and the next one is not. -/
structure RunsThrough (text : List Char) (i last : Nat) : Prop extends Uniform text i last where
  stops : classAt? text (last + 1) ≠ classAt? text i

def LeastOf (offsets : Set Nat) : Option Nat → Prop
  | some found => IsLeast offsets found
  | none => offsets = ∅

def GreatestOf (offsets : Set Nat) : Option Nat → Prop
  | some found => IsGreatest offsets found
  | none => offsets = ∅

variable {text : List Char} {cursor i j : Nat} {c : Char}

theorem classAt?_of_getElem? (here : text[i]? = some c) : classAt? text i = some (.of c) := by
  rw [classAt?, here, Option.map_some]

theorem IsVisible.lt_length (visible : IsVisible text i) : i < text.length := by
  by_cases inside : i < text.length
  · exact inside
  · refine absurd ?_ visible.1
    rw [classAt?, List.getElem?_eq_none (Nat.le_of_not_lt inside), Option.map_none]

theorem isBlank_iff : isBlank c = true ↔ CharClass.of c = .blank := beq_iff_eq

theorem isVisible_of_getElem? (here : text[i]? = some c) (nonblank : isBlank c = false) :
    IsVisible text i := by
  rw [IsVisible, classAt?_of_getElem? here]
  refine ⟨nofun, fun blank => ?_⟩
  cases nonblank.symm.trans (isBlank_iff.mpr (Option.some.inj blank))

theorem not_isVisible_of_isBlank (blank : ∃ c, text[i]? = some c ∧ isBlank c = true) : ¬ IsVisible text i := by
  obtain ⟨c, here, blank⟩ := blank
  intro visible
  exact visible.2 ((classAt?_of_getElem? here).trans (congrArg some (isBlank_iff.mp blank)))

theorem classAt?_of_sameClass (passes : ∃ d, text[i]? = some d ∧ sameClass c d = true) :
    classAt? text i = some (.of c) := by
  obtain ⟨d, here, same⟩ := passes
  exact (classAt?_of_getElem? here).trans (congrArg some (eq_of_beq same))

theorem classAt?_ne_of_sameClass {d : Char} (here : text[i]? = some d) (other : sameClass c d = false) :
    classAt? text i ≠ some (.of c) := by
  rw [classAt?_of_getElem? here]
  intro same
  rw [sameClass, Option.some.inj same, beq_self_eq_true] at other
  cases other

theorem lt_tokenEnd (here : text[i]? = some c) : i < tokenEnd text i c := by
  obtain ⟨inside, same⟩ := List.getElem?_eq_some_iff.mp here
  refine lt_runEnd inside ?_
  rw [same]
  exact beq_self_eq_true _

/-- The run that begins at a character goes on up to the end of its token. -/
theorem runsThrough_tokenEnd (here : text[i]? = some c) : RunsThrough text i (tokenEnd text i c - 1) := by
  have onward := lt_tokenEnd here
  have own := classAt?_of_getElem? here
  refine ⟨⟨Nat.le_sub_one_of_lt onward, fun j first before => ?_⟩, ?_⟩
  · rw [own]
    have inside := Nat.lt_of_le_sub_one (Nat.zero_lt_of_lt onward) before
    exact classAt?_of_sameClass (passes_of_lt_runEnd first inside)
  · rw [own, Nat.sub_add_cancel (Nat.one_le_of_lt onward)]
    cases next : text[tokenEnd text i c]? with
    | none =>
        rw [classAt?, next]
        nofun
    | some d => exact classAt?_ne_of_sameClass next (fails_runEnd next)

theorem RunsThrough.isTokenEnd {last : Nat} (runs : RunsThrough text i last) (visible : IsVisible text i) :
    IsTokenEnd text last := by
  have own := runs.same last runs.le (Nat.le_refl last)
  refine ⟨?_, .inr (by rw [own]; exact runs.stops)⟩
  rw [IsVisible, own]
  exact visible

/-- Within a run no token ends. -/
theorem RunsThrough.not_isTokenEnd {last : Nat} (runs : RunsThrough text i last) (first : i ≤ j)
    (before : j < last) : ¬ IsTokenEnd text j := by
  intro ends
  have own := runs.same j first (Nat.le_of_lt before)
  have next := runs.same (j + 1) (Nat.le_succ_of_le first) before
  have following : IsVisible text (j + 1) := by
    rw [IsVisible, next, ← own]
    exact ends.visible
  rcases ends.last with last | differs
  · exact absurd following.lt_length (Nat.not_lt.mpr (Nat.le_of_eq last.symm))
  · exact differs (next.trans own.symm)

/-- Behind the first character of one class no token starts. -/
theorem Uniform.not_isTokenStart {last : Nat} (uniform : Uniform text i last) (first : i < j)
    (before : j ≤ last) : ¬ IsTokenStart text j := by
  intro starts
  have own := uniform.same j (Nat.le_of_lt first) before
  have previous := uniform.same (j - 1) (Nat.le_sub_one_of_lt first) (Nat.le_trans (Nat.sub_le j 1) before)
  rcases starts.first with zero | differs
  · exact absurd first (zero ▸ Nat.not_lt_zero i)
  · exact differs (previous.trans own.symm)

theorem not_isVisible_of_lt_runEnd (first : i ≤ j) (before : j < runEnd isBlank text i) : ¬ IsVisible text j :=
  not_isVisible_of_isBlank (passes_of_lt_runEnd first before)

/-! ## The end of the next token -/

/-- The search for the end of a token leads to the first one from where it begins. -/
theorem leastOf_nextTokenLast? (text : List Char) (i : Nat) :
    LeastOf {j | IsTokenEnd text j ∧ i ≤ j} (nextTokenLast? text i) := by
  have skips := le_runEnd isBlank text i
  unfold nextTokenLast?
  dsimp only
  split
  · next beyond =>
      refine Set.eq_empty_of_forall_notMem fun j ⟨ends, onward⟩ => ?_
      have inside := ends.visible.lt_length
      have far := List.getElem?_eq_none_iff.mp beyond
      exact not_isVisible_of_lt_runEnd onward (Nat.lt_of_lt_of_le inside far) ends.visible
  · next c here =>
      have runs := runsThrough_tokenEnd here
      have visible := isVisible_of_getElem? here (fails_runEnd here)
      refine ⟨⟨runs.isTokenEnd visible, Nat.le_trans skips runs.le⟩, fun j ⟨ends, onward⟩ => ?_⟩
      refine Nat.le_of_not_lt fun before => ?_
      by_cases blank : j < runEnd isBlank text i
      · exact not_isVisible_of_lt_runEnd onward blank ends.visible
      · exact runs.not_isTokenEnd (Nat.le_of_not_lt blank) before ends

/-- Behind blanks, every visible character starts a token. -/
theorem isTokenStart_runEnd (visible : IsVisible text (runEnd isBlank text i))
    (skips : i < runEnd isBlank text i) : IsTokenStart text (runEnd isBlank text i) := by
  refine ⟨visible, .inr fun same => ?_⟩
  have blank := not_isVisible_of_lt_runEnd (Nat.le_sub_one_of_lt skips) (Nat.sub_one_lt (Nat.ne_zero_of_lt skips))
  rw [IsVisible, same] at blank
  exact blank visible

/-- Where a run ends, another token starts if there is something to see. -/
theorem RunsThrough.isTokenStart {last : Nat} (runs : RunsThrough text i last)
    (visible : IsVisible text (last + 1)) : IsTokenStart text (last + 1) := by
  refine ⟨visible, .inr ?_⟩
  rw [Nat.add_sub_cancel, runs.same last runs.le (Nat.le_refl last)]
  exact runs.stops.symm

/-- Over blanks, the search leads to the next start of a token, if none has been passed before them. -/
theorem leastOf_runEnd {after : Nat} (onward : cursor ≤ after)
    (passed : ∀ i, cursor < i → i < after → ¬ IsTokenStart text i)
    (here : IsVisible text after → cursor < after ∧ IsTokenStart text after) :
    LeastOf {i | IsTokenStart text i ∧ cursor < i}
      (if runEnd isBlank text after < text.length then some (runEnd isBlank text after) else none) := by
  have gap : ∀ i, cursor < i → i < runEnd isBlank text after → ¬ IsTokenStart text i := by
    intro i beyond before starts
    by_cases blank : after ≤ i
    · exact not_isVisible_of_lt_runEnd blank before starts.visible
    · exact passed i beyond (Nat.lt_of_not_le blank) starts
  split
  · next inside =>
      have stop := List.getElem?_eq_getElem inside
      have visible := isVisible_of_getElem? stop (fails_runEnd stop)
      have leads : cursor < runEnd isBlank text after ∧ IsTokenStart text (runEnd isBlank text after) := by
        rcases Nat.lt_or_eq_of_le (le_runEnd isBlank text after) with further | stays
        · exact ⟨Nat.lt_of_le_of_lt onward further, isTokenStart_runEnd visible further⟩
        · rw [← stays] at visible ⊢
          exact here visible
      refine ⟨⟨leads.2, leads.1⟩, fun i ⟨starts, beyond⟩ => ?_⟩
      exact Nat.le_of_not_lt fun before => gap i beyond before starts
  · next outside =>
      refine Set.eq_empty_of_forall_notMem fun i ⟨starts, beyond⟩ => ?_
      exact gap i beyond (Nat.lt_of_lt_of_le starts.visible.lt_length (Nat.le_of_not_lt outside)) starts

theorem leastOf_nextWordStart? (text : List Char) (cursor : Nat) :
    LeastOf {i | IsTokenStart text i ∧ cursor < i} (nextWordStart? cursor text) := by
  unfold nextWordStart?
  split
  · next beyond =>
      refine Set.eq_empty_of_forall_notMem fun i ⟨starts, onward⟩ => ?_
      exact absurd (Nat.lt_trans onward starts.visible.lt_length)
        (Nat.not_lt.mpr (List.getElem?_eq_none_iff.mp beyond))
  · next c here =>
      dsimp only
      by_cases blank : isBlank c = true
      · rw [if_pos blank]
        refine leastOf_runEnd (Nat.le_refl cursor) (fun i beyond before => ?_) fun visible => ?_
        · exact absurd before (Nat.not_lt.mpr (Nat.le_of_lt beyond))
        · exact absurd visible (not_isVisible_of_isBlank ⟨c, here, blank⟩)
      · rw [if_neg blank]
        have runs := runsThrough_tokenEnd here
        have leaves := lt_tokenEnd here
        refine leastOf_runEnd (Nat.le_of_lt leaves) (fun i beyond before => ?_) fun visible => ⟨leaves, ?_⟩
        · exact runs.not_isTokenStart beyond (Nat.le_sub_one_of_lt before)
        · rw [← Nat.sub_add_cancel (Nat.one_le_of_lt leaves)] at visible ⊢
          exact runs.isTokenStart visible

theorem LeastOf.congr {offsets others : Set Nat} {found : Option Nat} (least : LeastOf offsets found)
    (same : ∀ i, i ∈ offsets ↔ i ∈ others) : LeastOf others found := by
  rwa [← Set.ext same]

/-- From a word or a blank, the search leads to the first end of a token behind the cursor. -/
theorem leastOf_wordEnd? (here : text[cursor]? = some c) (plain : CharClass.of c ≠ .punctuation) :
    LeastOf {i | IsTokenEnd text i ∧ cursor < i} (wordEnd? cursor text) := by
  have next := leastOf_nextTokenLast? text (cursor + 1)
  unfold wordEnd?
  rw [here]
  dsimp only
  split
  · next blank =>
      refine (leastOf_nextTokenLast? text cursor).congr fun i => and_congr_right fun ends => ?_
      refine ⟨fun onward => Nat.lt_of_le_of_ne onward fun same => ?_, Nat.le_of_lt⟩
      exact not_isVisible_of_isBlank ⟨c, here, isBlank_iff.mpr blank⟩ (same ▸ ends.visible)
  · next punctuation => exact absurd punctuation plain
  · next word =>
      have runs := runsThrough_tokenEnd here
      have nonblank : isBlank c = false := by rw [isBlank, word]; rfl
      split
      · next onward =>
          refine ⟨⟨runs.isTokenEnd (isVisible_of_getElem? here nonblank), onward⟩, fun i ⟨ends, beyond⟩ => ?_⟩
          exact Nat.le_of_not_lt fun before => runs.not_isTokenEnd (Nat.le_of_lt beyond) before ends
      · next stays =>
          rw [Nat.le_antisymm (Nat.le_of_not_lt stays) runs.le]
          exact next

/-- From punctuation, the search leaves out the rest of the run. -/
theorem leastOf_wordEnd?_of_punctuation (here : text[cursor]? = some c)
    (punctuation : CharClass.of c = .punctuation) :
    LeastOf {i | IsTokenEnd text i ∧ tokenEnd text cursor c - 1 < i} (wordEnd? cursor text) := by
  have next := leastOf_nextTokenLast? text (tokenEnd text cursor c)
  unfold wordEnd?
  rw [here]
  dsimp only
  rw [punctuation]
  have leaves := lt_tokenEnd here
  refine next.congr fun i => and_congr_right fun _ => ?_
  omega

theorem wordEnd?_of_outside (outside : classAt? text cursor = none) : wordEnd? cursor text = none := by
  rw [wordEnd?, Option.map_eq_none_iff.mp outside]

/-- Backward the search looks for what is visible and then for where its run begins. -/
theorem previousWordStart?_cases (cursor : Nat) (text : List Char) :
    (runStart isBlank text cursor = 0 ∧ previousWordStart? cursor text = none) ∨
      ∃ last c, runStart isBlank text cursor = last + 1 ∧ text[last]? = some c ∧
        previousWordStart? cursor text = some (runStart (sameClass c) text last) := by
  have within := runStart_le isBlank text cursor
  rw [previousWordStart?, ← reverse_take_runStart]
  cases start : runStart isBlank text cursor with
  | zero => exact .inl ⟨rfl, rfl⟩
  | succ last =>
      have inside : last < text.length := by omega
      refine .inr ⟨last, text[last], rfl, List.getElem?_eq_getElem inside, ?_⟩
      rw [List.take_succ_eq_append_getElem inside, List.reverse_append]
      rfl

/-- Back to its start, the run of a character is of its class. -/
theorem uniform_runStart {last : Nat} (here : text[last]? = some c) :
    Uniform text (runStart (sameClass c) text last) last := by
  have own : ∀ i, runStart (sameClass c) text last ≤ i → i ≤ last → classAt? text i = some (.of c) := by
    intro i first within
    rcases Nat.lt_or_eq_of_le within with before | rfl
    · have inside := Nat.lt_trans before (lt_length_of_getElem? here)
      exact classAt?_of_sameClass (passes_of_runStart_le first before inside)
    · exact classAt?_of_getElem? here
  have le := Nat.le_trans (runStart_le (sameClass c) text last) (Nat.min_le_left _ _)
  refine ⟨le, fun i first within => ?_⟩
  rw [own i first within, own _ (Nat.le_refl _) le]

theorem isTokenStart_runStart {last : Nat} (here : text[last]? = some c) (nonblank : isBlank c = false) :
    IsTokenStart text (runStart (sameClass c) text last) := by
  have uniform := uniform_runStart here
  have own := (uniform.same last uniform.le (Nat.le_refl last)).symm.trans (classAt?_of_getElem? here)
  refine ⟨?_, ?_⟩
  · rw [IsVisible, own, ← classAt?_of_getElem? here]
    exact isVisible_of_getElem? here nonblank
  · rw [own]
    cases start : runStart (sameClass c) text last with
    | zero => exact .inl rfl
    | succ before =>
        obtain ⟨d, previous, other⟩ := fails_before_runStart start
        exact .inr (classAt?_ne_of_sameClass previous other)

theorem greatestOf_previousWordStart? (text : List Char) (cursor : Nat) :
    GreatestOf {i | IsTokenStart text i ∧ i < min cursor text.length} (previousWordStart? cursor text) := by
  have within := runStart_le isBlank text cursor
  have blanks : ∀ i, runStart isBlank text cursor ≤ i → i < min cursor text.length → ¬ IsTokenStart text i := by
    intro i first before starts
    have inside := Nat.lt_min.mp before
    exact not_isVisible_of_isBlank (passes_of_runStart_le first inside.1 inside.2) starts.visible
  rcases previousWordStart?_cases cursor text with ⟨start, previous⟩ | ⟨last, c, start, here, previous⟩
  · rw [previous]
    refine Set.eq_empty_of_forall_notMem fun i ⟨starts, before⟩ => ?_
    exact blanks i (start ▸ Nat.zero_le i) before starts
  · rw [previous]
    obtain ⟨d, same, nonblank⟩ := fails_before_runStart start
    cases here.symm.trans same
    have uniform := uniform_runStart here
    have before : runStart (sameClass c) text last < runStart isBlank text cursor := by
      rw [start]
      exact Nat.lt_succ_of_le uniform.le
    refine ⟨⟨isTokenStart_runStart here nonblank, Nat.lt_of_lt_of_le before within⟩, fun i ⟨starts, early⟩ => ?_⟩
    refine Nat.le_of_not_lt fun later => ?_
    by_cases inRun : i ≤ last
    · exact uniform.not_isTokenStart later inRun starts
    · exact blanks i (start ▸ Nat.lt_of_not_le inRun) early starts

section Both

variable {next back : Nat}

/-- The token before the next one does not begin behind the cursor. -/
theorem le_of_previous_next (forward : nextWordStart? cursor text = some next)
    (backward : previousWordStart? next text = some back) : back ≤ cursor := by
  have least := leastOf_nextWordStart? text cursor
  have greatest := greatestOf_previousWordStart? text next
  rw [forward] at least
  rw [backward] at greatest
  refine Nat.le_of_not_lt fun beyond => ?_
  have before := Nat.lt_of_lt_of_le greatest.1.2 (Nat.min_le_left _ _)
  exact Nat.not_le.mpr before (least.2 ⟨greatest.1.1, beyond⟩)

theorem previous_of_next (starts : IsTokenStart text cursor) (forward : nextWordStart? cursor text = some next) :
    previousWordStart? next text = some cursor := by
  have least := leastOf_nextWordStart? text cursor
  have greatest := greatestOf_previousWordStart? text next
  rw [forward] at least
  have early : cursor < min next text.length := Nat.lt_min.mpr ⟨least.1.2, starts.visible.lt_length⟩
  cases backward : previousWordStart? next text with
  | none =>
      rw [backward] at greatest
      exact (Set.eq_empty_iff_forall_notMem.mp greatest cursor ⟨starts, early⟩).elim
  | some back =>
      rw [backward] at greatest
      exact congrArg some (Nat.le_antisymm (le_of_previous_next forward backward) (greatest.2 ⟨starts, early⟩))

theorem next_of_previous (starts : IsTokenStart text cursor)
    (backward : previousWordStart? cursor text = some back) : nextWordStart? back text = some cursor := by
  have greatest := greatestOf_previousWordStart? text cursor
  have least := leastOf_nextWordStart? text back
  rw [backward] at greatest
  have later : back < cursor := Nat.lt_of_lt_of_le greatest.1.2 (Nat.min_le_left _ _)
  cases forward : nextWordStart? back text with
  | none =>
      rw [forward] at least
      exact (Set.eq_empty_iff_forall_notMem.mp least cursor ⟨starts, later⟩).elim
  | some next =>
      rw [forward] at least
      refine congrArg some (Nat.le_antisymm (least.2 ⟨starts, later⟩) (Nat.le_of_not_lt fun before => ?_))
      have early : next < min cursor text.length := Nat.lt_min.mpr ⟨before, least.1.1.visible.lt_length⟩
      exact Nat.not_le.mpr least.1.2 (greatest.2 ⟨least.1.1, early⟩)

end Both

/-- The three searches lead to the nearest starts and ends of tokens, from any cursor, and on the starts of
tokens the one forward and the one backward undo each other. -/
theorem word_searches_meet_tokens (text : List Char) (cursor : Nat) :
    LeastOf {i | IsTokenStart text i ∧ cursor < i} (nextWordStart? cursor text) ∧
      GreatestOf {i | IsTokenStart text i ∧ i < min cursor text.length} (previousWordStart? cursor text) ∧
      (match classAt? text cursor with
        | none => wordEnd? cursor text = none
        | some .punctuation =>
            ∃ last, RunsThrough text cursor last ∧
              LeastOf {i | IsTokenEnd text i ∧ last < i} (wordEnd? cursor text)
        | some .word | some .blank => LeastOf {i | IsTokenEnd text i ∧ cursor < i} (wordEnd? cursor text)) ∧
      (∀ next back, nextWordStart? cursor text = some next → previousWordStart? next text = some back →
        back ≤ cursor) ∧
      (IsTokenStart text cursor →
        (∀ next, nextWordStart? cursor text = some next → previousWordStart? next text = some cursor) ∧
          ∀ back, previousWordStart? cursor text = some back → nextWordStart? back text = some cursor) := by
  refine ⟨leastOf_nextWordStart? text cursor, greatestOf_previousWordStart? text cursor, ?_,
    fun next back => le_of_previous_next,
    fun starts => ⟨fun next => previous_of_next starts, fun back => next_of_previous starts⟩⟩
  cases here : text[cursor]? with
  | none =>
      have outside : classAt? text cursor = none := congrArg (Option.map CharClass.of) here
      rw [outside]
      exact wordEnd?_of_outside outside
  | some c =>
      rw [classAt?_of_getElem? here]
      cases kind : CharClass.of c with
      | punctuation => exact ⟨_, runsThrough_tokenEnd here, leastOf_wordEnd?_of_punctuation here kind⟩
      | word | blank => exact leastOf_wordEnd? here (by rw [kind]; nofun)

/-- From the first of two commas, the end of the second is left out. -/
example : wordEnd? 2 "ab,, cd".toList = some 6 := by decide

end ModalKeys.Text
