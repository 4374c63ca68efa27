import Mathlib.Order.Bounds.Basic
import ModalKeys.Proofs.Normal.AddedCounts
import ModalKeys.Proofs.Text.Runs

/-!
# Word ends in a field that cannot be read

There `e` jumps behind the end of a word and goes one character back, onto the last one of the word. From there
the jump leads behind the same word again: the first jump decides where the block is shown, whatever the count.
-/

namespace ModalKeys

open Text (isWordChar runEnd)

namespace Text

def endsWord (text : List Char) (i : Nat) : Bool :=
  text[i]?.any isWordChar && !(text[i + 1]?.any isWordChar)

def wordEndsAfter (text : List Char) (pos : Nat) : List Nat :=
  (List.range text.length).filter fun i => pos < i && endsWord text i

variable {text : List Char} {pos i : Nat}

theorem endsWord_iff :
    endsWord text i = true ↔
      (∃ c, text[i]? = some c ∧ isWordChar c = true) ∧ ∀ c, text[i + 1]? = some c → isWordChar c = false := by
  simp only [endsWord, Bool.and_eq_true, Bool.not_eq_true', Option.any_eq_true, Option.any_eq_false]

theorem lt_length_of_endsWord (ends : endsWord text i = true) : i < text.length := by
  obtain ⟨⟨c, here, _⟩, _⟩ := endsWord_iff.mp ends
  exact lt_length_of_getElem? here

theorem mem_wordEndsAfter : i ∈ wordEndsAfter text pos ↔ pos < i ∧ endsWord text i = true := by
  simp only [wordEndsAfter, List.mem_filter, List.mem_range, Bool.and_eq_true, decide_eq_true_eq]
  exact and_iff_right_of_imp fun both => lt_length_of_endsWord both.2

/-- Over what is no word and then over the word itself, the search goes behind the first word end, if there is
one to come. -/
theorem isLeast_wordEnd (ends : ∃ i, pos ≤ i ∧ endsWord text i = true) :
    IsLeast {i | pos ≤ i ∧ endsWord text i = true}
      (runEnd isWordChar text (runEnd (fun c => !isWordChar c) text pos) - 1) := by
  let first := runEnd (fun c => !isWordChar c) text pos
  have beyond : ∀ i, pos ≤ i → endsWord text i = true → first ≤ i := by
    intro i onward ends
    refine Nat.le_of_not_lt fun before => ?_
    obtain ⟨c, here, other⟩ := passes_of_lt_runEnd onward before
    obtain ⟨⟨d, same, word⟩, _⟩ := endsWord_iff.mp ends
    cases here.symm.trans same
    rw [word] at other
    cases other
  obtain ⟨j, onward, there⟩ := ends
  have inside : first < text.length := Nat.lt_of_le_of_lt (beyond j onward there) (lt_length_of_endsWord there)
  have word : isWordChar text[first] = true := by
    have stops := fails_runEnd (List.getElem?_eq_getElem inside)
    rwa [Bool.not_eq_false'] at stops
  have goes : first < runEnd isWordChar text first := lt_runEnd inside word
  have last : runEnd isWordChar text first - 1 + 1 = runEnd isWordChar text first :=
    Nat.sub_add_cancel (Nat.one_le_of_lt goes)
  have within : first ≤ runEnd isWordChar text first - 1 := Nat.le_sub_one_of_lt goes
  refine ⟨⟨Nat.le_trans (le_runEnd _ text pos) within, endsWord_iff.mpr ⟨?_, ?_⟩⟩, fun i ⟨onward, ends⟩ => ?_⟩
  · exact passes_of_lt_runEnd within (Nat.lt_of_succ_le (Nat.le_of_eq last))
  · rw [last]
    exact fun c stop => fails_runEnd stop
  · refine Nat.le_of_not_lt fun before => ?_
    have next : i + 1 < runEnd isWordChar text first := Nat.lt_of_lt_of_eq (Nat.succ_lt_succ before) last
    obtain ⟨c, here, passes⟩ := passes_of_lt_runEnd (Nat.le_succ_of_le (beyond i onward ends)) next
    rw [(endsWord_iff.mp ends).2 c here] at passes
    cases passes

/-- No word ends right behind the end of another. -/
theorem pairwise_wordEndsAfter (text : List Char) (pos : Nat) :
    (wordEndsAfter text pos).Pairwise (fun i j => i + 2 ≤ j) := by
  have sorted : (wordEndsAfter text pos).Pairwise (· < ·) := List.pairwise_lt_range.filter _
  refine sorted.imp_of_mem fun {i j} listed later before => ?_
  refine Nat.lt_of_le_of_ne before ?_
  rintro rfl
  obtain ⟨⟨c, here, word⟩, _⟩ := endsWord_iff.mp (mem_wordEndsAfter.mp later).2
  rw [(endsWord_iff.mp (mem_wordEndsAfter.mp listed).2).2 c here] at word
  cases word

/-- A text has room for twice as many characters as words end in it. -/
theorem two_mul_le_length_of_wordEnd {count target : Nat} (positive : 1 ≤ count)
    (nth : (wordEndsAfter text pos)[count - 1]? = some target) : 2 * count ≤ text.length := by
  have spread : ∀ k (within : k < (wordEndsAfter text pos).length), 2 * k + 1 ≤ (wordEndsAfter text pos)[k] := by
    intro k within
    induction k with
    | zero => exact Nat.zero_lt_of_lt (mem_wordEndsAfter.mp (List.getElem_mem within)).1
    | succ k ih =>
        have before := Nat.lt_of_succ_lt within
        have apart := List.pairwise_iff_getElem.mp (pairwise_wordEndsAfter text pos) k (k + 1) before within
          (Nat.lt_succ_self k)
        have earlier := ih before
        omega
  obtain ⟨within, rfl⟩ := List.getElem?_eq_some_iff.mp nth
  have behind := spread (count - 1) within
  have inside := lt_length_of_endsWord (mem_wordEndsAfter.mp (List.getElem_mem within)).2
  omega

/-- The first word end from an offset on is the n-th one behind it only for the first, and only if no word ends
at the offset itself. -/
theorem eq_nth_wordEnd_iff {first target count : Nat}
    (least : IsLeast {i | pos ≤ i ∧ endsWord text i = true} first) (positive : 1 ≤ count)
    (nth : (wordEndsAfter text pos)[count - 1]? = some target) :
    first = target ↔ count = 1 ∧ ¬ endsWord text pos = true := by
  have sorted : (wordEndsAfter text pos).Pairwise (· < ·) := List.pairwise_lt_range.filter _
  have later : pos < target := (mem_wordEndsAfter.mp (List.mem_of_getElem? nth)).1
  cases ends : wordEndsAfter text pos with
  | nil =>
      rw [ends] at nth
      cases nth
  | cons head rest =>
      rw [ends] at nth sorted
      have listed : head ∈ wordEndsAfter text pos := ends ▸ List.mem_cons_self
      have onward : first ≤ head :=
        have there := mem_wordEndsAfter.mp listed
        least.2 ⟨Nat.le_of_lt there.1, there.2⟩
      constructor
      · rintro rfl
        have plain : ¬ endsWord text pos = true := fun here =>
          Nat.not_le.mpr later (least.2 ⟨Nat.le_refl pos, here⟩)
        refine ⟨?_, plain⟩
        cases more : count - 1 with
        | zero => omega
        | succ k =>
            rw [more, List.getElem?_cons_succ] at nth
            exact absurd (List.rel_of_pairwise_cons sorted (List.mem_of_getElem? nth)) (Nat.not_lt.mpr onward)
      · rintro ⟨rfl, plain⟩
        cases nth
        have away : pos ≠ first := fun same => plain (same ▸ least.1.2)
        have among : first ∈ wordEndsAfter text pos :=
          mem_wordEndsAfter.mpr ⟨Nat.lt_of_le_of_ne least.1.1 away, least.1.2⟩
        rw [ends] at among
        rcases List.mem_cons.mp among with same | behind
        · exact same
        · exact absurd (List.rel_of_pairwise_cons sorted behind) (Nat.not_lt.mpr onward)

end Text

namespace Motion

variable {text : List Char} {pos first : Nat}

/-- One jump leads to the first word end from where it starts. -/
theorem jump_wordEnd (least : IsLeast {i | pos ≤ i ∧ Text.endsWord text i = true} first) :
    Motion.wordEnd.jump text pos = first := by
  have within : pos ≤ text.length :=
    Nat.le_trans least.1.1 (Nat.le_of_lt (Text.lt_length_of_endsWord least.1.2))
  change Draft.stepped text (.left .char) (Draft.stepped text (.right .word) pos) = first
  rw [Draft.stepped_left (Draft.stepped_le_length text _ pos), Draft.stepped_wordRight within]
  exact (Text.isLeast_wordEnd ⟨first, least.1⟩).unique least

/-- The jumps that follow lead nowhere else. -/
theorem iterate_jump_wordEnd (least : IsLeast {i | pos ≤ i ∧ Text.endsWord text i = true} first) {count : Nat}
    (positive : 1 ≤ count) : (Motion.wordEnd.jump text)^[count] pos = first := by
  have stays : Motion.wordEnd.jump text first = first :=
    jump_wordEnd ⟨⟨Nat.le_refl first, least.1.2⟩, fun i later => later.1⟩
  obtain ⟨more, rfl⟩ := Nat.exists_eq_add_of_le' positive
  rw [Function.iterate_succ_apply, jump_wordEnd least, Function.iterate_fixed stays]

end Motion

namespace Editor

variable {e : Editor TextField}

/-- In a field that cannot be read, `e` leads to the first word end from the block on, with whatever count. That
is the one its count asks for exactly without a count and from a block that is not on a word end already. In a text
whose length is a 64-bit number no word end is too far away for its strokes to be counted. -/
theorem native_word_end_iff (rests : e.Rests) (fresh : e.modes.normal.keys = [])
    (bounds : e.control.draft.InBounds) (hidden : e.control.introspection = false)
    (block : e.control.selection.length = 1) {count : Nat} (positive : 1 ≤ count)
    (allowed : count ≤ e.modes.normal.reader.maxCount) (small : count ≤ countLimit) {target : Nat}
    (nth : (Text.wordEndsAfter e.control.text e.control.selection.offset)[count - 1]? = some target)
    {inputs : List Input} (types : Types e.settle count 'e' inputs) :
    let text := e.control.text
    let cursor := e.control.selection.offset
    let after := e.run inputs
    after.mode = .normal ∧ after.deadline? = none ∧ TextField.SameContent e.control after.control ∧
      (∃ first, IsLeast {i | cursor ≤ i ∧ Text.endsWord text i = true} first ∧
        (text.length < UInt64.size → after.failed = e.failed ∧ after.control.selection = ⟨first, 1⟩)) ∧
      (after.control.selection = ⟨target, 1⟩ ↔ count = 1 ∧ ¬ Text.endsWord text cursor = true) := by
  intro text cursor after
  obtain ⟨later, ends⟩ := Text.mem_wordEndsAfter.mp (List.mem_of_getElem? nth)
  obtain ⟨first, least⟩ : ∃ first, IsLeast {i | cursor ≤ i ∧ Text.endsWord text i = true} first :=
    ⟨_, Text.isLeast_wordEnd ⟨target, Nat.le_of_lt later, ends⟩⟩
  have room : 2 * count ≤ text.length := Text.two_mul_le_length_of_wordEnd positive nth
  have fits : (Motion.plan .wordEnd count e.control).fits = true ↔ 2 * count < UInt64.size := by
    rw [Motion.fits_plan_iff bounds]
    exact ⟨fun few => few rfl hidden, fun few _ _ => few⟩
  by_cases few : 2 * count < UInt64.size
  · have led := led_by_motion rests fresh bounds positive allowed small rfl rfl rfl (fits.mpr few) types
    have onto : e.control.draft.leftward = cursor := Draft.leftward_of_one block
    have there : Motion.wordEnd.landing e.control.introspection text count
        (Motion.wordEnd.departure e.control.introspection e.control.draft) = first := by
      rw [hidden]
      change (Motion.wordEnd.jump text)^[count] e.control.draft.leftward = first
      rw [onto, Motion.iterate_jump_wordEnd least positive]
    have inside := Text.lt_length_of_endsWord least.1.2
    have selection : after.control.selection = ⟨first, 1⟩ := by
      change after.control.draft.selection = _
      rw [led.draft, there, Draft.selection_shown (Nat.le_of_lt inside)]
      exact congrArg (Selection.mk first) (Nat.min_eq_left (Nat.le_sub_of_add_le' inside))
    refine ⟨led.rests.1, led.rests.deadline, led.content, ⟨first, least, fun _ => ⟨led.failed, selection⟩⟩, ?_⟩
    rw [selection, ← Text.eq_nth_wordEnd_iff least positive nth]
    exact ⟨congrArg Selection.offset, fun same => congrArg (Selection.mk · 1) same⟩
  · -- Nothing has moved, and the word end that is asked for is behind the block.
    have failed : after = { e.withNormal e.modes.normal.cleared with failed := true } :=
      failed_by_motion rests fresh positive allowed small rfl rfl rfl
        (Bool.eq_false_iff.mpr (mt fits.mp few)) types
    have still : after.control = e.control := by rw [failed]; rfl
    have rested : after.Rests := by rw [failed]; exact rests
    refine ⟨rested.1, rested.deadline, still ▸ .refl _,
      ⟨first, least, fun short => absurd (Nat.lt_of_le_of_lt room short) few⟩, ?_⟩
    rw [still]
    refine ⟨fun same => absurd (congrArg Selection.offset same) (Nat.ne_of_lt later), fun ⟨one, _⟩ => ?_⟩
    exact absurd (one ▸ (by decide : 2 * 1 < UInt64.size)) few

/-- Without a count and from a space, the next word end is the one that is asked for. -/
theorem native_word_end_iff_of_space :
    let field := ((TextField.ofText "one two three".toList).withIntrospection false).select ⟨3, 1⟩
    let start := { Settings.usual with startMode := .normal }.editor field
    let inputs : List Input := (KeyPress.ofText ['e']).map (.key · 0) ++ [.tick 5]
    (start.run inputs).control.selection = ⟨6, 1⟩ := by
  intro field start inputs
  have implied : SpellsCount [] 1 := .inr ⟨rfl, rfl⟩
  have types : Types start.settle 1 'e' inputs := .intro implied (by decide) (by decide)
  have nth : (Text.wordEndsAfter field.text field.selection.offset)[1 - 1]? = some 6 := by decide +kernel
  obtain ⟨_, _, _, _, lands⟩ := native_word_end_iff (e := start) ⟨rfl, rfl⟩ rfl (Draft.inBounds_select _ _) rfl
    (by decide) (by decide) (by decide) (by decide) nth types
  exact lands.mpr ⟨rfl, by decide +kernel⟩

/-- A count of two leads no further than a count of one. -/
theorem native_word_end_ignores_count :
    let field := ((TextField.ofText "one two three".toList).withIntrospection false).select ⟨0, 1⟩
    let start := { Settings.usual with startMode := .normal }.editor field
    let inputs : List Input := (KeyPress.ofText ['2', 'e']).map (.key · 0) ++ [.tick 5]
    let after := start.run inputs
    start.Rests ∧ start.modes.normal.keys = [] ∧ field.draft.InBounds ∧ field.introspection = false ∧
      field.selection = ⟨0, 1⟩ ∧ (Text.wordEndsAfter field.text 0)[1]? = some 6 ∧
      Types start.settle 2 'e' inputs ∧ after.mode = .normal ∧ after.deadline? = none ∧
      after.control.selection = ⟨2, 1⟩ := by
  intro field start inputs after
  have two : SpellsCount ['2'] 2 := .inl (by decide)
  exact ⟨⟨rfl, rfl⟩, rfl, Draft.inBounds_select _ _, rfl, by decide, by decide +kernel,
    .intro two (by decide) (by decide), by decide +kernel, by decide +kernel, by decide +kernel⟩

end Editor

end ModalKeys
