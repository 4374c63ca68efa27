import ModalKeys.Proofs.TextField.Strokes

/-!
# Clearing the rest of a line

The selection is taken to the end of the line of its head and deleted. Where that selects nothing the
backspace takes the character before, and where the head has left the cursor's line another line goes. A change
first collapses the block with a left arrow, which takes a caret one character back.
-/

namespace ModalKeys

open Text (lineStart lineEnd lineEnd_succ lineEnd_lineStart lineStart_le le_lineEnd)

namespace Text

theorem length_take_append_drop {text : List Char} {first : Nat} (within : first ≤ text.length)
    (last : Nat) : (text.take first ++ text.drop last).length = first + (text.length - last) := by
  rw [List.length_append, List.length_take_of_le within, List.length_drop]

end Text

namespace Draft

def clearRest (d : Draft) : Draft := (d.move (.right .line) true).backspaced

theorem clearRest_eq (text : List Char) (anchor head : Nat) :
    clearRest ⟨text, anchor, head⟩ = backspaced ⟨text, anchor, lineEnd text head⟩ :=
  congrArg backspaced (extend_lineEnd ⟨text, anchor, head⟩)

theorem clearRest_of_lt {text : List Char} {pos : Nat} (inside : pos < lineEnd text pos) :
    clearRest ⟨text, pos, pos⟩ = ⟨text.take pos ++ text.drop (lineEnd text pos), pos, pos⟩ := by
  rw [clearRest_eq, backspaced_of_lt (d := ⟨text, pos, lineEnd text pos⟩) inside, splice, List.append_nil]
  rfl

theorem clearRest_of_eq {text : List Char} {pos : Nat} (last : lineEnd text pos = pos) :
    clearRest ⟨text, pos, pos⟩ = ⟨text.take (pos - 1) ++ text.drop pos, pos - 1, pos - 1⟩ := by
  rw [clearRest_eq, last, backspaced_of_caret (d := ⟨text, pos, pos⟩) rfl, splice, List.append_nil]
  rfl

theorem head_clearRest_le {text : List Char} {pos : Nat} (within : pos ≤ text.length) :
    (clearRest ⟨text, pos, pos⟩).head ≤ pos := by
  rcases Nat.lt_or_eq_of_le (le_lineEnd within) with inside | last
  · exact Nat.le_of_eq (congrArg Draft.head (clearRest_of_lt inside))
  · rw [clearRest_of_eq last.symm]
    exact Nat.sub_le pos 1

theorem text_clearRest_of_caret {text : List Char} {pos : Nat} (within : pos ≤ text.length) :
    (clearRest ⟨text, pos, pos⟩).text = text.take pos ++ text.drop (lineEnd text pos) ↔
      pos = 0 ∨ pos < lineEnd text pos := by
  rcases Nat.lt_or_eq_of_le (le_lineEnd within) with inside | last
  · rw [clearRest_of_lt inside]
    exact iff_of_true rfl (.inr inside)
  · rw [clearRest_of_eq last.symm, ← last]
    constructor
    · intro same
      have shorter := congrArg List.length same
      rw [Text.length_take_append_drop within,
        Text.length_take_append_drop (Nat.le_trans (Nat.sub_le pos 1) within)] at shorter
      omega
    · rintro (rfl | beyond)
      · rfl
      · exact absurd beyond (Nat.lt_irrefl pos)

/-- From a caret the rest of the line goes and nothing else, unless there is no rest and something before. -/
theorem clearRest_eq_iff {text : List Char} {pos : Nat} (within : pos ≤ text.length) :
    clearRest ⟨text, pos, pos⟩ = ⟨text.take pos ++ text.drop (lineEnd text pos), pos, pos⟩ ↔
      pos = 0 ∨ pos < lineEnd text pos := by
  constructor
  · intro same
    exact (text_clearRest_of_caret within).mp (congrArg Draft.text same)
  · rintro (rfl | inside)
    · rcases Nat.lt_or_eq_of_le (le_lineEnd within) with inside | last
      · exact clearRest_of_lt inside
      · rw [clearRest_of_eq last.symm, ← last]
    · exact clearRest_of_lt inside

/-! ## From a block -/

/-- A block made rightwards over a newline has its head on the next line, which then goes. -/
theorem text_clearRest_of_right {text : List Char} {pos : Nat} (within : pos + 1 ≤ text.length) :
    (clearRest ⟨text, pos, pos + 1⟩).text = text.take pos ++ text.drop (lineEnd text pos) ↔
      pos < lineEnd text pos := by
  have before : pos < lineEnd text (pos + 1) := le_lineEnd within
  rw [clearRest_eq, backspaced_of_lt (d := ⟨text, pos, lineEnd text (pos + 1)⟩) before, splice,
    List.append_nil]
  dsimp only
  constructor
  · intro same
    have shorter := congrArg List.length same
    have start := Nat.le_of_succ_le within
    rw [Text.length_take_append_drop start, Text.length_take_append_drop start] at shorter
    omega
  · intro inside
    rw [lineEnd_succ inside]

/-- A block made leftwards keeps its character and, unless that is the last one of its line, the rest goes
without it. -/
theorem text_clearRest_of_left {text : List Char} {pos : Nat} (within : pos + 1 ≤ text.length) :
    (clearRest ⟨text, pos + 1, pos⟩).text = text.take pos ++ text.drop (lineEnd text pos) ↔
      lineEnd text pos = pos + 1 := by
  have start := Nat.le_of_succ_le within
  rw [clearRest_eq]
  rcases Nat.lt_trichotomy (lineEnd text pos) (pos + 1) with newline | last | inside
  · have own : lineEnd text pos = pos := Nat.le_antisymm (Nat.le_of_lt_succ newline) (le_lineEnd start)
    rw [own, backspaced_of_gt (d := ⟨text, pos + 1, pos⟩) (Nat.lt_succ_self pos), splice, List.append_nil]
    dsimp only
    refine iff_of_false (fun same => ?_) (Nat.ne_of_lt (Nat.lt_succ_self pos))
    have shorter := congrArg List.length same
    rw [Text.length_take_append_drop start, Text.length_take_append_drop start] at shorter
    omega
  · rw [last, backspaced_of_caret (d := ⟨text, pos + 1, pos + 1⟩) rfl, splice, List.append_nil]
    exact iff_of_true rfl rfl
  · rw [backspaced_of_lt (d := ⟨text, pos + 1, lineEnd text pos⟩) inside, splice, List.append_nil]
    dsimp only
    refine iff_of_false (fun same => ?_) (Nat.ne_of_gt inside)
    have longer := congrArg List.length same
    have ends := Text.lineEnd_le_length text pos
    rw [Text.length_take_append_drop start, Text.length_take_append_drop within] at longer
    omega

/-- A selection of at most one character is a caret, or a block made rightwards or leftwards. -/
theorem exists_of_block {d : Draft} (block : d.selection.length ≤ 1) :
    ∃ text pos, d = ⟨text, pos, pos⟩ ∨ d = ⟨text, pos, pos + 1⟩ ∨ d = ⟨text, pos + 1, pos⟩ := by
  obtain ⟨text, anchor, head⟩ := d
  refine ⟨text, min anchor head, ?_⟩
  simp only [selection, start, stop] at block
  simp only [mk.injEq, true_and]
  omega

theorem start_caret (text : List Char) (pos : Nat) : start ⟨text, pos, pos⟩ = pos := Nat.min_self pos

theorem start_right (text : List Char) (pos : Nat) : start ⟨text, pos, pos + 1⟩ = pos :=
  Nat.min_eq_left (Nat.le_succ pos)

theorem start_left (text : List Char) (pos : Nat) : start ⟨text, pos + 1, pos⟩ = pos :=
  Nat.min_eq_right (Nat.le_succ pos)

/-- When clearing takes the rest of the cursor's line and nothing else. A block made rightwards must not
lie on a newline, one made leftwards must be the last character of its line, and a caret must have
something after it on its line or nothing before it at all. -/
def DeletesRest (d : Draft) : Prop :=
  if d.anchor < d.head then d.start < lineEnd d.text d.start
  else if d.head < d.anchor then lineEnd d.text d.start = d.start + 1
  else d.start = 0 ∨ d.start < lineEnd d.text d.start

instance (d : Draft) : Decidable d.DeletesRest :=
  inferInstanceAs (Decidable (if d.anchor < d.head then _ else if d.head < d.anchor then _ else _))

theorem text_clearRest_iff {d : Draft} (bounds : d.InBounds) (block : d.selection.length ≤ 1) :
    d.clearRest.text = d.text.take d.start ++ d.text.drop (lineEnd d.text d.start) ↔ d.DeletesRest := by
  obtain ⟨text, pos, rfl | rfl | rfl⟩ := exists_of_block block
  · simp only [DeletesRest, start_caret, Nat.lt_irrefl, ↓reduceIte]
    exact text_clearRest_of_caret bounds.head
  · simp only [DeletesRest, start_right, Nat.lt_succ_self, ↓reduceIte]
    exact text_clearRest_of_right bounds.head
  · have backwards : ¬ pos + 1 < pos := Nat.not_lt.mpr (Nat.le_succ pos)
    simp only [DeletesRest, start_left, backwards, Nat.lt_succ_self, ↓reduceIte]
    exact text_clearRest_of_left bounds.anchor

/-- From a caret not behind `pos`, what is on the line from `pos` on goes only if the caret is there. -/
theorem clearRest_eq_at_iff {text : List Char} {caret pos : Nat} (before : caret ≤ pos)
    (within : pos ≤ text.length) :
    clearRest ⟨text, caret, caret⟩ = ⟨text.take pos ++ text.drop (lineEnd text pos), pos, pos⟩ ↔
      caret = pos ∧ (pos = 0 ∨ pos < lineEnd text pos) := by
  by_cases here : caret = pos
  · rw [here, clearRest_eq_iff within, and_iff_right rfl]
  · refine iff_of_false (fun same => ?_) (fun both => here both.1)
    have head : (clearRest ⟨text, caret, caret⟩).head = pos := congrArg Draft.head same
    have bound := head_clearRest_le (Nat.le_trans before within)
    omega

def leftward (d : Draft) : Nat := if d.hasSelection then d.start else d.start - 1

theorem leftward_le (d : Draft) : d.leftward ≤ d.start := by
  unfold leftward
  split
  · exact Nat.le_refl _
  · exact Nat.sub_le _ 1

theorem move_left {d : Draft} (bounds : d.InBounds) :
    d.move (.left .char) false = ⟨d.text, d.leftward, d.leftward⟩ := by
  have within := Nat.le_trans d.leftward_le (start_le_length bounds)
  have target : d.target (.left .char) false = d.leftward := by
    unfold target leftward
    cases selected : d.hasSelection with
    | true => rfl
    | false =>
        have caret : d.IsCaret := TextField.isCaret_of_not_hasSelection (by rw [selected]; nofun)
        have here : d.start = d.head := by rw [start, caret, Nat.min_self]
        rw [here]
        rfl
  simp only [move, moveTo, target, Nat.min_eq_left within]
  rfl

/-- When a change of the rest of the line leaves the rest of the text and the caret at the cursor: from a
block that does not lie on a newline, or from the start of the text. -/
def ChangesRest (d : Draft) : Prop :=
  d.start = 0 ∨ d.hasSelection = true ∧ d.start < lineEnd d.text d.start

instance (d : Draft) : Decidable d.ChangesRest := inferInstanceAs (Decidable (_ ∨ _ ∧ _))

theorem changeRest_iff {d : Draft} (bounds : d.InBounds) :
    (d.move (.left .char) false).clearRest =
        ⟨d.text.take d.start ++ d.text.drop (lineEnd d.text d.start), d.start, d.start⟩ ↔
      d.ChangesRest := by
  have here : d.leftward = d.start ↔ d.hasSelection = true ∨ d.start = 0 := by
    unfold leftward
    split
    · next selected => exact iff_of_true rfl (.inl selected)
    · next unselected =>
        rw [or_iff_right unselected]
        omega
  rw [move_left bounds, clearRest_eq_at_iff d.leftward_le (start_le_length bounds), here, ChangesRest]
  constructor
  · rintro ⟨selected | first, rest⟩
    · exact rest.imp_right fun inside => ⟨selected, inside⟩
    · exact .inl first
  · rintro (first | ⟨selected, inside⟩)
    · exact ⟨.inr first, .inl first⟩
    · exact ⟨.inl selected, .inr inside⟩

/-- When a change of the line leaves the other lines and the caret at the start of an empty line: from a
block on a line with anything on it, from a caret behind the start of its line, or on the first line. -/
def ChangesLine (d : Draft) : Prop :=
  lineStart d.text d.start = 0 ∨
    lineStart d.text d.start < if d.hasSelection then lineEnd d.text d.start else d.start

instance (d : Draft) : Decidable d.ChangesLine := inferInstanceAs (Decidable (_ ∨ _ < _))

theorem changeLine_iff {d : Draft} (bounds : d.InBounds) :
    let first := lineStart d.text d.start
    ((d.move (.left .char) false).move (.left .line) false).clearRest =
        ⟨d.text.take first ++ d.text.drop (lineEnd d.text d.start), first, first⟩ ↔
      d.ChangesLine := by
  intro first
  have within := start_le_length bounds
  have start : first ≤ d.start := lineStart_le d.text d.start
  have stop : d.start ≤ lineEnd d.text d.start := le_lineEnd within
  have near : lineStart d.text (d.start - 1) = first ∨ first = d.start := Text.lineStart_pred within
  have above := lineStart_le d.text (d.start - 1)
  have before : lineStart d.text d.leftward ≤ first := by
    unfold leftward
    split
    · exact Nat.le_refl _
    · omega
  rw [← lineEnd_lineStart within, move_left bounds, move_lineStart,
    clearRest_eq_at_iff before (Nat.le_trans start within), lineEnd_lineStart within, ChangesLine, leftward]
  split
  · exact and_iff_right rfl
  · constructor
    · omega
    · omega

end Draft

namespace TextField

theorem draft_clearRest (f : TextField) :
    (Control.injectAll f [.commandShift .right, .plain .backspace]).draft = f.draft.clearRest := by
  change (Control.inject (Control.inject f (.commandShift .right)) (.plain .backspace)).draft = _
  rw [draft_backspace, draft_inject_of_move f rfl]
  rfl

end TextField

end ModalKeys
