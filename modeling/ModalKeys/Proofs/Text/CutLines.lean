import ModalKeys.Proofs.Text.Lines

/-!
# Cutting lines out

A line is cut out from its start through its newline. Where there is no line left, the newline before
goes, and with it the line above joins in: cutting on is no longer the same as dropping lines.
-/

namespace ModalKeys.Text

/-- Cuts out the line of an offset. Where there is nothing to cut, the newline before it goes. -/
def cutLine (text : List Char) (pos : Nat) : List Char × Nat :=
  let start := lineStart text pos
  let stop := nextLine text start
  if start < stop then (text.take start ++ text.drop stop, start)
  else (text.take (start - 1) ++ text.drop start, start - 1)

def cutLines : Nat → List Char × Nat → List Char × Nat
  | 0, state => state
  | count + 1, state => cutLines count (cutLine state.1 state.2)

theorem cutLine_of_lt {text : List Char} {pos : Nat} (before : lineStart text pos < text.length) :
    cutLine text pos =
      (text.take (lineStart text pos) ++ dropLine (text.drop (lineStart text pos)), lineStart text pos) := by
  have within := Nat.le_of_lt before
  have later : lineStart text pos < nextLine text (lineStart text pos) := by
    have stop := le_lineEnd within
    rw [nextLine]
    omega
  rw [cutLine, if_pos later, drop_nextLine within]

theorem cutLine_of_end {text : List Char} {pos : Nat} (last : lineStart text pos = text.length) :
    cutLine text pos = (text.dropLast, text.length - 1) := by
  have same : ¬ text.length < nextLine text text.length := Nat.not_lt.mpr (nextLine_le _ _)
  rw [cutLine, last, if_neg same, List.drop_length, List.append_nil, List.dropLast_eq_take]

theorem cutLine_lineStart (text : List Char) (pos : Nat) :
    cutLine text (lineStart text pos) = cutLine text pos := by
  rw [cutLine, cutLine, lineStart_lineStart]

theorem cutLines_add (first second : Nat) (state : List Char × Nat) :
    cutLines (first + second) state = cutLines second (cutLines first state) := by
  induction first generalizing state with
  | zero => rw [Nat.zero_add, cutLines]
  | succ first ih => rw [Nat.succ_add, cutLines, ih, cutLines]

/-- As long as there are lines left, they go one after the other. -/
theorem cutLines_of_le {front back : List Char} (whole : WholeLines front) {count : Nat}
    (enough : count ≤ lineCount back) :
    cutLines count (front ++ back, front.length) = (front ++ dropLines count back, front.length) := by
  induction count generalizing back with
  | zero => rfl
  | succ count ih =>
      have nonempty : back ≠ [] := by
        rintro rfl
        exact absurd enough (Nat.not_succ_le_zero _)
      have start := lineStart_length whole back
      have before : lineStart (front ++ back) front.length < (front ++ back).length := by
        rw [start, List.length_append]
        exact Nat.lt_add_of_pos_right (List.length_pos_iff.mpr nonempty)
      rw [lineCount_dropLine nonempty] at enough
      rw [cutLines, cutLine_of_lt before, start, List.take_left, List.drop_left,
        ih (Nat.le_of_succ_le_succ enough)]
      rfl

/-- When all lines are gone, what is cut next is at the end. -/
theorem cutLines_lineCount_add {front : List Char} (whole : WholeLines front) (back : List Char)
    (more : Nat) :
    cutLines (lineCount back + more) (front ++ back, front.length) = cutLines more (front, front.length) := by
  rw [cutLines_add, cutLines_of_le whole (Nat.le_refl _), dropLines_of_lineCount_le (Nat.le_refl _),
    List.append_nil]

theorem cutLines_nil (count : Nat) : cutLines count ([], 0) = ([], 0) := by
  induction count with
  | zero => rfl
  | succ count ih => exact ih

theorem length_cutLines_le (count : Nat) (state : List Char × Nat) :
    (cutLines count state).1.length ≤ state.1.length := by
  induction count generalizing state with
  | zero => exact Nat.le_refl _
  | succ count ih =>
      refine Nat.le_trans (ih _) ?_
      rw [cutLine]
      split <;> simp only [List.length_append, List.length_take, List.length_drop] <;> omega

/-- With no line left, the newline before goes first. -/
theorem cutLines_succ_of_end {front : List Char} (whole : WholeLines front) (count : Nat) :
    cutLines (count + 1) (front, front.length) = cutLines count (front.dropLast, front.length - 1) := by
  have start := lineStart_length whole []
  rw [List.append_nil] at start
  rw [cutLines, cutLine_of_end start]

theorem cutLines_shorter {front : List Char} (whole : WholeLines front) (nonempty : front ≠ [])
    (count : Nat) : (cutLines (count + 1) (front, front.length)).1.length < front.length := by
  rw [cutLines_succ_of_end whole]
  have bound := length_cutLines_le count (front.dropLast, front.length - 1)
  have positive := List.length_pos_iff.mpr nonempty
  simp only [List.length_dropLast] at bound
  omega

/-- Cutting past the last line only leaves alone what there is if that is nothing. -/
theorem cutLines_end_eq_iff {front : List Char} (whole : WholeLines front) (count : Nat) :
    (cutLines (count + 1) (front, front.length)).1 = front ↔ front = [] := by
  constructor
  · intro same
    by_cases nonempty : front = []
    · exact nonempty
    · have shorter := cutLines_shorter whole nonempty count
      rw [same] at shorter
      exact absurd shorter (Nat.lt_irrefl _)
  · rintro rfl
    exact congrArg Prod.fst (cutLines_nil (count + 1))

theorem cutLines_succ_lineStart (count : Nat) (text : List Char) (pos : Nat) :
    cutLines (count + 1) (text, lineStart text pos) = cutLines (count + 1) (text, pos) := by
  rw [cutLines, cutLines, cutLine_lineStart]

/-- From the start of a line, the lines below go unless there are too few of them. -/
theorem cutLines_lineStart_eq_iff {front : List Char} (whole : WholeLines front) (back : List Char)
    (count : Nat) :
    (cutLines count (front ++ back, front.length)).1 = front ++ dropLines count back ↔
      count ≤ lineCount back ∨ front = [] := by
  by_cases enough : count ≤ lineCount back
  · rw [cutLines_of_le whole enough]
    constructor
    · intro _
      exact .inl enough
    · intro _
      rfl
  · have beyond := Nat.lt_of_not_le enough
    obtain ⟨more, rfl⟩ := Nat.exists_eq_add_of_lt beyond
    have emptied := dropLines_of_lineCount_le (Nat.le_of_lt beyond)
    rw [emptied, List.append_nil, Nat.add_assoc, cutLines_lineCount_add whole, cutLines_end_eq_iff whole]
    constructor
    · exact .inr
    · intro either
      exact either.resolve_left enough

/-- A line put before what is left of a text gives the text back if the text begins with that line. -/
theorem line_dropLine_eq_iff {line : List Char} (unbroken : '\n' ∉ line) (text : List Char) :
    line ++ '\n' :: dropLine text = text ↔ text.take (line.length + 1) = line ++ ['\n'] := by
  have width : (line ++ ['\n']).length = line.length + 1 := List.length_append
  constructor
  · intro same
    rw [← same, List.append_cons, ← width, List.take_left]
  · intro begins
    have parts := List.take_append_drop (line.length + 1) text
    rw [begins, List.append_assoc, List.singleton_append] at parts
    rw [← parts, dropLine_append unbroken, dropLine_newline]

/-- The last line of a text goes at one cut. None is enough if it is empty, and a second is too many. -/
theorem cutLines_lastLine_eq_iff {front line : List Char} (whole : WholeLines front)
    (unbroken : '\n' ∉ line) (count : Nat) :
    (cutLines count (front ++ line, front.length + line.length)).1 = front ↔
      count = 0 ∧ line = [] ∨ count = 1 ∧ line ≠ [] ∨ front = [] ∧ 0 < count := by
  have start := lineStart_append whole unbroken []
  rw [List.append_nil] at start
  have single := dropLine_append unbroken []
  rw [List.append_nil, dropLine_nil] at single
  cases count with
  | zero =>
      rw [cutLines, List.append_right_eq_self]
      constructor
      · intro nothing
        exact .inl ⟨rfl, nothing⟩
      · rintro (⟨_, nothing⟩ | ⟨one, _⟩ | ⟨_, positive⟩)
        · exact nothing
        · cases one
        · exact absurd positive (Nat.lt_irrefl 0)
  | succ count =>
      have emptied : dropLines (count + 1) line = [] := by rw [dropLines, single, dropLines_nil]
      have below := cutLines_lineStart_eq_iff whole line (count + 1)
      rw [emptied, List.append_nil, ← start, cutLines_succ_lineStart] at below
      have last : count + 1 ≤ lineCount line ↔ count = 0 ∧ line ≠ [] := by
        by_cases nothing : line = []
        · subst nothing
          simp [lineCount]
        · rw [lineCount_dropLine nothing, single]
          simp [lineCount, nothing]
      rw [below, last]
      simp

/-- From the start of the next line, the line itself stays. The outcome is the same where the lines
that go look alike, and where running out of lines makes up for the difference. -/
theorem cutLines_nextLine_eq_iff {front line : List Char} (whole : WholeLines front)
    (unbroken : '\n' ∉ line) (back : List Char) (count : Nat) :
    (cutLines (count + 1) (front ++ (line ++ '\n' :: back), front.length + line.length + 1)).1 =
        front ++ dropLines count back ↔
      (dropLines count back).take (line.length + 1) = line ++ ['\n'] ∨
        count = lineCount back ∧ line = [] ∨ count = lineCount back + 1 ∧ line ≠ [] ∨
        front = [] ∧ lineCount back < count := by
  have upper : WholeLines (front ++ line ++ ['\n']) := .inr ⟨front ++ line, rfl⟩
  have place : front.length + line.length + 1 = (front ++ line ++ ['\n']).length := by
    simp only [List.length_append, List.length_singleton]
  have parts : front ++ (line ++ '\n' :: back) = front ++ line ++ ['\n'] ++ back := by
    simp only [List.append_assoc, List.singleton_append]
  rw [parts, place]
  by_cases enough : count + 1 ≤ lineCount back
  · rw [cutLines_of_le upper enough, dropLines_succ, List.append_assoc, List.append_assoc,
      List.singleton_append, List.append_cancel_left_eq, line_dropLine_eq_iff unbroken]
    constructor
    · exact .inl
    · rintro (begins | ⟨rfl, _⟩ | ⟨rfl, _⟩ | ⟨_, beyond⟩)
      · exact begins
      all_goals omega
  · obtain ⟨more, rfl⟩ := Nat.exists_eq_add_of_le (Nat.le_of_lt_succ (Nat.lt_of_not_le enough))
    have differs : [] ≠ line ++ ['\n'] := by simp
    rw [dropLines_of_lineCount_le (Nat.le_add_right _ _), List.take_nil, List.append_nil, Nat.add_assoc,
      cutLines_lineCount_add upper, cutLines_succ_of_end upper, ← place, List.dropLast_concat,
      Nat.add_sub_cancel, cutLines_lastLine_eq_iff whole unbroken, Nat.add_eq_left,
      Nat.add_left_cancel_iff, Nat.lt_add_right_iff_pos, or_iff_right differs]

/-- When `count` lines cut out at `head` are those from the line of `pos` on. On that line, there must be
as many lines or nothing above. On the line below, it takes chance: the line that stays looks like the
one that should, or the lines run out just in time. -/
def CutsFrom (text : List Char) (pos head count : Nat) : Prop :=
  let start := lineStart text pos
  let first := lineStart text head
  let left := lineCount (text.drop first)
  if first = start then count ≤ left ∨ start = 0
  else
    (text.drop (lineAfter text start count)).take (first - start) = (text.drop start).take (first - start) ∨
      count = left + 1 ∧ pos = start ∨ count = left + 2 ∧ start < pos ∨ start = 0 ∧ left + 1 < count

instance (text : List Char) (pos head count : Nat) : Decidable (CutsFrom text pos head count) :=
  inferInstanceAs (Decidable (if _ = _ then _ else _))

theorem cutLines_eq_iff_of_sameLine {text : List Char} {pos head : Nat}
    (same : lineStart text head = lineStart text pos) (count : Nat) :
    (cutLines (count + 1) (text, head)).1 =
        text.take (lineStart text pos) ++ text.drop (lineAfter text (lineStart text pos) (count + 1)) ↔
      CutsFrom text pos head (count + 1) := by
  obtain ⟨front, back, whole, parts, start⟩ := exists_append_lineStart text pos
  have within : front.length ≤ text.length := start ▸ lineStart_le_length text pos
  rw [← cutLines_succ_lineStart, CutsFrom]
  simp only [same, ↓reduceIte]
  rw [start, drop_lineAfter within, parts, List.take_left, List.drop_left,
    cutLines_lineStart_eq_iff whole, List.length_eq_zero_iff]

theorem cutLines_eq_iff_of_nextLine {text : List Char} {pos : Nat} (within : pos + 1 ≤ text.length)
    (moves : lineStart text (pos + 1) ≠ lineStart text pos) (count : Nat) :
    (cutLines (count + 1) (text, pos + 1)).1 =
        text.take (lineStart text pos) ++ text.drop (lineAfter text (lineStart text pos) (count + 1)) ↔
      CutsFrom text pos (pos + 1) (count + 1) := by
  obtain ⟨front, line, back, whole, unbroken, parts, place, start, next⟩ :=
    exists_newline_of_lineStart_succ within moves
  have inside : front.length ≤ text.length := start ▸ lineStart_le_length text pos
  have own : text.drop front.length = line ++ '\n' :: back := by rw [parts, List.drop_left]
  have width : (line ++ ['\n']).length = line.length + 1 := List.length_append
  have lower : text.drop (pos + 1) = back := by
    rw [place, Nat.add_assoc, ← List.drop_drop, own, List.append_cons, ← width, List.drop_left]
  have upper : (line ++ '\n' :: back).take (line.length + 1) = line ++ ['\n'] := by
    rw [List.append_cons, ← width, List.take_left]
  have passed : dropLines (count + 1) (line ++ '\n' :: back) = dropLines count back := by
    rw [dropLines, dropLine_append unbroken, dropLine_newline]
  have span : pos + 1 - front.length = line.length + 1 := by
    rw [place, Nat.add_assoc, Nat.add_sub_cancel_left]
  have short : pos = front.length ↔ line = [] := by
    rw [place, Nat.add_eq_left, List.length_eq_zero_iff]
  have long : front.length < pos ↔ line ≠ [] := by
    rw [place, Nat.lt_add_right_iff_pos, List.length_pos_iff]
  rw [CutsFrom]
  simp only [moves, ↓reduceIte]
  rw [next, start, drop_lineAfter inside, own, passed, lower, span, upper,
    short, long, List.length_eq_zero_iff, Nat.add_right_cancel_iff, Nat.add_right_cancel_iff,
    Nat.add_lt_add_iff_right, parts, List.take_left, place, cutLines_nextLine_eq_iff whole unbroken]

/-- Cutting at the offset of a cursor or at the one behind it. -/
theorem cutLines_eq_iff {text : List Char} {pos head count : Nat} (near : head = pos ∨ head = pos + 1)
    (within : head ≤ text.length) (positive : 1 ≤ count) :
    (cutLines count (text, head)).1 =
        text.take (lineStart text pos) ++ text.drop (lineAfter text (lineStart text pos) count) ↔
      CutsFrom text pos head count := by
  obtain ⟨more, rfl⟩ := Nat.exists_eq_add_of_le' positive
  by_cases same : lineStart text head = lineStart text pos
  · exact cutLines_eq_iff_of_sameLine same more
  · rcases near with rfl | rfl
    · exact absurd rfl same
    · exact cutLines_eq_iff_of_nextLine within same more

/-- Two lines from the last one on: there is only one, and the newline above is not spared. -/
example : ¬ CutsFrom "one\ntwo".toList 4 5 2 := by decide

end ModalKeys.Text
