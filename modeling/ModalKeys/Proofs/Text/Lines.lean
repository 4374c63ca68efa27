import ModalKeys.Text.Line

/-!
# Lines and what comes after them

A text up to the start of a line is a number of whole lines; from there on, lines can be dropped one at
a time.
-/

namespace ModalKeys.Text

theorem notNewline_iff {c : Char} : notNewline c = true ↔ c ≠ '\n' := bne_iff_ne

def nextLine (text : List Char) (pos : Nat) : Nat := min (lineEnd text pos + 1) text.length

def lineAfter (text : List Char) (pos : Nat) : Nat → Nat
  | 0 => pos
  | count + 1 => lineAfter text (nextLine text pos) count

def dropLine (text : List Char) : List Char := (text.dropWhile notNewline).drop 1

def dropLines : Nat → List Char → List Char
  | 0, text => text
  | count + 1, text => dropLines count (dropLine text)

/-- How many lines there are, not counting an empty one after the last newline. -/
def lineCount : List Char → Nat
  | [] => 0
  | c :: rest => if c = '\n' ∨ rest = [] then lineCount rest + 1 else lineCount rest

@[simp] theorem dropLine_nil : dropLine [] = [] := rfl

theorem dropLine_newline (rest : List Char) : dropLine ('\n' :: rest) = rest := rfl

theorem dropLine_cons {c : Char} (inside : c ≠ '\n') (rest : List Char) :
    dropLine (c :: rest) = dropLine rest := by
  rw [dropLine, List.dropWhile_cons_of_pos (notNewline_iff.mpr inside), dropLine]

theorem dropLine_append {line : List Char} (unbroken : '\n' ∉ line) (rest : List Char) :
    dropLine (line ++ rest) = dropLine rest := by
  induction line with
  | nil => rfl
  | cons c line ih =>
      have inside : c ≠ '\n' := fun same => unbroken (same ▸ List.mem_cons_self)
      rw [List.cons_append, dropLine_cons inside, ih fun later => unbroken (List.mem_cons_of_mem _ later)]

@[simp] theorem dropLines_nil (count : Nat) : dropLines count [] = [] := by
  induction count with
  | zero => rfl
  | succ count ih => exact ih

theorem lineCount_dropLine {text : List Char} (nonempty : text ≠ []) :
    lineCount text = lineCount (dropLine text) + 1 := by
  induction text with
  | nil => exact absurd rfl nonempty
  | cons c rest ih =>
      by_cases newline : c = '\n'
      · rw [newline, dropLine_newline, lineCount, if_pos (.inl rfl)]
      · rw [dropLine_cons newline, lineCount]
        by_cases last : rest = []
        · rw [if_pos (.inr last), last]
          rfl
        · rw [if_neg (by simp [newline, last]), ih last]

theorem lineCount_pos {text : List Char} (nonempty : text ≠ []) : 0 < lineCount text := by
  rw [lineCount_dropLine nonempty]
  exact Nat.succ_pos _

theorem dropLines_of_lineCount_le {text : List Char} {count : Nat} (enough : lineCount text ≤ count) :
    dropLines count text = [] := by
  induction count generalizing text with
  | zero =>
      by_cases nonempty : text = []
      · exact nonempty
      · exact absurd enough (Nat.not_le.mpr (lineCount_pos nonempty))
  | succ count ih =>
      by_cases nonempty : text = []
      · rw [nonempty, dropLines_nil]
      · rw [lineCount_dropLine nonempty] at enough
        exact ih (Nat.le_of_succ_le_succ enough)

theorem dropLines_succ (count : Nat) (text : List Char) :
    dropLines (count + 1) text = dropLine (dropLines count text) := by
  induction count generalizing text with
  | zero => rfl
  | succ count ih => exact ih (dropLine text)

theorem drop_length_takeWhile (p : Char → Bool) (text : List Char) :
    text.drop (text.takeWhile p).length = text.dropWhile p := by
  induction text with
  | nil => rfl
  | cons c rest ih =>
      cases holds : p c with
      | true => simpa [holds] using ih
      | false => simp [holds]

theorem nextLine_le (text : List Char) (pos : Nat) : nextLine text pos ≤ text.length :=
  Nat.min_le_right _ _

theorem drop_nextLine {text : List Char} {pos : Nat} (within : pos ≤ text.length) :
    text.drop (nextLine text pos) = dropLine (text.drop pos) := by
  have cut : text.drop (nextLine text pos) = text.drop (lineEnd text pos + 1) := by
    rw [nextLine]
    by_cases short : lineEnd text pos + 1 ≤ text.length
    · rw [Nat.min_eq_left short]
    · have long := Nat.le_of_lt (Nat.lt_of_not_le short)
      rw [Nat.min_eq_right long, List.drop_length, List.drop_of_length_le long]
  rw [cut, lineEnd, Nat.min_eq_left within, dropLine, ← drop_length_takeWhile, List.drop_drop,
    List.drop_drop, Nat.add_assoc]

theorem drop_lineAfter {text : List Char} {pos : Nat} (within : pos ≤ text.length) (count : Nat) :
    text.drop (lineAfter text pos count) = dropLines count (text.drop pos) := by
  induction count generalizing pos with
  | zero => rfl
  | succ count ih =>
      rw [lineAfter, ih (nextLine_le text pos), drop_nextLine within]
      rfl

theorem le_lineEnd {text : List Char} {pos : Nat} (within : pos ≤ text.length) :
    pos ≤ lineEnd text pos := by
  rw [lineEnd, Nat.min_eq_left within]
  exact Nat.le_add_right _ _

theorem lineEnd_le_length (text : List Char) (pos : Nat) : lineEnd text pos ≤ text.length := by
  have short := (List.takeWhile_sublist notNewline (l := text.drop pos)).length_le
  rw [List.length_drop] at short
  rw [lineEnd]
  omega

theorem le_nextLine {text : List Char} {pos : Nat} (within : pos ≤ text.length) :
    pos ≤ nextLine text pos :=
  Nat.le_min.mpr ⟨Nat.le_succ_of_le (le_lineEnd within), within⟩

/-! ## Line starts -/

/-- A number of whole lines, each with its newline. -/
def WholeLines (text : List Char) : Prop := text = [] ∨ ∃ before, text = before ++ ['\n']

theorem dropWhile_reverse_of_wholeLines {front : List Char} (whole : WholeLines front) :
    front.reverse.dropWhile notNewline = front.reverse := by
  rcases whole with rfl | ⟨before, rfl⟩
  · rfl
  · rw [List.reverse_append]
    rfl

theorem lineStart_append {front line : List Char} (whole : WholeLines front) (unbroken : '\n' ∉ line)
    (rest : List Char) :
    lineStart (front ++ (line ++ rest)) (front.length + line.length) = front.length := by
  have taken : (front ++ (line ++ rest)).take (front.length + line.length) = front ++ line := by
    rw [← List.append_assoc, ← List.length_append, List.take_left]
  have skipped : (line.reverse ++ front.reverse).dropWhile notNewline = front.reverse := by
    rw [List.dropWhile_append_of_pos, dropWhile_reverse_of_wholeLines whole]
    intro c listed
    exact notNewline_iff.mpr fun same => unbroken (same ▸ List.mem_reverse.mp listed)
  rw [lineStart, taken, List.reverse_append, skipped, List.length_reverse]

/-- Before a line start there are whole lines, and after it comes a part of one line. -/
theorem exists_lineStart (text : List Char) (pos : Nat) :
    ∃ front line, WholeLines front ∧ '\n' ∉ line ∧ text.take pos = front ++ line ∧
      lineStart text pos = front.length := by
  have split := List.takeWhile_append_dropWhile (p := notNewline) (l := (text.take pos).reverse)
  refine ⟨((text.take pos).reverse.dropWhile notNewline).reverse,
    ((text.take pos).reverse.takeWhile notNewline).reverse, ?_, ?_, ?_, ?_⟩
  · cases stopped : (text.take pos).reverse.dropWhile notNewline with
    | nil => exact .inl rfl
    | cons c before =>
        have stop := List.head?_dropWhile_not notNewline (text.take pos).reverse
        rw [stopped] at stop
        have newline : c = '\n' := by
          by_cases same : c = '\n'
          · exact same
          · cases (notNewline_iff.mpr same).symm.trans stop
        rw [newline, List.reverse_cons]
        exact .inr ⟨before.reverse, rfl⟩
  · intro listed
    have passes := List.all_eq_true.mp List.all_takeWhile _ (List.mem_reverse.mp listed)
    exact notNewline_iff.mp passes rfl
  · rw [← List.reverse_append, split, List.reverse_reverse]
  · rw [lineStart, List.length_reverse]

theorem lineStart_length {front : List Char} (whole : WholeLines front) (rest : List Char) :
    lineStart (front ++ rest) front.length = front.length := by
  have unbroken : '\n' ∉ ([] : List Char) := List.not_mem_nil
  exact lineStart_append whole unbroken rest

/-- A line start divides the text. -/
theorem exists_append_lineStart (text : List Char) (pos : Nat) :
    ∃ front back, WholeLines front ∧ text = front ++ back ∧ lineStart text pos = front.length := by
  obtain ⟨front, line, whole, _, split, start⟩ := exists_lineStart text pos
  refine ⟨front, line ++ text.drop pos, whole, ?_, start⟩
  rw [← List.append_assoc, ← split, List.take_append_drop]

theorem lineStart_lineStart (text : List Char) (pos : Nat) :
    lineStart text (lineStart text pos) = lineStart text pos := by
  obtain ⟨front, back, whole, parts, start⟩ := exists_append_lineStart text pos
  rw [start, parts, lineStart_length whole]

/-- One offset further is another line only past a newline. -/
theorem exists_newline_of_lineStart_succ {text : List Char} {pos : Nat} (within : pos + 1 ≤ text.length)
    (moves : lineStart text (pos + 1) ≠ lineStart text pos) :
    ∃ front line back, WholeLines front ∧ '\n' ∉ line ∧ text = front ++ (line ++ '\n' :: back) ∧
      pos = front.length + line.length ∧ lineStart text pos = front.length ∧
      lineStart text (pos + 1) = pos + 1 := by
  obtain ⟨front, line, whole, unbroken, split, start⟩ := exists_lineStart text pos
  have place := congrArg List.length split
  rw [List.length_take_of_le (Nat.le_of_succ_le within), List.length_append] at place
  have parts : text = front ++ (line ++ text[pos] :: text.drop (pos + 1)) := by
    rw [← List.append_assoc, ← split, ← List.drop_eq_getElem_cons, List.take_append_drop]
  by_cases newline : text[pos] = '\n'
  · rw [newline] at parts
    refine ⟨front, line, text.drop (pos + 1), whole, unbroken, parts, place, start, ?_⟩
    have upper : WholeLines (front ++ (line ++ ['\n'])) :=
      .inr ⟨front ++ line, (List.append_assoc _ _ _).symm⟩
    have width : (front ++ (line ++ ['\n'])).length = pos + 1 := by
      simp only [List.length_append, List.length_singleton, place, Nat.add_assoc]
    have kept := lineStart_length upper (text.drop (pos + 1))
    rwa [width, List.append_assoc, List.append_assoc, List.singleton_append, ← parts] at kept
  · refine absurd ?_ moves
    have longer : '\n' ∉ line ++ [text[pos]] := by
      simp only [List.mem_append, List.mem_singleton, not_or]
      exact ⟨unbroken, Ne.symm newline⟩
    have kept := lineStart_append whole longer (text.drop (pos + 1))
    rw [List.append_assoc, List.singleton_append, ← parts, List.length_append, List.length_singleton,
      ← Nat.add_assoc, ← place] at kept
    rw [kept, start]

theorem lineStart_le_length (text : List Char) (pos : Nat) : lineStart text pos ≤ text.length := by
  obtain ⟨front, line, _, _, split, start⟩ := exists_lineStart text pos
  have taken := congrArg List.length split
  rw [List.length_append, List.length_take] at taken
  omega

theorem lineStart_le (text : List Char) (pos : Nat) : lineStart text pos ≤ pos := by
  have kept := (List.dropWhile_sublist notNewline (l := (text.take pos).reverse)).length_le
  rw [List.length_reverse] at kept
  exact Nat.le_trans kept (List.length_take_le pos text)

/-- One offset back is on the same line except from the start of a line. -/
theorem lineStart_pred {text : List Char} {pos : Nat} (within : pos ≤ text.length) :
    lineStart text (pos - 1) = lineStart text pos ∨ lineStart text pos = pos := by
  cases pos with
  | zero => exact .inl rfl
  | succ before =>
      by_cases moves : lineStart text (before + 1) = lineStart text before
      · exact .inl moves.symm
      · obtain ⟨_, _, _, _, _, _, _, _, start⟩ := exists_newline_of_lineStart_succ within moves
        exact .inr start

/-- Inside a line, going on leads to the same end. -/
theorem lineEnd_succ {text : List Char} {pos : Nat} (inside : pos < lineEnd text pos) :
    lineEnd text (pos + 1) = lineEnd text pos := by
  have within : pos < text.length := Nat.lt_of_lt_of_le inside (lineEnd_le_length text pos)
  have parts : text.drop pos = text[pos] :: text.drop (pos + 1) := List.drop_eq_getElem_cons within
  cases first : notNewline text[pos] with
  | false =>
      rw [lineEnd, parts, List.takeWhile_cons_of_neg (by rw [first]; nofun), List.length_nil] at inside
      omega
  | true =>
      rw [lineEnd, lineEnd, parts, List.takeWhile_cons_of_pos first, List.length_cons]
      omega

/-- A line ends where it ends from its start. -/
theorem lineEnd_lineStart {text : List Char} {pos : Nat} (within : pos ≤ text.length) :
    lineEnd text (lineStart text pos) = lineEnd text pos := by
  obtain ⟨front, line, _, unbroken, split, start⟩ := exists_lineStart text pos
  have place := congrArg List.length split
  rw [List.length_take_of_le within, List.length_append] at place
  have parts : text = front ++ (line ++ text.drop pos) := by
    rw [← List.append_assoc, ← split, List.take_append_drop]
  have own : text.drop front.length = line ++ text.drop pos :=
    (congrArg (List.drop front.length) parts).trans List.drop_left
  have passed : ∀ c ∈ line, notNewline c = true := by
    intro c listed
    exact notNewline_iff.mpr fun newline => unbroken (newline ▸ listed)
  rw [lineEnd, lineEnd, start, own, List.takeWhile_append_of_pos passed, List.length_append]
  omega

end ModalKeys.Text
