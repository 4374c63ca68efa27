import ModalKeys.Proofs.Command.LeadingCount
import ModalKeys.Proofs.Normal.Typing
import ModalKeys.Proofs.TextField.Caret

/-!
# Counts

A count is typed in decimal digits ahead of its command. As long as only digits have come the command
is pending, and then they read as the number that they spell.
-/

namespace ModalKeys

/-- The digits of a count. A count of one can be left out. -/
def SpellsCount (digits : List Char) (count : Nat) : Prop :=
  digits = Nat.toDigits 10 count ∨ digits = [] ∧ count = 1

theorem SpellsCount.isDigit {digits : List Char} {count : Nat} (spelled : SpellsCount digits count) :
    ∀ c ∈ digits, c.isDigit = true := by
  rcases spelled with rfl | ⟨rfl, _⟩
  · intro c listed
    exact Nat.isDigit_of_mem_toDigits (by decide) (by decide) listed
  · nofun

theorem digitValue?_singleton (c : Char) :
    digitValue? (String.singleton c) = if c.isDigit then some (c.toNat - '0'.toNat) else none := by
  rw [digitValue?, String.toList_singleton]

theorem isDigitKey_singleton (c : Char) : isDigitKey (String.singleton c) = c.isDigit := by
  rw [isDigitKey, digitValue?_singleton]
  cases c.isDigit <;> rfl

theorem filterMap_digitValue?_map {digits : List Char} (decimal : ∀ c ∈ digits, c.isDigit = true) :
    (digits.map String.singleton).filterMap digitValue? = digits.map fun c => c.toNat - '0'.toNat := by
  rw [List.filterMap_map, ← List.filterMap_eq_map]
  refine List.filterMap_congr fun c listed => ?_
  simp only [Function.comp_apply, digitValue?_singleton, decimal c listed, ↓reduceIte]

theorem isDigitKey_of_mem_map {digits : List Char} (decimal : ∀ c ∈ digits, c.isDigit = true) :
    ∀ key ∈ digits.map String.singleton, isDigitKey key = true := by
  intro key listed
  obtain ⟨c, found, rfl⟩ := List.mem_map.mp listed
  rw [isDigitKey_singleton, decimal c found]

/-- Digits in front of a key that is none have the value of their number. -/
theorem leadingValue_append {digits : List Char} (decimal : ∀ c ∈ digits, c.isDigit = true) {key : String}
    (other : isDigitKey key = false) (rest : List String) :
    leadingValue (digits.map String.singleton ++ key :: rest) = Nat.ofDigitChars 10 digits 0 := by
  have taken : (digits.map String.singleton ++ key :: rest).takeWhile isDigitKey =
      digits.map String.singleton := by
    rw [List.takeWhile_append_of_pos (isDigitKey_of_mem_map decimal),
      List.takeWhile_cons_of_neg (by rw [other]; nofun), List.append_nil]
  rw [leadingValue, ← filterMap_digitValue?, taken, filterMap_digitValue?_map decimal, ofDigits_reverse,
    List.foldl_map]
  rfl

theorem SpellsCount.getD_leadingCount? {digits : List Char} {count : Nat} (spelled : SpellsCount digits count)
    (positive : 1 ≤ count) (small : count ≤ countLimit) {key : String} (other : isDigitKey key = false)
    (rest : List String) :
    (leadingCount? (digits.map String.singleton ++ key :: rest)).getD 1 = count := by
  rw [leadingCount?_eq, leadingValue_append spelled.isDigit other]
  rcases spelled with rfl | ⟨rfl, rfl⟩
  · rw [Nat.ofDigitChars_ten_toDigits, Nat.min_eq_left small, if_neg (Nat.ne_of_gt positive)]
    rfl
  · rfl

/-- A count that is allowed is taken as it is spelled. -/
theorem SpellsCount.times_leadingCount? {digits : List Char} {count : Nat}
    (spelled : SpellsCount digits count) (positive : 1 ≤ count) {reader : CommandReader}
    (allowed : count ≤ reader.maxCount) (small : count ≤ countLimit) {key : String}
    (other : isDigitKey key = false) (rest : List String) (command : Command) :
    command.times
        (min ((leadingCount? (digits.map String.singleton ++ key :: rest)).getD 1) reader.maxCount) =
      ⟨command, count, positive⟩ := by
  rw [spelled.getD_leadingCount? positive small other]
  simp only [Command.times, Nat.min_eq_left allowed, Nat.max_eq_left positive]

namespace CommandReader

variable (reader : CommandReader) {digits : List Char} (decimal : ∀ c ∈ digits, c.isDigit = true)

include decimal

theorem read_digits : reader.read (digits.map String.singleton) = .pending := by
  have dropped : (digits.map String.singleton ++ []).dropWhile isDigitKey = [] :=
    List.dropWhile_append_of_pos (isDigitKey_of_mem_map decimal)
  rw [List.append_nil] at dropped
  rw [read, dropped]

theorem dropWhile_append {key : String} (other : isDigitKey key = false) (rest : List String) :
    (digits.map String.singleton ++ key :: rest).dropWhile isDigitKey = key :: rest := by
  rw [List.dropWhile_append_of_pos (isDigitKey_of_mem_map decimal),
    List.dropWhile_cons_of_neg (by rw [other]; nofun)]

theorem read_single {key : String} (other : isDigitKey key = false) {command : Command}
    (single : singleKey? key = some command) :
    reader.read (digits.map String.singleton ++ [key]) =
      .complete (command.times
        (min ((leadingCount? (digits.map String.singleton ++ [key])).getD 1) reader.maxCount)) := by
  rw [read, dropWhile_append decimal other]
  dsimp only
  rw [single]

theorem read_operator {key : String} (other : isDigitKey key = false) (single : singleKey? key = none)
    (operator : key ∈ operatorKeys) :
    reader.read (digits.map String.singleton ++ [key]) = .pending := by
  rw [read, dropWhile_append decimal other]
  dsimp only
  rw [single]
  exact if_pos operator

theorem read_doubled {key : String} (other : isDigitKey key = false) {command : Command}
    (doubled : doubleKey? key key = some command) :
    reader.read (digits.map String.singleton ++ [key, key]) =
      .complete (command.times
        (min ((leadingCount? (digits.map String.singleton ++ [key, key])).getD 1) reader.maxCount)) := by
  rw [read, dropWhile_append decimal other]
  dsimp only
  rw [doubled]

end CommandReader

namespace NormalMode

theorem exists_press_of_isDigit {c : Char} (decimal : c.isDigit = true) :
    ∃ press, KeyPress.ofChar? c = some press := by
  have typed : ∀ n < 58, 48 ≤ n → (KeyPress.ofChar? (Char.ofNat n)).isSome = true := by decide
  obtain ⟨low, high⟩ := Char.isDigit_iff_toNat.mp decimal
  have found := typed c.toNat (Nat.lt_succ_of_le high) low
  rw [Char.ofNat_toNat] at found
  exact Option.isSome_iff_exists.mp found

/-- Digits are gathered in front of whatever comes next. -/
theorem reads_digits {m : NormalMode} (before : List Char) {digits : List Char}
    (decimal : ∀ c ∈ before ++ digits, c.isDigit = true) (gathered : m.keys = before.map String.singleton)
    {keys : List KeyPress} {counted : Counted}
    (reads : Reads { m with keys := (before ++ digits).map String.singleton } keys counted) :
    m.Reads (KeyPress.ofText digits ++ keys) counted := by
  induction digits generalizing m before with
  | nil =>
      rw [List.append_nil, ← gathered] at reads
      exact reads
  | cons c digits ih =>
      obtain ⟨press, found⟩ := exists_press_of_isDigit (decimal c (by simp))
      obtain ⟨typed, plain, name⟩ := KeyPress.plain_of_ofChar? found
      have longer : m.keys ++ [press.name] = (before ++ [c]).map String.singleton := by
        rw [gathered, name, List.map_append]
        rfl
      rw [← List.singleton_append, ← List.append_assoc] at decimal reads
      rw [KeyPress.ofText, List.filterMap_cons_some found, List.cons_append]
      refine .more typed plain ?_ (ih (before ++ [c]) decimal longer reads)
      rw [longer]
      exact m.reader.read_digits fun d listed => decimal d (List.mem_append_left _ listed)

/-- A command of one key, behind any digits. -/
theorem reads_single {m : NormalMode} (fresh : m.keys = []) {digits : List Char}
    (decimal : ∀ c ∈ digits, c.isDigit = true) {c : Char} {press : KeyPress}
    (found : KeyPress.ofChar? c = some press) (other : c.isDigit = false) {command : Command}
    (single : singleKey? (String.singleton c) = some command) :
    m.Reads (KeyPress.ofText (digits ++ [c]))
      (command.times (min ((leadingCount? (digits.map String.singleton ++ [String.singleton c])).getD 1)
        m.reader.maxCount)) := by
  obtain ⟨typed, plain, name⟩ := KeyPress.plain_of_ofChar? found
  have keys : KeyPress.ofText (digits ++ [c]) = KeyPress.ofText digits ++ [press] := by
    simp [KeyPress.ofText, found]
  rw [keys]
  refine reads_digits [] decimal fresh (.last typed plain ?_)
  rw [name]
  exact m.reader.read_single decimal ((isDigitKey_singleton c).trans other) single

/-- A command of one key, with its count. -/
theorem reads_counted {m : NormalMode} (fresh : m.keys = []) {digits : List Char} {count : Nat}
    (spelled : SpellsCount digits count) (positive : 1 ≤ count) (allowed : count ≤ m.reader.maxCount)
    (small : count ≤ countLimit) {c : Char} {press : KeyPress} (found : KeyPress.ofChar? c = some press)
    (other : c.isDigit = false) {command : Command}
    (single : singleKey? (String.singleton c) = some command) :
    m.Reads (KeyPress.ofText (digits ++ [c])) ⟨command, count, positive⟩ := by
  have operand : isDigitKey (String.singleton c) = false := (isDigitKey_singleton c).trans other
  rw [← spelled.times_leadingCount? positive allowed small operand [] command]
  exact reads_single fresh spelled.isDigit found other single

/-- A command of one key typed twice, with its count. -/
theorem reads_doubled {m : NormalMode} (fresh : m.keys = []) {digits : List Char} {count : Nat}
    (spelled : SpellsCount digits count) (positive : 1 ≤ count) (allowed : count ≤ m.reader.maxCount)
    (small : count ≤ countLimit) {c : Char} {press : KeyPress} (found : KeyPress.ofChar? c = some press)
    (other : c.isDigit = false) (single : singleKey? (String.singleton c) = none)
    (operator : String.singleton c ∈ operatorKeys) {command : Command}
    (doubled : doubleKey? (String.singleton c) (String.singleton c) = some command) :
    m.Reads (KeyPress.ofText (digits ++ [c, c])) ⟨command, count, positive⟩ := by
  obtain ⟨typed, plain, name⟩ := KeyPress.plain_of_ofChar? found
  have operand : isDigitKey (String.singleton c) = false := (isDigitKey_singleton c).trans other
  have keys : KeyPress.ofText (digits ++ [c, c]) = KeyPress.ofText digits ++ [press, press] := by
    simp [KeyPress.ofText, found]
  rw [keys]
  refine reads_digits [] spelled.isDigit fresh (.more typed plain ?_ (.last typed plain ?_))
  · rw [name]
    exact m.reader.read_operator spelled.isDigit operand single operator
  · have read := m.reader.read_doubled spelled.isDigit operand doubled
    rw [spelled.times_leadingCount? positive allowed small operand] at read
    rw [name, List.append_assoc]
    exact read

end NormalMode

end ModalKeys
