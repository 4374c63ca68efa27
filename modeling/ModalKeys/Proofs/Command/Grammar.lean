import ModalKeys.Command.Reading

/-!
# The grammar of commands

A command is spelled by digits and then by one key, or by one key pressed twice. Reading decides this
grammar, and it waits for more keys exactly as long as more keys can still make a command.
-/

namespace ModalKeys

def digitKeys : List String := ["0", "1", "2", "3", "4", "5", "6", "7", "8", "9"]

def singleKeys : List (String × Command) :=
  [("h", .motion .left), ("j", .motion .down), ("k", .motion .up), ("l", .motion .right),
    ("w", .motion .wordForward), ("e", .motion .wordEnd), ("b", .motion .wordBackward),
    ("G", .motion .lastLine), ("i", .entry .insert), ("a", .entry .insertAfter),
    ("I", .entry .insertLineStart), ("A", .entry .insertLineEnd), ("o", .entry .openLineBelow),
    ("O", .entry .openLineAbove), ("v", .entry .visual), ("V", .entry .visualLine),
    ("x", .edit .deleteChar), ("D", .edit .deleteToLineEnd), ("s", .edit .changeChar),
    ("C", .edit .changeToLineEnd), ("p", .edit .pasteAfter), ("P", .edit .pasteBefore),
    ("u", .edit .undo), ("r", .edit .redo)]

def doubledKeys : List (String × Command) :=
  [("d", .edit .deleteLine), ("c", .edit .changeLine), ("y", .edit .yankLine), ("g", .motion .firstLine)]

namespace Command

inductive Spelled : List String → Command → Prop where
  | single {key : String} {command : Command} (listed : (key, command) ∈ singleKeys) :
      Spelled [key] command
  | doubled {key : String} {command : Command} (listed : (key, command) ∈ doubledKeys) :
      Spelled [key, key] command
  | counted {digit : String} {keys : List String} {command : Command} (decimal : digit ∈ digitKeys)
      (spelled : Spelled keys command) : Spelled (digit :: keys) command

/-- Digits alone, or with the first press of a key that is pressed twice behind them. -/
inductive Begun : List String → Prop where
  | nil : Begun []
  | operator {key : String} {command : Command} (listed : (key, command) ∈ doubledKeys) : Begun [key]
  | counted {digit : String} {keys : List String} (decimal : digit ∈ digitKeys) (begun : Begun keys) :
      Begun (digit :: keys)

theorem Begun.exists_spelled {keys : List String} (begun : Begun keys) :
    ∃ more command, more ≠ [] ∧ Spelled (keys ++ more) command := by
  induction begun with
  | nil => exact ⟨["h"], .motion .left, nofun, .single List.mem_cons_self⟩
  | @operator key command listed => exact ⟨[key], command, nofun, .doubled listed⟩
  | counted decimal begun ih =>
      obtain ⟨more, command, longer, spelled⟩ := ih
      exact ⟨more, command, longer, .counted decimal spelled⟩

theorem Spelled.begun {keys more : List String} (longer : more ≠ []) {command : Command}
    (spelled : Spelled (keys ++ more) command) : Begun keys := by
  induction keys with
  | nil => exact .nil
  | cons key keys ih =>
      generalize whole : key :: keys ++ more = all at spelled
      cases spelled with
      | single listed =>
          obtain ⟨-, nothing⟩ := List.cons.inj whole
          exact absurd (List.append_eq_nil_iff.mp nothing).2 longer
      | doubled listed =>
          obtain ⟨rfl, second⟩ := List.cons.inj whole
          rcases List.append_eq_singleton_iff.mp second with ⟨rfl, -⟩ | ⟨-, nothing⟩
          · exact .operator listed
          · exact absurd nothing longer
      | counted decimal spelled =>
          obtain ⟨rfl, rfl⟩ := List.cons.inj whole
          exact .counted decimal (ih spelled)

/-- Before the last key of a command there is only what is begun. -/
theorem begun_iff {keys : List String} :
    Begun keys ↔ ∃ more command, more ≠ [] ∧ Spelled (keys ++ more) command := by
  constructor
  · exact Begun.exists_spelled
  · rintro ⟨more, command, longer, spelled⟩
    exact spelled.begun longer

theorem Begun.of_append {keys more : List String} (begun : Begun (keys ++ more)) : Begun keys := by
  obtain ⟨rest, command, longer, spelled⟩ := begun.exists_spelled
  rw [List.append_assoc] at spelled
  exact spelled.begun fun nothing => longer (List.append_eq_nil_iff.mp nothing).2

end Command

theorem isDigitKey_iff {key : String} : isDigitKey key = true ↔ key ∈ digitKeys := by
  constructor
  · intro decimal
    unfold isDigitKey digitValue? at decimal
    split at decimal
    · next c single =>
        have digit : c.isDigit = true := by
          by_cases digit : c.isDigit = true
          · exact digit
          · rw [if_neg digit] at decimal
            cases decimal
        -- The ten digits are the characters from 48 to 57.
        have listed : ∀ n < 58, 48 ≤ n → String.singleton (Char.ofNat n) ∈ digitKeys := by decide
        obtain ⟨low, high⟩ := Char.isDigit_iff_toNat.mp digit
        have found := listed c.toNat (Nat.lt_succ_of_le high) low
        rw [Char.ofNat_toNat] at found
        have name : String.singleton c = key :=
          String.toList_inj.mp ((String.toList_singleton c).trans single.symm)
        rwa [name] at found
    · cases decimal
  · intro listed
    have decimal : ∀ key ∈ digitKeys, isDigitKey key = true := by decide
    exact decimal key listed

theorem singleKey?_eq_some_iff {key : String} {command : Command} :
    singleKey? key = some command ↔ (key, command) ∈ singleKeys := by
  constructor
  · intro found
    unfold singleKey? at found
    split at found <;> cases found <;> decide
  · intro listed
    have found : ∀ entry ∈ singleKeys, singleKey? entry.1 = some entry.2 := by decide
    exact found (key, command) listed

theorem doubleKey?_eq_some_iff {first second : String} {command : Command} :
    doubleKey? first second = some command ↔ first = second ∧ (first, command) ∈ doubledKeys := by
  constructor
  · intro found
    unfold doubleKey? at found
    split at found <;> cases found <;> exact ⟨rfl, by decide⟩
  · rintro ⟨rfl, listed⟩
    have found : ∀ entry ∈ doubledKeys, doubleKey? entry.1 entry.1 = some entry.2 := by decide
    exact found (first, command) listed

theorem mem_operatorKeys_iff {key : String} :
    key ∈ operatorKeys ↔ ∃ command, (key, command) ∈ doubledKeys := by
  constructor
  · intro listed
    have doubled : ∀ key ∈ operatorKeys, key ∈ doubledKeys.map Prod.fst := by decide
    obtain ⟨⟨key, command⟩, found, rfl⟩ := List.mem_map.mp (doubled key listed)
    exact ⟨command, found⟩
  · rintro ⟨command, listed⟩
    have first : ∀ entry ∈ doubledKeys, entry.1 ∈ operatorKeys := by decide
    exact first (key, command) listed

/-- No key stands in two tables. -/
theorem singleKey?_of_mem_operatorKeys {key : String} (listed : key ∈ operatorKeys) :
    singleKey? key = none := by
  have none : ∀ key ∈ operatorKeys, singleKey? key = none := by decide
  exact none key listed

namespace Command

theorem not_isDigitKey_of_single {key : String} {command : Command} (listed : (key, command) ∈ singleKeys) :
    isDigitKey key = false := by
  have other : ∀ entry ∈ singleKeys, isDigitKey entry.1 = false := by decide
  exact other (key, command) listed

theorem not_isDigitKey_of_doubled {key : String} {command : Command}
    (listed : (key, command) ∈ doubledKeys) : isDigitKey key = false := by
  have other : ∀ entry ∈ doubledKeys, isDigitKey entry.1 = false := by decide
  exact other (key, command) listed

/-- What is behind the digits decides what is spelled. -/
theorem spelled_iff {keys : List String} {command : Command} :
    Spelled keys command ↔
      (∃ key, keys.dropWhile isDigitKey = [key] ∧ (key, command) ∈ singleKeys) ∨
        ∃ key, keys.dropWhile isDigitKey = [key, key] ∧ (key, command) ∈ doubledKeys := by
  constructor
  · intro spelled
    induction spelled with
    | @single key command listed =>
        have other := not_isDigitKey_of_single listed
        exact .inl ⟨key, List.dropWhile_cons_of_neg (ne_true_of_eq_false other), listed⟩
    | @doubled key command listed =>
        have other := not_isDigitKey_of_doubled listed
        exact .inr ⟨key, List.dropWhile_cons_of_neg (ne_true_of_eq_false other), listed⟩
    | counted decimal spelled ih => rwa [List.dropWhile_cons_of_pos (isDigitKey_iff.mpr decimal)]
  · intro behind
    induction keys with
    | nil => rcases behind with ⟨key, nothing, -⟩ | ⟨key, nothing, -⟩ <;> cases nothing
    | cons first keys ih =>
        by_cases digit : isDigitKey first = true
        · rw [List.dropWhile_cons_of_pos digit] at behind
          exact .counted (isDigitKey_iff.mp digit) (ih behind)
        · rw [List.dropWhile_cons_of_neg digit] at behind
          rcases behind with ⟨key, whole, listed⟩ | ⟨key, whole, listed⟩
          · rw [whole]
            exact .single listed
          · rw [whole]
            exact .doubled listed

/-- What is behind the digits decides what is begun. -/
theorem begun_iff_dropWhile {keys : List String} :
    Begun keys ↔ keys.dropWhile isDigitKey = [] ∨
      ∃ key ∈ operatorKeys, keys.dropWhile isDigitKey = [key] := by
  constructor
  · intro begun
    induction begun with
    | nil => exact .inl rfl
    | @operator key command listed =>
        have other := not_isDigitKey_of_doubled listed
        exact .inr ⟨key, mem_operatorKeys_iff.mpr ⟨command, listed⟩,
          List.dropWhile_cons_of_neg (ne_true_of_eq_false other)⟩
    | counted decimal begun ih => rwa [List.dropWhile_cons_of_pos (isDigitKey_iff.mpr decimal)]
  · intro behind
    induction keys with
    | nil => exact .nil
    | cons first keys ih =>
        by_cases digit : isDigitKey first = true
        · rw [List.dropWhile_cons_of_pos digit] at behind
          exact .counted (isDigitKey_iff.mp digit) (ih behind)
        · rw [List.dropWhile_cons_of_neg digit] at behind
          rcases behind with nothing | ⟨key, listed, whole⟩
          · cases nothing
          · obtain ⟨command, doubled⟩ := mem_operatorKeys_iff.mp listed
            rw [whole]
            exact .operator doubled

end Command

/-! ## Reading -/

namespace CommandReader

open Command (Spelled Begun)

variable (reader : CommandReader) (keys : List String)

/-- What is spelled is read together with the count in front of it. -/
theorem read_eq_complete {counted : Counted} :
    reader.read keys = .complete counted ↔
      Spelled keys counted.command ∧
        counted = counted.command.times (min ((leadingCount? keys).getD 1) reader.maxCount) := by
  rw [Command.spelled_iff]
  constructor
  · intro read
    unfold CommandReader.read at read
    dsimp only at read
    split at read
    · cases read
    · next key behind =>
        split at read
        · next command single =>
            cases read
            exact ⟨.inl ⟨key, behind, singleKey?_eq_some_iff.mp single⟩, rfl⟩
        · split at read <;> cases read
    · next first second behind =>
        split at read
        · next command double =>
            obtain ⟨rfl, listed⟩ := doubleKey?_eq_some_iff.mp double
            cases read
            exact ⟨.inr ⟨first, behind, listed⟩, rfl⟩
        · cases read
    · cases read
  · rintro ⟨⟨key, behind, listed⟩ | ⟨key, behind, listed⟩, counts⟩
    · rw [CommandReader.read, behind]
      dsimp only
      rw [singleKey?_eq_some_iff.mpr listed]
      exact congrArg Reading.complete counts.symm
    · rw [CommandReader.read, behind]
      dsimp only
      rw [doubleKey?_eq_some_iff.mpr ⟨rfl, listed⟩]
      exact congrArg Reading.complete counts.symm

theorem read_eq_complete_iff (command : Command) :
    (∃ counted, reader.read keys = .complete counted ∧ counted.command = command) ↔
      Spelled keys command := by
  constructor
  · rintro ⟨counted, read, rfl⟩
    exact ((reader.read_eq_complete keys).mp read).1
  · intro spelled
    exact ⟨command.times _, (reader.read_eq_complete keys).mpr ⟨spelled, rfl⟩, rfl⟩

theorem read_eq_pending_iff : reader.read keys = .pending ↔ Begun keys := by
  rw [Command.begun_iff_dropWhile]
  constructor
  · intro read
    unfold CommandReader.read at read
    dsimp only at read
    split at read
    · next behind => exact .inl behind
    · next key behind =>
        split at read
        · cases read
        · split at read
          · next listed => exact .inr ⟨key, listed, behind⟩
          · cases read
    · split at read <;> cases read
    · cases read
  · rintro (behind | ⟨key, listed, behind⟩)
    · rw [CommandReader.read, behind]
    · rw [CommandReader.read, behind]
      dsimp only
      rw [singleKey?_of_mem_operatorKeys listed]
      exact if_pos listed

theorem read_eq_invalid_iff :
    reader.read keys = .invalid ↔ (∀ command, ¬ Spelled keys command) ∧ ¬ Begun keys := by
  constructor
  · intro read
    refine ⟨fun command spelled => ?_, fun begun => ?_⟩
    · obtain ⟨counted, complete, -⟩ := (reader.read_eq_complete_iff keys command).mpr spelled
      cases read.symm.trans complete
    · cases read.symm.trans ((reader.read_eq_pending_iff keys).mpr begun)
  · rintro ⟨unspelled, unbegun⟩
    cases read : reader.read keys with
    | complete counted =>
        have spelled := (reader.read_eq_complete_iff keys counted.command).mp ⟨counted, read, rfl⟩
        exact absurd spelled (unspelled counted.command)
    | pending => exact absurd ((reader.read_eq_pending_iff keys).mp read) unbegun
    | invalid => rfl

/-- A reading waits exactly as long as more keys can complete it, and once it has ended, with a command or
without, every further key is one too many. -/
theorem reading_decides_grammar :
    (∀ command, (∃ counted, reader.read keys = .complete counted ∧ counted.command = command) ↔
        Spelled keys command) ∧
      (reader.read keys = .pending ↔ Begun keys) ∧
      (reader.read keys = .invalid ↔ (∀ command, ¬ Spelled keys command) ∧ ¬ Begun keys) ∧
      (reader.read keys = .pending ↔
        ∃ more counted, more ≠ [] ∧ reader.read (keys ++ more) = .complete counted) ∧
      ∀ more, more ≠ [] → reader.read keys ≠ .pending → reader.read (keys ++ more) = .invalid := by
  refine ⟨reader.read_eq_complete_iff keys, reader.read_eq_pending_iff keys,
    reader.read_eq_invalid_iff keys, ?_, ?_⟩
  · rw [read_eq_pending_iff, Command.begun_iff]
    constructor
    · rintro ⟨more, command, longer, spelled⟩
      obtain ⟨counted, complete, -⟩ := (reader.read_eq_complete_iff _ command).mpr spelled
      exact ⟨more, counted, longer, complete⟩
    · rintro ⟨more, counted, longer, complete⟩
      exact ⟨more, counted.command, longer, (reader.read_eq_complete_iff _ _).mp ⟨counted, complete, rfl⟩⟩
  · intro more longer ended
    rw [ne_eq, read_eq_pending_iff] at ended
    rw [read_eq_invalid_iff]
    constructor
    · intro command spelled
      exact ended (spelled.begun longer)
    · intro begun
      exact ended begun.of_append

/-- Two lines and a digit: the command is complete before the digit, and nothing after it. -/
theorem reading_decides_grammar_of_digit_behind :
    let reader := CommandReader.upTo 999
    reader.read ["2", "d"] = .pending ∧
      reader.read ["2", "d", "d"] = .complete ⟨.edit .deleteLine, 2, by decide⟩ ∧
      reader.read (["2", "d", "d"] ++ ["3"]) = .invalid := by
  intro reader
  have complete : reader.read ["2", "d", "d"] = .complete ⟨.edit .deleteLine, 2, by decide⟩ := by decide
  obtain ⟨-, pending, -⟩ := reading_decides_grammar reader ["2", "d"]
  obtain ⟨-, -, -, -, dead⟩ := reading_decides_grammar reader ["2", "d", "d"]
  have operator : ("d", .edit .deleteLine) ∈ doubledKeys := by decide
  have begun : Begun ["2", "d"] := .counted (by decide) (.operator operator)
  exact ⟨pending.mpr begun, complete, dead ["3"] nofun (by rw [complete]; nofun)⟩

end CommandReader

end ModalKeys
