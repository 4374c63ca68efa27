import ModalKeys.Keyboard.KeyPress
import ModalKeys.Terminal.Key

/-!
# Typing a key again

A key that has been held back is typed again from its name and its code alone. Of the modifiers it was
typed with, the name can tell Shift, and only where it is a capital letter.
-/

namespace ModalKeys

/-- A typing key is named by a capital letter only together with Shift, and then for a letter. -/
theorem isUppercase_of_mem_layout :
    ∀ entry ∈ layout, Text.isUppercase entry.2.1 = false ∧
      (Text.isUppercase entry.2.2 = true ↔ entry.2.2.isUpper = true) := by
  decide +kernel

/-- The blanks, each with the key that types it. -/
def blankKeys : List (Char × KeyCode) := [(' ', .space), ('\n', .enter), ('\t', .tab)]

theorem isUppercase_of_mem_blankKeys : ∀ blank ∈ blankKeys, Text.isUppercase blank.1 = false := by
  decide +kernel

/-- Only a blank and a character of the layout have a stroke. -/
theorem Keystroke.ofChar?_cases {c : Char} {stroke : Keystroke} (found : Keystroke.ofChar? c = some stroke) :
    (∃ blank ∈ blankKeys, c = blank.1 ∧ stroke = .plain blank.2) ∨
      ∃ entry ∈ layout, c = entry.2.1 ∧ stroke = .plain entry.1 ∨
        c = entry.2.2 ∧ stroke = .shifted entry.1 := by
  unfold ofChar? at found
  split at found
  · next space =>
      cases found
      exact .inl ⟨(' ', .space), by decide, space, rfl⟩
  split at found
  · next newline =>
      cases found
      exact .inl ⟨('\n', .enter), by decide, newline, rfl⟩
  split at found
  · next tab =>
      cases found
      exact .inl ⟨('\t', .tab), by decide, tab, rfl⟩
  obtain ⟨entry, listed, typed⟩ := List.exists_of_findSome?_eq_some found
  refine .inr ⟨entry, listed, ?_⟩
  dsimp only at typed
  split at typed
  · next lower =>
      cases typed
      exact .inl ⟨lower, rfl⟩
  split at typed
  · next upper =>
      cases typed
      exact .inr ⟨upper, rfl⟩
  · cases typed

namespace KeyPress

theorem replay_singleton (c : Char) (code : KeyCode) (synthetic : Bool) :
    replay ⟨String.singleton c, code, synthetic⟩ =
      if Text.isUppercase c then .shifted code else .plain code := by
  simp [replay]

/-- A word tells no modifier. -/
theorem replay_of_word {name : String} (word : name.toList.length ≠ 1) (code : KeyCode)
    (synthetic : Bool) : replay ⟨name, code, synthetic⟩ = .plain code := by
  unfold replay
  split
  · next letter =>
      dsimp only at letter
      exact absurd (by rw [letter]; rfl) word
  · rfl

/-- Neither Command nor Option is ever restored. -/
theorem replay_bare (press : KeyPress) :
    press.replay.modifiers.command = false ∧ press.replay.modifiers.option = false := by
  unfold replay
  split
  · split <;> exact ⟨rfl, rfl⟩
  · exact ⟨rfl, rfl⟩

/-- A character is typed again with its own stroke unless that takes Shift and it is no letter. -/
theorem replay_eq_iff_of_ofChar? {c : Char} {stroke : Keystroke}
    (found : Keystroke.ofChar? c = some stroke) :
    replay ⟨String.singleton c, stroke.code, false⟩ = stroke ↔
      (stroke.modifiers.shift = true → c.isUpper = true) := by
  rw [replay_singleton]
  rcases Keystroke.ofChar?_cases found with ⟨blank, listed, rfl, rfl⟩ | ⟨entry, listed, ⟨rfl, rfl⟩ | ⟨rfl, rfl⟩⟩
  · rw [isUppercase_of_mem_blankKeys blank listed, if_neg Bool.false_ne_true]
    exact ⟨nofun, fun _ => rfl⟩
  · rw [(isUppercase_of_mem_layout entry listed).1, if_neg Bool.false_ne_true]
    exact ⟨nofun, fun _ => rfl⟩
  · have capital := (isUppercase_of_mem_layout entry listed).2
    cases upper : Text.isUppercase entry.2.2 with
    | true =>
        rw [if_pos rfl]
        exact ⟨fun _ _ => capital.mp upper, fun _ => rfl⟩
    | false =>
        rw [if_neg Bool.false_ne_true]
        constructor
        · nofun
        · intro letter
          cases (capital.mpr (letter rfl)).symm.trans upper

end KeyPress

namespace TerminalKey

/-- The keys that are typed again as they were typed. A character may need Shift only as a capital letter,
and no key may need Control or Alt. -/
def Verbatim (key : TerminalKey) (m : TerminalModifiers) : Prop :=
  match key with
  | .char c =>
      m.control = false ∧ m.alt = false ∧
        ∀ stroke, Keystroke.ofChar? c = some stroke → stroke.modifiers.shift = true → c.isUpper = true
  | .escape | .enter | .tab => True
  | .backspace | .delete | .left | .right | .up | .down => m = ⟨false, false, false⟩
  | .home | .lineEnd | .other => False

theorem plain_eq_iff (code : KeyCode) (m : TerminalModifiers) :
    Keystroke.plain code = ⟨code, modifiers m⟩ ↔ m = ⟨false, false, false⟩ := by
  constructor
  · intro same
    obtain ⟨control, -, alt, shift⟩ := Modifiers.mk.inj (congrArg Keystroke.modifiers same)
    obtain ⟨shift', control', alt'⟩ := m
    cases shift
    cases control
    cases alt
    rfl
  · rintro rfl
    rfl

theorem replay_eq_iff_of_char {c : Char} {m : TerminalModifiers} {name : String} {stroke : Keystroke}
    (captured : (TerminalKey.char c).capture? m = some (name, stroke)) :
    KeyPress.replay ⟨name, stroke.code, false⟩ = stroke ↔ (TerminalKey.char c).Verbatim m := by
  cases found : Keystroke.ofChar? c with
  | none => simp [capture?, found] at captured
  | some typed =>
      simp only [capture?, found] at captured
      by_cases held : (m.control || m.alt) = true
      · rw [if_pos held] at captured
        obtain ⟨lower, _, same⟩ := Option.map_eq_some_iff.mp captured
        cases same
        refine iff_of_false ?_ ?_
        · intro same
          obtain ⟨command, option⟩ := KeyPress.replay_bare ⟨String.singleton c, lower.code, false⟩
          rw [same] at command option
          have bare : (m.control || m.alt) = false := Bool.or_eq_false_iff.mpr ⟨command, option⟩
          cases bare.symm.trans held
        · rintro ⟨control, alt, _⟩
          cases (Bool.or_eq_false_iff.mpr ⟨control, alt⟩).symm.trans held
      · rw [if_neg held] at captured
        cases captured
        obtain ⟨control, alt⟩ := Bool.or_eq_false_iff.mp (eq_false_of_ne_true held)
        rw [KeyPress.replay_eq_iff_of_ofChar? found]
        constructor
        · intro letter
          refine ⟨control, alt, fun stroke same => ?_⟩
          cases found.symm.trans same
          exact letter
        · rintro ⟨_, _, letter⟩
          exact letter _ found

/-- A captured key is typed again as it was typed just when nothing but its name is needed for that. -/
theorem replay_eq_iff {key : TerminalKey} {m : TerminalModifiers} {name : String} {stroke : Keystroke}
    (captured : key.capture? m = some (name, stroke)) :
    KeyPress.replay ⟨name, stroke.code, false⟩ = stroke ↔ key.Verbatim m := by
  cases key with
  | char c => exact replay_eq_iff_of_char captured
  | other => cases captured
  | escape | enter | tab =>
      cases captured
      exact iff_of_true (KeyPress.replay_of_word (by decide) _ _) trivial
  | backspace | delete | left | right | up | down =>
      cases captured
      rw [KeyPress.replay_of_word (by decide)]
      exact plain_eq_iff _ m
  | home | lineEnd =>
      cases captured
      rw [KeyPress.replay_of_word (by decide)]
      exact iff_of_false nofun id

end TerminalKey

end ModalKeys
