import ModalKeys.Proofs.TextField.History

/-!
# Typing a text

The stroke of a character is no shortcut and inserts that character again. The first one takes the place of the
selection, and the others come behind it one after another. Each is an edit of its own.
-/

namespace ModalKeys

theorem ofKeystroke_of_mem_layout :
    ∀ entry ∈ layout, Shortcut.ofKeystroke (.plain entry.1) = .insert entry.2.1 ∧
      Shortcut.ofKeystroke (.shifted entry.1) = .insert entry.2.2 := by
  decide

theorem ofKeystroke_of_mem_blankKeys :
    ∀ blank ∈ blankKeys, Shortcut.ofKeystroke (.plain blank.2) = .insert blank.1 := by
  decide

theorem Shortcut.ofKeystroke_of_ofChar? {c : Char} {stroke : Keystroke}
    (found : Keystroke.ofChar? c = some stroke) : ofKeystroke stroke = .insert c := by
  rcases Keystroke.ofChar?_cases found with ⟨blank, listed, rfl, rfl⟩ | ⟨entry, listed, ⟨rfl, rfl⟩ | ⟨rfl, rfl⟩⟩
  · exact ofKeystroke_of_mem_blankKeys blank listed
  · exact (ofKeystroke_of_mem_layout entry listed).1
  · exact (ofKeystroke_of_mem_layout entry listed).2

namespace Draft

/-- What is put in behind the caret of an earlier insertion could have been put in with it. -/
theorem splice_splice (d : Draft) {first : Nat} (within : first ≤ d.text.length) (last : Nat)
    (front back : List Char) :
    let e := d.splice first last front
    e.splice e.start e.stop back = d.splice first last (front ++ back) := by
  have caret : (d.text.take first ++ front).length = first + front.length := by
    rw [List.length_append, List.length_take_of_le within]
  simp only [splice, start, stop, Nat.min_self, Nat.max_self]
  rw [← caret, List.take_left, List.drop_left, List.append_assoc _ front back, caret, List.length_append,
    Nat.add_assoc]

end Draft

namespace TextField

variable {f : TextField}

def typeText (f : TextField) (text : List Char) : TextField :=
  (text.filterMap Keystroke.ofChar?).foldl press f

/-- Puts characters in one after another, the first in place of the selection. -/
def insertEach (f : TextField) (text : List Char) : TextField :=
  text.foldl (fun g c => g.replaceSelection [c]) f

theorem insertEach_cons (f : TextField) (c : Char) (text : List Char) :
    f.insertEach (c :: text) = (f.replaceSelection [c]).insertEach text := rfl

theorem typeText_eq_insertEach {text : List Char} (keyed : ∀ c ∈ text, (Keystroke.ofChar? c).isSome = true) :
    f.typeText text = f.insertEach text := by
  induction text generalizing f with
  | nil => rfl
  | cons c text ih =>
      obtain ⟨first, later⟩ := List.forall_mem_cons.mp keyed
      obtain ⟨stroke, found⟩ := Option.isSome_iff_exists.mp first
      have typed : f.press stroke = f.replaceSelection [c] := by
        rw [press, Shortcut.ofKeystroke_of_ofChar? found, perform]
      rw [typeText, List.filterMap_cons_some found, List.foldl_cons, typed]
      exact ih later

variable {text : List Char}

theorem draft_insertEach (within : f.draft.start ≤ f.text.length) (nonempty : text ≠ []) :
    (f.insertEach text).draft = f.draft.splice f.draft.start f.draft.stop text := by
  induction text generalizing f with
  | nil => exact absurd rfl nonempty
  | cons c text ih =>
      rw [insertEach_cons]
      cases text with
      | nil => rfl
      | cons d text =>
          let typed := f.draft.splice f.draft.start f.draft.stop [c]
          have inside : typed.start ≤ typed.text.length :=
            Draft.start_le_length (f.draft.inBounds_splice within f.draft.stop [c])
          calc ((f.replaceSelection [c]).insertEach (d :: text)).draft
            _ = typed.splice typed.start typed.stop (d :: text) := ih (f := f.edit typed) inside nofun
            _ = f.draft.splice f.draft.start f.draft.stop (c :: d :: text) := f.draft.splice_splice within _ [c] _

theorem clipboard_insertEach : (f.insertEach text).clipboard = f.clipboard := by
  induction text generalizing f with
  | nil => rfl
  | cons c text ih => rw [insertEach_cons, ih, clipboard_replaceSelection]

/-- Every character has put one draft on top of those that were there. -/
theorem getElem?_undo_insertEach {depth : Nat} (few : text.length + depth ≤ undoCapacity) :
    ((f.insertEach text).draft :: (f.insertEach text).undo)[text.length + depth]? = (f.draft :: f.undo)[depth]? := by
  induction text generalizing f depth with
  | nil =>
      rw [List.length_nil, Nat.zero_add]
      rfl
  | cons c text ih =>
      rw [List.length_cons, Nat.add_right_comm, Nat.add_assoc] at few ⊢
      have recorded : Recorded f (f.replaceSelection [c]) := recorded_replaceSelection (Bool.or_true _)
      rw [insertEach_cons, ih few, List.getElem?_cons_succ, recorded.undo]
      exact List.getElem?_take_of_lt (by omega)

/-- As many undos as there are characters lead back to the draft that was there before them. -/
theorem draft_undoEdit_insertEach (few : text.length ≤ undoCapacity) :
    (undoEdit^[text.length] (f.insertEach text)).draft = f.draft := by
  have kept : ((f.insertEach text).draft :: (f.insertEach text).undo)[text.length + 0]? = (f.draft :: f.undo)[0]? :=
    getElem?_undo_insertEach few
  have enough : text.length ≤ (f.insertEach text).undo.length :=
    Nat.le_of_lt_succ (List.getElem?_eq_some_iff.mp kept).1
  exact Option.some.inj ((getElem?_undo _ enough).symm.trans kept)

/-- A text that is typed takes the place of the selection and leaves the caret behind it. The clipboard stays as
it is, and undo takes the characters back one after another. -/
theorem typing_replaces_selection (bounds : f.draft.InBounds) {text : List Char} (nonempty : text ≠ [])
    (keyed : ∀ c ∈ text, (Keystroke.ofChar? c).isSome = true) :
    let first := f.selection.offset
    let last := f.selection.stop
    let g := f.typeText text
    g.text = f.text.take first ++ text ++ f.text.drop last ∧
      g.selection = .caret (first + text.length) ∧ g.clipboard = f.clipboard ∧
      (text.length ≤ 100 → ((press · (.command .z))^[text.length] g).draft = f.draft) := by
  intro first last g
  have inserted : g = f.insertEach text := typeText_eq_insertEach keyed
  have draft : g.draft = f.draft.splice first last text := by
    have ends : last = f.draft.stop := f.draft.stop_selection
    rw [inserted, ends]
    exact draft_insertEach (Draft.start_le_length bounds) nonempty
  refine ⟨congrArg Draft.text draft, ?_, ?_, ?_⟩
  · rw [selection, draft]
    simp only [Draft.splice, Draft.selection, Draft.start, Draft.stop, Nat.min_self, Nat.max_self, Nat.sub_self]
    rfl
  · rw [inserted, clipboard_insertEach]
  · intro few
    rw [inserted]
    exact draft_undoEdit_insertEach few

/-- Three lines over a word that was selected leftwards, with a full history. -/
theorem typing_replaces_selection_of_lines :
    let field := { ofText "one two".toList with
      draft := ⟨"one two".toList, 7, 4⟩, clipboard := ['x'], undo := List.replicate 100 (.ofText []) }
    let after := field.typeText "A!\n\tb\n".toList
    field.draft.InBounds ∧ (∀ c ∈ "A!\n\tb\n".toList, (Keystroke.ofChar? c).isSome = true) ∧
      after.text = "one A!\n\tb\n".toList ∧ after.selection = .caret 10 ∧ after.clipboard = ['x'] ∧
      ((press · (.command .z))^[6] after).draft = ⟨"one two".toList, 7, 4⟩ := by
  intro field after
  have bounds : field.draft.InBounds := ⟨by decide, by decide⟩
  have keyed : ∀ c ∈ "A!\n\tb\n".toList, (Keystroke.ofChar? c).isSome = true :=
    List.all_eq_true.mp (by decide)
  obtain ⟨text, caret, clipboard, back⟩ := typing_replaces_selection bounds (by decide) keyed
  exact ⟨bounds, keyed, text.trans (by decide), caret, clipboard, back (by decide)⟩

end TextField

end ModalKeys
