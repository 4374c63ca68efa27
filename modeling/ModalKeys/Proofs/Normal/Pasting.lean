import ModalKeys.Proofs.Editor.Editing
import ModalKeys.Proofs.Normal.TakenBack
import ModalKeys.Settings.Basic

/-!
# Pasting

The block is collapsed to one of its sides, and the clipboard is put in there as often as the count says. Then the
last character of it becomes the block, made leftwards.
-/

namespace ModalKeys

namespace Draft

/-- A right arrow takes a selection to its end. -/
theorem move_right_of_selected {d : Draft} (bounds : d.InBounds) (selected : d.hasSelection = true) :
    d.move (.right .char) false = ⟨d.text, d.stop, d.stop⟩ := by
  simp [move, moveTo, target, selected, Draft.stop_le_length bounds]

theorem extend_left {d : Draft} (bounds : d.InBounds) :
    d.move (.left .char) true = ⟨d.text, d.anchor, d.head - 1⟩ := by
  have within : d.head - 1 ≤ d.text.length := Nat.le_trans (Nat.sub_le _ 1) bounds.head
  simp [move, moveTo, target, within]

/-- The block made leftwards from a caret is the character before it. -/
theorem selection_back (text : List Char) {pos : Nat} (positive : 1 ≤ pos) :
    selection ⟨text, pos, pos - 1⟩ = ⟨pos - 1, 1⟩ := by
  simp only [selection, start, stop, Selection.mk.injEq]
  omega

end Draft

namespace TextField

variable {f : TextField} {text : List Char} {pos : Nat}

/-- What is in the clipboard comes before the caret. -/
theorem draft_paste (caret : f.draft = ⟨text, pos, pos⟩) :
    let there := pos + f.clipboard.length
    (Control.inject f (.command .v)).draft = ⟨text.take pos ++ f.clipboard ++ text.drop pos, there, there⟩ := by
  change ((f.record (.command .v)).replaceSelection f.clipboard).draft = _
  cases clipboard : f.clipboard with
  | nil => simp [replaceSelection, record, caret, Draft.hasSelection]
  | cons c rest => simp [replaceSelection, record, edit, Draft.splice, Draft.start, Draft.stop, caret]

/-- Every paste of something is an edit. -/
theorem edited_paste (nonempty : f.clipboard ≠ []) : Edited 1 f (Control.inject f (.command .v)) := by
  have edited := Edited.inject f (.command .v) rfl
  have records : f.recordsEdit .paste = true := by simp [recordsEdit, nonempty]
  rwa [show Shortcut.ofKeystroke (.command .v) = .paste from rfl, if_pos records] at edited

/-- The contents of the clipboard come one after another before the caret. -/
theorem repeated_paste {clipboard : List Char} (nonempty : clipboard ≠ []) (holds : f.clipboard = clipboard)
    (caret : f.draft = ⟨text, pos, pos⟩) (within : pos ≤ text.length) (count : Nat) :
    let pasted := (List.replicate count clipboard).flatten
    let g := Control.injectAll f (repeated [.command .v] count)
    g.draft = ⟨text.take pos ++ pasted ++ text.drop pos, pos + pasted.length, pos + pasted.length⟩ ∧
      Edited count f g := by
  induction count generalizing f text pos with
  | zero =>
      refine ⟨?_, .refl f⟩
      change f.draft = _
      simp [caret]
  | succ count ih =>
      intro pasted g
      let h := Control.inject f (.command .v)
      have first : h.draft = _ := draft_paste caret
      have kept : h.clipboard = clipboard := (clipboard_inject f (by decide)).trans holds
      rw [holds] at first
      have front : (text.take pos ++ clipboard).length = pos + clipboard.length := by simp [within]
      have still : pos + clipboard.length ≤ (text.take pos ++ clipboard ++ text.drop pos).length := by
        rw [List.length_append, front]
        exact Nat.le_add_right _ _
      obtain ⟨draft, edited⟩ := ih kept first still
      rw [← front, List.take_left, List.drop_left] at draft
      constructor
      · refine draft.trans ?_
        simp [pasted, List.replicate_succ, front, Nat.add_assoc]
      · rw [Nat.add_comm count 1]
        exact (edited_paste (by rwa [holds])).trans edited

/-- Once a stroke has collapsed the selection, everything is pasted there, and its last character is selected. -/
theorem paste_at {collapse : Keystroke} (moves : collapse.Moves) (within : pos ≤ f.text.length)
    (collapsed : (Control.inject f collapse).draft = ⟨f.text, pos, pos⟩) (nonempty : f.clipboard ≠ []) (count : Nat) :
    let pasted := (List.replicate count f.clipboard).flatten
    let last := pos + pasted.length
    let g := Control.injectAll f (collapse :: repeated [.command .v] count ++ [.shifted .left])
    g.draft = ⟨f.text.take pos ++ pasted ++ f.text.drop pos, last, last - 1⟩ ∧ Edited count f g := by
  intro pasted last g
  let h := Control.inject f collapse
  have kept : h.clipboard = f.clipboard := clipboard_inject f moves.keepsClipboard
  obtain ⟨draft, edited⟩ := repeated_paste nonempty kept collapsed within count
  let put := Control.injectAll h (repeated [.command .v] count)
  have whole : g = Control.inject put (.shifted .left) := Control.injectAll_append _ _ _
  have moved := ((Edited.move f collapse moves).trans edited).trans (.move put (.shifted .left) ⟨_, _, rfl⟩)
  rw [Nat.zero_add, Nat.add_zero, ← whole] at moved
  refine ⟨?_, moved⟩
  have bounds : put.draft.InBounds := by
    rw [draft]
    constructor <;> simp [within]
  have selected : (Control.inject put (.shifted .left)).draft = put.draft.move (.left .char) true :=
    draft_inject_of_move put rfl
  rw [whole, selected, Draft.extend_left bounds, draft]

end TextField

namespace Editor

section

variable {e : Editor TextField} (rests : e.Rests) (fresh : e.modes.normal.keys = [])
  (nonempty : e.control.clipboard ≠ []) {count : Nat} (positive : 1 ≤ count)
  (allowed : count ≤ e.modes.normal.reader.maxCount) (small : count ≤ countLimit)

include rests fresh nonempty positive allowed small

/-- A key that pastes where its first stroke leads the block. -/
theorem pasted_by_key {c : Char} {press : KeyPress} (found : KeyPress.ofChar? c = some press)
    (other : c.isDigit = false) {edit : Edit} (single : singleKey? (String.singleton c) = some (.edit edit))
    (stays : edit.entersInsert = false) {collapse : Keystroke}
    (plan : edit.plan count = .thenBlockLeft { before := [collapse], group := [.command .v], times := count })
    (moves : collapse.Moves)
    {before : Nat} (within : before ≤ e.control.text.length)
    (collapsed : (Control.inject e.control collapse).draft = ⟨e.control.text, before, before⟩) {shown : Nat}
    (ends : shown + 1 = before + count * e.control.clipboard.length) {inputs : List Input}
    (types : Types e.settle count c inputs) :
    let text := e.control.text
    let clipboard := e.control.clipboard
    let after := e.run inputs
    after.mode = .normal ∧ after.deadline? = none ∧
      after.control.text = text.take before ++ (List.replicate count clipboard).flatten ++ text.drop before ∧
      after.control.selection = ⟨shown, 1⟩ ∧ after.control.clipboard = clipboard ∧
      (count ≤ 100 → ∀ digits back, SpellsCount digits count → presses back = KeyPress.ofText (digits ++ ['u']) →
        (after.run back).mode = .normal ∧ (after.run back).deadline? = none ∧
          (after.run back).control.text = text) := by
  intro text clipboard after
  have fits : (edit.plan count).fits = true := by rw [plan]; rfl
  have carried := carried_of_types rests fresh positive allowed small found other single stays fits types
  have strokes : (edit.plan count).now ++ (edit.plan count).settled =
      collapse :: repeated [.command .v] count ++ [.shifted .left] := by
    rw [plan]
    exact congrArg (· ++ _) (List.append_nil _)
  simp only [Counted.plan, strokes] at carried
  obtain ⟨draft, edited⟩ := TextField.paste_at moves within collapsed nonempty count
  have sent := carried.control
  have last : before + (List.replicate count clipboard).flatten.length = shown + 1 := by simp [ends, clipboard]
  refine ⟨carried.rests.1, carried.rests.deadline, ?_, ?_, ?_, ?_⟩
  · rw [sent, TextField.text, draft]
  · rw [sent, TextField.selection, draft, last, Draft.selection_back _ (Nat.le_add_left 1 shown)]
    rfl
  · rw [sent]
    refine TextField.clipboard_injectAll _ (List.forall_mem_append.mpr ⟨?_, by decide⟩)
    refine List.forall_mem_cons.mpr ⟨moves.keepsClipboard, fun stroke listed => ?_⟩
    rw [List.mem_singleton.mp (mem_of_mem_repeated listed)]
    decide
  · intro few digits back spelled typed
    exact carried.text_run_of_undo edited positive few allowed spelled typed

end

/-- Pasting puts as many copies of the clipboard as the count says behind the block or before it, and shows the
block on the last character of them. As many undos take them out again. -/
theorem paste_around_block {e : Editor TextField} (rests : e.Rests) (fresh : e.modes.normal.keys = [])
    (bounds : e.control.draft.InBounds) (block : e.control.selection.length = 1)
    (nonempty : e.control.clipboard ≠ []) {count : Nat} (positive : 1 ≤ count)
    (allowed : count ≤ e.modes.normal.reader.maxCount) (small : count ≤ countLimit) :
    let text := e.control.text
    let cursor := e.control.selection.offset
    let clipboard := e.control.clipboard
    ∀ c before shown,
      (c, before, shown) ∈ [('p', cursor + 1, cursor + count * clipboard.length),
        ('P', cursor, cursor + count * clipboard.length - 1)] →
      ∀ inputs, Types e.settle count c inputs →
        let after := e.run inputs
        after.mode = .normal ∧ after.deadline? = none ∧
          after.control.text = text.take before ++ (List.replicate count clipboard).flatten ++ text.drop before ∧
          after.control.selection = ⟨shown, 1⟩ ∧ after.control.clipboard = clipboard ∧
          (count ≤ 100 → ∀ digits back, SpellsCount digits count →
            presses back = KeyPress.ofText (digits ++ ['u']) →
            (after.run back).mode = .normal ∧ (after.run back).deadline? = none ∧
              (after.run back).control.text = text) := by
  intro text cursor clipboard c before shown key inputs types
  have selected : e.control.draft.start + 1 = e.control.draft.stop := by
    have length : e.control.draft.stop - e.control.draft.start = 1 := block
    omega
  have inside : cursor + 1 ≤ text.length := Nat.le_trans (Nat.le_of_eq selected) (Draft.stop_le_length bounds)
  simp only [List.mem_cons, Prod.mk.injEq, List.not_mem_nil, or_false] at key
  rcases key with ⟨rfl, rfl, rfl⟩ | ⟨rfl, rfl, rfl⟩
  · have collapsed : (Control.inject e.control (.plain .right)).draft = ⟨text, cursor + 1, cursor + 1⟩ := by
      have moved : (Control.inject e.control (.plain .right)).draft = e.control.draft.move (.right .char) false :=
        TextField.draft_inject_of_move e.control rfl
      have selects : e.control.draft.hasSelection = true := Draft.hasSelection_iff.mpr (by omega)
      rw [moved, Draft.move_right_of_selected bounds selects, ← selected]
      rfl
    have single : singleKey? (String.singleton 'p') = some (.edit .pasteAfter) := rfl
    exact pasted_by_key rests fresh nonempty positive allowed small rfl rfl single rfl rfl ⟨_, _, rfl⟩ inside
      collapsed (Nat.add_right_comm _ _ _) types
  · have filled : 1 ≤ cursor + count * clipboard.length :=
      Nat.le_add_left_of_le (Nat.mul_pos positive (List.length_pos_iff.mpr nonempty))
    have collapsed : (Control.inject e.control (.plain .left)).draft = ⟨text, cursor, cursor⟩ := by
      rw [Motion.draft_left bounds, Draft.leftward_of_one block]
      rfl
    have single : singleKey? (String.singleton 'P') = some (.edit .pasteBefore) := rfl
    exact pasted_by_key rests fresh nonempty positive allowed small rfl rfl single rfl rfl ⟨_, _, rfl⟩
      (Nat.le_of_succ_le inside) collapsed (Nat.sub_add_cancel filled) types

/-- Twice behind a block that was made leftwards and twice before it, and back again. -/
theorem paste_around_block_of_two :
    let text := "abc".toList
    let field := { TextField.ofText text with draft := ⟨text, 2, 1⟩, clipboard := "xy".toList }
    let start := { Settings.usual with startMode := .normal }.editor field
    let typing (keys : List Char) : List Input := (KeyPress.ofText keys).map (.key · 0)
    let behind := start.run (typing ['2', 'p'] ++ [.tick 5])
    let before := start.run (typing ['2', 'P'] ++ [.tick 5])
    behind.control.text = "abxyxyc".toList ∧ behind.control.selection = ⟨5, 1⟩ ∧
      (behind.run (typing ['2', 'u'])).control.text = text ∧
      before.control.text = "axyxybc".toList ∧ before.control.selection = ⟨4, 1⟩ ∧
      before.control.clipboard = "xy".toList := by
  intro text field start typing behind before
  have two : SpellsCount ['2'] 2 := .inl (by decide)
  have typesBehind : Types start.settle 2 'p' (typing ['2', 'p'] ++ [.tick 5]) := .intro two (by decide) (by decide)
  have typesBefore : Types start.settle 2 'P' (typing ['2', 'P'] ++ [.tick 5]) := .intro two (by decide) (by decide)
  have law := paste_around_block (e := start) ⟨rfl, rfl⟩ rfl ⟨by decide, by decide⟩ (by decide) (by decide)
    (by decide : 1 ≤ 2) (by decide) (by decide)
  obtain ⟨-, -, put, shown, -, undo⟩ := law 'p' 2 5 (by decide) _ typesBehind
  obtain ⟨-, -, restored⟩ := undo (by decide) ['2'] (typing ['2', 'u']) two (by decide)
  obtain ⟨-, -, putBefore, shownBefore, clipboard, -⟩ := law 'P' 1 4 (by decide) _ typesBefore
  exact ⟨put.trans (by decide), shown, restored, putBefore.trans (by decide), shownBefore, clipboard⟩

end Editor

end ModalKeys
