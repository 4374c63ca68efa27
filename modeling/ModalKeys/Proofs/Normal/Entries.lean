import ModalKeys.Proofs.Editor.Editing
import ModalKeys.Proofs.Normal.Motions

/-!
# Entries into Insert mode

The block is first collapsed onto its start. From there an entry leads to one side of the character or to an
end of its line, and it may open another line there.
-/

namespace ModalKeys

open Text (lineStart lineEnd lineUp)

/-- An empty line put before another one is a step up from where that now starts. -/
theorem Text.lineUp_opened (text : List Char) (pos : Nat) :
    let first := lineStart text pos
    lineUp (text.take first ++ '\n' :: text.drop first) (first + 1) = first := by
  obtain ⟨front, back, whole, parts, start⟩ := exists_append_lineStart text pos
  have below : lineStart (front ++ '\n' :: back) (front.length + 1) = front.length + 1 := by
    have longer : WholeLines (front ++ ['\n']) := .inr ⟨front, rfl⟩
    have kept := lineStart_length longer back
    rwa [List.length_append, List.length_singleton, List.append_assoc] at kept
  have opened : lineStart (front ++ '\n' :: back) front.length = front.length := lineStart_length whole _
  dsimp only
  rw [start, parts, List.take_left, List.drop_left]
  simp only [lineUp, below, opened, Nat.succ_ne_zero, ↓reduceIte, Nat.add_sub_cancel, Nat.sub_self,
    Nat.add_zero, Nat.min_self]

/-- Where an entry leads from a caret. -/
def Entry.lead (entry : Entry) (text : List Char) (pos : Nat) : Draft :=
  let first := lineStart text pos
  let last := lineEnd text pos
  match entry with
  | .insert | .visual | .visualLine => ⟨text, pos, pos⟩
  | .insertAfter => ⟨text, min (pos + 1) text.length, min (pos + 1) text.length⟩
  | .insertLineStart => ⟨text, first, first⟩
  | .insertLineEnd => ⟨text, last, last⟩
  | .openLineBelow => ⟨text.take last ++ '\n' :: text.drop last, last + 1, last + 1⟩
  | .openLineAbove => ⟨text.take first ++ '\n' :: text.drop first, first, first⟩

namespace TextField

variable {f : TextField} {text : List Char} {pos : Nat} (caret : f.draft = ⟨text, pos, pos⟩)

include caret

theorem draft_lineStart :
    (Control.inject f (.command .left)).draft = ⟨text, lineStart text pos, lineStart text pos⟩ := by
  rw [draft_commandLeft, caret]

theorem draft_lineEnd :
    (Control.inject f (.command .right)).draft = ⟨text, lineEnd text pos, lineEnd text pos⟩ := by
  have stepped := draft_arrow (.command .right) (.right .line) rfl caret
  rwa [Draft.stepped_lineEnd] at stepped

theorem draft_enter :
    (Control.inject f (.plain .enter)).draft = ⟨text.take pos ++ '\n' :: text.drop pos, pos + 1, pos + 1⟩ := by
  have first : f.draft.start = pos := by rw [caret]; exact Draft.start_caret text pos
  have last : f.draft.stop = pos := by rw [caret]; exact Nat.max_self pos
  change ((f.record _).replaceSelection ['\n']).draft = _
  change f.draft.splice f.draft.start f.draft.stop ['\n'] = _
  rw [first, last, caret, Draft.splice, List.append_assoc]
  rfl

/-- The strokes of an entry take a caret where the entry leads. -/
theorem draft_positioning (entry : Entry) :
    (Control.injectAll f entry.positioning).draft = entry.lead text pos := by
  cases entry with
  | insert | visual | visualLine => exact caret
  | insertAfter =>
      have stepped := draft_arrow (.plain .right) (.right .char) rfl caret
      rwa [Draft.stepped_right] at stepped
  | insertLineStart => exact draft_lineStart caret
  | insertLineEnd => exact draft_lineEnd caret
  | openLineBelow => exact draft_enter (draft_lineEnd caret)
  | openLineAbove =>
      have above := draft_arrow (.plain .up) .up rfl (draft_enter (draft_lineStart caret))
      rwa [Draft.stepped_up, Text.lineUp_opened] at above

end TextField

namespace Editor

variable {e : Editor TextField}

/-- From a block, whichever way it was made and on whatever character, each entry leaves the caret where it
should, also when a line is opened, and a count in front of it makes no difference. -/
theorem entries_place_caret (settings : Settings) (reached : e.Reached settings fun _ => True)
    (rests : e.Rests) (fresh : e.modes.normal.keys = []) (bounds : e.control.draft.InBounds)
    (block : e.control.selection.length = 1) {digits : List Char} (decimal : ∀ c ∈ digits, c.isDigit = true) :
    let text := e.control.text
    let cursor := e.control.selection.offset
    let first := lineStart text cursor
    let last := lineEnd text cursor
    ∀ c draft inputs,
      (c, draft) ∈ [('i', ⟨text, cursor, cursor⟩), ('a', ⟨text, cursor + 1, cursor + 1⟩),
        ('I', ⟨text, first, first⟩), ('A', ⟨text, last, last⟩),
        ('o', ⟨text.take last ++ '\n' :: text.drop last, last + 1, last + 1⟩),
        ('O', (⟨text.take first ++ '\n' :: text.drop first, first, first⟩ : Draft))] →
      presses inputs = KeyPress.ofText (digits ++ [c]) →
      (e.run inputs).mode = .insert ∧ (e.run inputs).deadline? = none ∧ (e.run inputs).control.draft = draft := by
  intro text cursor first last c draft inputs key typed
  have after : cursor + 1 ≤ text.length := by
    have stop := Draft.stop_le_length bounds
    rw [← Draft.stop_selection] at stop
    rwa [← block]
  have named : ∃ entry press, KeyPress.ofChar? c = some press ∧ c.isDigit = false ∧
      singleKey? (String.singleton c) = some (.entry entry) ∧ entry.target = .insert ∧
      entry.lead text cursor = draft := by
    simp only [List.mem_cons, Prod.mk.injEq, List.not_mem_nil, or_false] at key
    rcases key with ⟨rfl, rfl⟩ | ⟨rfl, rfl⟩ | ⟨rfl, rfl⟩ | ⟨rfl, rfl⟩ | ⟨rfl, rfl⟩ | ⟨rfl, rfl⟩
    · exact ⟨.insert, _, rfl, rfl, rfl, rfl, rfl⟩
    · refine ⟨.insertAfter, _, rfl, rfl, rfl, rfl, ?_⟩
      simp only [Entry.lead, Nat.min_eq_left after]
    · exact ⟨.insertLineStart, _, rfl, rfl, rfl, rfl, rfl⟩
    · exact ⟨.insertLineEnd, _, rfl, rfl, rfl, rfl, rfl⟩
    · exact ⟨.openLineBelow, _, rfl, rfl, rfl, rfl, rfl⟩
    · exact ⟨.openLineAbove, _, rfl, rfl, rfl, rfl, rfl⟩
  obtain ⟨entry, press, found, other, single, enters, leads⟩ := named
  have reads := NormalMode.reads_single fresh decimal found other single
  rw [← typed] at reads
  obtain ⟨inserting, control⟩ := rests.entered_of_reads (reached.free rests.away) reads rfl enters
  have onto : e.control.draft.leftward = cursor := Draft.leftward_of_one block
  have collapsed : (Control.inject e.control (.plain .left)).draft = ⟨text, cursor, cursor⟩ := by
    rw [Motion.draft_left bounds, onto]
  refine ⟨inserting.inside, inserting.deadline, ?_⟩
  rw [control, TextField.draft_positioning collapsed, leads]

/-- From a block on the newline of the first line, a new line is opened on either side. -/
theorem entries_place_caret_of_newline :
    let settings := { Settings.usual with startMode := .normal }
    let e := settings.editor ((TextField.ofText "one\ntwo".toList).select ⟨3, 1⟩)
    let typing (key : Char) : List Input := (KeyPress.ofText ['2', key]).map (.key · 0)
    (e.run (typing 'o')).control.draft = ⟨"one\n\ntwo".toList, 4, 4⟩ ∧
      (e.run (typing 'O')).control.draft = ⟨"\none\ntwo".toList, 0, 0⟩ := by
  intro settings e typing
  have decimal : ∀ c ∈ ['2'], c.isDigit = true := List.forall_mem_singleton.mpr rfl
  have placed := entries_place_caret settings (e := e) (.start _) ⟨rfl, rfl⟩ rfl (Draft.inBounds_select _ _)
    (by decide) decimal
  exact ⟨(placed 'o' _ (typing 'o') (by decide) (by decide)).2.2,
    (placed 'O' _ (typing 'O') (by decide) (by decide)).2.2⟩

end Editor

end ModalKeys
