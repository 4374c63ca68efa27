import ModalKeys.Proofs.Text.Runs
import ModalKeys.Proofs.TextField.History

/-!
# Strict editing

The operations of a field again, but every stretch of the text must lie in it, every character that is looked
at must be there, no difference may fall below zero, and sums of offsets must not leave what an offset can
hold. Then an operation may have no outcome. It always has one, and it is the outcome of the field.
-/

namespace ModalKeys

namespace Text

/-- The characters from one offset up to another, which must stand in this order in the text. -/
def slice? (text : List Char) (first last : Nat) : Option (List Char) :=
  if first ≤ last ∧ last ≤ text.length then some ((text.drop first).take (last - first)) else none

def difference? (a b : Nat) : Option Nat := if b ≤ a then some (a - b) else none

/-- A sum of offsets, which must not go beyond twice the text. A text that fits into memory has less than half
as many characters as an offset can count. -/
def sum? (text : List Char) (a b : Nat) : Option Nat :=
  if a + b ≤ 2 * text.length + 1 then some (a + b) else none

def lineStart? (text : List Char) (pos : Nat) : Option Nat := do
  let front ← slice? text 0 (min pos text.length)
  return (front.reverse.dropWhile notNewline).length

def lineEnd? (text : List Char) (pos : Nat) : Option Nat := do
  let first := min pos text.length
  let rest ← slice? text first text.length
  sum? text first (rest.takeWhile notNewline).length

def lineUp? (text : List Char) (pos : Nat) : Option Nat := do
  let start ← lineStart? text pos
  if start = 0 then return 0
  else
    let column ← difference? pos start
    let last ← difference? start 1
    let above ← lineStart? text last
    let target ← sum? text above column
    return min target last

def lineDown? (text : List Char) (pos : Nat) : Option Nat := do
  let stop ← lineEnd? text pos
  if stop = text.length then return stop
  else
    let start ← lineStart? text pos
    let column ← difference? pos start
    let next ← sum? text stop 1
    let target ← sum? text next column
    let last ← lineEnd? text next
    return min target last

/-- Goes back from an offset as long as the character before it passes. -/
def back? (p : Char → Bool) (text : List Char) : Nat → Option Nat
  | 0 => some 0
  | i + 1 => do
      let c ← text[i]?
      if p c then back? p text i else return i + 1

/-- Goes on from an offset as long as there is a character behind it that passes. -/
def forth? (p : Char → Bool) (text : List Char) (i : Nat) : Option Nat :=
  if i < text.length then do
    let c ← text[i]?
    if p c then forth? p text (i + 1) else return i
  else some i
termination_by text.length - i

def wordLeft? (text : List Char) (pos : Nat) : Option Nat := do
  let stop ← back? (fun c => !isWordChar c) text (min pos text.length)
  back? isWordChar text stop

def wordRight? (text : List Char) (pos : Nat) : Option Nat := do
  let start ← forth? (fun c => !isWordChar c) text (min pos text.length)
  forth? isWordChar text start

variable {text : List Char} {pos : Nat}

theorem slice?_of_le {first last : Nat} (order : first ≤ last) (within : last ≤ text.length) :
    slice? text first last = some ((text.drop first).take (last - first)) :=
  if_pos ⟨order, within⟩

theorem difference?_of_le {a b : Nat} (order : b ≤ a) : difference? a b = some (a - b) := if_pos order

theorem sum?_of_le {a b : Nat} (small : a + b ≤ 2 * text.length + 1) : sum? text a b = some (a + b) :=
  if_pos small

theorem lineStart?_eq (text : List Char) (pos : Nat) : lineStart? text pos = some (lineStart text pos) := by
  have front : (text.drop 0).take (min pos text.length - 0) = text.take pos := by
    rw [Nat.sub_zero, List.drop_zero, ← List.take_eq_take_min]
  rw [lineStart?, slice?_of_le (Nat.zero_le _) (Nat.min_le_right _ _), front]
  rfl

theorem lineEnd?_eq (text : List Char) (pos : Nat) : lineEnd? text pos = some (lineEnd text pos) := by
  have rest : (text.drop (min pos text.length)).take (text.length - min pos text.length) = text.drop pos := by
    rw [List.take_of_length_le (Nat.le_of_eq List.length_drop)]
    rcases Nat.le_total pos text.length with inside | beyond
    · rw [Nat.min_eq_left inside]
    · rw [Nat.min_eq_right beyond, List.drop_length, List.drop_of_length_le beyond]
  have small : min pos text.length + ((text.drop pos).takeWhile notNewline).length ≤ 2 * text.length + 1 := by
    have ends := lineEnd_le_length text pos
    rw [lineEnd] at ends
    omega
  rw [lineEnd?, slice?_of_le (Nat.min_le_right _ _) (Nat.le_refl _), rest]
  exact sum?_of_le small

theorem lineUp?_eq (within : pos ≤ text.length) : lineUp? text pos = some (lineUp text pos) := by
  rw [lineUp?, lineStart?_eq, lineUp]
  simp only [Option.bind_eq_bind, Option.bind_some]
  split
  · rfl
  · next later =>
      have above := lineStart_le_length text (lineStart text pos - 1)
      rw [difference?_of_le (lineStart_le text pos), difference?_of_le (Nat.one_le_iff_ne_zero.mpr later)]
      simp only [Option.bind_some, lineStart?_eq]
      rw [sum?_of_le (by omega)]
      rfl

theorem lineDown?_eq (within : pos ≤ text.length) : lineDown? text pos = some (lineDown text pos) := by
  rw [lineDown?, lineEnd?_eq, lineDown]
  simp only [Option.bind_eq_bind, Option.bind_some]
  split
  · rfl
  · next earlier =>
      have stop := lineEnd_le_length text pos
      rw [lineStart?_eq]
      simp only [Option.bind_some]
      rw [difference?_of_le (lineStart_le text pos), sum?_of_le (by omega)]
      simp only [Option.bind_some, lineEnd?_eq]
      have column := le_lineEnd within
      rw [sum?_of_le (by omega)]
      rfl

theorem back?_eq (p : Char → Bool) (within : pos ≤ text.length) :
    back? p text pos = some ((text.take pos).reverse.dropWhile p).length := by
  induction pos with
  | zero => rfl
  | succ pos ih =>
      have here : text[pos]? = some text[pos] := List.getElem?_eq_getElem within
      have before : (text.take (pos + 1)).reverse = text[pos] :: (text.take pos).reverse := by
        rw [List.take_succ_eq_append_getElem within, List.reverse_append]
        rfl
      rw [back?, here, before]
      simp only [Option.bind_eq_bind, Option.bind_some]
      cases passes : p text[pos] with
      | true =>
          rw [List.dropWhile_cons_of_pos passes]
          exact ih (Nat.le_of_succ_le within)
      | false =>
          rw [List.dropWhile_cons_of_neg (ne_true_of_eq_false passes), List.length_cons, List.length_reverse,
            List.length_take_of_le (Nat.le_of_succ_le within)]
          rfl

theorem forth?_eq (p : Char → Bool) (within : pos ≤ text.length) :
    forth? p text pos = some (runEnd p text pos) := by
  generalize rest : text.length - pos = left
  induction left generalizing pos with
  | zero =>
      have last : pos = text.length := by omega
      rw [forth?, if_neg (Nat.not_lt.mpr (Nat.le_of_eq last.symm)), runEnd, last, List.drop_length]
      rfl
  | succ left ih =>
      have inside : pos < text.length := by omega
      have here : text[pos]? = some text[pos] := List.getElem?_eq_getElem inside
      have behind : text.drop pos = text[pos] :: text.drop (pos + 1) := List.drop_eq_getElem_cons inside
      rw [forth?, if_pos inside, here, runEnd, behind]
      simp only [Option.bind_eq_bind, Option.bind_some]
      cases passes : p text[pos] with
      | true =>
          rw [List.takeWhile_cons_of_pos passes, List.length_cons, if_pos rfl, ih inside (by omega), runEnd,
            Nat.succ_add_eq_add_succ]
      | false =>
          rw [List.takeWhile_cons_of_neg (ne_true_of_eq_false passes)]
          rfl

end Text

namespace Draft

open Text

variable (d : Draft)

theorem wordLeft?_eq (pos : Nat) : wordLeft? d.text pos = some (d.wordLeft pos) := by
  have short : ((d.text.take pos).reverse.dropWhile fun c => !isWordChar c).length ≤ d.text.length := by
    have kept := (List.dropWhile_sublist (fun c => !isWordChar c) (l := (d.text.take pos).reverse)).length_le
    rw [List.length_reverse, List.length_take] at kept
    omega
  rw [wordLeft?, back?_eq _ (Nat.min_le_right _ _), ← List.take_eq_take_min]
  simp only [Option.bind_eq_bind, Option.bind_some]
  rw [back?_eq _ short]
  exact congrArg (fun front => some (front.dropWhile isWordChar).length) (reverse_take_runStart _ d.text pos)

theorem wordRight?_eq (pos : Nat) : wordRight? d.text pos = some (d.wordRight pos) := by
  rw [wordRight?, forth?_eq _ (Nat.min_le_right _ _)]
  simp only [Option.bind_eq_bind, Option.bind_some]
  rw [forth?_eq _ (runEnd_le_length _ (Nat.min_le_right _ _))]
  rfl

/-- A plain arrow to the left stops at zero. -/
def target? (d : Draft) (arrow : Arrow) (extend : Bool) : Option Nat :=
  match arrow with
  | .left .line => lineStart? d.text d.head
  | .left .word => wordLeft? d.text d.head
  | .left .char => some (if extend || !d.hasSelection then d.head - 1 else d.start)
  | .right .line => lineEnd? d.text d.head
  | .right .word => wordRight? d.text d.head
  | .right .char =>
      if extend || !d.hasSelection then do
        let next ← sum? d.text d.head 1
        return min next d.text.length
      else some d.stop
  | .up => lineUp? d.text (if extend then d.head else d.start)
  | .down => lineDown? d.text (if extend then d.head else d.stop)
  | .top => some 0
  | .bottom => some d.text.length

def move? (d : Draft) (arrow : Arrow) (extend : Bool) : Option Draft := do
  let target ← d.target? arrow extend
  return d.moveTo target extend

/-- The stretch that is replaced must lie in the text. -/
def splice? (d : Draft) (first last : Nat) (inserted : List Char) : Option Draft :=
  if first ≤ last ∧ last ≤ d.text.length then do
    let text := d.text.take first ++ inserted ++ d.text.drop last
    let caret ← sum? text first inserted.length
    return ⟨text, caret, caret⟩
  else none

def selected? (d : Draft) : Option (List Char) := slice? d.text d.start d.stop

variable {d : Draft} (bounds : d.InBounds)

include bounds

theorem target?_eq (arrow : Arrow) (extend : Bool) : d.target? arrow extend = some (d.target arrow extend) := by
  have head := bounds.head
  cases arrow with
  | left reach =>
      cases reach with
      | line => exact lineStart?_eq _ _
      | word => exact d.wordLeft?_eq _
      | char => rfl
  | right reach =>
      cases reach with
      | line => exact lineEnd?_eq _ _
      | word => exact d.wordRight?_eq _
      | char =>
          rw [target?, target, sum?_of_le (by omega)]
          split <;> rfl
  | up =>
      refine lineUp?_eq ?_
      split
      · exact head
      · exact start_le_length bounds
  | down =>
      refine lineDown?_eq ?_
      split
      · exact head
      · exact stop_le_length bounds
  | top | bottom => rfl

theorem move?_eq (arrow : Arrow) (extend : Bool) : d.move? arrow extend = some (d.move arrow extend) := by
  rw [move?, target?_eq bounds]
  rfl

theorem selected?_eq : d.selected? = some d.selected :=
  slice?_of_le d.start_le_stop (stop_le_length bounds)

omit bounds in
theorem splice?_eq {first last : Nat} (order : first ≤ last) (within : last ≤ d.text.length)
    (inserted : List Char) : d.splice? first last inserted = some (d.splice first last inserted) := by
  have small : first + inserted.length ≤
      2 * (d.text.take first ++ inserted ++ d.text.drop last).length + 1 := by
    rw [List.length_append, List.length_append, List.length_take_of_le (Nat.le_trans order within)]
    omega
  rw [splice?, if_pos ⟨order, within⟩]
  dsimp only
  rw [sum?_of_le small]
  rfl

end Draft

namespace TextField

/-! ## Strict operations -/

def deleteRange? (f : TextField) (first last : Nat) : Option TextField :=
  if first < last then do
    let draft ← f.draft.splice? first last []
    return f.edit draft
  else some f

def deleteSelection? (f : TextField) : Option TextField := f.deleteRange? f.draft.start f.draft.stop

def replaceSelection? (f : TextField) (inserted : List Char) : Option TextField :=
  if inserted.isEmpty && !f.draft.hasSelection then some f
  else do
    let draft ← f.draft.splice? f.draft.start f.draft.stop inserted
    return f.edit draft

def copy? (f : TextField) : Option TextField :=
  if f.draft.hasSelection then do
    let selected ← f.draft.selected?
    return { f with clipboard := selected }
  else some f

/-- A plain backspace at the start of the text stops at zero. -/
def backwardStart? (d : Draft) : Reach → Option Nat
  | .line => Text.lineStart? d.text d.head
  | .word => Text.wordLeft? d.text d.head
  | .char => some (d.head - 1)

def perform? (f : TextField) : Shortcut → Option TextField
  | .move arrow extend => do
      let draft ← f.draft.move? arrow extend
      return { f with draft := draft }
  | .deleteBackward reach =>
      if f.draft.hasSelection then f.deleteSelection?
      else do
        let first ← backwardStart? f.draft reach
        f.deleteRange? first f.draft.head
  | .deleteForward =>
      if f.draft.hasSelection then f.deleteSelection?
      else do
        let next ← Text.sum? f.draft.text f.draft.head 1
        f.deleteRange? f.draft.head (min next f.draft.text.length)
  | .selectAll => some { f with draft := f.draft.selectAll }
  | .copy => f.copy?
  | .cut => do
      let copied ← f.copy?
      copied.deleteSelection?
  | .paste => f.replaceSelection? f.clipboard
  | .undo => some f.undoEdit
  | .redo => some f.redoEdit
  | .insert c => f.replaceSelection? [c]
  | .unassigned => some f

def offsetLimit : Nat := UInt64.size - 1

/-- The end of the stretch must be an offset, also where it is beyond the text. -/
def select? (f : TextField) (s : Selection) : Option TextField :=
  if s.offset + s.length ≤ offsetLimit then some (f.select s) else none

def Operation.Addressable : Operation → Prop
  | .select s => s.offset + s.length ≤ offsetLimit
  | .press _ | .inject _ => True

instance : DecidablePred Operation.Addressable
  | .select _ => inferInstanceAs (Decidable (_ ≤ _))
  | .press _ | .inject _ => inferInstanceAs (Decidable True)

def operate? (f : TextField) : Operation → Option TextField
  | .press stroke => f.perform? (.ofKeystroke stroke)
  | .inject stroke => (f.record stroke).perform? (.ofKeystroke stroke)
  | .select s => f.select? s

def operateAll? (f : TextField) (operations : List Operation) : Option TextField := operations.foldlM operate? f

variable {f : TextField}

theorem deleteRange?_eq (f : TextField) (first : Nat) {last : Nat} (within : last ≤ f.draft.text.length) :
    f.deleteRange? first last = some (f.deleteRange first last) := by
  unfold deleteRange? deleteRange
  split
  · next before =>
      rw [Draft.splice?_eq (Nat.le_of_lt before) within]
      rfl
  · rfl

section

variable (bounds : f.draft.InBounds)

include bounds

theorem deleteSelection?_eq : f.deleteSelection? = some f.deleteSelection :=
  deleteRange?_eq f _ (Draft.stop_le_length bounds)

theorem replaceSelection?_eq (inserted : List Char) :
    f.replaceSelection? inserted = some (f.replaceSelection inserted) := by
  unfold replaceSelection? replaceSelection
  split
  · rfl
  · rw [Draft.splice?_eq f.draft.start_le_stop (Draft.stop_le_length bounds)]
    rfl

theorem copy?_eq : f.copy? = some f.copy := by
  unfold copy? copy
  split
  · rw [Draft.selected?_eq bounds]
    rfl
  · rfl

theorem perform?_eq (shortcut : Shortcut) : f.perform? shortcut = some (f.perform shortcut) := by
  have head := bounds.head
  cases shortcut with
  | move arrow extend =>
      rw [perform?, Draft.move?_eq bounds]
      rfl
  | deleteBackward reach =>
      have first : backwardStart? f.draft reach = some (backwardStart f.draft reach) := by
        cases reach with
        | line => exact Text.lineStart?_eq _ _
        | word => exact f.draft.wordLeft?_eq _
        | char => rfl
      unfold perform? perform
      dsimp only
      split
      · exact deleteSelection?_eq bounds
      · rw [first]
        exact deleteRange?_eq f _ head
  | deleteForward =>
      unfold perform? perform
      dsimp only
      split
      · exact deleteSelection?_eq bounds
      · rw [Text.sum?_of_le (by omega)]
        exact deleteRange?_eq f _ (Nat.min_le_right _ _)
  | cut =>
      have copied : f.copy.draft.InBounds := by rwa [draft_copy]
      rw [perform?, copy?_eq bounds]
      exact deleteSelection?_eq copied
  | copy => exact copy?_eq bounds
  | paste => exact replaceSelection?_eq bounds _
  | insert c => exact replaceSelection?_eq bounds _
  | selectAll | undo | redo | unassigned => rfl

end

theorem operate?_eq (bounds : f.InBounds) {operation : Operation} (addressable : operation.Addressable) :
    f.operate? operation = some (f.operate operation) := by
  cases operation with
  | press stroke => exact perform?_eq bounds.draft _
  | inject stroke =>
      have recorded : (f.record stroke).draft.InBounds := bounds.draft
      exact perform?_eq recorded _
  | select s => exact if_pos addressable

theorem InBounds.operate (bounds : f.InBounds) (operation : Operation) : (f.operate operation).InBounds := by
  cases operation with
  | press stroke => exact bounds.press stroke
  | inject stroke => exact bounds.injectAll [stroke]
  | select s => exact inBounds_select bounds s

theorem InBounds.operateAll (bounds : f.InBounds) (operations : List Operation) :
    (f.operateAll operations).InBounds := by
  induction operations generalizing f with
  | nil => exact bounds
  | cons operation rest ih => exact ih (bounds.operate operation)

theorem operateAll?_eq (bounds : f.InBounds) {operations : List Operation}
    (addressable : ∀ operation ∈ operations, operation.Addressable) :
    f.operateAll? operations = some (f.operateAll operations) := by
  induction operations generalizing f with
  | nil => rfl
  | cons operation rest ih =>
      obtain ⟨first, later⟩ := List.forall_mem_cons.mp addressable
      rw [operateAll?, List.foldlM_cons, operate?_eq bounds first]
      exact ih (bounds.operate operation) later

/-- Whatever is done to a field has an outcome in strict editing, and it is what becomes of the field. Its
offsets stay inside its text, those of its history in theirs, and the history stays within its capacity. -/
theorem field_stays_well_formed (text : List Char) {operations : List Operation}
    (addressable : ∀ operation ∈ operations, operation.Addressable) :
    let f := (ofText text).operateAll operations
    (ofText text).operateAll? operations = some f ∧
      (f.draft.anchor ≤ f.text.length ∧ f.draft.head ≤ f.text.length) ∧
      (∀ d ∈ f.undo ++ f.redo, d.anchor ≤ d.text.length ∧ d.head ≤ d.text.length) ∧
      f.undo.length + f.redo.length ≤ 100 := by
  intro f
  have start := inBounds_ofText text
  have bounds : f.InBounds := start.operateAll operations
  refine ⟨operateAll?_eq start addressable, ⟨bounds.draft.anchor, bounds.draft.head⟩, ?_,
    (fits_ofText text).operateAll operations⟩
  intro d listed
  rcases List.mem_append.mp listed with older | newer
  · exact ⟨(bounds.undo d older).anchor, (bounds.undo d older).head⟩
  · exact ⟨(bounds.redo d newer).anchor, (bounds.redo d newer).head⟩

/-- A selection that goes beyond the text is cut out, the cut is undone, and then a word is deleted. -/
theorem field_stays_well_formed_of_long_selection :
    let operations := [.select ⟨3, offsetLimit - 3⟩, .inject (.command .x), .press (.command .z),
      .press (.plain .down), .press (.option .backspace)]
    let f := (ofText "ab\ncd".toList).operateAll operations
    f.text = "ab\n".toList ∧ f.clipboard = "cd".toList ∧ f.undo.length = 1 ∧
      (ofText "ab\ncd".toList).operateAll? operations = some f := by
  intro operations f
  have addressable : ∀ operation ∈ operations, operation.Addressable := by decide
  obtain ⟨outcome, -, -, -⟩ := field_stays_well_formed "ab\ncd".toList addressable
  exact ⟨by decide, by decide, by decide, outcome⟩

end TextField

end ModalKeys
