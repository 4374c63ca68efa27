import ModalKeys.Settings.Basic
import ModalKeys.Toml.Document

/-!
# Settings in a document

How the entries of a document become settings. Every setting may be missing, and entries with other
names are ignored. A section may also be given as an array of its settings in their order; a date
stands for a section that sets nothing.
-/

namespace ModalKeys.Settings

open Toml

def natural? : Value → Option Nat
  | .integer value => if 0 ≤ value then some value.toNat else none
  | _ => none

def boolean? : Value → Option Bool
  | .boolean value => some value
  | _ => none

def text? : Value → Option String
  | .text chars => some (String.ofList chars)
  | _ => none

/-- A mode is named by a string, or by the only key of a table that holds nothing under it. -/
def mode? : Value → Option Mode
  | .text chars => Mode.ofKey? (String.ofList chars)
  | .table _ [(key, .array _ [])] | .table _ [(key, .table _ [])] => Mode.ofKey? (String.ofList key)
  | _ => none

/-- The settings of a section by name, or none when the value cannot be a section. -/
def section? (names : List String) : Value → Option (String → Option Value)
  | .table _ entries => some fun name => entries.lookup name.toList
  | .array _ items => some fun name => (names.zip items).lookup name
  | .date _ => some fun _ => none
  | _ => none

/-- The value of a setting: the usual one when it is missing, none when it has the wrong type. -/
def setting {α : Type} (value : Option Value) (decode : Value → Option α) (usual : α) : Option α :=
  match value with
  | none => some usual
  | some value => decode value

def chord? (value : Value) : Option ChordSetting := do
  let field ← section? ["sequence", "timeout_ms", "target"] value
  let keys ← setting (field "sequence") text? ChordSetting.usual.keys
  let timeout ← setting (field "timeout_ms") natural? ChordSetting.usual.timeout
  let target ← setting (field "target") mode? ChordSetting.usual.target
  some ⟨keys, timeout, target⟩

def chords? : Value → Option (List ChordSetting)
  | .array _ items => items.mapM chord?
  | _ => none

def timing? (value : Value) : Option (Nat × Nat) := do
  let field ← section? ["settle_ms", "reply_timeout_ms"] value
  let settle ← setting (field "settle_ms") natural? usual.settle
  let reply ← setting (field "reply_timeout_ms") natural? usual.replyTimeout
  some (settle, reply)

def maxCount? (value : Value) : Option Nat := do
  let field ← section? ["max_count"] value
  setting (field "max_count") natural? usual.maxCount

def introspection? (value : Value) : Option Bool := do
  let field ← section? ["introspection"] value
  setting (field "introspection") boolean? usual.introspection

/-- The settings that a document makes, or none when one has the wrong type. -/
def ofEntries? (entries : Entries) : Option Settings := do
  let field (name : String) : Option Value := entries.lookup name.toList
  let startMode ← setting (field "start_mode") mode? usual.startMode
  let chords ← setting (field "chords") chords? usual.chords
  let (settle, reply) ← setting (field "timing") timing? (usual.settle, usual.replyTimeout)
  let maxCount ← setting (field "normal") maxCount? usual.maxCount
  let introspection ← setting (field "field") introspection? usual.introspection
  some ⟨startMode, chords, settle, reply, maxCount, introspection⟩

/-- The settings that a text makes, or none when it is no document or has a wrong type. -/
def ofText? (text : List Char) : Option Settings := (Toml.read? text).bind ofEntries?

end ModalKeys.Settings
