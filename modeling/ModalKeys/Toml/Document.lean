import ModalKeys.Toml.Number

/-!
# Settings documents

A document is a sequence of lines: headers, which open a table, and keys with values, which go into
the table last opened. Reading gives the entries of the root table, or nothing when the text is no
document.
-/

namespace ModalKeys.Toml

/-- How deep arrays and inline tables may nest, and how many parts a dotted key may have. -/
def nestingLimit : Nat := 79

def isBareKeyChar (c : Char) : Bool := c.isAlphanum || c == '_' || c == '-'

/-- Takes one part of a dotted key. -/
def keyPart? : Scanner (List Char) := fun cs =>
  let cs := skipBlanks cs
  let part :=
    match shortString? cs with
    | some result => some result
    | none => some1 (charOf isBareKeyChar) cs
  part.map fun (name, rest) => (name, skipBlanks rest)

/-- Takes a dotted key, as the parts before the last and the last. -/
def key? : Scanner (List (List Char) × List Char) := fun cs =>
  match keyPart? cs with
  | none => none
  | some (first, rest) =>
      let (later, rest) := many (fun cs => (expect '.' cs).bind keyPart?) rest
      let parts := first :: later
      if nestingLimit < parts.length then none
      else some ((parts.dropLast, parts.getLast (List.cons_ne_nil first later)), rest)

/-- Takes items between separators. -/
def separated {α : Type} (item : Scanner α) (cs : List Char) : List α × List Char :=
  match item cs with
  | none => ([], cs)
  | some (first, rest) =>
      let (later, rest) := many (fun cs => (expect ',' cs).bind item) rest
      (first :: later, rest)

/-- Takes the rest of an array after its bracket. Blank space may span lines, and a separator may
follow the last item. -/
def array? (value : Scanner Value) : Scanner Value := fun cs =>
  let item : Scanner Value := fun cs => (value (skipSpace cs)).map fun (v, rest) => (v, skipSpace rest)
  let (items, rest) := separated item cs
  let rest := if items.isEmpty then rest else (expect ',' rest).getD rest
  (expect ']' (skipSpace rest)).map (.array false items, ·)

def pair? (value : Scanner Value) : Scanner ((List (List Char) × List Char) × Value) := fun cs => do
  let (key, rest) ← key? cs
  let rest ← expect '=' rest
  let (v, rest) ← value (skipBlanks rest)
  some ((key, v), skipBlanks rest)

def inlineTable? (value : Scanner Value) : Scanner Value := fun cs => do
  let (pairs, rest) := separated (pair? value) cs
  let rest ← expect '}' (skipBlanks rest)
  let entries ← pairs.foldlM (fun (entries : Entries) pair =>
    entries.insert .inline pair.1.1 pair.1.2 pair.2) []
  some (.table .inline entries, rest)

def trueWord : List Char := ['t', 'r', 'u', 'e']

def falseWord : List Char := ['f', 'a', 'l', 's', 'e']

/-- Takes a value that holds at most `room` levels of arrays and inline tables. -/
def value? : Nat → Scanner Value
  | room, cs =>
      match cs with
      | '[' :: rest =>
          match room with
          | 0 => none
          | room + 1 => array? (value? room) rest
      | '\x7b' :: rest =>
          match room with
          | 0 => none
          | room + 1 => inlineTable? (value? room) rest
      | 't' :: _ => (word trueWord cs).map (.boolean true, ·)
      | 'f' :: _ => (word falseWord cs).map (.boolean false, ·)
      | '\x22' :: _ | '\x27' :: _ => (string? cs).map fun (chars, rest) => (.text chars, rest)
      | _ => number? cs

/-- A document as far as it is read: the root table, and the path of the table last opened. -/
structure Document where
  root : Entries
  opened : List (List Char)

/-- Takes a header in double brackets after the first. -/
def elementHeader? (doc : Document) : Scanner Document := fun cs => do
  let ((path, key), rest) ← key? cs
  let rest ← word [']', ']'] rest
  let rest ← endLine? rest
  let root ← doc.root.openElement path key
  some (⟨root, path ++ [key]⟩, rest)

def header? (doc : Document) : Scanner Document := fun cs => do
  let ((path, key), rest) ← key? cs
  let rest ← expect ']' rest
  let rest ← endLine? rest
  let root ← doc.root.openTable path key
  some (⟨root, path ++ [key]⟩, rest)

def assignment? (doc : Document) : Scanner Document := fun cs => do
  let (((path, key), v), rest) ← pair? (value? nestingLimit) cs
  let rest ← endLine? rest
  let root ← doc.root.insertAt doc.opened path key v
  some ({ doc with root := root }, rest)

def line? (doc : Document) : Scanner Document := fun cs =>
  match cs with
  | '#' :: _ => (endLine? cs).map (doc, ·)
  | '[' :: '[' :: rest => elementHeader? doc rest
  | '[' :: rest => header? doc rest
  | '\n' :: _ | '\r' :: _ => (newline? cs).map (doc, ·)
  | _ => assignment? doc cs

def lines? (doc : Document) (cs : List Char) : Option Document :=
  match skipBlanks cs with
  | [] => some doc
  | first :: later =>
      match line? doc (first :: later) with
      | none => none
      | some (next, rest) => if rest.length < cs.length then lines? next rest else none
termination_by cs.length

/-- Reads a document, after a byte order mark if there is one. -/
def read? (text : List Char) : Option Entries :=
  let cs := match text with
    | '\ufeff' :: rest => rest
    | _ => text
  (lines? ⟨[], []⟩ cs).map Document.root

end ModalKeys.Toml
