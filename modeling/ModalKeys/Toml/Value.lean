/-!
# Values of a settings document

A table remembers how it came about, because that decides what may still be added to it.
-/

namespace ModalKeys.Toml

inductive TableForm where
  /-- Written between braces; complete. -/
  | inline
  /-- Opened by a header of its own. -/
  | headed
  /-- Not written itself, but passed through by a longer header. -/
  | implied
  /-- Made by the dots of a key. -/
  | dotted
deriving DecidableEq, Repr

inductive Value where
  | text (chars : List Char)
  | integer (value : Int)
  | float (literal : List Char)
  | boolean (value : Bool)
  | date (literal : List Char)
  /-- An array; it grows while headers in double brackets add tables to it. -/
  | array (grows : Bool) (items : List Value)
  | table (form : TableForm) (entries : List (List Char × Value))
deriving Repr

abbrev Entries := List (List Char × Value)

namespace Entries

def get? (entries : Entries) (key : List Char) : Option Value := entries.lookup key

/-- Gives a key a value in the place it has, or at the end if it is new. -/
def set : Entries → List Char → Value → Entries
  | [], key, value => [(key, value)]
  | (first, old) :: rest, key, value =>
      if first = key then (first, value) :: rest else (first, old) :: set rest key value

/-- Applies a change to the table that a path of keys leads to, making the tables on the way that are
missing. A path goes through the last table of a growing array. It never enters a value, and a path
of dots never enters a table that has a header. -/
def update (dots : Bool) (change : TableForm → Entries → Option Entries) :
    List (List Char) → TableForm → Entries → Option Entries
  | [], form, entries => change form entries
  | key :: path, _, entries =>
      match entries.get? key with
      | none =>
          let form : TableForm := if dots then .dotted else .implied
          (update dots change path form []).map fun inner => entries.set key (.table form inner)
      | some (.table form inner) =>
          if form = .inline ∨ (dots ∧ form = .headed) then none
          else
            (update dots change path form inner).map fun inner => entries.set key (.table form inner)
      | some (.array true items) =>
          match items.getLast? with
          | some (.table form inner) =>
              (update dots change path form inner).map fun inner =>
                entries.set key (.array true (items.dropLast ++ [.table form inner]))
          | _ => none
      | some _ => none

/-- Adds a value under a dotted key. A key of one part belongs to a written table, one of several
parts to a table made by dots. -/
def insert (entries : Entries) (form : TableForm) (path : List (List Char)) (key : List Char)
    (value : Value) : Option Entries :=
  update true (fun form entries =>
    if (form == .dotted) == path.isEmpty then none
    else if (entries.get? key).isSome then none
    else some (entries.set key value)) path form entries

/-- Opens the table of a header. It must be new, or implied by earlier headers. -/
def openTable (entries : Entries) (path : List (List Char)) (key : List Char) : Option Entries :=
  update false (fun _ entries =>
    match entries.get? key with
    | none => some (entries.set key (.table .headed []))
    | some (.table .implied inner) => some (entries.set key (.table .headed inner))
    | some _ => none) path .headed entries

def openElement (entries : Entries) (path : List (List Char)) (key : List Char) : Option Entries :=
  update false (fun _ entries =>
    match entries.get? key with
    | none => some (entries.set key (.array true [.table .headed []]))
    | some (.array true items) => some (entries.set key (.array true (items ++ [.table .headed []])))
    | some _ => none) path .headed entries

def insertAt (entries : Entries) (opened : List (List Char)) (path : List (List Char))
    (key : List Char) (value : Value) : Option Entries :=
  update false (fun form entries => entries.insert form path key value) opened .headed entries

end Entries

end ModalKeys.Toml
