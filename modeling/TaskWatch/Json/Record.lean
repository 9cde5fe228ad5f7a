/-
# Records in JSON

A record is written as an object, or as an array of its fields in order.  A `Field` has the
name that it is written under and further names that it may be read under; a `Layout` is
the fields of a record in order.

**The reading rules.**

* Members with other names are passed over.
* A field that is given twice, under whatever names, makes the record unreadable
  (`lookup?`).
* In the array form the items stand for the fields in order; missing ones at the end count
  as left out, and there may not be more of them than fields.
* A field that is left out has its default value, if it has one.
-/
import TaskWatch.Json.Basic

namespace TaskWatch.Json

/-- **A field of a record**: its name, and the other names it may be read under. -/
structure Field where
  name : String
  aliases : List String := []
  deriving Repr, DecidableEq

/-- The fields of a record, in order. -/
abbrev Layout := List Field

/-- The members of an object. -/
abbrev Members := List (String × Json)

/-- Whether a name names the field. -/
def Field.accepts (f : Field) (name : String) : Bool :=
  name = f.name || f.aliases.contains name

/-- **The members of a record** in either form. -/
def Layout.members? (layout : Layout) : Json → Option Members
  | object members => some members
  | array items =>
    if items.length ≤ layout.length then some ((layout.map Field.name).zip items) else none
  | _ => none

/-- **What is given for a field.**  `none`: it is given more than once.  `some none`: it is
left out. -/
def Field.lookup? (f : Field) (members : Members) : Option (Option Json) :=
  match members.filter fun m => f.accepts m.1 with
  | [] => some none
  | [m] => some (some m.2)
  | _ => none

/-- **The value of a field**, which is a default if it is left out. -/
def Field.read? {α : Type} (f : Field) (members : Members) (read : Json → Option α)
    (default : α) : Option α := do
  match ← f.lookup? members with
  | none => some default
  | some j => read j

/-- **The value of a field** that may not be left out. -/
def Field.require? {α : Type} (f : Field) (members : Members) (read : Json → Option α) :
    Option α := do
  match ← f.lookup? members with
  | none => none
  | some j => read j

/-- A counter, by default 0. -/
def Field.count? (f : Field) (members : Members) : Option UInt64 :=
  f.read? members natural? 0

/-- A text, by default empty. -/
def Field.text? (f : Field) (members : Members) : Option String :=
  f.read? members string? ""

/-- A flag, by default down. -/
def Field.flag? (f : Field) (members : Members) : Option Bool :=
  f.read? members bool? false

end TaskWatch.Json
