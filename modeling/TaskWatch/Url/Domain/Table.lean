/-
# Tables of characters

A property of characters is written as a table: ranges of code points in hexadecimal, in
increasing order, with blanks between them.  An entry of a table of values has a mark behind
its range and a value behind the mark.

Entries that are not well formed are passed over.
-/
import TaskWatch.Text.Cut
import TaskWatch.Json.Reader

namespace TaskWatch.Url.Domain

/-- A number in hexadecimal. -/
def hex? (cs : List Char) : Option Nat :=
  if cs.isEmpty then none
  else
    cs.foldl (fun n c => do
      let n ← n
      let digit ← Json.hexValue? c
      some (16 * n + digit)) (some 0)

/-- The entries of a table. -/
def entries (table : String) : List (List Char) :=
  (Text.cut (fun c => c = ' ' || c = '\n') table.toList).filter (!·.isEmpty)

/-- **A range of code points.** -/
structure Span where
  first : Nat
  last : Nat
  deriving Repr, DecidableEq, Inhabited

def Span.contains (s : Span) (n : Nat) : Bool :=
  s.first ≤ n && n ≤ s.last

/-- One code point, or two with a dash between them. -/
def span? (cs : List Char) : Option Span :=
  match Text.cut (· = '-') cs with
  | [a] => (hex? a).map fun n => ⟨n, n⟩
  | [a, b] => do
    let first ← hex? a
    let last ← hex? b
    some ⟨first, last⟩
  | _ => none

/-- **The ranges of a table.** -/
def spans (table : String) : List Span :=
  (entries table).filterMap span?

/-- Whether one of the ranges holds a character. -/
def holds (ranges : List Span) (c : Char) : Bool :=
  ranges.any (·.contains c.toNat)

/-- The two sides of an entry around a mark. -/
def sides? (mark : Char) (cs : List Char) : Option (List Char × List Char) :=
  match Text.cut (· = mark) cs with
  | [a, b] => some (a, b)
  | _ => none

/-- Code points with commas between them, as characters. -/
def chars? (cs : List Char) : Option (List Char) :=
  (Text.cut (· = ',') cs).mapM fun code => (hex? code).map Char.ofNat

end TaskWatch.Url.Domain
