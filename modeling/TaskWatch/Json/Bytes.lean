/-
# JSON in bytes

A body is bytes, and a reader of JSON takes them as they come: it does not first ask whether
the whole of them is text.  So a string that nobody needs may hold bytes that are no text,
and a reader passes over it; bytes that are no text outside of every string are a fault.

**Spelling.**  `spelling` turns bytes into a text that denotes the same.  Bytes that are text
are spelled by it.  For those that are not stands a `blot`: inside a string it is in the
grammar and is no text, like half a surrogate pair, and anywhere else it is a fault.  Nothing
in front of it or behind it can complete it.

An ASCII byte is a character wherever it stands, so only the bytes between two of them have
to be looked at together.
-/
import TaskWatch.Json.Reader
import TaskWatch.Text.Utf8

namespace TaskWatch.Json

open Text

/-- The byte is no character of its own. -/
def isWide (b : UInt8) : Bool :=
  0x80 ≤ b

/-- **What stands for bytes that are no text.**  The second half of a pair has no first half
in front of it, for a character stands there; and that character may stand in a string only. -/
def blot : List Char :=
  ['\uFFFD', '\\', 'u', 'd', 'c', '0', '0']

/-- The spelling of bytes that stand together. -/
def spellRun (bytes : List UInt8) : List Char :=
  match Utf8.decode? bytes with
  | some text => text.toList
  | none => blot

/-- **Bytes cut** into the ASCII ones, each on its own, and what stands between them. -/
def runs (bytes : List UInt8) : List (List UInt8) :=
  bytes.splitBy fun a b => isWide a && isWide b

/-- The spelling of bytes, piece by piece. -/
def spellChars (bytes : List UInt8) : List Char :=
  (runs bytes).flatMap spellRun

/-- **The spelling of bytes.** -/
def spelling (bytes : List UInt8) : String :=
  String.ofList (spellChars bytes)

/-- **The value that bytes denote.** -/
def readBytes? (bytes : List UInt8) : Option Json :=
  read? (spelling bytes)

end TaskWatch.Json
