/-
# Text with a mark at its start

Bytes that are meant to be text may begin with a mark that says how they are written: UTF-8,
or UTF-16 in one of the two orders of its bytes.  Without a mark they are UTF-8.  The mark is
no part of the text, and what is ill-formed becomes U+FFFD.

**The rule for ill-formed units.**  The first half of a pair without the second is one
replacement, and so is a second half without the first.  At the end, a half that waits for
its partner and a byte that waits for the other byte of its unit are one replacement
together.
-/
import TaskWatch.Text.Utf8

namespace TaskWatch.Text

namespace Utf16

/-! ## 1. Units -/

/-- The unit is the first half of a pair. -/
def isFirst (unit : Nat) : Bool :=
  0xd800 ≤ unit && unit < 0xdc00

/-- The unit is the second half of a pair. -/
def isSecond (unit : Nat) : Bool :=
  0xdc00 ≤ unit && unit < 0xe000

/-- The units that bytes write; `big` says that the high byte comes first.  A last byte
without another one is no unit. -/
def units (big : Bool) : List UInt8 → List Nat
  | a :: b :: rest =>
    (if big then a.toNat * 0x100 + b.toNat else b.toNat * 0x100 + a.toNat) :: units big rest
  | _ => []

/-! ## 2. Reading -/

/-- The character of two halves. -/
def pair (first second : Nat) : Char :=
  Char.ofNat (0x10000 + (first - 0xd800) * 0x400 + (second - 0xdc00))

/-- Start at a unit: the character that is complete at once, and the half that is pending. -/
def start (unit : Nat) : List Char × Option Nat :=
  if isFirst unit then ([], some unit)
  else if isSecond unit then ([Utf8.replacement], none)
  else ([Char.ofNat unit], none)

/-- **One unit.**  It completes the pending half, or replaces it and starts anew. -/
def feed (pending : Option Nat) (unit : Nat) : List Char × Option Nat :=
  match pending with
  | none => start unit
  | some first =>
    if isSecond unit then ([pair first unit], none)
    else
      let (out, next) := start unit
      (Utf8.replacement :: out, next)

/-- Read units with a half pending; `odd` says that a byte is left over behind them. -/
def decodeFrom (odd : Bool) (pending : Option Nat) : List Nat → List Char
  | [] => if odd || pending.isSome then [Utf8.replacement] else []
  | unit :: rest =>
    let (out, next) := feed pending unit
    out ++ decodeFrom odd next rest

/-- **Bytes as a text**, ill-formed pieces replaced. -/
def decode (big : Bool) (bytes : List UInt8) : String :=
  String.ofList (decodeFrom (bytes.length % 2 = 1) none (units big bytes))

end Utf16

/-! ## 3. Marks -/

/-- **The text that bytes write**, as their mark says. -/
def decodeMarked (bytes : List UInt8) : String :=
  if [0xef, 0xbb, 0xbf].isPrefixOf bytes then Utf8.decode (bytes.drop 3)
  else if [0xfe, 0xff].isPrefixOf bytes then Utf16.decode true (bytes.drop 2)
  else if [0xff, 0xfe].isPrefixOf bytes then Utf16.decode false (bytes.drop 2)
  else Utf8.decode bytes

end TaskWatch.Text
