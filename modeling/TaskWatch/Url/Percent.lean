/-
# Percent encoding

A byte that must not stand for itself is written as a percent sign and two hexadecimal
digits.  Which bytes those are depends on the part of the address, so `encode` takes the set
as an argument.  `decode` turns every well-formed escape back into its byte and leaves all
else alone.
-/
import TaskWatch.Text.Utf8

namespace TaskWatch.Url.Percent

/-- A hexadecimal digit, in upper case. -/
def hexDigit (n : Nat) : Char :=
  if n < 10 then Char.ofNat ('0'.toNat + n) else Char.ofNat ('A'.toNat + (n - 10))

/-- The value of a hexadecimal digit of either case. -/
def hexValue? (b : UInt8) : Option Nat :=
  let n := b.toNat
  if 0x30 ≤ n ∧ n ≤ 0x39 then some (n - 0x30)
  else if 0x41 ≤ n ∧ n ≤ 0x46 then some (n - 0x41 + 10)
  else if 0x61 ≤ n ∧ n ≤ 0x66 then some (n - 0x61 + 10)
  else none

/-- **One byte**: itself, or its escape. -/
def encodeByte (escaped : UInt8 → Bool) (b : UInt8) : List Char :=
  if escaped b then ['%', hexDigit (b.toNat / 16), hexDigit (b.toNat % 16)]
  else [Char.ofNat b.toNat]

/-- **A text with the bytes of a set escaped.** -/
def encode (escaped : UInt8 → Bool) (s : String) : String :=
  String.ofList ((Text.Utf8.encode s).flatMap (encodeByte escaped))

/-- **Bytes with every escape undone.** -/
def decode : List UInt8 → List UInt8
  | 0x25 :: a :: b :: rest =>
    match hexValue? a, hexValue? b with
    | some x, some y => UInt8.ofNat (16 * x + y) :: decode rest
    | _, _ => 0x25 :: decode (a :: b :: rest)
  | b :: rest => b :: decode rest
  | [] => []

/-! ## Sets -/

/-- Control bytes and everything outside ASCII. -/
def isControl (b : UInt8) : Bool :=
  b.toNat < 0x20 || 0x7e < b.toNat

/-- A byte among some ASCII characters. -/
def isAmong (cs : List Char) (b : UInt8) : Bool :=
  cs.any fun c => c.toNat = b.toNat

/-- Escaped in a fragment. -/
def inFragment (b : UInt8) : Bool :=
  isControl b || isAmong [' ', '"', '<', '>', Char.ofNat 0x60] b

/-- Escaped in a query. -/
def inQuery (b : UInt8) : Bool :=
  isControl b || isAmong [' ', '"', '#', '<', '>'] b

/-- Escaped in the query of a special address. -/
def inSpecialQuery (b : UInt8) : Bool :=
  inQuery b || isAmong ['\''] b

/-- Escaped in a path. -/
def inPath (b : UInt8) : Bool :=
  inQuery b || isAmong ['?', '^', Char.ofNat 0x60, '{', '}'] b

/-- Escaped in the name and the password of a user. -/
def inUserinfo (b : UInt8) : Bool :=
  inPath b || isAmong ['/', ':', ';', '=', '@', '[', '\\', ']', '|'] b

/-- **Unreserved bytes**: letters, digits and four marks. -/
def isUnreserved (b : UInt8) : Bool :=
  let n := b.toNat
  (0x30 ≤ n && n ≤ 0x39) || (0x41 ≤ n && n ≤ 0x5a) || (0x61 ≤ n && n ≤ 0x7a) ||
    isAmong ['-', '.', '_', '~'] b

/-- **A text as one component of an address**: all but the unreserved bytes escaped. -/
def component (s : String) : String :=
  encode (fun b => !isUnreserved b) s

end TaskWatch.Url.Percent
