/-
# Text as bytes

Everything that crosses the wire is bytes.  `encode` writes a text as UTF-8; `decode`
reads bytes back and never fails: what is not UTF-8 becomes U+FFFD, one for each maximal
piece that starts like a character and does not continue like one.

**The rule for ill-formed bytes.**  A lead byte fixes how many continuation bytes follow
and, for four of the lead bytes, a narrower range for the first of them (`leadSpan`).
Reading takes continuation bytes for as long as they fit.  At the first one that does not,
what was taken so far is one replacement character, and reading goes on with the byte that
did not fit.
-/

namespace TaskWatch.Text.Utf8

/-! ## 1. Writing -/

/-- The continuation byte that carries the six lowest bits of a number. -/
def continuation (n : Nat) : UInt8 :=
  UInt8.ofNat (0x80 + n % 0x40)

/-- **One character as bytes**, shortest form. -/
def encodeChar (c : Char) : List UInt8 :=
  let n := c.toNat
  if n < 0x80 then
    [UInt8.ofNat n]
  else if n < 0x800 then
    [UInt8.ofNat (0xc0 + n / 0x40), continuation n]
  else if n < 0x10000 then
    [UInt8.ofNat (0xe0 + n / 0x1000), continuation (n / 0x40), continuation n]
  else
    [UInt8.ofNat (0xf0 + n / 0x40000), continuation (n / 0x1000), continuation (n / 0x40),
      continuation n]

/-- The bytes of a list of characters. -/
def encodeChars (cs : List Char) : List UInt8 :=
  cs.flatMap encodeChar

/-- **A text as bytes.** -/
def encode (s : String) : List UInt8 :=
  encodeChars s.toList

/-! ## 2. Reading -/

/-- The character that stands for bytes that are no text. -/
def replacement : Char := '\uFFFD'

/-- How a lead byte starts a character: how many continuation bytes follow it, the range
that the first of them has to lie in, and the bits that the lead byte itself gives. -/
structure LeadSpan where
  more : Nat
  low : Nat
  high : Nat
  bits : Nat
  deriving DecidableEq, Repr

/-- **What a byte starts.**  `none` for a byte that starts no character: a continuation
byte, a byte that could only start an overlong form, or one beyond the last code point. -/
def leadSpan (b : UInt8) : Option LeadSpan :=
  let n := b.toNat
  if n < 0x80 then some ⟨0, 0, 0, n⟩
  else if n < 0xc2 then none
  else if n < 0xe0 then some ⟨1, 0x80, 0xbf, n - 0xc0⟩
  else if n = 0xe0 then some ⟨2, 0xa0, 0xbf, 0⟩
  else if n = 0xed then some ⟨2, 0x80, 0x9f, 0xd⟩
  else if n < 0xf0 then some ⟨2, 0x80, 0xbf, n - 0xe0⟩
  else if n = 0xf0 then some ⟨3, 0x90, 0xbf, 0⟩
  else if n < 0xf4 then some ⟨3, 0x80, 0xbf, n - 0xf0⟩
  else if n = 0xf4 then some ⟨3, 0x80, 0x8f, 4⟩
  else none

/-- What the reader is in the middle of: how many continuation bytes are missing, the
range of the next one, and the bits read so far. -/
structure Pending where
  missing : Nat
  low : Nat
  high : Nat
  bits : Nat
  deriving DecidableEq, Repr

/-- Start a character at a byte: the characters that are complete at once (an ASCII one,
or the replacement of a byte that starts nothing), and what is pending. -/
def start (b : UInt8) : List Char × Option Pending :=
  match leadSpan b with
  | none => ([replacement], none)
  | some span =>
    if span.more = 0 then ([Char.ofNat span.bits], none)
    else ([], some ⟨span.more, span.low, span.high, span.bits⟩)

/-- **One byte.**  A byte that continues the pending character either completes it or
leaves less of it pending; one that does not fit replaces what was pending and starts
anew. -/
def feed (pending : Option Pending) (b : UInt8) : List Char × Option Pending :=
  match pending with
  | none => start b
  | some p =>
    if p.low ≤ b.toNat ∧ b.toNat ≤ p.high then
      let bits := p.bits * 0x40 + b.toNat % 0x40
      if p.missing ≤ 1 then ([Char.ofNat bits], none)
      else ([], some ⟨p.missing - 1, 0x80, 0xbf, bits⟩)
    else
      let (out, next) := start b
      (replacement :: out, next)

/-- Read bytes with a character pending; at the end, what is still pending is replaced. -/
def decodeFrom (pending : Option Pending) : List UInt8 → List Char
  | [] => if pending.isSome then [replacement] else []
  | b :: rest =>
    let (out, next) := feed pending b
    out ++ decodeFrom next rest

/-- **Bytes as characters**, ill-formed pieces replaced. -/
def decodeChars (bytes : List UInt8) : List Char :=
  decodeFrom none bytes

/-- **Bytes as a text.** -/
def decode (bytes : List UInt8) : String :=
  String.ofList (decodeChars bytes)

/-- **Bytes as a text, if they are one.**  `none` when a piece is ill-formed: writing what
was read back does not give the same bytes. -/
def decode? (bytes : List UInt8) : Option String :=
  let s := decode bytes
  if encode s = bytes then some s else none

end TaskWatch.Text.Utf8
