/-
# Numbers in JSON texts

A number literal is a sign, an integer part without leading zeros, an optional fraction and
an optional exponent.  `Literal.value` decides which of the three kinds of number it
denotes (see `Json`), or that it denotes none because it lies beyond the doubles.

**The double of a literal.**  The decimal digits are gathered into a 64-bit significand and
a power of ten.  Digits that no longer fit the significand only move the power of ten
(`gather`).  The significand is then rounded to a double and multiplied or divided by one
power of ten, or by two of them when the exponent lies below -308 (`scale`).  The result
is a finite double or nothing: `scale` never gives an infinity.
-/
import TaskWatch.Json.Basic

namespace TaskWatch.Json

/-- **A number literal**, split into its parts.  A missing fraction or exponent is `none`. -/
structure Literal where
  minus : Bool
  whole : List Char
  fraction : Option (List Char)
  /-- The sign and the digits of the exponent. -/
  exponent : Option (Bool × List Char)
  deriving Repr, DecidableEq

/-! ## 1. Recognising a literal -/

/-- The value of a decimal digit. -/
def digitValue (c : Char) : Nat :=
  c.toNat - '0'.toNat

/-- The number that a list of decimal digits writes. -/
def digitsValue (ds : List Char) : Nat :=
  ds.foldl (fun n c => 10 * n + digitValue c) 0

/-- The digits at the start of a text, and the rest. -/
def spanDigits (cs : List Char) : List Char × List Char :=
  (cs.takeWhile Char.isDigit, cs.dropWhile Char.isDigit)

/-- At least one digit, and the rest. -/
def someDigits? (cs : List Char) : Option (List Char × List Char) :=
  let (ds, rest) := spanDigits cs
  if ds.isEmpty then none else some (ds, rest)

/-- The integer part: one digit or several, and no zero in front of another digit. -/
def whole? (cs : List Char) : Option (List Char × List Char) := do
  let (ds, rest) ← someDigits? cs
  if ds.head? = some '0' ∧ ds ≠ ['0'] then none else some (ds, rest)

/-- The fraction, if a point follows. -/
def fraction? : List Char → Option (Option (List Char) × List Char)
  | '.' :: cs => do
    let (ds, rest) ← someDigits? cs
    some (some ds, rest)
  | cs => some (none, cs)

/-- The sign of an exponent: true for a minus. -/
def exponentSign : List Char → Bool × List Char
  | '+' :: cs => (false, cs)
  | '-' :: cs => (true, cs)
  | cs => (false, cs)

/-- The exponent, if the letter follows. -/
def exponent? : List Char → Option (Option (Bool × List Char) × List Char)
  | c :: cs =>
    if c = 'e' ∨ c = 'E' then do
      let (minus, cs) := exponentSign cs
      let (ds, rest) ← someDigits? cs
      some (some (minus, ds), rest)
    else some (none, c :: cs)
  | [] => some (none, [])

/-- **A literal at the start of a text**, and the rest of the text. -/
def literal? (cs : List Char) : Option (Literal × List Char) := do
  let (minus, cs) := match cs with
    | '-' :: cs => (true, cs)
    | cs => (false, cs)
  let (whole, cs) ← whole? cs
  let (fraction, cs) ← fraction? cs
  let (exponent, cs) ← exponent? cs
  some (⟨minus, whole, fraction, exponent⟩, cs)

/-! ## 2. Its value -/

/-- **Gathering digits.**  Digits are appended to the significand for as long as it fits
64 bits; what is left over is given back. -/
def gather (significand : Nat) : List Char → Nat × List Char
  | [] => (significand, [])
  | c :: cs =>
    let next := 10 * significand + digitValue c
    if next < UInt64.size then gather next cs else (significand, c :: cs)

/-- The double nearest to a power of ten, for exponents up to 308. -/
def powerOfTen (k : Nat) : Float :=
  Float.ofScientific 1 false k

/-- **A double times a power of ten**; `none` beyond the doubles. -/
def scale (x : Float) (e : Int) : Option Float :=
  if e > 308 then
    if x == 0.0 then some x else none
  else if 0 ≤ e then
    let y := x * powerOfTen e.toNat
    if y.isInf then none else some y
  else if -308 ≤ e then
    some (x / powerOfTen (-e).toNat)
  else if -616 ≤ e then
    some (x / powerOfTen 308 / powerOfTen (-(e + 308)).toNat)
  else
    some 0.0

/-- The exponent as a number. -/
def exponentValue : Option (Bool × List Char) → Int
  | none => 0
  | some (minus, ds) => if minus then -(digitsValue ds : Int) else digitsValue ds

/-- **The double of a literal**, without its sign. -/
def Literal.magnitude? (l : Literal) : Option Float :=
  let (significand, overflow) := gather 0 l.whole
  let fraction := l.fraction.getD []
  let (significand, dropped) := gather significand fraction
  let shift : Int := overflow.length - (fraction.length - dropped.length : Nat)
  scale (Float.ofNat significand) (shift + exponentValue l.exponent)

/-- **What a literal denotes.** -/
def Literal.value (l : Literal) : Json :=
  let n := digitsValue l.whole
  if l.fraction.isNone ∧ l.exponent.isNone ∧ !l.minus ∧ n < UInt64.size then
    natural (UInt64.ofNat n)
  else if l.fraction.isNone ∧ l.exponent.isNone ∧ l.minus ∧ 0 < n ∧ n ≤ Nat.pow 2 63 then
    negative (UInt64.ofNat n)
  else
    match l.magnitude? with
    | some x => real (if l.minus then -x else x).toBits
    | none => unreadable

end TaskWatch.Json
