/-
# The shortest decimal of a double

A finite double is `m · 2^q` for a natural `m`.  The reals that round to it form an
interval around it; its ends belong to the interval exactly when `m` is even.  The text of
a double is the shortest decimal inside that interval, and of those with that many digits
the nearest to the double itself.

**How it is found.**  For 1, 2, … 17 significant digits the decimals with that many digits
form a grid near the double.  Its two neighbours on the grid, below and above, are tested
in exact arithmetic; the first grid with a hit wins, and of two hits the nearer.  Seventeen
digits always hit.

**How it is laid out** is a matter of the format, not of the digits (`layout`): positional
from 10^-5 up to 10^16, always with a point; beyond that one digit before the point and an
exponent without a plus sign.
-/

namespace TaskWatch.Json.Shortest

/-- **A positive finite double**, taken apart: `mantissa · 2^exponent`, and whether the
next smaller double is only half as far away as the next larger one. -/
structure Parts where
  mantissa : Nat
  exponent : Int
  narrowBelow : Bool
  deriving Repr, DecidableEq

/-- The parts of a double from its bits, the sign bit left out. -/
def parts (bits : Nat) : Parts :=
  let fraction : Nat := bits % Nat.pow 2 52
  let biased : Nat := bits / Nat.pow 2 52 % Nat.pow 2 11
  if biased = 0 then ⟨fraction, -1074, false⟩
  else ⟨fraction + Nat.pow 2 52, (biased : Int) - 1075, fraction = 0 && 1 < biased⟩

/-- **A decimal**: digits, and the power of ten they are multiplied with. -/
structure Decimal where
  digits : Nat
  exponent : Int
  deriving Repr, DecidableEq

/-- The double, the middle and the two ends of its interval on one common scale: all of
them times `4 · 10^k / 2^q` or so, as natural numbers, together with the unit that one step
of the decimal grid `10^e` has on that scale. -/
structure Scaled where
  value : Nat
  below : Nat
  above : Nat
  unit : Nat
  deriving Repr, DecidableEq

/-- Put a double and the grid of the multiples of `10^e` on one scale. -/
def Parts.scaled (p : Parts) (e : Int) : Scaled :=
  let two := Nat.pow 2 p.exponent.toNat
  let twoBelow := Nat.pow 2 (-p.exponent).toNat
  let ten := Nat.pow 10 e.toNat
  let tenBelow := Nat.pow 10 (-e).toNat
  let unit := 4 * two * tenBelow
  let half := unit / 2
  let value := p.mantissa * unit
  ⟨value, value - (if p.narrowBelow then half / 2 else half), value + half, 4 * ten * twoBelow⟩

/-- Whether a point of the scale rounds to the double. -/
def Scaled.holds (s : Scaled) (even : Bool) (x : Nat) : Bool :=
  if even then s.below ≤ x && x ≤ s.above else s.below < x && x < s.above

/-- The nearest of the double's two neighbours on the grid that rounds to it, if any. -/
def Parts.hit? (p : Parts) (e : Int) : Option Decimal :=
  let s := p.scaled e
  let even := p.mantissa % 2 = 0
  let low := s.value / s.unit
  let high := low + 1
  let lowHits := s.holds even (low * s.unit) && 0 < low
  let highHits := s.holds even (high * s.unit)
  let toLow := s.value - low * s.unit
  let toHigh := high * s.unit - s.value
  if lowHits && (!highHits || toLow < toHigh || (toLow = toHigh && low % 2 = 0)) then
    some ⟨low, e⟩
  else if highHits then some ⟨high, e⟩
  else none

/-- The decimal exponent of the leading digit of a double, found from a first guess that is
too small by at most a few. -/
def Parts.leading (p : Parts) : Int :=
  let atLeast (k : Int) : Bool :=
    Nat.pow 2 (-p.exponent).toNat * Nat.pow 10 k.toNat ≤
      p.mantissa * Nat.pow 2 p.exponent.toNat * Nat.pow 10 (-k).toNat
  let bitsBelow : Int := p.mantissa.log2 + p.exponent
  let guess : Int := bitsBelow * 30103 / 100000 - 1
  if atLeast (guess + 2) then guess + 2
  else if atLeast (guess + 1) then guess + 1
  else guess

/-- **The shortest decimal of a positive double**: the first grid with a hit. -/
def Parts.shortest (p : Parts) : Decimal :=
  let lead := p.leading
  match (List.range 17).findSome? fun n : Nat => p.hit? (lead - (n : Int)) with
  | some d => d
  | none => ⟨p.mantissa, 0⟩

/-- A decimal whose one digit was rounded up to ten, as one digit again.  Grids with more
digits are reached only when the one-digit grid has no hit, so no other trailing zero
arises. -/
def Decimal.carry (d : Decimal) : Decimal :=
  if d.digits = 10 then ⟨1, d.exponent + 1⟩ else d

/-- An exponent as text: a minus sign where needed, and no plus sign. -/
def exponentText (e : Int) : List Char :=
  if e < 0 then '-' :: Nat.toDigits 10 (-e).toNat else Nat.toDigits 10 e.toNat

/-- **The layout of a decimal.**  Its point stands `place` digits from the left. -/
def layout (d : Decimal) : List Char :=
  let ds := Nat.toDigits 10 d.digits
  let place : Int := ds.length + d.exponent
  if 0 ≤ d.exponent ∧ place ≤ 16 then
    ds ++ List.replicate d.exponent.toNat '0' ++ ['.', '0']
  else if 0 < place ∧ place ≤ 16 then
    ds.take place.toNat ++ ['.'] ++ ds.drop place.toNat
  else if -5 < place ∧ place ≤ 0 then
    ['0', '.'] ++ List.replicate (-place).toNat '0' ++ ds
  else if ds.length = 1 then
    ds ++ ['e'] ++ exponentText (place - 1)
  else
    ds.take 1 ++ ['.'] ++ ds.drop 1 ++ ['e'] ++ exponentText (place - 1)

/-- **The text of a finite double**, given by its bits. -/
def text (bits : UInt64) : List Char :=
  let n := bits.toNat
  let sign := if n / Nat.pow 2 63 = 1 then ['-'] else []
  let magnitude := n % Nat.pow 2 63
  if magnitude = 0 then sign ++ ['0', '.', '0']
  else sign ++ layout (parts magnitude).shortest.carry

end TaskWatch.Json.Shortest
