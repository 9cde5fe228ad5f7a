/-
# Hosts

The host of an address is a domain, an IPv4 or an IPv6 address.  Which of them a text is
depends on its form alone: a text in square brackets is an IPv6 address or nothing, and a
domain whose last label is a number is an IPv4 address or nothing.

* **IPv4**: one to four numbers, decimal, octal or hexadecimal, separated by dots.  The last
  one fills all the bytes that the others leave.
* **IPv6**: eight pieces of 16 bits, at most one run of them left out; the last two may be
  written as an IPv4 address in plain decimal.
-/
import TaskWatch.Text.Cut
import TaskWatch.Url.Percent
import TaskWatch.Url.Domain

namespace TaskWatch.Url

/-! ## 1. Failures -/

/-- **Why a text is no address.** -/
inductive UrlError where
  | emptyHost
  | invalidDomain
  | invalidPort
  | invalidIpv4
  | invalidIpv6
  /-- A host of a kind that must not hold some character holds it. -/
  | invalidDomainCharacter
  | relativeWithoutBase
  | relativeWithRootlessBase
  deriving Repr, DecidableEq, Inhabited

def UrlError.message : UrlError → String
  | emptyHost => "empty host"
  | invalidDomain => "invalid international domain name"
  | invalidPort => "invalid port number"
  | invalidIpv4 => "invalid IPv4 address"
  | invalidIpv6 => "invalid IPv6 address"
  | invalidDomainCharacter => "invalid domain character"
  | relativeWithoutBase => "relative URL without a base"
  | relativeWithRootlessBase => "relative URL with a cannot-be-a-base base"

/-- **A host.** -/
inductive Host where
  | domain (name : String)
  | ipv4 (address : Nat)
  | ipv6 (pieces : List Nat)
  deriving Repr, DecidableEq, Inhabited

/-! ## 2. IPv4 -/

/-- The value of a digit in a base up to 16. -/
def digitIn? (base : Nat) (c : Char) : Option Nat := do
  let n ← Percent.hexValue? (UInt8.ofNat c.toNat)
  if c.toNat < 0x80 ∧ n < base then some n else none

/-- The number that digits write in a base. -/
def numberIn? (base : Nat) (cs : List Char) : Option Nat :=
  cs.foldlM (fun n c => (digitIn? base c).map (base * n + ·)) 0

/-- **A number of an IPv4 address**: hexadecimal after `0x`, octal after a leading zero, else
decimal.  The prefix alone is zero. -/
def ipv4Number? : List Char → Option Nat
  | [] => none
  | '0' :: 'x' :: cs | '0' :: 'X' :: cs => numberIn? 16 cs
  | '0' :: c :: cs => numberIn? 8 (c :: cs)
  | cs => numberIn? 10 cs

/-- The labels of a domain, without an empty one at its end. -/
def labels (domain : List Char) : List (List Char) :=
  let parts := Text.cut (· = '.') domain
  if parts.getLast? = some [] then parts.dropLast else parts

/-- **Whether the last label is a number.** -/
def endsInNumber (domain : List Char) : Bool :=
  match (labels domain).getLast? with
  | none => false
  | some last => (!last.isEmpty && last.all Char.isDigit) || (ipv4Number? last).isSome

/-- **An IPv4 address.** -/
def ipv4? (domain : List Char) : Option Nat := do
  let parts := labels domain
  if 4 < parts.length then none
  else
    let numbers ← parts.mapM ipv4Number?
    let last ← numbers.getLast?
    let first := numbers.dropLast
    if first.any (255 < ·) ∨ Nat.pow 256 (4 - first.length) ≤ last then none
    else some (first.zipIdx.foldl (fun sum (n, i) => sum + n * Nat.pow 256 (3 - i)) last)

/-! ## 3. IPv6 -/

/-- Up to `limit` hexadecimal digits: their value, how many they are, and the rest. -/
def hexPiece (limit : Nat) (cs : List Char) : Nat × Nat × List Char :=
  match limit, cs with
  | limit + 1, c :: rest =>
    match digitIn? 16 c with
    | some d =>
      let (n, count, rest) := hexPiece limit rest
      (d * Nat.pow 16 count + n, count + 1, rest)
    | none => (0, 0, c :: rest)
  | _, cs => (0, 0, cs)

/-- A number from 0 to 255 in plain decimal. -/
def decimalByte? (cs : List Char) : Option Nat :=
  match cs with
  | [] => none
  | ['0'] => some 0
  | '0' :: _ => none
  | cs => (numberIn? 10 cs).filter (· ≤ 255)

/-- An IPv4 address in plain decimal, as the two pieces that it fills. -/
def embeddedIpv4? (cs : List Char) : Option (List Nat) := do
  match ← (Text.cut (· = '.') cs).mapM decimalByte? with
  | [a, b, c, d] => some [a * 256 + b, c * 256 + d]
  | _ => none

/-- The pieces from here on, and the place of the run that is left out, if there is one.
`seen` pieces come before. -/
def ipv6Pieces? : Nat → Nat → Option Nat → List Char → Option (List Nat × Option Nat)
  | _, _, gap, [] => some ([], gap)
  | 0, _, _, _ => none
  | fuel + 1, seen, gap, cs =>
    if seen = 8 then none
    else
      match cs with
      | ':' :: rest =>
        if gap.isSome then none
        else do
          let (pieces, gap) ← ipv6Pieces? fuel (seen + 1) (some (seen + 1)) rest
          some (0 :: pieces, gap)
      | cs =>
        match hexPiece 4 cs with
        | (value, _, []) => some ([value], gap)
        | (value, _, ':' :: rest) =>
          if rest.isEmpty then none
          else do
            let (pieces, gap) ← ipv6Pieces? fuel (seen + 1) gap rest
            some (value :: pieces, gap)
        | (_, count, '.' :: _) =>
          if count = 0 ∨ 6 < seen then none
          else do
            let pieces ← embeddedIpv4? cs
            some (pieces, gap)
        | _ => none

/-- **An IPv6 address**, without its brackets. -/
def ipv6? (cs : List Char) : Option (List Nat) := do
  let (pieces, gap) ← match cs with
    | ':' :: ':' :: rest => do
      let (pieces, gap) ← ipv6Pieces? (cs.length + 1) 1 (some 1) rest
      some (0 :: pieces, gap)
    | ':' :: _ => none
    | _ :: _ :: _ => ipv6Pieces? (cs.length + 1) 0 none cs
    | _ => none
  match gap with
  | none => if pieces.length = 8 then some pieces else none
  | some place =>
    if 8 < pieces.length then none
    else
      some (pieces.take place ++ List.replicate (8 - pieces.length) 0 ++ pieces.drop place)

/-! ## 4. Reading a host -/

/-- A text in square brackets, if it starts with one. -/
def bracketed? (cs : List Char) : Option (Except UrlError Host) :=
  match cs with
  | '[' :: inner =>
    some <|
      if inner.getLast? = some ']' then
        match ipv6? inner.dropLast with
        | some pieces => .ok (.ipv6 pieces)
        | none => .error .invalidIpv6
      else .error .invalidIpv6
  | _ => none

/-- **The host of a special address.** -/
def Host.parse (cs : List Char) : Except UrlError Host :=
  (bracketed? cs).getD <|
    match Domain.toAscii? (Percent.decode (Text.Utf8.encodeChars cs)) with
    | none => .error .invalidDomain
    | some name =>
      if name.isEmpty then .error .emptyHost
      else if endsInNumber name then
        match ipv4? name with
        | some address => .ok (.ipv4 address)
        | none => .error .invalidIpv4
      else .ok (.domain (String.ofList name))

/-- A character that no host may hold. -/
def isForbiddenInHost (c : Char) : Bool :=
  ['\x00', '\t', '\n', '\r', ' ', '#', '/', ':', '<', '>', '?', '@', '[', '\\', ']', '^',
    '|'].contains c

/-- **The host of any other address**: it is kept as it is, apart from escapes. -/
def Host.parseVerbatim (cs : List Char) : Except UrlError Host :=
  (bracketed? cs).getD <|
    if cs.any isForbiddenInHost then .error .invalidDomainCharacter
    else .ok (.domain (Percent.encode Percent.isControl (String.ofList cs)))

/-! ## 5. Writing a host -/

/-- The four bytes of an IPv4 address, with dots. -/
def ipv4Text (n : Nat) : String :=
  s!"{n / 16777216}.{n / 65536 % 256}.{n / 256 % 256}.{n % 256}"

/-- The length of the run of zeros at the start of some pieces. -/
def zeroRun (pieces : List Nat) : Nat :=
  (pieces.takeWhile (· = 0)).length

/-- The place of the first of the longest runs of two zeros or more. -/
def longestRun? (pieces : List Nat) : Option (Nat × Nat) :=
  let runs := (List.range pieces.length).map fun i => (i, zeroRun (pieces.drop i))
  runs.foldl (fun best (i, n) =>
    match best with
    | some (_, m) => if m < n then some (i, n) else best
    | none => if 2 ≤ n then some (i, n) else none) none

/-- Pieces in hexadecimal, with colons. -/
def piecesText (pieces : List Nat) : String :=
  ":".intercalate (pieces.map fun n => String.ofList (Nat.toDigits 16 n))

/-- **The text of a host.** -/
def Host.text : Host → String
  | .domain name => name
  | .ipv4 address => ipv4Text address
  | .ipv6 pieces =>
    match longestRun? pieces with
    | none => "[" ++ piecesText pieces ++ "]"
    | some (i, n) =>
      "[" ++ piecesText (pieces.take i) ++ "::" ++ piecesText (pieces.drop (i + n)) ++ "]"

end TaskWatch.Url
