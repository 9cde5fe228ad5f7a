/-
# Labels in ASCII

A label with characters beyond ASCII is written in ASCII by saying which of them it has and
where: the ASCII characters come first, then a dash, then a sequence of numbers, one for each
other character in increasing order.  A number counts the steps from one insertion to the
next, where a step is a place in the label, and at the end of the label the next character.

The numbers are written one behind another, in digits of base 36 whose weights depend on how
large the numbers have been so far (`bias`).
-/

namespace TaskWatch.Url.Domain.Punycode

/-! ## 1. Numbers -/

def base : Nat := 36

/-- The least and the greatest digit that may end a number. -/
def leastEnd : Nat := 1
def greatestEnd : Nat := 26

/-- How far numbers are brought down before their size is estimated. -/
def skew : Nat := 38
def damp : Nat := 700

def firstBias : Nat := 72

/-- The first character that is inserted comes no earlier than this. -/
def firstCode : Nat := 128

/-- The digit from which on a number goes on, `k` being the place of the digit times the
base. -/
def threshold (bias k : Nat) : Nat :=
  min greatestEnd (max leastEnd (k - bias))

/-- A number brought down, and how often that took. -/
def bringDown : Nat → Nat → Nat → Nat × Nat
  | 0, delta, k => (delta, k)
  | fuel + 1, delta, k =>
    if (base - leastEnd) * greatestEnd / 2 < delta then
      bringDown fuel (delta / (base - leastEnd)) (k + base)
    else (delta, k)

/-- **The bias after a number**, given how many characters the label has then. -/
def adapt (delta count : Nat) (isFirst : Bool) : Nat :=
  let delta := if isFirst then delta / damp else delta / 2
  let (delta, k) := bringDown delta (delta + delta / count) 0
  k + (base - leastEnd + 1) * delta / (delta + skew)

def digitValue? (c : Char) : Option Nat :=
  if 'a' ≤ c ∧ c ≤ 'z' then some (c.toNat - 'a'.toNat)
  else if 'A' ≤ c ∧ c ≤ 'Z' then some (c.toNat - 'A'.toNat)
  else if c.isDigit then some (c.toNat - '0'.toNat + 26)
  else none

def digitChar (n : Nat) : Char :=
  if n < 26 then Char.ofNat ('a'.toNat + n) else Char.ofNat ('0'.toNat + (n - 26))

/-- **A number**, and what follows it. -/
def number? (bias : Nat) (n weight k : Nat) : List Char → Option (Nat × List Char)
  | [] => none
  | c :: cs => do
    let digit ← digitValue? c
    let n := n + digit * weight
    let t := threshold bias k
    if digit < t then some (n, cs) else number? bias n (weight * (base - t)) (k + base) cs

/-- The digits of a number, at most `fuel` of them. -/
def digits (bias : Nat) : Nat → Nat → Nat → List Char
  | 0, _, _ => []
  | fuel + 1, n, k =>
    let t := threshold bias k
    if n < t then [digitChar n]
    else digitChar (t + (n - t) % (base - t)) :: digits bias fuel ((n - t) / (base - t)) (k + base)

/-! ## 2. Reading -/

/-- A code point of a character. -/
def isCode (n : Nat) : Bool :=
  n < 0x110000 && !(0xd800 ≤ n && n < 0xe000)

/-- Insertions into a label, at most `fuel` of them.  The first one has not been made yet
exactly if the place is 0. -/
def insertions? (label : List Char) (code place bias : Nat) :
    Nat → List Char → Option (List Char)
  | _, [] => some label
  | 0, _ => none
  | fuel + 1, cs => do
    let (steps, rest) ← number? bias 0 1 base cs
    let count := label.length + 1
    let code := code + (place + steps) / count
    let position := (place + steps) % count
    if isCode code then
      insertions? (label.take position ++ Char.ofNat code :: label.drop position) code
        (position + 1) (adapt steps count (place = 0)) fuel rest
    else none

/-- **The label that a text in ASCII writes.**  The last dash, if there is one, ends the
label's own ASCII characters. -/
def decode? (cs : List Char) : Option (List Char) :=
  let behind := (cs.reverse.takeWhile (· ≠ '-')).reverse
  let plain := (cs.take (cs.length - behind.length)).dropLast
  insertions? plain firstCode 0 firstBias cs.length behind

/-! ## 3. Writing -/

/-- What one character of a label adds while the characters with `code` are inserted:
`delta` counts the steps, `done` the characters that are there. -/
def writeChar (code plain : Nat) (c : Char) (delta done bias : Nat) :
    List Char × Nat × Nat × Nat :=
  if c.toNat < code then ([], delta + 1, done, bias)
  else if c.toNat = code then
    (digits bias (delta + 1) delta base, 0, done + 1, adapt delta (done + 1) (done = plain))
  else ([], delta, done, bias)

/-- What a whole label adds for one code. -/
def writeCode (code plain : Nat) : List Char → Nat → Nat → Nat → List Char × Nat × Nat × Nat
  | [], delta, done, bias => ([], delta, done, bias)
  | c :: cs, delta, done, bias =>
    let (out, delta, done, bias) := writeChar code plain c delta done bias
    let (more, delta, done, bias) := writeCode code plain cs delta done bias
    (out ++ more, delta, done, bias)

/-- The numbers of a label, at most `fuel` codes of it. -/
def writeFrom (label : List Char) (plain : Nat) : Nat → Nat → Nat → Nat → Nat → List Char
  | 0, _, _, _, _ => []
  | fuel + 1, code, delta, done, bias =>
    match ((label.map Char.toNat).filter (code ≤ ·)).min? with
    | none => []
    | some next =>
      let delta := delta + (next - code) * (done + 1)
      let (out, delta, done, bias) := writeCode next plain label delta done bias
      out ++ writeFrom label plain fuel (next + 1) (delta + 1) done bias

/-- **A label in ASCII.** -/
def encode (label : List Char) : List Char :=
  let plain := label.filter (·.toNat < 0x80)
  let mark := if plain.isEmpty then [] else ['-']
  plain ++ mark ++ writeFrom label plain.length label.length firstCode 0 plain.length firstBias

end TaskWatch.Url.Domain.Punycode
