/-
# Reading JSON

`Json.read?` takes a whole text and gives the value it denotes, or nothing when the text is
not in the grammar.  The grammar is the strict one: blanks are space, tab, line feed and
carriage return; no comments, no trailing commas, no raw control characters in strings, no
second value after the first.

**Strings in two steps.**  `pieces?` recognises a string and splits it into pieces: plain
characters, and the halves of surrogate pairs that escapes can spell.  `join?` then pairs
the halves.  A half without its partner is in the grammar but is no text, so the string is
`unreadable`; an object with such a name is `unreadable` as a whole, since it cannot be
said which member that is.

**Why the reader is total.**  `value?`, `items?` and `members?` recurse on a step count.
Every step takes at least one character off the text, so the length of the text is steps
enough, and `read?` hands in one more than that.
-/
import TaskWatch.Json.Number

namespace TaskWatch.Json

/-! ## 1. Blanks -/

/-- The four characters that may stand between tokens. -/
def isSpace (c : Char) : Bool :=
  c = ' ' || c = '\t' || c = '\n' || c = '\r'

/-- A text without the blanks at its start. -/
def skip (cs : List Char) : List Char :=
  cs.dropWhile isSpace

/-! ## 2. Strings -/

/-- **A piece of a string literal**: a character, or one half of a surrogate pair. -/
inductive Piece where
  | char (c : Char)
  | half (unit : Nat)
  deriving Repr, DecidableEq

/-- The value of a hexadecimal digit of either case. -/
def hexValue? (c : Char) : Option Nat :=
  if c.isDigit then some (c.toNat - '0'.toNat)
  else if 'a' ≤ c ∧ c ≤ 'f' then some (c.toNat - 'a'.toNat + 10)
  else if 'A' ≤ c ∧ c ≤ 'F' then some (c.toNat - 'A'.toNat + 10)
  else none

/-- The number that four hexadecimal digits write. -/
def hex4? (a b c d : Char) : Option Nat := do
  let a ← hexValue? a
  let b ← hexValue? b
  let c ← hexValue? c
  let d ← hexValue? d
  some (((a * 16 + b) * 16 + c) * 16 + d)

/-- The piece that a 16-bit unit spells. -/
def Piece.ofUnit (n : Nat) : Piece :=
  if 0xd800 ≤ n ∧ n < 0xe000 then .half n else .char (Char.ofNat n)

/-- The character that a short escape stands for. -/
def shortEscape? : Char → Option Char
  | '"' => some '"'
  | '\\' => some '\\'
  | '/' => some '/'
  | 'b' => some '\x08'
  | 'f' => some '\x0c'
  | 'n' => some '\n'
  | 'r' => some '\r'
  | 't' => some '\t'
  | _ => none

/-- **The pieces of a string**, from behind its opening quote, and what follows its closing
quote. -/
def pieces? : List Char → Option (List Piece × List Char)
  | [] => none
  | '"' :: rest => some ([], rest)
  | '\\' :: 'u' :: a :: b :: c :: d :: rest => do
    let unit ← hex4? a b c d
    let (ps, rest) ← pieces? rest
    some (.ofUnit unit :: ps, rest)
  | '\\' :: e :: rest => do
    let c ← shortEscape? e
    let (ps, rest) ← pieces? rest
    some (.char c :: ps, rest)
  | c :: rest => do
    if c.toNat < 0x20 ∨ c = '\\' then none
    else
      let (ps, rest) ← pieces? rest
      some (.char c :: ps, rest)

/-- **The text of a string**: every first half is followed by a second half and the two
make one character. -/
def join? : List Piece → Option (List Char)
  | [] => some []
  | .char c :: ps => do
    let cs ← join? ps
    some (c :: cs)
  | .half hi :: .half lo :: ps => do
    if hi < 0xdc00 ∧ 0xdc00 ≤ lo then
      let cs ← join? ps
      some (Char.ofNat (0x10000 + (hi - 0xd800) * 0x400 + (lo - 0xdc00)) :: cs)
    else none
  | .half _ :: _ => none

/-- A string from behind its opening quote: its text, `none` for a string that is no text,
and the rest. -/
def text? (cs : List Char) : Option (Option String × List Char) := do
  let (ps, rest) ← pieces? cs
  some ((join? ps).map String.ofList, rest)

/-! ## 3. Values -/

/-- The value of a string literal. -/
def ofText : Option String → Json
  | some s => string s
  | none => unreadable

/-- The value of an object literal: unreadable when one of its names is no text. -/
def ofMembers (members : List (Option String × Json)) : Json :=
  match members.mapM fun (name, j) => name.map (·, j) with
  | some ms => object ms
  | none => unreadable

/-- The words. -/
def word? : List Char → Option (Json × List Char)
  | 'n' :: 'u' :: 'l' :: 'l' :: rest => some (null, rest)
  | 't' :: 'r' :: 'u' :: 'e' :: rest => some (bool true, rest)
  | 'f' :: 'a' :: 'l' :: 's' :: 'e' :: rest => some (bool false, rest)
  | _ => none

mutual

/-- **A value**, blanks before it included, and the rest of the text. -/
def value? : Nat → List Char → Option (Json × List Char)
  | 0, _ => none
  | fuel + 1, cs =>
    match skip cs with
    | '"' :: cs => do
      let (s, rest) ← text? cs
      some (ofText s, rest)
    | '[' :: cs =>
      match skip cs with
      | ']' :: rest => some (array [], rest)
      | cs => do
        let (js, rest) ← items? fuel cs
        some (array js, rest)
    | '{' :: cs =>
      match skip cs with
      | '}' :: rest => some (object [], rest)
      | cs => do
        let (ms, rest) ← members? fuel cs
        some (ofMembers ms, rest)
    | c :: cs =>
      if c = '-' ∨ c.isDigit then do
        let (l, rest) ← literal? (c :: cs)
        some (l.value, rest)
      else word? (c :: cs)
    | [] => none

/-- One item or several, and the bracket that closes them. -/
def items? : Nat → List Char → Option (List Json × List Char)
  | 0, _ => none
  | fuel + 1, cs => do
    let (j, cs) ← value? fuel cs
    match skip cs with
    | ',' :: cs =>
      let (js, rest) ← items? fuel cs
      some (j :: js, rest)
    | ']' :: rest => some ([j], rest)
    | _ => none

/-- One member or several, and the brace that closes them. -/
def members? : Nat → List Char → Option (List (Option String × Json) × List Char)
  | 0, _ => none
  | fuel + 1, cs =>
    match skip cs with
    | '"' :: cs => do
      let (name, cs) ← text? cs
      match skip cs with
      | ':' :: cs =>
        let (j, cs) ← value? fuel cs
        match skip cs with
        | ',' :: cs =>
          let (ms, rest) ← members? fuel cs
          some ((name, j) :: ms, rest)
        | '}' :: rest => some ([(name, j)], rest)
        | _ => none
      | _ => none
    | _ => none

end

/-- **The value that a text denotes**; `none` for a text outside the grammar. -/
def readChars? (cs : List Char) : Option Json := do
  let (j, rest) ← value? (cs.length + 1) cs
  if (skip rest).isEmpty then some j else none

@[inherit_doc readChars?]
def read? (text : String) : Option Json :=
  readChars? text.toList

end TaskWatch.Json
