/-
# Forms with files

The body of such a form is a sequence of parts.  A boundary, which the media type names,
stands in front of every part, and one with two dashes behind it after the last part.  Text
in front of the first boundary means nothing.

A part has headers, an empty line, and data up to the next boundary.  Its name and the name
of its file stand in one of the headers.

**Broken forms.**  `parts` gives the parts in front of the first fault.  The data of the
last one may be missing: a body that ends within the data of a part has no data for it.
-/
import TaskWatch.Http.MediaType
import TaskWatch.Text.Utf8

namespace TaskWatch.Http

/-! ## 1. Looking for bytes -/

/-- Look for a pattern; what stands in front of it is collected newest byte first. -/
def findFrom (pattern : List UInt8) (passed : List UInt8) :
    List UInt8 → Option (List UInt8 × List UInt8)
  | [] => if pattern.isEmpty then some (passed.reverse, []) else none
  | b :: bs =>
    if pattern.isPrefixOf (b :: bs) then some (passed.reverse, b :: bs)
    else findFrom pattern (b :: passed) bs

/-- **The first place of a pattern**: the bytes in front of it, and those from it on. -/
def find? (pattern bytes : List UInt8) : Option (List UInt8 × List UInt8) :=
  findFrom pattern [] bytes

/-- Bytes behind a pattern that they start with. -/
def behind? (pattern bytes : List UInt8) : Option (List UInt8) :=
  if pattern.isPrefixOf bytes then some (bytes.drop pattern.length) else none

def crlf : List UInt8 := [13, 10]

def dashes : List UInt8 := [45, 45]

/-! ## 2. Headers -/

/-- **A header**, its name in lower case. -/
abbrev Header := String × List UInt8

def isBlankByte (b : UInt8) : Bool :=
  b = 32 || b = 9

/-- A byte that a header's value may hold. -/
def isValueByte (b : UInt8) : Bool :=
  b = 9 || (32 ≤ b && b ≠ 127)

/-- The header that a line holds. -/
def header? (line : List UInt8) : Option Header :=
  let name := (line.takeWhile (· ≠ 58)).map fun b => Char.ofNat b.toNat
  match line.dropWhile (· ≠ 58) with
  | [] => none
  | _ :: value =>
    let value := ((value.dropWhile isBlankByte).reverse.dropWhile isBlankByte).reverse
    if !name.isEmpty && name.all isToken && value.all isValueByte then some (lower name, value)
    else none

/-- The headers of a part, line by line up to an empty line, at most `fuel` of them. -/
def headers? : Nat → List UInt8 → Option (List Header)
  | fuel, bytes =>
    let line := bytes.takeWhile (· ≠ 10)
    let line := if line.getLast? = some 13 then line.dropLast else line
    match line, fuel with
    | [], _ => some []
    | _, 0 => none
    | line, fuel + 1 => do
      let h ← header? line
      let rest ← headers? fuel ((bytes.dropWhile (· ≠ 10)).drop 1)
      some (h :: rest)

/-- How many headers a part may have. -/
def maxHeaders : Nat := 32

/-- An attribute's value: a quoted one goes up to the next quote, any other one up to a
semicolon. -/
def attributeValue? : List UInt8 → Option (List UInt8)
  | 34 :: rest => if rest.contains 34 then some (rest.takeWhile (· ≠ 34)) else none
  | rest => some (rest.takeWhile (· ≠ 59))

/-- The attribute whose name, with the equals sign, is given: it stands at the start, or
behind a blank or a semicolon.  `before` is the byte in front. -/
def attributeFrom? (name : List UInt8) (before : UInt8) : List UInt8 → Option (List UInt8)
  | [] => none
  | b :: bs =>
    match behind? name (b :: bs) with
    | some rest =>
      if isBlankByte before || before = 59 then attributeValue? rest
      else attributeFrom? name b bs
    | none => attributeFrom? name b bs

/-- **An attribute of a header's value**, if it is a text. -/
def attribute? (name : String) (value : List UInt8) : Option String := do
  let bytes ← attributeFrom? (Text.Utf8.encode (name ++ "=")) 32 value
  Text.Utf8.decode? bytes

/-! ## 3. Parts -/

/-- **A part of a form.** -/
structure Part where
  name : Option String
  fileName : Option String
  /-- Missing if the body ends within it. -/
  data : Option (List UInt8)
  deriving Repr, DecidableEq, Inhabited

/-- The rest of a part from behind its boundary: its headers, and what follows them.
`none`: there is no further part, or a fault. -/
def partHead? (bytes : List UInt8) : Option (List Header × List UInt8) :=
  if bytes.length < 2 || dashes.isPrefixOf bytes then none
  else do
    let bytes ← behind? crlf (bytes.dropWhile isBlankByte)
    let (head, rest) ← find? (crlf ++ crlf) bytes
    let headers ← headers? maxHeaders (head ++ crlf ++ crlf)
    some (headers, rest.drop 4)

/-- A part with these headers. -/
def Part.ofHeaders (headers : List Header) (data : Option (List UInt8)) : Part :=
  let disposition := (headers.lookup "content-disposition").getD []
  { name := attribute? "name" disposition
    fileName := attribute? "filename" disposition
    data }

/-- The parts from behind a boundary on, at most `fuel` of them. -/
def partsFrom (boundary : List UInt8) : Nat → List UInt8 → List Part
  | 0, _ => []
  | fuel + 1, bytes =>
    match partHead? bytes with
    | none => []
    | some (headers, rest) =>
      match find? (crlf ++ boundary) rest with
      | none => [.ofHeaders headers none]
      | some (data, rest) =>
        .ofHeaders headers (some data) ::
          partsFrom boundary fuel (rest.drop (crlf.length + boundary.length))

/-- **The parts of a form.** -/
def parts (boundary : String) (body : List UInt8) : List Part :=
  let boundary := dashes ++ Text.Utf8.encode boundary
  match find? boundary body with
  | none => []
  | some (_, rest) => partsFrom boundary body.length (rest.drop boundary.length)

end TaskWatch.Http
