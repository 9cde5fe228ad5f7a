/-
# Media types

The kind of a body, as its header names it: `type/subtype`, perhaps with a `+suffix`, and
after it parameters, each behind a semicolon.  Letters of either case mean the same in
names; a parameter's value is kept as it is written.

A quoted value holds at least one character: a quote right behind the opening one is part of
the value.
-/

namespace TaskWatch.Http

/-- The characters of which names are made. -/
def isToken (c : Char) : Bool :=
  c.isAlphanum || "!#$%&'*+-.^_\x60|~".toList.contains c

/-- The characters that a quoted value may hold. -/
def isQuotable (c : Char) : Bool :=
  31 < c.toNat && c.toNat != 127

/-- The characters that a header's value may hold to be read as a text. -/
def isVisible (c : Char) : Bool :=
  (32 ≤ c.toNat && c.toNat < 127) || c = '\t'

/-- Characters without their case, as a text. -/
def lower (cs : List Char) : String :=
  String.ofList (cs.map Char.toLower)

/-- **A media type.** -/
structure MediaType where
  type : String
  subtype : String
  suffix : Option String := none
  params : List (String × String) := []
  deriving Repr, DecidableEq, Inhabited

namespace MediaType

/-- A parameter's value from behind the equals sign, and what is left behind the semicolon
that ends it. -/
def value? : List Char → Option (List Char × List Char)
  | '"' :: first :: cs =>
    if isQuotable first && (cs.takeWhile (· ≠ '"')).all isQuotable then
      match cs.dropWhile (· ≠ '"') with
      | [] => none
      | _ :: cs =>
        let value := first :: cs.takeWhile (· ≠ '"')
        match cs.dropWhile (· = ' ') with
        | [] => some (value, [])
        | ';' :: rest => some (value, rest)
        | _ => none
    else none
  | cs =>
    let value := cs.takeWhile isToken
    match cs.dropWhile isToken with
    | [] => some (value, [])
    | ';' :: rest => if value.isEmpty then none else some (value, rest)
    | _ => none

/-- Parameters from behind a semicolon, at most `fuel` of them. -/
def params? : Nat → List Char → Option (List (String × String))
  | 0, _ => none
  | fuel + 1, cs =>
    match cs.dropWhile (· = ' ') with
    | [] => some []
    | cs =>
      let name := cs.takeWhile isToken
      match name, cs.dropWhile isToken with
      | [], _ => none
      | name, '=' :: cs => do
        let (value, rest) ← value? cs
        let params ← params? fuel rest
        some ((lower name, String.ofList value) :: params)
      | _, _ => none

/-- A subtype and its suffix, which stands behind the last plus sign, though not one at the
start. -/
def splitSuffix (cs : List Char) : List Char × Option (List Char) :=
  let behind := (cs.reverse.takeWhile (· ≠ '+')).reverse
  match cs.take (cs.length - behind.length) with
  | [] => (cs, none)
  | ['+'] => (cs, none)
  | before => (before.dropLast, some behind)

/-- **The media type that a header's value names.** -/
def parse? (text : String) : Option MediaType :=
  let cs := text.toList
  let type := cs.takeWhile isToken
  match type, cs.dropWhile isToken with
  | [], _ => none
  | _, '/' :: cs =>
    let sub := cs.takeWhile isToken
    let rest := cs.dropWhile isToken
    let (subtype, suffix) := splitSuffix sub
    let named : MediaType :=
      { type := lower type, subtype := lower subtype, suffix := suffix.map lower }
    if !text.toList.all isVisible then none
    else
      match sub, rest with
      | _, [] => some named
      | [], _ => none
      | _, ';' :: rest => (params? (rest.length + 1) rest).map fun params => { named with params }
      | _, _ => none
  | _, _ => none

/-- **JSON in any of its flavours.** -/
def isJson (m : MediaType) : Bool :=
  m.type = "application" && (m.subtype = "json" || m.suffix = some "json")

/-- **The boundary of a form with files.** -/
def formBoundary? (m : MediaType) : Option String :=
  if m.type = "multipart" && m.subtype = "form-data" then m.params.lookup "boundary" else none

end MediaType

end TaskWatch.Http
