/-
# Addresses

Reading an address the way browsers do.  The reader forgives much: blanks around the text,
tabs and line ends inside it, one slash too few or a backslash instead.  What it does not
forgive are the `UrlError`s.

**Schemes.**  A handful of schemes are special.  They always have a host and a path, and a
backslash is a slash for them.  `file` is special too, but may do without a host.  An address
of any other scheme may have a host; without one, and without a slash, it is rootless
(`mailto:`), and then nothing can be relative to it.

**Paths** are lists of segments.  A segment `.` is left out and a segment `..` removes the
one before it, also when the dots are escaped; at the end of a path both leave an empty
segment behind.

`Url.parse` reads an address on its own, `Url.join` one that may be relative to another.
-/
import TaskWatch.Url.Host

namespace TaskWatch

open Url (UrlError Host)

/-- **The path of an address.** -/
inductive Url.Path where
  /-- A path that is no list of segments. -/
  | rootless (text : String)
  | segments (segs : List String)
  deriving Repr, DecidableEq, Inhabited

/-- **An address.** -/
structure Url where
  scheme : String
  username : String := ""
  password : String := ""
  host : Option Host := none
  port : Option Nat := none
  path : Url.Path := .segments []
  query : Option String := none
  fragment : Option String := none
  deriving Repr, DecidableEq, Inhabited

namespace Url

/-! ## 1. Schemes -/

/-- The special schemes apart from `file`, and their ports. -/
def specialPorts : List (String × Nat) :=
  [("http", 80), ("https", 443), ("ws", 80), ("wss", 443), ("ftp", 21)]

def isFile (scheme : String) : Bool :=
  scheme = "file"

def isSpecial (scheme : String) : Bool :=
  isFile scheme || (specialPorts.lookup scheme).isSome

/-- A character of a scheme. -/
def isSchemeChar (c : Char) : Bool :=
  c.isAlphanum || c = '+' || c = '-' || c = '.'

/-- **The scheme at the start of a text**, in lower case, and what follows its colon. -/
def scheme? (cs : List Char) : Option (String × List Char) :=
  match cs with
  | c :: _ =>
    if c.isAlpha then
      match cs.dropWhile isSchemeChar with
      | ':' :: rest =>
        some (String.ofList ((cs.takeWhile isSchemeChar).map Char.toLower), rest)
      | _ => none
    else none
  | [] => none

/-! ## 2. Text -/

/-- A text without the control characters and spaces at its ends. -/
def strip (cs : List Char) : List Char :=
  let blank (c : Char) : Bool := c.toNat ≤ 0x20
  ((cs.dropWhile blank).reverse.dropWhile blank).reverse

/-- A text without tabs and line ends. -/
def squeeze (cs : List Char) : List Char :=
  cs.filter fun c => c ≠ '\t' && c ≠ '\n' && c ≠ '\r'

/-- **The text that is read.** -/
def clean (text : String) : List Char :=
  squeeze (strip text.toList)

/-- A slash, or what counts as one. -/
def isSlash (c : Char) : Bool :=
  c = '/' || c = '\\'

/-- The character ends the authority of an address. -/
def endsAuthority (special : Bool) (c : Char) : Bool :=
  c = '/' || c = '?' || c = '#' || (special && c = '\\')

/-! ## 3. Query and fragment -/

/-- The query and the fragment, from a question mark or a number sign on. -/
def queryAndFragment (special : Bool) (cs : List Char) : Option String × Option String :=
  let fragment (cs : List Char) : Option String :=
    match cs with
    | '#' :: rest => some (Percent.encode Percent.inFragment (String.ofList rest))
    | _ => none
  match cs with
  | '?' :: rest =>
    let escaped := if special then Percent.inSpecialQuery else Percent.inQuery
    let query := rest.takeWhile (· ≠ '#')
    (some (Percent.encode escaped (String.ofList query)), fragment (rest.dropWhile (· ≠ '#')))
  | cs => (none, fragment cs)

/-! ## 4. Paths -/

/-- A segment that stands for the place it is in. -/
def isSingleDot (segment : String) : Bool :=
  [".", "%2e"].contains segment.toLower

/-- A segment that stands for the place above. -/
def isDoubleDot (segment : String) : Bool :=
  ["..", ".%2e", "%2e.", "%2e%2e"].contains segment.toLower

/-- **Add a segment to a path**; `last` says that no slash follows it. -/
def addSegment (path : List String) (segment : String) (last : Bool) : List String :=
  if isDoubleDot segment then path.dropLast ++ (if last then [""] else [])
  else if isSingleDot segment then path ++ (if last then [""] else [])
  else path ++ [segment]

/-- Add segments, the last of which ends the path. -/
def addSegments (path : List String) : List String → List String
  | [] => path
  | [segment] => addSegment path segment true
  | segment :: rest => addSegments (addSegment path segment false) rest

/-- A text cut at every slash. -/
def cutAtSlashes (special : Bool) (cs : List Char) : List (List Char) :=
  Text.cut (fun c => c = '/' || (special && c = '\\')) cs

/-- The characters of a path at the start of a text. -/
def pathChars (cs : List Char) : List Char :=
  cs.takeWhile fun c => c ≠ '?' && c ≠ '#'

/-- **The segments that a text adds to a path.** -/
def extendPath (special : Bool) (path : List String) (cs : List Char) : List String :=
  addSegments path ((cutAtSlashes special cs).map fun seg =>
    Percent.encode Percent.inPath (String.ofList seg))

/-- The path behind an authority, query and fragment left aside. -/
def pathAfterAuthority (special : Bool) (cs : List Char) : List String :=
  match cs with
  | [] => if special then [""] else []
  | c :: rest =>
    if c = '/' || (special && c = '\\') then extendPath special [] rest
    else extendPath special [] (c :: rest)

/-- An address with the path, the query and the fragment of a text. -/
def withPath (u : Url) (path : List Char → List String) (cs : List Char) : Url :=
  let p := pathChars cs
  let (query, fragment) := queryAndFragment (isSpecial u.scheme) (cs.drop p.length)
  { u with path := .segments (path p), query, fragment }

/-! ## 5. Authority -/

/-- **The user and the rest.**  What stands before the last at sign of the authority is the
user's name and password. -/
def readUser (special : Bool) (cs : List Char) :
    Except UrlError (String × String × List Char) :=
  let authority := cs.takeWhile fun c => !endsAuthority special c
  let behind := cs.drop authority.length
  match authority.reverse.span (· ≠ '@') with
  | (_, []) => .ok ("", "", cs)
  | (host, _ :: user) =>
    let rest := host.reverse ++ behind
    let user := user.reverse
    if user.isEmpty then
      match rest with
      | c :: _ => if endsAuthority special c then .error .emptyHost else .ok ("", "", rest)
      | [] => .ok ("", "", rest)
    else
      let name := user.takeWhile (· ≠ ':')
      let password := (user.dropWhile (· ≠ ':')).drop 1
      let escape (cs : List Char) : String :=
        Percent.encode Percent.inUserinfo (String.ofList cs)
      .ok (escape name, escape password, rest)

/-- The characters of a host at the start of a text: up to a colon outside of brackets, or
the end of the authority. -/
def hostChars (special : Bool) (inside : Bool) : List Char → List Char
  | [] => []
  | c :: cs =>
    if (c = ':' && !inside) || endsAuthority special c then []
    else c :: hostChars special (if c = '[' then true else if c = ']' then false else inside) cs

/-- The value of a port, digit by digit. -/
def portValue : Nat → List Char → Except UrlError Nat
  | n, [] => .ok n
  | n, c :: cs =>
    let n := 10 * n + (c.toNat - '0'.toNat)
    if 65535 < n then .error .invalidPort else portValue n cs

/-- **The port** behind a colon, and the rest.  A port that is the scheme's own, or that has
no digits, is left out. -/
def readPort (scheme : String) (cs : List Char) : Except UrlError (Option Nat × List Char) := do
  let digits := cs.takeWhile Char.isDigit
  let rest := cs.drop digits.length
  let n ← portValue 0 digits
  match rest with
  | c :: _ => if !(isSlash c || c = '?' || c = '#') then throw .invalidPort
  | [] => pure ()
  if digits.isEmpty ∨ specialPorts.lookup scheme = some n then return (none, rest)
  else return (some n, rest)

/-- **Host and port**, and the rest. -/
def readHost (scheme : String) (cs : List Char) :
    Except UrlError (Host × Option Nat × List Char) := do
  let special := isSpecial scheme
  let text := hostChars special false cs
  let rest := cs.drop text.length
  if special && text.isEmpty then throw .emptyHost
  let host ← if special then Host.parse text else Host.parseVerbatim text
  match rest with
  | ':' :: rest =>
    if text.isEmpty then throw .emptyHost
    let (port, rest) ← readPort scheme rest
    return (host, port, rest)
  | rest => return (host, none, rest)

/-- **An address from behind the two slashes.** -/
def afterSlashes (scheme : String) (cs : List Char) : Except UrlError Url := do
  let special := isSpecial scheme
  let (username, password, cs) ← readUser special cs
  let (host, port, cs) ← readHost scheme cs
  let host := if host = .domain "" then none else some host
  if host.isNone ∧ !(username.isEmpty && password.isEmpty) then throw .emptyHost
  return withPath { scheme, username, password, host, port } (pathAfterAuthority special) cs

/-! ## 6. Files -/

/-- A letter and a colon, or a bar instead of it. -/
def isDriveLetter (cs : List Char) : Bool :=
  match cs with
  | [a, b] => a.isAlpha && (b = ':' || b = '|')
  | _ => false

/-- A path that starts with a drive. -/
def startsWithDrive (cs : List Char) : Bool :=
  isDriveLetter (cs.take 2) &&
    match cs.drop 2 with
    | [] => true
    | c :: _ => isSlash c || c = '?' || c = '#'

/-- The path of a file, without empty segments at its start. -/
def filePath (path : List String) (cs : List Char) : List String :=
  match (extendPath true path cs).dropWhile String.isEmpty with
  | [] => [""]
  | segs => segs

/-- The segments of a path. -/
def Path.toSegments : Path → List String
  | segments segs => segs
  | rootless _ => []

/-- A file whose host stands behind the two slashes. -/
def fileWithHost (cs : List Char) : Except UrlError Url := do
  let text := cs.takeWhile fun c => !(isSlash c || c = '?' || c = '#')
  let rest := cs.drop text.length
  if isDriveLetter text then return withPath { scheme := "file" } (filePath []) cs
  let host ← if text.isEmpty then pure none else
    match ← Host.parse text with
    | .domain "localhost" => pure none
    | host => pure (some host)
  let path (cs : List Char) : List String :=
    match cs with
    | [] => filePath [] []
    | c :: tail => filePath [] (if isSlash c then tail else c :: tail)
  return withPath { scheme := "file", host } path rest

/-- **The address of a file**, from behind its scheme; `base` is the address of a file too. -/
def file (base : Option Url) (cs : List Char) : Except UrlError Url :=
  let host := base.bind Url.host
  match cs with
  | c :: c' :: rest =>
    if isSlash c && isSlash c' then fileWithHost rest
    else relativeFile base host (c :: c' :: rest)
  | cs => relativeFile base host cs
where
  /-- A file given by its path, from the root or from the place of the base. -/
  relativeFile (base : Option Url) (host : Option Host) (cs : List Char) :
      Except UrlError Url :=
    match cs, base with
    | c :: rest, _ =>
      if isSlash c then
        let host := if startsWithDrive rest then none else host
        .ok (withPath { scheme := "file", host } (filePath []) rest)
      else
        match base with
        | none => .ok (withPath { scheme := "file" } (filePath []) cs)
        | some base =>
          if c = '#' then
            .ok { base with fragment := (queryAndFragment true cs).2 }
          else if c = '?' then
            let (query, fragment) := queryAndFragment true cs
            .ok { base with query, fragment }
          else if startsWithDrive cs then
            .ok (withPath { scheme := "file" } (filePath []) cs)
          else
            .ok (withPath { scheme := "file", host }
              (filePath base.path.toSegments.dropLast) cs)
    | [], none => .ok { scheme := "file", path := .segments [""] }
    | [], some base => .ok { base with fragment := none }

/-! ## 7. Addresses of other schemes -/

/-- **An address without a special scheme**, from behind its scheme. -/
def general (scheme : String) (cs : List Char) : Except UrlError Url :=
  match cs with
  | '/' :: '/' :: rest => afterSlashes scheme rest
  | '/' :: rest => .ok (withPath { scheme } (extendPath false []) rest)
  | cs =>
    let text := pathChars cs
    let (query, fragment) := queryAndFragment false (cs.drop text.length)
    .ok {
      scheme
      path := .rootless (Percent.encode Percent.isControl (String.ofList text))
      query
      fragment }

/-! ## 8. Relative addresses -/

/-- **An address relative to a base** that is no file and not rootless. -/
def relative (base : Url) (cs : List Char) : Except UrlError Url :=
  let special := isSpecial base.scheme
  match cs with
  | [] => .ok { base with fragment := none }
  | '?' :: _ =>
    let (query, fragment) := queryAndFragment special cs
    .ok { base with query, fragment }
  | '#' :: _ => .ok { base with fragment := (queryAndFragment special cs).2 }
  | c :: rest =>
    if isSlash c then
      match cs with
      | '/' :: '/' :: rest => afterSlashes base.scheme rest
      | _ =>
        let slashes := cs.takeWhile isSlash
        if 2 ≤ slashes.length then afterSlashes base.scheme (cs.drop slashes.length)
        else .ok (withPath base (extendPath special []) rest)
    else
      .ok (withPath base (extendPath special base.path.toSegments.dropLast) cs)

/-! ## 9. Whole addresses -/

/-- Whether nothing can be relative to an address. -/
def isRootless (u : Url) : Bool :=
  match u.path with
  | .rootless _ => true
  | .segments _ => false

/-- **Read an address**, relative to a base if there is one. -/
def read (base : Option Url) (text : String) : Except UrlError Url :=
  let cs := clean text
  match scheme? cs with
  | some (scheme, rest) =>
    if isFile scheme then file (base.filter fun b => isFile b.scheme) rest
    else if isSpecial scheme then
      let slashes := rest.takeWhile isSlash
      match base with
      | some b =>
        if slashes.length < 2 ∧ b.scheme = scheme then relative b rest
        else afterSlashes scheme (rest.drop slashes.length)
      | none => afterSlashes scheme (rest.drop slashes.length)
    else general scheme rest
  | none =>
    match base with
    | none => .error .relativeWithoutBase
    | some b =>
      match cs with
      | '#' :: _ => .ok { b with fragment := (queryAndFragment (isSpecial b.scheme) cs).2 }
      | cs =>
        if b.isRootless then .error .relativeWithRootlessBase
        else if isFile b.scheme then file (some b) cs
        else relative b cs

/-- **Read an address on its own.** -/
def parse (text : String) : Except UrlError Url :=
  read none text

/-- **Read an address relative to a base.** -/
def join (base : Url) (text : String) : Except UrlError Url :=
  read (some base) text

/-! ## 10. Writing -/

/-- The path as text. -/
def pathText (u : Url) : String :=
  match u.path with
  | .rootless text => text
  | .segments segs => String.join (segs.map ("/" ++ ·))

/-- The path and the query, as they stand in a request. -/
def target (u : Url) : String :=
  u.pathText ++ (match u.query with | some q => "?" ++ q | none => "")

/-- The address with a slash at the end of its path. -/
def withTrailingSlash (u : Url) : Url :=
  match u.path with
  | .segments segs =>
    if segs.getLast? = some "" then u else { u with path := .segments (segs ++ [""]) }
  | .rootless text =>
    if text.endsWith "/" then u else { u with path := .rootless (text ++ "/") }

end Url

end TaskWatch
