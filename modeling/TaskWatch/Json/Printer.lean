/-
# Writing JSON

`Json.write` gives the compact text of a value: no blanks, members in their order, strings
with the shortest escapes.  It is the form of every body and every frame that the library
sends.

* A quote and a backslash are escaped by a backslash.
* The five control characters with a short escape use it; the others are written as `\u00`
  and two lower-case hexadecimal digits.
* Everything else stands for itself, DEL, the line separators and all beyond the BMP
  included.
-/
import TaskWatch.Json.Shortest
import TaskWatch.Json.Basic

namespace TaskWatch.Json

/-! ## Strings -/

/-- A digit from 0 to 15, in lower case. -/
def hexDigit (n : Nat) : Char :=
  if n < 10 then Char.ofNat ('0'.toNat + n) else Char.ofNat ('a'.toNat + (n - 10))

/-- **One character inside a string literal.** -/
def escapeChar (c : Char) : List Char :=
  if c = '"' then ['\\', '"']
  else if c = '\\' then ['\\', '\\']
  else if c = '\x08' then ['\\', 'b']
  else if c = '\x0c' then ['\\', 'f']
  else if c = '\n' then ['\\', 'n']
  else if c = '\r' then ['\\', 'r']
  else if c = '\t' then ['\\', 't']
  else if c.toNat < 0x20 then
    ['\\', 'u', '0', '0', hexDigit (c.toNat / 16), hexDigit (c.toNat % 16)]
  else [c]

/-- **A string literal**, quotes included. -/
def quote (s : String) : List Char :=
  '"' :: (s.toList.flatMap escapeChar ++ ['"'])

/-! ## Numbers -/

/-- The decimal digits of a number. -/
def decimal (n : Nat) : List Char :=
  Nat.toDigits 10 n

/-! ## Values -/

mutual

/-- **The compact text of a value.**  What denotes no value is written as `null`. -/
def writeChars : Json → List Char
  | null | unreadable => ['n', 'u', 'l', 'l']
  | bool true => ['t', 'r', 'u', 'e']
  | bool false => ['f', 'a', 'l', 's', 'e']
  | natural n => decimal n.toNat
  | negative n => '-' :: decimal n.toNat
  | real bits => Shortest.text bits
  | string s => quote s
  | array [] => ['[', ']']
  | array (j :: js) => '[' :: (writeChars j ++ writeItems js)
  | object [] => ['{', '}']
  | object ((name, j) :: ms) =>
    '{' :: (quote name ++ ':' :: (writeChars j ++ writeMembers ms))

/-- The items behind the first one, and the closing bracket. -/
def writeItems : List Json → List Char
  | [] => [']']
  | j :: js => ',' :: (writeChars j ++ writeItems js)

/-- The members behind the first one, and the closing brace. -/
def writeMembers : List (String × Json) → List Char
  | [] => ['}']
  | (name, j) :: ms => ',' :: (quote name ++ ':' :: (writeChars j ++ writeMembers ms))

end

@[inherit_doc writeChars]
def write (j : Json) : String :=
  String.ofList j.writeChars

end TaskWatch.Json
