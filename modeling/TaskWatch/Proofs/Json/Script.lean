/-
# JSON texts

How a value may be written, said without the reader: a `Script` is a value together with all the
choices that its text leaves open, which are the blanks between the tokens, the escapes inside the
strings and the form of the numbers.  A script cannot be ill-formed, and it has a `text` and a
`value`.

* **Strings** are sequences of `Glyph`s: a character that stands for itself, a short escape, four
  hexadecimal digits of either case, or two times four for a character beyond the BMP.
* **A string that is no text** has a second half of a pair behind its glyphs (`Scrap`).  It may
  stand where any value may, but not for a name.
* **Numbers** are `Numeral`s: no zero stands in front of another digit, and a fraction and an
  exponent have digits.
* **Blanks** may stand before and after every value and every name.

**`Denotes`** says that a text writes a value in some way.
-/
import Mathlib.Data.List.Basic
import TaskWatch.Json.Reader

namespace TaskWatch.Json

/-! ## 1. Blanks -/

/-- **A blank.** -/
inductive Blank where
  | space
  | tab
  | lineFeed
  | carriageReturn
  deriving Repr, DecidableEq

namespace Blank

def char : Blank → Char
  | space => ' '
  | tab => '\t'
  | lineFeed => '\n'
  | carriageReturn => '\r'

@[simp] theorem isSpace_char (b : Blank) : isSpace b.char = true := by
  cases b <;> rfl

end Blank

/-- The blanks between two tokens. -/
abbrev Gap := List Blank

def Gap.text (g : Gap) : List Char :=
  g.map Blank.char

/-- **Blanks are skipped**, and nothing that stands behind them is lost. -/
@[simp] theorem skip_gap (g : Gap) (cs : List Char) : skip (g.text ++ cs) = skip cs := by
  induction g with
  | nil => rfl
  | cons b g ih =>
    simp only [Gap.text, skip] at ih
    simp [Gap.text, skip, ih]

theorem skip_gap_nil (g : Gap) : skip g.text = [] := by
  have := skip_gap g []
  rwa [List.append_nil] at this

theorem skip_cons {c : Char} (h : isSpace c = false) (cs : List Char) : skip (c :: cs) = c :: cs :=
  List.dropWhile_cons_of_neg (by simp [h])

@[simp] theorem skip_skip (cs : List Char) : skip (skip cs) = skip cs := by
  induction cs with
  | nil => rfl
  | cons c cs ih =>
    cases h : isSpace c with
    | true => simpa [skip, h] using ih
    | false => simp [skip, h]

/-! ## 2. Strings -/

/-- **A hexadecimal digit**; the six letters have two cases. -/
structure Hex where
  value : Fin 16
  upper : Bool := false
  deriving Repr, DecidableEq

def Hex.char (d : Hex) : Char :=
  if d.value < 10 then Char.ofNat (0x30 + d.value)
  else if d.upper then Char.ofNat (0x41 + (d.value - 10))
  else Char.ofNat (0x61 + (d.value - 10))

theorem hexValue?_char (d : Hex) : hexValue? d.char = some d.value := by
  obtain ⟨value, upper⟩ := d
  revert value upper
  decide

/-- **A 16-bit unit**, in four digits. -/
structure Unit16 where
  a : Hex
  b : Hex
  c : Hex
  d : Hex
  deriving Repr, DecidableEq

namespace Unit16

def value (u : Unit16) : Nat :=
  ((u.a.value * 16 + u.b.value) * 16 + u.c.value) * 16 + u.d.value

/-- The unit as an escape. -/
def text (u : Unit16) : List Char :=
  ['\\', 'u', u.a.char, u.b.char, u.c.char, u.d.char]

theorem hex4?_text (u : Unit16) : hex4? u.a.char u.b.char u.c.char u.d.char = some u.value := by
  simp [hex4?, hexValue?_char, value]

end Unit16

/-- **The short escapes.** -/
inductive Short where
  | quote
  | backslash
  | slash
  | backspace
  | formFeed
  | lineFeed
  | carriageReturn
  | tab
  deriving Repr, DecidableEq

namespace Short

/-- The letter behind the backslash. -/
def letter : Short → Char
  | quote => '"'
  | backslash => '\\'
  | slash => '/'
  | backspace => 'b'
  | formFeed => 'f'
  | lineFeed => 'n'
  | carriageReturn => 'r'
  | tab => 't'

/-- What it stands for. -/
def char : Short → Char
  | quote => '"'
  | backslash => '\\'
  | slash => '/'
  | backspace => '\x08'
  | formFeed => '\x0c'
  | lineFeed => '\n'
  | carriageReturn => '\r'
  | tab => '\t'

end Short

/-- **A character of a string**, as it may be written. -/
inductive Glyph where
  /-- By itself: no control character, no quote and no backslash. -/
  | plain (c : Char) (h : 0x20 ≤ c.toNat ∧ c ≠ '"' ∧ c ≠ '\\')
  | short (e : Short)
  /-- By its number, in the BMP. -/
  | unit (u : Unit16) (h : u.value < 0xd800 ∨ 0xe000 ≤ u.value)
  /-- By its two halves, beyond the BMP. -/
  | pair (hi lo : Unit16) (hhi : 0xd800 ≤ hi.value ∧ hi.value < 0xdc00)
    (hlo : 0xdc00 ≤ lo.value ∧ lo.value < 0xe000)
  deriving Repr, DecidableEq

namespace Glyph

def text : Glyph → List Char
  | plain c _ => [c]
  | short e => ['\\', e.letter]
  | unit u _ => u.text
  | pair hi lo _ _ => hi.text ++ lo.text

/-- The character that is written. -/
def char : Glyph → Char
  | plain c _ => c
  | short e => e.char
  | unit u _ => Char.ofNat u.value
  | pair hi lo _ _ => Char.ofNat (0x10000 + (hi.value - 0xd800) * 0x400 + (lo.value - 0xdc00))

/-- The pieces that the reader takes it for. -/
def pieces : Glyph → List Piece
  | pair hi lo _ _ => [.half hi.value, .half lo.value]
  | g => [.char g.char]

end Glyph

/-- **A string** between its quotes. -/
abbrev Glyphs := List Glyph

namespace Glyphs

def text (gs : Glyphs) : List Char :=
  gs.flatMap Glyph.text

def value (gs : Glyphs) : String :=
  String.ofList (gs.map Glyph.char)

end Glyphs

/-- **What makes a string no text**: the second half of a pair where a character is to begin, and
the characters behind it. -/
structure Scrap where
  half : Unit16
  isSecond : 0xdc00 ≤ half.value ∧ half.value < 0xe000
  behind : Glyphs := []
  deriving Repr, DecidableEq

def Scrap.text (s : Scrap) : List Char :=
  s.half.text ++ s.behind.text

/-! ## 3. Numbers -/

/-- **One digit or several.** -/
structure Digits where
  first : Fin 10
  rest : List (Fin 10) := []
  deriving Repr, DecidableEq

def digitChar (d : Fin 10) : Char :=
  Char.ofNat (0x30 + d)

def Digits.text (ds : Digits) : List Char :=
  digitChar ds.first :: ds.rest.map digitChar

/-- **The sign and the digits of an exponent**, behind an `e` of either case. -/
structure Power where
  upper : Bool := false
  /-- True for a minus; a plus may be left out. -/
  sign : Option Bool := none
  digits : Digits
  deriving Repr, DecidableEq

namespace Power

def signText : Option Bool → List Char
  | none => []
  | some false => ['+']
  | some true => ['-']

def text (p : Power) : List Char :=
  (if p.upper then 'E' else 'e') :: (signText p.sign ++ p.digits.text)

end Power

/-- **A number**: no zero in front of another digit, and a fraction and an exponent if there are
any. -/
structure Numeral where
  minus : Bool := false
  whole : Digits
  lead : whole.first = 0 → whole.rest = []
  fraction : Option Digits := none
  power : Option Power := none
  deriving Repr, DecidableEq

namespace Numeral

/-- The fraction behind its point. -/
def fractionText : Option Digits → List Char
  | none => []
  | some ds => '.' :: ds.text

def powerText : Option Power → List Char
  | none => []
  | some p => p.text

def text (n : Numeral) : List Char :=
  (if n.minus then ['-'] else []) ++
    (n.whole.text ++ (fractionText n.fraction ++ powerText n.power))

/-- The parts of the number. -/
def literal (n : Numeral) : Literal where
  minus := n.minus
  whole := n.whole.text
  fraction := n.fraction.map Digits.text
  exponent := n.power.map fun p => (p.sign = some true, p.digits.text)

end Numeral

/-! ## 4. Values -/

mutual

/-- **A value, as it may be written.** -/
inductive Script where
  | null
  | bool (b : Bool)
  | number (n : Numeral)
  | string (s : Glyphs)
  /-- A string that is no text. -/
  | broken (front : Glyphs) (scrap : Scrap) (more : List Scrap)
  | emptyArray (gap : Gap)
  | array (items : Items)
  | emptyObject (gap : Gap)
  | object (entries : Entries)

/-- One item or several, with the blanks around each. -/
inductive Items where
  | one (before : Gap) (item : Script) (after : Gap)
  | more (before : Gap) (item : Script) (after : Gap) (rest : Items)

/-- One member or several, with the blanks around each name and each value. -/
inductive Entries where
  | one (before : Gap) (name : Glyphs) (behind : Gap) (front : Gap) (value : Script) (after : Gap)
  | more (before : Gap) (name : Glyphs) (behind : Gap) (front : Gap) (value : Script) (after : Gap)
    (rest : Entries)

end

/-- A string literal, quotes included. -/
def Glyphs.quoted (s : Glyphs) : List Char :=
  '"' :: (s.text ++ ['"'])

/-- A string literal that is no text. -/
def Scrap.quoted (front : Glyphs) (scraps : List Scrap) : List Char :=
  '"' :: (front.text ++ (scraps.flatMap Scrap.text ++ ['"']))

mutual

/-- **What is written.** -/
def Script.text : Script → List Char
  | .null => ['n', 'u', 'l', 'l']
  | .bool true => ['t', 'r', 'u', 'e']
  | .bool false => ['f', 'a', 'l', 's', 'e']
  | .number n => n.text
  | .string s => s.quoted
  | .broken front scrap more => Scrap.quoted front (scrap :: more)
  | .emptyArray gap => '[' :: (gap.text ++ [']'])
  | .array items => '[' :: items.text
  | .emptyObject gap => '{' :: (gap.text ++ ['}'])
  | .object entries => '{' :: entries.text

/-- The items, and the bracket that closes them. -/
def Items.text : Items → List Char
  | .one before item after => before.text ++ (item.text ++ (after.text ++ [']']))
  | .more before item after rest =>
    before.text ++ (item.text ++ (after.text ++ ',' :: rest.text))

/-- The members, and the brace that closes them. -/
def Entries.text : Entries → List Char
  | .one before name behind front value after =>
    before.text ++ (name.quoted ++ (behind.text ++
      ':' :: (front.text ++ (value.text ++ (after.text ++ ['}'])))))
  | .more before name behind front value after rest =>
    before.text ++ (name.quoted ++ (behind.text ++
      ':' :: (front.text ++ (value.text ++ (after.text ++ ',' :: rest.text)))))

end

mutual

/-- **The value that is written.** -/
def Script.value : Script → Json
  | .null => .null
  | .bool b => .bool b
  | .number n => n.literal.value
  | .string s => .string s.value
  | .broken _ _ _ => .unreadable
  | .emptyArray _ => .array []
  | .array items => .array items.values
  | .emptyObject _ => .object []
  | .object entries => .object entries.members

def Items.values : Items → List Json
  | .one _ item _ => [item.value]
  | .more _ item _ rest => item.value :: rest.values

def Entries.members : Entries → List (String × Json)
  | .one _ name _ _ value _ => [(name.value, value.value)]
  | .more _ name _ _ value _ rest => (name.value, value.value) :: rest.members

end

/-- **A text denotes a value** if it writes it in some way, with blanks before and after. -/
def Denotes (text : String) (j : Json) : Prop :=
  ∃ (before : Gap) (s : Script) (after : Gap),
    text.toList = before.text ++ (s.text ++ after.text) ∧ s.value = j

end TaskWatch.Json
