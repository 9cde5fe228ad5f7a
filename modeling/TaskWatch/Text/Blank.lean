/-
# Blank characters, and text without its blank edges

The settings, the repository address and the messages built from two parts are all
trimmed of white space in the Unicode sense: the characters with the property
`White_Space`.  There are twenty-five of them, listed here by range.

* `isBlank` is the property.
* `trim` drops the blank characters at both ends, and nothing else.
-/

namespace TaskWatch.Text

/-- **The blank ranges.**  First and last code point of each run of characters with the
property `White_Space`, in increasing order. -/
def blankRanges : List (Nat × Nat) :=
  [(0x09, 0x0d), (0x20, 0x20), (0x85, 0x85), (0xa0, 0xa0), (0x1680, 0x1680),
   (0x2000, 0x200a), (0x2028, 0x2029), (0x202f, 0x202f), (0x205f, 0x205f), (0x3000, 0x3000)]

/-- A character is blank when one of the ranges holds it. -/
def isBlank (c : Char) : Bool :=
  blankRanges.any fun (first, last) => first ≤ c.toNat && c.toNat ≤ last

/-! ## Trimming -/

/-- The characters of a text without the blank ones at its start and at its end. -/
def trimChars (cs : List Char) : List Char :=
  ((cs.dropWhile isBlank).reverse.dropWhile isBlank).reverse

/-- **A text without its blank edges.** -/
def trim (s : String) : String :=
  String.ofList (trimChars s.toList)

/-- A text is blank when trimming leaves nothing of it. -/
def isBlankText (s : String) : Bool :=
  s.toList.all isBlank

theorem dropWhile_eq_nil_of_all {p : Char → Bool} :
    ∀ {cs : List Char}, cs.all p = true → cs.dropWhile p = []
  | [], _ => rfl
  | c :: cs, h => by
    simp only [List.all_cons, Bool.and_eq_true] at h
    simp [h.1, dropWhile_eq_nil_of_all h.2]

/-- **A blank text trims to nothing.** -/
theorem trimChars_eq_nil_of_all {cs : List Char} (h : cs.all isBlank = true) :
    trimChars cs = [] := by
  simp [trimChars, dropWhile_eq_nil_of_all h]

end TaskWatch.Text
