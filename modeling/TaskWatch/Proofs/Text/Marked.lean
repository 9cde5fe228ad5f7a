/-
# Text is read back however it is written

`Writes` lists the ways in which bytes write a text: in UTF-8 without a mark, which a text cannot be
that begins with the mark's own character, in UTF-8 with a mark, and in UTF-16 with a mark for
either order of the bytes.  **`decodeMarked_eq`**: the reader tells them apart and finds the text.

* No text in UTF-8 begins with a mark of UTF-16: the two bytes of the mark are bytes of no character
  (`toNat_lt_of_mem_encodeChar`).
* A character is one unit or two, and the halves of a pair are no units of their own
  (`decodeFrom_unitsOf`).
-/
import TaskWatch.Proofs.Text.Utf8
import TaskWatch.Text.Marked

namespace TaskWatch.Text

/-! ## 1. UTF-16 -/

namespace Utf16

/-- **The units of a character**: one, or the two halves of a pair. -/
def unitsOf (c : Char) : List Nat :=
  if c.toNat < 0x10000 then [c.toNat]
  else [0xd800 + (c.toNat - 0x10000) / 0x400, 0xdc00 + (c.toNat - 0x10000) % 0x400]

/-- The two bytes of a unit; `big` says that the high one comes first. -/
def bytesOf (big : Bool) (unit : Nat) : List UInt8 :=
  let high := UInt8.ofNat (unit / 0x100)
  let low := UInt8.ofNat (unit % 0x100)
  if big then [high, low] else [low, high]

/-- **A text as bytes.** -/
def encode (big : Bool) (text : String) : List UInt8 :=
  (text.toList.flatMap unitsOf).flatMap (bytesOf big)

theorem unit_lt {c : Char} {unit : Nat} (h : unit ∈ unitsOf c) : unit < 0x10000 := by
  have hvalid : c.toNat < 0xd800 ∨ 0xdfff < c.toNat ∧ c.toNat < 0x110000 := c.valid
  unfold unitsOf at h
  split at h
  · rw [List.mem_singleton.mp h]
    omega
  · simp only [List.mem_cons, List.not_mem_nil, or_false] at h
    omega

theorem units_bytesOf (big : Bool) {unit : Nat} (h : unit < 0x10000) (rest : List UInt8) :
    units big (bytesOf big unit ++ rest) = unit :: units big rest := by
  have hhigh := Utf8.toNat_ofNat (n := unit / 0x100) (by omega)
  have hlow := Utf8.toNat_ofNat (n := unit % 0x100) (by omega)
  have hsum : unit / 0x100 * 0x100 + unit % 0x100 = unit := by omega
  cases big with
  | true => simp only [bytesOf, if_true, List.cons_append, List.nil_append, units, hhigh, hlow, hsum]
  | false =>
    simp only [bytesOf, Bool.false_eq_true, if_false, List.cons_append, List.nil_append, units,
      hhigh, hlow, hsum]

theorem units_flatMap (big : Bool) {us : List Nat} (h : ∀ unit ∈ us, unit < 0x10000) :
    units big (us.flatMap (bytesOf big)) = us := by
  induction us with
  | nil => rfl
  | cons unit us ih =>
    obtain ⟨hunit, hus⟩ := List.forall_mem_cons.mp h
    rw [List.flatMap_cons, units_bytesOf big hunit, ih hus]

/-- No byte is left over. -/
theorem length_flatMap_bytesOf (big : Bool) (us : List Nat) :
    (us.flatMap (bytesOf big)).length = 2 * us.length := by
  induction us with
  | nil => rfl
  | cons unit us ih =>
    have hlength : (bytesOf big unit).length = 2 := by cases big <;> rfl
    rw [List.flatMap_cons, List.length_append, hlength, ih, List.length_cons]
    omega

theorem isFirst_iff {unit : Nat} : isFirst unit = true ↔ 0xd800 ≤ unit ∧ unit < 0xdc00 := by
  simp [isFirst]

theorem isSecond_iff {unit : Nat} : isSecond unit = true ↔ 0xdc00 ≤ unit ∧ unit < 0xe000 := by
  simp [isSecond]

/-- A unit that is no half is read as its character. -/
theorem decodeFrom_single (odd : Bool) {unit : Nat} (h : unit < 0xd800 ∨ 0xe000 ≤ unit)
    (rest : List Nat) :
    decodeFrom odd none (unit :: rest) = Char.ofNat unit :: decodeFrom odd none rest := by
  have hfirst : isFirst unit = false := by
    rw [Bool.eq_false_iff, ne_eq, isFirst_iff]
    omega
  have hsecond : isSecond unit = false := by
    rw [Bool.eq_false_iff, ne_eq, isSecond_iff]
    omega
  simp [decodeFrom, feed, start, hfirst, hsecond]

/-- Two halves are read as one character. -/
theorem decodeFrom_pair (odd : Bool) {first second : Nat} (hfirst : isFirst first = true)
    (hsecond : isSecond second = true) (rest : List Nat) :
    decodeFrom odd none (first :: second :: rest) =
      pair first second :: decodeFrom odd none rest := by
  simp [decodeFrom, feed, start, hfirst, hsecond]

/-- **One character is read back.** -/
theorem decodeFrom_unitsOf (odd : Bool) (c : Char) (rest : List Nat) :
    decodeFrom odd none (unitsOf c ++ rest) = c :: decodeFrom odd none rest := by
  have hvalid : c.toNat < 0xd800 ∨ 0xdfff < c.toNat ∧ c.toNat < 0x110000 := c.valid
  unfold unitsOf
  split
  · rw [List.singleton_append, decodeFrom_single odd (by omega), Char.ofNat_toNat]
  · have hsum : 0x10000 + (0xd800 + (c.toNat - 0x10000) / 0x400 - 0xd800) * 0x400 +
        (0xdc00 + (c.toNat - 0x10000) % 0x400 - 0xdc00) = c.toNat := by omega
    rw [List.cons_append, List.singleton_append,
      decodeFrom_pair odd (isFirst_iff.mpr (by omega)) (isSecond_iff.mpr (by omega)), pair, hsum,
      Char.ofNat_toNat]

/-- **A text is read back.** -/
theorem decode_encode (big : Bool) (text : String) : decode big (encode big text) = text := by
  have hunits : ∀ unit ∈ text.toList.flatMap unitsOf, unit < 0x10000 := by
    intro unit hunit
    obtain ⟨c, -, hc⟩ := List.mem_flatMap.mp hunit
    exact unit_lt hc
  have hchars : ∀ cs : List Char, decodeFrom false none (cs.flatMap unitsOf) = cs := by
    intro cs
    induction cs with
    | nil => rfl
    | cons c cs ih => rw [List.flatMap_cons, decodeFrom_unitsOf, ih]
  have hodd : (2 * (text.toList.flatMap unitsOf).length % 2 = 1) = False :=
    eq_false (by omega)
  rw [decode, encode, units_flatMap big hunits, length_flatMap_bytesOf]
  simp only [hodd, decide_false, hchars, String.ofList_toList]

end Utf16

/-! ## 2. Marks -/

/-- **Bytes write a text.** -/
inductive Writes : List UInt8 → String → Prop
  | unmarked {text : String} (h : text.toList.head? ≠ some '\uFEFF') :
      Writes (Utf8.encode text) text
  | utf8 (text : String) : Writes (0xef :: 0xbb :: 0xbf :: Utf8.encode text) text
  | utf16 (text : String) : Writes (0xfe :: 0xff :: Utf16.encode true text) text
  | utf16Swapped (text : String) : Writes (0xff :: 0xfe :: Utf16.encode false text) text

/-- **No byte of UTF-8 is one of the two** that a mark of UTF-16 is made of. -/
theorem toNat_lt_of_mem_encodeChar (c : Char) : ∀ b ∈ Utf8.encodeChar c, b.toNat < 0xf8 := by
  have hvalid : c.toNat < 0xd800 ∨ 0xdfff < c.toNat ∧ c.toNat < 0x110000 := c.valid
  have hcontinuation (n : Nat) : (Utf8.continuation n).toNat < 0xf8 := by
    rw [Utf8.toNat_continuation]
    omega
  have hlead {n : Nat} (hn : n < 0xf8) : (UInt8.ofNat n).toNat < 0xf8 := by
    rwa [Utf8.toNat_ofNat (by omega)]
  simp only [Utf8.encodeChar]
  generalize c.toNat = n at hvalid
  split_ifs
  all_goals
    simp only [List.forall_mem_cons, List.not_mem_nil, false_implies, implies_true, hcontinuation,
      and_true]
    exact hlead (by omega)

/-- The mark of UTF-8 is a character in UTF-8. -/
theorem toList_of_mark {text : String} {rest : List UInt8}
    (h : Utf8.encode text = 0xef :: 0xbb :: 0xbf :: rest) : text.toList.head? = some '\uFEFF' := by
  have hmark : 0xef :: 0xbb :: 0xbf :: rest = Utf8.encodeChar '\uFEFF' ++ rest := rfl
  have hread := Utf8.decodeFrom_encodeChar '\uFEFF' rest
  rw [← hmark, ← h] at hread
  rw [← Utf8.decodeChars_encodeChars text.toList]
  exact congrArg List.head? hread

/-- **The reader finds the text.** -/
theorem decodeMarked_eq {bytes : List UInt8} {text : String} (h : Writes bytes text) :
    decodeMarked bytes = text := by
  cases h with
  | unmarked h =>
    have hutf16 (b b' : UInt8) (hb : 0xf8 ≤ b.toNat) :
        [b, b'].isPrefixOf (Utf8.encode text) = false := by
      rw [Bool.eq_false_iff, ne_eq, List.isPrefixOf_iff_prefix]
      intro hbegins
      obtain ⟨c, -, hc⟩ := List.mem_flatMap.mp (hbegins.subset List.mem_cons_self)
      have hlt := toNat_lt_of_mem_encodeChar c b hc
      omega
    have hutf8 : [0xef, 0xbb, 0xbf].isPrefixOf (Utf8.encode text) = false := by
      rw [Bool.eq_false_iff, ne_eq, List.isPrefixOf_iff_prefix]
      rintro ⟨rest, hrest⟩
      exact h (toList_of_mark hrest.symm)
    rw [decodeMarked, hutf8, hutf16 0xfe 0xff (by decide), hutf16 0xff 0xfe (by decide)]
    exact Utf8.decode_encode text
  | utf8 =>
    rw [decodeMarked, if_pos (by simp [List.isPrefixOf])]
    exact Utf8.decode_encode text
  | utf16 =>
    rw [decodeMarked, if_neg (by simp [List.isPrefixOf]), if_pos (by simp [List.isPrefixOf])]
    exact Utf16.decode_encode true text
  | utf16Swapped =>
    rw [decodeMarked, if_neg (by simp [List.isPrefixOf]), if_neg (by simp [List.isPrefixOf]),
      if_pos (by simp [List.isPrefixOf])]
    exact Utf16.decode_encode false text

end TaskWatch.Text
