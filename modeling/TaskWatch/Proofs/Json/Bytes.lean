/-
# Bytes and their spelling

What a body denotes is said by its spelling, and these are the laws of spelling:

* bytes are spelled piece by piece wherever they are parted at an ASCII byte
  (**`spellChars_append`**);
* bytes that are text are spelled by it (**`spelling_encode`**), so a body that is text denotes what
  the text does;
* bytes between two texts that are no text are spelled by a blot (**`spelling_blot`**).

A string with a blot is a string that is no text (`Script.blotted`), so a reader passes over it where
nobody needs it (**`readBytes?_of_blot`**).
-/
import Mathlib.Data.List.SplitBy
import TaskWatch.Json.Bytes
import TaskWatch.Proofs.Json.Writing
import TaskWatch.Proofs.Text.Utf8

namespace TaskWatch.Json

open Text

/-! ## 1. Bytes of characters -/

theorem isWide_iff {b : UInt8} : isWide b = true ↔ 0x80 ≤ b.toNat := by
  simp [isWide, UInt8.le_iff_toNat_le]

theorem not_isWide_ascii {c : Char} (h : c.toNat < 0x80) :
    isWide (UInt8.ofNat c.toNat) = false := by
  rw [Bool.eq_false_iff, ne_eq, isWide_iff, Utf8.toNat_ofNat (by omega)]
  omega

/-- **All bytes of a character beyond ASCII are wide.** -/
theorem isWide_of_mem_encodeChar {c : Char} (h : 0x80 ≤ c.toNat) {b : UInt8}
    (hb : b ∈ Utf8.encodeChar c) : isWide b = true := by
  rw [isWide_iff]
  by_contra hascii
  -- an ASCII byte stands for its own character only
  have htoNat : (Char.ofNat b.toNat).toNat = b.toNat := Utf8.toNat_char_ofNat (.inl (by omega))
  have hd : (Char.ofNat b.toNat).toNat < 0x80 := by omega
  have hc := (Utf8.mem_encodeChar_iff hd).mp (by rwa [htoNat, UInt8.ofNat_toNat])
  rw [← hc] at hd
  omega

/-! ## 2. Pieces -/

/-- **Bytes are parted** between two of them if one is an ASCII byte. -/
def Parted (front back : List UInt8) : Prop :=
  ∀ a ∈ front.getLast?, ∀ b ∈ back.head?, (isWide a && isWide b) = false

theorem Parted.of_front {front : List UInt8} (h : ∀ a ∈ front.getLast?, isWide a = false)
    (back : List UInt8) : Parted front back := by
  intro a ha b _
  rw [h a ha, Bool.false_and]

theorem Parted.of_back (front : List UInt8) {back : List UInt8}
    (h : ∀ b ∈ back.head?, isWide b = false) : Parted front back := by
  intro a _ b hb
  rw [h b hb, Bool.and_false]

/-- **Bytes that are parted are spelled one after the other.** -/
theorem spellChars_append {front back : List UInt8} (h : Parted front back) :
    spellChars (front ++ back) = spellChars front ++ spellChars back := by
  rw [spellChars, runs, List.splitBy_append h, List.flatMap_append]
  rfl

/-- Bytes that are text are spelled by it, if they are one piece. -/
theorem spellRun_encodeChars (cs : List Char) : spellRun (Utf8.encodeChars cs) = cs := by
  have hdecode : Utf8.decode? (Utf8.encodeChars cs) = some (String.ofList cs) := by
    rw [Utf8.decode?_eq_some_iff, Utf8.encode, String.toList_ofList]
  rw [spellRun, hdecode]
  exact String.toList_ofList

/-- Wide bytes are one piece. -/
theorem spellChars_wide {bytes : List UInt8} (h : ∀ b ∈ bytes, isWide b = true) :
    spellChars bytes = spellRun bytes := by
  by_cases hne : bytes = []
  · rw [hne]
    exact (spellRun_encodeChars []).symm
  · have hchain : bytes.IsChain fun a b => (isWide a && isWide b) = true := by
      refine List.Pairwise.isChain (List.pairwise_of_forall_mem_list ?_)
      intro a ha b hb
      rw [h a ha, h b hb, Bool.and_self]
    rw [spellChars, runs, List.splitBy_of_isChain hne hchain, List.flatMap_singleton]

/-! ## 3. Text -/

/-- An ASCII character is spelled by itself, wherever it stands. -/
theorem spellChars_cut {c : Char} (hc : c.toNat < 0x80) (front back : List UInt8) :
    spellChars (front ++ (Utf8.encodeChar c ++ back)) =
      spellChars front ++ c :: spellChars back := by
  have hown : spellChars [UInt8.ofNat c.toNat] = [c] := by
    have hrun := spellRun_encodeChars [c]
    rw [Utf8.encodeChars, List.flatMap_singleton, Utf8.encodeChar_ascii hc] at hrun
    exact (List.append_nil _).trans hrun
  rw [Utf8.encodeChar_ascii hc]
  have hascii : isWide (UInt8.ofNat c.toNat) = false := not_isWide_ascii hc
  have hbehind : Parted [UInt8.ofNat c.toNat] back := .of_front (by simpa using hascii) back
  have hinfront : Parted front ([UInt8.ofNat c.toNat] ++ back) :=
    .of_back front (by simpa using hascii)
  rw [spellChars_append hinfront, spellChars_append hbehind, hown, List.singleton_append]

/-- Text is spelled by itself, behind wide characters that are not spelled yet. -/
theorem spellChars_append_encodeChars (cs : List Char) :
    ∀ front : List Char, (∀ c ∈ front, 0x80 ≤ c.toNat) →
      spellChars (Utf8.encodeChars front ++ Utf8.encodeChars cs) = front ++ cs := by
  have hfront {front : List Char} (h : ∀ c ∈ front, 0x80 ≤ c.toNat) :
      spellChars (Utf8.encodeChars front) = front := by
    rw [spellChars_wide, spellRun_encodeChars]
    intro b hb
    obtain ⟨c, hc, hb⟩ := List.mem_flatMap.mp hb
    exact isWide_of_mem_encodeChar (h c hc) hb
  induction cs with
  | nil =>
    intro front h
    simpa [Utf8.encodeChars] using hfront h
  | cons c cs ih =>
    intro front h
    rw [Utf8.encodeChars_cons]
    by_cases hc : c.toNat < 0x80
    · rw [spellChars_cut hc, hfront h]
      exact congrArg (front ++ c :: ·) (ih [] nofun)
    · have hmore : ∀ d ∈ front ++ [c], 0x80 ≤ d.toNat :=
        List.forall_mem_append.mpr ⟨h, List.forall_mem_singleton.mpr (Nat.not_lt.mp hc)⟩
      have hspelled := ih (front ++ [c]) hmore
      rw [Utf8.encodeChars_append] at hspelled
      simpa [Utf8.encodeChars] using hspelled

theorem spellChars_encode (text : String) : spellChars (Utf8.encode text) = text.toList :=
  spellChars_append_encodeChars text.toList [] nofun

/-- **Bytes that are text are spelled by it.** -/
theorem spelling_encode (text : String) : spelling (Utf8.encode text) = text := by
  rw [spelling, spellChars_encode, String.ofList_toList]

/-- **A text in bytes denotes what the text does.** -/
theorem readBytes?_encode (text : String) : readBytes? (Utf8.encode text) = read? text := by
  rw [readBytes?, spelling_encode]

/-! ## 4. Blots -/

/-- A text that ends with an ASCII character ends with its byte. -/
theorem getLast?_encode {text : String} (h : ∀ c ∈ text.toList.getLast?, c.toNat < 0x80) :
    ∀ b ∈ (Utf8.encode text).getLast?, isWide b = false := by
  rw [Utf8.encode]
  rcases List.eq_nil_or_concat text.toList with heq | ⟨cs, c, heq⟩
  · simp [heq, Utf8.encodeChars]
  · rw [heq] at h ⊢
    have hc : c.toNat < 0x80 := h c (by simp)
    simpa [Utf8.encodeChars, Utf8.encodeChar_ascii hc] using not_isWide_ascii hc

/-- A text that begins with an ASCII character begins with its byte. -/
theorem head?_encode {text : String} (h : ∀ c ∈ text.toList.head?, c.toNat < 0x80) :
    ∀ b ∈ (Utf8.encode text).head?, isWide b = false := by
  rw [Utf8.encode]
  cases heq : text.toList with
  | nil => simp [Utf8.encodeChars]
  | cons c cs =>
    rw [heq] at h
    have hc : c.toNat < 0x80 := h c rfl
    simpa [Utf8.encodeChars, Utf8.encodeChar_ascii hc] using not_isWide_ascii hc

/-- **Bytes that are no text, between two texts**, are spelled by a blot. -/
theorem spelling_blot {front back : String} {bad : List UInt8}
    (hfront : ∀ c ∈ front.toList.getLast?, c.toNat < 0x80)
    (hback : ∀ c ∈ back.toList.head?, c.toNat < 0x80) (hwide : ∀ b ∈ bad, isWide b = true)
    (hbad : Utf8.decode? bad = none) :
    spelling (Utf8.encode front ++ (bad ++ Utf8.encode back)) =
      front ++ (String.ofList blot ++ back) := by
  have hblot : spellChars bad = blot := by rw [spellChars_wide hwide, spellRun, hbad]
  rw [spelling, spellChars_append (.of_front (getLast?_encode hfront) _),
    spellChars_append (.of_back bad (head?_encode hback)), hblot, spellChars_encode,
    spellChars_encode, String.ofList_append, String.ofList_append, String.ofList_toList,
    String.ofList_toList]

theorem twelve_lt_base : 12 < 16 := by decide

theorem thirteen_lt_base : 13 < 16 := by decide

/-- The half in a blot. -/
def blotHalf : Unit16 :=
  ⟨⟨⟨13, thirteen_lt_base⟩, false⟩, ⟨⟨12, twelve_lt_base⟩, false⟩,
    ⟨⟨0, Glyph.zero_lt_base⟩, false⟩, ⟨⟨0, Glyph.zero_lt_base⟩, false⟩⟩

theorem isSecond_blotHalf : 0xdc00 ≤ blotHalf.value ∧ blotHalf.value < 0xe000 := by decide

theorem isPlain_replacement : 0x20 ≤ '\uFFFD'.toNat ∧ '\uFFFD' ≠ '"' ∧ '\uFFFD' ≠ '\\' := by
  decide

/-- **A string with a blot**, as it may be written: the character in the blot is one like others, and
the half behind it is none. -/
def Script.blotted (front behind : Glyphs) : Script :=
  .broken (front ++ [.plain '\uFFFD' isPlain_replacement])
    { half := blotHalf, isSecond := isSecond_blotHalf, behind } []

/-- **A reader passes over bytes that are no text**, in a string where nobody needs it. -/
theorem readBytes?_of_blot {front back : String} {bad : List UInt8} {j : Json}
    (hfront : front.toList.getLast?.all (·.toNat < 0x80) = true)
    (hback : back.toList.head?.all (·.toNat < 0x80) = true) (hwide : bad.all isWide = true)
    (hbad : Utf8.decode? bad = none) (h : Denotes (front ++ (String.ofList blot ++ back)) j) :
    readBytes? (Utf8.encode front ++ (bad ++ Utf8.encode back)) = some j := by
  have hlast : ∀ c ∈ front.toList.getLast?, c.toNat < 0x80 := by
    simpa [Option.all_eq_true] using hfront
  have hfirst : ∀ c ∈ back.toList.head?, c.toNat < 0x80 := by
    simpa [Option.all_eq_true] using hback
  rw [readBytes?, spelling_blot hlast hfirst (List.all_eq_true.mp hwide) hbad, read?_of_denotes h]

/-- A member whose string is no text, behind one that is read. -/
example :
    let front := "\x7b\"found\":true,\"x\":\"é."
    let back := "\"\x7d"
    readBytes? (Utf8.encode front ++ ([0xff, 0xc3] ++ Utf8.encode back)) =
      some (.object [("found", .bool true), ("x", .unreadable)]) := by
  intro front back
  refine readBytes?_of_blot (by decide +kernel) (by decide +kernel) (by decide) (by decide) ?_
  refine ⟨[], .object (.more [] (.ofString "found") [] [] (.bool true) []
    (.one [] (.ofString "x") [] [] (.blotted (.ofString "é.") []) [])), [], ?_, rfl⟩
  decide +kernel

end TaskWatch.Json
