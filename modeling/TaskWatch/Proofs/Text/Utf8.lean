/-
# Text as bytes, and back

What is written as UTF-8 is read back as it was (**`decodeChars_encodeChars`**), and the byte of
an ASCII character stands for that character wherever it occurs (**`mem_encodeChar_iff`**).  So
bytes can be cut at line feeds without a look at the characters around them.

The reader takes a character byte by byte.  Its first byte says how many are to follow and what
range the next one lies in (`leadSpan_two`, `leadSpan_three`, `leadSpan_four`), and each that
follows adds six bits (`decodeFrom_continuation`).
-/
import Mathlib.Data.List.Basic
import TaskWatch.Text.Utf8

namespace TaskWatch.Text.Utf8

/-! ## 1. Bytes -/

theorem toNat_ofNat {n : Nat} (h : n < 0x100) : (UInt8.ofNat n).toNat = n := by
  simpa using h

/-- The number of a character, if there is one with that number. -/
theorem toNat_char_ofNat {n : Nat} (h : n.isValidChar) : (Char.ofNat n).toNat = n := by
  rw [Char.ofNat, dif_pos h]
  rfl

/-- An ASCII character is one byte. -/
theorem encodeChar_ascii {c : Char} (h : c.toNat < 0x80) : encodeChar c = [UInt8.ofNat c.toNat] := by
  simp [encodeChar, h]

theorem encodeChars_cons (c : Char) (cs : List Char) :
    encodeChars (c :: cs) = encodeChar c ++ encodeChars cs :=
  List.flatMap_cons

@[simp] theorem encodeChars_append (cs ds : List Char) :
    encodeChars (cs ++ ds) = encodeChars cs ++ encodeChars ds :=
  List.flatMap_append

theorem toNat_continuation (n : Nat) : (continuation n).toNat = 0x80 + n % 0x40 :=
  toNat_ofNat (by omega)

/-- **A byte that continues a character** adds six bits, and completes it or not. -/
theorem decodeFrom_continuation {p : Pending} {n : Nat} (hlow : p.low ≤ 0x80 + n % 0x40)
    (hhigh : 0x80 + n % 0x40 ≤ p.high) (rest : List UInt8) :
    decodeFrom (some p) (continuation n :: rest) =
      if p.missing ≤ 1 then Char.ofNat (p.bits * 0x40 + n % 0x40) :: decodeFrom none rest
      else decodeFrom (some ⟨p.missing - 1, 0x80, 0xbf, p.bits * 0x40 + n % 0x40⟩) rest := by
  have hbits : (0x80 + n % 0x40) % 0x40 = n % 0x40 := by omega
  simp only [decodeFrom, feed, toNat_continuation, hlow, hhigh, and_self, if_true, hbits]
  split <;> rfl

/-- A byte that starts a character of several bytes. -/
theorem decodeFrom_lead {b : UInt8} {span : LeadSpan} (h : leadSpan b = some span)
    (hmore : span.more ≠ 0) (rest : List UInt8) :
    decodeFrom none (b :: rest) =
      decodeFrom (some ⟨span.more, span.low, span.high, span.bits⟩) rest := by
  simp [decodeFrom, feed, start, h, hmore]

/-! ## 2. Characters -/

theorem leadSpan_two {n : Nat} (h : 0x80 ≤ n) (h' : n < 0x800) :
    leadSpan (UInt8.ofNat (0xc0 + n / 0x40)) = some ⟨1, 0x80, 0xbf, n / 0x40⟩ := by
  unfold leadSpan
  rw [toNat_ofNat (by omega)]
  grind

/-- Of three bytes, the second lies in the range that the first one sets: no form is longer than
it has to be, and no character is half of a surrogate pair. -/
theorem leadSpan_three {n : Nat} (h : 0x800 ≤ n) (h' : n < 0x10000)
    (hvalid : n < 0xd800 ∨ 0xdfff < n) :
    ∃ low high, leadSpan (UInt8.ofNat (0xe0 + n / 0x1000)) = some ⟨2, low, high, n / 0x1000⟩ ∧
      low ≤ 0x80 + n / 0x40 % 0x40 ∧ 0x80 + n / 0x40 % 0x40 ≤ high := by
  unfold leadSpan
  rw [toNat_ofNat (by omega)]
  by_cases hfirst : n / 0x1000 = 0
  · exact ⟨0xa0, 0xbf, by grind, by omega, by omega⟩
  · by_cases hlast : n / 0x1000 = 0xd
    · exact ⟨0x80, 0x9f, by grind, by omega, by omega⟩
    · exact ⟨0x80, 0xbf, by grind, by omega, by omega⟩

/-- Of four bytes too: no form is too long, and no character lies beyond the last one. -/
theorem leadSpan_four {n : Nat} (h : 0x10000 ≤ n) (h' : n < 0x110000) :
    ∃ low high, leadSpan (UInt8.ofNat (0xf0 + n / 0x40000)) = some ⟨3, low, high, n / 0x40000⟩ ∧
      low ≤ 0x80 + n / 0x1000 % 0x40 ∧ 0x80 + n / 0x1000 % 0x40 ≤ high := by
  unfold leadSpan
  rw [toNat_ofNat (by omega)]
  by_cases hfirst : n / 0x40000 = 0
  · exact ⟨0x90, 0xbf, by grind, by omega, by omega⟩
  · by_cases hlast : n / 0x40000 = 4
    · exact ⟨0x80, 0x8f, by grind, by omega, by omega⟩
    · exact ⟨0x80, 0xbf, by grind, by omega, by omega⟩

/-- **One character is read back.** -/
theorem decodeFrom_encodeChar (c : Char) (rest : List UInt8) :
    decodeFrom none (encodeChar c ++ rest) = c :: decodeFrom none rest := by
  have hchar : ∀ n, n = c.toNat → Char.ofNat n = c := by
    rintro n rfl
    exact Char.ofNat_toNat c
  have hvalid : c.toNat < 0xd800 ∨ 0xdfff < c.toNat ∧ c.toNat < 0x110000 := c.valid
  simp only [encodeChar]
  generalize c.toNat = n at hchar hvalid
  split_ifs with h1 h2 h3
  · have hlead : leadSpan (UInt8.ofNat n) = some ⟨0, 0, 0, n⟩ := by
      unfold leadSpan
      rw [toNat_ofNat (by omega), if_pos h1]
    simp [decodeFrom, feed, start, hlead, hchar n rfl]
  · rw [List.cons_append, decodeFrom_lead (leadSpan_two (by omega) h2) (by simp),
      List.cons_append, decodeFrom_continuation (by simp) (by simp; omega), if_pos (by simp),
      hchar _ (by simp only; omega), List.nil_append]
  · obtain ⟨low, high, hlead, hlow, hhigh⟩ := leadSpan_three (by omega) h3 (by omega)
    rw [List.cons_append, decodeFrom_lead hlead (by simp),
      List.cons_append, decodeFrom_continuation hlow hhigh, if_neg (by simp),
      List.cons_append, decodeFrom_continuation (by simp) (by simp; omega), if_pos (by simp),
      hchar _ (by simp only; omega), List.nil_append]
  · obtain ⟨low, high, hlead, hlow, hhigh⟩ := leadSpan_four (by omega) (by omega : n < 0x110000)
    rw [List.cons_append, decodeFrom_lead hlead (by simp),
      List.cons_append, decodeFrom_continuation hlow hhigh, if_neg (by simp),
      List.cons_append, decodeFrom_continuation (by simp) (by simp; omega), if_neg (by simp),
      List.cons_append, decodeFrom_continuation (by simp) (by simp; omega), if_pos (by simp),
      hchar _ (by simp only; omega), List.nil_append]

/-- **A text is read back.** -/
theorem decodeChars_encodeChars (cs : List Char) : decodeChars (encodeChars cs) = cs := by
  induction cs with
  | nil => rfl
  | cons c cs ih =>
    rw [decodeChars, encodeChars_cons, decodeFrom_encodeChar]
    exact congrArg (c :: ·) ih

theorem decode_encode (s : String) : decode (encode s) = s := by
  rw [decode, encode, decodeChars_encodeChars, String.ofList_toList]

/-- Two texts are never the same bytes. -/
theorem encode_injective : Function.Injective encode := by
  intro s t h
  rw [← decode_encode s, h, decode_encode]

/-- **Bytes are a text if they are what is written for it.** -/
theorem decode?_eq_some_iff {bytes : List UInt8} {s : String} :
    decode? bytes = some s ↔ bytes = encode s := by
  constructor
  · intro h
    obtain ⟨heq, rfl⟩ := Option.ite_some_none_eq_some.mp h
    exact heq.symm
  · rintro rfl
    rw [decode?]
    simp only [decode_encode, if_true]

/-- **The byte of an ASCII character** stands for that character, and for no other. -/
theorem mem_encodeChar_iff {c d : Char} (hd : d.toNat < 0x80) :
    UInt8.ofNat d.toNat ∈ encodeChar c ↔ c = d := by
  rw [← Char.toNat_inj]
  generalize d.toNat = n at hd
  have hne : ∀ k, k < 0x100 → UInt8.ofNat n = UInt8.ofNat k → n = k := by
    intro k hk heq
    have hnat := congrArg UInt8.toNat heq
    rwa [toNat_ofNat (by omega), toNat_ofNat hk] at hnat
  have hcont : ∀ k, UInt8.ofNat n ≠ continuation k := fun k heq => by
    have := hne _ (by omega) heq
    omega
  have hvalid : c.toNat < 0xd800 ∨ 0xdfff < c.toNat ∧ c.toNat < 0x110000 := c.valid
  simp only [encodeChar]
  generalize c.toNat = m at hvalid
  split_ifs
  · rw [List.mem_singleton]
    exact ⟨fun heq => (hne m (by omega) heq).symm, fun heq => by rw [heq]⟩
  -- the bytes of all others lie above
  all_goals
    refine iff_of_false ?_ (by omega)
    simp only [List.mem_cons, List.not_mem_nil, hcont, or_false]
    intro heq
    have := hne _ (by omega) heq
    omega

end TaskWatch.Text.Utf8
