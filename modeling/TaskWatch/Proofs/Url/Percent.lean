/-
# Escapes, and back

A text with some of its bytes escaped can be read back, as long as the percent sign and everything
outside ASCII are among them (`IsReadable`).  The set for a component is such a set, so
**`decode_component`** gives the bytes of the text, and two texts never have the same component.

A component is inert: each of its characters stands for itself in every part of an address
(`IsInert`).  In particular the path of an address takes it over as it is (`encode_inPath`), so the
two passes of escaping do not get in each other's way.
-/
import TaskWatch.Url.Percent
import TaskWatch.Proofs.Text.Lossy

namespace TaskWatch.Url.Percent

open Text

/-! ## 1. Bytes of ASCII characters -/

/-- The character of an ASCII byte. -/
theorem toNat_charOfByte {b : UInt8} (h : b.toNat < 0x80) :
    (Char.ofNat b.toNat).toNat = b.toNat :=
  Utf8.toNat_char_ofNat (Or.inl (by omega))

/-- What holds of the byte of every number holds of every byte. -/
theorem forall_byte {p : UInt8 → Prop} (h : ∀ n < 0x100, p (UInt8.ofNat n)) (b : UInt8) : p b := by
  have hb := h b.toNat b.toNat_lt
  rwa [UInt8.ofNat_toNat] at hb

theorem isUnreserved_ascii (b : UInt8) : isUnreserved b → b.toNat < 0x80 := by
  revert b
  apply forall_byte
  decide +kernel

/-! ## 2. One escape -/

theorem hexDigit_ascii {n : Nat} (h : n < 16) : (hexDigit n).toNat < 0x80 := by
  revert n
  decide

theorem hexValue?_hexDigit {n : Nat} (h : n < 16) :
    hexValue? (UInt8.ofNat (hexDigit n).toNat) = some n := by
  revert n
  decide

/-- **A set of bytes whose escapes can be undone.** -/
structure IsReadable (escaped : UInt8 → Bool) : Prop where
  percent : escaped 0x25
  ascii : ∀ b, escaped b = false → b.toNat < 0x80

/-- A byte that is no percent sign is read as itself. -/
theorem decode_cons {b : UInt8} (h : b ≠ 0x25) (rest : List UInt8) :
    decode (b :: rest) = b :: decode rest := by
  rw [decode]
  intro x y tail hb
  exact absurd hb h

/-- **One byte is read back**, escaped or not. -/
theorem decode_encodeByte {escaped : UInt8 → Bool} (h : IsReadable escaped) (b : UInt8)
    (rest : List UInt8) :
    decode (Utf8.encodeChars (encodeByte escaped b) ++ rest) = b :: decode rest := by
  cases hb : escaped b with
  | true =>
    have hhigh : b.toNat / 16 < 16 := by
      have := b.toNat_lt
      omega
    have hlow : b.toNat % 16 < 16 := Nat.mod_lt _ (by decide)
    have hvalue : 16 * (b.toNat / 16) + b.toNat % 16 = b.toNat := Nat.div_add_mod _ _
    rw [encodeByte, if_pos hb, Utf8.encodeChars_cons, Utf8.encodeChars_cons, Utf8.encodeChars_cons,
      Utf8.encodeChar_ascii (hexDigit_ascii hhigh), Utf8.encodeChar_ascii (hexDigit_ascii hlow)]
    show decode (0x25 :: UInt8.ofNat _ :: UInt8.ofNat _ :: rest) = _
    rw [decode, hexValue?_hexDigit hhigh, hexValue?_hexDigit hlow]
    simp only [hvalue, UInt8.ofNat_toNat]
  | false =>
    have hascii := h.ascii b hb
    have hpercent : b ≠ 0x25 := by
      intro heq
      rw [heq, h.percent] at hb
      cases hb
    rw [encodeByte, hb, if_neg Bool.false_ne_true, Utf8.encodeChars_cons,
      Utf8.encodeChar_ascii (by rwa [toNat_charOfByte hascii]), toNat_charOfByte hascii,
      UInt8.ofNat_toNat]
    exact decode_cons hpercent rest

/-! ## 3. A whole text -/

/-- **A text is read back.** -/
theorem decode_encode {escaped : UInt8 → Bool} (h : IsReadable escaped) (s : String) :
    decode (Utf8.encode (encode escaped s)) = Utf8.encode s := by
  rw [encode, Utf8.encode, String.toList_ofList]
  induction Utf8.encode s with
  | nil => rfl
  | cons b bytes ih =>
    rw [List.flatMap_cons, Utf8.encodeChars, List.flatMap_append]
    refine (decode_encodeByte h b _).trans ?_
    exact congrArg (b :: ·) ih

theorem isReadable_component : IsReadable fun b => !isUnreserved b := by
  constructor
  · rfl
  · intro b hb
    exact isUnreserved_ascii b (by simpa using hb)

/-- **A component is read back.** -/
theorem decode_component (s : String) : decode (Utf8.encode (component s)) = Utf8.encode s :=
  decode_encode isReadable_component s

theorem component_injective : Function.Injective component := by
  intro s s' h
  have hbytes : Utf8.encode s = Utf8.encode s' := by
    rw [← decode_component s, h, decode_component]
  exact Utf8.encode_injective hbytes

/-! ## 4. Inert characters -/

/-- **A character that no part of an address escapes**, and that ends none of them: an unreserved
one, or the percent sign of an escape. -/
def IsInert (c : Char) : Prop :=
  c.toNat < 0x80 ∧ (c = '%' ∨ isUnreserved (UInt8.ofNat c.toNat))

instance : DecidablePred IsInert := fun c =>
  inferInstanceAs (Decidable (c.toNat < 0x80 ∧ (c = '%' ∨ isUnreserved (UInt8.ofNat c.toNat))))

/-- An inert character is none that is not. -/
theorem IsInert.ne {c d : Char} (h : IsInert c) (hd : ¬ IsInert d) : c ≠ d := by
  intro heq
  exact hd (heq ▸ h)

/-- An inert character is no blank. -/
theorem IsInert.printable {c : Char} (h : IsInert c) : 0x20 < c.toNat := by
  have hall : ∀ n < 0x80, IsInert (Char.ofNat n) → 0x20 < n := by decide +kernel
  have hc := hall c.toNat h.1
  rw [Char.ofNat_toNat] at hc
  exact hc h

theorem isInert_of_mem_encodeByte {b : UInt8} {c : Char}
    (h : c ∈ encodeByte (fun b => !isUnreserved b) b) : IsInert c := by
  cases hb : isUnreserved b with
  | true =>
    have hascii := isUnreserved_ascii b hb
    rw [encodeByte, hb, if_neg (by decide), List.mem_singleton] at h
    rw [h, IsInert, toNat_charOfByte hascii, UInt8.ofNat_toNat]
    exact ⟨hascii, .inr hb⟩
  | false =>
    have hdigit : ∀ n < 16, IsInert (hexDigit n) := by decide
    have hhigh : b.toNat / 16 < 16 := by
      have := b.toNat_lt
      omega
    rw [encodeByte, hb, if_pos (by decide)] at h
    rcases List.mem_cons.mp h with rfl | h
    · decide
    rcases List.mem_cons.mp h with rfl | h
    · exact hdigit _ hhigh
    · rw [List.mem_singleton.mp h]
      exact hdigit _ (Nat.mod_lt _ (by decide))

/-- **A text of such characters.** -/
def AllInert (s : String) : Prop :=
  ∀ c ∈ s.toList, IsInert c

instance : DecidablePred AllInert := fun s =>
  List.decidableBAll IsInert s.toList

/-- **A component is inert.** -/
theorem allInert_component (s : String) : AllInert (component s) := by
  intro c h
  rw [component, encode, String.toList_ofList] at h
  obtain ⟨b, -, hc⟩ := List.mem_flatMap.mp h
  exact isInert_of_mem_encodeByte hc

theorem inPath_of_isUnreserved (b : UInt8) : isUnreserved b → inPath b = false := by
  revert b
  apply forall_byte
  decide +kernel

theorem encodeByte_inPath {c : Char} (h : IsInert c) :
    encodeByte inPath (UInt8.ofNat c.toNat) = [c] := by
  obtain ⟨hascii, hc⟩ := h
  have hkept : inPath (UInt8.ofNat c.toNat) = false := by
    rcases hc with rfl | hc
    · decide
    · exact inPath_of_isUnreserved _ hc
  rw [encodeByte, hkept, if_neg Bool.false_ne_true, Utf8.toNat_ofNat (by omega), Char.ofNat_toNat]

/-- **A path takes inert text over as it is.** -/
theorem encode_inPath {s : String} (h : AllInert s) : encode inPath s = s := by
  have hchars (cs : List Char) (hcs : ∀ c ∈ cs, IsInert c) :
      (Utf8.encodeChars cs).flatMap (encodeByte inPath) = cs := by
    induction cs with
    | nil => rfl
    | cons c cs ih =>
      obtain ⟨hc, hcs⟩ := List.forall_mem_cons.mp hcs
      rw [Utf8.encodeChars_cons, List.flatMap_append, ih hcs, Utf8.encodeChar_ascii hc.1,
        List.flatMap_singleton, encodeByte_inPath hc]
      rfl
  rw [encode, Utf8.encode, hchars s.toList h, String.ofList_toList]

end TaskWatch.Url.Percent
