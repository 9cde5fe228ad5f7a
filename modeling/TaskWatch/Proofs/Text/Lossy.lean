/-
# Bytes that may be no text

`Utf8.decodeChars` reads whatever it is given.  Bytes that are no text become U+FFFD, and this
module is about what that does to the text around them: nothing, as far as ASCII goes.

* An ASCII byte is read as itself wherever it stands, and reading begins anew behind it
  (**`decodeChars_append_cons`**).  So bytes can be cut at line feeds before they are read.
* An ASCII character is read from its own byte only (**`byte_mem_of_mem_decodeChars`**), and a
  text that begins with ASCII characters was read from bytes that begin with theirs
  (**`encodeChars_begins_of_begins`**).

The null character is left out of the second part: it is also what `Char.ofNat` makes of a number
that is no character, and nothing here depends on it.

What carries the argument is the state between two bytes.  A character of several bytes that is
on its way needs one more byte of at least 0x80, and its number will be at least 0x80 (`Wide`).
-/
import TaskWatch.Proofs.Text.Utf8

namespace TaskWatch.Text.Utf8

/-! ## 1. What is on its way -/

/-- One byte, and the bytes behind it. -/
theorem decodeFrom_cons (pending : Option Pending) (b : UInt8) (rest : List UInt8) :
    decodeFrom pending (b :: rest) =
      (feed pending b).1 ++ decodeFrom (feed pending b).2 rest := rfl

/-- A byte with a character on its way. -/
theorem feed_some (p : Pending) (b : UInt8) :
    feed (some p) b =
      if p.low ≤ b.toNat ∧ b.toNat ≤ p.high then
        if p.missing ≤ 1 then ([Char.ofNat (p.bits * 0x40 + b.toNat % 0x40)], none)
        else ([], some ⟨p.missing - 1, 0x80, 0xbf, p.bits * 0x40 + b.toNat % 0x40⟩)
      else (replacement :: (start b).1, (start b).2) := rfl

/-- **A character on its way is no ASCII character**, and no ASCII byte goes on with it. -/
structure Pending.Wide (p : Pending) : Prop where
  low_le : 0x80 ≤ p.low
  high_le : p.high ≤ 0xbf
  /-- The bits with those of the next byte, if that is not the last one. -/
  bits_le : 2 ≤ if p.missing ≤ 1 then p.bits else p.bits * 0x40 + (p.low - 0x80)

/-- Nothing is on its way, or no ASCII character. -/
def AllWide (pending : Option Pending) : Prop :=
  ∀ p ∈ pending, p.Wide

theorem allWide_none : AllWide none := by
  intro p hp
  cases hp

/-- **What a lead byte announces**: itself, or a character of several bytes. -/
theorem leadSpan_cases {b : UInt8} {span : LeadSpan} (h : leadSpan b = some span) :
    (b.toNat < 0x80 ∧ span.more = 0) ∨
      (span.more ≠ 0 ∧ Pending.Wide ⟨span.more, span.low, span.high, span.bits⟩) := by
  unfold leadSpan at h
  simp only at h
  generalize b.toNat = n at h
  split_ifs at h with hascii
  · cases h
    exact .inl ⟨hascii, rfl⟩
  all_goals
    cases h
    exact .inr ⟨by simp, ⟨by simp, by simp, by simp <;> omega⟩⟩

/-- What a byte starts. -/
theorem allWide_start (b : UInt8) : AllWide (start b).2 := by
  unfold start
  split
  · exact allWide_none
  · rename_i span hspan
    split
    · exact allWide_none
    · rename_i hmore
      intro p hp
      obtain rfl : _ = p := Option.some.inj hp
      rcases leadSpan_cases hspan with ⟨-, hnone⟩ | ⟨-, hwide⟩
      · exact absurd hnone hmore
      · exact hwide

/-- **The state stays so** from byte to byte. -/
theorem allWide_feed {pending : Option Pending} (h : AllWide pending) (b : UInt8) :
    AllWide (feed pending b).2 := by
  cases pending with
  | none => exact allWide_start b
  | some p =>
    obtain ⟨hlow, hhigh, hbits⟩ := h p rfl
    rw [feed_some]
    split
    · rename_i hfits
      split
      · exact allWide_none
      · rename_i hmissing
        intro q hq
        obtain rfl : _ = q := Option.some.inj hq
        rw [if_neg hmissing] at hbits
        refine ⟨by simp, by simp, ?_⟩
        simp only
        split <;> omega
    · exact allWide_start b

/-! ## 2. ASCII bytes -/

/-- An ASCII byte starts and ends a character. -/
theorem start_ascii {b : UInt8} (hb : b.toNat < 0x80) :
    start b = ([Char.ofNat b.toNat], none) := by
  simp [start, leadSpan, hb]

/-- **At an ASCII byte** what is on its way is given up, and the byte is read as itself. -/
theorem feed_ascii {pending : Option Pending} (h : AllWide pending) {b : UInt8}
    (hb : b.toNat < 0x80) :
    feed pending b = (decodeFrom pending [] ++ [Char.ofNat b.toNat], none) := by
  cases pending with
  | none => exact start_ascii hb
  | some p =>
    have hlow := (h p rfl).low_le
    rw [feed_some, if_neg (by omega), start_ascii hb]
    rfl

/-- The same in the middle of a reading. -/
theorem decodeFrom_append_cons {pending : Option Pending} (h : AllWide pending) {b : UInt8}
    (hb : b.toNat < 0x80) (before rest : List UInt8) :
    decodeFrom pending (before ++ b :: rest) =
      decodeFrom pending before ++ Char.ofNat b.toNat :: decodeFrom none rest := by
  induction before generalizing pending with
  | nil =>
    rw [List.nil_append, decodeFrom_cons, feed_ascii h hb]
    simp
  | cons b' before ih =>
    have hnext := ih (allWide_feed h b')
    rw [List.cons_append, decodeFrom_cons, decodeFrom_cons, hnext, List.append_assoc]

/-- **Reading begins anew behind an ASCII byte.** -/
theorem decodeChars_append_cons {b : UInt8} (hb : b.toNat < 0x80) (before rest : List UInt8) :
    decodeChars (before ++ b :: rest) =
      decodeChars before ++ Char.ofNat b.toNat :: decodeChars rest :=
  decodeFrom_append_cons allWide_none hb before rest

/-! ## 3. ASCII characters -/

/-- **A character that cannot be read by mistake**: an ASCII character, but not the null. -/
def IsPlainAscii (c : Char) : Prop :=
  0 < c.toNat ∧ c.toNat < 0x80

/-- No number above them gives such a character. -/
theorem IsPlainAscii.ne_ofNat {c : Char} (hc : IsPlainAscii c) {n : Nat} (hn : 0x80 ≤ n) :
    c ≠ Char.ofNat n := by
  intro heq
  obtain ⟨hpos, hlt⟩ := hc
  rw [heq] at hpos hlt
  by_cases hvalid : n.isValidChar
  · rw [toNat_char_ofNat hvalid] at hlt
    omega
  · rw [Char.ofNat, dif_neg hvalid] at hpos
    exact absurd hpos (by decide)

theorem IsPlainAscii.ne_replacement {c : Char} (hc : IsPlainAscii c) : c ≠ replacement := by
  intro heq
  rw [heq] at hc
  exact absurd hc.2 (by decide)

/-- Such a character is read from its own byte. -/
theorem eq_of_mem_start {c : Char} (hc : IsPlainAscii c) {b : UInt8} (h : c ∈ (start b).1) :
    b = UInt8.ofNat c.toNat := by
  by_cases hb : b.toNat < 0x80
  · rw [start_ascii hb, List.mem_singleton] at h
    rw [h, toNat_char_ofNat (Or.inl (by omega))]
    simp
  · exfalso
    unfold start at h
    split at h
    · exact hc.ne_replacement (List.mem_singleton.mp h)
    · rename_i span hspan
      rcases leadSpan_cases hspan with ⟨hascii, -⟩ | ⟨hmore, -⟩
      · exact hb hascii
      · rw [if_neg hmore] at h
        cases h

theorem eq_of_mem_feed {c : Char} (hc : IsPlainAscii c) {pending : Option Pending}
    (hp : AllWide pending) {b : UInt8} (h : c ∈ (feed pending b).1) : b = UInt8.ofNat c.toNat := by
  cases pending with
  | none => exact eq_of_mem_start hc h
  | some p =>
    obtain ⟨hlow, hhigh, hbits⟩ := hp p rfl
    rw [feed_some] at h
    split at h
    · split at h
      · rename_i hmissing
        rw [if_pos hmissing] at hbits
        exact absurd (List.mem_singleton.mp h) (hc.ne_ofNat (by omega))
      · cases h
    · rcases List.mem_cons.mp h with h | h
      · exact absurd h hc.ne_replacement
      · exact eq_of_mem_start hc h

theorem byte_mem_of_mem_decodeFrom {c : Char} (hc : IsPlainAscii c) {pending : Option Pending}
    (hp : AllWide pending) {bytes : List UInt8} (h : c ∈ decodeFrom pending bytes) :
    UInt8.ofNat c.toNat ∈ bytes := by
  induction bytes generalizing pending with
  | nil =>
    cases pending with
    | none => cases h
    | some p => exact absurd (List.mem_singleton.mp h) hc.ne_replacement
  | cons b bytes ih =>
    rw [decodeFrom_cons] at h
    rcases List.mem_append.mp h with h | h
    · rw [eq_of_mem_feed hc hp h]
      exact List.mem_cons_self
    · exact List.mem_cons_of_mem _ (ih (allWide_feed hp b) h)

/-- **An ASCII character is read from its own byte only.** -/
theorem byte_mem_of_mem_decodeChars {c : Char} (hc : IsPlainAscii c) {bytes : List UInt8}
    (h : c ∈ decodeChars bytes) : UInt8.ofNat c.toNat ∈ bytes :=
  byte_mem_of_mem_decodeFrom hc allWide_none h

/-- A character on its way keeps an ASCII character from being the first. -/
theorem head?_decodeFrom_ne {c : Char} (hc : IsPlainAscii c) {p : Pending} (hp : p.Wide)
    (bytes : List UInt8) : (decodeFrom (some p) bytes).head? ≠ some c := by
  induction bytes generalizing p with
  | nil =>
    intro h
    exact hc.ne_replacement (Option.some.inj h).symm
  | cons b bytes ih =>
    intro h
    have hall : AllWide (some p) := by
      intro q hq
      exact Option.some.inj hq ▸ hp
    have hwide := allWide_feed hall b
    obtain ⟨hlow, hhigh, hbits⟩ := hp
    rw [decodeFrom_cons, feed_some] at h
    rw [feed_some] at hwide
    split at h
    · rename_i hfits
      rw [if_pos hfits] at hwide
      split at h
      · rename_i hmissing
        rw [if_pos hmissing] at hbits
        exact hc.ne_ofNat (by omega) (Option.some.inj h).symm
      · rename_i hmissing
        rw [if_neg hmissing] at hwide
        exact ih (hwide _ rfl) h
    · exact hc.ne_replacement (Option.some.inj h).symm

/-- **A first ASCII character** was read from the first byte. -/
theorem exists_cons_of_decodeChars {c : Char} (hc : IsPlainAscii c) {cs : List Char}
    {bytes : List UInt8} (h : decodeChars bytes = c :: cs) :
    ∃ rest, bytes = UInt8.ofNat c.toNat :: rest ∧ decodeChars rest = cs := by
  cases bytes with
  | nil => cases h
  | cons b rest =>
    have hread : (start b).1 ++ decodeFrom (start b).2 rest = c :: cs := h
    have hwide := allWide_start b
    by_cases hascii : b.toNat < 0x80
    · rw [start_ascii hascii, List.singleton_append] at hread
      obtain ⟨rfl, hrest⟩ := List.cons.inj hread
      have hbyte : b = UInt8.ofNat (Char.ofNat b.toNat).toNat :=
        eq_of_mem_start hc (by rw [start_ascii hascii]; exact List.mem_cons_self)
      exact ⟨rest, by rw [← hbyte], hrest⟩
    · -- the first character is a replacement, or one that this byte has only started
      exfalso
      unfold start at hread hwide
      split at hread
      · exact hc.ne_replacement (List.cons.inj hread).1.symm
      · rename_i span hspan
        simp only [hspan] at hwide
        rcases leadSpan_cases hspan with ⟨hlow, -⟩ | ⟨hmore, -⟩
        · exact hascii hlow
        · rw [if_neg hmore] at hread hwide
          have hhead := head?_decodeFrom_ne hc (hwide _ rfl) rest
          rw [List.nil_append] at hread
          rw [hread] at hhead
          exact hhead rfl

/-- **ASCII characters at the start of a text** were read from their own bytes. -/
theorem encodeChars_begins_of_begins {cs : List Char} (hcs : ∀ c ∈ cs, IsPlainAscii c)
    {bytes : List UInt8} (h : cs <+: decodeChars bytes) : encodeChars cs <+: bytes := by
  induction cs generalizing bytes with
  | nil => exact List.nil_prefix
  | cons c cs ih =>
    obtain ⟨hc, hcs⟩ := List.forall_mem_cons.mp hcs
    obtain ⟨more, hmore⟩ := h
    obtain ⟨rest, rfl, hrest⟩ := exists_cons_of_decodeChars hc hmore.symm
    have hchar : encodeChar c = [UInt8.ofNat c.toNat] := by
      simp [encodeChar, hc.2]
    rw [encodeChars, List.flatMap_cons, hchar, List.singleton_append, List.cons_prefix_cons]
    exact ⟨rfl, ih hcs ⟨more, hrest.symm⟩⟩

end TaskWatch.Text.Utf8
