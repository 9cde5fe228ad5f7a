/-
# What is written is what was meant

**`denotes_write`**: the compact text of a value denotes the value, and so **`read?_write`**:
reading undoes writing.  The proof finds the script of what is written: no blanks, the glyph that
the writer chooses for each character (`Glyph.ofChar`), and the decimal digits of a number.

Doubles are left out (`Exact`).  What is written for a double is its shortest decimal, and that this
is read as the same double again is a matter of rounding and not of the grammar.
-/
import Mathlib.Data.Nat.Digits.Defs
import TaskWatch.Json.Printer
import TaskWatch.Proofs.Json.Reading

namespace TaskWatch.Json

/-! ## 1. Strings -/

namespace Glyph

theorem zero_lt_base : 0 < 16 := by omega

theorem div_lt_base {c : Char} (h : c.toNat < 0x20) : c.toNat / 16 < 16 := by omega

theorem mod_lt_base (c : Char) : c.toNat % 16 < 16 := by omega

/-- The number of a control character. -/
def controlUnit (c : Char) (h : c.toNat < 0x20) : Unit16 :=
  ⟨⟨⟨0, zero_lt_base⟩, false⟩, ⟨⟨0, zero_lt_base⟩, false⟩,
    ⟨⟨c.toNat / 16, div_lt_base h⟩, false⟩, ⟨⟨c.toNat % 16, mod_lt_base c⟩, false⟩⟩

theorem controlUnit_isAlone (c : Char) (h : c.toNat < 0x20) :
    (controlUnit c h).value < 0xd800 ∨ 0xe000 ≤ (controlUnit c h).value := by
  simp only [Unit16.value, controlUnit]
  omega

/-- A control character, by its number. -/
def control (c : Char) (h : c.toNat < 0x20) : Glyph :=
  .unit (controlUnit c h) (controlUnit_isAlone c h)

/-- **The glyph that is written for a character.** -/
def ofChar (c : Char) : Glyph :=
  if hquote : c = '"' then .short .quote
  else if hslash : c = '\\' then .short .backslash
  else if c = '\x08' then .short .backspace
  else if c = '\x0c' then .short .formFeed
  else if c = '\n' then .short .lineFeed
  else if c = '\r' then .short .carriageReturn
  else if c = '\t' then .short .tab
  else if h : c.toNat < 0x20 then control c h
  else .plain c ⟨Nat.not_lt.mp h, hquote, hslash⟩

theorem char_control (c : Char) (h : c.toNat < 0x20) : (control c h).char = c := by
  have hvalue : ((0 * 16 + 0) * 16 + c.toNat / 16) * 16 + c.toNat % 16 = c.toNat := by omega
  exact (congrArg Char.ofNat hvalue).trans (Char.ofNat_toNat c)

theorem text_ofChar (c : Char) : (ofChar c).text = escapeChar c := by
  unfold ofChar escapeChar
  split_ifs <;> rfl

theorem char_ofChar (c : Char) : (ofChar c).char = c := by
  unfold ofChar
  split_ifs with _ _ _ _ _ _ _ hcontrol
  all_goals first | rfl | exact char_control _ _ | (subst c; rfl)

end Glyph

/-- The string that is written for a text. -/
def Glyphs.ofString (s : String) : Glyphs :=
  s.toList.map Glyph.ofChar

theorem Glyphs.quoted_ofString (s : String) : (ofString s).quoted = quote s := by
  simp [ofString, quoted, text, quote, List.flatMap_map, Glyph.text_ofChar]

theorem Glyphs.value_ofString (s : String) : (ofString s).value = s := by
  simp [ofString, value, Function.comp_def, Glyph.char_ofChar]

/-! ## 2. Numbers -/

theorem digitChar_eq (d : Fin 10) : digitChar d = Nat.digitChar d := by
  revert d
  decide

/-- **The digits that are written for a number**: no zero leads. -/
theorem exists_digits (n : Nat) :
    ∃ ds : Digits, ds.text = decimal n ∧ (ds.first = 0 → n = 0 ∧ ds.rest = []) := by
  induction n using Nat.strongRecOn with
  | ind n ih =>
    rw [decimal, Nat.toDigits_eq_if (by omega)]
    split
    · next hlt =>
      refine ⟨⟨⟨n, hlt⟩, []⟩, ?_, fun h => ⟨congrArg Fin.val h, rfl⟩⟩
      simp [Digits.text, digitChar_eq]
    · next hge =>
      obtain ⟨ds, htext, hlead⟩ := ih (n / 10) (by omega)
      refine ⟨⟨ds.first, ds.rest ++ [⟨n % 10, by omega⟩]⟩, ?_, fun h => ?_⟩
      · rw [← decimal, ← htext]
        simp [Digits.text, digitChar_eq]
      · have := (hlead h).1
        omega

theorem digitsValue_decimal (n : Nat) : digitsValue (decimal n) = n :=
  Nat.ofDigitChars_toDigits (by omega) (by omega)

/-- The numeral that is written for a number. -/
theorem exists_numeral (minus : Bool) (n : Nat) : ∃ l : Numeral,
    l.text = (if minus then ['-'] else []) ++ decimal n ∧
      l.literal = ⟨minus, decimal n, none, none⟩ := by
  obtain ⟨ds, htext, hlead⟩ := exists_digits n
  refine ⟨{ minus, whole := ds, lead := fun h => (hlead h).2 }, ?_, ?_⟩
  · simp [Numeral.text, Numeral.fractionText, Numeral.powerText, htext]
  · simp [Numeral.literal, htext]

theorem value_natural (n : UInt64) :
    Literal.value ⟨false, decimal n.toNat, none, none⟩ = .natural n := by
  have := n.toNat_lt_size
  simp [Literal.value, digitsValue_decimal, this]

theorem value_negative {n : UInt64} (hpos : 0 < n.toNat) (hle : n.toNat ≤ Nat.pow 2 63) :
    Literal.value ⟨true, decimal n.toNat, none, none⟩ = .negative n := by
  simp [Literal.value, digitsValue_decimal, hpos, hle]

/-! ## 3. Values -/

/-- **Values without doubles**, in which every part denotes a value. -/
inductive Exact : Json → Prop
  | null : Exact .null
  | bool (b : Bool) : Exact (.bool b)
  | natural (n : UInt64) : Exact (.natural n)
  | negative {n : UInt64} (hpos : 0 < n.toNat) (hle : n.toNat ≤ Nat.pow 2 63) : Exact (.negative n)
  | string (s : String) : Exact (.string s)
  | array {js : List Json} (h : ∀ j ∈ js, Exact j) : Exact (.array js)
  | object {ms : List (String × Json)} (h : ∀ m ∈ ms, Exact m.2) : Exact (.object ms)

attribute [simp] Exact.null Exact.bool Exact.natural Exact.string

/-- **A value has a script** that is written for it. -/
def Scripted (j : Json) : Prop :=
  ∃ s : Script, s.text = j.writeChars ∧ s.value = j

theorem exists_items {js : List Json} (h : ∀ j ∈ js, Scripted j) {j : Json} (hj : Scripted j) :
    ∃ items : Items, items.text = j.writeChars ++ writeItems js ∧ items.values = j :: js := by
  induction js generalizing j with
  | nil =>
    obtain ⟨s, htext, hvalue⟩ := hj
    refine ⟨.one [] s [], ?_, ?_⟩
    · simp [Items.text, Gap.text, htext, writeItems]
    · simp [Items.values, hvalue]
  | cons j' js ih =>
    obtain ⟨s, htext, hvalue⟩ := hj
    obtain ⟨hj', hjs⟩ := List.forall_mem_cons.mp h
    obtain ⟨items, htexts, hvalues⟩ := ih hjs hj'
    refine ⟨.more [] s [] items, ?_, ?_⟩
    · simp [Items.text, Gap.text, htext, htexts, writeItems]
    · simp [Items.values, hvalue, hvalues]

theorem exists_entries {ms : List (String × Json)} (h : ∀ m ∈ ms, Scripted m.2)
    (name : String) {j : Json} (hj : Scripted j) : ∃ entries : Entries,
      entries.text = quote name ++ ':' :: (j.writeChars ++ writeMembers ms) ∧
        entries.members = (name, j) :: ms := by
  induction ms generalizing name j with
  | nil =>
    obtain ⟨s, htext, hvalue⟩ := hj
    refine ⟨.one [] (.ofString name) [] [] s [], ?_, ?_⟩
    · simp [Entries.text, Gap.text, Glyphs.quoted_ofString, htext, writeMembers]
    · simp [Entries.members, Glyphs.value_ofString, hvalue]
  | cons m ms ih =>
    obtain ⟨s, htext, hvalue⟩ := hj
    obtain ⟨hm, hms⟩ := List.forall_mem_cons.mp h
    obtain ⟨entries, htexts, hvalues⟩ := ih hms m.1 hm
    refine ⟨.more [] (.ofString name) [] [] s [] entries, ?_, ?_⟩
    · simp [Entries.text, Gap.text, Glyphs.quoted_ofString, htext, htexts, writeMembers]
    · simp [Entries.members, Glyphs.value_ofString, hvalue, hvalues]

theorem Exact.scripted {j : Json} (h : Exact j) : Scripted j := by
  induction h with
  | null => exact ⟨.null, rfl, rfl⟩
  | bool b => exact ⟨.bool b, by cases b <;> rfl, rfl⟩
  | natural n =>
    obtain ⟨l, htext, hliteral⟩ := exists_numeral false n.toNat
    refine ⟨.number l, by simpa [Script.text, writeChars] using htext, ?_⟩
    rw [Script.value, hliteral, value_natural]
  | negative hpos hle =>
    obtain ⟨l, htext, hliteral⟩ := exists_numeral true _
    refine ⟨.number l, by simpa [Script.text, writeChars] using htext, ?_⟩
    rw [Script.value, hliteral, value_negative hpos hle]
  | string s =>
    refine ⟨.string (.ofString s), ?_, ?_⟩
    · simp [Script.text, Glyphs.quoted_ofString, writeChars]
    · simp [Script.value, Glyphs.value_ofString]
  | @array js _ ih =>
    cases js with
    | nil => exact ⟨.emptyArray [], rfl, rfl⟩
    | cons j js =>
      obtain ⟨hj, hjs⟩ := List.forall_mem_cons.mp ih
      obtain ⟨items, htext, hvalues⟩ := exists_items hjs hj
      exact ⟨.array items, by simp [Script.text, htext, writeChars],
        by simp [Script.value, hvalues]⟩
  | @object ms _ ih =>
    cases ms with
    | nil => exact ⟨.emptyObject [], rfl, rfl⟩
    | cons m ms =>
      obtain ⟨hm, hms⟩ := List.forall_mem_cons.mp ih
      obtain ⟨entries, htext, hvalues⟩ := exists_entries hms m.1 hm
      exact ⟨.object entries, by simp [Script.text, htext, writeChars],
        by simp [Script.value, hvalues]⟩

/-- **What is written for a value denotes it.** -/
theorem denotes_write {j : Json} (h : Exact j) : Denotes j.write j := by
  obtain ⟨s, htext, hvalue⟩ := h.scripted
  exact ⟨[], s, [], by simp [write, Gap.text, htext], hvalue⟩

/-- **Reading undoes writing.** -/
theorem read?_write {j : Json} (h : Exact j) : read? j.write = some j :=
  read?_of_denotes (denotes_write h)

end TaskWatch.Json
