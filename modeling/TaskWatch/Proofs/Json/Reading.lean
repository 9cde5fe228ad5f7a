/-
# The reader finds what is written

**`read?_of_denotes`**: whatever way a value is written in, the reader finds it.  The proof follows
the script.

* A number is the one thing that does not say where it ends, so what comes behind it must not go
  on with it (`Stops`).  In a whole text that is a blank, a comma, a bracket or the end.
* Every step of the reader takes a character, so a script is read in as many steps as it has
  characters.
-/
import TaskWatch.Proofs.Json.Script

namespace TaskWatch.Json

/-! ## 1. Strings -/

theorem pieces?_unit (u : Unit16) {cs rest : List Char} {ps : List Piece}
    (h : pieces? cs = some (ps, rest)) :
    pieces? (u.text ++ cs) = some (.ofUnit u.value :: ps, rest) := by
  simp [Unit16.text, pieces?, u.hex4?_text, h]

theorem Piece.ofUnit_char {n : Nat} (h : n < 0xd800 ∨ 0xe000 ≤ n) :
    ofUnit n = .char (Char.ofNat n) :=
  if_neg (by omega)

theorem Piece.ofUnit_half {n : Nat} (h : 0xd800 ≤ n ∧ n < 0xe000) : ofUnit n = .half n :=
  if_pos h

/-- One glyph is taken for its pieces. -/
theorem pieces?_glyph (g : Glyph) {cs rest : List Char} {ps : List Piece}
    (h : pieces? cs = some (ps, rest)) :
    pieces? (g.text ++ cs) = some (g.pieces ++ ps, rest) := by
  cases g with
  | plain c hc =>
    obtain ⟨hcontrol, hquote, hslash⟩ := hc
    have : ¬(c.toNat < 0x20 ∨ c = '\\') := by simp [hslash, hcontrol]
    rw [Glyph.text, List.singleton_append, pieces?]
    · simp [this, h, Glyph.pieces, Glyph.char]
    · exact hquote
    · rintro _ _ _ _ _ rfl
      exact absurd rfl hslash
    · rintro _ _ rfl
      exact absurd rfl hslash
  | short e =>
    cases e <;> simp [Glyph.text, Short.letter, pieces?, shortEscape?, h, Glyph.pieces,
      Glyph.char, Short.char]
  | unit u hu =>
    rw [Glyph.text, pieces?_unit u h, Piece.ofUnit_char hu]
    rfl
  | pair hi lo hhi hlo =>
    rw [Glyph.text, List.append_assoc, pieces?_unit hi (pieces?_unit lo h),
      Piece.ofUnit_half (by omega), Piece.ofUnit_half (by omega)]
    rfl

/-- The pieces of one glyph make its character. -/
theorem join?_glyph (g : Glyph) (ps : List Piece) :
    join? (g.pieces ++ ps) = (join? ps).map (g.char :: ·) := by
  cases g with
  | plain | short | unit => cases h : join? ps <;> simp [Glyph.pieces, join?, h]
  | pair hi lo hhi hlo =>
    have : hi.value < 0xdc00 ∧ 0xdc00 ≤ lo.value := ⟨hhi.2, hlo.1⟩
    cases h : join? ps <;> simp [Glyph.pieces, Glyph.char, join?, this, h]

theorem pieces?_glyphs (gs : Glyphs) {cs rest : List Char} {ps : List Piece}
    (h : pieces? cs = some (ps, rest)) :
    pieces? (gs.text ++ cs) = some (gs.flatMap Glyph.pieces ++ ps, rest) := by
  induction gs with
  | nil => exact h
  | cons g gs ih => simpa [Glyphs.text] using pieces?_glyph g ih

theorem join?_glyphs (gs : Glyphs) (ps : List Piece) :
    join? (gs.flatMap Glyph.pieces ++ ps) = (join? ps).map (gs.map Glyph.char ++ ·) := by
  induction gs with
  | nil => simp
  | cons g gs ih => simp [join?_glyph, ih, Function.comp_def]

/-- The end of a string. -/
theorem pieces?_quote (rest : List Char) : pieces? ('"' :: rest) = some ([], rest) := rfl

/-- **A string is read**, from behind its opening quote. -/
theorem text?_glyphs (gs : Glyphs) (rest : List Char) :
    text? (gs.text ++ '"' :: rest) = some (some gs.value, rest) := by
  simp [text?, pieces?_glyphs gs (pieces?_quote rest), -List.append_nil, join?_glyphs, join?,
    Glyphs.value]

theorem pieces?_scrap (s : Scrap) {cs rest : List Char} {ps : List Piece}
    (h : pieces? cs = some (ps, rest)) :
    pieces? (s.text ++ cs) =
      some (.half s.half.value :: (s.behind.flatMap Glyph.pieces ++ ps), rest) := by
  obtain ⟨hlow, hhigh⟩ := s.isSecond
  rw [Scrap.text, List.append_assoc, pieces?_unit s.half (pieces?_glyphs s.behind h),
    Piece.ofUnit_half (by omega)]

/-- Scraps are taken for pieces, whatever they are. -/
theorem exists_pieces?_scraps (scraps : List Scrap) (rest : List Char) :
    ∃ ps, pieces? (scraps.flatMap Scrap.text ++ '"' :: rest) = some (ps, rest) := by
  induction scraps with
  | nil => exact ⟨[], pieces?_quote rest⟩
  | cons s scraps ih =>
    obtain ⟨ps, ih⟩ := ih
    rw [List.flatMap_cons, List.append_assoc]
    exact ⟨_, pieces?_scrap s ih⟩

/-- A second half begins no character. -/
theorem join?_second {unit : Nat} (h : 0xdc00 ≤ unit) (ps : List Piece) :
    join? (.half unit :: ps) = none := by
  have hfirst : ¬unit < 0xdc00 := Nat.not_lt.mpr h
  cases ps with
  | nil => rfl
  | cons p ps => cases p <;> simp [join?, hfirst]

/-- **A string that is no text is read over**, from behind its opening quote. -/
theorem text?_scraps (front : Glyphs) (scrap : Scrap) (more : List Scrap) (rest : List Char) :
    text? (front.text ++ ((scrap :: more).flatMap Scrap.text ++ '"' :: rest)) =
      some (none, rest) := by
  obtain ⟨ps, hmore⟩ := exists_pieces?_scraps more rest
  have hpieces := pieces?_glyphs front (pieces?_scrap scrap hmore)
  rw [List.flatMap_cons, List.append_assoc, text?, hpieces]
  simp [join?_glyphs, join?_second scrap.isSecond.1]

/-! ## 2. Numbers -/

/-- What does not go on with a run of digits. -/
def NoDigit (cs : List Char) : Prop :=
  ∀ c ∈ cs.head?, c.isDigit = false

/-- **What does not go on with a number.** -/
def Stops (cs : List Char) : Prop :=
  ∀ c ∈ cs.head?, c.isDigit = false ∧ c ≠ '.' ∧ c ≠ 'e' ∧ c ≠ 'E'

theorem Stops.noDigit {cs : List Char} (h : Stops cs) : NoDigit cs :=
  fun c hc => (h c hc).1

theorem stops_nil : Stops [] :=
  nofun

theorem stops_cons {c : Char} {cs : List Char}
    (h : c.isDigit = false ∧ c ≠ '.' ∧ c ≠ 'e' ∧ c ≠ 'E') : Stops (c :: cs) := by
  intro d hd
  cases hd
  exact h

theorem stops_gap (g : Gap) {cs : List Char} (h : Stops cs) : Stops (g.text ++ cs) := by
  cases g with
  | nil => exact h
  | cons b g =>
    refine stops_cons ?_
    cases b <;> decide

theorem digitChar_isDigit (d : Fin 10) : (digitChar d).isDigit = true := by
  revert d
  decide

theorem digitChar_eq_zero {d : Fin 10} : digitChar d = '0' ↔ d = 0 := by
  revert d
  decide

theorem Digits.isDigit_of_mem {ds : Digits} {c : Char} (h : c ∈ ds.text) : c.isDigit = true := by
  rcases List.mem_cons.mp h with rfl | h
  · exact digitChar_isDigit _
  · obtain ⟨d, -, rfl⟩ := List.mem_map.mp h
    exact digitChar_isDigit d

theorem NoDigit.takeWhile {cs : List Char} (h : NoDigit cs) : cs.takeWhile Char.isDigit = [] := by
  cases cs with
  | nil => rfl
  | cons c cs => exact List.takeWhile_cons_of_neg (by simp [h c rfl])

theorem NoDigit.dropWhile {cs : List Char} (h : NoDigit cs) : cs.dropWhile Char.isDigit = cs := by
  cases cs with
  | nil => rfl
  | cons c cs => exact List.dropWhile_cons_of_neg (by simp [h c rfl])

/-- **A run of digits is read to its end.** -/
theorem someDigits?_text (ds : Digits) {cs : List Char} (h : NoDigit cs) :
    someDigits? (ds.text ++ cs) = some (ds.text, cs) := by
  have hspan : spanDigits (ds.text ++ cs) = (ds.text, cs) := by
    rw [spanDigits, List.takeWhile_append_of_pos fun c => ds.isDigit_of_mem,
      List.dropWhile_append_of_pos fun c => ds.isDigit_of_mem, h.takeWhile, h.dropWhile,
      List.append_nil]
  rw [someDigits?, hspan]
  rfl

theorem whole?_text {ds : Digits} (hlead : ds.first = 0 → ds.rest = []) {cs : List Char}
    (h : NoDigit cs) : whole? (ds.text ++ cs) = some (ds.text, cs) := by
  have : ¬(ds.text.head? = some '0' ∧ ds.text ≠ ['0']) := by
    rintro ⟨hzero, hmore⟩
    have hfirst := digitChar_eq_zero.mp (Option.some.inj hzero)
    exact hmore (by rw [Digits.text, hlead hfirst, hfirst]; rfl)
  simp [whole?, someDigits?_text ds h, this]

theorem fraction?_text (f : Option Digits) {cs : List Char} (h : NoDigit cs)
    (hpoint : ∀ c ∈ cs.head?, c ≠ '.') :
    fraction? (Numeral.fractionText f ++ cs) = some (f.map Digits.text, cs) := by
  cases f with
  | some ds => simp [Numeral.fractionText, fraction?, someDigits?_text ds h]
  | none =>
    cases cs with
    | nil => rfl
    | cons c cs =>
      rw [Numeral.fractionText, List.nil_append, fraction?]
      · rfl
      · intro _ heq
        exact hpoint c rfl (List.cons.inj heq).1

/-- A sign is read, and a digit is none. -/
theorem exponentSign_text (sign : Option Bool) (ds : Digits) (cs : List Char) :
    exponentSign (Power.signText sign ++ (ds.text ++ cs)) =
      (decide (sign = some true), ds.text ++ cs) := by
  rcases sign with - | - | -
  · rw [Power.signText, List.nil_append, exponentSign]
    · rfl
    · rintro _ heq
      have := digitChar_isDigit ds.first
      rw [(List.cons.inj heq).1] at this
      cases this
    · rintro _ heq
      have := digitChar_isDigit ds.first
      rw [(List.cons.inj heq).1] at this
      cases this
  · rfl
  · rfl

theorem exponent?_text (p : Option Power) {cs : List Char} (h : Stops cs) :
    exponent? (Numeral.powerText p ++ cs) =
      some (p.map fun p => (decide (p.sign = some true), p.digits.text), cs) := by
  cases p with
  | some p =>
    obtain ⟨upper, sign, ds⟩ := p
    have hsome := someDigits?_text ds h.noDigit
    cases upper <;>
      simp [Numeral.powerText, Power.text, exponent?, exponentSign_text, hsome]
  | none =>
    cases cs with
    | nil => rfl
    | cons c cs =>
      obtain ⟨-, -, he, hE⟩ := h c rfl
      simp [Numeral.powerText, exponent?, he, hE]

theorem noDigit_power (p : Option Power) {cs : List Char} (h : Stops cs) :
    NoDigit (Numeral.powerText p ++ cs) ∧ ∀ c ∈ (Numeral.powerText p ++ cs).head?, c ≠ '.' := by
  cases p with
  | none => exact ⟨h.noDigit, fun c hc => (h c hc).2.1⟩
  | some p =>
    obtain ⟨upper, sign, ds⟩ := p
    cases upper <;> simp [NoDigit, Numeral.powerText, Power.text]

theorem noDigit_fraction (f : Option Digits) {cs : List Char} (h : NoDigit cs) :
    NoDigit (Numeral.fractionText f ++ cs) := by
  cases f with
  | none => exact h
  | some ds => simp [NoDigit, Numeral.fractionText]

/-- **A number is read to its end.** -/
theorem literal?_text (n : Numeral) {cs : List Char} (h : Stops cs) :
    literal? (n.text ++ cs) = some (n.literal, cs) := by
  obtain ⟨hpower, hpoint⟩ := noDigit_power n.power h
  have hwhole := whole?_text n.lead (noDigit_fraction n.fraction hpower)
  have hfraction := fraction?_text n.fraction hpower hpoint
  have hexponent := exponent?_text n.power h
  obtain ⟨minus, whole, lead, fraction, power⟩ := n
  cases minus with
  | true => simp [Numeral.text, literal?, hwhole, hfraction, hexponent, Numeral.literal]
  | false =>
    have hdigit := digitChar_isDigit whole.first
    simp only [Numeral.text, Bool.false_eq_true, if_false, List.nil_append, List.append_assoc,
      literal?]
    split
    · next heq =>
      -- a number without a sign begins with a digit
      rw [(List.cons.inj heq).1] at hdigit
      cases hdigit
    · simp [hwhole, hfraction, hexponent, Numeral.literal]

/-! ## 3. Values -/

theorem value?_gap (fuel : Nat) (g : Gap) (cs : List Char) :
    value? fuel (g.text ++ cs) = value? fuel cs := by
  cases fuel with
  | zero => simp [value?]
  | succ fuel => rw [value?, value?, skip_gap]

theorem value?_skip (fuel : Nat) (cs : List Char) : value? fuel (skip cs) = value? fuel cs := by
  cases fuel with
  | zero => simp [value?]
  | succ fuel => rw [value?, value?, skip_skip]

theorem items?_skip (fuel : Nat) (cs : List Char) : items? fuel (skip cs) = items? fuel cs := by
  cases fuel with
  | zero => simp [items?]
  | succ fuel => rw [items?, items?, value?_skip]

theorem members?_skip (fuel : Nat) (cs : List Char) :
    members? fuel (skip cs) = members? fuel cs := by
  cases fuel with
  | zero => simp [members?]
  | succ fuel => rw [members?, members?, skip_skip]

/-- A number begins with a sign or a digit. -/
theorem Numeral.text_eq_cons (n : Numeral) :
    ∃ c cs, n.text = c :: cs ∧ (c = '-' ∨ ∃ d, c = digitChar d) := by
  obtain ⟨minus, whole, lead, fraction, power⟩ := n
  cases minus with
  | true => exact ⟨_, _, rfl, .inl rfl⟩
  | false => exact ⟨_, _, rfl, .inr ⟨_, rfl⟩⟩

/-- What a value may begin with. -/
def Opens (c : Char) : Prop :=
  isSpace c = false ∧ c ≠ ']'

instance (c : Char) : Decidable (Opens c) :=
  inferInstanceAs (Decidable (_ ∧ _))

/-- **A value begins with a character of its own.** -/
theorem Script.text_eq_cons (s : Script) : ∃ c cs, s.text = c :: cs ∧ Opens c := by
  cases s with
  | null => exact ⟨'n', _, rfl, by decide⟩
  | bool b => cases b <;> exact ⟨_, _, rfl, by decide⟩
  | number n =>
    obtain ⟨c, cs, heq, hc⟩ := n.text_eq_cons
    refine ⟨c, cs, heq, ?_⟩
    rcases hc with rfl | ⟨d, rfl⟩
    · decide
    · clear heq
      revert d
      decide
  | string | broken => exact ⟨'"', _, rfl, by decide⟩
  | emptyArray | array => exact ⟨'[', _, rfl, by decide⟩
  | emptyObject | object => exact ⟨'{', _, rfl, by decide⟩

/-- Items begin with an item, and not with the bracket that closes them. -/
theorem Items.skip_text_append (items : Items) (rest : List Char) :
    ∃ c cs, skip (items.text ++ rest) = c :: cs ∧ c ≠ ']' := by
  cases items with
  | one before item after | more before item after items =>
    obtain ⟨c, cs, heq, hspace, hclose⟩ := item.text_eq_cons
    simp only [Items.text, List.append_assoc, skip_gap, heq, List.cons_append, skip_cons hspace]
    exact ⟨c, _, rfl, hclose⟩

/-- Members begin with a name. -/
theorem Entries.skip_text_append (entries : Entries) (rest : List Char) :
    ∃ cs, skip (entries.text ++ rest) = '"' :: cs := by
  have hquote : isSpace '"' = false := rfl
  cases entries with
  | one | more =>
    simp only [Entries.text, Glyphs.quoted, List.append_assoc, skip_gap, List.cons_append,
      skip_cons hquote]
    exact ⟨_, rfl⟩

/-- An object whose names are texts. -/
theorem ofMembers_some (ms : List (String × Json)) :
    ofMembers (ms.map fun m => (some m.1, m.2)) = object ms := by
  have hnames : ∀ f : Option String × Json → Option (String × Json),
      (∀ m : String × Json, f (some m.1, m.2) = some m) →
      (ms.map fun m => (some m.1, m.2)).mapM f = some ms := by
    intro f hf
    induction ms with
    | nil => rfl
    | cons m ms ih => simp [hf, ih]
  rw [ofMembers, hnames _ fun _ => rfl]

/-- A number is taken for one. -/
theorem value?_number (n : Numeral) (fuel : Nat) {rest : List Char} (h : Stops rest) :
    value? (fuel + 1) (n.text ++ rest) = some (n.literal.value, rest) := by
  obtain ⟨c, cs, heq, hc⟩ := n.text_eq_cons
  have hliteral := literal?_text n h
  rw [heq, List.cons_append] at hliteral ⊢
  have hsign : c = '-' ∨ c.isDigit = true := by
    rcases hc with rfl | ⟨d, rfl⟩
    · exact .inl rfl
    · exact .inr (digitChar_isDigit d)
  have hmarks : isSpace c = false ∧ c ≠ '"' ∧ c ≠ '[' ∧ c ≠ '{' := by
    rcases hc with rfl | ⟨d, rfl⟩
    · decide
    · clear heq hliteral hsign
      revert d
      decide
  obtain ⟨hspace, hquote, hbracket, hbrace⟩ := hmarks
  rw [value?, skip_cons hspace]
  simp [hsign, hliteral]

mutual

/-- **A value is read.** -/
theorem value?_text : ∀ (s : Script) (fuel : Nat) (rest : List Char), s.text.length ≤ fuel →
    Stops rest → value? fuel (s.text ++ rest) = some (s.value, rest)
  | s, 0, rest, hfuel, _ => by
    obtain ⟨c, cs, heq, -⟩ := s.text_eq_cons
    simp [heq] at hfuel
  | .null, fuel + 1, rest, _, _ => rfl
  | .bool true, fuel + 1, rest, _, _ => rfl
  | .bool false, fuel + 1, rest, _, _ => rfl
  | .number n, fuel + 1, rest, _, h => value?_number n fuel h
  | .string s, fuel + 1, rest, _, _ => by
    simp [Script.text, Glyphs.quoted, value?, skip_cons, isSpace, text?_glyphs, ofText,
      Script.value]
  | .broken front scrap more, fuel + 1, rest, _, _ => by
    have htext := text?_scraps front scrap more rest
    rw [List.flatMap_cons, List.append_assoc] at htext
    simp [Script.text, Scrap.quoted, value?, skip_cons, isSpace, htext, ofText, Script.value]
  | .emptyArray gap, fuel + 1, rest, _, _ => by
    simp [Script.text, value?, skip_cons, isSpace, Script.value]
  | .emptyObject gap, fuel + 1, rest, _, _ => by
    simp [Script.text, value?, skip_cons, isSpace, Script.value]
  | .array items, fuel + 1, rest, hfuel, _ => by
    have ih := items?_text items fuel rest (by simpa [Script.text] using hfuel)
    obtain ⟨c, cs, heq, hc⟩ := items.skip_text_append rest
    rw [← items?_skip, heq] at ih
    simp [Script.text, value?, skip_cons, isSpace, heq, hc, ih, Script.value]
  | .object entries, fuel + 1, rest, hfuel, _ => by
    have ih := members?_text entries fuel rest
      (by simpa [Script.text] using hfuel)
    obtain ⟨cs, heq⟩ := entries.skip_text_append rest
    rw [← members?_skip, heq] at ih
    simp [Script.text, value?, skip_cons, isSpace, heq, ih, ofMembers_some, Script.value]

/-- **Items are read**, to behind the bracket. -/
theorem items?_text : ∀ (items : Items) (fuel : Nat) (rest : List Char),
    items.text.length ≤ fuel → items? fuel (items.text ++ rest) = some (items.values, rest)
  | items, 0, rest, hfuel => by
    cases items <;> simp [Items.text] at hfuel
  | .one before item after, fuel + 1, rest, hfuel => by
    simp only [Items.text, List.length_append, List.length_singleton] at hfuel
    have ih := value?_text item fuel (after.text ++ ']' :: rest) (by omega)
      (stops_gap after (stops_cons (by decide)))
    simp [Items.text, items?, value?_gap, ih, skip_cons, isSpace, Items.values]
  | .more before item after items, fuel + 1, rest, hfuel => by
    simp only [Items.text, List.length_append, List.length_cons] at hfuel
    have ih := value?_text item fuel (after.text ++ ',' :: (items.text ++ rest))
      (by omega) (stops_gap after (stops_cons (by decide)))
    have ihs := items?_text items fuel rest (by omega)
    simp [Items.text, items?, value?_gap, ih, ihs, skip_cons, isSpace, Items.values]

/-- **Members are read**, to behind the brace. -/
theorem members?_text : ∀ (entries : Entries) (fuel : Nat) (rest : List Char),
    entries.text.length ≤ fuel → members? fuel (entries.text ++ rest) =
      some (entries.members.map fun m => (some m.1, m.2), rest)
  | entries, 0, rest, hfuel => by
    cases entries <;> simp [Entries.text] at hfuel
  | .one before name behind front value after, fuel + 1, rest, hfuel => by
    simp only [Entries.text, List.length_append, List.length_cons] at hfuel
    have ih := value?_text value fuel (after.text ++ '}' :: rest) (by omega)
      (stops_gap after (stops_cons (by decide)))
    simp [Entries.text, Glyphs.quoted, members?, text?_glyphs, value?_gap, ih, skip_cons, isSpace,
      Entries.members]
  | .more before name behind front value after entries, fuel + 1, rest, hfuel => by
    simp only [Entries.text, List.length_append, List.length_cons] at hfuel
    have ih := value?_text value fuel (after.text ++ ',' :: (entries.text ++ rest)) (by omega)
      (stops_gap after (stops_cons (by decide)))
    have ihs := members?_text entries fuel rest (by omega)
    simp [Entries.text, Glyphs.quoted, members?, text?_glyphs, value?_gap, ih, ihs, skip_cons,
      isSpace, Entries.members]

end

/-! ## 4. Texts -/

/-- **The reader finds the value that a text denotes.** -/
theorem read?_of_denotes {text : String} {j : Json} (h : Denotes text j) : read? text = some j := by
  obtain ⟨before, s, after, heq, rfl⟩ := h
  have hread : value? (text.toList.length + 1) text.toList = some (s.value, after.text) := by
    have hstops : Stops after.text := by
      rw [← after.text.append_nil]
      exact stops_gap after stops_nil
    rw [heq, value?_gap]
    refine value?_text s _ _ ?_ hstops
    simp only [List.length_append]
    omega
  simp [read?, readChars?, hread, skip_gap_nil]

end TaskWatch.Json
