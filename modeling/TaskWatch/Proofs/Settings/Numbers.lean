/-
# A number in a setting

How a number may be written is said here without the reader: decimal digits, with a plus sign in
front of them or not, between any blanks (`Writes`).  **`number?_eq_some_iff`**: the reader takes
exactly these texts, for the numbers that they write, as long as those are in range.

Digits are no blanks and do not begin with a sign, so there is one way to take such a text apart:
what is left of it without its blank edges (`trimChars_between`) is the sign and the digits.
-/
import Mathlib.Data.List.TakeWhile
import Mathlib.Data.Nat.Digits.Defs
import Mathlib.Data.Set.List
import TaskWatch.Proofs.Json.Reading
import TaskWatch.Settings

namespace TaskWatch

namespace Text

/-! ## 1. Blank edges -/

/-- **Trimming drops blanks** at both ends and nothing else. -/
theorem exists_trimChars (cs : List Char) :
    ∃ before after : List Char, (∀ c ∈ before, isBlank c) ∧ (∀ c ∈ after, isBlank c) ∧
      cs = before ++ trimChars cs ++ after := by
  refine ⟨cs.takeWhile isBlank, ((cs.dropWhile isBlank).reverse.takeWhile isBlank).reverse,
    ?_, ?_, ?_⟩
  · intro c hc
    exact List.mem_takeWhile_imp hc
  · intro c hc
    exact List.mem_takeWhile_imp (List.mem_reverse.mp hc)
  · have hend := (cs.dropWhile isBlank).reverse.takeWhile_append_dropWhile (p := isBlank)
    rw [trimChars, List.append_assoc, ← List.reverse_append, hend, List.reverse_reverse,
      List.takeWhile_append_dropWhile]

/-- What stands between blanks and begins and ends with none is what trimming leaves. -/
theorem trimChars_between {before core after : List Char} (hb : ∀ c ∈ before, isBlank c)
    (ha : ∀ c ∈ after, isBlank c) (hcore : ∀ c ∈ core, isBlank c = false) :
    trimChars (before ++ core ++ after) = core := by
  have hstop : ∀ cs ds : List Char, cs ≠ [] → (∀ c ∈ cs, isBlank c = false) →
      (cs ++ ds).dropWhile isBlank = cs ++ ds := by
    rintro (- | ⟨c, cs⟩) ds hne h
    · exact absurd rfl hne
    · exact List.dropWhile_cons_of_neg (by simp [h c List.mem_cons_self])
  rcases eq_or_ne core [] with rfl | hne
  · exact trimChars_eq_nil_of_all (by simpa [or_imp, forall_and] using ⟨hb, ha⟩)
  · have hend := hstop core.reverse [] (by simpa using hne) (by simpa using hcore)
    rw [List.append_nil] at hend
    rw [trimChars, List.append_assoc, List.dropWhile_append_of_pos hb,
      hstop core after hne hcore, List.reverse_append,
      List.dropWhile_append_of_pos (by simpa using ha), hend, List.reverse_reverse]

end Text

/-! ## 2. Digits -/

namespace Json

/-- **The number that digits write.** -/
def Digits.number (ds : Digits) : Nat :=
  Nat.ofDigits 10 ((ds.first :: ds.rest).reverse.map Fin.val)

theorem digitChar_toNat (d : Fin 10) : (digitChar d).toNat - '0'.toNat = d := by
  revert d
  decide

theorem digitChar_not_blank (d : Fin 10) : Text.isBlank (digitChar d) = false := by
  revert d
  decide

theorem digitChar_ne_plus (d : Fin 10) : digitChar d ≠ '+' := by
  revert d
  decide

/-- There are ten digits. -/
theorem exists_digitChar {c : Char} (h : c.isDigit) : ∃ d : Fin 10, digitChar d = c := by
  have hlow : 0x30 ≤ c.toNat ∧ c.toNat ≤ 0x39 := by
    simpa [Char.isDigit, Char.le_def, UInt32.le_iff_toNat_le] using h
  refine ⟨⟨c.toNat - 0x30, by omega⟩, ?_⟩
  rw [digitChar, show 0x30 + (c.toNat - 0x30) = c.toNat by omega, Char.ofNat_toNat]

/-- **What the reader of digits takes is digits**, one or several. -/
theorem Digits.exists_of_isDigit {cs : List Char} (hne : cs ≠ []) (h : ∀ c ∈ cs, c.isDigit) :
    ∃ ds : Digits, ds.text = cs := by
  have hall : cs ∈ Set.range (List.map digitChar) := by
    rw [Set.range_list_map]
    intro c hc
    exact exists_digitChar (h c hc)
  obtain ⟨- | ⟨d, ds⟩, rfl⟩ := hall
  · exact absurd rfl hne
  · exact ⟨⟨d, ds⟩, rfl⟩

/-- Taken from the left, digits make their number. -/
theorem Digits.foldl_text (ds : Digits) :
    ds.text.foldl (fun n c => 10 * n + (c.toNat - '0'.toNat)) 0 = ds.number := by
  have htext : ds.text = (ds.first :: ds.rest).map digitChar := rfl
  rw [htext, List.foldl_map, number, Nat.ofDigits_eq_foldr, List.foldr_map, List.foldr_reverse]
  simp only [digitChar_toNat, Nat.cast_id, Nat.add_comm]

end Json

theorem digits?_eq_some_iff {cs : List Char} {n : Nat} :
    digits? cs = some n ↔ ∃ ds : Json.Digits, ds.text = cs ∧ ds.number = n := by
  constructor
  · intro h
    obtain ⟨hdigits, rfl⟩ := Option.ite_some_none_eq_some.mp h
    simp only [Bool.and_eq_true, Bool.not_eq_true', List.isEmpty_eq_false_iff,
      List.all_eq_true] at hdigits
    obtain ⟨ds, rfl⟩ := Json.Digits.exists_of_isDigit hdigits.1 hdigits.2
    exact ⟨ds, rfl, ds.foldl_text.symm⟩
  · rintro ⟨ds, rfl, rfl⟩
    have hdigits : (!ds.text.isEmpty && ds.text.all Char.isDigit) = true := by
      simp only [Bool.and_eq_true, List.all_eq_true]
      exact ⟨rfl, fun c => ds.isDigit_of_mem⟩
    rw [digits?, if_pos hdigits, ds.foldl_text]

/-- Digits in range. -/
theorem digits?_upTo_eq_some_iff {cs : List Char} {limit n : Nat} :
    (digits? cs >>= fun n => if n ≤ limit then some n else none) = some n ↔
      (∃ ds : Json.Digits, ds.text = cs ∧ ds.number = n) ∧ n ≤ limit := by
  rw [Option.bind_eq_bind, Option.bind_eq_some_iff, ← digits?_eq_some_iff]
  constructor
  · rintro ⟨m, hread, h⟩
    obtain ⟨hle, rfl⟩ := Option.ite_some_none_eq_some.mp h
    exact ⟨hread, hle⟩
  · rintro ⟨hread, hle⟩
    exact ⟨n, hread, if_pos hle⟩

/-! ## 3. A number between blanks -/

/-- **How a number may be written**: digits, with a plus in front of them or not, and blanks
around them. -/
def Writes (text : String) (n : Nat) : Prop :=
  ∃ (before : List Char) (plus : Bool) (ds : Json.Digits) (after : List Char),
    (∀ c ∈ before, Text.isBlank c) ∧ (∀ c ∈ after, Text.isBlank c) ∧
      text.toList = before ++ ((if plus then ['+'] else []) ++ ds.text) ++ after ∧ ds.number = n

/-- The sign and the digits, without the blanks. -/
theorem writes_iff_trimChars {text : String} {n : Nat} :
    Writes text n ↔ ∃ (plus : Bool) (ds : Json.Digits),
      Text.trimChars text.toList = (if plus then ['+'] else []) ++ ds.text ∧ ds.number = n := by
  constructor
  · rintro ⟨before, plus, ds, after, hb, ha, htext, hn⟩
    refine ⟨plus, ds, ?_, hn⟩
    rw [htext]
    refine Text.trimChars_between hb ha ?_
    intro c hc
    rcases List.mem_append.mp hc with hplus | hdigit
    · obtain rfl : c = '+' := by
        cases plus <;> simp_all
      decide
    · have hdigit : c ∈ (ds.first :: ds.rest).map Json.digitChar := hdigit
      obtain ⟨d, -, rfl⟩ := List.mem_map.mp hdigit
      exact Json.digitChar_not_blank d
  · rintro ⟨plus, ds, htrim, hn⟩
    obtain ⟨before, after, hb, ha, htext⟩ := Text.exists_trimChars text.toList
    exact ⟨before, plus, ds, after, hb, ha, htrim ▸ htext, hn⟩

/-- **The reader takes the texts that write a number in range**, and no others. -/
theorem number?_eq_some_iff {limit n : Nat} {text : String} :
    number? limit text = some n ↔ Writes text n ∧ n ≤ limit := by
  rw [writes_iff_trimChars]
  constructor
  · intro h
    simp only [number?] at h
    split at h
    · obtain ⟨⟨ds, rfl, hn⟩, hle⟩ := digits?_upTo_eq_some_iff.mp h
      exact ⟨⟨true, ds, by assumption, hn⟩, hle⟩
    · obtain ⟨⟨ds, htext, hn⟩, hle⟩ := digits?_upTo_eq_some_iff.mp h
      exact ⟨⟨false, ds, htext.symm, hn⟩, hle⟩
  · rintro ⟨⟨plus, ds, htrim, hn⟩, hle⟩
    have hread := digits?_upTo_eq_some_iff.mpr ⟨⟨ds, rfl, hn⟩, hle⟩
    simp only [number?, htrim]
    cases plus with
    | true => exact hread
    | false =>
      split
      · next hplus => exact absurd (List.cons.inj hplus).1 (Json.digitChar_ne_plus ds.first)
      · exact hread

/-- A text that cannot be read writes no number in range. -/
theorem number?_eq_none_iff {limit : Nat} {text : String} :
    number? limit text = none ↔ ∀ n, Writes text n → limit < n := by
  simp only [Option.eq_none_iff_forall_ne_some, ne_eq, number?_eq_some_iff, not_and, Nat.not_le]

/-- **A text writes one number at most.** -/
theorem Writes.unique {text : String} {m n : Nat} (hm : Writes text m) (hn : Writes text n) :
    m = n := by
  have hreadm := number?_eq_some_iff.mpr ⟨hm, Nat.le_max_left m n⟩
  have hreadn := number?_eq_some_iff.mpr ⟨hn, Nat.le_max_right m n⟩
  exact Option.some.inj (hreadm.symm.trans hreadn)

/-- A blank text writes no number. -/
theorem not_writes_of_blank {text : String} (h : Text.isBlankText text) (n : Nat) :
    ¬Writes text n := by
  rw [writes_iff_trimChars, Text.trimChars_eq_nil_of_all h]
  rintro ⟨plus, ds, hnil, -⟩
  cases plus <;> cases hnil

end TaskWatch
