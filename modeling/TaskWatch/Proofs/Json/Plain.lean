/-
# JSON on one line

The compact text of a value holds no control character, whatever its strings hold: what would be
one is escaped, and nothing else that is written could be one.  So the text is a single line
(**`allPlain_writeChars`**).
-/
import Mathlib.Data.List.Basic
import TaskWatch.Json.Printer

namespace TaskWatch.Json

/-- **A character that is no control character**, and so no line break either. -/
def IsPlain (c : Char) : Prop :=
  0x20 ≤ c.toNat

theorem IsPlain.ne_lf {c : Char} (h : IsPlain c) : c ≠ '\n' := by
  rintro rfl
  exact absurd h (by unfold IsPlain; decide)

theorem IsPlain.ne_cr {c : Char} (h : IsPlain c) : c ≠ '\r' := by
  rintro rfl
  exact absurd h (by unfold IsPlain; decide)

/-- **A text without control characters.** -/
def AllPlain (cs : List Char) : Prop :=
  ∀ c ∈ cs, IsPlain c

namespace AllPlain

@[simp] theorem nil : AllPlain [] := by
  simp [AllPlain]

@[simp] theorem cons_iff {c : Char} {cs : List Char} :
    AllPlain (c :: cs) ↔ IsPlain c ∧ AllPlain cs :=
  List.forall_mem_cons

@[simp] theorem append_iff {cs ds : List Char} :
    AllPlain (cs ++ ds) ↔ AllPlain cs ∧ AllPlain ds :=
  List.forall_mem_append

theorem sublist {cs ds : List Char} (h : AllPlain ds) (hs : cs.Sublist ds) : AllPlain cs :=
  fun c hc => h c (hs.subset hc)

end AllPlain

instance (c : Char) : Decidable (IsPlain c) :=
  inferInstanceAs (Decidable (0x20 ≤ c.toNat))

instance (cs : List Char) : Decidable (AllPlain cs) :=
  List.decidableBAll IsPlain cs

/-! ## 1. Strings -/

theorem isPlain_hexDigit {n : Nat} (h : n < 16) : IsPlain (hexDigit n) := by
  revert n
  decide

theorem allPlain_escapeChar (c : Char) : AllPlain (escapeChar c) := by
  unfold escapeChar
  split_ifs with _ _ _ _ _ _ _ hcontrol
  · decide
  · decide
  · decide
  · decide
  · decide
  · decide
  · decide
  · simp only [AllPlain.cons_iff]
    exact ⟨by decide, by decide, by decide, by decide, isPlain_hexDigit (by omega),
      isPlain_hexDigit (by omega), .nil⟩
  · exact AllPlain.cons_iff.mpr ⟨Nat.not_lt.mp hcontrol, .nil⟩

theorem allPlain_quote (s : String) : AllPlain (quote s) := by
  have hquote : IsPlain '"' := by decide
  refine AllPlain.cons_iff.mpr ⟨hquote, AllPlain.append_iff.mpr ⟨fun c hc => ?_, by simp [hquote]⟩⟩
  obtain ⟨d, -, hd⟩ := List.mem_flatMap.mp hc
  exact allPlain_escapeChar d c hd

/-! ## 2. Numbers -/

theorem allPlain_decimal (n : Nat) : AllPlain (decimal n) := by
  intro c hc
  have hdigit := Nat.isDigit_of_mem_toDigits (by omega) (by omega) hc
  simp only [Char.isDigit, Bool.and_eq_true, decide_eq_true_eq] at hdigit
  have h0 : '0'.toNat ≤ c.toNat := hdigit.1
  have : '0'.toNat = 0x30 := rfl
  unfold IsPlain
  omega

theorem allPlain_replicate_zero (n : Nat) : AllPlain (List.replicate n '0') := by
  intro c hc
  rw [List.eq_of_mem_replicate hc]
  decide

theorem allPlain_exponentText (e : Int) : AllPlain (Shortest.exponentText e) := by
  unfold Shortest.exponentText
  split
  · exact AllPlain.cons_iff.mpr ⟨by decide, allPlain_decimal _⟩
  · exact allPlain_decimal _

theorem allPlain_layout (d : Shortest.Decimal) : AllPlain (Shortest.layout d) := by
  have hds := allPlain_decimal d.digits
  have htake := fun n => hds.sublist (List.take_sublist n _)
  have hdrop := fun n => hds.sublist (List.drop_sublist n _)
  have hexp := allPlain_exponentText
  have hzeros := allPlain_replicate_zero
  have hmarks : IsPlain '.' ∧ IsPlain '0' ∧ IsPlain 'e' := by decide
  unfold decimal at hds htake hdrop
  simp only [Shortest.layout]
  split_ifs <;> simp [*, -List.drop_one]

theorem allPlain_real (bits : UInt64) : AllPlain (Shortest.text bits) := by
  have hsign : ∀ b : Prop, [Decidable b] → AllPlain (if b then ['-'] else []) := by
    intro b _
    split <;> decide
  simp only [Shortest.text]
  split
  · exact AllPlain.append_iff.mpr ⟨hsign _, by decide⟩
  · exact AllPlain.append_iff.mpr ⟨hsign _, allPlain_layout _⟩

/-! ## 3. Values -/

mutual

theorem allPlain_writeChars : ∀ j : Json, AllPlain (writeChars j)
  | null | unreadable => by decide
  | bool true | bool false => by decide
  | natural n => allPlain_decimal _
  | negative n => AllPlain.cons_iff.mpr ⟨by decide, allPlain_decimal _⟩
  | real bits => allPlain_real bits
  | string s => allPlain_quote s
  | array [] | object [] => by decide
  | array (j :: js) => by
    simpa [writeChars, allPlain_writeChars j, allPlain_writeItems js] using by decide
  | object ((name, j) :: ms) => by
    simpa [writeChars, allPlain_quote, allPlain_writeChars j, allPlain_writeMembers ms] using
      by decide

theorem allPlain_writeItems : ∀ js : List Json, AllPlain (writeItems js)
  | [] => by decide
  | j :: js => by
    simpa [writeItems, allPlain_writeChars j, allPlain_writeItems js] using by decide

theorem allPlain_writeMembers : ∀ ms : List (String × Json), AllPlain (writeMembers ms)
  | [] => by decide
  | (name, j) :: ms => by
    simpa [writeMembers, allPlain_quote, allPlain_writeChars j, allPlain_writeMembers ms] using
      by decide

end

end TaskWatch.Json
