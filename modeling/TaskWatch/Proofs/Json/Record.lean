/-
# What is given for the fields of a record

Reading a field looks up its names among the members, so what it finds does not depend on their
order (`Field.lookup?_perm`), and it finds nothing if the field is given twice
(`Field.lookup?_twice`).

**`Field.Gives`** says which value some members give for a field: the value that stands there, or
the zero of its kind if the field is left out.  The three readers of fields find exactly this value
(`Field.count?_eq_some_iff` and its two likes).

**`Spells`** says how the fields of a layout may be written down: each one under any of its names,
or left out for a zero.  Since no two fields of the layout share a name, the members that are
written give each field its value, in whatever order they stand and whatever other members stand
among them (**`Spells.gives`**).

A record can also be described from outside, by the names that its members may have: `Lists` says
which members a value lists, `GivesOnce` and `GivesOr` what they give under some names.  Nothing
there speaks of fields, and the readers of fields find just that (**`require?_eq_some_iff`** and its
likes).
-/
import Mathlib.Data.List.Perm.Basic
import TaskWatch.Json.Record

namespace TaskWatch.Json

/-! ## 1. Measures of the members -/

theorem haveReadable_iff {ms : Members} :
    haveReadable ms = true ↔ ∀ m ∈ ms, m.2.isReadable = true := by
  induction ms with
  | nil => simp [haveReadable]
  | cons m ms ih => simp only [haveReadable, Bool.and_eq_true, ih, List.forall_mem_cons]

theorem memberDepths_le_iff {ms : Members} {n : Nat} :
    memberDepths ms ≤ n ↔ ∀ m ∈ ms, m.2.depth ≤ n := by
  induction ms with
  | nil => simp [memberDepths]
  | cons m ms ih => simp only [memberDepths, Nat.max_le, ih, List.forall_mem_cons]

/-! ## 2. Looking up a field -/

/-- **The zero of a kind**: what a field counts as when it is left out. -/
inductive IsZero : Json → Prop
  | natural : IsZero (.natural 0)
  | string : IsZero (.string "")
  | bool : IsZero (.bool false)

theorem isZero_natural_iff {n : UInt64} : IsZero (.natural n) ↔ n = 0 :=
  ⟨fun h => by cases h; rfl, fun h => h ▸ .natural⟩

theorem isZero_string_iff {s : String} : IsZero (.string s) ↔ s = "" :=
  ⟨fun h => by cases h; rfl, fun h => h ▸ .string⟩

theorem isZero_bool_iff {b : Bool} : IsZero (.bool b) ↔ b = false :=
  ⟨fun h => by cases h; rfl, fun h => h ▸ .bool⟩

namespace Field

variable {f g : Field} {ms ms' : Members}

/-- The order of the members does not matter. -/
theorem lookup?_perm (f : Field) (h : ms.Perm ms') : f.lookup? ms = f.lookup? ms' := by
  have hperm := h.filter fun m => f.accepts m.1
  unfold lookup?
  split
  · next heq =>
    rw [heq] at hperm
    rw [← hperm.nil_eq]
  · next heq =>
    rw [heq] at hperm
    rw [← List.singleton_perm.mp hperm]
  · next hnil hone =>
    split
    · next heq =>
      rw [heq] at hperm
      exact absurd hperm.eq_nil hnil
    · next m heq =>
      rw [heq] at hperm
      exact absurd (List.perm_singleton.mp hperm) (hone m)
    · rfl

/-- A field that is given once. -/
theorem lookup?_cons_self {name : String} {j : Json} (hname : f.accepts name = true)
    (hms : ∀ m ∈ ms, f.accepts m.1 = false) : f.lookup? ((name, j) :: ms) = some (some j) := by
  have hnone : ms.filter (fun m => f.accepts m.1) = [] := by
    simpa [List.filter_eq_nil_iff] using hms
  simp [lookup?, hname, hnone]

/-- A field that is left out. -/
theorem lookup?_eq_of_forall (hms : ∀ m ∈ ms, f.accepts m.1 = false) :
    f.lookup? ms = some none := by
  have hnone : ms.filter (fun m => f.accepts m.1) = [] := by
    simpa [List.filter_eq_nil_iff] using hms
  simp [lookup?, hnone]

/-- **A field that is given twice**, under whatever names. -/
theorem lookup?_twice {m₁ m₂ : String × Json} (h : [m₁, m₂].Sublist ms)
    (h₁ : f.accepts m₁.1 = true) (h₂ : f.accepts m₂.1 = true) : f.lookup? ms = none := by
  have hfilter := (h.filter fun m => f.accepts m.1).length_le
  simp only [h₁, h₂, List.filter_cons_of_pos, List.filter_nil, List.length_cons,
    List.length_nil] at hfilter
  unfold lookup?
  split
  · next heq => simp [heq] at hfilter
  · next heq => simp [heq] at hfilter
  · rfl

/-- What is found was given. -/
theorem eq_of_lookup? {m : String × Json} {j : Json} (h : f.lookup? ms = some (some j))
    (hm : m ∈ ms) (hname : f.accepts m.1 = true) : m.2 = j := by
  have hmem : m ∈ ms.filter fun m => f.accepts m.1 := List.mem_filter.mpr ⟨hm, hname⟩
  unfold lookup? at h
  split at h
  · cases h
  · next m' heq =>
    rw [heq, List.mem_singleton] at hmem
    rw [hmem]
    exact Option.some.inj (Option.some.inj h)
  · cases h

/-- A field that is not found was not given. -/
theorem not_accepts_of_lookup? {m : String × Json} (h : f.lookup? ms = some none)
    (hm : m ∈ ms) : f.accepts m.1 = false := by
  unfold lookup? at h
  split at h
  · next heq => simpa using List.filter_eq_nil_iff.mp heq m hm
  · cases h
  · cases h

/-! ## 3. The value that is given -/

/-- **Some members give a value for a field.** -/
def Gives (f : Field) (ms : Members) (j : Json) : Prop :=
  f.lookup? ms = some (some j) ∨ (f.lookup? ms = some none ∧ IsZero j)

/-- What is given is what stands there. -/
theorem Gives.eq_of_mem {m : String × Json} {j : Json} (h : f.Gives ms j) (hm : m ∈ ms)
    (hname : f.accepts m.1 = true) : m.2 = j := by
  rcases h with h | ⟨h, -⟩
  · exact eq_of_lookup? h hm hname
  · rw [not_accepts_of_lookup? h hm] at hname
    cases hname

theorem Gives.isSome {j : Json} (h : f.Gives ms j) : f.lookup? ms ≠ none := by
  rcases h with h | ⟨h, -⟩ <;> simp [h]

theorem count?_eq_some_iff {n : UInt64} : f.count? ms = some n ↔ f.Gives ms (.natural n) := by
  rcases h : f.lookup? ms with - | - | j
  · simp [count?, read?, Gives, h]
  · simp [count?, read?, Gives, h, isZero_natural_iff, eq_comm]
  · cases j <;> simp [count?, read?, Gives, h, natural?]

theorem text?_eq_some_iff {s : String} : f.text? ms = some s ↔ f.Gives ms (.string s) := by
  rcases h : f.lookup? ms with - | - | j
  · simp [text?, read?, Gives, h]
  · simp [text?, read?, Gives, h, isZero_string_iff, eq_comm]
  · cases j <;> simp [text?, read?, Gives, h, string?]

theorem flag?_eq_some_iff {b : Bool} : f.flag? ms = some b ↔ f.Gives ms (.bool b) := by
  rcases h : f.lookup? ms with - | - | j
  · simp [flag?, read?, Gives, h]
  · simp [flag?, read?, Gives, h, isZero_bool_iff, eq_comm]
  · cases j <;> simp [flag?, read?, Gives, h, bool?]

/-! ## 4. How fields may be written down -/

/-- **Two fields have no name in common.** -/
def Apart (f g : Field) : Prop :=
  ∀ name ∈ f.name :: f.aliases, g.accepts name = false

instance (f g : Field) : Decidable (f.Apart g) :=
  inferInstanceAs (Decidable (∀ name ∈ f.name :: f.aliases, g.accepts name = false))

theorem accepts_iff {name : String} : f.accepts name = true ↔ name ∈ f.name :: f.aliases := by
  simp [accepts]

theorem Apart.not_accepts (h : f.Apart g) {name : String} (hname : f.accepts name = true) :
    g.accepts name = false :=
  h name (accepts_iff.mp hname)

theorem Apart.symm (h : f.Apart g) : g.Apart f := by
  intro name hname
  cases hf : f.accepts name with
  | false => rfl
  | true =>
    have hg := accepts_iff.mpr hname
    rw [h.not_accepts hf] at hg
    cases hg

end Field

/-- **No name of a layout names two of its fields.** -/
def Layout.IsApart (fs : Layout) : Prop :=
  fs.Pairwise Field.Apart

/-- A member that no field of a layout is named by. -/
def Layout.IsForeign (fs : Layout) (m : String × Json) : Prop :=
  ∀ f ∈ fs, f.accepts m.1 = false

instance (fs : Layout) (m : String × Json) : Decidable (fs.IsForeign m) :=
  inferInstanceAs (Decidable (∀ f ∈ fs, f.accepts m.1 = false))

/-- **How the fields of a layout are written down** for given values. -/
inductive Spells : Layout → List Json → Members → Prop
  | nil : Spells [] [] []
  /-- Under one of its names. -/
  | given {f : Field} {fs : Layout} {name : String} {j : Json} {js : List Json} {ms : Members}
      (hname : f.accepts name = true) (h : Spells fs js ms) :
      Spells (f :: fs) (j :: js) ((name, j) :: ms)
  /-- Not at all. -/
  | leftOut {f : Field} {fs : Layout} {j : Json} {js : List Json} {ms : Members}
      (hzero : IsZero j) (h : Spells fs js ms) : Spells (f :: fs) (j :: js) ms

namespace Spells

variable {fs : Layout} {js : List Json} {given : Members}

/-- What is written down has a name of a field. -/
theorem exists_accepts (h : Spells fs js given) {m : String × Json} (hm : m ∈ given) :
    ∃ f ∈ fs, f.accepts m.1 = true := by
  induction h with
  | nil => cases hm
  | @given f _ _ _ _ _ hname _ ih =>
    rcases List.mem_cons.mp hm with rfl | hm
    · exact ⟨f, List.mem_cons_self, hname⟩
    · obtain ⟨g, hg, hgm⟩ := ih hm
      exact ⟨g, List.mem_cons_of_mem f hg, hgm⟩
  | leftOut _ _ ih =>
    obtain ⟨g, hg, hgm⟩ := ih hm
    exact ⟨g, List.mem_cons_of_mem _ hg, hgm⟩

/-- What is written down is one of the values. -/
theorem value_mem (h : Spells fs js given) {m : String × Json} (hm : m ∈ given) : m.2 ∈ js := by
  induction h with
  | nil => cases hm
  | given _ _ ih =>
    rcases List.mem_cons.mp hm with rfl | hm
    · exact List.mem_cons_self
    · exact List.mem_cons_of_mem _ (ih hm)
  | leftOut _ _ ih => exact List.mem_cons_of_mem _ (ih hm)

/-- No name of another field is among them. -/
theorem not_accepts (h : Spells fs js given) {f : Field} (hf : ∀ g ∈ fs, f.Apart g)
    {m : String × Json} (hm : m ∈ given) : f.accepts m.1 = false := by
  obtain ⟨g, hg, hgm⟩ := h.exists_accepts hm
  exact (hf g hg).symm.not_accepts hgm

/-- **The members give each field its value**, in any order and with any others among them. -/
theorem gives (h : Spells fs js given) (hfs : fs.IsApart) {extra ms : Members}
    (hextra : ∀ m ∈ extra, fs.IsForeign m) (hms : ms.Perm (given ++ extra)) :
    List.Forall₂ (fun f j => f.Gives ms j) fs js := by
  induction h generalizing extra with
  | nil => exact .nil
  | @given f fs name j js given hname h ih =>
    obtain ⟨hf, hfs⟩ := List.pairwise_cons.mp hfs
    have hothers : ∀ m ∈ given ++ extra, f.accepts m.1 = false :=
      List.forall_mem_append.mpr ⟨fun m hm => h.not_accepts hf hm,
        fun m hm => hextra m hm f List.mem_cons_self⟩
    -- for the fields behind it, this member is one of the others
    have hmoved : ms.Perm (given ++ (name, j) :: extra) := hms.trans List.perm_middle.symm
    refine .cons (.inl ?_) (ih hfs ?_ hmoved)
    · rw [f.lookup?_perm hms]
      exact Field.lookup?_cons_self hname hothers
    · intro m hm g hg
      rcases List.mem_cons.mp hm with rfl | hm
      · exact (hf g hg).not_accepts hname
      · exact hextra m hm g (List.mem_cons_of_mem f hg)
  | @leftOut f fs j js given hzero h ih =>
    obtain ⟨hf, hfs⟩ := List.pairwise_cons.mp hfs
    have hothers : ∀ m ∈ given ++ extra, f.accepts m.1 = false :=
      List.forall_mem_append.mpr ⟨fun m hm => h.not_accepts hf hm,
        fun m hm => hextra m hm f List.mem_cons_self⟩
    refine .cons (.inr ⟨?_, hzero⟩) (ih hfs ?_ hms)
    · rw [f.lookup?_perm hms]
      exact Field.lookup?_eq_of_forall hothers
    · intro m hm g hg
      exact hextra m hm g (List.mem_cons_of_mem f hg)

end Spells

/-! ## 5. What is given under some names -/

theorem bool?_eq_some_iff {j : Json} {b : Bool} : j.bool? = some b ↔ j = .bool b := by
  cases j <;> simp [bool?]

theorem string?_eq_some_iff {j : Json} {s : String} : j.string? = some s ↔ j = .string s := by
  cases j <;> simp [string?]

/-- **One member has one of some names, and only one**, and it has the value. -/
def GivesOnce (names : List String) (ms : Members) (j : Json) : Prop :=
  ∃ name, ms.filter (fun m => m.1 ∈ names) = [(name, j)]

/-- **No member has one of some names.** -/
def LeavesOut (names : List String) (ms : Members) : Prop :=
  ∀ m ∈ ms, m.1 ∉ names

instance (names : List String) (ms : Members) : Decidable (LeavesOut names ms) :=
  inferInstanceAs (Decidable (∀ m ∈ ms, m.1 ∉ names))

/-- **A value is given, or it is the default and is left out.** -/
def GivesOr (names : List String) (ms : Members) (default j : Json) : Prop :=
  GivesOnce names ms j ∨ LeavesOut names ms ∧ j = default

/-- **A value lists members**: an object its own, an array its items, which then stand for the first
ones of some names. -/
inductive Lists (names : List String) : Json → Members → Prop
  | object (ms : Members) : Lists names (.object ms) ms
  | array {items : List Json} (h : items.length ≤ names.length) :
      Lists names (.array items) (names.zip items)

theorem Layout.members?_eq_some_iff {layout : Layout} {j : Json} {ms : Members} :
    layout.members? j = some ms ↔ Lists (layout.map Field.name) j ms := by
  constructor
  · intro h
    cases j with
    | object members =>
      cases h
      exact .object _
    | array items =>
      obtain ⟨hlength, rfl⟩ := Option.ite_some_none_eq_some.mp h
      exact .array (by simpa using hlength)
    | _ => cases h
  · intro h
    cases h with
    | object => rfl
    | array h => exact if_pos (by simpa using h)

namespace Field

variable {f : Field} {ms : Members} {α : Type} {read : Json → Option α}

/-- **All names of a field.** -/
def names (f : Field) : List String :=
  f.name :: f.aliases

theorem filter_accepts (f : Field) (ms : Members) :
    ms.filter (fun m => f.accepts m.1) = ms.filter fun m => m.1 ∈ f.names := by
  refine List.filter_congr fun m _ => ?_
  rw [Bool.eq_iff_iff, accepts_iff, names, decide_eq_true_iff]

theorem lookup?_eq_some_some_iff {j : Json} :
    f.lookup? ms = some (some j) ↔ GivesOnce f.names ms j := by
  rw [lookup?, filter_accepts, GivesOnce]
  split
  · next heq => simp [heq]
  · next m heq =>
    simp only [heq, Option.some.injEq, List.cons.injEq, and_true]
    exact ⟨fun h => ⟨m.1, by rw [← h]⟩, fun ⟨name, h⟩ => by rw [h]⟩
  · next hnil hone =>
    refine iff_of_false nofun ?_
    rintro ⟨name, heq⟩
    exact hone _ heq

theorem lookup?_eq_some_none_iff : f.lookup? ms = some none ↔ LeavesOut f.names ms := by
  have hnil : ms.filter (fun m => m.1 ∈ f.names) = [] ↔ LeavesOut f.names ms := by
    simp [List.filter_eq_nil_iff, LeavesOut]
  rw [← hnil, lookup?, filter_accepts]
  split
  · next heq => simp [heq]
  · next m heq => simp [heq]
  · next hne _ => exact iff_of_false nofun hne

/-- **What has to be given is given once.** -/
theorem require?_eq_some_iff {a : α} :
    f.require? ms read = some a ↔ ∃ j, GivesOnce f.names ms j ∧ read j = some a := by
  simp only [← lookup?_eq_some_some_iff, require?]
  rcases f.lookup? ms with - | - | j <;> simp

/-- **What may be left out** is given once, or it is the default. -/
theorem read?_eq_some_iff {default a : α} :
    f.read? ms read default = some a ↔
      (∃ j, GivesOnce f.names ms j ∧ read j = some a) ∨ LeavesOut f.names ms ∧ a = default := by
  simp only [← lookup?_eq_some_some_iff, ← lookup?_eq_some_none_iff, read?]
  rcases f.lookup? ms with - | - | j <;> simp [eq_comm]

/-- What a field is given, said by its names. -/
theorem gives_iff {j zero : Json} (hzero : IsZero j ↔ j = zero) :
    f.Gives ms j ↔ GivesOr f.names ms zero j := by
  rw [Gives, lookup?_eq_some_some_iff, lookup?_eq_some_none_iff, hzero, GivesOr]

theorem gives_bool_iff {b : Bool} :
    f.Gives ms (.bool b) ↔ GivesOr f.names ms (.bool false) (.bool b) :=
  gives_iff (by simp [isZero_bool_iff])

theorem gives_natural_iff {n : UInt64} :
    f.Gives ms (.natural n) ↔ GivesOr f.names ms (.natural 0) (.natural n) :=
  gives_iff (by simp [isZero_natural_iff])

theorem gives_string_iff {s : String} :
    f.Gives ms (.string s) ↔ GivesOr f.names ms (.string "") (.string s) :=
  gives_iff (by simp [isZero_string_iff])

end Field

end TaskWatch.Json
