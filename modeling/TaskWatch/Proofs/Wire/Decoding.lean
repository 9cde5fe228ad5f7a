/-
# What decides about an event

**`decode?_by_contents`**: what an event is decoded as depends on what its object says and not on
how it says it.  Blanks and escapes are gone once the text is read (`Json.read?_of_denotes`); the
order of the members, the names that are chosen for the fields and the members that mean nothing
make no difference to what each field is given (`Json.Spells.gives`); and an event is exactly its
kind and what its fields are given (`ofMembers?_eq_some_iff`).

The refusals come from the other direction of that law: an event that was decoded has been given
every field once and in its kind.
-/
import TaskWatch.Wire.Event
import TaskWatch.Proofs.Json.Writing
import TaskWatch.Proofs.Json.Record

namespace TaskWatch.Event

open Json (Denotes Field Layout Members Spells IsZero)

/-! ## 1. The fields of a kind -/

/-- **The kinds that are known.** -/
def kinds : List String :=
  ["info", "total", "compare_result", "progress", "success", "skip", "skip_hash", "failed",
    "complete", "container_restart_required", "restart", "done", "error"]

theorem kind_mem_kinds_iff {e : Event} : e.kind ∈ kinds ↔ e ≠ .unknown := by
  cases e <;> simp [kind, kinds]

theorem layout_isApart (kind : String) : (layout kind).IsApart := by
  unfold layout Layout.IsApart
  split <;> decide

theorem type_apart (kind : String) : ∀ f ∈ layout kind, Fields.type.Apart f := by
  unfold layout
  split <;> decide

theorem layout_of_not_mem {kind : String} (h : kind ∉ kinds) : layout kind = [] := by
  unfold layout
  split <;> first | rfl | exact absurd (by decide) h

theorem ofMembers?_of_not_mem {kind : String} (h : kind ∉ kinds) (ms : Members) :
    ofMembers? kind ms = some .unknown := by
  unfold ofMembers?
  split <;> first | rfl | exact absurd (by decide) h

/-- **Whether a value has the kind that a field needs.** -/
def fits (f : Field) : Json → Bool
  | .natural _ => f.name ∉ ["message", "filename", "needs_restart"]
  | .string _ => f.name ∈ ["message", "filename"]
  | .bool _ => f.name = "needs_restart"
  | _ => false

/-- The fields of an event have the kinds that they need. -/
theorem members_fit (e : Event) :
    List.Forall₂ (fun f j => fits f j = true) (layout e.kind) (e.members.map Prod.snd) := by
  cases e <;> simp [kind, layout, members] <;> and_intros <;> rfl

/-! ## 2. An event is what its fields are given -/

/-- **The members give each field of an event its value.** -/
def IsGiven (e : Event) (ms : Members) : Prop :=
  List.Forall₂ (fun f j => f.Gives ms j) (layout e.kind) (e.members.map Prod.snd)

theorem ofMembers?_eq_some_iff {e : Event} (he : e ≠ .unknown) (ms : Members) :
    ofMembers? e.kind ms = some e ↔ e.IsGiven ms := by
  cases e <;> simp [ofMembers?, kind, IsGiven, layout, members, Option.bind_eq_some_iff,
    Field.text?_eq_some_iff, Field.count?_eq_some_iff, Field.flag?_eq_some_iff, -Bool.exists_bool]

/-- An event is of the kind that it was read for, if that kind is known. -/
theorem kind_of_ofMembers? {kind : String} (hkind : kind ∈ kinds) {ms : Members} {e : Event}
    (h : ofMembers? kind ms = some e) : e.kind = kind := by
  unfold ofMembers? at h
  split at h
  case h_14 => simp_all [kinds]
  all_goals
    simp only [Option.bind_eq_bind, Option.bind_eq_some_iff, Option.pure_def,
      Option.some.injEq] at h
    grind [Event.kind]

/-- Every field is given some value of its kind. -/
theorem IsGiven.exists_fits {e : Event} {ms : Members} (h : e.IsGiven ms) {f : Field}
    (hf : f ∈ layout e.kind) : ∃ j, f.Gives ms j ∧ fits f j = true := by
  obtain ⟨i, hi, rfl⟩ := List.getElem_of_mem hf
  have hgives := List.forall₂_iff_get.mp h
  have hfits := List.forall₂_iff_get.mp e.members_fit
  exact ⟨_, hgives.2 i hi (hgives.1 ▸ hi), hfits.2 i hi (hgives.1 ▸ hi)⟩

/-! ## 3. Objects -/

/-- The members behind the kind. -/
def besides (ms : Members) : Members :=
  ms.filter fun m => !Fields.type.accepts m.1

theorem split?_object {ms : Members} {kind : String}
    (h : Fields.type.lookup? ms = some (some (.string kind))) :
    split? (.object ms) = some (kind, besides ms) := by
  simp [split?, Field.require?, h, Json.string?, besides]

/-- An object that is not refused for what it holds. -/
theorem ofJson?_object {ms : Members} {kind : String}
    (hms : ∀ m ∈ ms, m.2.isReadable = true ∧ m.2.depth < maxDepth)
    (h : Fields.type.lookup? ms = some (some (.string kind))) :
    ofJson? (.object ms) = ofMembers? kind (besides ms) := by
  have hreadable : (Json.object ms).isReadable = true :=
    Json.haveReadable_iff.mpr fun m hm => (hms m hm).1
  have hdepth : (Json.object ms).depth ≤ maxDepth :=
    Nat.succ_le_succ (Json.memberDepths_le_iff.mpr fun m hm => Nat.le_pred_of_lt (hms m hm).2)
  simp [ofJson?, hreadable, hdepth, split?_object h]

/-- **What an object that is accepted is made of.** -/
theorem exists_kind_of_ofJson? {ms : Members} {e : Event} (h : ofJson? (.object ms) = some e) :
    ∃ kind, Fields.type.lookup? ms = some (some (.string kind)) ∧
      ofMembers? kind (besides ms) = some e := by
  unfold ofJson? at h
  split at h
  · rcases hlookup : Fields.type.lookup? ms with - | - | j
    · simp [split?, Field.require?, hlookup] at h
    · simp [split?, Field.require?, hlookup] at h
    · cases j with
      | string kind =>
        rw [split?_object hlookup] at h
        exact ⟨kind, rfl, h⟩
      | _ => simp [split?, Field.require?, hlookup, Json.string?] at h
  · cases h

/-- If a field of its kind is among the fields, the event is known and was given it. -/
theorem exists_gives_of_ofJson? {ms : Members} {e : Event} (h : ofJson? (.object ms) = some e)
    {kind : String} (hkind : ("type", .string kind) ∈ ms) {f : Field} (hf : f ∈ layout kind) :
    ∃ j, f.Gives (besides ms) j ∧ fits f j = true := by
  obtain ⟨kind', hlookup, hread⟩ := exists_kind_of_ofJson? h
  cases Field.eq_of_lookup? hlookup hkind rfl
  by_cases hmem : kind ∈ kinds
  · cases kind_of_ofMembers? hmem hread
    exact ((ofMembers?_eq_some_iff (kind_mem_kinds_iff.mp hmem) _).mp hread).exists_fits hf
  · rw [layout_of_not_mem hmem] at hf
    cases hf

/-! ## 4. The contents decide -/

/-- **A member that means nothing** to an event of a kind, and that can be read where it stands. -/
structure IsExtra (kind : String) (m : String × Json) : Prop where
  notType : Fields.type.accepts m.1 = false
  foreign : (layout kind).IsForeign m
  readable : m.2.isReadable = true
  /-- The object around it counts too. -/
  shallow : m.2.depth < maxDepth

/-- **What an event is decoded as**, given the members of its object. -/
structure Decided (ms : Members) (result : Option Event) : Prop where
  /-- A known event: its kind, its fields under any of their names or left out for zeros, and
  members that mean nothing, all in any order. -/
  known : ∀ (e : Event) (given extra : Members), e ≠ .unknown →
    Spells (layout e.kind) (e.members.map Prod.snd) given → (∀ m ∈ extra, IsExtra e.kind m) →
    ms.Perm (("type", .string e.kind) :: (given ++ extra)) → result = some e
  /-- A kind that is not known. -/
  strange : ∀ (kind : String) (extra : Members), kind ∉ kinds →
    (∀ m ∈ extra, IsExtra kind m) → ms.Perm (("type", .string kind) :: extra) →
    result = some .unknown
  /-- The kind is given twice. -/
  twiceTyped : ∀ j₁ j₂ : Json, [("type", j₁), ("type", j₂)].Sublist ms → result = none
  /-- A field of the kind is given twice, under whatever names. -/
  twiceGiven : ∀ (kind : String) (f : Field) (m₁ m₂ : String × Json),
    ("type", .string kind) ∈ ms → f ∈ layout kind → f.accepts m₁.1 = true →
    f.accepts m₂.1 = true → [m₁, m₂].Sublist ms → result = none
  /-- A field of the kind holds a value of another kind than it needs. -/
  misfit : ∀ (kind : String) (f : Field) (m : String × Json),
    ("type", .string kind) ∈ ms → f ∈ layout kind → f.accepts m.1 = true → m ∈ ms →
    fits f m.2 = false → result = none

/-- The fields of an event hold scalars. -/
theorem members_scalar (e : Event) :
    ∀ j ∈ e.members.map Prod.snd, j.isReadable = true ∧ j.depth < maxDepth := by
  cases e <;> simp [members, Json.isReadable, Json.depth, maxDepth]

theorem ofJson?_known {e : Event} (he : e ≠ .unknown) {given extra ms : Members}
    (hgiven : Spells (layout e.kind) (e.members.map Prod.snd) given)
    (hextra : ∀ m ∈ extra, IsExtra e.kind m)
    (hms : ms.Perm (("type", .string e.kind) :: (given ++ extra))) :
    ofJson? (.object ms) = some e := by
  have hothers : ∀ m ∈ given ++ extra, Fields.type.accepts m.1 = false :=
    List.forall_mem_append.mpr ⟨fun m hm => hgiven.not_accepts (type_apart e.kind) hm,
      fun m hm => (hextra m hm).notType⟩
  have htype : Fields.type.lookup? ms = some (some (.string e.kind)) := by
    rw [Fields.type.lookup?_perm hms]
    exact Field.lookup?_cons_self rfl hothers
  have hbesides : (besides ms).Perm (given ++ extra) := by
    have hall : (given ++ extra).filter (fun m => !Fields.type.accepts m.1) = given ++ extra :=
      List.filter_eq_self.mpr fun m hm => by simp [hothers m hm]
    have hperm := hms.filter fun m => !Fields.type.accepts m.1
    rwa [List.filter_cons_of_neg (by simp [Fields.type, Field.accepts]), hall] at hperm
  have hfine : ∀ m ∈ ms, m.2.isReadable = true ∧ m.2.depth < maxDepth := by
    intro m hm
    rcases List.mem_cons.mp (hms.mem_iff.mp hm) with rfl | hm
    · exact ⟨rfl, Nat.zero_lt_succ _⟩
    · rcases List.mem_append.mp hm with hm | hm
      · exact e.members_scalar _ (hgiven.value_mem hm)
      · exact ⟨(hextra m hm).readable, (hextra m hm).shallow⟩
  rw [ofJson?_object hfine htype, ofMembers?_eq_some_iff he]
  exact hgiven.gives (layout_isApart e.kind) (fun m hm => (hextra m hm).foreign) hbesides

theorem ofJson?_strange {kind : String} (hkind : kind ∉ kinds) {extra ms : Members}
    (hextra : ∀ m ∈ extra, IsExtra kind m) (hms : ms.Perm (("type", .string kind) :: extra)) :
    ofJson? (.object ms) = some .unknown := by
  have htype : Fields.type.lookup? ms = some (some (.string kind)) := by
    rw [Fields.type.lookup?_perm hms]
    exact Field.lookup?_cons_self rfl fun m hm => (hextra m hm).notType
  have hfine : ∀ m ∈ ms, m.2.isReadable = true ∧ m.2.depth < maxDepth := by
    intro m hm
    rcases List.mem_cons.mp (hms.mem_iff.mp hm) with rfl | hm
    · exact ⟨rfl, Nat.zero_lt_succ _⟩
    · exact ⟨(hextra m hm).readable, (hextra m hm).shallow⟩
  rw [ofJson?_object hfine htype, ofMembers?_of_not_mem hkind]

/-- **The contents of an object decide what it is decoded as**, however they are written. -/
theorem decode?_by_contents {text : String} {ms : Members} (h : Denotes text (.object ms)) :
    Decided ms (decode? text) := by
  have hdecode : decode? text = ofJson? (.object ms) := by
    simp [decode?, Json.read?_of_denotes h]
  rw [hdecode]
  refine
    { known := fun e given extra he hgiven hextra hms => ofJson?_known he hgiven hextra hms
      strange := fun kind extra hkind hextra hms => ofJson?_strange hkind hextra hms
      twiceTyped := ?_
      twiceGiven := ?_
      misfit := ?_ }
  · intro j₁ j₂ hsub
    refine Option.eq_none_iff_forall_ne_some.mpr fun e he => ?_
    obtain ⟨kind, hlookup, -⟩ := exists_kind_of_ofJson? he
    rw [Field.lookup?_twice hsub rfl rfl] at hlookup
    cases hlookup
  · intro kind f m₁ m₂ hkind hf h₁ h₂ hsub
    refine Option.eq_none_iff_forall_ne_some.mpr fun e he => ?_
    obtain ⟨j, hgives, -⟩ := exists_gives_of_ofJson? he hkind hf
    -- neither of the two is the kind
    have hbehind := (type_apart kind f hf).symm
    have hsub' := hsub.filter fun m => !Fields.type.accepts m.1
    simp only [hbehind.not_accepts h₁, hbehind.not_accepts h₂, Bool.not_false,
      List.filter_cons_of_pos, List.filter_nil] at hsub'
    exact hgives.isSome (Field.lookup?_twice hsub' h₁ h₂)
  · intro kind f m hkind hf hname hm hmisfit
    refine Option.eq_none_iff_forall_ne_some.mpr fun e he => ?_
    obtain ⟨j, hgives, hfits⟩ := exists_gives_of_ofJson? he hkind hf
    have hbehind : m ∈ besides ms := by
      refine List.mem_filter.mpr ⟨hm, ?_⟩
      simp [(type_apart kind f hf).symm.not_accepts hname]
    rw [hgives.eq_of_mem hbehind hname, hfits] at hmisfit
    cases hmisfit

/-- The kind stands last; one field is given under an older name and one with escapes, behind a
member that means nothing; three are left out. -/
theorem decode?_of_older_names :
    let text := " \x7b\"need_restart\" :true,\n\"note\":[null,\x7b\x7d]," ++
      "\"message\":\"a\\u0062\\/\",\t\"type\":\"complete\"\x7d\r"
    let restart : String × Json := ("need_restart", .bool true)
    let note : String × Json := ("note", .array [.null, .object []])
    let message : String × Json := ("message", .string "ab/")
    let type : String × Json := ("type", .string "complete")
    Denotes text (.object [restart, note, message, type]) ∧
      decode? text = some (.complete 0 0 0 true "ab/") := by
  intro text restart note message type
  have htext : Denotes text (.object [restart, note, message, type]) := by
    refine ⟨[.space], .object (.more [] (.ofString "need_restart") [.space] [] (.bool true) []
      (.more [.lineFeed] (.ofString "note") [] []
        (.array (.more [] .null [] (.one [] (.emptyObject []) []))) []
      (.more [] (.ofString "message") [] []
        (.string [.ofChar 'a', .unit ⟨⟨0, false⟩, ⟨0, false⟩, ⟨6, false⟩, ⟨2, false⟩⟩ (by decide),
          .short .slash]) []
      (.one [.tab] (.ofString "type") [] [] (.string (.ofString "complete")) [])))),
      [.carriageReturn], ?_, ?_⟩
    · decide +kernel
    · rfl
  have hgiven : Spells (layout "complete") [.natural 0, .natural 0, .natural 0, .bool true,
      .string "ab/"] [restart, message] :=
    .leftOut .natural (.leftOut .natural (.leftOut .natural
      (.given (by decide) (.given (by decide) .nil))))
  have hextra : ∀ m ∈ [note], IsExtra "complete" m := by
    intro m hm
    cases List.mem_singleton.mp hm
    exact ⟨by decide, by decide, by decide, by decide⟩
  have hms : [restart, note, message, type].Perm (type :: ([restart, message] ++ [note])) :=
    (List.perm_append_singleton type [restart, note, message]).trans
      (.cons type (.cons restart (.swap message note [])))
  exact ⟨htext, (decode?_by_contents htext).known (.complete 0 0 0 true "ab/") _ _ nofun
    hgiven hextra hms⟩

end TaskWatch.Event
