/-
# Paths

Three things about the paths of addresses.

* **Dots.**  A segment that stands for a place, however its dots are escaped, reads as the dots
  themselves (`decode_of_isSingleDot`, `decode_of_isDoubleDot`).  So the component of a text is such
  a segment for the two texts `.` and `..`, and for no others (`isSingleDot_component`,
  `isDoubleDot_component`).  All other segments are names, and are only put behind a path
  (`addSegments_append`).
* **Slashes.**  What is cut at slashes has none, and neither has a path that is made of it
  (`isSegment_extendPath`).
* **Text.**  The text of a path tells its segments, as none of them has a slash
  (`segmentsText_injOn`).  With a slash at its end it is the text of a place (`exists_place`).
-/
import Mathlib.Data.List.Basic
import TaskWatch.Url
import TaskWatch.Proofs.Url.Percent

namespace TaskWatch.Url

open Text
open Percent (component decode)

/-! ## 1. Dots -/

/-- A character in lower case is itself, or the small letter of a capital one. -/
theorem eq_or_of_toLower {c d : Char} (h : c.toLower = d) :
    c = d ∨ (0x41 ≤ c.toNat ∧ c.toNat + 0x20 = d.toNat) := by
  delta Char.toLower at h
  by_cases hcapital : c.val ≥ 'A'.val ∧ c.val ≤ 'Z'.val
  · right
    rw [dif_pos hcapital] at h
    have hlow : 0x41 ≤ c.toNat := hcapital.1
    have hhigh : c.toNat ≤ 0x5a := hcapital.2
    refine ⟨hlow, ?_⟩
    rw [← h]
    show c.toNat + 0x20 = (c.val + 0x20).toNat
    rw [UInt32.toNat_add]
    exact (Nat.mod_eq_of_lt (by omega)).symm
  · left
    rw [dif_neg hcapital] at h
    exact h

/-- A dot, or the escape of one. -/
def IsDot (cs : List Char) : Prop :=
  cs.map Char.toLower = ['.'] ∨ cs.map Char.toLower = ['%', '2', 'e']

theorem eq_of_toLower {c d : Char} (h : c.toLower = d) (hd : d.toNat < 0x61) : c = d := by
  rcases eq_or_of_toLower h with rfl | ⟨hlow, heq⟩
  · rfl
  · omega

theorem decode_dot {cs : List Char} (h : IsDot cs) (rest : List UInt8) :
    decode (Utf8.encodeChars cs ++ rest) = 0x2e :: decode rest := by
  rcases h with h | h
  · obtain ⟨c, rfl, hc⟩ := List.map_eq_singleton_iff.mp h
    rw [eq_of_toLower hc (by decide)]
    exact Percent.decode_cons (by decide) rest
  · obtain ⟨a, as, rfl, ha, h⟩ := List.map_eq_cons_iff.mp h
    obtain ⟨b, bs, rfl, hb, h⟩ := List.map_eq_cons_iff.mp h
    obtain ⟨c, rfl, hc⟩ := List.map_eq_singleton_iff.mp h
    rw [eq_of_toLower ha (by decide), eq_of_toLower hb (by decide)]
    rcases eq_or_of_toLower hc with rfl | ⟨-, hcapital⟩
    · rfl
    · have hnat : c.toNat = 'E'.toNat := Nat.add_right_cancel hcapital
      rw [Char.toNat_inj.mp hnat]
      rfl

theorem toList_toLower (s : String) : s.toLower.toList = s.toList.map Char.toLower :=
  String.toList_map

/-- **A segment for the place itself** reads as a dot. -/
theorem decode_of_isSingleDot {segment : String} (h : isSingleDot segment) :
    decode (Utf8.encode segment) = [0x2e] := by
  have hdot : IsDot segment.toList := by
    rw [IsDot, ← toList_toLower]
    rcases List.mem_cons.mp (List.contains_iff_mem.mp h) with hlower | hlower
    · exact .inl (congrArg String.toList hlower)
    · exact .inr (congrArg String.toList (List.mem_singleton.mp hlower))
  have hbytes := decode_dot hdot []
  rwa [List.append_nil] at hbytes

/-- **A segment for the place above** reads as two dots. -/
theorem decode_of_isDoubleDot {segment : String} (h : isDoubleDot segment) :
    decode (Utf8.encode segment) = [0x2e, 0x2e] := by
  have hlower : ∃ cs ds, segment.toLower.toList = cs ++ ds ∧
      (cs = ['.'] ∨ cs = ['%', '2', 'e']) ∧ (ds = ['.'] ∨ ds = ['%', '2', 'e']) := by
    have hmem := List.contains_iff_mem.mp h
    simp only [List.mem_cons, List.not_mem_nil, or_false] at hmem
    rcases hmem with heq | heq | heq | heq
    · exact ⟨_, _, congrArg String.toList heq, .inl rfl, .inl rfl⟩
    · exact ⟨_, _, congrArg String.toList heq, .inl rfl, .inr rfl⟩
    · exact ⟨_, _, congrArg String.toList heq, .inr rfl, .inl rfl⟩
    · exact ⟨_, _, congrArg String.toList heq, .inr rfl, .inr rfl⟩
  obtain ⟨_, _, hsplit, hleft, hright⟩ := hlower
  rw [toList_toLower] at hsplit
  obtain ⟨cs, ds, hsegment, rfl, rfl⟩ := List.map_eq_append_iff.mp hsplit
  have hcs : IsDot cs := hleft
  have hds : IsDot ds := hright
  have hbytes := decode_dot hds []
  rw [List.append_nil] at hbytes
  rw [Utf8.encode, hsegment, Utf8.encodeChars, List.flatMap_append]
  exact (decode_dot hcs _).trans (congrArg (0x2e :: ·) hbytes)

/-- What the component of a text reads as tells the text. -/
theorem eq_of_decode_component {s t : String}
    (h : decode (Utf8.encode (component s)) = Utf8.encode t) : s = t := by
  rw [Percent.decode_component] at h
  exact Utf8.encode_injective h

theorem isSingleDot_component (s : String) : isSingleDot (component s) ↔ s = "." := by
  constructor
  · intro h
    exact eq_of_decode_component (decode_of_isSingleDot h)
  · rintro rfl
    decide +kernel

theorem isDoubleDot_component (s : String) : isDoubleDot (component s) ↔ s = ".." := by
  constructor
  · intro h
    exact eq_of_decode_component (decode_of_isDoubleDot h)
  · rintro rfl
    decide +kernel

/-! ## 2. Adding segments -/

/-- A segment that stands for itself. -/
def IsName (segment : String) : Prop :=
  isSingleDot segment = false ∧ isDoubleDot segment = false

instance : DecidablePred IsName := fun segment =>
  inferInstanceAs (Decidable (isSingleDot segment = false ∧ isDoubleDot segment = false))

theorem addSegment_name {segment : String} (h : IsName segment) (path : List String)
    (last : Bool) : addSegment path segment last = path ++ [segment] := by
  rw [addSegment, h.1, h.2, if_neg Bool.false_ne_true, if_neg Bool.false_ne_true]

/-- **Names are only put behind a path.** -/
theorem addSegments_append {names : List String} (h : ∀ name ∈ names, IsName name)
    (path : List String) {segs : List String} (hsegs : segs ≠ []) :
    addSegments path (names ++ segs) = addSegments (path ++ names) segs := by
  induction names generalizing path with
  | nil => rw [List.nil_append, List.append_nil]
  | cons name names ih =>
    obtain ⟨hname, hnames⟩ := List.forall_mem_cons.mp h
    obtain ⟨seg, rest, hrest⟩ := List.exists_cons_of_ne_nil
      (List.append_ne_nil_of_right_ne_nil names hsegs)
    have hcons : addSegments path (name :: (names ++ segs)) =
        addSegments (addSegment path name false) (names ++ segs) := by
      rw [hrest]
      rfl
    rw [List.cons_append, hcons, addSegment_name hname, ih hnames, List.append_assoc,
      List.singleton_append]

/-- Names alone are put behind a path. -/
theorem addSegments_names {names : List String} (h : ∀ name ∈ names, IsName name)
    (path : List String) : addSegments path names = path ++ names := by
  rcases List.eq_nil_or_concat' names with rfl | ⟨before, last, rfl⟩
  · exact (List.append_nil path).symm
  · obtain ⟨hbefore, hlast⟩ := List.forall_mem_append.mp h
    rw [addSegments_append hbefore path (List.cons_ne_nil last []), ← List.append_assoc]
    exact addSegment_name (hlast last List.mem_cons_self) (path ++ before) true

/-! ## 3. Slashes -/

theorem cut_piece {p : Char → Bool} {piece : List Char} (h : ∀ c ∈ piece, p c = false) :
    Text.cut p piece = [piece] := by
  induction piece with
  | nil => rfl
  | cons c piece ih =>
    obtain ⟨hc, hpiece⟩ := List.forall_mem_cons.mp h
    rw [Text.cut, hc, if_neg Bool.false_ne_true, ih hpiece]

theorem cut_piece_append {p : Char → Bool} {piece : List Char} (h : ∀ c ∈ piece, p c = false)
    {slash : Char} (hslash : p slash) (rest : List Char) :
    Text.cut p (piece ++ slash :: rest) = piece :: Text.cut p rest := by
  induction piece with
  | nil => rw [List.nil_append, Text.cut, if_pos hslash]
  | cons c piece ih =>
    obtain ⟨hc, hpiece⟩ := List.forall_mem_cons.mp h
    rw [List.cons_append, Text.cut, hc, if_neg Bool.false_ne_true, ih hpiece]

theorem mem_glue {slash c : Char} {pieces : List (List Char)}
    (h : c ∈ Text.glue slash pieces) : c = slash ∨ ∃ piece ∈ pieces, c ∈ piece := by
  induction pieces with
  | nil => cases h
  | cons piece pieces ih =>
    cases pieces with
    | nil => exact .inr ⟨piece, List.mem_cons_self, h⟩
    | cons next pieces =>
      rcases List.mem_append.mp h with h | h
      · exact .inr ⟨piece, List.mem_cons_self, h⟩
      rcases List.mem_cons.mp h with h | h
      · exact .inl h
      rcases ih h with h | ⟨found, hfound, hc⟩
      · exact .inl h
      · exact .inr ⟨found, List.mem_cons_of_mem piece hfound, hc⟩

/-- **Pieces are found again.** -/
theorem cut_glue {p : Char → Bool} {slash : Char} (hslash : p slash) {pieces : List (List Char)}
    (hne : pieces ≠ []) (h : ∀ piece ∈ pieces, ∀ c ∈ piece, p c = false) :
    Text.cut p (Text.glue slash pieces) = pieces := by
  induction pieces with
  | nil => exact absurd rfl hne
  | cons piece pieces ih =>
    obtain ⟨hpiece, hpieces⟩ := List.forall_mem_cons.mp h
    cases pieces with
    | nil => exact cut_piece hpiece
    | cons next pieces =>
      rw [Text.glue, cut_piece_append hpiece hslash, ih (List.cons_ne_nil _ _) hpieces]
      intro hnil
      cases hnil

theorem glue_concat (slash : Char) {pieces : List (List Char)} (h : pieces ≠ [])
    (piece : List Char) :
    Text.glue slash (pieces ++ [piece]) = Text.glue slash pieces ++ slash :: piece := by
  induction pieces with
  | nil => exact absurd rfl h
  | cons first pieces ih =>
    cases pieces with
    | nil => rfl
    | cons next pieces =>
      have hnext := ih (List.cons_ne_nil next pieces)
      show first ++ slash :: Text.glue slash (next :: pieces ++ [piece]) =
        (first ++ slash :: Text.glue slash (next :: pieces)) ++ slash :: piece
      rw [hnext, List.append_assoc]
      rfl

/-- The pieces of a text have no separators. -/
theorem not_of_mem_cut {p : Char → Bool} {cs piece : List Char} (h : piece ∈ Text.cut p cs)
    {c : Char} (hc : c ∈ piece) : p c = false := by
  induction cs generalizing piece with
  | nil =>
    rw [List.mem_singleton.mp h] at hc
    cases hc
  | cons d cs ih =>
    obtain ⟨first, rest, hcut⟩ := List.exists_cons_of_ne_nil (Text.cut_ne_nil p cs)
    rw [Text.cut, hcut] at h
    by_cases hd : p d
    · rw [if_pos hd] at h
      rcases List.mem_cons.mp h with rfl | h
      · cases hc
      · exact ih (hcut ▸ h) hc
    · rw [if_neg hd] at h
      rcases List.mem_cons.mp h with rfl | h
      · rcases List.mem_cons.mp hc with rfl | hc
        · exact Bool.eq_false_iff.mpr hd
        · exact ih (hcut ▸ List.mem_cons_self) hc
      · exact ih (hcut ▸ List.mem_cons_of_mem first h) hc

/-- **A segment without a slash.** -/
def IsSegment (segment : String) : Prop :=
  '/' ∉ segment.toList

instance : DecidablePred IsSegment := fun segment =>
  inferInstanceAs (Decidable ('/' ∉ segment.toList))

theorem isSegment_empty : IsSegment "" := by
  decide

theorem slash_mem_encodeByte (b : UInt8) :
    '/' ∈ Percent.encodeByte Percent.inPath b → b = UInt8.ofNat '/'.toNat := by
  revert b
  apply Percent.forall_byte
  decide +kernel

theorem isSegment_encode {segment : List Char} (h : '/' ∉ segment) :
    IsSegment (Percent.encode Percent.inPath (String.ofList segment)) := by
  intro hslash
  rw [Percent.encode, String.toList_ofList, Utf8.encode, String.toList_ofList] at hslash
  obtain ⟨b, hb, hmem⟩ := List.mem_flatMap.mp hslash
  obtain ⟨c, hc, hbyte⟩ := List.mem_flatMap.mp hb
  rw [slash_mem_encodeByte b hmem, Utf8.mem_encodeChar_iff (by decide)] at hbyte
  exact h (hbyte ▸ hc)

section
variable {path segs : List String} (hpath : ∀ s ∈ path, IsSegment s)
include hpath

theorem isSegment_append (hsegs : ∀ s ∈ segs, IsSegment s) : ∀ s ∈ path ++ segs, IsSegment s :=
  List.forall_mem_append.mpr ⟨hpath, hsegs⟩

theorem isSegment_addSegment {segment : String} (hsegment : IsSegment segment) (last : Bool) :
    ∀ s ∈ addSegment path segment last, IsSegment s := by
  have hend : ∀ s ∈ (if last then [""] else []), IsSegment s := by
    cases last with
    | true => exact List.forall_mem_singleton.mpr isSegment_empty
    | false => exact List.forall_mem_nil _
  have habove : ∀ s ∈ path.dropLast, IsSegment s := by
    intro s hs
    exact hpath s (List.dropLast_subset path hs)
  rw [addSegment]
  split
  · exact isSegment_append habove hend
  · split
    · exact isSegment_append hpath hend
    · exact isSegment_append hpath (List.forall_mem_singleton.mpr hsegment)

theorem isSegment_addSegments (hsegs : ∀ s ∈ segs, IsSegment s) :
    ∀ s ∈ addSegments path segs, IsSegment s := by
  induction segs generalizing path with
  | nil => exact hpath
  | cons segment rest ih =>
    obtain ⟨hsegment, hrest⟩ := List.forall_mem_cons.mp hsegs
    cases rest with
    | nil => exact isSegment_addSegment hpath hsegment true
    | cons next rest => exact ih (isSegment_addSegment hpath hsegment false) hrest

/-- **No slash gets into a path.** -/
theorem isSegment_extendPath (special : Bool) (cs : List Char) :
    ∀ s ∈ extendPath special path cs, IsSegment s := by
  refine isSegment_addSegments hpath ?_
  intro s hs
  obtain ⟨piece, hpiece, rfl⟩ := List.mem_map.mp hs
  apply isSegment_encode
  intro hslash
  have hcut := not_of_mem_cut hpiece hslash
  simp at hcut

end

theorem isSegment_pathAfterAuthority (special : Bool) (cs : List Char) :
    ∀ s ∈ pathAfterAuthority special cs, IsSegment s := by
  have hnil := List.forall_mem_nil IsSegment
  rw [pathAfterAuthority.eq_def]
  split
  · cases special with
    | true => exact List.forall_mem_singleton.mpr isSegment_empty
    | false => exact hnil
  · split
    · exact isSegment_extendPath hnil special _
    · exact isSegment_extendPath hnil special _

/-! ## 4. The text of a path -/

/-- A path with a slash at its end. -/
def slashed (path : String) : String :=
  if path.toList.getLast? = some '/' then path else path ++ "/"

/-- The text of some segments. -/
def segmentsText (segs : List String) : String :=
  String.join (segs.map ("/" ++ ·))

theorem pathText_segments {u : Url} {segs : List String} (h : u.path = .segments segs) :
    u.pathText = segmentsText segs := by
  rw [pathText, h, segmentsText]

theorem target_of_query {u : Url} (h : u.query = none) : u.target = u.pathText := by
  rw [target, h, String.append_empty]

theorem segmentsText_append (segs more : List String) :
    segmentsText (segs ++ more) = segmentsText segs ++ segmentsText more := by
  rw [segmentsText, List.map_append, String.join_append]
  rfl

theorem segmentsText_cons (segment : String) (segs : List String) :
    segmentsText (segment :: segs) = "/" ++ segment ++ segmentsText segs := by
  rw [segmentsText, List.map_cons, String.join_cons, segmentsText]

theorem segmentsText_singleton (segment : String) : segmentsText [segment] = "/" ++ segment := by
  rw [segmentsText_cons]
  exact String.append_empty

theorem toList_segmentsText (segs : List String) (piece : List Char) :
    piece ++ (segmentsText segs).toList = Text.glue '/' (piece :: segs.map String.toList) := by
  induction segs generalizing piece with
  | nil => exact List.append_nil piece
  | cons segment segs ih =>
    have hcons : (segmentsText (segment :: segs)).toList =
        '/' :: (segment.toList ++ (segmentsText segs).toList) := by
      simp [segmentsText_cons]
    rw [hcons, ih, List.map_cons]
    rfl

/-- **The text tells the segments.** -/
theorem segmentsText_injOn {segs segs' : List String} (hsegs : ∀ s ∈ segs, IsSegment s)
    (hsegs' : ∀ s ∈ segs', IsSegment s) (h : segmentsText segs = segmentsText segs') :
    segs = segs' := by
  have hcut {segs : List String} (hsegs : ∀ s ∈ segs, IsSegment s) :
      Text.cut (· = '/') (segmentsText segs).toList = [] :: segs.map String.toList := by
    rw [← List.nil_append (segmentsText segs).toList, toList_segmentsText]
    refine cut_glue (by decide) (List.cons_ne_nil _ _) ?_
    intro piece hpiece c hc
    rcases List.mem_cons.mp hpiece with rfl | hpiece
    · cases hc
    · obtain ⟨segment, hsegment, rfl⟩ := List.mem_map.mp hpiece
      refine decide_eq_false ?_
      rintro rfl
      exact hsegs segment hsegment hc
  have hpieces := hcut hsegs
  rw [h, hcut hsegs', List.cons.injEq] at hpieces
  have hinjective : Function.Injective String.toList := fun _ _ => String.toList_inj.mp
  exact (List.map_injective_iff.mpr hinjective hpieces.2).symm

/-- **Addresses without a query** are asked for by the same text only if they have the same path. -/
theorem segments_of_target_eq {u u' : Url} {segs segs' : List String}
    (hu : u.path = .segments segs ∧ u.query = none)
    (hu' : u'.path = .segments segs' ∧ u'.query = none) (hsegs : ∀ s ∈ segs, IsSegment s)
    (hsegs' : ∀ s ∈ segs', IsSegment s) (h : u.target = u'.target) : segs = segs' := by
  rw [target_of_query hu.2, target_of_query hu'.2, pathText_segments hu.1,
    pathText_segments hu'.1] at h
  exact segmentsText_injOn hsegs hsegs' h

theorem getLast?_segmentsText (segs : List String) (last : String) :
    (segmentsText (segs ++ [last])).toList.getLast? = some (last.toList.getLast?.getD '/') := by
  have hlast : (segmentsText [last]).toList = '/' :: last.toList := by
    simp [segmentsText_singleton]
  rw [segmentsText_append, String.toList_append, hlast, List.getLast?_append_cons,
    List.getLast?_cons]

/-- **The place of an address**: its path up to the last slash, which is added if it is missing. -/
theorem exists_place {u : Url} {segs : List String} (h : u.path = .segments segs)
    (hsegs : ∀ s ∈ segs, IsSegment s) :
    ∃ place, u.withTrailingSlash = { u with path := .segments (place ++ [""]) } ∧
      (∀ s ∈ place, IsSegment s) ∧ slashed u.pathText = segmentsText place ++ "/" := by
  by_cases hlast : segs.getLast? = some ""
  · have hsplit : segs.dropLast ++ [""] = segs := List.dropLast_append_getLast? _ hlast
    have hend := getLast?_segmentsText segs.dropLast ""
    refine ⟨segs.dropLast, ?_, ?_, ?_⟩
    · rw [withTrailingSlash, h]
      simp only [if_pos hlast, hsplit, ← h]
    · intro s hs
      exact hsegs s (List.dropLast_subset segs hs)
    · rw [pathText_segments h, slashed, if_pos (by rw [hsplit] at hend; exact hend)]
      conv => lhs; rw [← hsplit, segmentsText_append]
      rfl
  · refine ⟨segs, ?_, hsegs, ?_⟩
    · rw [withTrailingSlash, h]
      simp only [if_neg hlast]
    · rw [pathText_segments h, slashed, if_neg]
      intro hslash
      rcases List.eq_nil_or_concat' segs with rfl | ⟨before, last, rfl⟩
      · cases hslash
      rw [getLast?_segmentsText, Option.some_inj] at hslash
      rw [List.getLast?_concat, Option.some_inj, ← String.toList_inj] at hlast
      obtain ⟨front, c, hsplit⟩ := (List.eq_nil_or_concat' last.toList).resolve_left hlast
      rw [hsplit, List.getLast?_concat, Option.getD_some] at hslash
      refine hsegs last (List.mem_append_right before List.mem_cons_self) ?_
      rw [hsplit, hslash]
      exact List.mem_append_right front List.mem_cons_self

end TaskWatch.Url
