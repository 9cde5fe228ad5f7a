/-
# Reading and joining

**`parse_path`**: an address whose scheme is special has a path of segments, without a slash in any
of them.  It was read behind two slashes; a file and every other address keep their own scheme.

**`join_inert`**: some inert pieces with slashes between them, joined to an address, are added to
its path behind the last slash, and nothing else of the address changes but that its query and its
fragment go.  The text has no blanks to strip, no colon to make a scheme of, and no mark that would
end the path.
-/
import Mathlib.Data.List.TakeWhile
import TaskWatch.Proofs.Url.Path

namespace TaskWatch.Url

open Text
open Percent (AllInert IsInert)

/-! ## 1. Reading on its own -/

/-- What is read in steps is read at every step. -/
theorem exists_of_bind_ok {α β : Type} {x : Except UrlError α} {f : α → Except UrlError β} {b : β}
    (h : x >>= f = .ok b) : ∃ a, x = .ok a ∧ f a = .ok b := by
  cases x with
  | error e => cases h
  | ok a => exact ⟨a, rfl, h⟩

theorem ok_of_toOption {α : Type} {x : Except UrlError α} {a : α} (h : x.toOption = some a) :
    x = .ok a := by
  cases x with
  | error e => cases h
  | ok a' =>
    cases h
    rfl

/-- **Behind two slashes**, the scheme is the one in front of them. -/
theorem afterSlashes_ok {scheme : String} {cs : List Char} {u : Url}
    (h : afterSlashes scheme cs = .ok u) :
    u.scheme = scheme ∧
      ∃ rest, u.path = .segments (pathAfterAuthority (isSpecial scheme) rest) := by
  obtain ⟨⟨username, password, behind⟩, -, h⟩ := exists_of_bind_ok h
  obtain ⟨⟨host, port, rest⟩, -, h⟩ := exists_of_bind_ok h
  simp only at h
  generalize (if host = .domain "" then none else some host) = host at h
  split at h
  · cases h
  · cases h
    exact ⟨rfl, _, rfl⟩

theorem fileWithHost_ok {cs : List Char} {u : Url} (h : fileWithHost cs = .ok u) :
    u.scheme = "file" := by
  rw [fileWithHost] at h
  simp only at h
  split at h
  · cases h
    rfl
  split at h
  · cases h
    rfl
  · obtain ⟨host, -, h⟩ := exists_of_bind_ok h
    split at h
    · cases h
      rfl
    · cases h
      rfl

theorem relativeFile_ok {host : Option Host} {cs : List Char} {u : Url}
    (h : file.relativeFile none host cs = .ok u) : u.scheme = "file" := by
  rw [file.relativeFile.eq_def] at h
  split at h
  · split at h
    · cases h
      rfl
    · cases h
      rfl
  · cases h
    rfl
  · rename_i hnone
    cases hnone

theorem file_ok {cs : List Char} {u : Url} (h : file none cs = .ok u) : u.scheme = "file" := by
  rw [file.eq_def] at h
  simp only at h
  split at h
  · split at h
    · exact fileWithHost_ok h
    · exact relativeFile_ok h
  · exact relativeFile_ok h

theorem general_ok {scheme : String} {cs : List Char} {u : Url} (h : general scheme cs = .ok u) :
    u.scheme = scheme := by
  rw [general.eq_def] at h
  split at h
  · exact (afterSlashes_ok h).1
  · cases h
    rfl
  · cases h
    rfl

/-- **The path of an address with a special scheme**, a file apart. -/
theorem parse_path {text : String} {u : Url} (h : parse text = .ok u)
    (hspecial : isSpecial u.scheme) (hfile : isFile u.scheme = false) :
    ∃ segs, u.path = .segments segs ∧ ∀ s ∈ segs, IsSegment s := by
  rw [parse, read] at h
  simp only at h
  split at h
  · rename_i scheme rest _
    split at h
    · rw [file_ok h] at hfile
      cases hfile
    · split at h
      · obtain ⟨-, rest, hpath⟩ := afterSlashes_ok h
        exact ⟨_, hpath, isSegment_pathAfterAuthority _ rest⟩
      · rename_i hgeneral
        rw [general_ok h] at hspecial
        exact absurd hspecial hgeneral
  · cases h

/-! ## 2. Joining -/

/-- **A text without blanks** is read as it is. -/
theorem clean_eq {text : String} (h : ∀ c ∈ text.toList, 0x20 < c.toNat) :
    clean text = text.toList := by
  have hkept {cs : List Char} (hcs : ∀ c ∈ cs, 0x20 < c.toNat) :
      cs.dropWhile (fun c => c.toNat ≤ 0x20) = cs := by
    cases cs with
    | nil => rfl
    | cons c cs =>
      have hc := hcs c List.mem_cons_self
      exact List.dropWhile_cons_of_neg (by simpa using hc)
  have hstrip : strip text.toList = text.toList := by
    rw [strip, hkept h, hkept (fun c hc => h c (List.mem_reverse.mp hc)), List.reverse_reverse]
  rw [clean, hstrip, squeeze, List.filter_eq_self]
  intro c hc
  have hblank := h c hc
  have hne {d : Char} (hd : d.toNat ≤ 0x20) : c ≠ d := by
    rintro rfl
    omega
  simp [hne (show '\t'.toNat ≤ 0x20 by decide), hne (show '\n'.toNat ≤ 0x20 by decide),
    hne (show '\r'.toNat ≤ 0x20 by decide)]

/-- **A text without a colon** has no scheme. -/
theorem scheme?_eq_none {cs : List Char} (h : ':' ∉ cs) : scheme? cs = none := by
  rw [scheme?.eq_def]
  split
  · split
    · split
      · rename_i hrest
        have hmem : ':' ∈ List.dropWhile isSchemeChar _ := hrest ▸ List.mem_cons_self
        exact absurd (List.dropWhile_subset _ hmem) h
      · rfl
    · rfl
  · rfl

/-- A character of an inert piece, or the slash behind one. -/
def IsPathChar (c : Char) : Prop :=
  IsInert c ∨ c = '/'

theorem IsPathChar.ne {c d : Char} (h : IsPathChar c) (hd : ¬ IsInert d) (hd' : d ≠ '/') :
    c ≠ d := by
  rcases h with h | rfl
  · exact h.ne hd
  · exact hd'.symm

theorem IsPathChar.printable {c : Char} (h : IsPathChar c) : 0x20 < c.toNat := by
  rcases h with h | rfl
  · exact h.printable
  · decide

theorem extendPath_inert {pieces : List String} (hne : pieces ≠ [])
    (hinert : ∀ piece ∈ pieces, AllInert piece) (special : Bool)
    (path : List String) :
    extendPath special path (Text.glue '/' (pieces.map String.toList)) =
      addSegments path pieces := by
  have hcut : cutAtSlashes special (Text.glue '/' (pieces.map String.toList)) =
      pieces.map String.toList := by
    refine cut_glue (by simp) (by simpa using hne) ?_
    intro piece hpiece c hc
    obtain ⟨piece, hmem, rfl⟩ := List.mem_map.mp hpiece
    have hc := hinert piece hmem c hc
    simp [hc.ne (show ¬ IsInert '/' by decide), hc.ne (show ¬ IsInert '\\' by decide)]
  have hkept : (pieces.map String.toList).map
      (fun piece => Percent.encode Percent.inPath (String.ofList piece)) = pieces := by
    rw [List.map_map]
    conv_rhs => rw [← List.map_id pieces]
    refine List.map_congr_left ?_
    intro piece hpiece
    show Percent.encode Percent.inPath (String.ofList piece.toList) = piece
    rw [String.ofList_toList, Percent.encode_inPath (hinert piece hpiece)]
  rw [extendPath, hcut, hkept]

theorem withPath_pathChars {cs : List Char} (hcs : ∀ c ∈ cs, IsPathChar c) (u : Url)
    (path : List Char → List String) :
    withPath u path cs =
      { u with path := .segments (path cs), query := none, fragment := none } := by
  have hall : pathChars cs = cs := by
    rw [pathChars, List.takeWhile_eq_self_iff]
    intro c hc
    have hc := hcs c hc
    simp [hc.ne (show ¬ IsInert '?' by decide) (by decide),
      hc.ne (show ¬ IsInert '#' by decide) (by decide)]
  rw [withPath, hall, List.drop_length]
  rfl

/-- A text that starts with an inert character is relative to the place of the base. -/
theorem relative_inert {c : Char} (hc : IsInert c) (base : Url) (rest : List Char) :
    relative base (c :: rest) =
      .ok (withPath base (extendPath (isSpecial base.scheme) base.path.toSegments.dropLast)
        (c :: rest)) := by
  have hslash : isSlash c = false := by
    simp [isSlash, hc.ne (show ¬ IsInert '/' by decide), hc.ne (show ¬ IsInert '\\' by decide)]
  rw [relative.eq_def]
  simp only
  split
  · rename_i hnil
    cases hnil
  · rename_i heq
    cases heq
    exact absurd hc (by decide)
  · rename_i heq
    cases heq
    exact absurd hc (by decide)
  · rename_i heq
    cases heq
    rw [hslash, if_neg Bool.false_ne_true]

/-- **Inert pieces are added behind the last slash.** -/
theorem join_inert {base : Url} {segs : List String} (hpath : base.path = .segments segs)
    (hfile : isFile base.scheme = false) {first : String} (hfirst : first ≠ "")
    {pieces : List String} (hinert : ∀ piece ∈ first :: pieces, AllInert piece)
    {text : String} (htext : text.toList = Text.glue '/' ((first :: pieces).map String.toList)) :
    base.join text =
      .ok { base with
        path := .segments (addSegments segs.dropLast (first :: pieces))
        query := none
        fragment := none } := by
  have hchars : ∀ c ∈ text.toList, IsPathChar c := by
    intro c hc
    rw [htext] at hc
    rcases mem_glue hc with hslash | ⟨piece, hpiece, hc⟩
    · exact .inr hslash
    · obtain ⟨piece, hmem, rfl⟩ := List.mem_map.mp hpiece
      exact .inl (hinert piece hmem c hc)
  have hclean : clean text = text.toList := clean_eq fun c hc => (hchars c hc).printable
  have hcolon : ':' ∉ text.toList := by
    intro hc
    exact (hchars _ hc).ne (by decide) (by decide) rfl
  obtain ⟨c, rest, hcs, hc⟩ : ∃ c rest, text.toList = c :: rest ∧ IsInert c := by
    cases hsplit : first.toList with
    | nil => exact absurd (String.toList_eq_nil_iff.mp hsplit) hfirst
    | cons c cs =>
      have hc := hinert first List.mem_cons_self c (hsplit ▸ List.mem_cons_self)
      rw [List.map_cons, hsplit] at htext
      cases pieces with
      | nil => exact ⟨c, _, htext, hc⟩
      | cons next pieces => exact ⟨c, _, htext, hc⟩
  have hroot : base.isRootless = false := by
    rw [isRootless, hpath]
  rw [join, read]
  simp only [hclean, scheme?_eq_none hcolon]
  rw [hcs]
  split
  · rename_i heq
    cases heq
    exact absurd hc (by decide)
  · rw [hroot, hfile, if_neg Bool.false_ne_true, if_neg Bool.false_ne_true, relative_inert hc,
      ← hcs, withPath_pathChars hchars, htext, extendPath_inert (List.cons_ne_nil _ _) hinert,
      hpath]
    rfl

end TaskWatch.Url
