/-
# Frames in a stream

What `Sse.write` makes of an event is a frame of two lines.  As long as neither the event's name
nor its data has a line break, nothing else in the frame can be taken for one, so the frames of
several events can be sent one behind the other.

* A **`block`** is some lines, each with its line feed.  With lines that are neither empty nor
  broken, no two line feeds in it are next to each other (`not_infix_block`), so one more line
  feed finishes the piece and nothing before it does (**`pieces_block`**).
* The data of a piece are those of its lines (**`reading?_lines`**), because characters and lines
  can be told apart in the bytes (`encodeChars_intercalate`).

**`payloads_write`**: a frame at the start of a stream gives its data, and then the stream goes on.
-/
import Mathlib.Data.List.Chain
import TaskWatch.Proofs.Sse.Chunking
import TaskWatch.Proofs.Text.Utf8

namespace TaskWatch

namespace Text.Utf8

theorem lf_mem_encodeChars_iff {cs : List Char} : Sse.lf ∈ encodeChars cs ↔ '\n' ∈ cs := by
  have hchar : ∀ c, Sse.lf ∈ encodeChar c ↔ c = '\n' := fun c =>
    mem_encodeChar_iff (d := '\n') (by decide)
  simp [encodeChars, hchar]

theorem cr_mem_encodeChars_iff {cs : List Char} : Sse.cr ∈ encodeChars cs ↔ '\r' ∈ cs := by
  have hchar : ∀ c, Sse.cr ∈ encodeChar c ↔ c = '\r' := fun c =>
    mem_encodeChar_iff (d := '\r') (by decide)
  simp [encodeChars, hchar]

theorem encodeChars_eq_nil_iff {cs : List Char} : encodeChars cs = [] ↔ cs = [] := by
  refine ⟨fun h => ?_, fun h => by rw [h]; rfl⟩
  rw [← decodeChars_encodeChars cs, h]
  rfl

/-- Lines can be told apart in the bytes. -/
theorem encodeChars_intercalate (ls : List (List Char)) :
    encodeChars (['\n'].intercalate ls) = [Sse.lf].intercalate (ls.map encodeChars) := by
  have hlf : encodeChars ['\n'] = [Sse.lf] := rfl
  induction ls with
  | nil => rfl
  | cons l ls ih =>
    cases ls with
    | nil => simp
    | cons next rest =>
      rw [List.intercalate_cons_cons, encodeChars_append, encodeChars_append, hlf, ih]
      simp [List.intercalate_cons_cons]

end Text.Utf8

namespace Sse

open Text.Utf8

/-! ## 1. Blocks of lines -/

/-- **A line of a block**: it is not empty, and has no line feed in it. -/
def IsLine (line : List UInt8) : Prop :=
  line ≠ [] ∧ lf ∉ line

/-- **Lines, each with its line feed.** -/
def block (lines : List (List UInt8)) : List UInt8 :=
  lines.flatMap (· ++ [lf])

theorem block_eq_intercalate {lines : List (List UInt8)} (h : lines ≠ []) :
    block lines = [lf].intercalate lines ++ [lf] := by
  induction lines with
  | nil => exact absurd rfl h
  | cons line lines ih =>
    cases lines with
    | nil => simp [block]
    | cons next rest =>
      have hrest := ih (by simp)
      rw [block, List.flatMap_cons, ← block, hrest, List.intercalate_cons_cons]
      simp

/-- Bytes without a separator, as a chain. -/
theorem not_infix_iff_isChain {bytes : List UInt8} :
    ¬ [lf, lf] <:+: bytes ↔ bytes.IsChain fun b b' => ¬ (b = lf ∧ b' = lf) := by
  match bytes with
  | [] => exact iff_of_true (not_infix_of_length_le (by simp)) .nil
  | [b] => exact iff_of_true (not_infix_of_length_le (by simp)) (.singleton b)
  | b :: b' :: rest =>
    rw [infix_cons_cons_iff, not_or, List.isChain_cons_cons, not_infix_iff_isChain]

/-- **There is no separator in a block.** -/
theorem not_infix_block {lines : List (List UInt8)} (h : ∀ line ∈ lines, IsLine line) :
    ¬ [lf, lf] <:+: block lines := by
  rw [not_infix_iff_isChain]
  induction lines with
  | nil => exact .nil
  | cons line lines ih =>
    obtain ⟨hline, hlines⟩ := List.forall_mem_cons.mp h
    have hchain : line.IsChain fun b b' => ¬ (b = lf ∧ b' = lf) :=
      not_infix_iff_isChain.mp fun hi => hline.2 (hi.subset List.mem_cons_self)
    have hlast : ∀ b ∈ line.getLast?, b ≠ lf := by
      rintro b hb rfl
      exact hline.2 (List.mem_of_getLast? hb)
    -- the next line begins with something else than a line feed
    have hhead : ∀ b ∈ (block lines).head?, b ≠ lf := by
      cases lines with
      | nil => simp [block]
      | cons next rest =>
        obtain ⟨hnext, -⟩ := List.forall_mem_cons.mp hlines
        obtain ⟨b', more, rfl⟩ := List.exists_cons_of_ne_nil hnext.1
        rintro b hb rfl
        rw [block, List.flatMap_cons, List.cons_append, List.cons_append, List.head?_cons,
          Option.mem_some_iff] at hb
        exact hnext.2 (hb ▸ List.mem_cons_self)
    rw [block, List.flatMap_cons, ← block, List.append_assoc, List.isChain_append]
    refine ⟨hchain, ?_, fun b hb _ _ hboth => hlast b hb hboth.1⟩
    rw [List.singleton_append, List.isChain_cons]
    exact ⟨fun b hb hboth => hhead b hb hboth.2, ih hlines⟩

/-- **One more line feed finishes a block**, and the stream goes on behind it. -/
theorem pieces_block {lines : List (List UInt8)} (h : ∀ line ∈ lines, IsLine line)
    (hne : lines ≠ []) (rest : List UInt8) :
    pieces (block lines ++ lf :: rest) = [lf].intercalate lines :: pieces rest := by
  have hblock := block_eq_intercalate hne
  have hnone := not_infix_block h
  rw [hblock] at hnone
  rw [hblock, List.append_assoc, List.singleton_append, pieces_append_separator hnone]

/-! ## 2. Data lines -/

/-- **The payload of some lines.** -/
theorem reading?_lines {ls : List (List Char)} (h : ∀ l ∈ ls, '\n' ∉ l) (hne : ls ≠ []) :
    reading? (encodeChars (['\n'].intercalate ls)) =
      let data := ls.filter ("data:".toList.isPrefixOf ·)
      if data = [] then none
      else some (String.ofList (['\n'].intercalate (data.map carried))) := by
  simp only [reading?, decodeChars_encodeChars, List.splitOn_intercalate '\n' h hne]

/-! ## 3. Frames -/

/-- The two lines of an event's frame. -/
def frameLines (event data : String) : List (List Char) :=
  ["event: ".toList ++ event.toList, "data: ".toList ++ data.toList]

/-- **The bytes of a frame**: a block of two lines, and a line feed. -/
theorem encode_write (event data : String) :
    encode (write event data) = block ((frameLines event data).map encodeChars) ++ [lf] := by
  have htext : (write event data).toList =
      "event: ".toList ++ event.toList ++ ['\n'] ++ ("data: ".toList ++ data.toList ++ ['\n']) ++
        ['\n'] := by
    simp [write, toString]
  have hlf : encodeChars ['\n'] = [lf] := rfl
  simp only [encode, htext, frameLines, block, encodeChars_append, hlf, List.map_cons, List.map_nil,
    List.flatMap_cons, List.flatMap_nil, List.append_nil]

variable {event data : String}

/-- **Without line breaks** in the event and its data, the lines are lines. -/
theorem isLine_frameLines (he : '\n' ∉ event.toList) (hd : '\n' ∉ data.toList) :
    ∀ line ∈ (frameLines event data).map encodeChars, IsLine line := by
  have hisLine : ∀ cs, cs ≠ [] → '\n' ∉ cs → IsLine (encodeChars cs) := fun cs hne hcs =>
    ⟨fun hnil => hne (encodeChars_eq_nil_iff.mp hnil), fun hlf => hcs (lf_mem_encodeChars_iff.mp hlf)⟩
  simp only [frameLines, List.map_cons, List.map_nil, List.forall_mem_cons]
  exact ⟨hisLine _ (by simp) (by simp [he]), hisLine _ (by simp) (by simp [hd]), by simp⟩

/-- **No separator stands before the end of a frame.** -/
theorem eq_nil_of_encode_write (he : '\n' ∉ event.toList) (hd : '\n' ∉ data.toList)
    {before after : List UInt8} (h : encode (write event data) = before ++ lf :: lf :: after) :
    after = [] := by
  have hnone := not_infix_block (isLine_frameLines he hd)
  rw [encode_write] at h
  rcases List.eq_nil_or_concat after with hnil | ⟨rest, b, rfl⟩
  · exact hnil
  · refine absurd ⟨before, rest, ?_⟩ hnone
    have hsplit : block ((frameLines event data).map encodeChars) ++ [lf] =
        (before ++ [lf, lf] ++ rest) ++ [b] := by simpa using h
    exact (List.append_inj' hsplit rfl).1.symm

/-- A frame has a carriage return only where its event or its data have one. -/
theorem cr_not_mem_encode_write (he : '\r' ∉ event.toList) (hd : '\r' ∉ data.toList) :
    cr ∉ encode (write event data) := by
  intro hcr
  have hmem := cr_mem_encodeChars_iff.mp hcr
  simp [write, toString, he, hd] at hmem

/-- The payload of a frame is its data. -/
theorem reading?_frameLines (he : '\n' ∉ event.toList) (hd : '\n' ∉ data.toList) :
    reading? ([lf].intercalate ((frameLines event data).map encodeChars)) = some data := by
  have hlines : ∀ l ∈ frameLines event data, '\n' ∉ l := by
    simp only [frameLines, List.forall_mem_cons]
    exact ⟨by simp [he], by simp [hd], by simp⟩
  have hfilter : (frameLines event data).filter ("data:".toList.isPrefixOf ·) =
      ["data: ".toList ++ data.toList] := by
    simp [frameLines, List.isPrefixOf]
  rw [← encodeChars_intercalate, reading?_lines hlines (by simp [frameLines]), hfilter]
  simp [carried]

/-- **A frame gives its data**, and the stream goes on behind it. -/
theorem payloads_write (he : ∀ c ∈ event.toList, c ≠ '\n' ∧ c ≠ '\r')
    (hd : ∀ c ∈ data.toList, c ≠ '\n' ∧ c ≠ '\r') (rest : List UInt8) :
    payloads (encode (write event data) ++ rest) = data :: payloads rest := by
  have he' : '\n' ∉ event.toList ∧ '\r' ∉ event.toList :=
    ⟨fun h => (he _ h).1 rfl, fun h => (he _ h).2 rfl⟩
  have hd' : '\n' ∉ data.toList ∧ '\r' ∉ data.toList :=
    ⟨fun h => (hd _ h).1 rfl, fun h => (hd _ h).2 rfl⟩
  have hkeeps : (encode (write event data)).filter (· ≠ cr) = encode (write event data) := by
    refine List.filter_eq_self.mpr fun b hb => ?_
    have hcr := cr_not_mem_encode_write he'.2 hd'.2
    have hne : b ≠ cr := fun heq => hcr (heq ▸ hb)
    simpa using hne
  have hpieces := pieces_block (isLine_frameLines he'.1 hd'.1) (by simp [frameLines])
    (rest.filter (· ≠ cr))
  rw [payloads, List.filter_append, hkeeps, encode_write, List.append_assoc, List.singleton_append,
    hpieces, List.dropLast_cons_of_ne_nil (pieces_ne_nil _), List.filterMap_cons,
    reading?_frameLines he'.1 hd'.1]
  rfl

theorem payloads_nil : payloads [] = [] := by
  simp [payloads, pieces_of_not_infix (not_infix_of_length_le _)]

end Sse

end TaskWatch
