/-
# How a payload may be written

A payload can be written as a frame in many ways.  Each of its lines stands in a `data:` line of
its own, with a space behind the colon or without one; comments and lines with other fields may
stand anywhere among them; and every line ends as it likes, with a carriage return before its
line feed or without one.  `Spells` is the relation between the lines of a payload and the lines of
a frame, and a `Stanza` is a frame with its line ends.

**`pushAll_spelled`**: however a payload is written, and whatever frames without data stand before
and behind it, the decoder gives this payload and nothing else, in any chunks.

* A stream of stanzas is read stanza by stanza (**`payloads_stanzas`**).  An empty stanza is the one
  thing to be careful about: it is a line feed too many, and the next stanza takes it for its own
  first line.
* What a stanza carries is what its lines spell (**`data_of_spells`**).  The lines that carry
  nothing need not even be text: what cannot be read in them stays in its line, and never becomes
  the name of a field (`decodeChars_intercalate`, `not_isPrefixOf_aside`).
-/
import TaskWatch.Proofs.Sse.Framing
import TaskWatch.Proofs.Text.Lossy

namespace TaskWatch.Sse

open Text.Utf8

/-! ## 1. Lines and stanzas -/

/-- **A line of a stream**: its bytes, and whether a carriage return stands before its line
feed. -/
structure Line where
  text : List UInt8
  crlf : Bool := false
  deriving Repr, DecidableEq

def Line.bytes (l : Line) : List UInt8 :=
  l.text ++ if l.crlf then [cr, lf] else [lf]

/-- **A frame of a stream**: its lines, and the empty line that ends it. -/
structure Stanza where
  lines : List Line
  crlf : Bool := false
  deriving Repr, DecidableEq

def Stanza.bytes (s : Stanza) : List UInt8 :=
  s.lines.flatMap Line.bytes ++ Line.bytes ⟨[], s.crlf⟩

/-- **A line that carries nothing**: a comment, or a line with another field. -/
structure IsAside (line : List UInt8) : Prop where
  ne_nil : line ≠ []
  lf_not_mem : lf ∉ line
  cr_not_mem : cr ∉ line
  not_data : ¬ encode "data:" <+: line

instance (line : List UInt8) : Decidable (IsAside line) :=
  decidable_of_iff (line ≠ [] ∧ lf ∉ line ∧ cr ∉ line ∧ ¬ encode "data:" <+: line)
    ⟨fun ⟨hne, hlf, hcr, hdata⟩ => ⟨hne, hlf, hcr, hdata⟩,
      fun ⟨hne, hlf, hcr, hdata⟩ => ⟨hne, hlf, hcr, hdata⟩⟩

/-- A frame without data. -/
def Stanza.IsDataless (s : Stanza) : Prop :=
  ∀ line ∈ s.lines, IsAside line.text

/-- **The lines of a payload, as the lines of a frame.** -/
inductive Spells : List (List Char) → List (List UInt8) → Prop
  | nil : Spells [] []
  | aside {ls : List (List Char)} {lines : List (List UInt8)} {line : List UInt8}
      (haside : IsAside line) (h : Spells ls lines) : Spells ls (line :: lines)
  /-- With a space behind the colon. -/
  | spaced {ls : List (List Char)} {lines : List (List UInt8)} (l : List Char)
      (h : Spells ls lines) : Spells (l :: ls) (encodeChars ("data: ".toList ++ l) :: lines)
  /-- Without one, which a line that starts with a space cannot do without. -/
  | tight {ls : List (List Char)} {lines : List (List UInt8)} (l : List Char)
      (hl : l.head? ≠ some ' ') (h : Spells ls lines) :
      Spells (l :: ls) (encodeChars ("data:".toList ++ l) :: lines)

/-- Lines that carry nothing spell nothing. -/
theorem spells_of_asides {lines : List (List UInt8)} (h : ∀ line ∈ lines, IsAside line) :
    Spells [] lines := by
  induction lines with
  | nil => exact .nil
  | cons line lines ih =>
    obtain ⟨hline, hlines⟩ := List.forall_mem_cons.mp h
    exact .aside hline (ih hlines)

/-! ## 2. Reading lines of bytes -/

/-- **Bytes are read line by line**, whether they are text or not. -/
theorem decodeChars_intercalate (lines : List (List UInt8)) :
    decodeChars ([lf].intercalate lines) = ['\n'].intercalate (lines.map decodeChars) := by
  induction lines with
  | nil => rfl
  | cons line lines ih =>
    cases lines with
    | nil => simp
    | cons next rest =>
      rw [List.map_cons, List.map_cons, List.intercalate_cons_cons, List.intercalate_cons_cons,
        ← List.map_cons, ← ih, List.append_assoc, List.singleton_append,
        decodeChars_append_cons (by decide)]
      simp [lf]

/-- What the data lines among some lines carry, put together. -/
def dataOf (lines : List (List UInt8)) : Option String :=
  let data := (lines.map decodeChars).filter ("data:".toList.isPrefixOf ·)
  if data = [] then none else some (String.ofList (['\n'].intercalate (data.map carried)))

/-- **The payload of a piece** is what its lines carry. -/
theorem reading?_intercalate {lines : List (List UInt8)} (h : ∀ line ∈ lines, lf ∉ line)
    (hne : lines ≠ []) : reading? ([lf].intercalate lines) = dataOf lines := by
  have hlines : ∀ l ∈ lines.map decodeChars, '\n' ∉ l := by
    intro l hl hmem
    obtain ⟨line, hline, rfl⟩ := List.mem_map.mp hl
    have hbyte : UInt8.ofNat '\n'.toNat ∈ line :=
      byte_mem_of_mem_decodeChars ⟨by decide, by decide⟩ hmem
    exact h line hline hbyte
  rw [reading?, decodeChars_intercalate, List.splitOn_intercalate '\n' hlines (by simpa using hne)]
  rfl

/-- An empty line in front changes nothing. -/
theorem dataOf_cons_nil (lines : List (List UInt8)) : dataOf ([] :: lines) = dataOf lines := by
  simp [dataOf, decodeChars, decodeFrom, List.isPrefixOf]

/-! ## 3. What a frame spells -/

/-- A line that carries nothing is not read as data. -/
theorem not_isPrefixOf_aside {line : List UInt8} (h : IsAside line) :
    "data:".toList.isPrefixOf (decodeChars line) = false := by
  rw [Bool.eq_false_iff]
  intro hdata
  have hascii : ∀ c ∈ "data:".toList, IsPlainAscii c := by
    simp [IsPlainAscii]
  exact h.not_data (encodeChars_begins_of_begins hascii (List.isPrefixOf_iff_prefix.mp hdata))

theorem isPrefixOf_data (rest : List Char) :
    "data:".toList.isPrefixOf ("data:".toList ++ rest) = true :=
  List.isPrefixOf_iff_prefix.mpr (List.prefix_append _ _)

theorem carried_spaced (l : List Char) : carried ("data: ".toList ++ l) = l := by
  simp [carried]

theorem carried_tight {l : List Char} (hl : l.head? ≠ some ' ') :
    carried ("data:".toList ++ l) = l := by
  simp [carried, hl]

variable {ls : List (List Char)} {lines : List (List UInt8)}

/-- **The lines that are spelled** are those that the data lines carry. -/
theorem data_of_spells (h : Spells ls lines) :
    ((lines.map decodeChars).filter ("data:".toList.isPrefixOf ·)).map carried = ls := by
  induction h with
  | nil => rfl
  | aside haside _ ih =>
    have hdata := not_isPrefixOf_aside haside
    rw [List.map_cons, List.filter_cons_of_neg (Bool.eq_false_iff.mp hdata)]
    exact ih
  | spaced l _ ih =>
    have hdata : "data:".toList.isPrefixOf ("data: ".toList ++ l) = true :=
      isPrefixOf_data (' ' :: l)
    rw [List.map_cons, decodeChars_encodeChars, List.filter_cons_of_pos hdata, List.map_cons,
      carried_spaced, ih]
  | tight l hl _ ih =>
    rw [List.map_cons, decodeChars_encodeChars, List.filter_cons_of_pos (isPrefixOf_data l),
      List.map_cons, carried_tight hl, ih]

/-- What is spelled is carried. -/
theorem dataOf_spells (h : Spells ls lines) :
    dataOf lines = if ls = [] then none else some (String.ofList (['\n'].intercalate ls)) := by
  have hdata := data_of_spells h
  have hnone : (lines.map decodeChars).filter ("data:".toList.isPrefixOf ·) = [] ↔ ls = [] := by
    rw [← hdata, List.map_eq_nil_iff]
  simp only [dataOf, hdata, hnone]

/-- **Lines without line breaks are spelled without line breaks.** -/
theorem unbroken_of_spells (h : Spells ls lines) (hls : ∀ l ∈ ls, '\n' ∉ l ∧ '\r' ∉ l) :
    ∀ line ∈ lines, IsLine line ∧ cr ∉ line := by
  have hdata : ∀ head l : List Char, head ≠ [] → '\n' ∉ head → '\r' ∉ head →
      '\n' ∉ l ∧ '\r' ∉ l → IsLine (encodeChars (head ++ l)) ∧ cr ∉ encodeChars (head ++ l) := by
    intro head l hhead hlf hcr hl
    refine ⟨⟨?_, ?_⟩, ?_⟩
    · intro hnil
      exact hhead (List.append_eq_nil_iff.mp (encodeChars_eq_nil_iff.mp hnil)).1
    · rw [lf_mem_encodeChars_iff, List.mem_append, not_or]
      exact ⟨hlf, hl.1⟩
    · rw [cr_mem_encodeChars_iff, List.mem_append, not_or]
      exact ⟨hcr, hl.2⟩
  induction h with
  | nil => simp
  | aside haside _ ih =>
    rw [List.forall_mem_cons]
    exact ⟨⟨⟨haside.ne_nil, haside.lf_not_mem⟩, haside.cr_not_mem⟩, ih hls⟩
  | spaced l _ ih =>
    obtain ⟨hl, hls⟩ := List.forall_mem_cons.mp hls
    rw [List.forall_mem_cons]
    exact ⟨hdata _ l (by simp) (by simp) (by simp) hl, ih hls⟩
  | tight l _ _ ih =>
    obtain ⟨hl, hls⟩ := List.forall_mem_cons.mp hls
    rw [List.forall_mem_cons]
    exact ⟨hdata _ l (by simp) (by simp) (by simp) hl, ih hls⟩

/-! ## 4. A stream of stanzas -/

/-- A stanza without its carriage returns is a block and a line feed. -/
theorem dropCr_stanza {s : Stanza} (h : ∀ line ∈ s.lines, cr ∉ line.text) :
    dropCr s.bytes = block (s.lines.map Line.text) ++ [lf] := by
  have hline : ∀ line : Line, cr ∉ line.text → dropCr line.bytes = line.text ++ [lf] := by
    intro line hcr
    have hkeeps : line.text.filter (· ≠ cr) = line.text := by
      refine List.filter_eq_self.mpr ?_
      intro b hb
      have hne : b ≠ cr := fun heq => hcr (heq ▸ hb)
      simpa using hne
    rw [dropCr, Line.bytes, List.filter_append, hkeeps]
    cases line.crlf <;> rfl
  rw [Stanza.bytes]
  generalize s.lines = lines at h
  have hend := hline ⟨[], s.crlf⟩ (by simp)
  induction lines with
  | nil => exact hend
  | cons line lines ih =>
    obtain ⟨hcr, hlines⟩ := List.forall_mem_cons.mp h
    have hfirst := hline line hcr
    have hrest := ih hlines
    rw [dropCr, List.filter_append] at hrest
    simp only [dropCr] at hfirst
    rw [dropCr, List.flatMap_cons, List.append_assoc, List.filter_append, hfirst,
      List.filter_append, hrest]
    simp [block]

/-- The first line feed of a block with a line feed in front of it belongs to no separator. -/
theorem not_infix_cons_block {lines : List (List UInt8)} (h : ∀ line ∈ lines, IsLine line)
    (hne : lines ≠ []) : ¬ [lf, lf] <:+: lf :: block lines := by
  obtain ⟨line, rest, rfl⟩ := List.exists_cons_of_ne_nil hne
  have hblock := not_infix_block h
  obtain ⟨hline, hlf⟩ := h line List.mem_cons_self
  obtain ⟨b, more, rfl⟩ := List.exists_cons_of_ne_nil hline
  have hb : b ≠ lf := by
    rintro rfl
    exact hlf List.mem_cons_self
  rw [block, List.flatMap_cons, List.cons_append, List.cons_append] at hblock ⊢
  rw [infix_cons_cons_iff, not_or]
  exact ⟨fun h => hb h.2, hblock⟩

/-- **Blocks are read one by one.**  A line feed may be left in front of them, from an odd number
of empty blocks before. -/
theorem filterMap_pieces_blocks {front : List UInt8} (hfront : front = [] ∨ front = [lf])
    {blocks : List (List (List UInt8))} (h : ∀ lines ∈ blocks, ∀ line ∈ lines, IsLine line) :
    (pieces (front ++
        blocks.flatMap fun lines => block lines ++ [lf])).dropLast.filterMap reading? =
      blocks.filterMap dataOf := by
  induction blocks generalizing front with
  | nil =>
    have hshort : (front ++ []).length ≤ 1 := by
      rcases hfront with rfl | rfl <;> simp
    rw [List.flatMap_nil, pieces_of_not_infix (not_infix_of_length_le hshort)]
    rfl
  | cons lines blocks ih =>
    obtain ⟨hlines, hblocks⟩ := List.forall_mem_cons.mp h
    have hrest := ih (.inl rfl) hblocks
    rw [List.flatMap_cons]
    generalize hbytes : blocks.flatMap (fun lines => block lines ++ [lf]) = bytes at hrest
    -- it is enough to know the first piece, and that it is read as the block
    have hcut : ∀ {first all : List UInt8}, pieces all = first :: pieces bytes →
        reading? first = dataOf lines →
        (pieces all).dropLast.filterMap reading? = (lines :: blocks).filterMap dataOf := by
      intro first all hpieces hfirst
      rw [hpieces, List.dropLast_cons_of_ne_nil (pieces_ne_nil _), List.filterMap_cons,
        List.filterMap_cons, hfirst]
      rw [List.nil_append] at hrest
      rw [hrest]
    by_cases hne : lines = []
    · subst hne
      rcases hfront with rfl | rfl
      · have hleft := ih (.inr rfl) hblocks
        rw [hbytes] at hleft
        rw [List.filterMap_cons]
        exact hleft
      · -- two line feeds: an empty piece, and none is left
        have hempty : ¬ [lf, lf] <:+: [] ++ [lf] := not_infix_of_length_le (by simp)
        have hnone : reading? ([lf].intercalate [[]]) = dataOf [[]] :=
          reading?_intercalate (by simp) (by simp)
        exact hcut (pieces_append_separator hempty bytes) hnone
    · have hlf : ∀ line ∈ lines, lf ∉ line := by
        intro line hline
        exact (hlines line hline).2
      rw [List.append_assoc, List.singleton_append]
      rcases hfront with rfl | rfl
      · exact hcut (pieces_block hlines hne bytes) (reading?_intercalate hlf hne)
      · have hfirst : lf :: [lf].intercalate lines = [lf].intercalate ([] :: lines) := by
          obtain ⟨line, rest, rfl⟩ := List.exists_cons_of_ne_nil hne
          rw [List.intercalate_cons_cons]
          rfl
        have hnone : ¬ [lf, lf] <:+: (lf :: [lf].intercalate lines) ++ [lf] := by
          rw [List.cons_append, ← block_eq_intercalate hne]
          exact not_infix_cons_block hlines hne
        have hpieces := pieces_append_separator hnone bytes
        have hall : (lf :: [lf].intercalate lines) ++ lf :: lf :: bytes =
            [lf] ++ (block lines ++ lf :: bytes) := by
          rw [block_eq_intercalate hne]
          simp
        rw [hall] at hpieces
        refine hcut hpieces ?_
        rw [hfirst, reading?_intercalate (by simpa using hlf) (by simp), dataOf_cons_nil]

/-- **A stream of stanzas** gives what each of them carries, and stanzas without data give
nothing. -/
theorem payloads_stanzas {stanzas : List Stanza}
    (h : ∀ s ∈ stanzas, ∀ line ∈ s.lines, IsLine line.text ∧ cr ∉ line.text) :
    payloads (stanzas.flatMap Stanza.bytes) =
      stanzas.filterMap fun s => dataOf (s.lines.map Line.text) := by
  have hlines : ∀ lines ∈ stanzas.map fun s => s.lines.map Line.text,
      ∀ line ∈ lines, IsLine line := by
    intro lines hlines line hline
    obtain ⟨s, hs, rfl⟩ := List.mem_map.mp hlines
    obtain ⟨l, hl, rfl⟩ := List.mem_map.mp hline
    exact (h s hs l hl).1
  have hblocks := filterMap_pieces_blocks (.inl rfl) hlines
  have hbytes : (stanzas.flatMap Stanza.bytes).filter (· ≠ cr) =
      (stanzas.map fun s => s.lines.map Line.text).flatMap fun lines => block lines ++ [lf] := by
    rw [List.filter_flatMap, List.flatMap_map]
    refine List.flatMap_congr ?_
    intro s hs
    exact dropCr_stanza fun line hline => (h s hs line hline).2
  rw [List.nil_append, List.filterMap_map] at hblocks
  rw [payloads, hbytes, hblocks]
  rfl

/-! ## 5. A payload, however it is written -/

/-- The lines of a text have its characters, the line feeds left aside. -/
theorem mem_of_mem_splitOn {c d : Char} {cs : List Char} :
    ∀ l ∈ cs.splitOn d, c ∈ l → c ∈ cs ∧ c ≠ d := by
  induction cs with
  | nil => simp [List.splitOn_nil]
  | cons e cs ih =>
    intro l hl hc
    rw [List.splitOn_cons_eq_if_modifyHead] at hl
    split at hl
    · rcases List.mem_cons.mp hl with rfl | hl
      · cases hc
      · exact ⟨List.mem_cons_of_mem _ (ih l hl hc).1, (ih l hl hc).2⟩
    · rename_i he
      obtain ⟨first, rest, hsplit⟩ := List.exists_cons_of_ne_nil (List.splitOn_ne_nil d cs)
      rw [hsplit] at hl ih
      rcases List.mem_cons.mp hl with rfl | hl
      · rcases List.mem_cons.mp hc with rfl | hc
        · exact ⟨List.mem_cons_self, fun heq => he (by simp [heq])⟩
        · have hfirst := ih first List.mem_cons_self hc
          exact ⟨List.mem_cons_of_mem _ hfirst.1, hfirst.2⟩
      · have hrest := ih l (List.mem_cons_of_mem _ hl) hc
        exact ⟨List.mem_cons_of_mem _ hrest.1, hrest.2⟩

/-- A frame without data carries nothing. -/
theorem dataOf_of_isDataless {s : Stanza} (h : s.IsDataless) :
    dataOf (s.lines.map Line.text) = none := by
  have hasides : ∀ line ∈ s.lines.map Line.text, IsAside line := by
    intro line hline
    obtain ⟨l, hl, rfl⟩ := List.mem_map.mp hline
    exact h l hl
  rw [dataOf_spells (spells_of_asides hasides), if_pos rfl]

/-- **A payload is read as it was meant**, in whatever way it is written, whatever frames without
data stand before and behind it, and however the bytes are cut into chunks. -/
theorem pushAll_spelled {payload : String} (hcr : '\r' ∉ payload.toList) {frame : Stanza}
    (hframe : Spells (payload.toList.splitOn '\n') (frame.lines.map Line.text))
    {before after : List Stanza} (hbefore : ∀ s ∈ before, s.IsDataless)
    (hafter : ∀ s ∈ after, s.IsDataless) {chunks : List (List UInt8)}
    (hchunks : chunks.flatten = (before ++ frame :: after).flatMap Stanza.bytes) :
    (Decoder.pushAll {} chunks).2.flatten = [payload] := by
  have hdataless : ∀ stanzas : List Stanza, (∀ s ∈ stanzas, s.IsDataless) →
      stanzas.filterMap (fun s => dataOf (s.lines.map Line.text)) = [] := by
    intro stanzas hstanzas
    rw [List.filterMap_eq_nil_iff]
    intro s hs
    exact dataOf_of_isDataless (hstanzas s hs)
  have hcarried : dataOf (frame.lines.map Line.text) = some payload := by
    rw [dataOf_spells hframe, if_neg (List.splitOn_ne_nil _ _), List.intercalate_splitOn,
      String.ofList_toList]
  have hasides : ∀ s : Stanza, s.IsDataless →
      ∀ line ∈ s.lines, IsLine line.text ∧ cr ∉ line.text := by
    intro s hs line hline
    exact ⟨⟨(hs line hline).ne_nil, (hs line hline).lf_not_mem⟩, (hs line hline).cr_not_mem⟩
  have hlines : ∀ s ∈ before ++ frame :: after,
      ∀ line ∈ s.lines, IsLine line.text ∧ cr ∉ line.text := by
    intro s hs
    rcases List.mem_append.mp hs with hs | hs
    · exact hasides s (hbefore s hs)
    rcases List.mem_cons.mp hs with rfl | hs
    · intro line hline
      refine unbroken_of_spells hframe ?_ line.text (List.mem_map_of_mem hline)
      intro l hl
      exact ⟨fun hc => (mem_of_mem_splitOn l hl hc).2 rfl,
        fun hc => hcr (mem_of_mem_splitOn l hl hc).1⟩
    · exact hasides s (hafter s hs)
  rw [flatten_pushAll, hchunks, payloads_stanzas hlines, List.filterMap_append,
    List.filterMap_cons, hcarried, hdataless before hbefore, hdataless after hafter]
  rfl

/-- A payload with a line that starts with a space, one that looks like a comment, one that looks
like a field, and an empty one at the end; with a field, a comment and a line that is no text among
its lines, both line ends, and frames without data and empty ones around it. -/
theorem pushAll_spelled_of_hostile :
    let payload := " a\n: b\ndata: c\n"
    let lines : List Line := [⟨encode "event: x", true⟩, ⟨encode "data:  a", false⟩,
      ⟨encode ": note", false⟩, ⟨encode "data:: b", true⟩, ⟨encode "data:data: c", false⟩,
      ⟨[0xe5, 0x64], true⟩, ⟨encode "data:", true⟩]
    let before : List Stanza := [⟨[⟨encode ": ping", true⟩], true⟩, ⟨[], false⟩]
    let after : List Stanza := [⟨[], false⟩, ⟨[⟨encode "id: 7", false⟩], false⟩]
    let bytes := (before ++ ⟨lines, true⟩ :: after).flatMap Stanza.bytes
    let chunks := [bytes.take 14, (bytes.drop 14).take 30, bytes.drop 44]
    '\r' ∉ payload.toList ∧ Spells (payload.toList.splitOn '\n') (lines.map Line.text) ∧
      (Decoder.pushAll {} chunks).2.flatten = [payload] := by
  intro payload lines before after bytes chunks
  have hcr : '\r' ∉ payload.toList := by decide +kernel
  have hspells : Spells [[' ', 'a'], [':', ' ', 'b'], ['d', 'a', 't', 'a', ':', ' ', 'c'], []]
      (lines.map Line.text) :=
    .aside (by decide +kernel) <| .spaced _ <| .aside (by decide +kernel) <|
      .tight _ (by decide) <| .tight _ (by decide) <| .aside (by decide +kernel) <|
      .tight _ (by decide) .nil
  have hlines : payload.toList.splitOn '\n' =
      [[' ', 'a'], [':', ' ', 'b'], ['d', 'a', 't', 'a', ':', ' ', 'c'], []] := by decide +kernel
  rw [← hlines] at hspells
  have hdataless : ∀ s ∈ before ++ after, s.IsDataless := by
    unfold Stanza.IsDataless
    decide +kernel
  have hchunks : chunks.flatten = bytes := by decide +kernel
  rw [List.forall_mem_append] at hdataless
  have hread := @pushAll_spelled payload hcr ⟨lines, true⟩ hspells before after hdataless.1
    hdataless.2 chunks hchunks
  exact ⟨hcr, hspells, hread⟩

end TaskWatch.Sse
