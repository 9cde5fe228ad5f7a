/-
# A stream of frames, however it is cut into chunks

The decoder sees its stream in chunks and keeps the bytes of a frame that is not complete.
This module reads the same stream without any chunks: `payloads` takes all the bytes that
there are, drops the carriage returns, cuts at every separator, and reads each piece but the
last.  The separator is looked for by its place (`separator?`), and the lines of a piece are
those of the standard library's `List.splitOn`; neither has a state that could be carried
from one chunk to the next.

**`pushAll_eq_payloads`**: after any number of chunks the decoder has given exactly the
payloads of the bytes until then.

Two facts carry it.  What is held back is the last piece (`cut_eq`), and that piece is all of
the past that a cut further on depends on (`pieces_append`): a separator across the end of a
chunk lies in the last piece and the bytes that follow it.
-/
import TaskWatch.Sse.Decoder

namespace TaskWatch.Sse

/-! ## 1. The stream as a whole -/

/-- The place of the first two line feeds in a row. -/
def separator? (bytes : List UInt8) : Option Nat :=
  (bytes.zip bytes.tail).findIdx? (· == (lf, lf))

/-- There are two bytes at that place. -/
theorem separator?_lt {bytes : List UInt8} {n : Nat} (h : separator? bytes = some n) :
    n + 1 < bytes.length := by
  obtain ⟨hn, -⟩ := List.findIdx?_eq_some_iff_getElem.mp h
  rw [List.length_zip, List.length_tail] at hn
  omega

/-- **The pieces between separators**, the unfinished one behind the last separator included.
Each cut is at the leftmost separator, and the next one is looked for behind it. -/
def pieces (bytes : List UInt8) : List (List UInt8) :=
  match h : separator? bytes with
  | none => [bytes]
  | some n =>
    have := separator?_lt h
    bytes.take n :: pieces (bytes.drop (n + 2))
termination_by bytes.length
decreasing_by
  rw [List.length_drop]
  omega

/-- What a `data:` line carries: the rest of the line, less one leading space. -/
def carried (line : List Char) : List Char :=
  let rest := line.drop 5
  if rest.head? = some ' ' then rest.tail else rest

/-- **The payload of a piece**: what its `data:` lines carry, joined by line feeds. -/
def reading? (piece : List UInt8) : Option String :=
  let lines := (Text.Utf8.decodeChars piece).splitOn '\n'
  let data := lines.filter ("data:".toList.isPrefixOf ·)
  if data = [] then none
  else some (String.ofList (['\n'].intercalate (data.map carried)))

/-- **The payloads of a stream**, of which these are the bytes until now. -/
def payloads (bytes : List UInt8) : List String :=
  (pieces (bytes.filter (· ≠ cr))).dropLast.filterMap reading?

/-! ## 2. Separators -/

/-- A text of two bytes and more begins with a separator, or its separators are those of its
tail. -/
theorem separator?_cons_cons (b b' : UInt8) (rest : List UInt8) :
    separator? (b :: b' :: rest) =
      if b = lf ∧ b' = lf then some 0 else (separator? (b' :: rest)).map (· + 1) := by
  simp [separator?, List.findIdx?_cons]

/-- The same of the separators themselves. -/
theorem infix_cons_cons_iff {b b' : UInt8} {rest : List UInt8} :
    [lf, lf] <:+: b :: b' :: rest ↔ b = lf ∧ b' = lf ∨ [lf, lf] <:+: b' :: rest := by
  rw [List.infix_cons_iff, List.cons_prefix_cons, List.cons_prefix_cons]
  simp [eq_comm]

/-- No separator fits into one byte. -/
theorem not_infix_of_length_le {bytes : List UInt8} (h : bytes.length ≤ 1) :
    ¬ [lf, lf] <:+: bytes := by
  intro hi
  have := hi.length_le
  simp only [List.length_cons, List.length_nil] at this
  omega

/-- **Bytes without a separator.** -/
theorem separator?_eq_none_iff {bytes : List UInt8} :
    separator? bytes = none ↔ ¬ [lf, lf] <:+: bytes := by
  match bytes with
  | [] => exact iff_of_true rfl (not_infix_of_length_le (by simp))
  | [b] => exact iff_of_true rfl (not_infix_of_length_le (by simp))
  | b :: b' :: rest =>
    have ih : separator? (b' :: rest) = none ↔ ¬ [lf, lf] <:+: b' :: rest :=
      separator?_eq_none_iff
    rw [separator?_cons_cons, infix_cons_cons_iff]
    by_cases h : b = lf ∧ b' = lf
    · simp [h]
    · simp [h, ih]

/-- **The first separator**: a piece, the two line feeds, and the bytes behind them.  There
is no separator in the piece, nor one that begins with its last byte. -/
theorem separator?_append {first rest : List UInt8} (h : ¬ [lf, lf] <:+: first ++ [lf]) :
    separator? (first ++ lf :: lf :: rest) = some first.length := by
  induction first with
  | nil => simp [separator?_cons_cons]
  | cons b first ih =>
    -- the byte behind `b` is the head of what follows, and with it `b` makes no separator
    obtain ⟨b', more, hmore⟩ : ∃ b' more, first ++ [lf] = b' :: more :=
      List.exists_cons_of_ne_nil (by simp)
    rw [List.cons_append, hmore, infix_cons_cons_iff, not_or, ← hmore] at h
    obtain ⟨hb, hfirst⟩ := h
    have hsplit : first ++ lf :: lf :: rest = b' :: (more ++ lf :: rest) := by
      rw [← List.cons_append, ← hmore]
      simp
    rw [List.cons_append, hsplit, separator?_cons_cons, if_neg hb, ← hsplit, ih hfirst]
    rfl

/-- Every first separator is one of that kind. -/
theorem separator?_split {bytes : List UInt8} {n : Nat} (h : separator? bytes = some n) :
    bytes = bytes.take n ++ lf :: lf :: bytes.drop (n + 2) ∧
      ¬ [lf, lf] <:+: bytes.take n ++ [lf] := by
  match bytes with
  | [] => simp [separator?] at h
  | [b] => simp [separator?] at h
  | b :: b' :: rest =>
    rw [separator?_cons_cons] at h
    by_cases hb : b = lf ∧ b' = lf
    · rw [if_pos hb] at h
      obtain ⟨rfl, rfl⟩ := hb
      obtain rfl : 0 = n := Option.some.inj h
      exact ⟨rfl, not_infix_of_length_le (by simp)⟩
    · rw [if_neg hb] at h
      obtain ⟨m, hm, rfl⟩ := Option.map_eq_some_iff.mp h
      obtain ⟨hsplit, hnone⟩ := separator?_split hm
      refine ⟨by simpa using hsplit, ?_⟩
      -- the piece goes on with `b'`, or it is `b` alone and the separator begins with `b'`
      cases m with
      | zero =>
        have hb' : b' = lf := (List.cons.inj hsplit).1
        intro hi
        rcases infix_cons_cons_iff.mp hi with ⟨h, -⟩ | hinfix
        · exact hb ⟨h, hb'⟩
        · exact hnone hinfix
      | succ m =>
        intro hi
        rcases infix_cons_cons_iff.mp hi with h | hinfix
        · exact hb h
        · exact hnone hinfix

/-! ## 3. Pieces -/

theorem pieces_ne_nil (bytes : List UInt8) : pieces bytes ≠ [] := by
  unfold pieces
  split <;> simp

/-- Bytes without a separator are one piece, and it is unfinished. -/
theorem pieces_of_not_infix {bytes : List UInt8} (h : ¬ [lf, lf] <:+: bytes) :
    pieces bytes = [bytes] := by
  unfold pieces
  split
  · rfl
  · rename_i n hn
    rw [separator?_eq_none_iff.mpr h] at hn
    cases hn

/-- The first separator finishes the first piece. -/
theorem pieces_append_separator {first : List UInt8} (h : ¬ [lf, lf] <:+: first ++ [lf])
    (rest : List UInt8) : pieces (first ++ lf :: lf :: rest) = first :: pieces rest := by
  rw [pieces]
  split
  · rename_i hn
    rw [separator?_append h] at hn
    cases hn
  · rename_i n hn
    rw [separator?_append h] at hn
    obtain rfl : first.length = n := Option.some.inj hn
    simp

/-- The piece that is not finished yet. -/
def unfinished (bytes : List UInt8) : List UInt8 :=
  (pieces bytes).getLast (pieces_ne_nil bytes)

/-- **More bytes only go on with the unfinished piece.** -/
theorem pieces_append (bytes more : List UInt8) :
    pieces (bytes ++ more)
      = (pieces bytes).dropLast ++ pieces (unfinished bytes ++ more) := by
  induction bytes using pieces.induct with
  | case1 bytes hnone =>
    have hpieces := pieces_of_not_infix (separator?_eq_none_iff.mp hnone)
    simp [unfinished, hpieces]
  | case2 bytes n hn _ ih =>
    obtain ⟨hsplit, hfirst⟩ := separator?_split hn
    generalize bytes.take n = first at hsplit hfirst
    generalize bytes.drop (n + 2) = rest at hsplit ih
    subst hsplit
    have hpieces := pieces_append_separator hfirst rest
    have hlast : unfinished (first ++ lf :: lf :: rest) = unfinished rest := by
      simp only [unfinished, hpieces, List.getLast_cons (pieces_ne_nil rest)]
    rw [hlast, hpieces, List.dropLast_cons_of_ne_nil (pieces_ne_nil rest), List.append_assoc,
      List.cons_append, List.cons_append, pieces_append_separator hfirst, ih, List.cons_append]

/-- What is unfinished then depends on what was unfinished before. -/
theorem unfinished_append (bytes more : List UInt8) :
    unfinished (bytes ++ more) = unfinished (unfinished bytes ++ more) := by
  have hlast : ∀ bytes, (pieces bytes).getLast? = some (unfinished bytes) := fun bytes =>
    List.getLast?_eq_some_getLast (pieces_ne_nil bytes)
  have h := congrArg List.getLast? (pieces_append bytes more)
  rw [List.getLast?_append, hlast, hlast, Option.some_or] at h
  exact Option.some.inj h

/-- **The decoder's cut**: the pieces that are finished, and the one that is not. -/
theorem cut_eq (current bytes : List UInt8)
    (h : ¬ [lf, lf] <:+: current.reverse ++ bytes.take 1) :
    cut current bytes
      = ((pieces (current.reverse ++ bytes)).dropLast, unfinished (current.reverse ++ bytes)) := by
  fun_induction cut current bytes with
  | case1 current =>
    have hpieces := pieces_of_not_infix h
    rw [List.take_nil] at hpieces
    simp only [unfinished, hpieces, List.dropLast_singleton, List.getLast_singleton]
    rw [List.append_nil]
  | case2 current b =>
    have hpieces : pieces (current.reverse ++ [b]) = [current.reverse ++ [b]] :=
      pieces_of_not_infix h
    simp only [unfinished, hpieces, List.dropLast_singleton, List.getLast_singleton,
      List.reverse_cons]
  | case3 current b b' rest hb frames tail hcut ih =>
    obtain ⟨rfl, rfl⟩ := hb
    have hshort : ¬ [lf, lf] <:+: ([] : List UInt8).reverse ++ rest.take 1 := fun hi => by
      have := hi.length_le
      rw [List.reverse_nil, List.nil_append, List.length_take, List.length_cons,
        List.length_singleton] at this
      omega
    have hpieces := pieces_append_separator h rest
    have ih := ih hshort
    rw [hcut, List.reverse_nil, List.nil_append, Prod.mk.injEq] at ih
    obtain ⟨rfl, rfl⟩ := ih
    simp only [unfinished, hpieces, List.dropLast_cons_of_ne_nil (pieces_ne_nil rest),
      List.getLast_cons (pieces_ne_nil rest)]
  | case4 current b b' rest hb ih =>
    have hnext : ¬ [lf, lf] <:+: (b :: current).reverse ++ (b' :: rest).take 1 := by
      intro hi
      rw [List.reverse_cons, List.take_succ_cons, List.take_zero, List.infix_concat_iff] at hi
      rcases hi with hsuffix | hinfix
      · -- a separator at the very end is made of `b` and `b'`
        obtain ⟨front, hfront⟩ := hsuffix
        have hlast : front ++ [lf] ++ [lf] = current.reverse ++ [b] ++ [b'] := by simpa using hfront
        obtain ⟨hfront, hb'⟩ := List.append_inj' hlast rfl
        obtain ⟨-, hb''⟩ := List.append_inj' hfront rfl
        exact hb ⟨(List.cons.inj hb'').1.symm, (List.cons.inj hb').1.symm⟩
      · exact h hinfix
    rw [ih hnext]
    simp

/-! ## 4. Payloads -/

theorem cut_eq_splitOn (c : Char) (cs : List Char) : Text.cut (· = c) cs = cs.splitOn c := by
  induction cs with
  | nil => rfl
  | cons d cs ih =>
    have hsplit : (d :: cs).splitOn c
        = if d = c then [] :: cs.splitOn c else (cs.splitOn c).modifyHead (d :: ·) := by
      simp [List.splitOn, List.splitOnP_cons_eq_if_modifyHead]
    rw [hsplit, Text.cut, ih]
    by_cases hd : d = c
    · simp [hd]
    · obtain ⟨piece, rest, hpieces⟩ : ∃ piece rest, cs.splitOn c = piece :: rest :=
        List.exists_cons_of_ne_nil (ih ▸ Text.cut_ne_nil _ cs)
      simp [hd, hpieces]

theorem glue_eq_intercalate (c : Char) (ls : List (List Char)) :
    Text.glue c ls = [c].intercalate ls := by
  match ls with
  | [] => rfl
  | [line] => simp [Text.glue]
  | line :: next :: rest =>
    rw [Text.glue, glue_eq_intercalate c (next :: rest), List.intercalate_cons_cons]
    · simp
    · simp

/-- What the decoder takes from a line. -/
theorem lineData?_eq (line : List Char) :
    lineData? line = if "data:".toList.isPrefixOf line then some (carried line) else none := by
  by_cases h : "data:".toList <+: line
  · rw [if_pos (List.isPrefixOf_iff_prefix.mpr h)]
    obtain ⟨rest, rfl⟩ := h
    cases rest with
    | nil => rfl
    | cons c rest =>
      by_cases hc : c = ' '
      · subst hc
        rfl
      · simp [lineData?, carried, hc]
  · rw [if_neg (fun hp => h (List.isPrefixOf_iff_prefix.mp hp))]
    unfold lineData?
    split
    · exact absurd ⟨_, rfl⟩ h
    · exact absurd ⟨_, rfl⟩ h
    · rfl

/-- **The decoder reads a piece as it is read here.** -/
theorem payload?_eq_reading? : payload? = reading? := by
  funext piece
  have hdata : ∀ ls : List (List Char),
      ls.filterMap lineData? = (ls.filter ("data:".toList.isPrefixOf ·)).map carried := by
    intro ls
    rw [← List.filterMap_eq_map, List.filterMap_filter]
    congr
    funext line
    simpa using lineData?_eq line
  simp only [payload?, textPayload?, reading?, lines, unlines, cut_eq_splitOn, hdata]
  split
  · rename_i hnone
    rw [if_pos (List.map_eq_nil_iff.mp hnone)]
    rfl
  · rename_i data hsome
    rw [if_neg (fun hnone => hsome (List.map_eq_nil_iff.mpr hnone)), glue_eq_intercalate]
    rfl

/-! ## 5. Chunks -/

/-- A decoder that has seen these bytes. -/
def Decoder.after (bytes : List UInt8) : Decoder :=
  ⟨unfinished (dropCr bytes)⟩

/-- **One chunk more**: the decoder holds back what is unfinished then, and gives what the
chunk adds to the payloads of the stream. -/
theorem push_after (bytes chunk : List UInt8) :
    ((Decoder.after bytes).push chunk).1 = .after (bytes ++ chunk) ∧
      payloads (bytes ++ chunk)
        = payloads bytes ++ ((Decoder.after bytes).push chunk).2 := by
  have hdrop : dropCr (bytes ++ chunk) = dropCr bytes ++ dropCr chunk := List.filter_append ..
  have hpush : (Decoder.after bytes).push chunk
      = (.after (bytes ++ chunk),
          (pieces (unfinished (dropCr bytes) ++ dropCr chunk)).dropLast.filterMap reading?) := by
    have hcut := cut_eq [] (unfinished (dropCr bytes) ++ dropCr chunk)
      (not_infix_of_length_le (List.length_take_le 1 _))
    simp only [Decoder.push, Decoder.after, hcut, List.reverse_nil, List.nil_append,
      payload?_eq_reading?, hdrop, unfinished_append (dropCr bytes)]
  refine ⟨by rw [hpush], ?_⟩
  rw [hpush]
  show (pieces (dropCr (bytes ++ chunk))).dropLast.filterMap reading? = _
  rw [hdrop, pieces_append, List.dropLast_append_of_ne_nil (pieces_ne_nil _),
    List.filterMap_append]
  rfl

/-- A fresh decoder has seen nothing. -/
theorem after_nil : Decoder.after [] = {} := by
  simp [Decoder.after, dropCr, unfinished, pieces_of_not_infix (not_infix_of_length_le _)]

/-- **Chunks one after another** add up. -/
theorem pushAll_after (bytes : List UInt8) (chunks : List (List UInt8)) :
    payloads (bytes ++ chunks.flatten)
      = payloads bytes ++ ((Decoder.after bytes).pushAll chunks).2.flatten := by
  induction chunks generalizing bytes with
  | nil => simp [Decoder.pushAll]
  | cons chunk chunks ih =>
    obtain ⟨hafter, hpayloads⟩ := push_after bytes chunk
    simp only [Decoder.pushAll, hafter, List.flatten_cons]
    rw [← List.append_assoc, ih, hpayloads, List.append_assoc]

/-- Later chunks do not change what the earlier ones gave. -/
theorem pushAll_take (d : Decoder) (chunks : List (List UInt8)) (n : Nat) :
    (d.pushAll chunks).2.take n = (d.pushAll (chunks.take n)).2 := by
  induction chunks generalizing d n with
  | nil => simp [Decoder.pushAll]
  | cons chunk chunks ih =>
    cases n with
    | zero => simp [Decoder.pushAll]
    | succ n => simp [Decoder.pushAll, ih]

/-- **The payloads of the chunks are those of their bytes.** -/
theorem flatten_pushAll (chunks : List (List UInt8)) :
    (Decoder.pushAll {} chunks).2.flatten = payloads chunks.flatten := by
  have h := pushAll_after [] chunks
  have hnone : payloads [] = [] := by
    simp [payloads, pieces_of_not_infix (not_infix_of_length_le _)]
  rw [after_nil, hnone, List.nil_append, List.nil_append] at h
  exact h.symm

/-- **However a stream is cut into chunks**, the decoder gives the payloads of its bytes:

* after any number of chunks it has given those of the bytes until then, all of them and no
  others, in their order;
* a chunk gives what it adds to the payloads of the stream, so that none is retracted, and
  none comes later than the chunk that finishes its frame;
* two ways of cutting the same bytes give the same payloads. -/
theorem pushAll_eq_payloads (chunks : List (List UInt8)) :
    (∀ n, ((Decoder.pushAll {} chunks).2.take n).flatten = payloads (chunks.take n).flatten) ∧
    (∀ n given, (Decoder.pushAll {} chunks).2[n]? = some given →
      payloads (chunks.take (n + 1)).flatten = payloads (chunks.take n).flatten ++ given) ∧
    (∀ others : List (List UInt8), others.flatten = chunks.flatten →
      (Decoder.pushAll {} others).2.flatten = (Decoder.pushAll {} chunks).2.flatten) := by
  have hsofar : ∀ n,
      ((Decoder.pushAll {} chunks).2.take n).flatten = payloads (chunks.take n).flatten := by
    intro n
    rw [pushAll_take, flatten_pushAll]
  refine ⟨hsofar, ?_, ?_⟩
  · intro n given hgiven
    rw [← hsofar, ← hsofar, List.take_add_one, hgiven, List.flatten_append]
    simp
  · intro others hbytes
    rw [flatten_pushAll, flatten_pushAll, hbytes]

/-- The same frames cut inside a line end, inside a separator and inside a character of three
bytes, and not cut at all. -/
theorem pushAll_eq_payloads_of_cuts :
    let text := Text.Utf8.encode "data: 完\r\n\r\n\n: x\ndata:a\ndata: b\n\ndata"
    let chunks := [text.take 7, (text.drop 7).take 3, (text.drop 10).take 2, text.drop 12]
    (Decoder.pushAll {} chunks).2 = [[], [], [], ["完", "a\nb"]] ∧
      (Decoder.pushAll {} [text]).2.flatten = (Decoder.pushAll {} chunks).2.flatten :=
  ⟨by decide +kernel, (pushAll_eq_payloads _).2.2 _ (by decide +kernel)⟩

end TaskWatch.Sse
