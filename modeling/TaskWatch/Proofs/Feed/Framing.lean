/-
# The frames of a feed

A page gets the pictures and the notices as frames of a stream.  The texts in a picture come from
the server as they are: they may hold line breaks, quotes, or what looks like a line of a frame.
In JSON they stand escaped, so the data of a frame are a single line, and the frames stay apart.

**`decoded_texts`**: no frame can be mistaken for two, and a decoder gives the data back as they
were written, however the bytes are cut.
-/
import TaskWatch.Feed
import TaskWatch.Proofs.Json.Plain
import TaskWatch.Proofs.Sse.Framing

namespace TaskWatch.Frame

open Sse Text.Utf8

/-- A text without control characters has no line break. -/
theorem ne_break_of_allPlain {cs : List Char} (h : Json.AllPlain cs) :
    ∀ c ∈ cs, c ≠ '\n' ∧ c ≠ '\r' :=
  fun c hc => ⟨(h c hc).ne_lf, (h c hc).ne_cr⟩

/-- The name of an event has none. -/
theorem ne_break_of_mem_event (f : Frame) : ∀ c ∈ f.event.toList, c ≠ '\n' ∧ c ≠ '\r' := by
  have hstate : Json.AllPlain "state".toList := by decide
  have hrefresh : Json.AllPlain "refresh".toList := by decide
  cases f with
  | state v => exact ne_break_of_allPlain hstate
  | refresh taskId => exact ne_break_of_allPlain hrefresh

/-- **Nor have its data.** -/
theorem ne_break_of_mem_data (f : Frame) : ∀ c ∈ f.toJson.write.toList, c ≠ '\n' ∧ c ≠ '\r' := by
  refine ne_break_of_allPlain ?_
  rw [Json.write, String.toList_ofList]
  exact Json.allPlain_writeChars f.toJson

/-- **The bytes of some frames** give their data, one after another. -/
theorem payloads_texts (frames : List Frame) :
    payloads (encode (String.join (frames.map text))) = frames.map (·.toJson.write) := by
  induction frames with
  | nil => exact payloads_nil
  | cons f frames ih =>
    have hsplit : encode (String.join ((f :: frames).map text)) =
        encode f.text ++ encode (String.join (frames.map text)) := by
      simp [encode, String.toList_join]
    rw [hsplit, text, payloads_write f.ne_break_of_mem_event f.ne_break_of_mem_data, ih]
    rfl

/-- **The frames of a feed are safe, and are read back.**

* In the bytes of a frame there are two line feeds in a row at the end and nowhere else, and no
  carriage return.
* However the bytes of some frames are cut into chunks, a decoder gives the data of each of them,
  in their order, exactly as they were written. -/
theorem decoded_texts (frames : List Frame) :
    (∀ f ∈ frames,
      [lf, lf] <:+ encode f.text ∧
      (∀ before after, encode f.text = before ++ lf :: lf :: after → after = []) ∧
      cr ∉ encode f.text) ∧
    ∀ chunks : List (List UInt8), chunks.flatten = encode (String.join (frames.map text)) →
      (Decoder.pushAll {} chunks).2.flatten = frames.map (·.toJson.write) := by
  refine ⟨fun f _ => ?_, fun chunks hbytes => ?_⟩
  · have he := f.ne_break_of_mem_event
    have hd := f.ne_break_of_mem_data
    refine ⟨?_, fun before after h => ?_, ?_⟩
    · rw [text, encode_write, block_eq_intercalate (by simp [frameLines]), List.append_assoc]
      exact List.suffix_append _ _
    · exact eq_nil_of_encode_write (fun hlf => (he _ hlf).1 rfl) (fun hlf => (hd _ hlf).1 rfl) h
    · exact cr_not_mem_encode_write (fun hcr => (he _ hcr).2 rfl) fun hcr => (hd _ hcr).2 rfl
  · rw [flatten_pushAll, hbytes, payloads_texts]

/-- A picture with an error text that would end a frame and begin another one, a notice for a task
whose name would, and a picture in which all is present but the error; the bytes come one at a time.
The texts that come out are spelled out. -/
theorem decoded_texts_of_breaks :
    let task : Task :=
      { id := "7", status := .failed, current := 3, total := 4, percent := 75
        messages := ["a\nb", "data: c"], tally := { downloaded := 3, failed := 1 }
        startedAt := "2024-05-01T08:00:00Z" }
    let probe : ProbeReport :=
      { phase := .awaitingUp, elapsedSeconds := 4, budgetSeconds := 120, percent := 3 }
    let frames : List Frame :=
      [.state { error := some "\x00\n\ndata: \"x\"\r\n\\ 完" }, .refresh "a\n\nb",
        .state
          { task := some task, phase := .settled, link := { sawTerminal := true }
            probe := some probe, notice := some (.failed "d\re") }]
    let texts : List String :=
      ["\x7b\"task\":null,\"phase\":\"idle\"," ++
          "\"connection\":\x7b\"attached\":false,\"sawTerminal\":false\x7d,\"probe\":null," ++
          "\"notice\":null,\"error\":\"\\u0000\\n\\ndata: \\\"x\\\"\\r\\n\\\\ 完\"\x7d",
        "\x7b\"taskId\":\"a\\n\\nb\"\x7d",
        "\x7b\"task\":\x7b\"id\":\"7\",\"status\":\"failed\",\"current\":3,\"total\":4," ++
          "\"percent\":75,\"messages\":[\"a\\nb\",\"data: c\"],\"needsRestart\":false," ++
          "\"confirmed\":false,\"resultSummary\":\x7b\"downloaded\":3,\"skipped\":0," ++
          "\"failed\":1\x7d,\"startedAt\":\"2024-05-01T08:00:00Z\"\x7d,\"phase\":\"settled\"," ++
          "\"connection\":\x7b\"attached\":false,\"sawTerminal\":true\x7d," ++
          "\"probe\":\x7b\"phase\":\"awaiting_up\",\"elapsedSeconds\":4,\"budgetSeconds\":120," ++
          "\"percent\":3\x7d,\"notice\":\x7b\"kind\":\"failed\",\"message\":\"d\\re\"\x7d," ++
          "\"error\":null\x7d"]
    let chunks := (encode (String.join (frames.map text))).map ([·])
    frames[0] ∈ frames ∧ cr ∉ encode (text frames[0]) ∧
      chunks.flatten = encode (String.join (frames.map text)) ∧
      (Decoder.pushAll {} chunks).2.flatten = frames.map (·.toJson.write) ∧
      (Decoder.pushAll {} chunks).2.flatten = texts := by
  intro task probe frames texts chunks
  have hmem : frames[0] ∈ frames := List.getElem_mem _
  have hbytes : chunks.flatten = encode (String.join (frames.map text)) :=
    List.flatMap_def.symm.trans (List.flatMap_singleton' _)
  have htexts : frames.map (·.toJson.write) = texts := by
    refine congrArg₂ List.cons ?_ (congrArg₂ List.cons ?_ (congrArg₂ List.cons ?_ rfl))
    all_goals
      -- the characters of a literal are known without its bytes
      refine String.toList_injective (String.toList_ofList.trans ?_)
      repeat rw [String.toList_append]
      repeat rw [String.toList_ofList]
      decide +kernel
  obtain ⟨hsafe, hdecoded⟩ := decoded_texts frames
  exact ⟨hmem, (hsafe _ hmem).2.2, hbytes, hdecoded chunks hbytes,
    (hdecoded chunks hbytes).trans htexts⟩

end TaskWatch.Frame
