/-
# The events of a stream, and its end

What the transport delivers is a list of chunks, and errors among them.  This module reads it
without a decoder: the bytes before the first error (`received`), their complete frames
(`completeFrames`), and the event of each frame, if it is one (`frameEvent?`).

**`events_eq_frames`**: the stream is these events, then the first error, then nothing.

* How the bytes are cut into chunks does not show in this, and neither does what comes behind an
  error.
* A frame that is no event is passed over, and takes nothing of its neighbours with it: it can be
  cut out of the bytes (`Pruned`), carriage returns and all.

The induction is on the chunks, with the decoder as it is after the bytes so far (`push_after`).
-/
import TaskWatch.Sse.EventStream
import TaskWatch.Proofs.Sse.Framing

namespace TaskWatch.Sse

open Text.Utf8 (encode)

/-! ## 1. What was received -/

/-- **The bytes before the first error.** -/
def received (chunks : List Chunk) : List UInt8 :=
  (chunks.takeWhile Except.isOk).flatMap fun chunk => chunk.toOption.getD []

/-- **The first error.** -/
def failure? (chunks : List Chunk) : Option TransportError :=
  chunks.findSome? fun chunk =>
    match chunk with
    | .ok _ => none
    | .error e => some e

/-- **The complete frames** among some bytes, each without the empty line that ends it. -/
def completeFrames (bytes : List UInt8) : List (List UInt8) :=
  (pieces (dropCr bytes)).dropLast

/-- **The event of a frame**, if it has a payload that is one. -/
def frameEvent? (frame : List UInt8) : Option Event :=
  (reading? frame).bind Event.decode?

@[simp] theorem received_nil : received [] = [] := rfl

@[simp] theorem received_ok (bytes : List UInt8) (chunks : List Chunk) :
    received (.ok bytes :: chunks) = bytes ++ received chunks := rfl

@[simp] theorem received_error (e : TransportError) (chunks : List Chunk) :
    received (.error e :: chunks) = [] := rfl

@[simp] theorem failure?_nil : failure? [] = none := rfl

@[simp] theorem failure?_ok (bytes : List UInt8) (chunks : List Chunk) :
    failure? (.ok bytes :: chunks) = failure? chunks := rfl

@[simp] theorem failure?_error (e : TransportError) (chunks : List Chunk) :
    failure? (.error e :: chunks) = some e := rfl

/-- **Behind an error** nothing is received any more. -/
theorem received_append {chunks : List Chunk} {e : TransportError} (h : failure? chunks = some e)
    (rest : List Chunk) :
    received (chunks ++ rest) = received chunks ∧ failure? (chunks ++ rest) = some e := by
  induction chunks with
  | nil => cases h
  | cons chunk chunks ih =>
    cases chunk with
    | error e' => exact ⟨rfl, h⟩
    | ok bytes =>
      obtain ⟨hbytes, hfailure⟩ := ih h
      exact ⟨congrArg (bytes ++ ·) hbytes, hfailure⟩

/-! ## 2. The stream -/

theorem eventsOf_append (ps qs : List String) : eventsOf (ps ++ qs) = eventsOf ps ++ eventsOf qs :=
  List.filterMap_append

/-- The events of the payloads are those of the frames. -/
theorem eventsOf_payloads (bytes : List UInt8) :
    eventsOf (payloads bytes) = (completeFrames bytes).filterMap frameEvent? := by
  rw [eventsOf, payloads, List.filterMap_filterMap]
  rfl

/-- **What a decoder makes of the chunks to come**: the events of the payloads that they add, and
the first error. -/
theorem exists_payloads_events (bytes : List UInt8) (chunks : List Chunk) :
    ∃ added, payloads (bytes ++ received chunks) = payloads bytes ++ added ∧
      (Decoder.after bytes).events chunks =
        (eventsOf added).map .ok ++ (failure? chunks).toList.map .error := by
  induction chunks generalizing bytes with
  | nil => exact ⟨[], by simp, rfl⟩
  | cons chunk chunks ih =>
    cases chunk with
    | error e => exact ⟨[], by simp, rfl⟩
    | ok more =>
      obtain ⟨hafter, hpayloads⟩ := push_after bytes more
      obtain ⟨added, hadded, hevents⟩ := ih (bytes ++ more)
      rcases hpush : (Decoder.after bytes).push more with ⟨d, given⟩
      rw [hpush] at hafter hpayloads
      obtain rfl : d = _ := hafter
      refine ⟨given ++ added, ?_, ?_⟩
      · rw [received_ok, ← List.append_assoc, hadded, hpayloads, List.append_assoc]
      · rw [Decoder.events, hpush, failure?_ok, eventsOf_append, List.map_append,
          List.append_assoc, ← hevents]

/-- **The stream without a decoder.** -/
theorem events_eq (chunks : List Chunk) :
    events chunks = ((completeFrames (received chunks)).filterMap frameEvent?).map .ok ++
      (failure? chunks).toList.map .error := by
  obtain ⟨added, hadded, hevents⟩ := exists_payloads_events [] chunks
  rw [payloads_nil, List.nil_append, List.nil_append] at hadded
  rw [after_nil, ← hadded, eventsOf_payloads] at hevents
  exact hevents

/-! ## 3. Frames that are no events -/

/-- **A complete frame as it came**: without its carriage returns it ends at its first separator. -/
structure IsFrame (bytes frame : List UInt8) : Prop where
  dropCr_eq : dropCr bytes = frame ++ [lf, lf]
  unbroken : ¬ [lf, lf] <:+: frame ++ [lf]

/-- **Some frames that are no events are cut out** of the bytes. -/
inductive Pruned : List UInt8 → List UInt8 → Prop
  | rest (bytes : List UInt8) : Pruned bytes bytes
  | keep {bytes frame before after : List UInt8} (h : IsFrame bytes frame)
      (hp : Pruned before after) : Pruned (bytes ++ before) (bytes ++ after)
  | cut {bytes frame before after : List UInt8} (h : IsFrame bytes frame)
      (hnone : frameEvent? frame = none) (hp : Pruned before after) :
      Pruned (bytes ++ before) after

/-- A frame at the start of the bytes is their first one, and no other depends on it. -/
theorem completeFrames_append {bytes frame : List UInt8} (h : IsFrame bytes frame)
    (rest : List UInt8) : completeFrames (bytes ++ rest) = frame :: completeFrames rest := by
  have hdrop : dropCr (bytes ++ rest) = frame ++ lf :: lf :: dropCr rest := by
    have happend : dropCr (bytes ++ rest) = dropCr bytes ++ dropCr rest := List.filter_append ..
    rw [happend, h.dropCr_eq]
    simp
  rw [completeFrames, hdrop, pieces_append_separator h.unbroken,
    List.dropLast_cons_of_ne_nil (pieces_ne_nil _)]
  rfl

/-- **Nobody misses them.** -/
theorem filterMap_frameEvent?_of_pruned {before after : List UInt8} (h : Pruned before after) :
    (completeFrames after).filterMap frameEvent? =
      (completeFrames before).filterMap frameEvent? := by
  induction h with
  | rest bytes => rfl
  | keep h _ ih =>
    rw [completeFrames_append h, completeFrames_append h, List.filterMap_cons,
      List.filterMap_cons, ih]
  | cut h hnone _ ih =>
    rw [completeFrames_append h, List.filterMap_cons, hnone, ih]

/-! ## 4. The whole law -/

/-- **The events of a stream**:

* they are those of the complete frames before the first error, in their order; then comes the
  error, if there is one, and then the end;
* what comes behind an error does not matter;
* the same bytes in other chunks give the same stream;
* and so do the bytes with frames cut out that are no events. -/
theorem events_eq_frames (chunks : List Chunk) :
    events chunks = ((completeFrames (received chunks)).filterMap frameEvent?).map .ok ++
      (failure? chunks).toList.map .error ∧
    (∀ e rest, failure? chunks = some e → events (chunks ++ rest) = events chunks) ∧
    (∀ others, received others = received chunks → failure? others = failure? chunks →
      events others = events chunks) ∧
    (∀ others, Pruned (received chunks) (received others) → failure? others = failure? chunks →
      events others = events chunks) := by
  have hsame : ∀ others, received others = received chunks → failure? others = failure? chunks →
      events others = events chunks := by
    intro others hbytes hfailure
    rw [events_eq, events_eq, hbytes, hfailure]
  refine ⟨events_eq chunks, ?_, hsame, ?_⟩
  · intro e rest hfailure
    obtain ⟨hbytes, hbehind⟩ := received_append hfailure rest
    exact hsame _ hbytes (hbehind.trans hfailure.symm)
  · intro others hpruned hfailure
    rw [events_eq, events_eq, filterMap_frameEvent?_of_pruned hpruned, hfailure]

/-- A frame that is no event between two that are, cut in the middle by a chunk, and a frame that
has not ended when the error comes; the same without the frame that is no event. -/
theorem events_eq_frames_of_reset :
    let total := encode "data: \x7b\"type\":\"total\",\"total\":4\x7d\r\n\r\n"
    let broken := encode "data: broken\r\n\n"
    let done := encode "data: \x7b\"type\":\"done\"\x7d\n\n"
    let reset : TransportError := .requestFailed "reset"
    let chunks : List Chunk :=
      [.ok (total ++ broken.take 8), .ok (broken.drop 8 ++ done ++ done.take 9), .error reset]
    let whole : List Chunk := [.ok (total ++ broken ++ done ++ done.take 9), .error reset]
    let weeded : List Chunk := [.ok (total ++ done ++ done.take 9), .error reset]
    events chunks = [.ok (.total 4 ""), .ok (.done ""), .error reset] ∧
      (failure? chunks = some reset ∧ events (chunks ++ [.ok (done.drop 9)]) = events chunks) ∧
      (received whole = received chunks ∧ failure? whole = failure? chunks ∧
        events whole = events chunks) ∧
      (Pruned (received chunks) (received weeded) ∧ failure? weeded = failure? chunks ∧
        events weeded = events chunks) := by
  intro total broken done reset chunks whole weeded
  obtain ⟨hevents, hbehind, hcuts, hpruned⟩ := events_eq_frames chunks
  have hwhole : received whole = received chunks := by decide +kernel
  have hweeded : Pruned (received chunks) (received weeded) := by
    have htotal : IsFrame total (encode "data: \x7b\"type\":\"total\",\"total\":4\x7d") :=
      ⟨by decide +kernel, by decide +kernel⟩
    have hbroken : IsFrame broken (encode "data: broken") := ⟨by decide +kernel, by decide +kernel⟩
    have hnone : frameEvent? (encode "data: broken") = none := by decide +kernel
    have hcut := Pruned.keep htotal (.cut hbroken hnone (.rest (done ++ done.take 9)))
    have hbefore : total ++ (broken ++ (done ++ done.take 9)) = received chunks := by decide +kernel
    have hafter : total ++ (done ++ done.take 9) = received weeded := by decide +kernel
    rwa [hbefore, hafter] at hcut
  exact ⟨hevents.trans (by decide +kernel), ⟨rfl, hbehind reset _ rfl⟩,
    ⟨hwhole, rfl, hcuts whole hwhole rfl⟩, ⟨hweeded, rfl, hpruned weeded hweeded rfl⟩⟩

end TaskWatch.Sse
