/-
# Reading a stream of frames

Bytes arrive in chunks of any size, cut anywhere.  A `Decoder` holds the bytes of the frame
that is not complete yet; `push` takes one chunk more and gives the payloads of the frames
that it completes.

Carriage returns are dropped before anything else, so both line ends work, and a frame ends
at the first two line feeds in a row.  What the decoder has given after some chunks depends
on their bytes only, not on where they were cut.
-/
import TaskWatch.Sse.Frame

namespace TaskWatch.Sse

/-- The byte of a line feed. -/
def lf : UInt8 := 10

/-- The byte of a carriage return. -/
def cr : UInt8 := 13

/-- Bytes without carriage returns. -/
def dropCr (bytes : List UInt8) : List UInt8 :=
  bytes.filter (· ≠ cr)

/-- **The complete frames** at the start of some bytes, and the bytes behind the last one.
`current` is what is already known of the first frame, newest byte first. -/
def cut (current : List UInt8) : List UInt8 → List (List UInt8) × List UInt8
  | [] => ([], current.reverse)
  | [b] => ([], (b :: current).reverse)
  | b :: b' :: rest =>
    if b = lf ∧ b' = lf then
      let (frames, tail) := cut [] rest
      (current.reverse :: frames, tail)
    else cut (b :: current) (b' :: rest)

/-- **A decoder**: the bytes of a frame that is not complete. -/
structure Decoder where
  buffer : List UInt8 := []
  deriving Repr, DecidableEq, Inhabited

/-- **One chunk more**: the decoder after it, and the payloads that it completes. -/
def Decoder.push (d : Decoder) (chunk : List UInt8) : Decoder × List String :=
  let (frames, tail) := cut [] (d.buffer ++ dropCr chunk)
  (⟨tail⟩, frames.filterMap payload?)

/-- Chunks one after another: the decoder after them, and the payloads that each one
completes. -/
def Decoder.pushAll (d : Decoder) : List (List UInt8) → Decoder × List (List String)
  | [] => (d, [])
  | chunk :: chunks =>
    let (d, payloads) := d.push chunk
    let (d, rest) := d.pushAll chunks
    (d, payloads :: rest)

end TaskWatch.Sse
