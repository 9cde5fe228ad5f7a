/-
# The stream of events

The bytes of a subscription, as they come in or break off, read as a stream of events.
Frames whose payload is no event are passed over.  The first error of the transport is
passed on, and with it the stream is over, whatever comes after it.
-/
import TaskWatch.Sse.Decoder
import TaskWatch.Wire.Event
import TaskWatch.Failure

namespace TaskWatch.Sse

/-- What the transport delivers: some bytes, or an error. -/
abbrev Chunk := Except TransportError (List UInt8)

/-- The events among some payloads. -/
def eventsOf (payloads : List String) : List Event :=
  payloads.filterMap Event.decode?

/-- The stream from a decoder on. -/
def Decoder.events (d : Decoder) : List Chunk → List (Except TransportError Event)
  | [] => []
  | .error e :: _ => [.error e]
  | .ok bytes :: chunks =>
    let (d, payloads) := d.push bytes
    (eventsOf payloads).map .ok ++ d.events chunks

/-- **The events of a stream**, and its first error. -/
def events (chunks : List Chunk) : List (Except TransportError Event) :=
  Decoder.events {} chunks

end TaskWatch.Sse
