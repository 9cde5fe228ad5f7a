/-
# Frames of a server-sent event stream

A frame is a block of lines; an empty line ends it.  A line `data: x` carries a line `x` of
the frame's payload; lines with other fields, and comments, which start with a colon, carry
nothing.  A frame without a `data` line has no payload, while one with an empty `data` line
has the empty payload.

* `payload?` reads the payload of a frame's bytes.
* `write` makes the frame of a named event.
-/
import TaskWatch.Text.Cut
import TaskWatch.Text.Utf8

namespace TaskWatch.Sse

/-! ## 1. Lines -/

/-- The lines of a text: it is cut at every line feed. -/
def lines (cs : List Char) : List (List Char) :=
  Text.cut (· = '\n') cs

/-- Lines put together again. -/
def unlines (ls : List (List Char)) : List Char :=
  Text.glue '\n' ls

/-! ## 2. Payloads -/

/-- What a line carries: the text behind `data:`, less one space. -/
def lineData? : List Char → Option (List Char)
  | 'd' :: 'a' :: 't' :: 'a' :: ':' :: ' ' :: rest => some rest
  | 'd' :: 'a' :: 't' :: 'a' :: ':' :: rest => some rest
  | _ => none

/-- **The payload of a frame's text.** -/
def textPayload? (text : List Char) : Option (List Char) :=
  match (lines text).filterMap lineData? with
  | [] => none
  | data => some (unlines data)

/-- **The payload of a frame.** -/
def payload? (frame : List UInt8) : Option String :=
  (textPayload? (Text.Utf8.decodeChars frame)).map String.ofList

/-! ## 3. Writing -/

/-- **The frame of an event** whose data is a single line. -/
def write (event data : String) : String :=
  s!"event: {event}\ndata: {data}\n\n"

end TaskWatch.Sse
