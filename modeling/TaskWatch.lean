import TaskWatch.Text.Blank
import TaskWatch.Text.Utf8
import TaskWatch.Json.Reader
import TaskWatch.Json.Printer
import TaskWatch.Tracker
import TaskWatch.Wire.Event
import TaskWatch.Wire.Snapshot
import TaskWatch.Wire.View
import TaskWatch.Sse.EventStream
import TaskWatch.Source.Probe
import TaskWatch.Run
import TaskWatch.Console
import TaskWatch.Endpoint
import TaskWatch.Rehearsal.Play
import TaskWatch.Main
import TaskWatch.Rehearsal.Alone
import TaskWatch.Proofs.Tracker.Move
import TaskWatch.Proofs.Tracker.Course
import TaskWatch.Proofs.Tracker.Coherence
import TaskWatch.Proofs.Tracker.Finality
import TaskWatch.Proofs.Tracker.Language
import TaskWatch.Proofs.Tracker.Reconciliation
import TaskWatch.Proofs.Sse.Chunking
import TaskWatch.Proofs.Source.Speech
import TaskWatch.Proofs.Source.Rounds
import TaskWatch.Proofs.Source.Watching
import TaskWatch.Proofs.Run.Step
import TaskWatch.Proofs.Tracker.Opening
import TaskWatch.Proofs.Tracker.Steering
import TaskWatch.Proofs.Run.Attention
import TaskWatch.Proofs.Run.Ending
import TaskWatch.Proofs.Console.Step
import TaskWatch.Proofs.Console.Lock
import TaskWatch.Proofs.Console.Succession
import TaskWatch.Proofs.Console.Deletion
import TaskWatch.Proofs.Console.History
import TaskWatch.Proofs.Console.Refresh
import TaskWatch.Proofs.Console.Cancellation
import TaskWatch.Proofs.Text.Utf8
import TaskWatch.Proofs.Json.Plain
import TaskWatch.Proofs.Sse.Framing
import TaskWatch.Proofs.Feed.Framing
import TaskWatch.Proofs.Feed.Following
import TaskWatch.Proofs.Console.Absence
import TaskWatch.Proofs.Console.Refusal
import TaskWatch.Proofs.Console.Supersession
import TaskWatch.Proofs.Json.Reading
import TaskWatch.Proofs.Json.Writing
import TaskWatch.Proofs.Wire.RoundTrip
import TaskWatch.Proofs.Json.Record
import TaskWatch.Proofs.Wire.Decoding
import TaskWatch.Proofs.Source.Budget
import TaskWatch.Proofs.Console.Rest
import TaskWatch.Proofs.Console.Ruling
import TaskWatch.Proofs.Console.Answer
import TaskWatch.Proofs.Sse.Spelling
import TaskWatch.Proofs.Text.Lossy
import TaskWatch.Proofs.Sse.Events
import TaskWatch.Proofs.Source.Listening
import TaskWatch.Proofs.Url.Percent
import TaskWatch.Proofs.Url.Path
import TaskWatch.Proofs.Url.Joining
import TaskWatch.Proofs.Endpoint.Addressing
import TaskWatch.Proofs.Source.Waits
import TaskWatch.Proofs.Source.Interruption
import TaskWatch.Proofs.Source.Pace
import TaskWatch.Proofs.Tracker.Meter
import TaskWatch.Proofs.Tracker.Counting
import TaskWatch.Proofs.Tracker.Messages
import TaskWatch.Proofs.Settings.Variables
import TaskWatch.Proofs.Json.Bytes
import TaskWatch.Proofs.Text.Marked
import TaskWatch.Proofs.Wire.Contents
import TaskWatch.Proofs.Service.Answers
