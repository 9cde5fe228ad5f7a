/-
# Records on the wire and back

**`round_trips`**: for events, snapshots, receipts and parameters alike, decoding undoes encoding.
The JSON of a record holds no double, so reading undoes writing it (`Json.read?_write`), and what is
left is that the names, the order and the kinds of the fields agree on both sides
(`ofJson?_toJson`).

So whatever form a text had, with its older names, its fields left out or its array of fields, the
text that it is encoded as again stands for the same record.
-/
import TaskWatch.Wire.Event
import TaskWatch.Wire.Snapshot
import TaskWatch.Proofs.Json.Writing

namespace TaskWatch

open Json (Exact)

/-- **Decoding undoes encoding**, and so what was decoded once is encoded and decoded without
loss. -/
structure RoundTrips {α : Type} (encode : α → String) (decode? : String → Option α) : Prop where
  undoes : ∀ a, decode? (encode a) = some a
  settles : ∀ text, (decode? text).bind (fun a => decode? (encode a)) = decode? text

/-- The second law follows from the first. -/
theorem RoundTrips.of_undoes {α : Type} {encode : α → String} {decode? : String → Option α}
    (h : ∀ a, decode? (encode a) = some a) : RoundTrips encode decode? where
  undoes := h
  settles text := by
    cases heq : decode? text with
    | none => rfl
    | some a => exact h a

/-! ## 1. Events -/

namespace Event

theorem exact_toJson (e : Event) : Exact e.toJson := by
  refine .object ?_
  cases e <;> simp [members]

theorem ofJson?_toJson (e : Event) : ofJson? e.toJson = some e := by
  cases e <;> rfl

end Event

/-! ## 2. Plain records -/

namespace Snapshot

theorem exact_toJson (s : Snapshot) : Exact s.toJson := by
  refine .object ?_
  cases s.status <;> simp [Status.toJson]

theorem ofJson?_toJson (s : Snapshot) : ofJson? s.toJson = some s := by
  obtain ⟨found, status, needsRestart, downloaded, skipped, failed, message⟩ := s
  cases status with
  | none => rfl
  | some status => cases status <;> rfl

end Snapshot

namespace InstallReceipt

theorem exact_toJson (r : InstallReceipt) : Exact r.toJson := by
  refine .object ?_
  simp

theorem ofJson?_toJson (r : InstallReceipt) : ofJson? r.toJson = some r :=
  rfl

end InstallReceipt

namespace Params

theorem exact_toJson (p : Params) : Exact p.toJson := by
  refine .object ?_
  simp

theorem ofJson?_toJson (p : Params) : ofJson? p.toJson = some p :=
  rfl

end Params

/-! ## 3. All of them -/

/-- A record whose JSON has no double, and whose JSON is read as the record again. -/
theorem RoundTrips.of_json {α : Type} {toJson : α → Json} {ofJson? : Json → Option α}
    (hexact : ∀ a, Exact (toJson a)) (hread : ∀ a, ofJson? (toJson a) = some a) :
    RoundTrips (fun a => (toJson a).write) (fun text => (Json.read? text).bind ofJson?) :=
  .of_undoes fun a => by simp [Json.read?_write (hexact a), hread a]

/-- **Decoding undoes encoding for every kind of record**, whatever its numbers and texts are. -/
theorem round_trips :
    RoundTrips Event.encode Event.decode? ∧ RoundTrips Snapshot.encode Snapshot.decode? ∧
      RoundTrips InstallReceipt.encode InstallReceipt.decode? ∧
      RoundTrips Params.encode Params.decode? := by
  refine ⟨?_, ?_, ?_, ?_⟩
  · exact .of_json Event.exact_toJson Event.ofJson?_toJson
  · exact .of_json Snapshot.exact_toJson Snapshot.ofJson?_toJson
  · exact .of_json InstallReceipt.exact_toJson InstallReceipt.ofJson?_toJson
  · exact .of_json Params.exact_toJson Params.ofJson?_toJson

end TaskWatch
