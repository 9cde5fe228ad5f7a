/-
# What snapshots and receipts say

A snapshot and a receipt are read from a value that lists their members by name.  Here the names
stand as the server writes them, with the older ones that are understood too, and next to each name
the value that it gives; nothing is said about how a value is read.

* **`Snapshot.ofJson?_eq_some_iff`**: a value is read as a snapshot exactly if it says it.
* **`InstallReceipt.ofJson?_eq_some_iff`**: the same for a receipt.

So a value says at most one snapshot, and one that gives a name twice, gives a value of another
kind, or leaves out whether the task is known says none.
-/
import TaskWatch.Proofs.Json.Record
import TaskWatch.Wire.Snapshot

namespace TaskWatch

open Json (Field GivesOnce GivesOr LeavesOut Lists Members)

/-! ## 1. Statuses -/

/-- **The statuses and their names.** -/
def statusNames : List (String × Status) :=
  [("pending", .pending), ("running", .running), ("completed", .completed), ("failed", .failed),
    ("cancelled", .cancelled)]

theorem Status.ofName?_eq_some_iff {name : String} {s : Status} :
    ofName? name = some s ↔ (name, s) ∈ statusNames := by
  constructor
  · intro h
    unfold ofName? at h
    split at h <;> first | (cases h; decide) | cases h
  · intro h
    have hall : ∀ p ∈ statusNames, ofName? p.1 = some p.2 := by decide
    exact hall _ h

/-- **The value of a status.**  It stands for none, for a name, or for a name with a content, which
can only be empty. -/
inductive SaysStatus : Json → Option Status → Prop
  | null : SaysStatus .null none
  | name {name : String} {s : Status} (h : (name, s) ∈ statusNames) :
      SaysStatus (.string name) (some s)
  | variant {name : String} {s : Status} (h : (name, s) ∈ statusNames) :
      SaysStatus (.object [(name, .null)]) (some s)

theorem Status.ofJsonOrNull?_eq_some_iff {j : Json} {s : Option Status} :
    ofJsonOrNull? j = some s ↔ SaysStatus j s := by
  constructor
  · intro h
    unfold ofJsonOrNull? at h
    split at h
    · cases h
      exact .null
    · obtain ⟨s, hs, rfl⟩ := Option.map_eq_some_iff.mp h
      unfold ofJson? at hs
      split at hs
      · exact .name (ofName?_eq_some_iff.mp hs)
      · exact .variant (ofName?_eq_some_iff.mp hs)
      · cases hs
  · intro h
    cases h with
    | null => rfl
    | name h | variant h => simp [ofJsonOrNull?, ofJson?, ofName?_eq_some_iff.mpr h]

/-! ## 2. Snapshots -/

namespace Snapshot

/-- **Some members give a snapshot.** -/
structure GivenBy (ms : Members) (s : Snapshot) : Prop where
  found : GivesOnce ["found"] ms (.bool s.found)
  status : (∃ j, GivesOnce ["status"] ms j ∧ SaysStatus j s.status) ∨
    LeavesOut ["status"] ms ∧ s.status = none
  needsRestart : GivesOr ["needsRestart", "needs_restart", "need_restart"] ms (.bool false)
    (.bool s.needsRestart)
  downloaded : GivesOr ["downloaded"] ms (.natural 0) (.natural s.downloaded)
  skipped : GivesOr ["skipped"] ms (.natural 0) (.natural s.skipped)
  failed : GivesOr ["failed"] ms (.natural 0) (.natural s.failed)
  message : GivesOr ["message"] ms (.string "") (.string s.message)

/-- **A value says a snapshot.** -/
def SaidBy (j : Json) (s : Snapshot) : Prop :=
  ∃ ms, Lists ["found", "status", "needsRestart", "downloaded", "skipped", "failed", "message"] j
    ms ∧ GivenBy ms s

/-- **A value is read as a snapshot exactly if it says it.** -/
theorem ofJson?_eq_some_iff {j : Json} {s : Snapshot} : ofJson? j = some s ↔ SaidBy j s := by
  simp only [ofJson?, Option.bind_eq_bind, Option.bind_eq_some_iff, Option.pure_def,
    Option.some.injEq, Json.Layout.members?_eq_some_iff, Field.require?_eq_some_iff,
    Json.bool?_eq_some_iff, exists_eq_right, Field.read?_eq_some_iff,
    Status.ofJsonOrNull?_eq_some_iff, Field.flag?_eq_some_iff, Field.gives_bool_iff,
    Field.count?_eq_some_iff, Field.gives_natural_iff, Field.text?_eq_some_iff,
    Field.gives_string_iff]
  constructor
  · rintro ⟨ms, hms, found, hfound, status, hstatus, needsRestart, hneedsRestart, downloaded,
      hdownloaded, skipped, hskipped, failed, hfailed, message, hmessage, rfl⟩
    exact ⟨ms, hms, hfound, hstatus, hneedsRestart, hdownloaded, hskipped, hfailed, hmessage⟩
  · rintro ⟨ms, hms, h⟩
    exact ⟨ms, hms, _, h.found, _, h.status, _, h.needsRestart, _, h.downloaded, _, h.skipped, _,
      h.failed, _, h.message, rfl⟩

end Snapshot

/-! ## 3. Receipts -/

namespace InstallReceipt

/-- **Some members give a receipt.** -/
structure GivenBy (ms : Members) (r : InstallReceipt) : Prop where
  message : GivesOr ["message"] ms (.string "") (.string r.message)
  needRestart : GivesOr ["needRestart", "need_restart"] ms (.bool false) (.bool r.needRestart)
  autoRestart : GivesOr ["autoRestart", "auto_restart"] ms (.bool false) (.bool r.autoRestart)

/-- **A value says a receipt.** -/
def SaidBy (j : Json) (r : InstallReceipt) : Prop :=
  ∃ ms, Lists ["message", "needRestart", "autoRestart"] j ms ∧ GivenBy ms r

/-- **A value is read as a receipt exactly if it says it.** -/
theorem ofJson?_eq_some_iff {j : Json} {r : InstallReceipt} : ofJson? j = some r ↔ SaidBy j r := by
  simp only [ofJson?, Option.bind_eq_bind, Option.bind_eq_some_iff, Option.pure_def,
    Option.some.injEq, Json.Layout.members?_eq_some_iff, Field.flag?_eq_some_iff,
    Field.gives_bool_iff, Field.text?_eq_some_iff, Field.gives_string_iff]
  constructor
  · rintro ⟨ms, hms, message, hmessage, needRestart, hneedRestart, autoRestart, hautoRestart, rfl⟩
    exact ⟨ms, hms, hmessage, hneedRestart, hautoRestart⟩
  · rintro ⟨ms, hms, h⟩
    exact ⟨ms, hms, _, h.message, _, h.needRestart, _, h.autoRestart, rfl⟩

end InstallReceipt

end TaskWatch
