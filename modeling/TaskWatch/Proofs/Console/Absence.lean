/-
# A console without one of its calls

Whether a call has made a difference is a matter of two histories: the one that happened, and the
one in which nobody made the call.  `Console.without` takes a call out of a console: it is not
among the calls any more, and the later ones move up.  What can happen, and what is noted, moves up
with them (`Action.without?`, `Note.without?`).

As long as the call is not in the lock, this changes nothing for anybody else
(**`step_without`**): every step of the others is their step in the console without it as well,
with the same result and the same notes, and the clock is not held up where it was not before.
-/
import TaskWatch.Proofs.Console.Step

namespace TaskWatch

/-! ## 1. Moving up -/

namespace Console

/-- **The place of another call**, `j`, when the call `i` is taken out. -/
def place (i j : Nat) : Nat :=
  if j < i then j else j - 1

theorem place_inj {i j k : Nat} (hj : j ≠ i) (hk : k ≠ i) : place i j = place i k ↔ j = k := by
  unfold place
  split <;> split <;> omega

/-- Every place is left by some call. -/
theorem exists_place (i k : Nat) : ∃ j, j ≠ i ∧ place i j = k := by
  rcases Nat.lt_or_ge k i with hlt | hge
  · exact ⟨k, Nat.ne_of_lt hlt, if_pos hlt⟩
  · exact ⟨k + 1, by omega, if_neg (by omega)⟩

end Console

/-- What happens, without the steps of a call. -/
def Action.without? (i : Nat) : Action → Option Action
  | .call j news => if j = i then none else some (.call (Console.place i j) news)
  | .invoke op => some (.invoke op)
  | .run r => some (.run r)
  | .source r news => some (.source r news)
  | .elapse ms => some (.elapse ms)

/-- What is noted, without the requests of a call. -/
def Note.without? (i : Nat) : Note → Option Note
  | .launch j params => if j = i then none else some (.launch (Console.place i j) params)
  | .install j package => if j = i then none else some (.install (Console.place i j) package)
  | .ask r q => some (.ask r q)
  | .await r => some (.await r)
  | .remoteCancel r taskId => some (.remoteCancel r taskId)
  | .refresh r task => some (.refresh r task)

namespace Console

/-- **The console without a call.** -/
def without (i : Nat) (c : Console) : Console :=
  { c with calls := c.calls.eraseIdx i, lock := c.lock.map (place i) }

/-- A console and its notes, without a call. -/
def withoutBoth (i : Nat) (x : Console × List Note) : Console × List Note :=
  (x.1.without i, x.2.filterMap (Note.without? i))

variable {c c' : Console} {i j : Nat}

/-! ## 2. Steps of the other calls -/

theorem getElem?_calls_without (hj : j ≠ i) : (c.without i).calls[place i j]? = c.calls[j]? := by
  simp only [without, List.getElem?_eraseIdx, place]
  rcases Nat.lt_or_gt_of_ne hj with hlt | hgt
  · simp [hlt]
  · have hle : ¬ j < i := Nat.not_lt.mpr (Nat.le_of_lt hgt)
    have hpred : ¬ j - 1 < i := by omega
    have hsucc : j - 1 + 1 = j := by omega
    simp [hle, hpred, hsucc]

theorem setStage_without (hj : j ≠ i) (stage : CallStage) :
    (c.without i).setStage (place i j) stage = (c.setStage j stage).without i := by
  have hcalls : (c.calls.eraseIdx i).modify (place i j) (fun call => { call with stage }) =
      (c.calls.modify j fun call => { call with stage }).eraseIdx i := by
    unfold place
    rcases Nat.lt_or_gt_of_ne hj with hlt | hgt
    · rw [if_pos hlt, List.eraseIdx_modify_of_gt _ _ _ _ hlt]
    · rw [if_neg (by omega), List.eraseIdx_modify_of_lt _ _ _ _ hgt]
  simp only [setStage, without, hcalls]

theorem head?_lock_without (hi : i ∉ c.lock) (hj : j ≠ i) :
    (c.without i).lock.head? = some (place i j) ↔ c.lock.head? = some j := by
  simp only [without, List.head?_map]
  cases hl : c.lock.head? with
  | none => simp
  | some k =>
    have hk : k ≠ i := fun heq => hi (heq ▸ List.mem_of_head? hl)
    simp [place_inj hk hj]

theorem filter_lock_without (hi : i ∉ c.lock) (hj : j ≠ i) :
    (c.without i).lock.filter (· ≠ place i j) = (c.lock.filter (· ≠ j)).map (place i) := by
  simp only [without, List.filter_map]
  congr 1
  refine List.filter_congr fun k hk => ?_
  have hki : k ≠ i := fun heq => hi (heq ▸ hk)
  simp [place_inj hki hj]

/-- **The call leaves the lock.** -/
theorem leave_without (hi : i ∉ c.lock) (hj : j ≠ i) (stage : CallStage) :
    setStage { c.without i with lock := (c.without i).lock.filter (· ≠ place i j) }
        (place i j) stage =
      (setStage { c with lock := c.lock.filter (· ≠ j) } j stage).without i := by
  rw [filter_lock_without hi hj, ← setStage_without hj]
  rfl

theorem finish_without (hi : i ∉ c.lock) (hj : j ≠ i) (reply : Reply) :
    (c.without i).finish (place i j) reply = (c.finish j reply).without i :=
  leave_without hi hj _

theorem enqueue_without (hj : j ≠ i) (plan : Plan) :
    (c.without i).enqueue (place i j) plan = (c.enqueue j plan).without i := by
  simp only [enqueue, ← setStage_without hj]
  simp [without]

theorem carryOut_without (hi : i ∉ c.lock) (hj : j ≠ i) (plan : Plan) :
    (c.without i).carryOut (place i j) plan = (c.carryOut j plan).without i := by
  cases plan with
  | follow taskId =>
    let t := Tracker.streaming (.new taskId c.wall.stamp) c.settings.maxReattach
    exact finish_without (c := c.track t) hi hj _
  | followInstall receipt =>
    let t := Tracker.ofInstall (Task.new ("install-" ++ c.wall.millis) c.wall.stamp) receipt
    exact finish_without (c := c.track t) hi hj _
  | wipe => exact finish_without (c := c.publish .empty) hi hj _
  | cancel =>
    have hview : (c.without i).view = c.view := rfl
    simp only [carryOut, hview]
    split <;> exact finish_without hi hj _
  | attend => exact finish_without hi hj _

theorem takeUp_without (hi : i ∉ c.lock) (hj : j ≠ i) (plan : Plan) :
    (c.without i).takeUp (place i j) plan = (c.takeUp j plan).without i := by
  have hactive : (c.without i).active = c.active := rfl
  cases ha : c.active with
  | none =>
    cases plan with
    | cancel =>
      simp only [takeUp, hactive, ha]
      exact finish_without hi hj _
    | follow | followInstall | wipe | attend =>
      simp only [takeUp, hactive, ha]
      exact carryOut_without hi hj _
  | some r =>
    cases plan with
    | attend =>
      simp only [takeUp, hactive, ha]
      rw [← ha]
      exact leave_without hi hj _
    | cancel =>
      have hended : (c.without i).hasEnded r = c.hasEnded r := rfl
      have hview : (c.without i).view = c.view := rfl
      simp only [takeUp, hactive, ha, hended, hview]
      split
      · exact finish_without hi hj _
      · exact setStage_without (c := { c with runs := _, active := none }) hj _
    | follow | followInstall | wipe =>
      simp only [takeUp, hactive, ha]
      exact setStage_without (c := c.retire r) hj _

theorem begin_without (hj : j ≠ i) (op : Operation) :
    (c.without i).begin (place i j) op = withoutBoth i (c.begin j op) := by
  have hview : (c.without i).view = c.view := rfl
  cases op with
  | start params =>
    simp only [begin]
    split <;> simp [withoutBoth, setStage_without hj, Note.without?, hj]
  | install package => simp [begin, withoutBoth, setStage_without hj, Note.without?, hj]
  | cancel | clear | awaitFinished => simp [begin, withoutBoth, enqueue_without hj]
  | delete =>
    simp only [begin, hview]
    split
    · simp [withoutBoth, setStage_without hj]
    · split <;> simp [withoutBoth, setStage_without hj, enqueue_without hj]
  | awaitSettled => simp [begin, withoutBoth, setStage_without hj]

theorem answered_without (hj : j ≠ i) (news : CallNews) :
    (c.without i).answered (place i j) news = (c.answered j news).without i := by
  cases news with
  | launched result | installed result =>
    cases result with
    | error e => exact setStage_without hj _
    | ok value => exact enqueue_without hj _

/-- **A step of another call.** -/
theorem stepCall_without (hi : i ∉ c.lock) (hj : j ≠ i) (news : Option CallNews) :
    (c.without i).stepCall (place i j) news = (c.stepCall j news).map (withoutBoth i) := by
  have hview : (c.without i).view = c.view := rfl
  have hended : ∀ r, (c.without i).hasEnded r = c.hasEnded r := fun _ => rfl
  simp only [stepCall, getElem?_calls_without hj]
  cases c.calls[j]? with
  | none => rfl
  | some call =>
    obtain ⟨op, stage⟩ := call
    cases stage with
    | fresh => simp [begin_without hj]
    | asking =>
      cases op with
      | awaitSettled =>
        simp only [Option.bind_eq_bind, Option.bind_some, hview]
        split <;> simp [withoutBoth, setStage_without hj]
      | start params | install package =>
        rcases news with - | ⟨result⟩ | ⟨result⟩ <;> simp [withoutBoth, answered_without hj]
      | cancel | clear | delete | awaitFinished => rfl
    | inLine plan =>
      simp only [Option.bind_eq_bind, Option.bind_some, head?_lock_without hi hj]
      split <;> simp [withoutBoth, takeUp_without hi hj]
    | joining r plan =>
      simp only [Option.bind_eq_bind, Option.bind_some, hended]
      split <;> simp [withoutBoth, carryOut_without hi hj]
    | attending r =>
      simp only [Option.bind_eq_bind, Option.bind_some, hended]
      split <;> simp [withoutBoth, setStage_without hj]
    | done reply => rfl

/-! ## 3. Steps of a run -/

theorem acts_without (r : Nat) (as : List Run.Act) :
    (c.without i).acts r as = withoutBoth i (c.acts r as) := by
  induction as generalizing c with
  | nil => rfl
  | cons a as ih =>
    have hact : (c.without i).act r a = withoutBoth i (c.act r a) := by cases a <;> rfl
    simp only [acts, hact, withoutBoth, ih, List.filterMap_append]

theorem stepRun_without (r : Nat) :
    (c.without i).stepRun r = (c.stepRun r).map (withoutBoth i) := by
  have hruns : (c.without i).runs = c.runs := rfl
  simp only [stepRun, hruns]
  cases c.runs[r]? with
  | none => rfl
  | some run =>
    have hstep : run.step (c.without i).settings (c.without i).now = run.step c.settings c.now := rfl
    simp only [Option.bind_eq_bind, Option.bind_some, hstep]
    cases run.step c.settings c.now with
    | none => rfl
    | some x => exact congrArg some (acts_without (c := c.setRun r x.1) r x.2)

/-- The notes of a source are not a call's. -/
theorem noteOf?_without (r : Nat) (deeds : List Deed) :
    (deeds.filterMap (noteOf? r)).filterMap (Note.without? i) = deeds.filterMap (noteOf? r) := by
  have hsame : (fun deed => (noteOf? r deed).bind (Note.without? i)) = noteOf? r := by
    funext deed
    cases deed <;> rfl
  rw [List.filterMap_filterMap, hsame]

theorem stepSource_without (r : Nat) (news : Option News) :
    (c.without i).stepSource r news = (c.stepSource r news).map (withoutBoth i) := by
  have hruns : (c.without i).runs = c.runs := rfl
  simp only [stepSource, hruns]
  cases c.runs[r]? with
  | none => rfl
  | some run =>
    have hhear : run.hear (c.without i).now news = run.hear c.now news := rfl
    simp only [Option.bind_eq_bind, Option.bind_some, hhear]
    cases run.hear c.now news with
    | none => rfl
    | some x =>
      simp only [Option.bind_some, Option.map_some, withoutBoth, noteOf?_without]
      rfl

/-! ## 4. Steps of anybody else -/

/-- **The clock** is not held up without the call where it was not with it. -/
theorem isQuiet_without (hi : i ∉ c.lock) (hlt : i < c.calls.length) (h : c.isQuiet) :
    (c.without i).isQuiet := by
  simp only [isQuiet, Bool.and_eq_true, List.all_eq_true, List.mem_range,
    Option.isNone_iff_eq_none] at h ⊢
  refine ⟨fun k hk => ?_, fun r hr => ?_⟩
  · obtain ⟨j, hj, rfl⟩ := exists_place i k
    have hlt' : j < c.calls.length := by
      simp only [without, List.length_eraseIdx_of_lt hlt, place] at hk
      split at hk <;> omega
    rw [stepCall_without hi hj, h.1 j hlt']
    rfl
  · rw [stepRun_without, stepSource_without]
    simp [h.2 r hr]

/-- **A step of anybody else** is their step without the call as well. -/
theorem step_without (hi : i ∉ c.lock) (hlt : i < c.calls.length) {a a' : Action}
    (ha : a.without? i = some a') {notes : List Note} (h : c.step a = some (c', notes)) :
    (c.without i).step a' = some (withoutBoth i (c', notes)) := by
  cases a with
  | invoke op =>
    cases ha
    cases h
    simp [step, withoutBoth, without, List.eraseIdx_append_of_lt_length hlt]
  | call j news =>
    simp only [Action.without?, Option.ite_none_left_eq_some, Option.some.injEq] at ha
    obtain ⟨hj, rfl⟩ := ha
    have hstep : c.stepCall j news = some (c', notes) := h
    simp only [step, stepCall_without hi hj, hstep, Option.map_some]
  | run r =>
    cases ha
    have hstep : c.stepRun r = some (c', notes) := h
    simp only [step, stepRun_without, hstep, Option.map_some]
  | source r news =>
    cases ha
    have hstep : c.stepSource r news = some (c', notes) := h
    simp only [step, stepSource_without, hstep, Option.map_some]
  | elapse ms =>
    cases ha
    simp only [step, mayElapse, Option.ite_none_right_eq_some, Bool.and_eq_true] at h
    obtain ⟨⟨hquiet, hdue⟩, heq⟩ := h
    cases heq
    have hmay : (c.without i).mayElapse ms := by
      simp only [mayElapse, Bool.and_eq_true]
      exact ⟨isQuiet_without hi hlt hquiet, hdue⟩
    simp only [step, hmay, if_true]
    rfl

end Console

end TaskWatch
