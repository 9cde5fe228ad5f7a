/-
# A task that the server does not start

`start` and `install` ask the server first.  Until it has agreed they stay out of the lock, and a
call out of the lock changes nothing but where it stands itself: the console goes on as it would
without it (`Absence`).  So the task that is tracked survives every refusal, whatever it is in the
middle of, and whoever else is at work.

* **`Course`** is what such a call goes through, told by the turns that it has taken and the
  answers that it has heard in them: what the server is asked, once or not at all, and what is
  replied.  `Course.step` follows it by a step.
* A call stands **aside** until it has been granted what it asked for.  It never comes back to
  that (`Course.isAside_of_append`), so a call that is refused has stood aside all the time.

**`refused_unnoticed`** puts both together.
-/
import Mathlib.Data.List.DropRight
import TaskWatch.Proofs.Console.Absence
import TaskWatch.Proofs.Console.History

namespace TaskWatch

/-! ## 1. What is sent -/

/-- **A text is trimmed once and for all.** -/
theorem Text.trim_trim (s : String) : trim (trim s) = trim s := by
  have hchars : ∀ cs, trimChars cs = (cs.dropWhile isBlank).rdropWhile isBlank := fun _ => rfl
  have hfront : ∀ cs : List Char, ((cs.dropWhile isBlank).rdropWhile isBlank).dropWhile isBlank =
      (cs.dropWhile isBlank).rdropWhile isBlank := by
    intro cs
    refine List.dropWhile_eq_self_iff.mpr fun hpos => ?_
    rw [(List.rdropWhile_prefix _ _).getElem hpos]
    exact List.dropWhile_eq_self_iff.mp (List.dropWhile_idempotent _ _) _
  simp only [trim, String.toList_ofList, hchars, hfront, List.rdropWhile_idempotent]

/-- **What is sent passes the same checks.** -/
theorem Params.validate_trimmed (p : Params) : p.trimmed.validate = p.validate := by
  simp only [validate, trimmed, Text.trim_trim]

namespace Operation

/-- The operations that ask the server first. -/
def asksServer : Operation → Bool
  | .start _ | .install _ => true
  | _ => false

/-- **What the server is asked** by a call, or why it is not asked.  `none`: an operation that has
no question for it. -/
def request? (i : Nat) : Operation → Option (Except TaskError Note)
  | .start params => some (params.validate.map fun _ => .launch i params.trimmed)
  | .install package => some (.ok (.install i package))
  | _ => none

/-- **What an answer of the server means**: how the call goes on, or why it does not. -/
def answer? : Operation → CallNews → Option (Except TaskError Plan)
  | .start _, .launched result => some (result.map .follow)
  | .install _, .installed result => some (result.map .followInstall)
  | _, _ => none

theorem isSome_request? {op : Operation} (h : op.asksServer) (i : Nat) :
    (op.request? i).isSome := by
  cases op with
  | start | install => rfl
  | cancel | clear | delete | awaitSettled | awaitFinished => cases h

end Operation

/-- **What a call replies** that was granted what it asked for. -/
def Plan.reply? : Plan → Option Reply
  | .follow taskId => some (.started taskId)
  | .followInstall receipt => some (.installed receipt)
  | _ => none

/-- Whoever was granted something has a reply to it. -/
theorem Operation.exists_reply_of_answer {op : Operation} {answer : CallNews} {plan : Plan}
    (h : op.answer? answer = some (.ok plan)) : ∃ reply, plan.reply? = some reply := by
  cases op with
  | start params | install package =>
    rcases answer with (e | value) | (e | value) <;> cases h
    exact ⟨_, rfl⟩
  | cancel | clear | delete | awaitSettled | awaitFinished => cases h

/-- The server is asked for a call. -/
def Note.requests (i : Nat) : Note → Bool
  | .launch j _ | .install j _ => j = i
  | _ => false

/-- A call at this stage has been refused, or has yet to be granted anything. -/
def CallStage.isAside : CallStage → Bool
  | .fresh | .asking | .done (.refused _) => true
  | _ => false

theorem Plan.not_isAside_of_reply {plan : Plan} {reply : Reply} (h : plan.reply? = some reply) :
    (CallStage.done reply).isAside = false := by
  cases plan with
  | follow | followInstall =>
    cases h
    rfl
  | wipe | cancel | attend => cases h

namespace Console

/-! ## 2. The course of a call -/

/-- The turns that a call takes, with the answers that it hears in them. -/
def turns (i : Nat) (as : List Action) : List (Option CallNews) :=
  as.filterMap fun
    | .call j news => if j = i then some news else none
    | _ => none

/-- What the server is asked for a call. -/
def asked (i : Nat) (notes : List Note) : List Note :=
  notes.filter (Note.requests i)

/-- **The course of a call that asks the server**: the turns that it has taken, where it stands,
and what the server was asked. -/
inductive Course (op : Operation) (i : Nat) : List (Option CallNews) → CallStage → List Note → Prop
  | fresh : Course op i [] .fresh []
  /-- The call is refused at once, and the server is not asked. -/
  | rejected {e : TaskError} (h : op.request? i = some (.error e)) (news : Option CallNews) :
      Course op i [news] (.done (.refused e)) []
  | asks {note : Note} (h : op.request? i = some (.ok note)) (news : Option CallNews) :
      Course op i [news] .asking [note]
  /-- The server refuses, and its error is the reply. -/
  | refused {note : Note} {e : TaskError} (h : op.request? i = some (.ok note))
      (news : Option CallNews) {answer : CallNews} (ha : op.answer? answer = some (.error e)) :
      Course op i [news, some answer] (.done (.refused e)) [note]
  /-- The server agrees, and in the end what it has said is the reply. -/
  | granted {note : Note} {plan : Plan} {reply : Reply} (h : op.request? i = some (.ok note))
      (news : Option CallNews) {answer : CallNews} (ha : op.answer? answer = some (.ok plan))
      (hreply : plan.reply? = some reply) (more : List (Option CallNews)) {stage : CallStage}
      (hs : stage = .inLine plan ∨ (∃ r, stage = .joining r plan) ∨ stage = .done reply) :
      Course op i (news :: some answer :: more) stage [note]

variable {settings : ConsoleSettings} {c c' : Console} {op : Operation} {i j : Nat}
  {ts : List (Option CallNews)} {stage : CallStage} {requests notes : List Note}

/-- A call that moves on. -/
theorem getElem?_calls_setStage (h : c.calls[i]? = some ⟨op, stage⟩) (stage' : CallStage) :
    (c.setStage i stage').calls[i]? = some ⟨op, stage'⟩ := by
  simp [setStage, h]

/-- **The first turn**, when there is nothing to ask. -/
theorem begin_of_rejected {e : TaskError} (h : op.request? i = some (.error e)) :
    c.begin i op = (c.setStage i (.done (.refused e)), []) := by
  cases op with
  | start params =>
    cases hv : params.validate with
    | error e' =>
      simp only [Operation.request?, hv, Except.map, Option.some.injEq, Except.error.injEq] at h
      simp [begin, Params.prepare, hv, bind, Except.bind, h]
    | ok u => simp [Operation.request?, hv, Except.map] at h
  | install | cancel | clear | delete | awaitSettled | awaitFinished => cases h

/-- **The first turn**, when the server is asked. -/
theorem begin_of_request {note : Note} (h : op.request? i = some (.ok note)) :
    c.begin i op = (c.setStage i .asking, [note]) := by
  cases op with
  | start params =>
    cases hv : params.validate with
    | error e => simp [Operation.request?, hv, Except.map] at h
    | ok u =>
      simp only [Operation.request?, hv, Except.map, Option.some.injEq, Except.ok.injEq] at h
      simp [begin, Params.prepare, hv, bind, Except.bind, pure, Except.pure, h]
  | install package =>
    cases h
    rfl
  | cancel | clear | delete | awaitSettled | awaitFinished => cases h

/-- **The turn in which the server's answer is heard.** -/
theorem answered_of_answer {answer : CallNews} :
    (∀ e, op.answer? answer = some (.error e) →
      c.answered i answer = c.setStage i (.done (.refused e))) ∧
    ∀ plan, op.answer? answer = some (.ok plan) → c.answered i answer = c.enqueue i plan := by
  cases op with
  | start params | install package =>
    rcases answer with (e | value) | (e | value) <;>
      simp [Operation.answer?, Except.map, answered]
  | cancel | clear | delete | awaitSettled | awaitFinished => simp [Operation.answer?]

/-- Until then the call does not go on. -/
theorem answer_of_stepCall {note : Note} {news : Option CallNews}
    (hr : op.request? i = some (.ok note)) (hi : c.calls[i]? = some ⟨op, .asking⟩)
    (hs : c.stepCall i news = some (c', notes)) :
    ∃ answer result, news = some answer ∧ op.answer? answer = some result ∧
      c.answered i answer = c' ∧ notes = [] := by
  cases op with
  | start params | install package =>
    rcases news with - | ⟨result⟩ | ⟨result⟩ <;> simp only [stepCall, hi] at hs <;> cases hs
    exact ⟨_, _, rfl, rfl, rfl, rfl⟩
  | cancel | clear | delete | awaitSettled | awaitFinished => cases hr

/-- The last turn. -/
theorem carryOut_of_reply {plan : Plan} {reply : Reply} (h : plan.reply? = some reply)
    (hi : c.calls[i]? = some ⟨op, stage⟩) :
    (c.carryOut i plan).calls[i]? = some ⟨op, .done reply⟩ := by
  cases plan with
  | follow taskId | followInstall receipt =>
    cases h
    exact getElem?_calls_setStage (c := { c.track _ with lock := c.lock.filter (· ≠ i) }) hi _
  | wipe | cancel | attend => cases h

/-- The first turn under the lock. -/
theorem takeUp_of_reply {plan : Plan} {reply : Reply} (h : plan.reply? = some reply)
    (hi : c.calls[i]? = some ⟨op, stage⟩) :
    (c.takeUp i plan).calls[i]? = some ⟨op, .done reply⟩ ∨
      ∃ r, (c.takeUp i plan).calls[i]? = some ⟨op, .joining r plan⟩ := by
  cases ha : c.active with
  | none =>
    refine .inl ?_
    rw [← carryOut_of_reply h hi]
    cases plan with
    | follow taskId | followInstall receipt => simp only [takeUp, ha]
    | wipe | cancel | attend => cases h
  | some r =>
    refine .inr ⟨r, ?_⟩
    rw [← getElem?_calls_setStage (c := c.retire r) hi]
    cases plan with
    | follow taskId | followInstall receipt => simp only [takeUp, ha]
    | wipe | cancel | attend => cases h

/-- A turn after the server has agreed. -/
theorem stepCall_of_reply {plan : Plan} {reply : Reply} (h : plan.reply? = some reply)
    (hi : c.calls[i]? = some ⟨op, stage⟩)
    (hstage : stage = .inLine plan ∨ (∃ r, stage = .joining r plan) ∨ stage = .done reply)
    {news : Option CallNews} (hs : c.stepCall i news = some (c', notes)) :
    notes = [] ∧ ∃ stage', c'.calls[i]? = some ⟨op, stage'⟩ ∧
      ((∃ r, stage' = .joining r plan) ∨ stage' = .done reply) := by
  simp only [stepCall, hi, Option.bind_eq_bind, Option.bind_some] at hs
  rcases hstage with rfl | ⟨r, rfl⟩ | rfl
  · simp only [Option.ite_none_right_eq_some, Option.some.injEq, Prod.mk.injEq] at hs
    obtain ⟨-, rfl, rfl⟩ := hs
    rcases takeUp_of_reply h hi with hdone | ⟨r, hjoins⟩
    · exact ⟨rfl, _, hdone, .inr rfl⟩
    · exact ⟨rfl, _, hjoins, .inl ⟨r, rfl⟩⟩
  · simp only [Option.ite_none_right_eq_some, Option.some.injEq, Prod.mk.injEq] at hs
    obtain ⟨-, rfl, rfl⟩ := hs
    exact ⟨rfl, _, carryOut_of_reply h hi, .inr rfl⟩
  · cases hs

namespace Course

/-- **A turn of the call.**  When it stands aside after it, nothing else has changed. -/
theorem step (h : Course op i ts stage requests) (hop : (op.request? i).isSome)
    (hi : c.calls[i]? = some ⟨op, stage⟩) {news : Option CallNews}
    (hs : c.stepCall i news = some (c', notes)) :
    ∃ stage', c'.calls[i]? = some ⟨op, stage'⟩ ∧
      Course op i (ts ++ [news]) stage' (requests ++ notes) ∧
      (stage'.isAside → c' = c.setStage i stage') := by
  cases h with
  | fresh =>
    obtain ⟨request, hrequest⟩ := Option.isSome_iff_exists.mp hop
    simp only [stepCall, hi, Option.bind_eq_bind, Option.bind_some] at hs
    cases request with
    | error e =>
      rw [begin_of_rejected hrequest] at hs
      cases hs
      exact ⟨_, getElem?_calls_setStage hi _, .rejected hrequest news, fun _ => rfl⟩
    | ok note =>
      rw [begin_of_request hrequest] at hs
      cases hs
      exact ⟨_, getElem?_calls_setStage hi _, .asks hrequest news, fun _ => rfl⟩
  | asks hrequest first =>
    obtain ⟨answer, result, rfl, ha, rfl, rfl⟩ := answer_of_stepCall hrequest hi hs
    cases result with
    | error e =>
      rw [answered_of_answer.1 e ha]
      exact ⟨_, getElem?_calls_setStage hi _, .refused hrequest first ha, fun _ => rfl⟩
    | ok plan =>
      obtain ⟨reply, hreply⟩ := Operation.exists_reply_of_answer ha
      rw [answered_of_answer.2 plan ha]
      have hi' := getElem?_calls_setStage (c := { c with lock := c.lock ++ [i] }) hi (.inLine plan)
      refine ⟨_, hi', .granted hrequest first ha hreply [] (.inl rfl), fun haside => ?_⟩
      cases haside
  | granted hrequest first ha hreply more hstage =>
    obtain ⟨rfl, stage', hi', hstage'⟩ := stepCall_of_reply hreply hi hstage hs
    refine ⟨stage', hi', .granted hrequest first ha hreply (more ++ [news]) (.inr hstage'), ?_⟩
    intro haside
    rcases hstage' with ⟨r, rfl⟩ | rfl
    · cases haside
    · simp [Plan.not_isAside_of_reply hreply] at haside
  | rejected | refused => simp [stepCall, hi] at hs

/-- **Who stands aside has always done so.** -/
theorem isAside_of_append (h : Course op i ts stage requests) {more : List (Option CallNews)}
    {stage' : CallStage} {requests' : List Note} (h' : Course op i (ts ++ more) stage' requests')
    (haside : stage'.isAside) : stage.isAside := by
  cases h with
  | fresh | rejected | asks | refused => rfl
  | granted hrequest first ha hreply rest hstage =>
    rename_i note plan reply answer
    -- the second turn is still the one in which the server agreed
    generalize hts : first :: some answer :: rest ++ more = ts' at h'
    cases h' with
    | fresh | rejected | asks => simp at hts
    | refused hrequest' first' ha' =>
      simp only [List.cons_append, List.cons.injEq, Option.some.injEq] at hts
      obtain ⟨-, rfl, -⟩ := hts
      cases ha.symm.trans ha'
    | granted hrequest' first' ha' hreply' rest' hstage' =>
      rcases hstage' with rfl | ⟨r, rfl⟩ | rfl
      · cases haside
      · cases haside
      · simp [Plan.not_isAside_of_reply hreply'] at haside

end Course

/-! ## 3. The others -/

/-- What is taken out with a call: what the server is asked for it. -/
theorem without?_eq_none_iff {note : Note} : note.without? i = none ↔ note.requests i := by
  cases note <;> simp [Note.without?, Note.requests]

/-- A call asks for itself. -/
theorem requests_of_begin (c : Console) (i : Nat) (op : Operation) :
    ∀ note ∈ (c.begin i op).2, note.requests i := by
  cases op with
  | start params =>
    simp only [begin]
    split <;> simp [Note.requests]
  | install package => simp [begin, Note.requests]
  | delete =>
    simp only [begin]
    split
    · simp
    · split <;> simp
  | cancel | clear | awaitSettled | awaitFinished => simp [begin]

theorem requests_of_stepCall {news : Option CallNews}
    (h : c.stepCall j news = some (c', notes)) : ∀ note ∈ notes, note.requests j := by
  simp only [stepCall, Option.bind_eq_bind, Option.bind_eq_some_iff] at h
  obtain ⟨call, -, h⟩ := h
  split at h
  · have heq : (c.begin j call.operation).2 = notes := congrArg Prod.snd (Option.some.inj h)
    rw [← heq]
    exact c.requests_of_begin j call.operation
  all_goals
    try split at h
    all_goals cases h <;> simp

/-- **Nobody else moves a call.** -/
theorem Step.getElem?_calls {a : Action} (h : Step c a c' notes) (ha : ∀ news, a ≠ .call i news)
    (hi : i < c.calls.length) : c'.calls[i]? = c.calls[i]? := by
  have hset : ∀ {c₁ : Console} {k : Nat} {news : Option CallNews} (stage : CallStage),
      Action.call k news = a → c₁.calls = c.calls →
        (c₁.setStage k stage).calls[i]? = c.calls[i]? := by
    intro c₁ k news stage hk hcalls
    have hne : k ≠ i := by
      rintro rfl
      exact ha news hk.symm
    simp [setStage, hcalls, hne]
  cases h with
  | invokes => exact List.getElem?_append_left hi
  | elapses | hears => rfl
  | runs hr hs =>
    obtain ⟨view, revision, heq⟩ := acts_keeps (c.setRun _ _) _ _
    rw [heq]
    rfl
  | _ => exact hset _ rfl rfl

/-- The acts of a run ask for no call. -/
theorem not_requests_of_acts (c : Console) (r : Nat) (as : List Run.Act) :
    ∀ note ∈ (c.acts r as).2, note.requests i = false := by
  induction as generalizing c with
  | nil => simp [acts]
  | cons a as ih =>
    have ha : ∀ note ∈ (c.act r a).2, note.requests i = false := by
      cases a <;> simp [act, Note.requests]
    intro note hn
    rcases List.mem_append.mp hn with hfirst | hrest
    · exact ha note hfirst
    · exact ih _ note hrest

/-- **Nobody else asks for it.** -/
theorem asked_of_step {a : Action} (h : c.step a = some (c', notes))
    (ha : ∀ news, a ≠ .call i news) : asked i notes = [] := by
  refine List.filter_eq_nil_iff.mpr fun note hn => ?_
  cases a with
  | call j news =>
    have hj := requests_of_stepCall h note hn
    have hne : j ≠ i := by
      rintro rfl
      exact ha news rfl
    cases note <;> simp_all [Note.requests]
  | run r =>
    cases step_cases h with
    | runs => simp [not_requests_of_acts _ _ _ note hn]
  | source r news =>
    cases step_cases h with
    | hears =>
      obtain ⟨deed, -, hdeed⟩ := List.mem_filterMap.mp hn
      cases deed <;> cases hdeed <;> simp [Note.requests]
  | invoke op | elapse ms =>
    cases step_cases h
    cases hn

/-! ## 4. Without the call -/

/-- **A step of anybody**, followed by a call: where it stands after it, and, if it stands aside
there, what the step is without it. -/
theorem Course.step_any (h : Course op i ts stage requests) (hc : c.Guarded settings)
    (hop : (op.request? i).isSome) (hi : c.calls[i]? = some ⟨op, stage⟩) {a : Action}
    (hs : c.step a = some (c', notes)) :
    ∃ stage', c'.calls[i]? = some ⟨op, stage'⟩ ∧
      Course op i (ts ++ turns i [a]) stage' (requests ++ asked i notes) ∧
      (stage'.isAside →
        (c.without i).steps ([a].filterMap (Action.without? i)) =
          some (c'.without i, notes.filterMap (Note.without? i))) := by
  have hlt := (List.getElem?_eq_some_iff.mp hi).1
  by_cases ha : ∃ news, a = .call i news
  · obtain ⟨news, rfl⟩ := ha
    obtain ⟨stage', hi', h', hsame⟩ := h.step hop hi hs
    have hown := requests_of_stepCall hs
    have hasked : asked i notes = notes := List.filter_eq_self.mpr hown
    refine ⟨stage', hi', by simpa [turns, hasked] using h', fun haside => ?_⟩
    have hnone : notes.filterMap (Note.without? i) = [] :=
      List.filterMap_eq_nil_iff.mpr fun note hn => without?_eq_none_iff.mpr (hown note hn)
    have hwithout : (c.setStage i stage').without i = c.without i := by
      simp [without, setStage, List.eraseIdx_modify_of_eq]
    rw [hsame haside, hwithout, hnone]
    simp [Action.without?, steps]
  · have ha : ∀ news, a ≠ .call i news := fun news heq => ha ⟨news, heq⟩
    have hturns : turns i [a] = [] := by
      cases a with
      | call j news =>
        have hne : j ≠ i := by
          rintro rfl
          exact ha news rfl
        simp [turns, hne]
      | invoke | run | source | elapse => rfl
    obtain ⟨a', ha'⟩ : ∃ a', a.without? i = some a' := by
      cases a with
      | call j news =>
        have hne : j ≠ i := by
          rintro rfl
          exact ha news rfl
        exact ⟨.call (place i j) news, by simp [Action.without?, hne]⟩
      | invoke | run | source | elapse => exact ⟨_, rfl⟩
    refine ⟨stage, ((step_cases hs).getElem?_calls ha hlt).trans hi, ?_, fun haside => ?_⟩
    · simpa [hturns, asked_of_step hs ha] using h
    · have hstage : c.stage? i = some stage := by simp [stage?, hi]
      have hout : stage.isInLine = false := by
        cases stage with
        | inLine | joining => cases haside
        | fresh | asking | attending | done => rfl
      have hstep := step_without (hc.not_mem hstage hout) hlt ha' hs
      have hnil : (c'.without i).steps [] = some (c'.without i, []) := rfl
      simpa [ha', withoutBoth] using steps_of_step hstep hnil

/-- **So it is of any sequence of steps.** -/
theorem Course.steps_any (h : Course op i ts stage requests) (hc : c.Guarded settings)
    (hop : (op.request? i).isSome) (hi : c.calls[i]? = some ⟨op, stage⟩) {as : List Action}
    (hs : c.steps as = some (c', notes)) :
    ∃ stage', c'.calls[i]? = some ⟨op, stage'⟩ ∧
      Course op i (ts ++ turns i as) stage' (requests ++ asked i notes) ∧
      (stage'.isAside →
        (c.without i).steps (as.filterMap (Action.without? i)) =
          some (c'.without i, notes.filterMap (Note.without? i))) := by
  induction as generalizing c ts stage requests notes with
  | nil =>
    cases hs
    exact ⟨stage, hi, by simpa [turns, asked] using h, fun _ => rfl⟩
  | cons a as ih =>
    obtain ⟨c₁, first, rest, hfirst, hrest, rfl⟩ := step_of_steps_cons hs
    obtain ⟨stage₁, hi₁, h₁, hsame₁⟩ := h.step_any hc hop hi hfirst
    obtain ⟨stage', hi', h', hsame⟩ := ih h₁ ((step_cases hfirst).guarded hc) hi₁ hrest
    have hturns : turns i (a :: as) = turns i [a] ++ turns i as := List.filterMap_append (l := [a])
    refine ⟨stage', hi', ?_, fun haside => ?_⟩
    · simpa [hturns, asked] using h'
    · have haside₁ := h₁.isAside_of_append h' haside
      have hactions : (a :: as).filterMap (Action.without? i) =
          [a].filterMap (Action.without? i) ++ as.filterMap (Action.without? i) :=
        List.filterMap_append (l := [a])
      rw [hactions, List.filterMap_append]
      exact steps_append (hsame₁ haside₁) (hsame haside)

/-- **A call that asks the server**, made in the console `c`: since then there were the steps `as`
with their notes, the console is `c'`, and the call stands at `stage`. -/
structure Submitted (c : Console) (op : Operation) (as : List Action) (c' : Console)
    (notes : List Note) (stage : CallStage) : Prop where
  stands : c'.stage? c.calls.length = some stage
  /-- What it was asked and answered, and what it replies. -/
  course : Course op c.calls.length (turns c.calls.length as) stage (asked c.calls.length notes)
  /-- It never waits to ask, or to go on with the answer. -/
  goesOn : ∀ news, stage = .fresh ∨ (stage = .asking ∧ (news.bind op.answer?).isSome) →
    (c'.step (.call c.calls.length news)).isSome
  /-- Refused, or not granted yet, it has made no difference: without it the others take the same
  steps, with the same notes, and come to the same console, with the same picture, the same run
  tracked and all runs as they are, their sources, their queues and their refreshes to come. -/
  unnoticed : stage.isAside →
    c.steps (as.filterMap (Action.without? c.calls.length)) =
      some (c'.without c.calls.length, notes.filterMap (Note.without? c.calls.length))

/-- The console before a call, and the one without it. -/
theorem without_invoke (hq : c.Queued) (op : Operation) :
    without c.calls.length { c with calls := c.calls ++ [{ operation := op }] } = c := by
  have hlock : c.lock.map (place c.calls.length) = c.lock := by
    refine (List.map_congr_left fun j hj => ?_).trans (List.map_id _)
    obtain ⟨stage, hstage, -⟩ := hq.inLine j hj
    obtain ⟨call, hcall, -⟩ := Option.map_eq_some_iff.mp hstage
    exact if_pos (List.getElem?_eq_some_iff.mp hcall).1
  simp [without, hlock, List.eraseIdx_append_of_length_le]

/-- A call that has got its answer goes on. -/
theorem isSome_step_of_answer (hi : c.calls[i]? = some ⟨op, .asking⟩) {answer : CallNews}
    (ha : (op.answer? answer).isSome) : (c.step (.call i (some answer))).isSome := by
  cases op with
  | start | install =>
    cases answer <;> simp only [Operation.answer?, Option.isSome_none, Bool.false_eq_true] at ha
    simp [step, stepCall, hi]
  | cancel | clear | delete | awaitSettled | awaitFinished => cases ha

/-- **A task that the server does not start leaves no trace**, whatever is tracked when it is asked
and whatever goes on in the meantime.  The server is asked once, or not at all if the console finds
the fault itself, and its answer is the reply; what it is asked passes the checks of the console. -/
theorem refused_unnoticed {wall : WallClock} (h : Reachable settings wall c)
    (hop : op.asksServer) {as : List Action}
    (hs : c.steps (.invoke op :: as) = some (c', notes)) :
    (∃ stage, Submitted c op as c' notes stage) ∧
      ∀ params, op = .start params → params.trimmed.validate = params.validate := by
  refine ⟨?_, fun params _ => params.validate_trimmed⟩
  have hc := guarded_of_reachable h
  have hop := op.isSome_request? hop c.calls.length
  obtain ⟨c₁, first, rest, hfirst, hrest, rfl⟩ := step_of_steps_cons hs
  have hc₁ := (step_cases hfirst).guarded hc
  cases hfirst
  obtain ⟨stage, hi, hcourse, hsame⟩ :=
    Course.fresh.steps_any hc₁ hop (List.getElem?_concat_length ..) hrest
  rw [without_invoke hc.toQueued] at hsame
  refine ⟨stage, by simp [stage?, hi], hcourse, fun news hgo => ?_, hsame⟩
  rcases hgo with rfl | ⟨rfl, hanswer⟩
  · simp [step, stepCall, hi]
  · cases news with
    | none => cases hanswer
    | some answer => exact isSome_step_of_answer hi hanswer

/-- The server cannot be reached to start a task, while it restarts after an installation.  The
run that watches the restart has taken its steps in the meantime, as it would have without the
call. -/
theorem refused_unnoticed_of_timeout :
    let receipt : InstallReceipt := { needRestart := true, autoRestart := true }
    let params : Params := { repoUrl := "\t http://[::]\u3000", fullReplace := true }
    let sent : Params := { repoUrl := "http://[::]", fullReplace := true }
    let before : List Action :=
      [.invoke (.install ⟨"a.zip", []⟩), .call 0 none, .call 0 (some (.installed (.ok receipt))),
        .call 0 none]
    let e : TaskError := .transport .timeout
    let as : List Action :=
      [.call 1 none, .run 0, .call 1 (some (.launched (.error e))), .run 0, .source 0 none]
    let start := Run.start (.ofInstall (.new "install-7" "") receipt)
    let c : Console :=
      { settings := {}, wall := ⟨"", "7"⟩, view := start.2, revision := 1, runs := [start.1]
        active := some 0, calls := [⟨.install ⟨"a.zip", []⟩, .done (.installed receipt)⟩] }
    ∃ notes c' later, (new {} ⟨"", "7"⟩).steps before = some (c, notes) ∧
      c.steps (.invoke (.start params) :: as) = some (c', later) ∧
      c'.stage? 1 = some (.done (.refused e)) ∧ asked 1 later = [.launch 1 sent] ∧
      c'.active = some 0 ∧
      c.steps [.run 0, .run 0, .source 0 none] =
        some (c'.without 1, later.filterMap (Note.without? 1)) ∧
      sent.validate = params.validate := by
  intro receipt params sent before e as start c
  -- reading the address takes long, so it is done once, and not again with the steps
  have hprepare : params.prepare = .ok sent := by
    have hok : params.prepare.toOption = some sent := by decide +kernel
    generalize params.prepare = prepared at hok
    cases prepared with
    | ok p => exact congrArg Except.ok (Option.some.inj hok)
    | error e => cases hok
  have hasks : step { c with calls := c.calls ++ [⟨.start params, .fresh⟩] } (.call 1 none) =
      some ({ c with calls := c.calls ++ [⟨.start params, .asking⟩] }, [.launch 1 sent]) := by
    simp [step, stepCall, begin, hprepare, setStage, c]
  have hbefore : (new {} ⟨"", "7"⟩).steps before = some (c, _) := rfl
  have hafter : c.steps (.invoke (.start params) :: as) = some (_, _) :=
    steps_of_step rfl (steps_of_step hasks rfl)
  obtain ⟨⟨stage, hsubmitted⟩, hparams⟩ := refused_unnoticed ⟨before, _, hbefore⟩ rfl hafter
  have hvalid := hparams params rfl
  rw [show params.trimmed = sent by decide] at hvalid
  have hstage := hsubmitted.stands
  cases hstage
  exact ⟨_, _, _, hbefore, hafter, rfl, rfl, rfl, hsubmitted.unnoticed rfl, hvalid⟩

end Console

end TaskWatch
