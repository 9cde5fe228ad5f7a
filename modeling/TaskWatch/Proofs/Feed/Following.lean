/-
# What a page is told

A feed shows the newest picture and no queue of old ones, keeps a few notices, and waits while the
page does not read.  What reaches the page then depends on the order of the steps, but not in what
matters to it: it sees no picture out of turn, it is not left with an old one, and it hears of
every refresh unless too many of them pile up.

The proof compares a feed with the steps before it.  **`Changes`** lists what one step does.  Two
invariants follow it, one for each source: **`Pictured`** has the pictures that are shown and, at
their end, those that the feed has yet to look at; **`Noticed`** has the notices that are told and,
at their end, those that wait.  A third one, **`Paged`**, follows a frame until the page reads it.
**`followed_of_steps`** puts them together, for every sequence of steps.
-/
import Mathlib.Data.List.DropRight
import TaskWatch.Feed

namespace TaskWatch

/-- The picture of a frame that shows one. -/
def Frame.view? : Frame → Option View
  | .state v => some v
  | .refresh _ => none

/-- The task of a frame that tells the page to refresh. -/
def Frame.refreshed? : Frame → Option String
  | .state _ => none
  | .refresh taskId => some taskId

namespace Feed

/-! ## 1. Steps and frames read off -/

namespace Move

/-- The picture that is published in a step. -/
def published? : Move → Option View
  | .publish v => some v
  | _ => none

/-- The notice that is given in a step. -/
def notified? : Move → Option String
  | .notify taskId => some taskId
  | _ => none

/-- The feed looks at the newest picture. -/
def looks : Move → Bool
  | .begin | .takeView => true
  | _ => false

end Move

/-- The pictures that are published in some steps. -/
def published (moves : List Move) : List View :=
  moves.filterMap Move.published?

/-- The notices that are given in some steps. -/
def notified (moves : List Move) : List String :=
  moves.filterMap Move.notified?

/-- **The pictures that are published after the last look** at one. -/
def unlooked (moves : List Move) : List View :=
  published (moves.rtakeWhile fun m => !m.looks)

/-- The pictures of some frames. -/
def views (frames : List Frame) : List View :=
  frames.filterMap Frame.view?

/-- The notices of some frames. -/
def refreshed (frames : List Frame) : List String :=
  frames.filterMap Frame.refreshed?

section Append

variable (moves moves' : List Move) (frames frames' : List Frame)

@[simp] theorem published_append :
    published (moves ++ moves') = published moves ++ published moves' :=
  List.filterMap_append

@[simp] theorem notified_append : notified (moves ++ moves') = notified moves ++ notified moves' :=
  List.filterMap_append

@[simp] theorem views_append : views (frames ++ frames') = views frames ++ views frames' :=
  List.filterMap_append

@[simp] theorem refreshed_append :
    refreshed (frames ++ frames') = refreshed frames ++ refreshed frames' :=
  List.filterMap_append

theorem unlooked_concat (m : Move) :
    unlooked (moves ++ [m]) = if m.looks then [] else unlooked moves ++ published [m] := by
  unfold unlooked
  cases hm : m.looks with
  | true => rw [List.rtakeWhile_concat_neg _ _ _ (by simp [hm])]; rfl
  | false => rw [List.rtakeWhile_concat_pos _ _ _ (by simp [hm])]; simp

end Append

/-- The frame that waits for room in the buffer. -/
def held (f : Feed) : List Frame :=
  match f.stage with
  | .holding frame => [frame]
  | _ => []

/-- The frame that the page reads in a step. -/
def read? (f : Feed) : Move → Option Frame
  | .read => f.buffer.head?
  | _ => none

/-- **The frames that the page reads** in a sequence of steps. -/
def received (f : Feed) : List Move → List Frame
  | [] => []
  | m :: moves =>
    match f.step m with
    | some (g, _) => (f.read? m).toList ++ g.received moves
    | none => []

/-! ## 2. Steps -/

variable {f g : Feed} {m : Move} {out : Option Frame}

/-- **What one step can be**, and the frame that the feed produces in it. -/
inductive Changes (f : Feed) : Move → Feed → Option Frame → Prop
  | publish {v : View} : Changes f (.publish v) { f with view := v, unseen := true } none
  | notify {taskId : String} : Changes f (.notify taskId) (f.enqueue taskId) none
  | closeViews : Changes f .closeViews { f with viewsOpen := false } none
  | closeNotices : Changes f .closeNotices { f with noticesOpen := false } none
  | leave : Changes f .leave { f with abandoned := true, buffer := [] } none
  | read {frame : Frame} {rest : List Frame} (hb : f.buffer = frame :: rest) :
      Changes f .read { f with buffer := rest } none
  | begin (hs : f.stage = .fresh) :
      Changes f .begin { f with unseen := false, stage := .holding (.state f.view) }
        (some (.state f.view))
  | takeView (hs : f.stage = .watching) (hu : f.unseen) :
      Changes f .takeView { f with unseen := false, stage := .holding (.state f.view) }
        (some (.state f.view))
  | takeNotice {taskId : String} {rest : List String} (hs : f.stage = .watching)
      (hn : f.notices = taskId :: rest) :
      Changes f .takeNotice { f with notices := rest, stage := .holding (.refresh taskId) }
        (some (.refresh taskId))
  | deliver {frame : Frame} (hs : f.stage = .holding frame) (ha : f.abandoned = false)
      (hroom : f.buffer.length < room) :
      Changes f .deliver { f with buffer := f.buffer ++ [frame], stage := .watching } none
  /-- The feed ends; a frame that waits is lost only when the page has left. -/
  | stop (hs : f.stage ≠ .fresh) (hlost : f.held = [] ∨ f.abandoned) :
      Changes f .stop { f with stage := .ended } none

/-- **Every step is one of the list.** -/
theorem changes_of_step (h : f.step m = some (g, out)) : Changes f m g out := by
  cases m with
  | publish v | notify taskId =>
    simp only [step, Option.ite_none_right_eq_some, Option.some.injEq, Prod.mk.injEq] at h
    obtain ⟨-, rfl, rfl⟩ := h
    constructor
  | closeViews | closeNotices | leave =>
    cases h
    constructor
  | read =>
    simp only [step] at h
    split at h
    · cases h
    · rename_i frame rest hb
      cases h
      exact .read hb
  | begin =>
    simp only [step] at h
    split at h
    · rename_i hs
      cases h
      exact .begin hs
    · cases h
  | takeView =>
    simp only [step] at h
    split at h
    · rename_i hs hu
      cases h
      exact .takeView hs hu
    · cases h
  | takeNotice =>
    simp only [step] at h
    split at h
    · rename_i taskId rest hs hn
      cases h
      exact .takeNotice hs hn
    · cases h
  | deliver =>
    simp only [step] at h
    split at h
    · rename_i frame hs
      simp only [Option.ite_none_right_eq_some, Bool.and_eq_true, Bool.not_eq_true',
        decide_eq_true_eq, Option.some.injEq, Prod.mk.injEq] at h
      obtain ⟨⟨ha, hroom⟩, rfl, rfl⟩ := h
      exact .deliver hs ha hroom
    · cases h
  | stop =>
    simp only [step] at h
    split at h
    · rename_i hs
      simp only [Option.ite_none_right_eq_some, Option.some.injEq, Prod.mk.injEq] at h
      obtain ⟨-, rfl, rfl⟩ := h
      exact .stop (by simp [hs]) (.inl (by simp [held, hs]))
    · rename_i frame hs
      simp only [Option.ite_none_right_eq_some, Option.some.injEq, Prod.mk.injEq] at h
      obtain ⟨ha, rfl, rfl⟩ := h
      exact .stop (by simp [hs]) (.inr ha)
    · cases h

variable {moves : List Move} {frames : List Frame}

/-- **The last of some steps.** -/
theorem steps_concat (h : f.steps (moves ++ [m]) = some (g, frames)) :
    ∃ f₁ before out, f.steps moves = some (f₁, before) ∧ f₁.step m = some (g, out) ∧
      frames = before ++ out.toList ∧
      f.received (moves ++ [m]) = f.received moves ++ (f₁.read? m).toList := by
  induction moves generalizing f frames with
  | nil =>
    simp only [List.nil_append, steps, Option.bind_eq_bind, Option.bind_eq_some_iff] at h
    obtain ⟨⟨f₁, out⟩, hstep, ⟨g', rest⟩, hnil, heq⟩ := h
    cases hnil
    cases heq
    exact ⟨f, [], out, rfl, hstep, by simp, by simp [received, hstep]⟩
  | cons n moves ih =>
    simp only [List.cons_append, steps, Option.bind_eq_bind, Option.bind_eq_some_iff] at h
    obtain ⟨⟨f₀, first⟩, hfirst, ⟨g', rest⟩, hrest, heq⟩ := h
    cases heq
    obtain ⟨f₁, before, out, hbefore, hstep, rfl, hread⟩ := ih hrest
    exact ⟨f₁, first.toList ++ before, out, by simp [steps, hfirst, hbefore], hstep, by simp,
      by simp [received, hfirst, hread]⟩

/-- **What holds at first and is kept by every step** holds after every sequence of them. -/
theorem steps_keep {P : List Move → Feed → List Frame → List Frame → Prop} (hnil : P [] f [] [])
    (hstep : ∀ moves f₁ frames read m g out, f.steps moves = some (f₁, frames) →
      P moves f₁ frames read → f₁.step m = some (g, out) →
      P (moves ++ [m]) g (frames ++ out.toList) (read ++ (f₁.read? m).toList))
    (h : f.steps moves = some (g, frames)) : P moves g frames (f.received moves) := by
  induction moves using List.reverseRecOn generalizing g frames with
  | nil =>
    cases h
    exact hnil
  | append_singleton moves m ih =>
    obtain ⟨f₁, before, out, hbefore, hlast, rfl, hread⟩ := steps_concat h
    rw [hread]
    exact hstep moves f₁ before _ m g out hbefore (ih hbefore) hlast

/-! ## 3. The pictures -/

variable {v : View}

/-- **What a feed has shown since its first look**: the picture of that moment, and then pictures
that were published after it.  With those that it has yet to look at they end in the newest one. -/
def Shown (v : View) (moves : List Move) (f : Feed) (frames : List Frame) : Prop :=
  ∃ before after rest, moves = before ++ .begin :: after ∧
    frames = .state ((published before).getLastD v) :: rest ∧
    (views rest ++ unlooked moves).Sublist (published after) ∧
    (views frames ++ unlooked moves).getLast? = some f.view

/-- **The pictures of a feed** that was opened on the picture `v`. -/
structure Pictured (v : View) (moves : List Move) (f : Feed) (frames : List Frame) : Prop where
  newest : f.view = (published moves).getLastD v
  unseen : f.unseen ↔ unlooked moves ≠ []
  shown : f.stage = .fresh ∧ frames = [] ∨ f.stage ≠ .fresh ∧ Shown v moves f frames

namespace Pictured

theorem opening (capacity : Nat) (v : View) : Pictured v [] (opening capacity v) [] where
  newest := rfl
  unseen := by simp [Feed.opening, unlooked, published]
  shown := .inl ⟨rfl, rfl⟩

/-- A step that has nothing to do with pictures. -/
theorem aside (h : Pictured v moves f frames) (hm : m.published? = none) (hl : m.looks = false)
    (hv : g.view = f.view) (hu : g.unseen = f.unseen) (hout : views out.toList = [])
    (hfresh : f.stage = .fresh → g.stage = .fresh ∧ out = none)
    (hopen : f.stage ≠ .fresh → g.stage ≠ .fresh) :
    Pictured v (moves ++ [m]) g (frames ++ out.toList) := by
  have hpub : published [m] = [] := by simp [published, hm]
  have hun : unlooked (moves ++ [m]) = unlooked moves := by simp [unlooked_concat, hl, hpub]
  refine ⟨by simp [hv, h.newest, hpub], by rw [hu, hun, h.unseen], ?_⟩
  rcases h.shown with ⟨hf, rfl⟩ | ⟨hf, before, after, rest, hmoves, hframes, hsub, hlast⟩
  · obtain ⟨hg, rfl⟩ := hfresh hf
    exact .inl ⟨hg, rfl⟩
  · refine .inr ⟨hopen hf, before, after ++ [m], rest ++ out.toList, by simp [hmoves],
      by simp [hframes], ?_, ?_⟩
    · simpa [hun, hout, hpub] using hsub
    · simpa [hun, hout, hv] using hlast

/-- A picture is published. -/
theorem publish (h : Pictured v moves f frames) (w : View) :
    Pictured v (moves ++ [.publish w]) { f with view := w, unseen := true } frames := by
  have hun : unlooked (moves ++ [.publish w]) = unlooked moves ++ [w] := unlooked_concat ..
  refine ⟨by simp [published, Move.published?], by simp [hun], ?_⟩
  rcases h.shown with hf | ⟨hf, before, after, rest, hmoves, hframes, hsub, -⟩
  · exact .inl hf
  · refine .inr ⟨hf, before, after ++ [.publish w], rest, by simp [hmoves], hframes, ?_, ?_⟩
    · rw [hun, ← List.append_assoc, published_append]
      exact hsub.append (List.Sublist.refl [w])
    · rw [hun, ← List.append_assoc, List.getLast?_concat]

/-- The feed looks for the first time. -/
theorem begin (h : Pictured v moves f frames) (hs : f.stage = .fresh) :
    Pictured v (moves ++ [.begin])
      { f with unseen := false, stage := .holding (.state f.view) }
      (frames ++ [.state f.view]) := by
  have hun : unlooked (moves ++ [.begin]) = [] := unlooked_concat ..
  refine ⟨by simp [h.newest, published, Move.published?], by simp [hun], .inr ⟨nofun, ?_⟩⟩
  rcases h.shown with ⟨-, rfl⟩ | ⟨hf, -⟩
  · refine ⟨moves, [], [], rfl, by simp [h.newest], by simp [hun, views, published], ?_⟩
    simp [hun, views, Frame.view?]
  · exact absurd hs hf

/-- **The feed looks at a new picture**: of those that it has not looked at, the last. -/
theorem takeView (h : Pictured v moves f frames) (hs : f.stage = .watching) (hu : f.unseen) :
    Pictured v (moves ++ [.takeView])
      { f with unseen := false, stage := .holding (.state f.view) }
      (frames ++ [.state f.view]) := by
  have hun : unlooked (moves ++ [.takeView]) = [] := unlooked_concat ..
  refine ⟨by simp [h.newest, published, Move.published?], by simp [hun], .inr ⟨nofun, ?_⟩⟩
  rcases h.shown with ⟨hf, -⟩ | ⟨-, before, after, rest, hmoves, hframes, hsub, hlast⟩
  · cases hs.symm.trans hf
  · -- the newest picture stands at the end of those that it has not looked at
    rw [List.getLast?_append_of_ne_nil _ (h.unseen.mp hu)] at hlast
    obtain ⟨skipped, hskipped⟩ := List.getLast?_eq_some_iff.mp hlast
    refine ⟨before, after ++ [.takeView], rest ++ [.state f.view], by simp [hmoves],
      by simp [hframes], ?_, by simp [hun, views, Frame.view?]⟩
    have hshown : (views rest ++ [f.view]).Sublist (views rest ++ unlooked moves) :=
      (List.Sublist.refl _).append (by simp [hskipped])
    have hpub : published [.takeView] = [] := rfl
    simpa [hun, views, Frame.view?, hpub] using hshown.trans hsub

/-- **One step.** -/
theorem step (h : Pictured v moves f frames) (hm : Changes f m g out) :
    Pictured v (moves ++ [m]) g (frames ++ out.toList) := by
  cases hm with
  | publish => simpa using h.publish _
  | begin hs => exact h.begin hs
  | takeView hs hu => exact h.takeView hs hu
  | takeNotice hs => exact h.aside rfl rfl rfl rfl rfl (by simp [hs]) (fun _ => nofun)
  | deliver hs => exact h.aside rfl rfl rfl rfl rfl (by simp [hs]) (fun _ => nofun)
  | stop hs => exact h.aside rfl rfl rfl rfl rfl (fun hf => absurd hf hs) (fun _ => nofun)
  | _ => exact h.aside rfl rfl rfl rfl rfl (fun hf => ⟨hf, rfl⟩) id

end Pictured

/-! ## 4. The notices -/

/-- **Told and waiting**, after a step: the same as before, but for a notice that is given. -/
theorem Changes.notices (h : Changes f m g out) :
    (notified [m] = [] ∧ refreshed out.toList ++ g.notices = f.notices) ∨
      ∃ taskId, m = .notify taskId ∧ out = none ∧ g = f.enqueue taskId := by
  cases h with
  | notify => exact .inr ⟨_, rfl, rfl, rfl⟩
  | takeNotice hs hn => exact .inl ⟨rfl, hn.symm⟩
  | _ => exact .inl ⟨rfl, rfl⟩

theorem Changes.capacity_eq (h : Changes f m g out) : g.capacity = f.capacity := by
  cases h <;> rfl

/-- **The notices of a feed**: those that it has told and those that wait are some of those that
were given, in their order. -/
structure Noticed (capacity : Nat) (moves : List Move) (f : Feed) (frames : List Frame) :
    Prop where
  capacity_eq : f.capacity = capacity
  told : (refreshed frames ++ f.notices).Sublist (notified moves)

namespace Noticed

variable {capacity : Nat}

theorem opening (capacity : Nat) (v : View) : Noticed capacity [] (opening capacity v) [] :=
  ⟨rfl, List.nil_sublist _⟩

/-- **One step.** -/
theorem step (h : Noticed capacity moves f frames) (hm : Changes f m g out) :
    Noticed capacity (moves ++ [m]) g (frames ++ out.toList) := by
  refine ⟨hm.capacity_eq.trans h.capacity_eq, ?_⟩
  rcases hm.notices with ⟨hnone, hsame⟩ | ⟨taskId, rfl, rfl, rfl⟩
  · simpa [hnone, hsame] using h.told
  · have hkept : (f.enqueue taskId).notices.Sublist (f.notices ++ [taskId]) :=
      List.drop_sublist ..
    have hgiven : ((refreshed frames ++ f.notices) ++ [taskId]).Sublist
        (notified (moves ++ [.notify taskId])) := by
      rw [notified_append]
      exact h.told.append (List.Sublist.refl [taskId])
    simpa using ((List.Sublist.refl (refreshed frames)).append hkept).trans (by simpa using hgiven)

/-- **A step after which no more than `capacity` notices are due loses none.** -/
theorem step_all (h : Noticed capacity moves f frames)
    (hall : refreshed frames ++ f.notices = notified moves) (hm : Changes f m g out)
    (hdue : (notified (moves ++ [m])).length ≤
      (refreshed (frames ++ out.toList)).length + capacity) :
    refreshed (frames ++ out.toList) ++ g.notices = notified (moves ++ [m]) := by
  rcases hm.notices with ⟨hnone, hsame⟩ | ⟨taskId, rfl, rfl, rfl⟩
  · simp [hnone, hsame, hall]
  · -- what is due is what waits, so the queue has room for one more
    have hfits : (f.notices ++ [taskId]).length - f.capacity = 0 := by
      have hone : (notified [.notify taskId]).length = 1 := rfl
      simp only [Option.toList_none, List.append_nil, notified_append, List.length_append, ← hall,
        hone] at hdue
      simp only [List.length_append, List.length_singleton, h.capacity_eq]
      omega
    have hqueue : (f.enqueue taskId).notices = f.notices ++ [taskId] := by
      simp only [enqueue, hfits, List.drop_zero]
    rw [hqueue, notified_append, ← hall]
    simp [notified, Move.notified?]

end Noticed

/-! ## 5. The page -/

/-- **The frames of a feed and its page**: what the page has read is the first part of them.  While
it stays, the rest waits for it: in the buffer, and one frame may wait for room there. -/
structure Paged (f : Feed) (frames read : List Frame) : Prop where
  fits : f.buffer.length ≤ room
  stays : f.abandoned = false → read ++ (f.buffer ++ f.held) = frames
  leaves : f.abandoned → f.buffer = [] ∧ read <+: frames

namespace Paged

variable {read : List Frame}

theorem opening (capacity : Nat) (v : View) : Paged (opening capacity v) [] [] :=
  ⟨Nat.zero_le _, fun _ => rfl, nofun⟩

/-- A step that leaves the buffer alone; the frame that is produced in it waits. -/
theorem aside (h : Paged f frames read) (hr : f.read? m = none) (hb : g.buffer = f.buffer)
    (ha : g.abandoned = f.abandoned) (hh : f.abandoned = false → g.held = f.held ++ out.toList) :
    Paged g (frames ++ out.toList) (read ++ (f.read? m).toList) := by
  rw [hr, Option.toList_none, List.append_nil]
  refine ⟨by rw [hb]; exact h.fits, fun hstays => ?_, fun hleaves => ?_⟩
  · rw [ha] at hstays
    rw [hb, hh hstays, ← h.stays hstays]
    simp
  · rw [ha] at hleaves
    obtain ⟨hempty, hread⟩ := h.leaves hleaves
    exact ⟨hb.trans hempty, hread.trans (List.prefix_append _ _)⟩

/-- **One step.** -/
theorem step (h : Paged f frames read) (hm : Changes f m g out) :
    Paged g (frames ++ out.toList) (read ++ (f.read? m).toList) := by
  cases hm with
  | leave =>
    refine ⟨Nat.zero_le _, nofun, fun _ => ⟨rfl, ?_⟩⟩
    simp only [read?, Option.toList_none, List.append_nil]
    cases ha : f.abandoned with
    | true => exact (h.leaves ha).2
    | false => rw [← h.stays ha]; exact List.prefix_append _ _
  | read hb =>
    refine ⟨?_, fun ha => ?_, fun ha => ?_⟩
    · have := h.fits
      simp only [hb, List.length_cons] at this
      exact Nat.le_of_succ_le this
    · rw [Option.toList_none, List.append_nil, ← h.stays ha]
      simp [read?, hb, held]
    · cases hb.symm.trans (h.leaves ha).1
  | deliver hs ha hroom =>
    refine ⟨?_, fun _ => ?_, fun hleaves => ?_⟩
    · rw [List.length_append]
      exact hroom
    · rw [Option.toList_none, List.append_nil, ← h.stays ha]
      simp [read?, held, hs]
    · exact absurd (ha.symm.trans hleaves) nofun
  | begin hs | takeView hs | takeNotice hs =>
    exact h.aside rfl rfl rfl fun _ => by simp [held, hs]
  | stop hs hlost => exact h.aside rfl rfl rfl fun ha => by simpa [held, ha] using hlost
  | _ => exact h.aside rfl rfl rfl fun _ => by simp [held, enqueue]

end Paged

/-! ## 6. What a page is told -/

/-- **What a page is told** by a feed that was opened on the picture `v` and keeps `capacity`
notices: since then there were the steps `moves`, the feed has produced `frames` and is `f`. -/
structure Followed (capacity : Nat) (v : View) (moves : List Move) (f : Feed)
    (frames : List Frame) : Prop where
  current : f.view = (published moves).getLastD v
  /-- The first frame is the picture of the first look.  The other pictures are some of those that
  are published from then on, in their order, and each of them at most once. -/
  pictures : f.stage = .fresh ∧ frames = [] ∨ ∃ before after rest,
    moves = before ++ .begin :: after ∧
    frames = .state ((published before).getLastD v) :: rest ∧
    (views rest).Sublist (published after)
  /-- When nothing was published since the last look, the page has been shown the picture. -/
  upToDate : f.stage ≠ .fresh → unlooked moves = [] → (views frames).getLast? = some f.view
  /-- When something was, a feed that waits can look at it. -/
  canLook : f.stage = .watching → unlooked moves ≠ [] →
    ∃ g, f.step .takeView = some (g, some (.state f.view))
  notices : (refreshed frames ++ f.notices).Sublist (notified moves)
  /-- When there were never more than `capacity` notices that the feed had not taken, it has told
  all of them but those that wait. -/
  noneLost : (∀ before after g out, moves = before ++ after →
      (opening capacity v).steps before = some (g, out) →
      (notified before).length ≤ (refreshed out).length + capacity) →
    refreshed frames ++ f.notices = notified moves
  /-- The page reads the frames in their order, and while it stays none is lost. -/
  page : (opening capacity v).received moves <+: frames ∧ (f.abandoned = false →
    f.buffer.length ≤ room ∧ (opening capacity v).received moves ++ (f.buffer ++ f.held) = frames)

variable {capacity : Nat}

/-- **After every sequence of steps**, the three invariants hold. -/
theorem invariants_of_steps (h : (opening capacity v).steps moves = some (f, frames)) :
    Pictured v moves f frames ∧ Noticed capacity moves f frames ∧
      Paged f frames ((opening capacity v).received moves) := by
  refine steps_keep (P := fun moves f frames read => Pictured v moves f frames ∧
    Noticed capacity moves f frames ∧ Paged f frames read)
    ⟨.opening capacity v, .opening capacity v, .opening capacity v⟩ ?_ h
  rintro moves f₁ frames read m g out - ⟨hpictured, hnoticed, hpaged⟩ hm
  have hm := changes_of_step hm
  exact ⟨hpictured.step hm, hnoticed.step hm, hpaged.step hm⟩

/-- **No notice is lost** if there are never more than `capacity` of them to take. -/
theorem notices_of_steps
    (hdue : ∀ before after g out, moves = before ++ after →
      (opening capacity v).steps before = some (g, out) →
      (notified before).length ≤ (refreshed out).length + capacity)
    (h : (opening capacity v).steps moves = some (f, frames)) :
    refreshed frames ++ f.notices = notified moves := by
  induction moves using List.reverseRecOn generalizing f frames with
  | nil =>
    cases h
    rfl
  | append_singleton moves m ih =>
    obtain ⟨f₁, before, out, hbefore, hlast, rfl, -⟩ := steps_concat h
    have hall := ih (fun pre after g out hm => hdue pre (after ++ [m]) g out (by simp [hm])) hbefore
    exact (invariants_of_steps hbefore).2.1.step_all hall (changes_of_step hlast)
      (hdue _ [] f _ (List.append_nil _).symm h)

/-- **Whatever happens to a feed, and in whatever order, its page is told the right things.** -/
theorem followed_of_steps (h : (opening capacity v).steps moves = some (f, frames)) :
    Followed capacity v moves f frames := by
  obtain ⟨hpictured, hnoticed, hpaged⟩ := invariants_of_steps h
  refine
    { current := hpictured.newest, pictures := ?_, upToDate := fun hopen hnone => ?_,
      canLook := fun hs hsome => ?_, notices := hnoticed.told,
      noneLost := fun hdue => notices_of_steps hdue h, page := ⟨?_, fun ha => ?_⟩ }
  · rcases hpictured.shown with hfresh | ⟨-, before, after, rest, hmoves, hframes, hsub, -⟩
    · exact .inl hfresh
    · have hshown := (List.sublist_append_left _ _).trans hsub
      exact .inr ⟨before, after, rest, hmoves, hframes, hshown⟩
  · rcases hpictured.shown with ⟨hfresh, -⟩ | ⟨-, before, after, rest, -, -, -, hlast⟩
    · exact absurd hfresh hopen
    · simpa [hnone] using hlast
  · simp [step, hs, hpictured.unseen.mpr hsome]
  · cases ha : f.abandoned with
    | true => exact (hpaged.leaves ha).2
    | false => exact ⟨_, hpaged.stays ha⟩
  · exact ⟨hpaged.fits, hpaged.stays ha⟩

/-- A page that reads too late: of two pictures it sees the second, and one of three notices is
gone before the feed, which keeps two, has taken it. -/
theorem followed_of_burst :
    let shown (i : Nat) : View := { error := some (toString i) }
    let moves : List Move :=
      [.publish (shown 1), .begin, .publish (shown 2), .publish (shown 3), .notify "a", .notify "b",
        .notify "c", .deliver, .takeView, .deliver, .takeNotice, .read]
    ∃ f frames, (opening 2 (shown 0)).steps moves = some (f, frames) ∧
      frames = [.state (shown 1), .state (shown 3), .refresh "b"] ∧ f.notices = ["c"] ∧
      Followed 2 (shown 0) moves f frames :=
  ⟨_, _, rfl, rfl, rfl, followed_of_steps rfl⟩

end Feed

end TaskWatch
