/-
# Where a task's services are found

The id of a task is any text that the server made up.  It becomes one segment of an address, with
everything escaped that has a meaning there, and the address is then joined to the server's.

**`task_addressed`**: the services of a task lie at the server's host, below the collection of
tasks, in one segment that reads as the id, and no two of them are asked for by the same text.

There are two exceptions.  The ids `.` and `..` have nothing to escape, and joining takes them for
the place itself and the place above.  So their services are asked for one and two segments too high
(`task_above`), where no task is, though no other service is asked for by mistake.

`site` says where a task is looked for, segment by segment.  `task_eq` is the one computation: the
path of the server's place, the site, and the name of the service.
-/
import TaskWatch.Endpoint
import TaskWatch.Proofs.Url.Joining

namespace TaskWatch.Endpoint

open Text
open Url (IsName IsSegment slashed segmentsText)
open Url.Percent (AllInert IsInert component)

/-! ## 1. Sites -/

/-- The segments of the collection of tasks. -/
def collection : List String := ["api", "ui", "scrapers", "resources", "download"]

/-- **Where a task is looked for**, below the server's place.  A dot is no segment of its own. -/
def site (taskId : String) : List String :=
  if taskId = ".." then collection.dropLast
  else if taskId = "." then collection
  else collection ++ [component taskId]

/-- How deep it lies tells the exceptions. -/
theorem length_site (taskId : String) :
    (site taskId).length = if taskId = ".." then 4 else if taskId = "." then 5 else 6 := by
  unfold site
  split_ifs <;> rfl

/-- **No two tasks are looked for at the same place.** -/
theorem site_injective : Function.Injective site := by
  intro taskId taskId' h
  have hlength := congrArg List.length h
  rw [length_site, length_site] at hlength
  have habove : taskId = ".." ↔ taskId' = ".." := by grind
  have hhere : taskId = "." ↔ taskId' = "." := by grind
  by_cases ha : taskId = ".."
  · rw [ha, habove.mp ha]
  by_cases hh : taskId = "."
  · rw [hh, hhere.mp hh]
  rw [site, site, if_neg ha, if_neg hh, if_neg (mt habove.mpr ha), if_neg (mt hhere.mpr hh)] at h
  have hcomponent := List.append_cancel_left h
  rw [List.cons.injEq] at hcomponent
  exact Url.Percent.component_injective hcomponent.1

theorem isSegment_component (taskId : String) : IsSegment (component taskId) := by
  intro hslash
  exact absurd (Url.Percent.allInert_component taskId _ hslash) (by decide)

theorem isSegment_site (taskId : String) : ∀ seg ∈ site taskId, IsSegment seg := by
  have hcollection : ∀ seg ∈ collection, IsSegment seg := by decide
  unfold site
  split_ifs
  · decide
  · exact hcollection
  · exact Url.isSegment_append hcollection
      (List.forall_mem_singleton.mpr (isSegment_component taskId))

/-- All that is below the server's place. -/
theorem isSegment_below {place : List String} (hplace : ∀ seg ∈ place, IsSegment seg)
    (taskId : String) (service : TaskService) :
    ∀ seg ∈ place ++ (site taskId ++ [service.name]), IsSegment seg := by
  have hservice : IsSegment service.name := by
    cases service with
    | progress | status | cancel => decide
  exact Url.isSegment_append hplace
    (Url.isSegment_append (isSegment_site taskId) (List.forall_mem_singleton.mpr hservice))

/-- The text of an address below the server's place. -/
theorem segmentsText_site (taskId : String) (service : TaskService) :
    segmentsText (site taskId ++ [service.name]) =
      "/" ++ ((if taskId = ".." then "api/ui/scrapers/resources/"
        else if taskId = "." then "api/ui/scrapers/resources/download/"
        else "api/ui/scrapers/resources/download/" ++ component taskId ++ "/") ++
          service.name) := by
  have hcollection : segmentsText collection ++ "/" =
      "/" ++ "api/ui/scrapers/resources/download/" := by decide +kernel
  have habove : segmentsText collection.dropLast ++ "/" = "/" ++ "api/ui/scrapers/resources/" := by
    decide +kernel
  rw [Url.segmentsText_append, Url.segmentsText_singleton, ← String.append_assoc,
    ← String.append_assoc]
  congr 1
  unfold site
  split_ifs
  · exact habove
  · exact hcollection
  · rw [Url.segmentsText_append, Url.segmentsText_singleton, ← String.append_assoc, hcollection,
      ← String.append_assoc, ← String.append_assoc]

/-! ## 2. Joining a site -/

theorem isName_of_mem_collection : ∀ name ∈ collection, IsName name := by
  decide +kernel

theorem isName_service (service : TaskService) : IsName service.name := by
  cases service with
  | progress | status | cancel => exact ⟨by decide +kernel, by decide +kernel⟩

theorem addSegments_task (place : List String) (taskId : String) (service : TaskService) :
    Url.addSegments place (collection ++ [component taskId, service.name]) =
      place ++ (site taskId ++ [service.name]) := by
  have hsingle := Url.isSingleDot_component taskId
  have hdouble := Url.isDoubleDot_component taskId
  rw [Url.addSegments_append isName_of_mem_collection _ (List.cons_ne_nil _ _), site]
  show Url.addSegment (Url.addSegment (place ++ collection) (component taskId) false)
    service.name true = _
  rw [Url.addSegment_name (isName_service service), Url.addSegment]
  by_cases habove : taskId = ".."
  · rw [if_pos (hdouble.mpr habove), if_pos habove, List.dropLast_append_of_ne_nil (by decide),
      if_neg Bool.false_ne_true, List.append_nil, List.append_assoc]
  rw [if_neg (mt hdouble.mp habove), if_neg habove]
  by_cases hhere : taskId = "."
  · rw [if_pos (hsingle.mpr hhere), if_pos hhere, if_neg Bool.false_ne_true, List.append_nil,
      List.append_assoc]
  · rw [if_neg (mt hsingle.mp hhere), if_neg hhere, List.append_assoc, List.append_assoc,
      List.append_assoc]

theorem allInert_task {taskId : String} {service : TaskService} :
    ∀ piece ∈ collection ++ [component taskId, service.name], AllInert piece := by
  have hcollection : ∀ piece ∈ collection, AllInert piece := by decide +kernel
  have hservice : AllInert service.name := by
    cases service with
    | progress | status | cancel => decide +kernel
  intro piece hpiece
  rcases List.mem_append.mp hpiece with hpiece | hpiece
  · exact hcollection piece hpiece
  rcases List.mem_cons.mp hpiece with rfl | hpiece
  · exact Url.Percent.allInert_component taskId
  · rw [List.mem_singleton.mp hpiece]
    exact hservice

/-! ## 3. The server's place -/

/-- **What the settings name**, up to the last slash of its path. -/
theorem exists_base {s : ServerSettings} {e : Endpoint} {b : Url} (he : ofSettings s = .ok e)
    (hb : Url.parse s.baseUrl = .ok b) (hscheme : b.scheme = "http" ∨ b.scheme = "https") :
    ∃ place, e.base = { b with path := .segments (place ++ [""]) } ∧
      (∀ seg ∈ place, IsSegment seg) ∧ slashed b.pathText = segmentsText place ++ "/" := by
  have hspecial : Url.isSpecial b.scheme := by
    rcases hscheme with h | h <;> rw [h] <;> decide
  have hfile : Url.isFile b.scheme = false := by
    rcases hscheme with h | h <;> rw [h] <;> decide
  obtain ⟨segs, hpath, hsegs⟩ := Url.parse_path hb hspecial hfile
  obtain ⟨base, hbase, h⟩ := Url.exists_of_bind_ok he
  obtain ⟨liveness, -, h⟩ := Url.exists_of_bind_ok h
  cases hb.symm.trans hbase
  cases h
  exact Url.exists_place hpath hsegs

section
variable {e : Endpoint} {b : Url} {place : List String}
  (hbase : e.base = { b with path := .segments (place ++ [""]) })
  (hfile : Url.isFile b.scheme = false)
include hbase hfile

/-- Pieces are added to the server's place, and nothing else of its address is changed. -/
theorem base_join {first : String} (hfirst : first ≠ "") {pieces : List String}
    (hinert : ∀ piece ∈ first :: pieces, AllInert piece) {text : String}
    (htext : text.toList = Text.glue '/' ((first :: pieces).map String.toList)) :
    e.base.join text = .ok { b with
      path := .segments (Url.addSegments place (first :: pieces))
      query := none
      fragment := none } := by
  have hpath : e.base.path = .segments (place ++ [""]) := by rw [hbase]
  have hbasefile : Url.isFile e.base.scheme = false := by rw [hbase, hfile]
  have hjoin := Url.join_inert hpath hbasefile hfirst hinert htext
  rw [List.dropLast_concat] at hjoin
  refine hjoin.trans ?_
  rw [hbase]

/-- **The address of a task's service.** -/
theorem task_eq (taskId : String) (service : TaskService) :
    e.task taskId service = .ok { b with
      path := .segments (place ++ (site taskId ++ [service.name]))
      query := none
      fragment := none } := by
  have htext : (s!"{resourceTasks}/{component taskId}/{service.name}").toList =
      Text.glue '/' ((collection ++ [component taskId, service.name]).map String.toList) := by
    have hcollection : Text.glue '/' (collection.map String.toList) = resourceTasks.toList := by
      decide +kernel
    have hpieces : (collection ++ [component taskId, service.name]).map String.toList =
        (collection.map String.toList ++ [(component taskId).toList]) ++ [service.name.toList] := by
      simp
    rw [hpieces, Url.glue_concat _ (by simp), Url.glue_concat _ (by decide), hcollection]
    simp [toString]
  rw [← addSegments_task]
  exact base_join hbase hfile (by decide) allInert_task htext

end

/-! ## 4. Services for all tasks -/

/-- **The services that are for no task**: their segments, and their text. -/
def services : List (List String × String) :=
  [(collection, resourceTasks), (["api", "ui", "scrapers", "upload-package"], uploadPackage)]

/-- The last segment of an address tells what it is for. -/
theorem services_getLast? {names : List String} {path : String} (h : (names, path) ∈ services)
    (service : TaskService) : names.getLast? ≠ some service.name := by
  have hall : ∀ p ∈ services, ∀ name ∈ ["progress", "status", "cancel"],
      p.1.getLast? ≠ some name := by decide
  refine hall _ h _ ?_
  cases service <;> decide

theorem isSegment_services {names : List String} {path : String} (h : (names, path) ∈ services) :
    ∀ seg ∈ names, IsSegment seg := by
  have hall : ∀ p ∈ services, ∀ seg ∈ p.1, IsSegment seg := by decide
  exact hall _ h

/-- **The address of a service that is for no task.** -/
theorem service_eq {e : Endpoint} {b : Url} {place : List String}
    (hbase : e.base = { b with path := .segments (place ++ [""]) })
    (hfile : Url.isFile b.scheme = false) {names : List String} {path : String}
    (h : (names, path) ∈ services) :
    e.service path = .ok { b with
      path := .segments (place ++ names), query := none, fragment := none } := by
  have hall : ∀ p ∈ services,
      (∀ name ∈ p.1, IsName name) ∧ (∀ name ∈ p.1, AllInert name) ∧
        p.2.toList = Text.glue '/' (p.1.map String.toList) ∧ p.1.head? = some "api" := by
    decide +kernel
  obtain ⟨hnames, hinert, htext, hfirst⟩ := hall _ h
  obtain ⟨rest, rfl⟩ := List.head?_eq_some_iff.mp hfirst
  rw [← Url.addSegments_names hnames]
  exact base_join hbase hfile (by decide) hinert htext

/-! ## 5. The law -/

theorem TaskService.name_injective : Function.Injective TaskService.name := by
  intro service service' h
  cases service <;> cases service' <;> first | rfl | exact absurd h (by decide)

/-- **The services of a task** have an address at the server's host, below the place that the
settings name: the collection of tasks, one segment that reads as the id, and the service.  For a
dot and for two dots there is no such segment, and what is behind it moves up.  No two services of
tasks are asked for by the same text, and none is asked for by that of a service for all tasks. -/
theorem task_addressed {s : ServerSettings} {e : Endpoint} {b : Url} (he : ofSettings s = .ok e)
    (hb : Url.parse s.baseUrl = .ok b) (hscheme : b.scheme = "http" ∨ b.scheme = "https") :
    (∀ taskId service, ∃ u, e.task taskId service = .ok u ∧
      (u.scheme = b.scheme ∧ u.host = b.host ∧ u.port = b.port) ∧
      (u.username = b.username ∧ u.password = b.password) ∧
      (u.target = u.pathText ∧ u.fragment = none) ∧
      (taskId ≠ "." → taskId ≠ ".." → ∃ segment, IsSegment segment ∧
        Utf8.decode (Url.Percent.decode (Utf8.encode segment)) = taskId ∧
        u.pathText = slashed b.pathText ++
          ("api/ui/scrapers/resources/download/" ++ segment ++ "/" ++ service.name)) ∧
      (taskId = "." → u.pathText = slashed b.pathText ++
        ("api/ui/scrapers/resources/download/" ++ service.name)) ∧
      (taskId = ".." → u.pathText = slashed b.pathText ++
        ("api/ui/scrapers/resources/" ++ service.name))) ∧
    (∀ taskId taskId' service service' u u', e.task taskId service = .ok u →
      e.task taskId' service' = .ok u' → u.target = u'.target →
        taskId = taskId' ∧ service = service') ∧
    ∀ taskId service u u', ∀ path ∈ [resourceTasks, uploadPackage],
      e.task taskId service = .ok u → e.service path = .ok u' → u.target ≠ u'.target := by
  obtain ⟨place, hbase, hplace, hslashed⟩ := exists_base he hb hscheme
  have hfile : Url.isFile b.scheme = false := by
    rcases hscheme with h | h <;> rw [h] <;> decide
  refine ⟨?_, ?_, ?_⟩
  · intro taskId service
    have htext := segmentsText_site taskId service
    refine ⟨_, task_eq hbase hfile taskId service, ⟨rfl, rfl, rfl⟩, ⟨rfl, rfl⟩,
      ⟨Url.target_of_query rfl, rfl⟩, ?_, ?_, ?_⟩
    · intro hhere habove
      refine ⟨component taskId, isSegment_component taskId, ?_, ?_⟩
      · rw [Url.Percent.decode_component, Utf8.decode_encode]
      · rw [Url.pathText_segments rfl, Url.segmentsText_append, htext, if_neg habove, if_neg hhere,
          ← String.append_assoc, hslashed]
    · rintro rfl
      rw [Url.pathText_segments rfl, Url.segmentsText_append, htext, if_neg (by decide), if_pos rfl,
        ← String.append_assoc, hslashed]
    · rintro rfl
      rw [Url.pathText_segments rfl, Url.segmentsText_append, htext, if_pos rfl,
        ← String.append_assoc, hslashed]
  · intro taskId taskId' service service' u u' hu hu' htarget
    cases hu.symm.trans (task_eq hbase hfile taskId service)
    cases hu'.symm.trans (task_eq hbase hfile taskId' service')
    have hsegs := Url.segments_of_target_eq ⟨rfl, rfl⟩ ⟨rfl, rfl⟩
      (isSegment_below hplace taskId service) (isSegment_below hplace taskId' service') htarget
    obtain ⟨hsite, hname⟩ := List.append_inj' (List.append_cancel_left hsegs) rfl
    exact ⟨site_injective hsite, TaskService.name_injective (List.singleton_inj.mp hname)⟩
  · intro taskId service u u' path hpath hu hu' htarget
    have hservice : path ∈ services.map Prod.snd := hpath
    obtain ⟨⟨names, text⟩, hnames, rfl⟩ := List.mem_map.mp hservice
    cases hu.symm.trans (task_eq hbase hfile taskId service)
    cases hu'.symm.trans (service_eq hbase hfile hnames)
    have hsegs := Url.segments_of_target_eq ⟨rfl, rfl⟩ ⟨rfl, rfl⟩
      (isSegment_below hplace taskId service)
      (Url.isSegment_append hplace (isSegment_services hnames)) htarget
    have hlast := congrArg List.getLast? (List.append_cancel_left hsegs)
    rw [List.getLast?_concat] at hlast
    exact services_getLast? hnames service hlast.symm

/-- An id with a slash, an escape, dots, a blank and a character beyond ASCII, at a server whose
address has a path without a slash at its end, a query and a fragment. -/
theorem task_addressed_of_escapes :
    let s : ServerSettings := { baseUrl := "http://[::1]:7768/danmu?x=1#top" }
    let b : Url :=
      { scheme := "http"
        host := some (.ipv6 [0, 0, 0, 0, 0, 0, 0, 1])
        port := some 7768
        path := .segments ["danmu"]
        query := some "x=1"
        fragment := some "top" }
    let e : Endpoint :=
      { base := { b with path := .segments ["danmu", ""] }
        liveness :=
          { b with path := .segments ["danmu", "health"], query := none, fragment := none } }
    let taskId := "../%2e 任"
    ofSettings s = .ok e ∧ Url.parse s.baseUrl = .ok b ∧ b.scheme = "http" ∧
      (taskId ≠ "." ∧ taskId ≠ "..") ∧
      ∃ u, e.task taskId .cancel = .ok u ∧ (u.host = b.host ∧ u.port = b.port) ∧
        ∃ segment, IsSegment segment ∧
          Utf8.decode (Url.Percent.decode (Utf8.encode segment)) = taskId ∧
          u.target =
            "/danmu/" ++ ("api/ui/scrapers/resources/download/" ++ segment ++ "/" ++ "cancel") := by
  intro s b e taskId
  have he : ofSettings s = .ok e := Url.ok_of_toOption (by decide +kernel)
  have hb : Url.parse s.baseUrl = .ok b := Url.ok_of_toOption (by decide +kernel)
  have hdots : taskId ≠ "." ∧ taskId ≠ ".." := by decide
  obtain ⟨htask, -, -⟩ := task_addressed he hb (.inl rfl)
  obtain ⟨u, hu, ⟨-, hhost, hport⟩, -, ⟨htarget, -⟩, hsegment, -, -⟩ := htask taskId .cancel
  obtain ⟨segment, hslash, hreads, htext⟩ := hsegment hdots.1 hdots.2
  have hplace : slashed b.pathText = "/danmu/" := by decide +kernel
  rw [hplace] at htext
  exact ⟨he, hb, rfl, hdots, u, hu, ⟨hhost, hport⟩, segment, hslash, hreads, htarget.trans htext⟩

/-- **Two dots are taken for the place above**: the request to cancel such a task goes to no task at
all. -/
theorem task_above :
    let s : ServerSettings := { baseUrl := "http://[::1]:45678" }
    ∃ e b u, ofSettings s = .ok e ∧ Url.parse s.baseUrl = .ok b ∧ b.scheme = "http" ∧
      e.task ".." .cancel = .ok u ∧ u.target = "/api/ui/scrapers/resources/cancel" ∧
      ∀ segment, u.pathText ≠ slashed b.pathText ++
        ("api/ui/scrapers/resources/download/" ++ segment ++ "/" ++ "cancel") := by
  intro s
  let b : Url :=
    { scheme := "http"
      host := some (.ipv6 [0, 0, 0, 0, 0, 0, 0, 1])
      port := some 45678
      path := .segments [""] }
  let e : Endpoint := { base := b, liveness := { b with path := .segments ["health"] } }
  let u : Url := { b with path := .segments ["api", "ui", "scrapers", "resources", "cancel"] }
  have he : ofSettings s = .ok e := Url.ok_of_toOption (by decide +kernel)
  have hb : Url.parse s.baseUrl = .ok b := Url.ok_of_toOption (by decide +kernel)
  have hu : e.task ".." .cancel = .ok u := Url.ok_of_toOption (by decide +kernel)
  refine ⟨e, b, u, he, hb, rfl, hu, by decide +kernel, ?_⟩
  intro segment htext
  have hbegins : (slashed b.pathText ++ "api/ui/scrapers/resources/download/").toList <+:
      u.pathText.toList := by
    refine ⟨(segment ++ "/" ++ "cancel").toList, ?_⟩
    rw [htext]
    simp only [String.toList_append, List.append_assoc]
  exact absurd hbegins (by decide +kernel)

end TaskWatch.Endpoint
