import BingePodcast.Native.PodcastScreen
import BingePodcast.Spec.PagingCorrect

/-!
# The podcast screen, event by event

Every method of the screen in closed form, with the accesses at which it traps, and what
all its runs keep: pages and podcasts correspond, `currentIndex` is a counter from 0 up
until a page is displayed and the index of a page from then on, and the screen drives its
`FirebaseService` through a run of the paging system.

## Key results

- `PodcastScreen.paging_run_of_step`: each event of the screen is some events of the
  paging system
- `PodcastScreen.inv_of_run`: the invariant holds at the end of every run
-/

namespace BingePodcast

open FirebaseService (podcastLimit)

/-! ## The controller -/

/-- The page with further episodes. -/
def PageListPodcast.append (page : PageListPodcast) (episode : List Episode) : PageListPodcast :=
  ⟨{ page.podcastEpisode with episode := page.podcastEpisode.episode ++ episode }⟩

/-- Podcasts and pages correspond, and once a page is displayed `currentIndex` is the
    index of a page. -/
structure PodcastViewController.Inv (controller : PodcastViewController) : Prop where
  length_eq : controller.podcastEpisode.length = controller.arrayPageListPodcast.length
  nonneg : 0 ≤ controller.currentIndex
  inRange : controller.displayed ≠ .initialVC →
    controller.currentIndex < controller.arrayPageListPodcast.length

namespace PodcastViewController

variable {controller : PodcastViewController} {index indexCell : ℤ}

theorem Inv.init : ({} : PodcastViewController).Inv where
  length_eq := rfl
  nonneg := le_rfl
  inRange h := absurd rfl h

/-- The controller after it moved to the page at `index` and displayed it. -/
def showPage (controller : PodcastViewController) (index : ℤ) : PodcastViewController :=
  { controller with
    currentIndex := index
    displayed := .page index.toNat
    currentPage := max 0 (min index (numberOfPages - 1)) }

theorem setViewControllers_eq (hnonneg : 0 ≤ index)
    (hlt : index < controller.arrayPageListPodcast.length) :
    controller.setViewControllers index = .ok { controller with displayed := .page index.toNat } := by
  obtain ⟨n, rfl⟩ := Int.eq_ofNat_of_zero_le hnonneg
  simp [setViewControllers, element_ofNat (Int.ofNat_lt.mp hlt)]

theorem setViewControllers_eq_error (hle : controller.arrayPageListPodcast.length ≤ index) :
    controller.setViewControllers index = .error .indexOutOfRange := by
  have helement : element controller.arrayPageListPodcast index = .error .indexOutOfRange :=
    element_eq_error.mpr ⟨rfl, .inr hle⟩
  simp [setViewControllers, helement]

/-- `previous()` of an index above 0 displays the page before it, if there is one. -/
theorem previous_eq (hpos : 0 < controller.currentIndex) :
    controller.previous =
      if controller.currentIndex ≤ controller.arrayPageListPodcast.length then
        .ok (controller.showPage (controller.currentIndex - 1))
      else .error .indexOutOfRange := by
  rw [previous, if_neg hpos.ne']
  -- the access is at `currentIndex - 1`
  split
  · rw [setViewControllers_eq (by omega) (by simp only [setCurrentPage]; omega)]
    rfl
  · rw [setViewControllers_eq_error (by simp only [setCurrentPage]; omega)]

/-- `next()` displays the next page, if there is one. -/
theorem next_eq (h : controller.Inv) :
    controller.next = .ok
      (if controller.currentIndex + 1 < controller.arrayPageListPodcast.length then
        controller.showPage (controller.currentIndex + 1)
      else controller) := by
  have hnonneg := h.nonneg
  rw [next, h.length_eq]
  split
  · rw [if_neg (by omega)]
  · rw [if_pos (by omega),
      setViewControllers_eq (by omega) (by simp only [setCurrentPage]; omega)]
    rfl

/-- A cell before the current one: one page back, whatever the distance. -/
theorem positionCellWithIdexPath_of_lt (hnonneg : 0 ≤ indexCell)
    (hlt : indexCell < controller.currentIndex) :
    controller.positionCellWithIdexPath indexCell =
      if controller.currentIndex ≤ controller.arrayPageListPodcast.length then
        .ok { controller.showPage (controller.currentIndex - 1) with currentIndex := indexCell }
      else .error .indexOutOfRange := by
  simp only [positionCellWithIdexPath, if_pos hlt, previous_eq (hnonneg.trans_lt hlt)]
  split
  · -- the second comparison is made with the index one page back
    have hnext : ¬ indexCell > (controller.showPage (controller.currentIndex - 1)).currentIndex := by
      simp only [showPage]
      omega
    simp [hnext]
  · rfl

theorem positionCellWithIdexPath_self :
    controller.positionCellWithIdexPath controller.currentIndex = .ok controller := by
  simp [positionCellWithIdexPath]

/-- A cell after the current one: at most one page further, whatever the distance. -/
theorem positionCellWithIdexPath_of_gt (h : controller.Inv)
    (hlt : controller.currentIndex < indexCell) :
    controller.positionCellWithIdexPath indexCell = .ok
      { (if controller.currentIndex + 1 < controller.arrayPageListPodcast.length then
          controller.showPage (controller.currentIndex + 1) else controller) with
        currentIndex := indexCell } := by
  simp [positionCellWithIdexPath, hlt, hlt.not_gt, next_eq h]

/-- A swipe to the right goes back, and traps if `currentIndex` is too far out. -/
theorem swipeLeftToRight_eq (h : controller.Inv) :
    controller.swipeLeftToRight =
      if controller.currentIndex = 0 then .ok controller
      else if controller.currentIndex ≤ controller.arrayPageListPodcast.length then
        .ok (controller.showPage (controller.currentIndex - 1))
      else .error .indexOutOfRange := by
  have hnonneg := h.nonneg
  rw [swipeLeftToRight]
  by_cases hzero : controller.currentIndex = 0
  · rw [if_neg (not_not.mpr hzero), if_pos hzero]
  · rw [if_pos hzero, if_neg hzero, positionCellWithIdexPath_of_lt (by omega) (by omega)]
    rfl

/-- A swipe to the left counts on past the last page, as only the index of the last page
    stops it. -/
theorem swipeRightToLeft_eq (h : controller.Inv) :
    controller.swipeRightToLeft = .ok
      (if controller.currentIndex + 1 < controller.arrayPageListPodcast.length then
        controller.showPage (controller.currentIndex + 1)
      else if controller.currentIndex + 1 = controller.arrayPageListPodcast.length then controller
      else { controller with currentIndex := controller.currentIndex + 1 }) := by
  rw [swipeRightToLeft, h.length_eq]
  -- the guard compares with the last index only, from both sides of which it lets through
  by_cases hlast : controller.currentIndex + 1 = controller.arrayPageListPodcast.length
  · rw [if_neg (by omega), if_neg (by omega), if_pos hlast]
  · rw [if_pos (by omega), positionCellWithIdexPath_of_gt h (by omega), if_neg hlast]
    split <;> rfl

/-- The controller after the first episodes of a podcast arrived: a page more, and the
    first page on display if this was the sixth count of `currentIndex`. -/
def showPodcast (controller : PodcastViewController) (podcastEpisode : PodcastEpisode) :
    PodcastViewController :=
  { controller with
    podcastEpisode := controller.podcastEpisode ++ [podcastEpisode]
    arrayPageListPodcast := controller.arrayPageListPodcast ++ [⟨podcastEpisode⟩]
    currentIndex := if controller.currentIndex + 1 = 6 then 0 else controller.currentIndex + 1
    displayed := if controller.currentIndex + 1 = 6 then .page 0 else controller.displayed }

theorem showPodcastAndEpisode_eq (podcastEpisode : PodcastEpisode) :
    controller.showPodcastAndEpisode podcastEpisode =
      .ok (controller.showPodcast podcastEpisode) := by
  simp only [showPodcastAndEpisode, List.getLast?_append_of_ne_nil _ (List.cons_ne_nil _ _),
    List.getLast?_singleton, showPodcast]
  split
  · rw [setViewControllers_eq le_rfl (by simp)]
    rfl
  · rfl

/-- Appending one by one at an index of a page is appending at once. -/
theorem foldlM_appendEpisode {n : Nat} {pages : List PageListPodcast} (hn : n < pages.length)
    (episode : List Episode) :
    episode.foldlM (appendEpisode n) pages =
      .ok (pages.modify n (PageListPodcast.append · episode)) := by
  induction episode generalizing pages with
  | nil =>
    -- appending nothing is no change
    have hid : (PageListPodcast.append · []) = (id : PageListPodcast → PageListPodcast) := by
      funext page
      simp [PageListPodcast.append]
    rw [hid, List.modify_id]
    rfl
  | cons e episode ih =>
    rw [List.foldlM_cons, appendEpisode,
      updateElement_eq_ok.mpr ⟨n, rfl, hn, rfl⟩, Except.ok_bind, ih (by simpa using hn),
      List.modify_modify_eq]
    congr 2
    funext page
    simp [PageListPodcast.append]

/-- The controller after further episodes went to the page at `currentIndex`. -/
def appendToCurrent (controller : PodcastViewController) (episode : List Episode) :
    PodcastViewController :=
  { controller with
    arrayPageListPodcast := controller.arrayPageListPodcast.modify controller.currentIndex.toNat
      (PageListPodcast.append · episode)
    displayed := .page controller.currentIndex.toNat }

theorem loadMoreEpisode_eq (podcastEpisode : PodcastEpisode) (hnonneg : 0 ≤ controller.currentIndex)
    (hlt : controller.currentIndex < controller.arrayPageListPodcast.length) :
    controller.loadMoreEpisode podcastEpisode =
      .ok (controller.appendToCurrent podcastEpisode.episode) := by
  obtain ⟨n, hn⟩ := Int.eq_ofNat_of_zero_le hnonneg
  rw [hn, Int.ofNat_lt] at hlt
  simp only [loadMoreEpisode, hn, foldlM_appendEpisode hlt, Except.ok_bind]
  rw [setViewControllers_eq (Int.natCast_nonneg n) (by simpa using hlt)]
  simp [appendToCurrent, hn]

namespace Inv

variable {controller' : PodcastViewController}

theorem showPage (h : controller.Inv) (hnonneg : 0 ≤ index)
    (hlt : index < controller.arrayPageListPodcast.length) : (controller.showPage index).Inv where
  length_eq := h.length_eq
  nonneg := hnonneg
  inRange _ := hlt

theorem showPodcast (h : controller.Inv) (podcastEpisode : PodcastEpisode) :
    (controller.showPodcast podcastEpisode).Inv where
  length_eq := by simp [PodcastViewController.showPodcast, h.length_eq]
  nonneg := by
    have := h.nonneg
    simp only [PodcastViewController.showPodcast]
    split <;> omega
  inRange := by
    simp only [PodcastViewController.showPodcast, List.length_append, List.length_singleton]
    split
    · -- the sixth arrival selects page 0, and there is a page now
      omega
    · -- one more page and one more on the counter
      intro hdisplayed
      have := h.inRange hdisplayed
      omega

theorem appendToCurrent (h : controller.Inv)
    (hlt : controller.currentIndex < controller.arrayPageListPodcast.length)
    (episode : List Episode) : (controller.appendToCurrent episode).Inv where
  length_eq := by simp [PodcastViewController.appendToCurrent, h.length_eq]
  nonneg := h.nonneg
  inRange _ := by simpa [PodcastViewController.appendToCurrent] using hlt

end Inv

/-- A swipe or a tap leaves the podcasts and their pages alone and never brings the
    placeholder back. -/
structure Moved (controller controller' : PodcastViewController) : Prop where
  inv : controller'.Inv
  podcastEpisode : controller'.podcastEpisode = controller.podcastEpisode
  arrayPageListPodcast : controller'.arrayPageListPodcast = controller.arrayPageListPodcast
  displayed : controller.displayed ≠ .initialVC → controller'.displayed ≠ .initialVC

namespace Moved

variable {controller' : PodcastViewController}

theorem refl (h : controller.Inv) : Moved controller controller := ⟨h, rfl, rfl, id⟩

theorem showPage (h : controller.Inv) (hnonneg : 0 ≤ index)
    (hlt : index < controller.arrayPageListPodcast.length) :
    Moved controller (controller.showPage index) :=
  ⟨h.showPage hnonneg hlt, rfl, rfl, fun _ => by simp [PodcastViewController.showPage]⟩

/-- `positionCellWithIdexPath` overwrites `currentIndex` in the end. -/
theorem withCurrentIndex (h : Moved controller controller') (hnonneg : 0 ≤ indexCell)
    (hlt : indexCell < controller.arrayPageListPodcast.length) :
    Moved controller { controller' with currentIndex := indexCell } :=
  ⟨⟨h.inv.length_eq, hnonneg, fun _ => by rwa [h.arrayPageListPodcast]⟩,
    h.podcastEpisode, h.arrayPageListPodcast, h.displayed⟩

theorem swipeLeftToRight (h : controller.Inv)
    (hstep : controller.swipeLeftToRight = .ok controller') : Moved controller controller' := by
  have hnonneg := h.nonneg
  rw [swipeLeftToRight_eq h] at hstep
  split at hstep
  · exact Except.ok.inj hstep ▸ refl h
  · split at hstep
    · exact Except.ok.inj hstep ▸ showPage h (by omega) (by omega)
    · cases hstep

theorem swipeRightToLeft (h : controller.Inv)
    (hstep : controller.swipeRightToLeft = .ok controller') : Moved controller controller' := by
  have hnonneg := h.nonneg
  rw [swipeRightToLeft_eq h] at hstep
  obtain rfl := Except.ok.inj hstep
  split
  · exact showPage h (by omega) ‹_›
  · split
    · exact refl h
    · -- the index leaves the pages, which only happens while the placeholder is displayed
      refine ⟨⟨h.length_eq, by simp only; omega, fun hdisplayed => ?_⟩, rfl, rfl, id⟩
      have := h.inRange hdisplayed
      omega

theorem positionCellWithIdexPath (h : controller.Inv) (hnonneg : 0 ≤ indexCell)
    (hlt : indexCell < controller.arrayPageListPodcast.length)
    (hstep : controller.positionCellWithIdexPath indexCell = .ok controller') :
    Moved controller controller' := by
  have hnonneg' := h.nonneg
  -- the three outcomes of the two comparisons
  rcases lt_trichotomy indexCell controller.currentIndex with hback | rfl | hforward
  · rw [positionCellWithIdexPath_of_lt hnonneg hback] at hstep
    split at hstep
    · exact Except.ok.inj hstep ▸
        (showPage h (by omega) (by omega)).withCurrentIndex hnonneg hlt
    · cases hstep
  · rw [positionCellWithIdexPath_self] at hstep
    exact Except.ok.inj hstep ▸ refl h
  · rw [positionCellWithIdexPath_of_gt h hforward, if_pos (by omega)] at hstep
    exact Except.ok.inj hstep ▸ (showPage h (by omega) (by omega)).withCurrentIndex hnonneg hlt

end Moved

end PodcastViewController

/-! ## The screen -/

/-- The first-page request of a podcast. -/
def firstPageRequest (podcast : Podcast) : PageRequest Podcast :=
  ⟨⟨podcast.name, none, some podcastLimit⟩, podcast⟩

/-- The podcasts that `fetchAllPodcast` delivers. -/
def Collections.podcasts (collections : Collections) : List Podcast :=
  (collections "Podcast").documents.map Podcast.ofDocument

/-- A collection of podcasts: `"A"` and `"B"`. -/
def podcastsAB : Collection :=
  ⟨[⟨"1", [("title", .string "A")]⟩, ⟨"2", [("title", .string "B")]⟩], by decide⟩

/-- A swipe or a tap on a cell. -/
def PodcastScreenEvent.isMove : PodcastScreenEvent → Bool
  | .swipeLeftToRight | .swipeRightToLeft | .didSelectItemAt _ => true
  | _ => false

namespace PodcastScreen

variable {screen screen' : PodcastScreen} {request : PageRequest Podcast}

theorem fetchPodcastList_eq (podcasts : List Podcast) :
    screen.fetchPodcastList podcasts =
      if ∀ podcast ∈ podcasts, isCollectionPath podcast.name then
        .ok { screen with paging := { screen.paging with
          firstPages := screen.paging.firstPages ++ podcasts.map firstPageRequest } }
      else .error .invalidCollectionPath := by
  rw [fetchPodcastList]
  -- the requests gathered so far vary in the induction
  generalize screen.paging = paging
  induction podcasts generalizing paging with
  | nil => simp
  | cons podcast podcasts ih =>
    rw [List.foldlM_cons]
    by_cases hpath : isCollectionPath podcast.name
    · rw [Paging.fetchEpisodeOnPosdcastFirebase_eq_ok.mpr ⟨hpath, rfl⟩, Except.ok_bind, ih]
      simp [hpath, firstPageRequest]
    · have htrap : paging.fetchEpisodeOnPosdcastFirebase podcast.name podcast =
          .error .invalidCollectionPath := by
        simp [Paging.fetchEpisodeOnPosdcastFirebase, FirebaseService.getDocumentsWithLimit,
          FirebaseService.collection, hpath]
      simp [htrap, hpath]

theorem podcastListResponse_error (err : FirestoreError) :
    screen.podcastListResponse (.error err) = .ok { screen with podcastListPending := false } :=
  rfl

/-- The list of podcasts asks for the first page of each, or traps at a title that names
    no collection. -/
theorem podcastListResponse_snapshot (documents : List DocumentSnapshot) :
    screen.podcastListResponse (.snapshot documents) =
      if ∀ podcast ∈ documents.map Podcast.ofDocument, isCollectionPath podcast.name then
        .ok { screen with
          paging := { screen.paging with
            firstPages := screen.paging.firstPages ++
              (documents.map Podcast.ofDocument).map firstPageRequest }
          podcastListPending := false }
      else .error .invalidCollectionPath :=
  fetchPodcastList_eq _

theorem firstPageResponse_error (err : FirestoreError) :
    screen.firstPageResponse request (.error err) = .ok { screen with
      paging := { screen.paging with
        firstPages := screen.paging.firstPages.erase request
        completions := screen.paging.completions ++
          [.failed request.query.collection .first err] } } :=
  rfl

theorem firstPageResponse_nil :
    screen.firstPageResponse request (.snapshot []) = .error .nilForceCast :=
  rfl

/-- The first episodes of a podcast make a page of that podcast. -/
theorem firstPageResponse_snapshot {documents : List DocumentSnapshot} {last : DocumentSnapshot}
    (hlast : documents.getLast? = some last) :
    screen.firstPageResponse request (.snapshot documents) = .ok { screen with
      controller := screen.controller.showPodcast ⟨request.onCompletion,
        documents.map (Episode.ofDocument request.query.collection)⟩
      paging := { screen.paging with
        service := { screen.paging.service with
          arrayLastDocument := Function.update screen.paging.service.arrayLastDocument
            request.query.collection (some last) }
        firstPages := screen.paging.firstPages.erase request
        completions := screen.paging.completions ++
          [.delivered request.query.collection .first documents] } } := by
  simp only [firstPageResponse, Paging.firstPageResponse_snapshot hlast, Except.ok_bind,
    Except.pure_eq_ok, PodcastViewController.showPodcastAndEpisode_eq]

theorem loadMoreResponse_error (err : FirestoreError) :
    screen.loadMoreResponse request (.error err) = .ok { screen with
      paging := (screen.paging.loadMoreResponse request (.error err)).1 } :=
  rfl

/-- Further episodes go to the page at `currentIndex`, whatever the podcast of the request. -/
theorem loadMoreResponse_snapshot (documents : List DocumentSnapshot)
    (hnonneg : 0 ≤ screen.controller.currentIndex)
    (hlt : screen.controller.currentIndex < screen.controller.arrayPageListPodcast.length) :
    screen.loadMoreResponse request (.snapshot documents) = .ok { screen with
      controller := screen.controller.appendToCurrent
        (documents.map (Episode.ofDocument request.query.collection))
      paging := (screen.paging.loadMoreResponse request (.snapshot documents)).1 } := by
  simp only [loadMoreResponse, Paging.loadMoreResponse_snapshot,
    PodcastViewController.loadMoreEpisode_eq _ hnonneg hlt, Except.ok_bind, Except.pure_eq_ok]

theorem loadMoreResponse_paging {response : Response}
    (h : screen.loadMoreResponse request response = .ok screen') :
    screen'.paging = (screen.paging.loadMoreResponse request response).1 := by
  cases response with
  | error err => exact Except.ok.inj h ▸ rfl
  | snapshot documents =>
    simp only [loadMoreResponse, Paging.loadMoreResponse_snapshot] at h
    obtain ⟨controller, -, h⟩ := Except.bind_eq_ok.mp h
    exact Except.ok.inj h ▸ rfl

/-- A scroll does nothing or calls `loadMoreData` for the podcast on display. -/
theorem scrollViewDidScroll_eq_ok {y height tableHeight : ℚ}
    (h : screen.scrollViewDidScroll y height tableHeight = .ok screen') :
    screen' = screen ∨
    ∃ podcast paging, screen.controller.displayedPodcast = some podcast ∧
      screen.paging.loadMoreData podcast.name podcast = .ok paging ∧
      screen' = { screen with paging } := by
  simp only [scrollViewDidScroll] at h
  split at h
  · split at h
    · rename_i podcast hpodcast
      obtain ⟨paging, hcall, hscreen⟩ := Except.bind_eq_ok.mp h
      exact .inr ⟨podcast, paging, hpodcast, hcall, (Except.ok.inj hscreen).symm⟩
    · exact .inl (Except.ok.inj h).symm
  · exact .inl (Except.ok.inj h).symm

/-- A scroll that traps does so at a title that names no collection. -/
theorem scrollViewDidScroll_eq_error {y height tableHeight : ℚ} {trap : Trap}
    (h : screen.scrollViewDidScroll y height tableHeight = .error trap) :
    trap = .invalidCollectionPath := by
  simp only [scrollViewDidScroll] at h
  split at h
  · split at h
    · rcases Except.bind_eq_error.mp h with hcall | ⟨_, -, hok⟩
      · exact Paging.loadMoreData_eq_error hcall
      · cases hok
    · cases h
  · cases h

theorem onController_eq_ok (action : PodcastViewController → Except Trap PodcastViewController) :
    screen.onController action = .ok screen' ↔
      ∃ controller, action screen.controller = .ok controller ∧
        screen' = { screen with controller } := by
  simp only [onController, Except.bind_eq_ok, Except.pure_eq_ok, Except.ok.injEq,
    eq_comm (a := screen')]

/-! ## The paging system under the screen -/

/-- What an event of the screen makes of its `FirebaseService`. -/
def pagingEvents (screen : PodcastScreen) : PodcastScreenEvent → List (PagingEvent Podcast)
  | .podcastListResponse (.snapshot documents) =>
    (documents.map Podcast.ofDocument).map fun podcast =>
      .fetchEpisodeOnPosdcastFirebase podcast.name podcast
  | .podcastListResponse (.error _) => []
  | .firstPageResponse request response => [.firstPageResponse request response]
  | .loadMoreResponse request response => [.loadMoreResponse request response]
  | .scrollViewDidScroll y height tableHeight =>
    if y ≥ height - tableHeight - 150 then
      (screen.controller.displayedPodcast.map fun podcast =>
        .loadMoreData podcast.name podcast).toList
    else []
  | .swipeLeftToRight | .swipeRightToLeft | .didSelectItemAt _ => []

theorem pagingEvents_of_isMove {e : PodcastScreenEvent} (h : e.isMove) :
    screen.pagingEvents e = [] := by
  cases e <;> first | rfl | cases h

variable {collections : Collections} {pes : List (PagingEvent Podcast)}

theorem paging_run_fetchPodcastList {answers : Query → Response → Prop} {podcasts : List Podcast}
    {paging : Paging Podcast} (hrun : (Paging.machine Podcast answers).Run pes paging)
    (hpaths : ∀ podcast ∈ podcasts, isCollectionPath podcast.name) :
    (Paging.machine Podcast answers).Run
      (pes ++ podcasts.map fun podcast => .fetchEpisodeOnPosdcastFirebase podcast.name podcast)
      { paging with firstPages := paging.firstPages ++ podcasts.map firstPageRequest } := by
  induction podcasts using List.reverseRecOn with
  | nil => simpa using hrun
  | append_singleton podcasts podcast ih =>
    -- the last podcast of the list makes the last event of the run
    have hpath := hpaths podcast (by simp)
    rw [List.map_append, List.map_append, ← List.append_assoc, ← List.append_assoc]
    exact .snoc (ih fun p hp => hpaths p (List.mem_append_left _ hp)) trivial
      (Paging.fetchEpisodeOnPosdcastFirebase_eq_ok.mpr ⟨hpath, rfl⟩)

/-- The screen drives its `FirebaseService` through a run of the paging system. -/
theorem paging_run_of_step {e : PodcastScreenEvent}
    (hrun : (Paging.machine Podcast collections.Answers).Run pes screen.paging)
    (hen : Enabled collections screen e) (hstep : screen.step e = .ok screen') :
    (Paging.machine Podcast collections.Answers).Run (pes ++ screen.pagingEvents e)
      screen'.paging := by
  have hcarousel : ∀ action, screen.onController action = .ok screen' →
      (Paging.machine Podcast collections.Answers).Run (pes ++ []) screen'.paging := by
    intro action hstep
    obtain ⟨controller, -, rfl⟩ := (onController_eq_ok _).mp hstep
    rwa [List.append_nil]
  cases e with
  | podcastListResponse response =>
    cases response with
    | error err =>
      obtain rfl := Except.ok.inj hstep
      rwa [pagingEvents, List.append_nil]
    | snapshot documents =>
      rw [step, podcastListResponse_snapshot] at hstep
      split at hstep
      · rename_i hpaths
        obtain rfl := Except.ok.inj hstep
        exact paging_run_fetchPodcastList hrun hpaths
      · cases hstep
  | firstPageResponse request response =>
    refine .snoc hrun hen ?_
    cases response with
    | error err => exact Except.ok.inj hstep ▸ rfl
    | snapshot documents =>
      cases hlast : documents.getLast? with
      | none =>
        obtain rfl := List.getLast?_eq_none_iff.mp hlast
        cases hstep
      | some last =>
        rw [step, firstPageResponse_snapshot hlast] at hstep
        obtain rfl := Except.ok.inj hstep
        exact Except.bind_eq_ok.mpr ⟨_, Paging.firstPageResponse_snapshot hlast, rfl⟩
  | loadMoreResponse request response =>
    -- whether or not the controller finds a page, the service has its answer
    exact .snoc hrun hen (congrArg Except.ok (loadMoreResponse_paging hstep).symm)
  | scrollViewDidScroll y height tableHeight =>
    simp only [step, scrollViewDidScroll] at hstep
    rw [pagingEvents]
    split at hstep
    · rename_i hbottom
      rw [if_pos hbottom]
      cases hpodcast : screen.controller.displayedPodcast with
      | some podcast =>
        rw [hpodcast] at hstep
        obtain ⟨paging, hcall, hscreen⟩ := Except.bind_eq_ok.mp hstep
        obtain rfl := Except.ok.inj hscreen
        exact .snoc hrun trivial hcall
      | none =>
        rw [hpodcast] at hstep
        obtain rfl := Except.ok.inj hstep
        simpa using hrun
    · rename_i hbottom
      obtain rfl := Except.ok.inj hstep
      simpa [hbottom] using hrun
  | swipeLeftToRight => exact hcarousel _ hstep
  | swipeRightToLeft => exact hcarousel _ hstep
  | didSelectItemAt row => exact hcarousel (·.positionCellWithIdexPath row) hstep

/-- The names that the events of a screen ask first pages for. -/
theorem fetchedNames_pagingEvents (e : PodcastScreenEvent) :
    fetchedNames (screen.pagingEvents e) =
      match e with
      | .podcastListResponse (.snapshot documents) =>
        (documents.map Podcast.ofDocument).map Podcast.name
      | _ => [] := by
  cases e with
  | podcastListResponse response =>
    cases response with
    | error err => rfl
    | snapshot documents =>
      simp [pagingEvents, fetchedNames, List.filterMap_map, Function.comp_def,
        PagingEvent.fetchedName]
  | scrollViewDidScroll y height tableHeight =>
    rw [pagingEvents]
    split
    · cases screen.controller.displayedPodcast <;> rfl
    · rfl
  | firstPageResponse request response => rfl
  | loadMoreResponse request response => rfl
  | swipeLeftToRight => rfl
  | swipeRightToLeft => rfl
  | didSelectItemAt row => rfl

/-! ## Every reachable screen -/

/-- What holds of a screen whose `FirebaseService` went through the events `pes`. -/
structure Inv (collections : Collections) (pes : List (PagingEvent Podcast))
    (screen : PodcastScreen) : Prop where
  controller : screen.controller.Inv
  paging : (Paging.machine Podcast collections.Answers).Run pes screen.paging
  fetched : fetchedNames pes = [] ∨
    screen.podcastListPending = false ∧ fetchedNames pes = collections.podcasts.map Podcast.name
  loadMores : screen.paging.loadMores ≠ [] → screen.controller.displayed ≠ .initialVC

namespace Inv

theorem init : Inv collections [] {} where
  controller := PodcastViewController.Inv.init
  paging := .nil
  fetched := .inl rfl
  loadMores h := absurd rfl h

/-- No first page is asked for before the list of podcasts has arrived. -/
theorem fetchedNames_of_pending (h : Inv collections pes screen)
    (hpending : screen.podcastListPending = true) : fetchedNames pes = [] :=
  h.fetched.resolve_right fun hlisted => Bool.noConfusion (hpending.symm.trans hlisted.1)

/-- No first page is awaited before the list of podcasts has arrived. -/
theorem firstPages_of_pending (h : Inv collections pes screen)
    (hpending : screen.podcastListPending = true) : screen.paging.firstPages = [] := by
  have hfetched := (pagingInv_of_run h.paging).fetched
  rw [h.fetchedNames_of_pending hpending] at hfetched
  rw [List.eq_nil_iff_forall_not_mem]
  -- a request in flight was asked for
  intro request hmem
  have hpos : 0 < requestsOf request.query.collection screen.paging.firstPages :=
    List.countP_pos_iff.mpr ⟨request, hmem, by simp⟩
  have := hfetched request.query.collection
  rw [List.count_nil] at this
  omega

/-- A load-more request finds `currentIndex` within the pages. -/
theorem currentIndex_lt (h : Inv collections pes screen) {request : PageRequest Podcast}
    (hmem : request ∈ screen.paging.loadMores) :
    screen.controller.currentIndex < screen.controller.arrayPageListPodcast.length :=
  h.controller.inRange (h.loadMores (List.ne_nil_of_mem hmem))

/-- The placeholder has no collection, so scrolling it issues no request. -/
theorem displayed_of_loadMoreData (h : Inv collections pes screen) {podcast : Podcast}
    {paging : Paging Podcast} (hpodcast : screen.controller.displayedPodcast = some podcast)
    (hcall : screen.paging.loadMoreData podcast.name podcast = .ok paging)
    (hissued : paging.loadMores ≠ []) : screen.controller.displayed ≠ .initialVC := by
  intro hdisplayed
  rcases Paging.loadMoreData_cases hcall with ⟨-, rfl⟩ | ⟨last, hcursor, -, -, -⟩
  · exact h.loadMores hissued hdisplayed
  · -- a cursor belongs to the path of a collection, which "" is not
    have hpath := (pagingInv_of_run h.paging).paths _ _ hcursor
    rw [PodcastViewController.displayedPodcast, hdisplayed] at hpodcast
    obtain rfl := Option.some.inj hpodcast
    exact absurd hpath (by simp [initialPodcast, Podcast.name, isCollectionPath_empty])

end Inv

/-- Everything that one event can do, traps apart. -/
inductive Effect (screen : PodcastScreen) : PodcastScreenEvent → PodcastScreen → Prop
  | listFailed (err : FirestoreError) :
      Effect screen (.podcastListResponse (.error err)) { screen with podcastListPending := false }
  | listed (documents : List DocumentSnapshot)
      (paths : ∀ podcast ∈ documents.map Podcast.ofDocument, isCollectionPath podcast.name) :
      Effect screen (.podcastListResponse (.snapshot documents)) { screen with
        paging := { screen.paging with
          firstPages := screen.paging.firstPages ++
            (documents.map Podcast.ofDocument).map firstPageRequest }
        podcastListPending := false }
  | firstPageFailed (request : PageRequest Podcast) (err : FirestoreError) :
      Effect screen (.firstPageResponse request (.error err)) { screen with
        paging := { screen.paging with
          firstPages := screen.paging.firstPages.erase request
          completions := screen.paging.completions ++
            [.failed request.query.collection .first err] } }
  | firstPage (request : PageRequest Podcast) (documents : List DocumentSnapshot)
      (last : DocumentSnapshot) (getLast : documents.getLast? = some last) :
      Effect screen (.firstPageResponse request (.snapshot documents)) { screen with
        controller := screen.controller.showPodcast ⟨request.onCompletion,
          documents.map (Episode.ofDocument request.query.collection)⟩
        paging := { screen.paging with
          service := { screen.paging.service with
            arrayLastDocument := Function.update screen.paging.service.arrayLastDocument
              request.query.collection (some last) }
          firstPages := screen.paging.firstPages.erase request
          completions := screen.paging.completions ++
            [.delivered request.query.collection .first documents] } }
  | loadMoreFailed (request : PageRequest Podcast) (err : FirestoreError) :
      Effect screen (.loadMoreResponse request (.error err)) { screen with
        paging := (screen.paging.loadMoreResponse request (.error err)).1 }
  | loadMore (request : PageRequest Podcast) (documents : List DocumentSnapshot) :
      Effect screen (.loadMoreResponse request (.snapshot documents)) { screen with
        controller := screen.controller.appendToCurrent
          (documents.map (Episode.ofDocument request.query.collection))
        paging := (screen.paging.loadMoreResponse request (.snapshot documents)).1 }
  | scrolled (y height tableHeight : ℚ) :
      Effect screen (.scrollViewDidScroll y height tableHeight) screen
  | loadMoreData (y height tableHeight : ℚ) (podcast : Podcast) (paging : Paging Podcast)
      (displayed : screen.controller.displayedPodcast = some podcast)
      (call : screen.paging.loadMoreData podcast.name podcast = .ok paging) :
      Effect screen (.scrollViewDidScroll y height tableHeight) { screen with paging }
  | moved (e : PodcastScreenEvent) (controller : PodcastViewController) (move : e.isMove)
      (moved : PodcastViewController.Moved screen.controller controller) :
      Effect screen e { screen with controller }

namespace Inv

/-- One event does one of the things listed. -/
theorem effect (h : Inv collections pes screen) {e : PodcastScreenEvent}
    (hen : Enabled collections screen e) (hstep : screen.step e = .ok screen') :
    Effect screen e screen' := by
  cases e with
  | podcastListResponse response =>
    cases response with
    | error err => exact Except.ok.inj hstep ▸ .listFailed err
    | snapshot documents =>
      rw [PodcastScreen.step, podcastListResponse_snapshot] at hstep
      split at hstep
      · rename_i hpaths
        exact Except.ok.inj hstep ▸ .listed documents hpaths
      · cases hstep
  | firstPageResponse request response =>
    cases response with
    | error err => exact Except.ok.inj hstep ▸ .firstPageFailed request err
    | snapshot documents =>
      cases hlast : documents.getLast? with
      | none =>
        obtain rfl := List.getLast?_eq_none_iff.mp hlast
        cases hstep
      | some last =>
        rw [PodcastScreen.step, firstPageResponse_snapshot hlast] at hstep
        exact Except.ok.inj hstep ▸ .firstPage request documents last hlast
  | loadMoreResponse request response =>
    cases response with
    | error err => exact Except.ok.inj hstep ▸ .loadMoreFailed request err
    | snapshot documents =>
      rw [PodcastScreen.step, loadMoreResponse_snapshot documents h.controller.nonneg
        (h.currentIndex_lt hen.1)] at hstep
      exact Except.ok.inj hstep ▸ .loadMore request documents
  | scrollViewDidScroll y height tableHeight =>
    rcases scrollViewDidScroll_eq_ok hstep with rfl | ⟨podcast, paging, hpodcast, hcall, rfl⟩
    · exact .scrolled y height tableHeight
    · exact .loadMoreData y height tableHeight podcast paging hpodcast hcall
  | swipeLeftToRight =>
    obtain ⟨controller, haction, rfl⟩ := (onController_eq_ok _).mp hstep
    exact .moved _ controller rfl (.swipeLeftToRight h.controller haction)
  | swipeRightToLeft =>
    obtain ⟨controller, haction, rfl⟩ := (onController_eq_ok _).mp hstep
    exact .moved _ controller rfl (.swipeRightToLeft h.controller haction)
  | didSelectItemAt row =>
    obtain ⟨controller, haction, rfl⟩ :=
      (onController_eq_ok (·.positionCellWithIdexPath row)).mp hstep
    have hlt : (row : ℤ) < screen.controller.arrayPageListPodcast.length :=
      Int.ofNat_lt.mpr (h.controller.length_eq ▸ hen)
    exact .moved _ controller rfl
      (.positionCellWithIdexPath h.controller (Int.natCast_nonneg row) hlt haction)

/-- One event keeps the invariant. -/
theorem step (h : Inv collections pes screen) {e : PodcastScreenEvent}
    (hen : Enabled collections screen e) (hstep : screen.step e = .ok screen') :
    Inv collections (pes ++ screen.pagingEvents e) screen' := by
  have hpaging := paging_run_of_step h.paging hen hstep
  have hfetched : fetchedNames (pes ++ screen.pagingEvents e) =
      fetchedNames pes ++ fetchedNames (screen.pagingEvents e) := List.filterMap_append
  rw [fetchedNames_pagingEvents] at hfetched
  cases h.effect hen hstep with
  | listFailed err =>
    -- no first page will ever be asked for
    exact ⟨h.controller, hpaging,
      .inl (by rw [hfetched, h.fetchedNames_of_pending hen.1]; rfl), h.loadMores⟩
  | listed documents hpaths =>
    obtain ⟨hpending, rfl⟩ := hen
    refine ⟨h.controller, hpaging, .inr ⟨rfl, ?_⟩, h.loadMores⟩
    rw [hfetched, h.fetchedNames_of_pending hpending]
    rfl
  | firstPageFailed request err =>
    exact ⟨h.controller, hpaging, by simpa [hfetched] using h.fetched, h.loadMores⟩
  | firstPage request documents last hlast =>
    refine ⟨h.controller.showPodcast _, hpaging, by simpa [hfetched] using h.fetched, fun hne => ?_⟩
    -- a load-more request in flight outlives the arrival, and so does the page on display
    have hdisplayed := h.loadMores hne
    simp only [PodcastViewController.showPodcast]
    split
    · simp
    · exact hdisplayed
  | loadMoreFailed request err =>
    exact ⟨h.controller, hpaging, by simpa [hfetched] using h.fetched,
      fun _ => h.loadMores (List.ne_nil_of_mem hen.1)⟩
  | loadMore request documents =>
    exact ⟨h.controller.appendToCurrent (h.currentIndex_lt hen.1) _, hpaging,
      by simpa [hfetched] using h.fetched, fun _ => by simp [PodcastViewController.appendToCurrent]⟩
  | scrolled y height tableHeight =>
    exact ⟨h.controller, hpaging, by simpa [hfetched] using h.fetched, h.loadMores⟩
  | loadMoreData y height tableHeight podcast paging hpodcast hcall =>
    exact ⟨h.controller, hpaging, by simpa [hfetched] using h.fetched,
      h.displayed_of_loadMoreData hpodcast hcall⟩
  | moved _ controller hmove hmoved =>
    refine ⟨hmoved.inv, hpaging, ?_, fun hne => hmoved.displayed (h.loadMores hne)⟩
    simpa [pagingEvents_of_isMove hmove] using h.fetched

end Inv

/-- The invariant holds at the end of every run. -/
theorem inv_of_run {es : List PodcastScreenEvent}
    (h : (machine collections).Run es screen) : ∃ pes, Inv collections pes screen := by
  induction h with
  | nil => exact ⟨[], Inv.init⟩
  | snoc _ hen hstep ih =>
    obtain ⟨pes, hinv⟩ := ih
    exact ⟨_, hinv.step hen hstep⟩

end PodcastScreen

end BingePodcast
