import BingePodcast.Spec.PodcastScreenPages
import BingePodcast.Spec.PagingComplete

/-!
# Every podcast can be read to its end

Whatever has happened on the podcast screen, as long as no further page went astray: a user
can bring each page on display by swipes, and scroll on it until its podcast is read, if only
the requests of the scrolls are answered. The one that is in flight at the start comes first,
as the service issues no other before its answer or error.

## Key results

- `PodcastScreen.reaches_displays`: swipes lead from any page to any other
- `PodcastScreen.reaches_more`: where a cursor is left, a scroll brings the next page
- `every_page_can_be_read`: each podcast can be read to its end on its own page, by swipes,
  scrolls and the answers to scrolls alone
-/

namespace BingePodcast

open FirebaseService (podcastLimit)

/-! ## Swiping to a page -/

namespace PodcastViewController

variable {controller controller' : PodcastViewController} {index : ℤ} {i : Nat}

theorem Moved.trans {controller₁ controller₂ controller₃ : PodcastViewController}
    (h₁ : Moved controller₁ controller₂) (h₂ : Moved controller₂ controller₃) :
    Moved controller₁ controller₃ where
  inv := h₂.inv
  podcastEpisode := h₂.podcastEpisode.trans h₁.podcastEpisode
  arrayPageListPodcast := h₂.arrayPageListPodcast.trans h₁.arrayPageListPodcast
  displayed := h₂.displayed ∘ h₁.displayed

/-- A page on display is one of the pages. -/
def DisplaysPage (controller : PodcastViewController) : Prop :=
  ∀ i, controller.displayed = .page i → i < controller.arrayPageListPodcast.length

theorem displaysPage_showPage (hnonneg : 0 ≤ index)
    (hlt : index < controller.arrayPageListPodcast.length) :
    (controller.showPage index).DisplaysPage := by
  intro i hi
  obtain rfl : index.toNat = i := Displayed.page.inj hi
  show index.toNat < controller.arrayPageListPodcast.length
  omega

/-- A swipe or a tap displays a page, or what was displayed before. -/
theorem DisplaysPage.move (h : controller.DisplaysPage) (hinv : controller.Inv) :
    (∀ controller', controller.swipeLeftToRight = .ok controller' → controller'.DisplaysPage) ∧
    (∀ controller', controller.swipeRightToLeft = .ok controller' → controller'.DisplaysPage) ∧
    ∀ (row : Nat) controller', controller.positionCellWithIdexPath row = .ok controller' →
      controller'.DisplaysPage := by
  have hnonneg := hinv.nonneg
  refine ⟨fun controller' hswipe => ?_, fun controller' hswipe => ?_, fun row controller' htap => ?_⟩
  · -- a swipe back to a page that is not there traps
    rw [swipeLeftToRight_eq hinv] at hswipe
    split at hswipe
    · exact Except.ok.inj hswipe ▸ h
    · split at hswipe
      · exact Except.ok.inj hswipe ▸ displaysPage_showPage (by omega) (by omega)
      · cases hswipe
  · rw [swipeRightToLeft_eq hinv] at hswipe
    obtain rfl := Except.ok.inj hswipe
    split
    · exact displaysPage_showPage (by omega) ‹_›
    · split <;> exact h
  · -- a tap displays a page next to the current one, whichever cell it was on
    cases lt_trichotomy (row : ℤ) controller.currentIndex with
    | inl hback =>
      rw [positionCellWithIdexPath_of_lt (Int.natCast_nonneg row) hback] at htap
      split at htap
      · obtain rfl := Except.ok.inj htap
        have hpage : (controller.showPage (controller.currentIndex - 1)).DisplaysPage :=
          displaysPage_showPage (by omega) (by omega)
        exact hpage
      · cases htap
    | inr hrest =>
      cases hrest with
      | inl hsame =>
        rw [hsame, positionCellWithIdexPath_self] at htap
        exact Except.ok.inj htap ▸ h
      | inr hforward =>
        rw [positionCellWithIdexPath_of_gt hinv hforward] at htap
        obtain rfl := Except.ok.inj htap
        split
        · have hpage : (controller.showPage (controller.currentIndex + 1)).DisplaysPage :=
            displaysPage_showPage (by omega) ‹_›
          exact hpage
        · exact h

/-- The page at `i` is on display and selected. -/
structure Displays (controller : PodcastViewController) (i : Nat) : Prop where
  displayed : controller.displayed = .page i
  currentIndex : controller.currentIndex = i

theorem displays_showPage (controller : PodcastViewController) (i : Nat) :
    (controller.showPage i).Displays i := ⟨rfl, rfl⟩

end PodcastViewController

/-! ## Screens without a stray page -/

/-- A swipe, a scroll, or the answer to a scroll. -/
def PodcastScreenEvent.IsReading : PodcastScreenEvent → Prop
  | .swipeLeftToRight | .swipeRightToLeft | .scrollViewDidScroll _ _ _ | .loadMoreResponse _ _ =>
    True
  | .podcastListResponse _ | .firstPageResponse _ _ | .didSelectItemAt _ => False

/-- What was delivered stays delivered. -/
theorem Paging.FirstPageDelivered.mono {κ : Type} {sys sys' : Paging κ} {podcastName : String}
    (h : sys.FirstPageDelivered podcastName) (hextends : sys.completions <+: sys'.completions) :
    sys'.FirstPageDelivered podcastName := by
  obtain ⟨c, hc, hfirst⟩ := h
  exact ⟨c, (hextends.filter _).subset hc, hfirst⟩

namespace PodcastScreen

variable {collections : Collections} {screen screen' : PodcastScreen}
variable {pes : List (PagingEvent Podcast)} {es : List PodcastScreenEvent} {e : PodcastScreenEvent}
variable {i : Nat}

/-- The runs of the screen in which every further page goes to the page of its podcast. -/
abbrev isolating (collections : Collections) : Machine PodcastScreen PodcastScreenEvent Trap :=
  (machine collections).when PageCondition

/-- Swipes, scrolls and the answers to scrolls lead from a screen to another, every further
    page going to the page of its podcast. -/
abbrev ReadsTo (collections : Collections) : PodcastScreen → PodcastScreen → Prop :=
  (isolating collections).Reaches PodcastScreenEvent.IsReading

/-- What these runs keep: pages are isolated, a page on display exists, and the first page
    of every podcast shown was delivered. -/
structure ReadingInv (collections : Collections) (screen : PodcastScreen) : Prop where
  isolated : Isolated collections screen
  displaysPage : screen.controller.DisplaysPage
  delivered : ∀ page ∈ screen.controller.arrayPageListPodcast,
    screen.paging.FirstPageDelivered page.name

theorem displaysPage_step (h : screen.controller.DisplaysPage) (hinv : Inv collections pes screen)
    (hen : Enabled collections screen e) (hstep : screen.step e = .ok screen') :
    screen'.controller.DisplaysPage := by
  obtain ⟨hback, hforward, htap⟩ := h.move hinv.controller
  cases heffect : hinv.effect hen hstep with
  | firstPage request documents last hlast =>
    -- the sixth podcast displays the first page, any other leaves the display alone
    intro i hi
    simp only [PodcastViewController.showPodcast, List.length_append, List.length_singleton] at hi ⊢
    split at hi
    · obtain rfl := Displayed.page.inj hi
      omega
    · exact Nat.lt_succ_of_lt (h i hi)
  | loadMore request documents =>
    intro i hi
    have hnonneg := hinv.controller.nonneg
    have hlt := hinv.currentIndex_lt hen.1
    obtain rfl := Displayed.page.inj hi
    rw [PodcastViewController.appendToCurrent, List.length_modify]
    omega
  | moved _ controller hmove hmoved =>
    cases e with
    | swipeLeftToRight =>
      obtain ⟨controller', haction, heq⟩ := (onController_eq_ok _).mp hstep
      exact heq ▸ hback controller' haction
    | swipeRightToLeft =>
      obtain ⟨controller', haction, heq⟩ := (onController_eq_ok _).mp hstep
      exact heq ▸ hforward controller' haction
    | didSelectItemAt row =>
      obtain ⟨controller', haction, heq⟩ :=
        (onController_eq_ok (·.positionCellWithIdexPath row)).mp hstep
      exact heq ▸ htap row controller' haction
    | podcastListResponse response => cases hmove
    | firstPageResponse request response => cases hmove
    | loadMoreResponse request response => cases hmove
    | scrollViewDidScroll y height tableHeight => cases hmove
  | listFailed err => exact h
  | listed documents hpaths => exact h
  | firstPageFailed request err => exact h
  | loadMoreFailed request err => exact h
  | scrolled y height tableHeight => exact h
  | loadMoreData y height tableHeight podcast paging hpodcast hcall => exact h

/-- A page comes with the first page of its podcast, and keeps its podcast. -/
theorem delivered_step (hinv : Inv collections pes screen) (hpages : PagesInv screen)
    (h : ∀ page ∈ screen.controller.arrayPageListPodcast,
      screen.paging.FirstPageDelivered page.name)
    (hen : Enabled collections screen e) (hstep : screen.step e = .ok screen') :
    ∀ page ∈ screen'.controller.arrayPageListPodcast,
      screen'.paging.FirstPageDelivered page.name := by
  cases hinv.effect hen hstep with
  | firstPage request documents last hlast =>
    intro page hpage
    cases List.mem_append.mp hpage with
    | inl hpage => exact (h page hpage).mono (List.prefix_append _ _)
    | inr hpage =>
      obtain rfl := List.mem_singleton.mp hpage
      have hname : request.query.collection = request.onCompletion.name := by
        rw [hpages.firstPages request hen.1]
        rfl
      refine ⟨.delivered request.query.collection .first documents, ?_, rfl, rfl⟩
      exact List.mem_filter.mpr ⟨by simp, beq_iff_eq.mpr hname⟩
  | loadMore request documents =>
    intro page hpage
    -- the page that got the episodes has the name it had
    have hnames : (screen.controller.appendToCurrent
        (documents.map (Episode.ofDocument request.query.collection))).arrayPageListPodcast.map
        PageListPodcast.name = screen.controller.arrayPageListPodcast.map PageListPodcast.name :=
      List.map_modify_of_forall fun page => page.name_append _
    obtain ⟨page', hpage', heq⟩ := List.mem_map.mp (hnames ▸ List.mem_map_of_mem hpage)
    exact heq ▸ (h page' hpage').mono (List.prefix_append _ _)
  | firstPageFailed request err =>
    exact fun page hpage => (h page hpage).mono (List.prefix_append _ _)
  | loadMoreFailed request err =>
    exact fun page hpage => (h page hpage).mono (List.prefix_append _ _)
  | loadMoreData y height tableHeight podcast paging hpodcast hcall =>
    cases Paging.loadMoreData_cases hcall with
    | inl hdropped => exact hdropped.2 ▸ h
    | inr hissued =>
      obtain ⟨last, -, -, -, rfl⟩ := hissued
      exact h
  | moved _ controller hmove hmoved => exact hmoved.arrayPageListPodcast ▸ h
  | listFailed err => exact h
  | listed documents hpaths => exact h
  | scrolled y height tableHeight => exact h

/-- The invariant holds at the end of every run without a stray page. -/
theorem readingInv_of_run (htitles : (collections.podcasts.map Podcast.title).Nodup)
    (h : (isolating collections).Run es screen) : ReadingInv collections screen := by
  induction h with
  | nil => exact ⟨by simp [Isolated, machine, Machine.when], by
      simp [PodcastViewController.DisplaysPage, machine, Machine.when],
      by simp [machine, Machine.when]⟩
  | snoc hrun hen hstep ih =>
    obtain ⟨pes, hinv, honce, hpages⟩ := pagesInv_of_run htitles hrun.of_when
    exact ⟨(isolated_step_iff hinv honce hpages ih.isolated hen.1 hstep
        ((hinv.step hen.1 hstep).fetchedOnce htitles)).mpr hen.2,
      displaysPage_step ih.displaysPage hinv hen.1 hstep,
      delivered_step hinv hpages ih.delivered hen.1 hstep⟩

/-! ## Swipes -/

theorem reaches_swipeLeft (hinv : screen.controller.Inv)
    (hindex : screen.controller.currentIndex = i + 1)
    (hle : i + 1 ≤ screen.controller.arrayPageListPodcast.length) :
    ReadsTo collections screen
      { screen with controller := screen.controller.showPage i } := by
  refine .of_step (e := PodcastScreenEvent.swipeLeftToRight) trivial ⟨trivial, trivial⟩
    ((onController_eq_ok _).mpr ⟨_, ?_, rfl⟩)
  rw [PodcastViewController.swipeLeftToRight_eq hinv, if_neg (by omega), if_pos (by omega), hindex,
    add_sub_cancel_right]

theorem reaches_swipeRight (hinv : screen.controller.Inv)
    (hindex : screen.controller.currentIndex = i)
    (hlt : i + 1 < screen.controller.arrayPageListPodcast.length) :
    ReadsTo collections screen
      { screen with controller := screen.controller.showPage (i + 1 : Nat) } := by
  refine .of_step (e := PodcastScreenEvent.swipeRightToLeft) trivial ⟨trivial, trivial⟩
    ((onController_eq_ok _).mpr ⟨_, ?_, rfl⟩)
  rw [PodcastViewController.swipeRightToLeft_eq hinv, if_pos (by omega), hindex]
  rfl

/-- The screen with another page on display. -/
def WithController (screen screen' : PodcastScreen) : Prop :=
  ∃ controller, screen' = { screen with controller } ∧
    PodcastViewController.Moved screen.controller controller

/-- One swipe brings the page on display in line with the index, if it is not. -/
theorem reaches_displays_some (collections : Collections) (hinv : screen.controller.Inv)
    (hpage : screen.controller.DisplaysPage)
    (hdisplayed : screen.controller.displayed ≠ .initialVC) :
    ∃ screen' j, ReadsTo collections screen screen' ∧
      WithController screen screen' ∧ screen'.controller.Displays j := by
  have hnonneg := hinv.nonneg
  have hlt := hinv.inRange hdisplayed
  obtain ⟨j, hj⟩ := Int.eq_ofNat_of_zero_le hnonneg
  cases j with
  | succ j =>
    refine ⟨_, j, reaches_swipeLeft hinv (by simpa using hj) (by omega), ⟨_, rfl, ?_⟩,
      PodcastViewController.displays_showPage _ j⟩
    exact .showPage hinv (by omega) (by omega)
  | zero =>
    by_cases hmore : 1 < screen.controller.arrayPageListPodcast.length
    · refine ⟨_, 1, reaches_swipeRight (i := 0) hinv (by simpa using hj) (by omega),
        ⟨_, rfl, ?_⟩, PodcastViewController.displays_showPage _ 1⟩
      exact .showPage hinv (by omega) (by omega)
    · -- there is one page only, and it is on display
      cases hpageDisplayed : screen.controller.displayed with
      | initialVC => exact absurd hpageDisplayed hdisplayed
      | page k =>
        have hk := hpage k hpageDisplayed
        obtain rfl : k = 0 := by omega
        exact ⟨screen, 0, .refl screen, ⟨_, rfl, .refl hinv⟩, hpageDisplayed, by simpa using hj⟩

/-- Between pages on display, a swipe leads one page nearer to the page at `i`. -/
theorem reaches_nearer (hwith : WithController screen screen') {k : Nat}
    (hk : screen'.controller.Displays k) (hne : k ≠ i)
    (hi : i < screen.controller.arrayPageListPodcast.length) :
    ∃ screen'', ReadsTo collections screen' screen'' ∧
      WithController screen screen'' ∧ (∃ j, screen''.controller.Displays j) ∧
      (screen''.controller.currentIndex - i).natAbs <
        (screen'.controller.currentIndex - i).natAbs := by
  obtain ⟨controller, rfl, hmoved⟩ := hwith
  have hlength := hmoved.arrayPageListPodcast
  have hindex : controller.currentIndex = k := hk.currentIndex
  have hcurrent := hmoved.inv.inRange (by
    rw [show controller.displayed = .page k from hk.displayed]
    simp)
  cases Nat.lt_or_gt_of_ne hne with
  | inl hup =>
    refine ⟨_, reaches_swipeRight hmoved.inv hindex (by rw [hlength]; omega),
      ⟨_, rfl, hmoved.trans (.showPage hmoved.inv (by omega) (by rw [hlength]; omega))⟩,
      ⟨k + 1, PodcastViewController.displays_showPage _ _⟩, ?_⟩
    simp only [PodcastViewController.showPage, hindex]
    omega
  | inr hdown =>
    -- the page on display is not the first one, so a swipe back does not trap
    obtain ⟨j, rfl⟩ : ∃ j, k = j + 1 := ⟨k - 1, by omega⟩
    have hle : j + 1 ≤ controller.arrayPageListPodcast.length := by omega
    refine ⟨_, reaches_swipeLeft hmoved.inv (by simpa using hindex) hle,
      ⟨_, rfl, hmoved.trans (.showPage hmoved.inv (by omega) (by omega))⟩,
      ⟨j, PodcastViewController.displays_showPage _ _⟩, ?_⟩
    simp only [PodcastViewController.showPage, hindex]
    omega

/-- Swipes lead to every page. -/
theorem reaches_displays (h : (isolating collections).Run es screen)
    (hinv : screen.controller.Inv) (hpage : screen.controller.DisplaysPage)
    (hdisplayed : screen.controller.displayed ≠ .initialVC)
    (hi : i < screen.controller.arrayPageListPodcast.length) :
    ∃ screen', ReadsTo collections screen screen' ∧
      WithController screen screen' ∧ screen'.controller.Displays i := by
  obtain ⟨screen₁, j, hreach, hwith, hj⟩ :=
    reaches_displays_some collections hinv hpage hdisplayed
  obtain ⟨es₁, -, hrun⟩ := h.extend hreach
  have hnearer : ∀ es s, (isolating collections).Run es s →
      (WithController screen s ∧ ∃ k, s.controller.Displays k) → ¬ s.controller.Displays i →
      ∃ t, ReadsTo collections s t ∧
        (WithController screen t ∧ ∃ k, t.controller.Displays k) ∧
        (t.controller.currentIndex - i).natAbs < (s.controller.currentIndex - i).natAbs := by
    intro es s _ hs hnot
    obtain ⟨hwith, k, hk⟩ := hs
    obtain ⟨t, hst, hwith', hdisplays, hlt⟩ :=
      reaches_nearer (i := i) hwith hk (fun heq => hnot (heq ▸ hk)) hi
    exact ⟨t, hst, ⟨hwith', hdisplays⟩, hlt⟩
  obtain ⟨screen₂, hreach₂, ⟨hwith₂, -⟩, hi₂⟩ := hrun.reaches_of_decreasing
    (fun s : PodcastScreen => (s.controller.currentIndex - i).natAbs) hnearer ⟨hwith, j, hj⟩
  exact ⟨screen₂, hreach.trans hreach₂, hwith₂, hi₂⟩

/-! ## Scrolls -/

/-- A request in flight can be answered, if only by an error. -/
theorem reaches_idle (collections : Collections) (hloading : LoadingInv screen.paging)
    (err : FirestoreError) :
    ∃ paging, ReadsTo collections screen { screen with paging } ∧
      paging.loadMores = [] := by
  cases hrequests : screen.paging.loadMores with
  | nil => exact ⟨screen.paging, .refl screen, hrequests⟩
  | cons request requests =>
    have hmem : request ∈ screen.paging.loadMores := hrequests ▸ List.mem_cons_self
    refine ⟨_, .of_step (e := PodcastScreenEvent.loadMoreResponse request (.error err)) trivial
      ⟨⟨hmem, trivial⟩, trivial⟩ (loadMoreResponse_error err), ?_⟩
    simp [Paging.loadMoreResponse_error, (hloading.loading hmem).2]

/-- Where a cursor is left and nothing is outstanding, scrolling the page on display brings
    its next page. -/
theorem reaches_more (hinv : Inv collections pes screen) (hi : screen.controller.Displays i)
    {page : PageListPodcast} (hpage : screen.controller.arrayPageListPodcast[i]? = some page)
    (hidle : screen.paging.loadMores = []) {last : DocumentSnapshot}
    (hcursor : screen.paging.service.arrayLastDocument page.name = some last) :
    ∃ screen', ReadsTo collections screen screen' ∧
      screen'.controller.Displays i ∧
      screen'.controller.arrayPageListPodcast.map PageListPodcast.name =
        screen.controller.arrayPageListPodcast.map PageListPodcast.name ∧
      screen'.paging.loadMores = [] ∧
      screen'.paging.moreDelivered page.name = screen.paging.moreDelivered page.name + 1 := by
  obtain ⟨hlt, hget⟩ := List.getElem?_eq_some_iff.mp hpage
  have hpodcast : screen.controller.displayedPodcast = some page.podcastEpisode.podcast := by
    simp [PodcastViewController.displayedPodcast, hi.displayed, hpage]
  -- the scroll issues a request at the cursor
  let request : PageRequest Podcast :=
    ⟨⟨page.name, some last, some podcastLimit⟩, page.podcastEpisode.podcast⟩
  let loading : PodcastScreen := { screen with paging := { screen.paging with
    service := { screen.paging.service with isLoading := true }
    loadMores := [request] } }
  have hscroll : screen.step (.scrollViewDidScroll 0 0 0) = .ok loading := by
    have hcall := (pagingInv_of_run hinv.paging).loadMoreData_eq_request hcursor hidle
      page.podcastEpisode.podcast
    have hbottom : (0 : ℚ) ≥ 0 - 0 - 150 := by decide +kernel
    simp only [PodcastScreen.step, scrollViewDidScroll, if_pos hbottom, hpodcast]
    rw [show page.podcastEpisode.podcast.name = page.name from rfl, hcall]
    rfl
  -- the answer goes to the page on display
  let documents := request.query.documents collections
  have hanswer := @loadMoreResponse_snapshot loading request documents
    hinv.controller.nonneg (by
      show screen.controller.currentIndex < _
      rw [hi.currentIndex]
      exact_mod_cast hlt)
  have hcondition : loading.PageCondition (.loadMoreResponse request (.snapshot documents)) := by
    intro _
    show screen.controller.arrayPageListPodcast[screen.controller.currentIndex.toNat]?.map _ = _
    rw [hi.currentIndex, Int.toNat_natCast, hpage]
    rfl
  have hscrolled : ReadsTo collections screen loading :=
    .of_step (e := PodcastScreenEvent.scrollViewDidScroll 0 0 0) trivial ⟨trivial, trivial⟩ hscroll
  have hen : Enabled collections loading (.loadMoreResponse request (.snapshot documents)) :=
    ⟨List.mem_singleton_self request, rfl⟩
  have hread := hscrolled.trans (.of_step
    (e := PodcastScreenEvent.loadMoreResponse request (.snapshot documents)) trivial
    ⟨hen, hcondition⟩ hanswer)
  refine ⟨_, hread, ⟨?_, hi.currentIndex⟩, List.map_modify_of_forall
    fun page => page.name_append _, ?_, ?_⟩
  · show Displayed.page screen.controller.currentIndex.toNat = .page i
    rw [hi.currentIndex, Int.toNat_natCast]
  · simp [Paging.loadMoreResponse_snapshot, loading]
  · rw [Paging.moreDelivered, Paging.completionsOf_append screen.paging rfl]
    simp [Paging.moreDelivered, Completion.isSuccess, request]

/-- Scrolling on a page exhausts its podcast. -/
theorem reaches_exhausted (htitles : (collections.podcasts.map Podcast.title).Nodup)
    (h : (isolating collections).Run es screen) (hi : screen.controller.Displays i)
    {page : PageListPodcast} (hpage : screen.controller.arrayPageListPodcast[i]? = some page)
    (hidle : screen.paging.loadMores = []) :
    ∃ screen', ReadsTo collections screen screen' ∧
      screen'.controller.Displays i ∧
      screen'.controller.arrayPageListPodcast.map PageListPodcast.name =
        screen.controller.arrayPageListPodcast.map PageListPodcast.name ∧
      screen'.paging.service.arrayLastDocument page.name = none := by
  let names := screen.controller.arrayPageListPodcast.map PageListPodcast.name
  let Reading (s : PodcastScreen) : Prop := s.controller.Displays i ∧
    s.controller.arrayPageListPodcast.map PageListPodcast.name = names ∧ s.paging.loadMores = []
  let answers := (collections page.name).documents.length ⌈/⌉ podcastLimit
  -- each scroll brings a page, of which there are at most `answers`
  have hmore : ∀ es s, (isolating collections).Run es s → Reading s →
      ¬ s.paging.service.arrayLastDocument page.name = none →
      ∃ t, ReadsTo collections s t ∧ Reading t ∧
        answers - t.paging.moreDelivered page.name <
          answers - s.paging.moreDelivered page.name := by
    intro es s hrun hs hcursor
    obtain ⟨hdisplays, hnames, hidle⟩ := hs
    obtain ⟨last, hlast⟩ := Option.ne_none_iff_exists'.mp hcursor
    obtain ⟨pes, hinv, honce, -⟩ := pagesInv_of_run htitles hrun.of_when
    have hname : (s.controller.arrayPageListPodcast.map PageListPodcast.name)[i]? =
        some page.name := by
      rw [hnames, List.getElem?_map, hpage]
      rfl
    rw [List.getElem?_map, Option.map_eq_some_iff] at hname
    obtain ⟨page', hpage', heq⟩ := hname
    rw [← heq] at hlast
    obtain ⟨t, hreach, hdisplays', hnames', hidle', hcount⟩ :=
      reaches_more hinv hdisplays hpage' hidle hlast
    rw [heq] at hlast hcount
    obtain ⟨pages, hreads⟩ := (pagingInv_of_run hinv.paging).reads page.name (honce.name _)
    have hpos : 0 < pages := by
      cases pages with
      | zero => rw [hreads.cursor_eq] at hlast; cases hlast
      | succ k => exact Nat.succ_pos k
    have hleft := (hreads.cursor_isSome_iff hpos).mp (Option.isSome_of_eq_some hlast)
    have hdone : s.paging.moreDelivered page.name = pages - 1 := hreads.more_eq
    refine ⟨t, hreach, ⟨hdisplays', hnames'.trans hnames, hidle'⟩, ?_⟩
    rw [hcount, hdone]
    show answers - (pages - 1 + 1) < answers - (pages - 1)
    have : pages - 1 < answers := hleft
    omega
  obtain ⟨t, hreach, ⟨hdisplays, hnames, -⟩, hcursor⟩ := h.reaches_of_decreasing
    (fun s : PodcastScreen => answers - s.paging.moreDelivered page.name) hmore ⟨hi, rfl, hidle⟩
  exact ⟨t, hreach, hdisplays, hnames, hcursor⟩

end PodcastScreen

/-- Every podcast can be read to its end. After any run in which no further page went astray
    and a page is on display, for every page there is a continuation of the run by swipes,
    scrolls and the answers to scrolls, in which again none goes astray, that ends with this
    page on display, holding all documents of its podcast in their order. -/
theorem every_page_can_be_read (collections : Collections)
    (htitles : (collections.podcasts.map Podcast.title).Nodup) {es : List PodcastScreenEvent}
    {screen : PodcastScreen}
    (h : ((PodcastScreen.machine collections).when PodcastScreen.PageCondition).Run es screen)
    (hdisplayed : screen.controller.displayed ≠ .initialVC) {i : Nat} {page : PageListPodcast}
    (hpage : screen.controller.arrayPageListPodcast[i]? = some page) :
    ∃ es' screen', (∀ e ∈ es', e.IsReading) ∧
      ((PodcastScreen.machine collections).when PodcastScreen.PageCondition).Run
        (es ++ es') screen' ∧
      screen'.controller.displayed = .page i ∧
      screen'.controller.arrayPageListPodcast[i]?.map (·.podcastEpisode.episode) =
        some ((collections page.name).documents.map (Episode.ofDocument page.name)) := by
  obtain ⟨pes, hinv⟩ := PodcastScreen.inv_of_run h.of_when
  have hscreen := PodcastScreen.readingInv_of_run htitles h
  -- first the request in flight, then the page, then its podcast
  obtain ⟨paging, hreach₁, hidle⟩ := PodcastScreen.reaches_idle collections
    (pagingInv_of_run hinv.paging).isLoading ⟨"offline"⟩
  obtain ⟨es₁, -, hrun₁⟩ := h.extend hreach₁
  obtain ⟨hlt, -⟩ := List.getElem?_eq_some_iff.mp hpage
  obtain ⟨screen₂, hreach₂, ⟨controller, rfl, hmoved⟩, hdisplays⟩ :=
    PodcastScreen.reaches_displays hrun₁ hinv.controller hscreen.displaysPage hdisplayed hlt
  obtain ⟨es₂, -, hrun₂⟩ := hrun₁.extend hreach₂
  have hpage₂ : controller.arrayPageListPodcast[i]? = some page := by
    rw [hmoved.arrayPageListPodcast]
    exact hpage
  obtain ⟨screen₃, hreach₃, hdisplays₃, hnames, hcursor⟩ :=
    PodcastScreen.reaches_exhausted htitles hrun₂ hdisplays hpage₂ hidle
  obtain ⟨es', hreading, hrun⟩ := h.extend ((hreach₁.trans hreach₂).trans hreach₃)
  refine ⟨es', screen₃, hreading, hrun, hdisplays₃.displayed, ?_⟩
  -- without a cursor everything was delivered, and the page holds what was delivered
  obtain ⟨pes₃, hinv₃, honce₃, -⟩ := PodcastScreen.pagesInv_of_run htitles hrun.of_when
  have hsound := (pagingInv_of_run hinv₃.paging).sound honce₃
  have hscreen₃ := PodcastScreen.readingInv_of_run htitles hrun
  have hname : (screen₃.controller.arrayPageListPodcast.map PageListPodcast.name)[i]? =
      some page.name := by
    rw [hnames, List.getElem?_map, hpage₂]
    rfl
  rw [List.getElem?_map, Option.map_eq_some_iff] at hname
  obtain ⟨page', hpage', heq⟩ := hname
  have hmem := List.mem_of_getElem? hpage'
  have hexhausted : screen₃.paging.Exhausted page'.name := by
    cases (hsound.noCursor page'.name).mp (heq ▸ hcursor) with
    | inl hnever => exact absurd (hscreen₃.delivered page' hmem) hnever
    | inr hexhausted => exact hexhausted
  rw [hpage', Option.map_some, (hscreen₃.isolated page' hmem).1, hsound.episodes,
    hsound.exhausted _ hexhausted, heq]

theorem every_page_can_be_read_scrollB :
    ∃ es' screen', (∀ e ∈ es', e.IsReading) ∧
      ((PodcastScreen.machine longAndShort).when PodcastScreen.PageCondition).Run
        (scrollB ++ es') screen' ∧
      screen'.controller.displayed = .page 0 ∧
      screen'.controller.arrayPageListPodcast[0]?.map (·.podcastEpisode.episode) =
        some ((longAndShort "A").documents.map (Episode.ofDocument "A")) :=
  have hrun := Machine.run_of_replay
    ((PodcastScreen.machine longAndShort).when PodcastScreen.PageCondition) scrollB
    (by decide +kernel)
  every_page_can_be_read longAndShort (by decide) hrun (by decide +kernel)
    (show _ = some (PageListPodcast.mk ⟨⟨some "A", none, none⟩,
      (longAndShort "A").documents.map (Episode.ofDocument "A")⟩) by decide +kernel)

end BingePodcast
