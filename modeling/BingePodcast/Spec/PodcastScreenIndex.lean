import BingePodcast.Spec.PodcastScreenInvariant

/-!
# The index of the podcast screen

`currentIndex` counts the podcasts that arrive, and is taken for the index of a page when
the user swipes. The two agree only where a swipe finds the counter within the pages, and
the counter returns to the first page only at the literal 6. This file says exactly when
`currentIndex` stays in range, and exactly when the initial load ends on the first page.

## Key results

- `PodcastScreen.inRange_step_iff`: the events that keep the index in range, one by one
- `accesses_in_range_iff`: the index is in range and nothing traps on it, all along a run
  and in its next event, exactly when every event meets `RangeCondition`
- `PodcastScreen.exists_step_iff`: the answers of the initial load that do not trap
- `initial_load_iff`: the initial load ends on the first page exactly when no answer traps
  and a multiple of six podcasts arrived
-/

namespace BingePodcast

namespace PodcastScreen

variable {collections : Collections} {screen screen' : PodcastScreen}
variable {pes : List (PagingEvent Podcast)} {es : List PodcastScreenEvent}

/-! ## Staying in range -/

/-- The list of podcasts and all first pages have been answered. -/
def Loaded (screen : PodcastScreen) : Prop :=
  screen.podcastListPending = false ∧ screen.paging.firstPages = []

instance (screen : PodcastScreen) : Decidable screen.Loaded :=
  inferInstanceAs (Decidable (_ ∧ _))

/-- `currentIndex` is not negative, and once all has been answered it is the index of a
    page, or 0 if there is none. -/
def InRange (screen : PodcastScreen) : Prop :=
  0 ≤ screen.controller.currentIndex ∧
  (screen.Loaded → screen.controller.currentIndex <
    max 1 (screen.controller.arrayPageListPodcast.length : ℤ))

instance (screen : PodcastScreen) : Decidable screen.InRange :=
  inferInstanceAs (Decidable (_ ∧ (_ → _)))

/-- The events that keep `currentIndex` in range. The swipes and the taps read it as the
    index of a page; the last answer of the initial load leaves the counter as that index. -/
def RangeCondition (screen : PodcastScreen) (e : PodcastScreenEvent) : Prop :=
  let currentIndex := screen.controller.currentIndex
  let count : ℤ := screen.controller.arrayPageListPodcast.length
  match e with
  | .swipeLeftToRight | .didSelectItemAt _ => currentIndex ≤ count
  | .swipeRightToLeft => screen.Loaded → 0 < count
  | .podcastListResponse (.error _) => currentIndex < max 1 count
  | .podcastListResponse (.snapshot documents) => documents = [] → currentIndex < max 1 count
  | .firstPageResponse request (.error _) =>
    screen.paging.firstPages.erase request = [] → currentIndex < max 1 count
  | .firstPageResponse request (.snapshot documents) =>
    screen.paging.firstPages.erase request = [] → documents ≠ [] →
      currentIndex < count ∨ currentIndex = 5
  | .loadMoreResponse _ _ | .scrollViewDidScroll _ _ _ => True

instance (screen : PodcastScreen) (e : PodcastScreenEvent) : Decidable (screen.RangeCondition e) :=
  match e with
  | .swipeLeftToRight => inferInstanceAs (Decidable (_ ≤ _))
  | .didSelectItemAt _ => inferInstanceAs (Decidable (_ ≤ _))
  | .swipeRightToLeft => inferInstanceAs (Decidable (_ → _))
  | .podcastListResponse (.error _) => inferInstanceAs (Decidable (_ < _))
  | .podcastListResponse (.snapshot _) => inferInstanceAs (Decidable (_ → _))
  | .firstPageResponse _ (.error _) => inferInstanceAs (Decidable (_ → _))
  | .firstPageResponse _ (.snapshot _) => inferInstanceAs (Decidable (_ → _ → _))
  | .loadMoreResponse _ _ => inferInstanceAs (Decidable True)
  | .scrollViewDidScroll _ _ _ => inferInstanceAs (Decidable True)

/-- The outcome of an event: no access out of range, and an index in range. -/
def KeepsRange (outcome : Except Trap PodcastScreen) : Prop :=
  outcome ≠ .error .indexOutOfRange ∧ ∀ screen, outcome = .ok screen → screen.InRange

@[simp] theorem keepsRange_ok : KeepsRange (.ok screen) ↔ screen.InRange := by
  simp [KeepsRange]

@[simp] theorem keepsRange_error {trap : Trap} :
    KeepsRange (.error trap) ↔ trap ≠ .indexOutOfRange := by
  simp [KeepsRange]

theorem keepsRange_podcastListResponse (h : Inv collections pes screen) {response : Response}
    (hpending : screen.podcastListPending = true) :
    KeepsRange (screen.podcastListResponse response) ↔
      screen.RangeCondition (.podcastListResponse response) := by
  have hnone := h.firstPages_of_pending hpending
  have hnonneg := h.controller.nonneg
  cases response with
  | error err =>
    rw [podcastListResponse_error, keepsRange_ok]
    simp [InRange, Loaded, RangeCondition, hnone, hnonneg]
  | snapshot documents =>
    rw [podcastListResponse_snapshot]
    split
    · simp [InRange, Loaded, RangeCondition, hnone, hnonneg]
    · -- a list that traps is not empty
      rename_i hpaths
      simp only [keepsRange_error, RangeCondition]
      refine iff_of_true (by simp) ?_
      rintro rfl
      simp at hpaths

theorem keepsRange_firstPageResponse (h : Inv collections pes screen)
    {request : PageRequest Podcast} {response : Response}
    (hmem : request ∈ screen.paging.firstPages) :
    KeepsRange (screen.firstPageResponse request response) ↔
      screen.RangeCondition (.firstPageResponse request response) := by
  have hnonneg := h.controller.nonneg
  -- first pages are asked for once the list of podcasts has arrived
  have hpending : screen.podcastListPending = false := by
    by_contra hne
    rw [h.firstPages_of_pending (Bool.eq_true_of_not_eq_false hne)] at hmem
    cases hmem
  cases response with
  | error err =>
    rw [firstPageResponse_error, keepsRange_ok]
    simp [InRange, Loaded, RangeCondition, hpending, hnonneg]
  | snapshot documents =>
    cases hlast : documents.getLast? with
    | none =>
      -- an empty page traps at the force cast, not at an index
      obtain rfl := List.getLast?_eq_none_iff.mp hlast
      simp [firstPageResponse_nil, RangeCondition]
    | some last =>
      have hne : documents ≠ [] := by
        rintro rfl
        simp at hlast
      rw [firstPageResponse_snapshot hlast, keepsRange_ok]
      -- one page more, and the counter is one up or back at 0
      simp only [InRange, Loaded, RangeCondition, hpending, PodcastViewController.showPodcast,
        List.length_append, List.length_singleton]
      split <;> grind

theorem keepsRange_loadMoreResponse (h : Inv collections pes screen)
    {request : PageRequest Podcast} (hmem : request ∈ screen.paging.loadMores)
    (response : Response) : KeepsRange (screen.loadMoreResponse request response) := by
  have hnonneg := h.controller.nonneg
  have hlt := h.currentIndex_lt hmem
  cases response with
  | error err =>
    rw [loadMoreResponse_error, keepsRange_ok]
    exact ⟨hnonneg, fun _ => lt_max_of_lt_right hlt⟩
  | snapshot documents =>
    rw [loadMoreResponse_snapshot documents hnonneg hlt, keepsRange_ok]
    refine ⟨hnonneg, fun _ => lt_max_of_lt_right ?_⟩
    simpa [PodcastViewController.appendToCurrent] using hlt

theorem keepsRange_scrollViewDidScroll (hrange : screen.InRange) (y height tableHeight : ℚ) :
    KeepsRange (screen.scrollViewDidScroll y height tableHeight) := by
  cases houtcome : screen.scrollViewDidScroll y height tableHeight with
  | error trap => simp [scrollViewDidScroll_eq_error houtcome]
  | ok t =>
    rw [keepsRange_ok]
    rcases scrollViewDidScroll_eq_ok houtcome with rfl | ⟨podcast, paging, -, hcall, rfl⟩
    · exact hrange
    · -- the index and the first pages awaited stay what they were
      rcases Paging.loadMoreData_cases hcall with ⟨-, rfl⟩ | ⟨last, -, -, -, rfl⟩ <;> exact hrange

theorem keepsRange_swipeLeftToRight (h : Inv collections pes screen) (hrange : screen.InRange) :
    KeepsRange (screen.onController (·.swipeLeftToRight)) ↔
      screen.RangeCondition .swipeLeftToRight := by
  have hnonneg := h.controller.nonneg
  simp only [onController, PodcastViewController.swipeLeftToRight_eq h.controller, RangeCondition]
  split
  · rename_i hzero
    simpa [hzero] using hrange
  · split
    · rename_i hle
      -- the page before the current one is selected
      simp only [Except.ok_bind, Except.pure_eq_ok, keepsRange_ok, hle, iff_true]
      simp only [InRange, PodcastViewController.showPage]
      grind
    · simp [*]

theorem keepsRange_swipeRightToLeft (h : Inv collections pes screen) (hrange : screen.InRange) :
    KeepsRange (screen.onController (·.swipeRightToLeft)) ↔
      screen.RangeCondition .swipeRightToLeft := by
  have hnonneg := h.controller.nonneg
  simp only [onController, PodcastViewController.swipeRightToLeft_eq h.controller, RangeCondition,
    Except.ok_bind, Except.pure_eq_ok, keepsRange_ok]
  obtain ⟨-, hlt⟩ := hrange
  simp only [InRange]
  split
  · simp only [PodcastViewController.showPage, Loaded] at hlt ⊢
    grind
  · split
    · -- at the last page nothing happens
      grind
    · -- the index moves on where there is no page: at rest only if there is none at all
      simp only [Loaded] at hlt ⊢
      grind

theorem keepsRange_didSelectItemAt (h : Inv collections pes screen) {row : Nat}
    (hlt : row < screen.controller.arrayPageListPodcast.length) :
    KeepsRange (screen.onController (·.positionCellWithIdexPath row)) ↔
      screen.RangeCondition (.didSelectItemAt row) := by
  have hnonneg := h.controller.nonneg
  -- whatever page it displays, the tap leaves the index at its own row
  have hrow : ∀ controller : PodcastViewController,
      controller.arrayPageListPodcast = screen.controller.arrayPageListPodcast →
      InRange { screen with controller := { controller with currentIndex := row } } := by
    intro controller hpages
    refine ⟨Int.natCast_nonneg row, fun _ => lt_max_of_lt_right ?_⟩
    simpa [hpages] using hlt
  simp only [onController, RangeCondition]
  rcases lt_trichotomy (row : ℤ) screen.controller.currentIndex with hback | hself | hforward
  · rw [PodcastViewController.positionCellWithIdexPath_of_lt (Int.natCast_nonneg row) hback]
    split
    · simpa [*] using hrow (screen.controller.showPage _) rfl
    · simp [*]
  · have hrange := hrow screen.controller rfl
    rw [hself] at hrange ⊢
    rw [PodcastViewController.positionCellWithIdexPath_self]
    exact iff_of_true (keepsRange_ok.mpr hrange) (by omega)
  · rw [PodcastViewController.positionCellWithIdexPath_of_gt h.controller hforward,
      if_pos (by omega)]
    exact iff_of_true (keepsRange_ok.mpr (hrow (screen.controller.showPage _) rfl)) (by omega)

/-- Exactly the events that meet `RangeCondition` keep the index in range and do not trap
    on it. -/
theorem inRange_step_iff (h : Inv collections pes screen) (hrange : screen.InRange)
    {e : PodcastScreenEvent} (hen : Enabled collections screen e) :
    KeepsRange (screen.step e) ↔ screen.RangeCondition e := by
  cases e with
  | podcastListResponse response => exact keepsRange_podcastListResponse h hen.1
  | firstPageResponse request response => exact keepsRange_firstPageResponse h hen.1
  | loadMoreResponse request response =>
    exact iff_of_true (keepsRange_loadMoreResponse h hen.1 response) trivial
  | scrollViewDidScroll y height tableHeight =>
    exact iff_of_true (keepsRange_scrollViewDidScroll hrange y height tableHeight) trivial
  | swipeLeftToRight => exact keepsRange_swipeLeftToRight h hrange
  | swipeRightToLeft => exact keepsRange_swipeRightToLeft h hrange
  | didSelectItemAt row =>
    exact keepsRange_didSelectItemAt h (h.controller.length_eq ▸ hen)

/-- The index is in range all along a run exactly when every event met the condition. -/
theorem forall_inRange_iff (h : (machine collections).Run es screen) :
    (∀ es' screen', es' <+: es → (machine collections).Run es' screen' → screen'.InRange) ↔
      ((machine collections).when RangeCondition).Run es screen := by
  have hinit : (machine collections).init.InRange := by
    simp [machine, InRange]
  refine Machine.Run.forall_prefix_iff_when hinit ?_ h
  intro es s e t hrun hrange hen hstep
  obtain ⟨pes, hinv⟩ := inv_of_run hrun.of_when
  have hstep : s.step e = .ok t := hstep
  rw [← inRange_step_iff hinv hrange hen, hstep, keepsRange_ok]

end PodcastScreen

/-- All along a run and in its next event, `currentIndex` is in range and no access of
    `arrayPageListPodcast` is outside its bounds, exactly when the events of the run and the
    next one all meet `RangeCondition`. -/
theorem accesses_in_range_iff (collections : Collections) {es : List PodcastScreenEvent}
    {screen : PodcastScreen} {e : PodcastScreenEvent}
    (h : (PodcastScreen.machine collections).Run es screen)
    (hen : (PodcastScreen.machine collections).Enabled screen e) :
    ((∀ es' screen', es' <+: es → (PodcastScreen.machine collections).Run es' screen' →
          screen'.InRange) ∧
        screen.step e ≠ .error .indexOutOfRange ∧
        ∀ screen', screen.step e = .ok screen' → screen'.InRange) ↔
      ((PodcastScreen.machine collections).when PodcastScreen.RangeCondition).Run es screen ∧
        screen.RangeCondition e := by
  obtain ⟨pes, hinv⟩ := PodcastScreen.inv_of_run h
  rw [PodcastScreen.forall_inRange_iff h]
  refine and_congr_right fun hwhen => ?_
  -- the run ends in range, so the next event is judged by the step lemma
  have hrange : screen.InRange :=
    (PodcastScreen.forall_inRange_iff h).mpr hwhen es screen (List.prefix_refl es) h
  exact PodcastScreen.inRange_step_iff hinv hrange hen

/-- The collection of podcasts lists `"A"` and `"B"`, with one document each. -/
def oneEpisodeEach : Collections := fun name =>
  if name = "Podcast" then podcastsAB
  else if name = "A" then ⟨[⟨"a", []⟩], List.nodup_singleton "a"⟩
  else if name = "B" then ⟨[⟨"b", []⟩], List.nodup_singleton "b"⟩
  else ⟨[], List.nodup_nil⟩

/-- Both podcasts arrive. -/
def bothArrive : List PodcastScreenEvent :=
  [.podcastListResponse (.snapshot (oneEpisodeEach "Podcast").documents),
    .firstPageResponse (firstPageRequest ⟨some "A", none, none⟩) (.snapshot [⟨"a", []⟩]),
    .firstPageResponse (firstPageRequest ⟨some "B", none, none⟩) (.snapshot [⟨"b", []⟩])]

/-- The first podcast arrives and the user swipes to its page. -/
def swipedToFirst : List PodcastScreenEvent := bothArrive.take 2 ++ [.swipeLeftToRight]

/-- After the swipe the second podcast may arrive. -/
theorem accesses_in_range_iff_swipedToFirst :
    ∃ screen, (PodcastScreen.machine oneEpisodeEach).Run swipedToFirst screen ∧
      ∀ screen', screen.step
        (.firstPageResponse (firstPageRequest ⟨some "B", none, none⟩) (.snapshot [⟨"b", []⟩])) =
          .ok screen' → screen'.InRange :=
  have hrun := Machine.run_of_replay
    ((PodcastScreen.machine oneEpisodeEach).when PodcastScreen.RangeCondition)
    swipedToFirst (by decide)
  ⟨_, hrun.of_when, ((accesses_in_range_iff oneEpisodeEach hrun.of_when (by decide)).mpr
    ⟨hrun, by decide⟩).2.2⟩

/-- With two podcasts on the screen, one swipe to the left and one to the right trap. -/
theorem swipes_trap :
    ∃ screen, (PodcastScreen.machine oneEpisodeEach).Run (bothArrive ++ [.swipeRightToLeft]) screen ∧
      screen.Loaded ∧ ¬ screen.InRange ∧
      screen.step .swipeLeftToRight = .error .indexOutOfRange := by
  have hrun := Machine.run_of_replay (PodcastScreen.machine oneEpisodeEach)
    (bothArrive ++ [.swipeRightToLeft]) (by decide)
  exact ⟨_, hrun, by decide, by decide, rfl⟩

/-! ## The initial load -/

/-- An action of the user. -/
def PodcastScreenEvent.isUserAction : PodcastScreenEvent → Bool
  | .scrollViewDidScroll _ _ _ | .swipeLeftToRight | .swipeRightToLeft | .didSelectItemAt _ => true
  | .podcastListResponse _ | .firstPageResponse _ _ | .loadMoreResponse _ _ => false

theorem PodcastScreenEvent.isUserAction_of_isMove {e : PodcastScreenEvent} (h : e.isMove) :
    e.isUserAction := by
  cases e <;> first | rfl | cases h

/-- The first page of a podcast arrives. -/
def PodcastScreenEvent.isArrival : PodcastScreenEvent → Bool
  | .firstPageResponse _ (.snapshot _) => true
  | _ => false

/-- The number of podcasts that arrived. -/
def arrivals (es : List PodcastScreenEvent) : Nat := es.countP PodcastScreenEvent.isArrival

@[simp] theorem arrivals_append (es es' : List PodcastScreenEvent) :
    arrivals (es ++ es') = arrivals es + arrivals es' := List.countP_append

@[simp] theorem arrivals_firstPage (request : PageRequest Podcast)
    (documents : List DocumentSnapshot) :
    arrivals [.firstPageResponse request (.snapshot documents)] = 1 := rfl

/-- A screen on which podcasts arrived and nobody did anything: the index counts modulo 6. -/
structure InitialLoad (screen : PodcastScreen) (arrived : Nat) : Prop where
  loadMores : screen.paging.loadMores = []
  currentIndex : screen.controller.currentIndex = (arrived % 6 : Nat)
  displayed : screen.controller.displayed = if 6 ≤ arrived then .page 0 else .initialVC
  currentPage : screen.controller.currentPage = 0

namespace InitialLoad

variable {screen screen' : PodcastScreen} {arrived : Nat}

/-- An answer keeps the count. -/
theorem step (h : InitialLoad screen arrived) {collections : Collections}
    {pes : List (PagingEvent Podcast)} (hinv : PodcastScreen.Inv collections pes screen)
    {e : PodcastScreenEvent} (hen : PodcastScreen.Enabled collections screen e)
    (hstep : screen.step e = .ok screen') (huser : e.isUserAction = false) :
    InitialLoad screen' (arrived + arrivals [e]) := by
  cases hinv.effect hen hstep with
  | listFailed err => exact ⟨h.loadMores, h.currentIndex, h.displayed, h.currentPage⟩
  | listed documents paths => exact ⟨h.loadMores, h.currentIndex, h.displayed, h.currentPage⟩
  | firstPageFailed request err => exact ⟨h.loadMores, h.currentIndex, h.displayed, h.currentPage⟩
  | firstPage request documents last hlast =>
    obtain ⟨hloadMores, hcurrentIndex, hdisplayed, hcurrentPage⟩ := h
    rw [arrivals_firstPage]
    refine ⟨hloadMores, ?_, ?_, hcurrentPage⟩
    · simp only [PodcastViewController.showPodcast]
      split <;> omega
    · -- every sixth podcast brings the first page on display
      simp only [PodcastViewController.showPodcast, hdisplayed]
      by_cases hsix : screen.controller.currentIndex + 1 = 6
      · rw [if_pos hsix, if_pos (by omega)]
      · rw [if_neg hsix]
        exact if_congr (by omega) rfl rfl
  -- without a scroll no load-more request is in flight
  | loadMoreFailed request err => exact absurd hen.1 (by simp [h.loadMores])
  | loadMore request documents => exact absurd hen.1 (by simp [h.loadMores])
  | scrolled y height tableHeight => cases huser
  | loadMoreData y height tableHeight podcast paging hpodcast hcall => cases huser
  | moved _ controller hmove hmoved =>
    exact absurd (PodcastScreenEvent.isUserAction_of_isMove hmove) (by simp [huser])

end InitialLoad

/-- Answers alone count the podcasts that arrived. -/
theorem initialLoad_of_run {collections : Collections} {es : List PodcastScreenEvent}
    {screen : PodcastScreen}
    (h : ((PodcastScreen.machine collections).when fun _ e => e.isUserAction = false).Run es screen) :
    InitialLoad screen (arrivals es) := by
  induction h with
  | nil => exact ⟨rfl, rfl, rfl, rfl⟩
  | snoc hrun hen hstep ih =>
    obtain ⟨pes, hinv⟩ := PodcastScreen.inv_of_run hrun.of_when
    rw [arrivals_append]
    exact ih.step hinv hen.1 hstep hen.2

/-- An answer that does not trap: the titles on a list name collections, and a first page has
    an episode. -/
def PodcastScreenEvent.NoTrap : PodcastScreenEvent → Prop
  | .podcastListResponse (.snapshot documents) =>
    ∀ podcast ∈ documents.map Podcast.ofDocument, isCollectionPath podcast.name
  | .firstPageResponse _ (.snapshot documents) => documents ≠ []
  | .podcastListResponse (.error _) | .firstPageResponse _ (.error _) | .loadMoreResponse _ _
  | .scrollViewDidScroll _ _ _ | .swipeLeftToRight | .swipeRightToLeft | .didSelectItemAt _ => True

instance (e : PodcastScreenEvent) : Decidable e.NoTrap :=
  match e with
  | .podcastListResponse (.snapshot _) => inferInstanceAs (Decidable (∀ _ ∈ _, _))
  | .firstPageResponse _ (.snapshot _) => inferInstanceAs (Decidable (_ ≠ _))
  | .podcastListResponse (.error _) => inferInstanceAs (Decidable True)
  | .firstPageResponse _ (.error _) => inferInstanceAs (Decidable True)
  | .loadMoreResponse _ _ => inferInstanceAs (Decidable True)
  | .scrollViewDidScroll _ _ _ => inferInstanceAs (Decidable True)
  | .swipeLeftToRight => inferInstanceAs (Decidable True)
  | .swipeRightToLeft => inferInstanceAs (Decidable True)
  | .didSelectItemAt _ => inferInstanceAs (Decidable True)

/-- Exactly the answers that meet `NoTrap` do not trap. -/
theorem PodcastScreen.exists_step_iff {collections : Collections} {screen : PodcastScreen}
    {e : PodcastScreenEvent} (hloadMores : screen.paging.loadMores = [])
    (hen : PodcastScreen.Enabled collections screen e) (huser : e.isUserAction = false) :
    (∃ screen', screen.step e = .ok screen') ↔ e.NoTrap := by
  cases e with
  | podcastListResponse response =>
    cases response with
    | error err => exact iff_of_true ⟨_, podcastListResponse_error err⟩ trivial
    | snapshot documents =>
      rw [step, podcastListResponse_snapshot]
      split
      · rename_i hpaths
        exact iff_of_true ⟨_, rfl⟩ hpaths
      · rename_i hpaths
        exact iff_of_false (by simp) hpaths
  | firstPageResponse request response =>
    cases response with
    | error err => exact iff_of_true ⟨_, firstPageResponse_error err⟩ trivial
    | snapshot documents =>
      cases hlast : documents.getLast? with
      | none =>
        obtain rfl := List.getLast?_eq_none_iff.mp hlast
        exact iff_of_false (by simp [step, firstPageResponse_nil]) (not_not_intro rfl)
      | some last =>
        refine iff_of_true ⟨_, firstPageResponse_snapshot hlast⟩ ?_
        rintro rfl
        cases hlast
  -- without a scroll no load-more request is in flight
  | loadMoreResponse request response => exact absurd hen.1 (by simp [hloadMores])
  | scrollViewDidScroll y height tableHeight => cases huser
  | swipeLeftToRight => cases huser
  | swipeRightToLeft => cases huser
  | didSelectItemAt row => cases huser

/-- Answers alone lead to a screen exactly when none of them traps. -/
theorem exists_screen_iff {collections : Collections} {es : List PodcastScreenEvent}
    {outcome : Except Trap PodcastScreen}
    (h : (PodcastScreen.machine collections).Outcome es outcome)
    (huser : ∀ e ∈ es, e.isUserAction = false) :
    (∃ screen, outcome = .ok screen) ↔ ∀ e ∈ es, e.NoTrap := by
  refine h.exists_ok_iff fun es' screen e hpre hrun hen => ?_
  have hbefore : ∀ e ∈ es', e.isUserAction = false := fun e he =>
    huser e (hpre.subset (List.mem_append_left _ he))
  have hload := initialLoad_of_run (hrun.when_of_forall hbefore)
  exact PodcastScreen.exists_step_iff hload.loadMores hen
    (huser e (hpre.subset (List.mem_append_right _ (List.mem_singleton_self e))))

/-- After any answers of the initial load, and so after the last one: the app has not trapped
    and the first page is on display, selected by `currentIndex` and by the page control,
    exactly when no answer traps and the podcasts that arrived are a multiple of six, but not
    none at all. -/
theorem initial_load_iff (collections : Collections) {es : List PodcastScreenEvent}
    {outcome : Except Trap PodcastScreen}
    (h : (PodcastScreen.machine collections).Outcome es outcome)
    (huser : ∀ e ∈ es, e.isUserAction = false) :
    (∃ screen, outcome = .ok screen ∧ screen.controller.displayed = .page 0 ∧
      screen.controller.currentIndex = 0 ∧ screen.controller.currentPage = 0) ↔
    (∀ e ∈ es, e.NoTrap) ∧ 0 < arrivals es ∧ 6 ∣ arrivals es := by
  rw [← exists_screen_iff h huser, Nat.dvd_iff_mod_eq_zero]
  -- of a screen that is reached, the number of arrivals says all
  have hload : ∀ screen, outcome = .ok screen → InitialLoad screen (arrivals es) := by
    rintro screen rfl
    exact initialLoad_of_run ((Machine.outcome_ok_iff.mp h).when_of_forall huser)
  constructor
  · rintro ⟨screen, houtcome, hpage, hzero, -⟩
    obtain ⟨-, hcurrentIndex, hdisplayed, -⟩ := hload screen houtcome
    rw [hcurrentIndex] at hzero
    rw [hdisplayed] at hpage
    have hsix : 6 ≤ arrivals es := by
      by_contra hfew
      rw [if_neg hfew] at hpage
      cases hpage
    exact ⟨⟨screen, houtcome⟩, by omega, by exact_mod_cast hzero⟩
  · rintro ⟨⟨screen, houtcome⟩, harrived, hzero⟩
    obtain ⟨-, hcurrentIndex, hdisplayed, hcurrentPage⟩ := hload screen houtcome
    refine ⟨screen, houtcome, ?_, ?_, hcurrentPage⟩
    · -- a multiple of six above 0 is at least 6
      rw [hdisplayed, if_pos (by omega)]
    · rw [hcurrentIndex, hzero]
      rfl

/-- Six podcasts with one document each. -/
def sixPodcasts : Collections := fun name =>
  if name = "Podcast" then
    ⟨["1", "2", "3", "4", "5", "6"].map fun title => ⟨title, [("title", .string title)]⟩, by decide⟩
  else if name ∈ ["1", "2", "3", "4", "5", "6"] then
    ⟨[⟨"e", []⟩], List.nodup_singleton "e"⟩
  else ⟨[], List.nodup_nil⟩

/-- The list of the six podcasts arrives. -/
def sixListed : PodcastScreenEvent :=
  .podcastListResponse (.snapshot (sixPodcasts "Podcast").documents)

/-- The first page of the podcast `title` is answered. -/
def firstPageOf (title : String) (response : Response) : PodcastScreenEvent :=
  .firstPageResponse (firstPageRequest ⟨some title, none, none⟩) response

/-- Six podcasts arrive, in another order than they are listed. -/
def sixArrive : List PodcastScreenEvent :=
  sixListed :: ["3", "1", "2", "6", "5", "4"].map (firstPageOf · (.snapshot [⟨"e", []⟩]))

theorem initial_load_iff_sixArrive :
    ∃ screen, (PodcastScreen.machine sixPodcasts).Run sixArrive screen ∧
      screen.controller.displayed = .page 0 ∧ screen.controller.currentIndex = 0 ∧
      screen.controller.currentPage = 0 := by
  have hrun := Machine.run_of_replay (PodcastScreen.machine sixPodcasts) sixArrive (by decide)
  obtain ⟨screen, houtcome, hload⟩ := (initial_load_iff sixPodcasts
    (Machine.outcome_ok_iff.mpr hrun) (by decide)).mpr ⟨by decide, by decide, by decide⟩
  exact ⟨screen, Except.ok.inj houtcome ▸ hrun, hload⟩

/-- After both podcasts arrived, the placeholder is still on display and the index points
    behind the last page. -/
theorem initial_load_shows_placeholder :
    (∀ e ∈ bothArrive, e.isUserAction = false) ∧
    ∃ screen, (PodcastScreen.machine oneEpisodeEach).Run bothArrive screen ∧ screen.Loaded ∧
      screen.controller.arrayPageListPodcast.length = 2 ∧
      screen.controller.displayed = .initialVC ∧ screen.controller.currentIndex = 2 :=
  have hrun := Machine.run_of_replay (PodcastScreen.machine oneEpisodeEach) bothArrive (by decide)
  ⟨by decide, _, hrun, by decide, by decide, by decide, by decide⟩

end BingePodcast
