import BingePodcast.Spec.PodcastScreenInvariant

/-!
# The pages of the podcast screen

Further episodes are appended to the page at `currentIndex`, which may have moved since
they were asked for. This file says exactly when every page holds the episodes of its own
podcast, all that were delivered and no others.

## Key results

- `PodcastScreen.pagesInv_of_run`: pages belong to different podcasts, each delivered once
- `PodcastScreen.isolated_step_iff`: the answers that keep the pages isolated
- `pages_isolated_iff`: pages are isolated all along a run exactly when each further page
  arrives while the page of its podcast is selected
-/

namespace BingePodcast

/-- The name of the podcast of a page. -/
def PageListPodcast.name (page : PageListPodcast) : String := page.podcastEpisode.podcast.name

@[simp] theorem PageListPodcast.name_append (page : PageListPodcast) (episode : List Episode) :
    (page.append episode).name = page.name := rfl

@[simp] theorem PageListPodcast.episode_append (page : PageListPodcast) (episode : List Episode) :
    (page.append episode).podcastEpisode.episode = page.podcastEpisode.episode ++ episode := rfl

/-! ## What is delivered to a podcast -/

namespace Paging

variable {κ : Type} {sys sys' : Paging κ}

/-- An answer delivers to its own podcast. -/
theorem episodesDelivered_append {c : Completion}
    (h : sys'.completions = sys.completions ++ [c]) (podcastName : String) :
    sys'.episodesDelivered podcastName =
      sys.episodesDelivered podcastName ++
        if c.podcastName = podcastName then c.episodes else [] := by
  rw [episodesDelivered, completionsOf_append sys h, List.flatMap_append, episodesDelivered]
  split <;> simp

theorem episodesDelivered_delivered (sys : Paging κ) {name : String} {page : Page}
    {documents : List DocumentSnapshot}
    (h : sys'.completions = sys.completions ++ [.delivered name page documents])
    (podcastName : String) :
    sys'.episodesDelivered podcastName = sys.episodesDelivered podcastName ++
      if name = podcastName then documents.map (Episode.ofDocument name) else [] :=
  episodesDelivered_append h podcastName

/-- A failure delivers nothing. -/
theorem episodesDelivered_failed {name : String} {page : Page} {err : FirestoreError}
    (h : sys'.completions = sys.completions ++ [.failed name page err]) (podcastName : String) :
    sys'.episodesDelivered podcastName = sys.episodesDelivered podcastName := by
  rw [episodesDelivered_append h, Completion.episodes_failed, ite_self, List.append_nil]

end Paging

namespace PodcastScreen

variable {collections : Collections} {screen screen' : PodcastScreen}
variable {pes : List (PagingEvent Podcast)} {es : List PodcastScreenEvent} {e : PodcastScreenEvent}

/-! ## Pages and podcasts -/

/-- The first pages awaited are those of the podcasts listed; the pages shown belong to
    different podcasts, of each of which the first page was answered. -/
structure PagesInv (screen : PodcastScreen) : Prop where
  firstPages : ∀ request ∈ screen.paging.firstPages, request = firstPageRequest request.onCompletion
  names : (screen.controller.arrayPageListPodcast.map PageListPodcast.name).Nodup
  answered : ∀ page ∈ screen.controller.arrayPageListPodcast,
    0 < screen.paging.firstPagesAnswered page.name

/-- With distinct titles, each first page is asked for once. -/
theorem Inv.fetchedOnce (h : Inv collections pes screen)
    (htitles : (collections.podcasts.map Podcast.title).Nodup) : FetchedOnce pes := by
  rcases h.fetched with hnone | ⟨-, hnames⟩
  · simp [FetchedOnce, hnone]
  · -- every listed podcast has a title, as its name is the path of a collection
    have htitle : ∀ podcast ∈ collections.podcasts, podcast.title = some podcast.name := by
      intro podcast hmem
      have hpath : isCollectionPath podcast.name :=
        (pagingInv_of_run h.paging).path_of_fetched (hnames ▸ List.mem_map_of_mem hmem)
      cases htitle : podcast.title with
      | none => simp [Podcast.name, htitle, isCollectionPath_empty] at hpath
      | some title => simp [Podcast.name, htitle]
    rw [List.map_congr_left htitle] at htitles
    rw [FetchedOnce, hnames]
    refine List.Nodup.of_map some ?_
    rwa [List.map_map]

/-- A podcast whose first page is awaited has no page, and nothing was delivered to it. -/
theorem PagesInv.unread (h : PagesInv screen) (hinv : Inv collections pes screen)
    (honce : FetchedOnce pes) {request : PageRequest Podcast}
    (hmem : request ∈ screen.paging.firstPages) :
    (∀ page ∈ screen.controller.arrayPageListPodcast, page.name ≠ request.query.collection) ∧
    screen.paging.episodesDelivered request.query.collection = [] := by
  have hpaging := pagingInv_of_run hinv.paging
  have hname := honce.name request.query.collection
  constructor
  · -- the first page would have been asked for twice: once answered, once in flight
    intro page hpage heq
    have hanswered := h.answered page hpage
    have hcount := hpaging.fetched request.query.collection
    have hrequested : 0 < requestsOf request.query.collection screen.paging.firstPages :=
      List.countP_pos_iff.mpr ⟨request, hmem, by simp⟩
    rw [NameFetchedOnce] at hname
    rw [heq] at hanswered
    omega
  · -- a reader that awaits its first page has been given none
    obtain ⟨pages, hreads⟩ := hpaging.reads request.query.collection hname
    obtain rfl := hpaging.pages_eq_zero hname hmem hreads
    rw [Paging.episodesDelivered, hreads.flatMap_episodes, hreads.delivered]
    rfl

/-- Answered first pages stay answered. -/
theorem firstPagesAnswered_mono {paging paging' : Paging Podcast}
    (h : paging.completions <+: paging'.completions) (podcastName : String) :
    paging.firstPagesAnswered podcastName ≤ paging'.firstPagesAnswered podcastName :=
  (h.filter _).sublist.countP_le

namespace PagesInv

theorem init : PagesInv {} := ⟨by simp, by simp, by simp⟩

/-- One event keeps the correspondence of pages and podcasts. -/
theorem step (h : PagesInv screen) (hinv : Inv collections pes screen) (honce : FetchedOnce pes)
    (hen : Enabled collections screen e) (hstep : screen.step e = .ok screen') :
    PagesInv screen' := by
  cases hinv.effect hen hstep with
  | listFailed err => exact ⟨h.firstPages, h.names, h.answered⟩
  | listed documents hpaths =>
    refine ⟨fun request hrequest => ?_, h.names, h.answered⟩
    rcases List.mem_append.mp hrequest with hrequest | hrequest
    · exact h.firstPages request hrequest
    · obtain ⟨podcast, -, rfl⟩ := List.mem_map.mp hrequest
      rfl
  | firstPageFailed request err =>
    refine ⟨fun r hr => h.firstPages r (List.mem_of_mem_erase hr), h.names, fun page hpage => ?_⟩
    exact (h.answered page hpage).trans_le
      (firstPagesAnswered_mono (List.prefix_append _ _) page.name)
  | firstPage request documents last hlast =>
    obtain ⟨hfresh, -⟩ := h.unread hinv honce hen.1
    have hname : request.query.collection = request.onCompletion.name := by
      rw [h.firstPages request hen.1]
      rfl
    refine ⟨fun r hr => h.firstPages r (List.mem_of_mem_erase hr), ?_, fun page hpage => ?_⟩
    · -- the new page has a name of its own
      rw [PodcastViewController.showPodcast, List.map_append, List.nodup_append]
      refine ⟨h.names, List.nodup_singleton _, fun name hold name' hnew => ?_⟩
      obtain ⟨page, hpage, rfl⟩ := List.mem_map.mp hold
      rw [List.mem_singleton.mp hnew]
      exact hname ▸ hfresh page hpage
    · rcases List.mem_append.mp hpage with hpage | hpage
      · exact (h.answered page hpage).trans_le
          (firstPagesAnswered_mono (List.prefix_append _ _) page.name)
      · rw [List.mem_singleton.mp hpage]
        refine List.countP_pos_iff.mpr ⟨.delivered request.query.collection .first documents, ?_, rfl⟩
        exact List.mem_filter.mpr ⟨by simp, beq_iff_eq.mpr hname⟩
  | loadMoreFailed request err =>
    refine ⟨h.firstPages, h.names, fun page hpage => ?_⟩
    exact (h.answered page hpage).trans_le
      (firstPagesAnswered_mono (List.prefix_append _ _) page.name)
  | loadMore request documents =>
    have hnames : (screen.controller.appendToCurrent
        (documents.map (Episode.ofDocument request.query.collection))).arrayPageListPodcast.map
        PageListPodcast.name = screen.controller.arrayPageListPodcast.map PageListPodcast.name :=
      List.map_modify_of_forall fun page => page.name_append _
    refine ⟨h.firstPages, hnames ▸ h.names, fun page hpage => ?_⟩
    -- the modified page has the name it had
    obtain ⟨page', hpage', heq⟩ := List.mem_map.mp (hnames ▸ List.mem_map_of_mem hpage)
    rw [← heq]
    exact (h.answered page' hpage').trans_le
      (firstPagesAnswered_mono (List.prefix_append _ _) page'.name)
  | scrolled y height tableHeight => exact ⟨h.firstPages, h.names, h.answered⟩
  | loadMoreData y height tableHeight podcast paging hpodcast hcall =>
    rcases Paging.loadMoreData_cases hcall with ⟨-, rfl⟩ | ⟨last, -, -, -, rfl⟩ <;>
      exact ⟨h.firstPages, h.names, h.answered⟩
  | moved _ controller hmove hmoved =>
    exact ⟨h.firstPages, hmoved.arrayPageListPodcast ▸ h.names,
      hmoved.arrayPageListPodcast ▸ h.answered⟩

end PagesInv

/-- Both invariants hold at the end of every run. -/
theorem pagesInv_of_run (htitles : (collections.podcasts.map Podcast.title).Nodup)
    (h : (machine collections).Run es screen) :
    ∃ pes, Inv collections pes screen ∧ FetchedOnce pes ∧ PagesInv screen := by
  induction h with
  | nil => exact ⟨[], Inv.init, List.nodup_nil, PagesInv.init⟩
  | snoc _ hen hstep ih =>
    obtain ⟨pes, hinv, honce, hpages⟩ := ih
    have hinv' := hinv.step hen hstep
    exact ⟨_, hinv', hinv'.fetchedOnce htitles, hpages.step hinv honce hen hstep⟩

/-! ## Isolation -/

/-- Every page holds the episodes delivered for its podcast, all of them and no others, and
    these are the first documents of the podcast's collection in their order. -/
def Isolated (collections : Collections) (screen : PodcastScreen) : Prop :=
  ∀ page ∈ screen.controller.arrayPageListPodcast,
    page.podcastEpisode.episode = screen.paging.episodesDelivered page.name ∧
    page.podcastEpisode.episode <+:
      (collections page.name).documents.map (Episode.ofDocument page.name)

instance (collections : Collections) (screen : PodcastScreen) :
    Decidable (Isolated collections screen) :=
  inferInstanceAs (Decidable (∀ page ∈ _, _ ∧ _))

/-- Further episodes arrive while the page of their podcast is at `currentIndex`. -/
def PageCondition (screen : PodcastScreen) : PodcastScreenEvent → Prop
  | .loadMoreResponse request (.snapshot documents) => documents ≠ [] →
    screen.controller.arrayPageListPodcast[screen.controller.currentIndex.toNat]?.map
      PageListPodcast.name = some request.query.collection
  | _ => True

instance (screen : PodcastScreen) (e : PodcastScreenEvent) : Decidable (screen.PageCondition e) :=
  match e with
  | .loadMoreResponse _ (.snapshot _) => inferInstanceAs (Decidable (_ → _))
  | .loadMoreResponse _ (.error _) => inferInstanceAs (Decidable True)
  | .podcastListResponse _ => inferInstanceAs (Decidable True)
  | .firstPageResponse _ _ => inferInstanceAs (Decidable True)
  | .scrollViewDidScroll _ _ _ => inferInstanceAs (Decidable True)
  | .swipeLeftToRight => inferInstanceAs (Decidable True)
  | .swipeRightToLeft => inferInstanceAs (Decidable True)
  | .didSelectItemAt _ => inferInstanceAs (Decidable True)

/-- What was delivered is always a prefix, so pages need only hold it. -/
theorem isolated_iff (h : Inv collections pes screen) (honce : FetchedOnce pes) :
    Isolated collections screen ↔ ∀ page ∈ screen.controller.arrayPageListPodcast,
      page.podcastEpisode.episode = screen.paging.episodesDelivered page.name := by
  have hsound := (pagingInv_of_run h.paging).sound honce
  refine forall₂_congr fun page _ => and_iff_left_of_imp fun heq => ?_
  rw [heq, hsound.episodes]
  exact (hsound.documents page.name).map _

/-- An event that delivers nothing and leaves the pages alone keeps them isolated. -/
private theorem isolated_quiet (hinv : Inv collections pes screen) (honce : FetchedOnce pes)
    {pes' : List (PagingEvent Podcast)} (hinv' : Inv collections pes' screen')
    (honce' : FetchedOnce pes') (hisolated : Isolated collections screen)
    (hpages : screen'.controller.arrayPageListPodcast = screen.controller.arrayPageListPodcast)
    (hdelivered : ∀ podcastName, screen'.paging.episodesDelivered podcastName =
      screen.paging.episodesDelivered podcastName) : Isolated collections screen' := by
  rw [isolated_iff hinv honce] at hisolated
  rw [isolated_iff hinv' honce', hpages]
  intro page hpage
  rw [hdelivered, hisolated page hpage]

/-- Further episodes keep the pages isolated exactly if they arrive at the page of their
    podcast, or there are none. -/
theorem isolated_loadMore_iff {paging : Paging Podcast} {pages : List PageListPodcast}
    (hpages : ∀ page ∈ pages, page.podcastEpisode.episode = paging.episodesDelivered page.name)
    (hnames : (pages.map PageListPodcast.name).Nodup) {n : Nat} (hn : n < pages.length)
    {podcastName : String} {episode : List Episode} {paging' : Paging Podcast}
    (hdelivered : ∀ name, paging'.episodesDelivered name =
      paging.episodesDelivered name ++ if podcastName = name then episode else []) :
    (∀ page ∈ pages.modify n (PageListPodcast.append · episode),
      page.podcastEpisode.episode = paging'.episodesDelivered page.name) ↔
    (episode ≠ [] → pages[n].name = podcastName) := by
  rw [List.forall_mem_modify_iff hn, PageListPodcast.name_append,
    PageListPodcast.episode_append, hpages _ (List.getElem_mem hn), hdelivered,
    List.append_cancel_left_eq]
  constructor
  · -- under another name, the page at `n` gets episodes that were not delivered for it
    rintro ⟨hself, -⟩ hne
    by_contra hname
    exact hne (by rw [hself, if_neg (Ne.symm hname)])
  · intro hself
    by_cases hnil : episode = []
    · subst hnil
      refine ⟨by simp, fun i hi _ => ?_⟩
      rw [hpages _ (List.getElem_mem hi), hdelivered]
      simp
    · have hname := hself hnil
      refine ⟨by rw [if_pos hname.symm], fun i hi hne => ?_⟩
      -- no other page has the name of the one at `n`
      have hother : podcastName ≠ pages[i].name := by
        rw [← hname]
        intro heq
        have hpage := List.inj_on_of_nodup_map hnames (List.getElem_mem hn) (List.getElem_mem hi) heq
        exact hne ((List.Nodup.of_map _ hnames).getElem_inj_iff.mp hpage).symm
      rw [hpages _ (List.getElem_mem hi), hdelivered, if_neg hother, List.append_nil]

/-- Exactly the events that meet `PageCondition` keep the pages isolated. -/
theorem isolated_step_iff (hinv : Inv collections pes screen) (honce : FetchedOnce pes)
    (hpages : PagesInv screen) (hisolated : Isolated collections screen)
    (hen : Enabled collections screen e) (hstep : screen.step e = .ok screen')
    (honce' : FetchedOnce (pes ++ screen.pagingEvents e)) :
    Isolated collections screen' ↔ screen.PageCondition e := by
  have hinv' := hinv.step hen hstep
  have hquiet := isolated_quiet hinv honce hinv' honce' hisolated
  cases hinv.effect hen hstep with
  | listFailed err => exact iff_of_true (hquiet rfl fun _ => rfl) trivial
  | listed documents hpaths => exact iff_of_true (hquiet rfl fun _ => rfl) trivial
  | firstPageFailed request err =>
    exact iff_of_true (hquiet rfl (Paging.episodesDelivered_failed rfl)) trivial
  | firstPage request documents last hlast =>
    obtain ⟨hfresh, hnone⟩ := hpages.unread hinv honce hen.1
    have hname : request.onCompletion.name = request.query.collection := by
      rw [hpages.firstPages request hen.1]
      rfl
    rw [isolated_iff hinv honce] at hisolated
    rw [isolated_iff hinv' honce']
    refine iff_of_true (fun page hpage => ?_) trivial
    rw [Paging.episodesDelivered_delivered screen.paging rfl]
    -- the page is one that was there before, of another podcast, or the new one
    rcases List.mem_append.mp hpage with hpage | hpage
    · rw [if_neg (hfresh page hpage).symm, List.append_nil, hisolated page hpage]
    · obtain rfl := List.mem_singleton.mp hpage
      simp [PageListPodcast.name, hname, hnone]
  | loadMoreFailed request err =>
    exact iff_of_true (hquiet rfl (Paging.episodesDelivered_failed rfl)) trivial
  | loadMore request documents =>
    have hlt := hinv.currentIndex_lt hen.1
    have hnonneg := hinv.controller.nonneg
    have hn : screen.controller.currentIndex.toNat <
        screen.controller.arrayPageListPodcast.length := by omega
    rw [isolated_iff hinv honce] at hisolated
    rw [isolated_iff hinv' honce']
    refine (isolated_loadMore_iff hisolated hpages.names hn
      (Paging.episodesDelivered_delivered _ rfl)).trans ?_
    simp [PageCondition, List.getElem?_eq_getElem hn]
  | scrolled y height tableHeight => exact iff_of_true hisolated trivial
  | loadMoreData y height tableHeight podcast paging hpodcast hcall =>
    refine iff_of_true (hquiet rfl fun name => ?_) trivial
    rcases Paging.loadMoreData_cases hcall with ⟨-, rfl⟩ | ⟨last, -, -, -, rfl⟩ <;> rfl
  | moved _ controller hmove hmoved =>
    refine iff_of_true (hquiet hmoved.arrayPageListPodcast fun _ => rfl) ?_
    cases e <;> trivial

end PodcastScreen

/-- For podcasts with distinct titles, the pages are isolated all along a run exactly when
    every load-more answer with episodes finds the page of its podcast at `currentIndex`. -/
theorem pages_isolated_iff (collections : Collections)
    (htitles : (collections.podcasts.map Podcast.title).Nodup) {es : List PodcastScreenEvent}
    {screen : PodcastScreen} (h : (PodcastScreen.machine collections).Run es screen) :
    (∀ es' screen', es' <+: es → (PodcastScreen.machine collections).Run es' screen' →
      PodcastScreen.Isolated collections screen') ↔
    ((PodcastScreen.machine collections).when PodcastScreen.PageCondition).Run es screen := by
  refine Machine.Run.forall_prefix_iff_when (fun page hpage => absurd hpage List.not_mem_nil) ?_ h
  intro es s e t hrun hisolated hen hstep
  obtain ⟨pes, hinv, honce, hpages⟩ := PodcastScreen.pagesInv_of_run htitles hrun.of_when
  exact PodcastScreen.isolated_step_iff hinv honce hpages hisolated hen hstep
    ((hinv.step hen hstep).fetchedOnce htitles)

/-- A podcast `"A"` with one document and a podcast `"B"` with six. -/
def longAndShort : Collections := fun name =>
  if name = "Podcast" then podcastsAB
  else if name = "A" then ⟨[⟨"a", []⟩], List.nodup_singleton "a"⟩
  else if name = "B" then
    ⟨[⟨"b1", []⟩, ⟨"b2", []⟩, ⟨"b3", []⟩, ⟨"b4", []⟩, ⟨"b5", []⟩, ⟨"b6", []⟩], by decide⟩
  else ⟨[], List.nodup_nil⟩

/-- Both podcasts arrive, the page of `"B"` is selected and scrolled to its end. -/
def scrollB : List PodcastScreenEvent :=
  [.podcastListResponse (.snapshot (longAndShort "Podcast").documents),
    .firstPageResponse (firstPageRequest ⟨some "A", none, none⟩)
      (.snapshot (longAndShort "A").documents),
    .firstPageResponse (firstPageRequest ⟨some "B", none, none⟩)
      (.snapshot ((longAndShort "B").documents.take 5)),
    .swipeLeftToRight, .scrollViewDidScroll 0 0 0]

/-- The sixth episode of `"B"` arrives. -/
def sixthOfB : PodcastScreenEvent :=
  .loadMoreResponse ⟨⟨"B", some ⟨"b5", []⟩, some 5⟩, ⟨some "B", none, none⟩⟩
    (.snapshot [⟨"b6", []⟩])

theorem pages_isolated_iff_sixthOfB :
    ∃ screen, (PodcastScreen.machine longAndShort).Run (scrollB ++ [sixthOfB]) screen ∧
      PodcastScreen.Isolated longAndShort screen :=
  have hrun := Machine.run_of_replay
    ((PodcastScreen.machine longAndShort).when PodcastScreen.PageCondition)
    (scrollB ++ [sixthOfB]) (by decide +kernel)
  ⟨_, hrun.of_when, (pages_isolated_iff longAndShort (by decide) hrun.of_when).mpr hrun _ _
    (List.prefix_refl _) hrun.of_when⟩

/-- If the user swipes back to `"A"` before it arrives, the sixth episode of `"B"` goes to
    the page of `"A"`. -/
theorem pages_mixed :
    (longAndShort.podcasts.map Podcast.title).Nodup ∧
    ∃ screen, (PodcastScreen.machine longAndShort).Run
        (scrollB ++ [.swipeLeftToRight, sixthOfB]) screen ∧
      ¬ PodcastScreen.Isolated longAndShort screen ∧
      screen.controller.arrayPageListPodcast[0]?.map
          (fun page => (page.name, page.podcastEpisode.episode.map Episode.podcastTitle)) =
        some ("A", [some "A", some "B"]) :=
  have hrun := Machine.run_of_replay (PodcastScreen.machine longAndShort)
    (scrollB ++ [.swipeLeftToRight, sixthOfB]) (by decide +kernel)
  ⟨by decide, _, hrun, by decide +kernel, by decide +kernel⟩

end BingePodcast
