import BingePodcast.Spec.PodcastScreenPages

/-!
# The podcast screen loses and repeats no episode

A further page may go to the page of another podcast, but it goes to one page and to no
other. So all pages together hold exactly what was delivered, wherever it is, and of each
podcast the first documents, each once.

## Key results

- `PodcastScreen.showsDelivered_of_run`: the pages hold the episodes delivered
- `screen_loses_and_repeats_nothing`: of each podcast the screen holds the first documents
  once, and all of them when the podcast is exhausted
-/

namespace BingePodcast

/-- All episodes passed to `onCompletion` as success, of whatever podcast. -/
def Paging.allDelivered {κ : Type} (sys : Paging κ) : List Episode :=
  sys.completions.flatMap Completion.episodes

/-- The episodes delivered for one podcast are those that carry its name. -/
theorem Paging.filter_allDelivered {κ : Type} [DecidableEq κ] {collections : Collections}
    {es : List (PagingEvent κ)} {sys : Paging κ} (h : PagingInv collections es sys)
    (honce : FetchedOnce es) (podcastName : String) :
    sys.allDelivered.filter (·.podcastTitle == some podcastName) =
      sys.episodesDelivered podcastName := by
  refine List.filter_flatMap_eq fun c hc episode hepisode => ?_
  -- an episode is decoded under the name of the answer it came with
  obtain ⟨pages, hreads⟩ := h.reads c.podcastName (honce.name c.podcastName)
  have hcompletion : c ∈ sys.completionsOf c.podcastName := List.mem_filter.mpr ⟨hc, by simp⟩
  rw [hreads.episodes c hcompletion] at hepisode
  obtain ⟨document, -, rfl⟩ := List.mem_map.mp hepisode
  exact Bool.eq_iff_iff.mpr (by simp [Episode.ofDocument])

namespace PodcastScreen

variable {collections : Collections} {screen screen' : PodcastScreen}
variable {pes : List (PagingEvent Podcast)} {es : List PodcastScreenEvent} {e : PodcastScreenEvent}

/-- The episodes on all pages. -/
def episodesShown (screen : PodcastScreen) : List Episode :=
  screen.controller.arrayPageListPodcast.flatMap (·.podcastEpisode.episode)

/-- The pages together hold what was delivered, in whatever order. -/
def ShowsDelivered (screen : PodcastScreen) : Prop :=
  screen.episodesShown.Perm screen.paging.allDelivered

namespace ShowsDelivered

/-- An event that leaves the pages alone and delivers nothing. -/
private theorem of_eq (h : ShowsDelivered screen)
    (hpages : screen'.controller.arrayPageListPodcast = screen.controller.arrayPageListPodcast)
    (hdelivered : screen'.paging.allDelivered = screen.paging.allDelivered) :
    ShowsDelivered screen' := by
  rw [ShowsDelivered, episodesShown, hpages, hdelivered]
  exact h

/-- One event puts on the pages what it delivers. -/
theorem step (h : ShowsDelivered screen) (hinv : Inv collections pes screen)
    (hen : Enabled collections screen e) (hstep : screen.step e = .ok screen') :
    ShowsDelivered screen' := by
  cases hinv.effect hen hstep with
  | listFailed err => exact h.of_eq rfl rfl
  | listed documents hpaths => exact h.of_eq rfl rfl
  | firstPageFailed request err =>
    refine h.of_eq rfl ?_
    simp [Paging.allDelivered]
  | firstPage request documents last hlast =>
    -- a new page at the end, a new answer at the end
    rw [ShowsDelivered, episodesShown, Paging.allDelivered]
    simp only [PodcastViewController.showPodcast, List.flatMap_append, List.flatMap_singleton]
    exact List.Perm.append_right _ h
  | loadMoreFailed request err =>
    refine h.of_eq rfl ?_
    simp [Paging.allDelivered, Paging.loadMoreResponse_error]
  | loadMore request documents =>
    have hnonneg := hinv.controller.nonneg
    have hlt := hinv.currentIndex_lt hen.1
    have hn : screen.controller.currentIndex.toNat <
        screen.controller.arrayPageListPodcast.length := by omega
    -- whichever page is the current one, it gets the episodes of the answer
    have hshown := List.perm_flatMap_modify (h := fun page => page.podcastEpisode.episode)
      (fun page => page.episode_append
        (documents.map (Episode.ofDocument request.query.collection))) hn
    have hdelivered : (screen.paging.loadMoreResponse request
        (.snapshot documents)).1.allDelivered = screen.paging.allDelivered ++
          documents.map (Episode.ofDocument request.query.collection) := by
      simp only [Paging.allDelivered, Paging.loadMoreResponse_snapshot, List.flatMap_append,
        List.flatMap_singleton]
      rfl
    rw [ShowsDelivered, hdelivered]
    exact hshown.trans (List.Perm.append_right _ h)
  | scrolled y height tableHeight => exact h
  | loadMoreData y height tableHeight podcast paging hpodcast hcall =>
    refine h.of_eq rfl ?_
    cases Paging.loadMoreData_cases hcall with
    | inl hdropped => rw [hdropped.2]
    | inr hissued =>
      obtain ⟨last, -, -, -, rfl⟩ := hissued
      rfl
  | moved _ controller hmove hmoved => exact h.of_eq hmoved.arrayPageListPodcast rfl

end ShowsDelivered

/-- The pages hold the episodes delivered, at the end of every run. -/
theorem showsDelivered_of_run (h : (machine collections).Run es screen) :
    ShowsDelivered screen := by
  induction h with
  | nil => exact List.Perm.refl _
  | snoc hrun hen hstep ih =>
    obtain ⟨pes, hinv⟩ := inv_of_run hrun
    exact ih.step hinv hen hstep

end PodcastScreen

/-- The screen loses and repeats nothing. For podcasts with distinct titles, in every state
    of every run: the pages hold exactly the episodes delivered; those of one podcast,
    wherever they are, are its first documents, each once; and all its documents are there
    once an empty page has shown that no more follow. -/
theorem screen_loses_and_repeats_nothing (collections : Collections)
    (htitles : (collections.podcasts.map Podcast.title).Nodup) {es : List PodcastScreenEvent}
    {screen : PodcastScreen} (h : (PodcastScreen.machine collections).Run es screen) :
    screen.episodesShown.Perm screen.paging.allDelivered ∧
    ∀ podcastName,
      let shown := screen.episodesShown.filter (·.podcastTitle == some podcastName)
      let documents := (collections podcastName).documents
      (∃ count, shown.Perm ((documents.take count).map (Episode.ofDocument podcastName))) ∧
      (screen.paging.Exhausted podcastName →
        shown.Perm (documents.map (Episode.ofDocument podcastName))) := by
  have hshown := PodcastScreen.showsDelivered_of_run h
  obtain ⟨pes, hinv, honce, -⟩ := PodcastScreen.pagesInv_of_run htitles h
  have hpaging := pagingInv_of_run hinv.paging
  have hsound := hpaging.sound honce
  refine ⟨hshown, fun podcastName => ?_⟩
  -- what is shown of a podcast is what was delivered for it
  have hpodcast := hshown.filter (·.podcastTitle == some podcastName)
  rw [Paging.filter_allDelivered hpaging honce, hsound.episodes] at hpodcast
  constructor
  · obtain ⟨rest, hprefix⟩ := hsound.documents podcastName
    refine ⟨(screen.paging.documentsDelivered podcastName).length, ?_⟩
    rwa [← hprefix, List.take_left]
  · intro hexhausted
    rwa [hsound.exhausted podcastName hexhausted] at hpodcast

/-- The sixth episode of `"B"` is on the page of `"A"`, and nowhere else. -/
theorem screen_loses_and_repeats_nothing_mixed :
    ∃ screen, (PodcastScreen.machine longAndShort).Run
        (scrollB ++ [.swipeLeftToRight, sixthOfB]) screen ∧
      screen.episodesShown.Perm screen.paging.allDelivered :=
  have hrun := Machine.run_of_replay (PodcastScreen.machine longAndShort)
    (scrollB ++ [.swipeLeftToRight, sixthOfB]) (by decide +kernel)
  ⟨_, hrun, (screen_loses_and_repeats_nothing longAndShort (by decide) hrun).1⟩

end BingePodcast
