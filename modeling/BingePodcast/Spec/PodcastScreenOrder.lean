import BingePodcast.Spec.PodcastScreenIndex

/-!
# The order of the podcasts on the screen

Each podcast is appended to the screen when its first page arrives. This file says what the
screen holds after any answers and no action of the user, and from this exactly when two
such loads of the same podcasts end in the same carousel, in the order of their collection.

## Key results

- `PodcastScreen.arrivedInv_of_run`: podcasts and pages are listed in the order of arrival
- `carousel_order_iff`: two loads end alike, and in the order of the collection, exactly when
  no answer traps and the first pages arrive in that order both times
-/

namespace BingePodcast

open FirebaseService (podcastLimit)

/-! ## Arrivals -/

/-- The podcast whose first page an event delivers. -/
def PodcastScreenEvent.arrived : PodcastScreenEvent → Option Podcast
  | .firstPageResponse request (.snapshot _) => some request.onCompletion
  | _ => none

/-- The podcasts whose first pages arrived, in the order of arrival. -/
def arrived (es : List PodcastScreenEvent) : List Podcast :=
  es.filterMap PodcastScreenEvent.arrived

theorem arrived_append (es : List PodcastScreenEvent) (e : PodcastScreenEvent) :
    arrived (es ++ [e]) = arrived es ++ e.arrived.toList := by
  cases h : e.arrived <;> simp [arrived, h]

/-- Arrivals are counted as they are listed. -/
theorem length_arrived (es : List PodcastScreenEvent) : (arrived es).length = arrivals es := by
  rw [arrived, List.length_filterMap_eq_countP, arrivals]
  congr 1
  funext e
  cases e with
  | firstPageResponse request response => cases response <;> rfl
  | podcastListResponse response => rfl
  | loadMoreResponse request response => rfl
  | scrollViewDidScroll y height tableHeight => rfl
  | swipeLeftToRight => rfl
  | swipeRightToLeft => rfl
  | didSelectItemAt row => rfl

/-- A podcast with the episodes of its first page. -/
def Collections.firstEpisodes (collections : Collections) (podcast : Podcast) : PodcastEpisode where
  podcast := podcast
  episode := ((collections podcast.name).documents.take podcastLimit).map
    (Episode.ofDocument podcast.name)

namespace PodcastScreen

variable {collections : Collections} {screen screen' : PodcastScreen}
variable {pes : List (PagingEvent Podcast)} {es : List PodcastScreenEvent} {e : PodcastScreenEvent}

/-- A screen that nobody touched lists the podcasts that arrived, each with its first page. -/
structure ArrivedInv (collections : Collections) (podcasts : List Podcast)
    (screen : PodcastScreen) : Prop where
  firstPages : ∀ request ∈ screen.paging.firstPages, request = firstPageRequest request.onCompletion
  podcastEpisode : screen.controller.podcastEpisode = podcasts.map collections.firstEpisodes
  pages : screen.controller.arrayPageListPodcast =
    screen.controller.podcastEpisode.map PageListPodcast.mk

namespace ArrivedInv

variable {podcasts : List Podcast}

theorem init : ArrivedInv collections [] {} := ⟨by simp, rfl, rfl⟩

/-- An answer lists the podcast it delivers, if any. -/
theorem step (h : ArrivedInv collections podcasts screen) (hinv : Inv collections pes screen)
    (hloadMores : screen.paging.loadMores = []) (hen : Enabled collections screen e)
    (hstep : screen.step e = .ok screen') (huser : e.isUserAction = false) :
    ArrivedInv collections (podcasts ++ e.arrived.toList) screen' := by
  cases hinv.effect hen hstep with
  | listFailed err =>
    simp only [PodcastScreenEvent.arrived, Option.toList_none, List.append_nil]
    exact ⟨h.firstPages, h.podcastEpisode, h.pages⟩
  | listed documents paths =>
    simp only [PodcastScreenEvent.arrived, Option.toList_none, List.append_nil]
    refine ⟨fun request hrequest => ?_, h.podcastEpisode, h.pages⟩
    -- the request was in flight before or is that of a podcast on the list
    rcases List.mem_append.mp hrequest with hrequest | hrequest
    · exact h.firstPages request hrequest
    · obtain ⟨podcast, -, rfl⟩ := List.mem_map.mp hrequest
      rfl
  | firstPageFailed request err =>
    simp only [PodcastScreenEvent.arrived, Option.toList_none, List.append_nil]
    exact ⟨fun r hr => h.firstPages r (List.mem_of_mem_erase hr), h.podcastEpisode, h.pages⟩
  | firstPage request documents last hlast =>
    obtain ⟨hmem, hanswer⟩ := hen
    have hrequest := h.firstPages request hmem
    -- the answer is the first page of the captured podcast's collection
    have hname : request.query.collection = request.onCompletion.name := by
      rw [hrequest]
      rfl
    have hdocuments : documents =
        (collections request.onCompletion.name).documents.take podcastLimit := by
      rw [Collections.Answers, hrequest] at hanswer
      exact hanswer
    have hnew : (⟨request.onCompletion,
        documents.map (Episode.ofDocument request.query.collection)⟩ : PodcastEpisode) =
        collections.firstEpisodes request.onCompletion := by
      rw [Collections.firstEpisodes, hname, hdocuments]
    refine ⟨fun r hr => h.firstPages r (List.mem_of_mem_erase hr), ?_, ?_⟩
    · simp only [PodcastViewController.showPodcast, hnew, h.podcastEpisode,
        PodcastScreenEvent.arrived, Option.toList_some, List.map_append, List.map_singleton]
    · simp only [PodcastViewController.showPodcast, h.pages, List.map_append, List.map_singleton]
  -- without a scroll no load-more request is in flight
  | loadMoreFailed request err => exact absurd hen.1 (by simp [hloadMores])
  | loadMore request documents => exact absurd hen.1 (by simp [hloadMores])
  | scrolled y height tableHeight => cases huser
  | loadMoreData y height tableHeight podcast paging hpodcast hcall => cases huser
  | moved _ controller hmove hmoved =>
    exact absurd (PodcastScreenEvent.isUserAction_of_isMove hmove) (by simp [huser])

end ArrivedInv

/-- After any answers and no action of the user, the screen lists the podcasts that arrived. -/
theorem arrivedInv_of_run
    (h : ((machine collections).when fun _ e => e.isUserAction = false).Run es screen) :
    ArrivedInv collections (arrived es) screen := by
  induction h with
  | nil => exact ArrivedInv.init
  | snoc hrun hen hstep ih =>
    obtain ⟨pes, hinv⟩ := inv_of_run hrun.of_when
    have hloadMores := (initialLoad_of_run hrun).loadMores
    rw [arrived_append]
    exact ih.step hinv hloadMores hen.1 hstep hen.2

end PodcastScreen

/-! ## Two loads -/

/-- Two screens with the same carousel: the same podcasts with the same episodes, listed in
    the order of their collection, and the same page on display and selected. -/
structure SameCarousel (collections : Collections) (screen₁ screen₂ : PodcastScreen) : Prop where
  podcastEpisode : screen₁.controller.podcastEpisode = screen₂.controller.podcastEpisode
  arrayPageListPodcast :
    screen₁.controller.arrayPageListPodcast = screen₂.controller.arrayPageListPodcast
  order : (screen₁.controller.podcastEpisode.map (·.podcast)).Sublist collections.podcasts
  displayed : screen₁.controller.displayed = screen₂.controller.displayed
  currentIndex : screen₁.controller.currentIndex = screen₂.controller.currentIndex

namespace SameCarousel

variable {collections : Collections} {es₁ es₂ : List PodcastScreenEvent}
variable {screen₁ screen₂ : PodcastScreen}

open PodcastScreen

/-- Two screens that are reached without a user are the same carousel exactly when the first
    pages arrived in one order both times, that of the collection. -/
theorem iff_arrived
    (h₁ : ((machine collections).when fun _ e => e.isUserAction = false).Run es₁ screen₁)
    (h₂ : ((machine collections).when fun _ e => e.isUserAction = false).Run es₂ screen₂) :
    SameCarousel collections screen₁ screen₂ ↔
      arrived es₁ = arrived es₂ ∧ (arrived es₁).Sublist collections.podcasts := by
  have hlist₁ := PodcastScreen.arrivedInv_of_run h₁
  have hlist₂ := PodcastScreen.arrivedInv_of_run h₂
  -- a page knows its podcast, so the podcasts listed are those that arrived
  have hpodcasts : ∀ podcasts : List Podcast,
      (podcasts.map collections.firstEpisodes).map (·.podcast) = podcasts := by
    intro podcasts
    rw [List.map_map]
    exact List.map_id podcasts
  constructor
  · intro hcarousel
    have heq := hcarousel.podcastEpisode
    have horder := hcarousel.order
    rw [hlist₁.podcastEpisode, hpodcasts] at horder
    rw [hlist₁.podcastEpisode, hlist₂.podcastEpisode] at heq
    refine ⟨?_, horder⟩
    rw [← hpodcasts (arrived es₁), heq, hpodcasts]
  · rintro ⟨heq, horder⟩
    -- the page on display and the index depend on the number of arrivals only
    have hcount : arrivals es₁ = arrivals es₂ := by
      rw [← length_arrived, ← length_arrived, heq]
    have hload₁ := initialLoad_of_run h₁
    have hload₂ := initialLoad_of_run h₂
    have hpodcastEpisode :
        screen₁.controller.podcastEpisode = screen₂.controller.podcastEpisode := by
      rw [hlist₁.podcastEpisode, hlist₂.podcastEpisode, heq]
    exact {
      podcastEpisode := hpodcastEpisode
      arrayPageListPodcast := by rw [hlist₁.pages, hlist₂.pages, hpodcastEpisode]
      order := by rwa [hlist₁.podcastEpisode, hpodcasts]
      displayed := by rw [hload₁.displayed, hload₂.displayed, hcount]
      currentIndex := by rw [hload₁.currentIndex, hload₂.currentIndex, hcount] }

end SameCarousel

/-- Two loads, nobody touching the screen: neither traps and they end in the same carousel, in
    the order of the collection, exactly when no answer traps and the first pages arrive in one
    order both times, that of the collection. -/
theorem carousel_order_iff (collections : Collections) {es₁ es₂ : List PodcastScreenEvent}
    {outcome₁ outcome₂ : Except Trap PodcastScreen}
    (h₁ : (PodcastScreen.machine collections).Outcome es₁ outcome₁)
    (h₂ : (PodcastScreen.machine collections).Outcome es₂ outcome₂)
    (huser₁ : ∀ e ∈ es₁, e.isUserAction = false) (huser₂ : ∀ e ∈ es₂, e.isUserAction = false) :
    (∃ screen₁ screen₂, outcome₁ = .ok screen₁ ∧ outcome₂ = .ok screen₂ ∧
      SameCarousel collections screen₁ screen₂) ↔
    (∀ e ∈ es₁ ++ es₂, e.NoTrap) ∧
      arrived es₁ = arrived es₂ ∧ (arrived es₁).Sublist collections.podcasts := by
  rw [List.forall_mem_append, ← exists_screen_iff h₁ huser₁, ← exists_screen_iff h₂ huser₂]
  -- where both loads get through, only the arrivals count
  have hiff : ∀ screen₁ screen₂, outcome₁ = .ok screen₁ → outcome₂ = .ok screen₂ →
      (SameCarousel collections screen₁ screen₂ ↔
        arrived es₁ = arrived es₂ ∧ (arrived es₁).Sublist collections.podcasts) := by
    rintro screen₁ screen₂ rfl rfl
    exact SameCarousel.iff_arrived ((Machine.outcome_ok_iff.mp h₁).when_of_forall huser₁)
      ((Machine.outcome_ok_iff.mp h₂).when_of_forall huser₂)
  constructor
  · rintro ⟨screen₁, screen₂, hscreen₁, hscreen₂, hcarousel⟩
    exact ⟨⟨⟨screen₁, hscreen₁⟩, ⟨screen₂, hscreen₂⟩⟩,
      (hiff screen₁ screen₂ hscreen₁ hscreen₂).mp hcarousel⟩
  · rintro ⟨⟨⟨screen₁, hscreen₁⟩, ⟨screen₂, hscreen₂⟩⟩, harrived⟩
    exact ⟨screen₁, screen₂, hscreen₁, hscreen₂,
      (hiff screen₁ screen₂ hscreen₁ hscreen₂).mpr harrived⟩

/-- Five of the six podcasts arrive in the order of their collection; the third fails at once or
    after all the others. -/
def thirdFailsAtOnce : List PodcastScreenEvent :=
  sixListed :: firstPageOf "3" (.error ⟨"offline"⟩) ::
    ["1", "2", "4", "5", "6"].map (firstPageOf · (.snapshot [⟨"e", []⟩]))

@[inherit_doc thirdFailsAtOnce]
def thirdFailsLast : List PodcastScreenEvent :=
  sixListed :: ["1", "2", "4", "5", "6"].map (firstPageOf · (.snapshot [⟨"e", []⟩])) ++
    [firstPageOf "3" (.error ⟨"offline"⟩)]

theorem carousel_order_iff_thirdFails :
    ∃ screen₁ screen₂, (PodcastScreen.machine sixPodcasts).Run thirdFailsAtOnce screen₁ ∧
      (PodcastScreen.machine sixPodcasts).Run thirdFailsLast screen₂ ∧
      SameCarousel sixPodcasts screen₁ screen₂ := by
  have hrun₁ := Machine.run_of_replay (PodcastScreen.machine sixPodcasts) thirdFailsAtOnce
    (by decide)
  have hrun₂ := Machine.run_of_replay (PodcastScreen.machine sixPodcasts) thirdFailsLast (by decide)
  obtain ⟨screen₁, screen₂, houtcome₁, houtcome₂, hcarousel⟩ := (carousel_order_iff sixPodcasts
    (Machine.outcome_ok_iff.mpr hrun₁) (Machine.outcome_ok_iff.mpr hrun₂) (by decide)
    (by decide)).mpr ⟨by decide, by decide, by decide⟩
  exact ⟨screen₁, screen₂, Except.ok.inj houtcome₁ ▸ hrun₁, Except.ok.inj houtcome₂ ▸ hrun₂,
    hcarousel⟩

/-- Both podcasts arrive, the second one first. -/
def secondArrivesFirst : List PodcastScreenEvent :=
  [.podcastListResponse (.snapshot (oneEpisodeEach "Podcast").documents),
    .firstPageResponse (firstPageRequest ⟨some "B", none, none⟩) (.snapshot [⟨"b", []⟩]),
    .firstPageResponse (firstPageRequest ⟨some "A", none, none⟩) (.snapshot [⟨"a", []⟩])]

/-- The same two podcasts are listed in the one order or in the other, as they arrive. -/
theorem carousel_follows_network :
    (∀ e ∈ bothArrive ++ secondArrivesFirst, e.isUserAction = false) ∧
    (arrived bothArrive).Perm (arrived secondArrivesFirst) ∧
    ∃ screen₁ screen₂, (PodcastScreen.machine oneEpisodeEach).Run bothArrive screen₁ ∧
      (PodcastScreen.machine oneEpisodeEach).Run secondArrivesFirst screen₂ ∧
      screen₁.Loaded ∧ screen₂.Loaded ∧
      screen₁.controller.podcastEpisode.map (·.podcast.title) = [some "A", some "B"] ∧
      screen₂.controller.podcastEpisode.map (·.podcast.title) = [some "B", some "A"] ∧
      ¬ SameCarousel oneEpisodeEach screen₁ screen₂ := by
  have hrun₁ := Machine.run_of_replay (PodcastScreen.machine oneEpisodeEach) bothArrive (by decide)
  have hrun₂ := Machine.run_of_replay (PodcastScreen.machine oneEpisodeEach) secondArrivesFirst
    (by decide)
  refine ⟨by decide, by decide, _, _, hrun₁, hrun₂, by decide, by decide, by decide, by decide,
    fun hcarousel => ?_⟩
  exact absurd hcarousel.podcastEpisode (by decide)

end BingePodcast
