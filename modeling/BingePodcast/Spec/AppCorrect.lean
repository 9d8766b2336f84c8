import BingePodcast.Native.App
import BingePodcast.Spec.FavoritesListed
import BingePodcast.Spec.PodcastScreenPages

/-!
# Where favourites come from

An episode is decoded from a document, passed on from page to page and put on the page that
happens to be selected, handed over to a player, saved, listed among the favourites, handed
over to another player and saved again. This file says what is left of it at the end: the
texts of its document, and its podcast or none.

## Key results

- `PodcastScreen.publishes_of_run`: the pages hold decoded documents and nothing else
- `Favorites.traced_of_run`: what favourites come from, if selections are of known episodes
- `favorites_come_from_podcasts`: so in the app they come from documents
-/

namespace BingePodcast

/-! ## The pages -/

/-- A query returns documents of its collection. -/
theorem Query.mem_of_mem_documents {collections : Collections} {query : Query}
    {document : DocumentSnapshot} (h : document ∈ query.documents collections) :
    document ∈ (collections query.collection).documents := by
  obtain ⟨collection, startAfter, limit⟩ := query
  have hrest : document ∈ (⟨collection, startAfter, none⟩ : Query).documents collections := by
    cases limit with
    | none => exact h
    | some limit => exact List.mem_of_mem_take h
  cases startAfter with
  | none => exact hrest
  | some last => exact List.mem_of_mem_after hrest

/-- An episode is decoded from a document. -/
def Collections.Publishes (collections : Collections) (episode : Episode) : Prop :=
  ∃ podcastName, ∃ document ∈ (collections podcastName).documents,
    episode = Episode.ofDocument podcastName document

namespace PodcastScreen

variable {collections : Collections} {screen : PodcastScreen} {es : List PodcastScreenEvent}

/-- The episodes of an answer are decoded from documents. -/
theorem publishes_of_answers {query : Query} {documents : List DocumentSnapshot}
    (h : collections.Answers query (.snapshot documents)) {episode : Episode}
    (hepisode : episode ∈ documents.map (Episode.ofDocument query.collection)) :
    collections.Publishes episode := by
  obtain ⟨document, hdocument, rfl⟩ := List.mem_map.mp hepisode
  obtain rfl : documents = query.documents collections := h
  exact ⟨query.collection, document, Query.mem_of_mem_documents hdocument, rfl⟩

/-- Whichever page an answer is put on, the pages hold decoded documents. -/
theorem publishes_of_run (h : (machine collections).Run es screen) :
    ∀ page ∈ screen.controller.arrayPageListPodcast, ∀ episode ∈ page.podcastEpisode.episode,
      collections.Publishes episode := by
  induction h with
  | nil =>
    intro page hpage
    cases hpage
  | @snoc es screen screen' e hrun hen hstep ih =>
    obtain ⟨pes, hinv⟩ := inv_of_run hrun
    cases hinv.effect hen hstep with
    | firstPage request documents last hlast =>
      intro page hpage episode hepisode
      cases List.mem_append.mp hpage with
      | inl hold => exact ih page hold episode hepisode
      | inr hnew =>
        obtain rfl := List.mem_singleton.mp hnew
        exact publishes_of_answers hen.2 hepisode
    | loadMore request documents =>
      intro page hpage episode hepisode
      cases List.mem_of_mem_modify hpage with
      | inl hold => exact ih page hold episode hepisode
      | inr hcurrent =>
        -- the page may be another podcast's: the episode keeps its own
        obtain ⟨page', hpage', rfl⟩ := hcurrent
        cases List.mem_append.mp hepisode with
        | inl hold => exact ih page' (List.mem_of_getElem? hpage') episode hold
        | inr hnew => exact publishes_of_answers hen.2 hnew
    | moved _ controller hmove hmoved =>
      intro page hpage
      exact ih page (hmoved.arrayPageListPodcast ▸ hpage)
    | listFailed err => exact ih
    | listed documents hpaths => exact ih
    | firstPageFailed request err => exact ih
    | loadMoreFailed request err => exact ih
    | scrolled y height tableHeight => exact ih
    | loadMoreData y height tableHeight podcast paging hpodcast hcall => exact ih

end PodcastScreen

/-! ## Copies -/

/-- What is handed over of an episode from a list to a player and on to the store. -/
structure EpisodeTexts where
  title : String
  subtitle : String
  description : String
  imageUrl : String
deriving DecidableEq, Repr

/-- The texts of an episode. -/
def Episode.texts (episode : Episode) : EpisodeTexts where
  title := episode.title.getD ""
  subtitle := episode.subtitle.getD ""
  description := episode.description.getD ""
  imageUrl := episode.imageUrl.getD ""

/-- An episode as it is read back after it was saved by players, one after another. -/
structure Episode.IsCopyOf (episode original : Episode) : Prop where
  texts : episode.texts = original.texts
  /-- The list of favourites hands over no podcast. -/
  podcastTitle : episode.podcastTitle = some "" ∨ episode.podcastTitle = original.podcastTitle

theorem Episode.IsCopyOf.refl (episode : Episode) : episode.IsCopyOf episode := ⟨rfl, .inr rfl⟩

/-- The episode that is read back after a player has saved what it was opened on. -/
def PlayerViewController.copy (player : PlayerViewController) : Episode :=
  Episode.ofSaved player.favoriteEpisode.row

/-- A player saves what the list of favourites has handed over, under no podcast. -/
theorem PageListFavorite.copy_of_didSelectRowAt {page : PageListFavorite} {sectionIndex row : ℤ}
    {player : PlayerViewController} (h : page.didSelectRowAt sectionIndex row = .ok player) :
    ∃ group ∈ page.podcastSaved, ∃ episode ∈ group.episode,
      player.copy.texts = episode.texts ∧ player.copy.podcastTitle = some "" := by
  obtain ⟨group, hgroup, h⟩ := Except.bind_eq_ok.mp h
  obtain ⟨episode, hepisode, h⟩ := Except.bind_eq_ok.mp h
  obtain rfl := Except.ok.inj h
  exact ⟨group, mem_of_element hgroup, episode, mem_of_element hepisode, rfl, rfl⟩

/-- A player saves what the list of a podcast has handed over, under its podcast. -/
theorem PageListPodcast.copy_of_didSelectRowAt {page : PageListPodcast} {index : ℤ}
    {player : PlayerViewController} (h : page.didSelectRowAt index = .ok player) :
    ∃ episode ∈ page.podcastEpisode.episode, player.copy.texts = episode.texts ∧
      player.copy.podcastTitle = some (episode.podcastTitle.getD "") := by
  obtain ⟨episode, hepisode, h⟩ := Except.bind_eq_ok.mp h
  obtain rfl := Except.ok.inj h
  exact ⟨episode, mem_of_element hepisode, rfl, rfl⟩

/-! ## What favourites come from -/

/-- What a player can be opened on that no player has saved. -/
inductive Origin (collections : Collections) (objects : Finset ManagedObject) : Episode → Prop
  | document {episode : Episode} (publishes : collections.Publishes episode) :
      Origin collections objects episode
  | stored {x : ManagedObject} (mem : x ∈ objects) :
      Origin collections objects (Episode.ofSaved x.row)
  /-- The placeholder page lists an episode without texts. -/
  | initialPage {episode : Episode} (mem : episode ∈ initialPage.podcastEpisode.episode) :
      Origin collections objects episode
  /-- The tab bar opens its player on no episode. -/
  | tabBar : Origin collections objects PlayerViewController.instantiated.copy

/-- An episode is a copy of an original. -/
def Traced (collections : Collections) (objects : Finset ManagedObject) (episode : Episode) :
    Prop :=
  ∃ original, Origin collections objects original ∧ episode.IsCopyOf original

/-- An original has a podcast, or is a copy of a document under its podcast. -/
theorem Origin.of_podcastTitle {collections : Collections} {objects : Finset ManagedObject}
    {original : Episode} (h : Origin collections objects original) {podcastName : String}
    (hname : podcastName ≠ "") (htitle : original.podcastTitle = some podcastName) :
    (∃ document ∈ (collections podcastName).documents,
      original = Episode.ofDocument podcastName document) ∨
    ∃ x ∈ objects, x.row.podcastName = some podcastName ∧ original = Episode.ofSaved x.row := by
  cases h with
  | document hpublishes =>
    obtain ⟨podcastName', document, hdocument, rfl⟩ := hpublishes
    obtain rfl := Option.some.inj htitle
    exact .inl ⟨document, hdocument, rfl⟩
  | @stored x hx =>
    have hgetD : x.row.podcastName.getD "" = podcastName := Option.some.inj htitle
    cases hpodcast : x.row.podcastName with
    | none =>
      rw [hpodcast, Option.getD_none] at hgetD
      exact absurd hgetD.symm hname
    | some podcastName' =>
      rw [hpodcast, Option.getD_some] at hgetD
      exact .inr ⟨x, hx, by rw [hpodcast, hgetD], rfl⟩
  | initialPage hepisode =>
    obtain rfl := List.mem_singleton.mp hepisode
    exact absurd (Option.some.inj htitle).symm hname
  | tabBar => exact absurd (Option.some.inj htitle).symm hname

namespace Favorites

variable {ι : Type} [DecidableEq ι] {collections : Collections} {objects : Finset ManagedObject}
variable {favorites favorites' : Favorites ι} {es : List (FavoritesEvent ι)} {e : FavoritesEvent ι}

/-- An episode of a podcast is selected on a page of originals. -/
def SelectsOrigin (collections : Collections) (objects : Finset ManagedObject)
    (e : FavoritesEvent ι) : Prop :=
  ∀ page ∈ e.selectedPage, ∀ episode ∈ page.podcastEpisode.episode,
    Origin collections objects episode

/-- The players are opened on copies of originals, and the page lists such copies, each under
    its podcast. -/
structure TracedInv (collections : Collections) (objects : Finset ManagedObject)
    (favorites : Favorites ι) : Prop where
  players : ∀ player, ∀ opened ∈ favorites.players player,
    Traced collections objects opened.player.copy
  list : ∀ group ∈ favorites.list.page.podcastSaved, ∀ episode ∈ group.episode,
    Traced collections objects episode ∧ episode.podcastTitle = group.podcast.title

omit [DecidableEq ι] in
/-- A new player is opened on a copy of an original. -/
theorem TracedInv.traced_opening (h : TracedInv collections objects favorites)
    (hen : Enabled favorites e) (hselects : SelectsOrigin collections objects e) {player : ι}
    {controller : PlayerViewController} (hopens : opening e = some (player, controller)) :
    Traced collections objects controller.copy := by
  cases e with
  | openPlayer player' =>
    obtain ⟨rfl, rfl⟩ := Prod.mk.inj (Option.some.inj hopens)
    exact ⟨_, .tabBar, .refl _⟩
  | didSelectRowAt player' selection =>
    obtain ⟨controller', hselect, heq⟩ := Option.map_eq_some_iff.mp hopens
    obtain ⟨rfl, rfl⟩ := Prod.mk.inj heq
    have hselect := Except.toOption_eq_some.mp hselect
    cases selection with
    | favorite page sectionIndex row =>
      obtain ⟨-, rfl, -⟩ := hen.2.2
      obtain ⟨group, hgroup, episode, hepisode, htexts, htitle⟩ :=
        PageListFavorite.copy_of_didSelectRowAt hselect
      -- a copy of a copy, with its podcast lost
      obtain ⟨original, horigin, hcopy⟩ := (h.list group hgroup episode hepisode).1
      exact ⟨original, horigin, htexts.trans hcopy.texts, .inl htitle⟩
    | podcast page index =>
      obtain ⟨episode, hepisode, htexts, htitle⟩ := PageListPodcast.copy_of_didSelectRowAt hselect
      refine ⟨episode, hselects page rfl episode hepisode, htexts, ?_⟩
      cases hpodcast : episode.podcastTitle with
      | none => exact .inl (by rw [htitle, hpodcast, Option.getD_none])
      | some podcastName => exact .inr (by rw [htitle, hpodcast, Option.getD_some])
  | _ => cases hopens

/-- What a manager sees are originals and what players have saved. -/
theorem TracedInv.traced_objects (h : TracedInv collections objects favorites)
    (hrun : (machine ι objects).Run es favorites) {manager : Option ι} {x : ManagedObject}
    (hx : x ∈ favorites.managers.objects manager) :
    Traced collections objects (Episode.ofSaved x.row) := by
  cases ((within_of_run hrun).view manager).1 x hx with
  | inl hstored => exact ⟨_, .stored hstored, .refl _⟩
  | inr hwritten =>
    obtain ⟨-, player, -, opened, hopened, hrow⟩ := hwritten
    rw [hrow]
    exact h.players player opened hopened

theorem TracedInv.step (h : TracedInv collections objects favorites)
    (hrun : (machine ι objects).Run es favorites) (hen : Enabled favorites e)
    (hselects : SelectsOrigin collections objects e) (hstep : favorites.step e = .ok favorites') :
    TracedInv collections objects favorites' where
  players player opened' hopened' := by
    cases hbefore : favorites.players player with
    | some opened =>
      -- a player keeps the episode that it was opened on
      obtain ⟨opened'', hopened'', hepisode⟩ := players_step hen hstep hbefore
      obtain rfl := Option.some.inj (hopened''.symm.trans hopened')
      rw [PlayerViewController.copy, hepisode]
      exact h.players player opened hbefore
    | none =>
      obtain ⟨controller, hopens, rfl⟩ := opened_of_step hen hstep hbefore hopened'
      exact h.traced_opening hen hselects hopens
  list := by
    have hlist := list_step (displays_of_run hrun).status hen hstep
    split at hlist
    · rename_i enumeration fetch hfetch
      rw [hlist.1, FavoritePage.page_fetchFavoriteEpisode]
      cases fetch with
      | none =>
        intro group hgroup
        cases hgroup
      | some result =>
        intro group hgroup episode hepisode
        refine ⟨?_, (favorites_partitioned _ enumeration.coe_enumerated _).podcastTitle group hgroup
          episode hepisode⟩
        -- the page lists what its manager sees
        obtain ⟨podcastTitle, rfl, -⟩ :=
          (CoreDataManager.mem_fetchFavoriteEpisode_iff enumeration.coe_enumerated).mp hgroup
        obtain ⟨r, hr, rfl⟩ := List.mem_map.mp (List.mem_filter.mp hepisode).1
        obtain ⟨x, hx, rfl⟩ := List.mem_map.mp hr
        have hobjects := fetches_of_listFetch hen hfetch result rfl
        have hseen : x ∈ favorites.managers.objects none := by
          rw [← Finset.mem_val, ← hobjects]
          exact hx
        exact h.traced_objects hrun hseen
    · rw [hlist.1]
      exact h.list

theorem traced_of_run
    (h : ((machine ι objects).when fun _ e => SelectsOrigin collections objects e).Run es
      favorites) : TracedInv collections objects favorites := by
  induction h with
  | nil =>
    refine ⟨fun player opened hopened => ?_, fun group hgroup => ?_⟩
    · cases hopened
    · cases hgroup
  | snoc hrun hen hstep ih => exact ih.step hrun.of_when hen.1 hen.2 hstep

end Favorites

/-- The page on display holds originals. -/
theorem App.selectsOrigin {ι : Type} {collections : Collections} (objects : Finset ManagedObject)
    {es : List PodcastScreenEvent} {screen : PodcastScreen}
    (h : (PodcastScreen.machine collections).Run es screen) {e : FavoritesEvent ι}
    (hselects : App.SelectsOn screen e) : Favorites.SelectsOrigin collections objects e := by
  intro page hpage episode hepisode
  have hdisplayed := hselects page hpage
  rw [PodcastScreen.displayedPage] at hdisplayed
  split at hdisplayed
  · obtain rfl := Option.some.inj hdisplayed
    exact .initialPage hepisode
  · exact .document (PodcastScreen.publishes_of_run h page (List.mem_of_getElem? hdisplayed)
      episode hepisode)

/-- Favourites come from podcasts. In every run of the app, whatever order its answers, taps,
    calls and fetches come in and whichever fail: what any manager sees has the texts of a
    document or of an object that was stored before, or of the placeholder page or the player
    of the tab bar, which have none; and what the page of favourites lists under a podcast has
    the texts of a document of this podcast's collection or of an object that was stored under
    it, also if the episode was put on the page of another podcast. -/
theorem favorites_come_from_podcasts (collections : Collections) {ι : Type} [DecidableEq ι]
    (objects : Finset ManagedObject) {es : List (PodcastScreenEvent ⊕ FavoritesEvent ι)}
    {app : PodcastScreen × Favorites ι} (h : (App.machine collections ι objects).Run es app) :
    (∀ manager, ∀ x ∈ app.2.managers.objects manager,
      Traced collections objects (Episode.ofSaved x.row)) ∧
    ∀ group ∈ app.2.list.page.podcastSaved, ∀ episode ∈ group.episode,
      Traced collections objects episode ∧
      ∀ podcastName ≠ "", group.podcast.title = some podcastName →
        (∃ document ∈ (collections podcastName).documents,
          episode.texts = (Episode.ofDocument podcastName document).texts) ∨
        ∃ x ∈ objects, x.row.podcastName = some podcastName ∧
          episode.texts = (Episode.ofSaved x.row).texts := by
  have hrun := Machine.Run.of_guarded
    (fun _ _ _ _ hrun hselects => App.selectsOrigin objects hrun hselects) h
  have htraced := Favorites.traced_of_run hrun
  refine ⟨fun manager x hx => htraced.traced_objects hrun.of_when hx,
    fun group hgroup episode hepisode => ?_⟩
  obtain ⟨hcopy, hpodcast⟩ := htraced.list group hgroup episode hepisode
  refine ⟨hcopy, fun podcastName hname htitle => ?_⟩
  obtain ⟨original, horigin, htexts, hcopied⟩ := hcopy
  rw [hpodcast, htitle] at hcopied
  -- a podcast that is not blank is the original one
  have horiginal : original.podcastTitle = some podcastName :=
    (hcopied.resolve_left fun hblank => hname (Option.some.inj hblank)).symm
  rw [htexts]
  refine (horigin.of_podcastTitle hname horiginal).imp ?_ ?_
  · rintro ⟨document, hdocument, rfl⟩
    exact ⟨document, hdocument, rfl⟩
  · rintro ⟨x, hx, hpodcastName, rfl⟩
    exact ⟨x, hx, hpodcastName, rfl⟩

/-- The sixth episode of `"B"`, which was put on the page of `"A"`, is selected there and saved. -/
noncomputable def savedOnPageOfA : List (PodcastScreenEvent ⊕ FavoritesEvent Unit) :=
  (scrollB ++ [.swipeLeftToRight, sixthOfB]).map .inl ++
    [.didSelectRowAt () (.podcast ⟨⟨⟨some "A", none, none⟩,
        [.ofDocument "A" ⟨"a", []⟩, .ofDocument "B" ⟨"b6", []⟩]⟩⟩ 1),
      .actionPressFavoriteButton, .clickBegins (), .clickCalls () false none true,
      .dismiss .toList none].map .inr

/-- Its row, without texts like its document. -/
def rowOfB : EpisodeSaved := ⟨"", "", "", "", "", "", "B"⟩

/-- Then the page of favourites appears. -/
noncomputable def listsEpisodeOfB : FavoritesEvent Unit :=
  .viewWillAppear .toList (some [⟨0, rowOfB⟩])

theorem favorites_come_from_podcasts_savedOnPageOfA :
    ∃ app, (App.machine longAndShort Unit ∅).Run (savedOnPageOfA ++ [.inr listsEpisodeOfB]) app ∧
      ∃ group ∈ app.2.list.page.podcastSaved, group.podcast.title = some "B" ∧
        ∀ episode ∈ group.episode, ∃ document ∈ (longAndShort "B").documents,
          episode.texts = (Episode.ofDocument "B" document).texts := by
  have hrun := Machine.run_of_replay (App.machine longAndShort Unit ∅) savedOnPageOfA
    (by decide +kernel)
  generalize happ : Option.get _ _ = app at hrun
  have hready : (App.machine longAndShort Unit ∅).Enabled app (.inr listsEpisodeOfB) ∧
      app.2.list.status = .favorite := by
    rw [← happ]
    decide +kernel
  have hen : Favorites.Enabled app.2 listsEpisodeOfB := hready.1.1
  obtain ⟨favorites, hstep⟩ : ∃ favorites, app.2.step listsEpisodeOfB = .ok favorites := ⟨_, rfl⟩
  have hrun' := hrun.snoc hready.1 (Machine.attach_step_inr.mpr ⟨favorites, hstep, rfl⟩)
  -- what the page fetches is one group
  have hlist := Favorites.list_step (e := listsEpisodeOfB) hready.2 hen hstep
  have hpage : favorites.list.page.podcastSaved =
      CoreDataManager.fetchFavoriteEpisode Enumeration.toList.enumerated (some [rowOfB]) := by
    rw [hlist.1, FavoritePage.page_fetchFavoriteEpisode]
    rfl
  obtain ⟨group, hgroup, htitle⟩ : ∃ group ∈ favorites.list.page.podcastSaved,
      group.podcast.title = some "B" := by
    rw [hpage]
    exact ⟨_, (CoreDataManager.mem_fetchFavoriteEpisode_iff
      Enumeration.toList.coe_enumerated).mpr ⟨"B", rfl, by decide⟩, rfl⟩
  refine ⟨_, hrun', group, hgroup, htitle, fun episode hepisode => ?_⟩
  have hcomes := ((favorites_come_from_podcasts longAndShort ∅ hrun').2 group hgroup episode
    hepisode).2 "B" (by decide) htitle
  exact hcomes.resolve_right fun hstored => by simp at hstored

end BingePodcast
