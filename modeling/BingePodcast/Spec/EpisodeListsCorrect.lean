import BingePodcast.Native.EpisodeLists
import BingePodcast.Spec.FavoritesListed
import BingePodcast.Spec.ListViewCorrect
import BingePodcast.Spec.PodcastScreenInvariant

/-!
# What the lists of podcasts and episodes display

The handlers of the podcast screen and of the page of favourites reload the lists whose items
they change. So their cells are set up for the items of their rows, whatever arrives, however
the cells are reused, and the player that a row opens is the one that its cell announces.

## Key results

- `PodcastScreen.reloaded`, `Favorites.reloaded`: both screens play their part
- `podcast_lists_show_items`: the carousel shows the podcasts, and each table the episodes of
  its page
- `favorite_table_shows_items`: the table of favourites shows the episodes last fetched
-/

namespace BingePodcast

variable {Data Image : Type} {images : ImageSource Data Image}

/-- The cell announces the player: its texts, and the picture that it was set up for, last. -/
structure ListCell.Announces (cell : ListCell Image) (player : PlayerViewController) : Prop where
  texts : cell.texts = [player.title, player.subtitle, "1:02"]
  imageURL : cell.reused.setups.getLast? = some player.imagePlayer

/-! ## The podcast screen -/

/-- Each section of the table has its episode. -/
theorem PageListPodcast.dataSource_complete (page : PageListPodcast) :
    page.dataSource.Complete := by
  rintro indexPath ⟨rows, hrows, -⟩
  have hlt : indexPath.sectionIndex < page.podcastEpisode.episode.length := by
    simpa [dataSource] using (List.getElem?_eq_some_iff.mp hrows).1
  have helement := element_ofNat hlt
  exact ⟨_, by simp only [dataSource, helement, Except.ok_bind]; rfl⟩

namespace PodcastScreen

variable {collections : Collections} {screen screen' : PodcastScreen}
variable {pes : List (PagingEvent Podcast)} {e : PodcastScreenEvent}

/-- The lists read the podcasts and the pages. -/
theorem dataSource_congr
    (hpodcasts : screen'.controller.podcastEpisode = screen.controller.podcastEpisode)
    (hpages : screen'.controller.arrayPageListPodcast = screen.controller.arrayPageListPodcast)
    (list : PodcastList) :
    (lists Image).dataSource screen' list = (lists Image).dataSource screen list := by
  cases list with
  | myCollectionViewPodcast => simp only [lists, PodcastViewController.dataSource, hpodcasts]
  | initialTable => rfl
  | tableViewEpisode index => simp only [lists, hpages]

/-- The first episodes of a podcast add a page and reload the carousel. -/
theorem dataSource_firstPage {request : PageRequest Podcast} {documents : List DocumentSnapshot}
    {last : DocumentSnapshot} (hlast : documents.getLast? = some last)
    {podcastEpisode : PodcastEpisode}
    (hcontroller : screen'.controller = screen.controller.showPodcast podcastEpisode)
    {list : PodcastList} {source : DataSource}
    (hsource : source ∈ (lists Image).dataSource screen list) :
    ∃ source' ∈ (lists Image).dataSource screen' list, source' = source ∨
      (lists Image).reloads screen (.firstPageResponse request (.snapshot documents)) list =
        true := by
  cases list with
  | myCollectionViewPodcast =>
    refine ⟨_, rfl, .inr ?_⟩
    simp only [lists, reloads, Paging.firstPageResponse_snapshot hlast, isData]
  | initialTable => exact ⟨source, hsource, .inl rfl⟩
  | tableViewEpisode index =>
    -- the pages that there were stay where they are
    obtain ⟨page, hpage, rfl⟩ := Option.map_eq_some_iff.mp hsource
    refine ⟨page.dataSource, ?_, .inl rfl⟩
    simp only [lists, hcontroller, PodcastViewController.showPodcast]
    rw [List.getElem?_append_left (List.getElem?_eq_some_iff.mp hpage).1, hpage]
    rfl

/-- Further episodes change the page at `currentIndex` and reload its table. -/
theorem dataSource_loadMore {request : PageRequest Podcast} {documents : List DocumentSnapshot}
    (hnonneg : 0 ≤ screen.controller.currentIndex) {episode : List Episode}
    (hcontroller : screen'.controller = screen.controller.appendToCurrent episode)
    {list : PodcastList} {source : DataSource}
    (hsource : source ∈ (lists Image).dataSource screen list) :
    ∃ source' ∈ (lists Image).dataSource screen' list, source' = source ∨
      (lists Image).reloads screen (.loadMoreResponse request (.snapshot documents)) list =
        true := by
  cases list with
  | myCollectionViewPodcast =>
    refine ⟨source, ?_, .inl rfl⟩
    obtain rfl := Option.some.inj hsource
    simp only [lists, hcontroller, PodcastViewController.appendToCurrent,
      PodcastViewController.dataSource, Option.mem_def]
  | initialTable => exact ⟨source, hsource, .inl rfl⟩
  | tableViewEpisode index =>
    obtain ⟨page, hpage, rfl⟩ := Option.map_eq_some_iff.mp hsource
    by_cases hindex : screen.controller.currentIndex.toNat = index
    · refine ⟨(page.append episode).dataSource, ?_, .inr ?_⟩
      · simp [lists, hcontroller, PodcastViewController.appendToCurrent, hindex, hpage]
      · have hcurrent : screen.controller.currentIndex = index := by omega
        simp [lists, reloads, Paging.loadMoreResponse_snapshot, isData, hcurrent]
    · refine ⟨page.dataSource, ?_, .inl rfl⟩
      simp only [lists, hcontroller, PodcastViewController.appendToCurrent,
        List.getElem?_modify_ne _ _ hindex, hpage, Option.map_some, Option.mem_def]

/-- The handlers of the screen reload the lists whose items they change. -/
theorem reloaded (Image : Type) (collections : Collections) :
    (lists Image).Reloaded (machine collections) where
  complete := by
    intro es screen _ list source hsource indexPath hrow
    cases list with
    | myCollectionViewPodcast =>
      obtain rfl := Option.some.inj hsource
      have helement := element_ofNat (hasRow_singleton hrow)
      exact ⟨_, by simp only [PodcastViewController.dataSource, helement, Except.ok_bind]; rfl⟩
    | initialTable =>
      obtain rfl := Option.some.inj hsource
      exact PageListPodcast.dataSource_complete initialPage indexPath hrow
    | tableViewEpisode index =>
      obtain ⟨page, -, rfl⟩ := Option.map_eq_some_iff.mp hsource
      exact page.dataSource_complete indexPath hrow
  step := by
    intro es screen e screen' hrun hen hstep list source hsource
    obtain ⟨pes, hinv⟩ := inv_of_run hrun
    cases hinv.effect hen hstep with
    | firstPage request documents last hlast =>
      exact dataSource_firstPage hlast rfl hsource
    | loadMore request documents =>
      exact dataSource_loadMore hinv.controller.nonneg rfl hsource
    | moved _ controller hmove hmoved =>
      -- swipes and taps change what is displayed, not what is listed
      refine ⟨source, ?_, .inl rfl⟩
      rw [dataSource_congr hmoved.podcastEpisode hmoved.arrayPageListPodcast]
      exact hsource
    | _ => exact ⟨source, hsource, .inl rfl⟩

/-- The carousel has a row for each podcast, once there is one, and its cells on display are
    set up for the pictures of the podcasts of their rows. -/
structure CarouselShows (podcastEpisode : List PodcastEpisode) (view : ListView Image) :
    Prop where
  counted : podcastEpisode ≠ [] → view.sectionRows = [podcastEpisode.length]
  cells : ∀ cell ∈ view.cells, ∀ indexPath ∈ cell.indexPath,
    ∃ shown, podcastEpisode[indexPath.row]? = some shown ∧
      cell.SetUpFor ⟨[], shown.podcast.image.getD ""⟩

/-- A table, once loaded, has a section for each episode of its page, and its cells on display
    are set up for the episodes of their sections and announce the players that these open. -/
structure TableShows (page : PageListPodcast) (view : ListView Image) : Prop where
  counted : view.sectionRows = List.replicate page.podcastEpisode.episode.length 1 ∨ view = {}
  cells : ∀ cell ∈ view.cells, ∀ indexPath ∈ cell.indexPath,
    ∃ episode player, page.podcastEpisode.episode[indexPath.sectionIndex]? = some episode ∧
      cell.SetUpFor episode.cellContent ∧
      page.didSelectRowAt indexPath.sectionIndex = .ok player ∧ cell.Announces player

theorem TableShows.of_displays {page : PageListPodcast} {view : ListView Image}
    (h : view.Displays page.dataSource) : TableShows page view := by
  refine ⟨h.counted, fun cell hcell indexPath hpath => ?_⟩
  obtain ⟨-, content, hcontent, hset⟩ := h.cells cell hcell indexPath hpath
  obtain ⟨episode, helement, hreturn⟩ := Except.bind_eq_ok.mp hcontent
  obtain rfl := Except.ok.inj hreturn
  refine ⟨episode, _, element_natCast_eq_ok.mp helement, hset,
    by simp only [PageListPodcast.didSelectRowAt, helement, Except.ok_bind]; rfl, ?_⟩
  exact ⟨hset.texts, hset.imageURL⟩

/-- The podcasts come with a reload of the carousel. -/
theorem podcastEpisode_step {es : List PodcastScreenEvent} (hrun : (machine collections).Run es screen)
    (hen : Enabled collections screen e) (hstep : screen.step e = .ok screen')
    (hpodcasts : screen'.controller.podcastEpisode ≠ []) :
    screen.controller.podcastEpisode ≠ [] ∨
      (lists Image).reloads screen e .myCollectionViewPodcast = true := by
  obtain ⟨pes, hinv⟩ := inv_of_run hrun
  cases hinv.effect hen hstep with
  | firstPage request documents last hlast =>
    right
    simp only [lists, reloads, Paging.firstPageResponse_snapshot hlast, isData]
  | moved _ controller hmove hmoved => exact .inl (hmoved.podcastEpisode ▸ hpodcasts)
  | _ => exact .inl hpodcasts

theorem carouselShows_of_run
    {es : List (PodcastScreenEvent ⊕ (PodcastList × ListViewEvent Data))}
    {s : PodcastScreen × (PodcastList → ListView Image)}
    (h : ((machine collections).attach ((lists Image).component images)).Run es s) :
    CarouselShows s.1.controller.podcastEpisode (s.2 .myCollectionViewPodcast) := by
  have hreloaded := reloaded Image collections
  constructor
  · intro hpodcasts
    obtain ⟨source, hsource, hrows⟩ := Lists.counted_of_run hreloaded
      .myCollectionViewPodcast (Q := fun screen => screen.controller.podcastEpisode ≠ [])
      (fun hne => hne rfl) (fun _ _ => rfl)
      (fun _ _ _ _ hrun hen hstep => podcastEpisode_step hrun hen hstep) h hpodcasts
    obtain rfl := Option.some.inj hsource
    exact hrows
  · intro cell hcell indexPath hpath
    obtain ⟨-, content, hcontent, hset⟩ := ((Lists.inv_of_run_any hreloaded h).displays
      .myCollectionViewPodcast _ rfl).cells cell hcell indexPath hpath
    obtain ⟨shown, helement, hreturn⟩ := Except.bind_eq_ok.mp hcontent
    obtain rfl := Except.ok.inj hreturn
    exact ⟨shown, element_natCast_eq_ok.mp helement, hset⟩

end PodcastScreen

section PodcastScreen

open PodcastScreen

/-- In every run of the podcast screen, whatever arrives for whichever page and however the cells
    are reused: the carousel shows the podcasts and every table the episodes of its page, that of
    the placeholder page included, a row on display opens the player that its cell announces, no
    data source traps, and the cells show the pictures of their items if each picture arrives
    while its cell is set up for it. -/
theorem podcast_lists_show_items (collections : Collections) (images : ImageSource Data Image)
    {es : List (PodcastScreenEvent ⊕ (PodcastList × ListViewEvent Data))}
    {s : PodcastScreen × (PodcastList → ListView Image)}
    (h : ((machine collections).attach ((lists Image).component images)).Run es s) :
    CarouselShows s.1.controller.podcastEpisode (s.2 .myCollectionViewPodcast) ∧
    (∀ index, ∀ page ∈ s.1.controller.arrayPageListPodcast[index]?,
      TableShows page (s.2 (.tableViewEpisode index))) ∧
    TableShows initialPage (s.2 .initialTable) ∧
    (∀ event, ((lists Image).component images).Enabled s.1 s.2 event →
      ∃ views, ((lists Image).component images).step s.1 s.2 event = .ok views) ∧
    ((((machine collections).attach ((lists Image).component images)).when
        (Lists.Downloads (ReusedCell.ArrivesInTime images))).Run es s →
      ∀ list, ∀ cell ∈ (s.2 list).cells, ∀ content, cell.SetUpFor content →
        cell.Shows images content) := by
  have hreloaded := reloaded Image collections
  have hinv := Lists.inv_of_run_any hreloaded h
  refine ⟨carouselShows_of_run h, fun index page hpage => ?_,
    .of_displays (hinv.displays .initialTable _ rfl),
    fun event hen => Lists.exists_step hreloaded hinv h.of_attach hen,
    fun hwhen list cell hcell content hset => ?_⟩
  · refine .of_displays (hinv.displays (.tableViewEpisode index) _ ?_)
    simp only [lists, Option.mem_def.mp hpage, Option.map_some, Option.mem_def]
  · refine Lists.shows_of_run_when hreloaded hwhen ?_ hcell hset
    cases list with
    | myCollectionViewPodcast => exact .inr rfl
    | initialTable => exact .inl rfl
    | tableViewEpisode index => exact .inl rfl

/-- The podcasts `"A"` and `"B"`, each with an episode that has a picture. -/
def picturedEpisodes : Collections := fun name =>
  if name = "Podcast" then podcastsAB
  else ⟨[⟨name, [("title", .string name), ("imageUrl", .string name)]⟩],
    List.nodup_singleton name⟩

/-- The two pages arrive, and the episode of `"B"` comes on display with its picture. -/
def displaysB : List (PodcastScreenEvent ⊕ (PodcastList × ListViewEvent String)) :=
  [.inl (.podcastListResponse (.snapshot (picturedEpisodes "Podcast").documents)),
    .inl (.firstPageResponse (firstPageRequest ⟨some "A", none, none⟩)
      (.snapshot (picturedEpisodes "A").documents)),
    .inl (.firstPageResponse (firstPageRequest ⟨some "B", none, none⟩)
      (.snapshot (picturedEpisodes "B").documents)),
    .inr (.tableViewEpisode 1, .reloadData),
    .inr (.tableViewEpisode 1, .cellForRowAt none ⟨0, 0⟩),
    .inr (.tableViewEpisode 1, .download 0 (arrives "B" 0)),
    .inr (.tableViewEpisode 1, .download 0 .mainQueueBlock)]

theorem podcast_lists_show_items_displaysB :
    ∃ s, ((machine picturedEpisodes).attach ((lists String).component echoSource)).Run displaysB s ∧
      ∃ cell ∈ (s.2 (.tableViewEpisode 1)).cells, cell.indexPath = some ⟨0, 0⟩ ∧
        ∃ content, cell.Shows echoSource content := by
  have hrun := Machine.run_of_replay
    (((machine picturedEpisodes).attach ((lists String).component echoSource)).when
      (Lists.Downloads (ReusedCell.ArrivesInTime echoSource))) displaysB (by decide)
  generalize hs : Option.get _ _ = s at hrun
  have hcells : ∃ cell ∈ (s.2 (.tableViewEpisode 1)).cells, cell.indexPath = some ⟨0, 0⟩ := by
    rw [← hs]
    decide
  have hpages : (s.1.controller.arrayPageListPodcast[1]?).isSome := by
    rw [← hs]
    decide
  obtain ⟨cell, hcell, hpath⟩ := hcells
  obtain ⟨page, hpage⟩ := Option.isSome_iff_exists.mp hpages
  have h := podcast_lists_show_items picturedEpisodes echoSource hrun.of_when
  obtain ⟨episode, -, -, hset, -⟩ := (h.2.1 1 page hpage).cells cell hcell _ hpath
  exact ⟨s, hrun.of_when, cell, hcell, hpath, _, h.2.2.2.2 hrun _ cell hcell _ hset⟩

end PodcastScreen

/-! ## The favourites -/

/-- Each row of the table has its episode. -/
theorem PageListFavorite.dataSource_complete (page : PageListFavorite) :
    page.dataSource.Complete := by
  rintro indexPath ⟨rows, hrows, hlt⟩
  rw [dataSource, List.getElem?_map, Option.mem_def, Option.map_eq_some_iff] at hrows
  obtain ⟨podcast, hpodcast, rfl⟩ := hrows
  have hsection := element_natCast_eq_ok.mpr hpodcast
  have hepisode := element_ofNat hlt
  exact ⟨_, by simp only [dataSource, hsection, hepisode, Except.ok_bind]; rfl⟩

/-- The player of an episode is announced by a cell that was set up for it. -/
theorem PageListFavorite.exists_announced {page : PageListFavorite} {indexPath : IndexPath}
    {podcast : PodcastEpisode} {episode : Episode} {cell : ListCell Image}
    (hpodcast : element page.podcastSaved indexPath.sectionIndex = .ok podcast)
    (hepisode : element podcast.episode indexPath.row = .ok episode)
    (hset : cell.SetUpFor episode.cellContent) :
    ∃ player, page.didSelectRowAt indexPath.sectionIndex indexPath.row = .ok player ∧
      cell.Announces player := by
  simp only [didSelectRowAt, hpodcast, hepisode, Except.ok_bind]
  exact ⟨_, rfl, hset.texts, hset.imageURL⟩

namespace Favorites

variable {ι : Type} [DecidableEq ι] {objects : Finset ManagedObject}
variable {favorites favorites' : Favorites ι} {e : FavoritesEvent ι}

omit [DecidableEq ι] in
/-- The handlers reload the table exactly when they fetch. -/
theorem reloads_eq (hstatus : favorites.list.status = .favorite) :
    favorites.reloads e = (favorites.listFetch e).isSome := by
  cases e with
  | viewWillAppear enumeration fetch => simp [reloads, listFetch, hstatus]
  | dismiss enumeration fetch =>
    by_cases hdelegate : favorites.transitioningDelegate = some .pageListFavorite <;>
      simp [reloads, listFetch, hdelegate]
  | _ => rfl

/-- The page reloads its table whenever it fetches. -/
theorem reloaded (ι Image : Type) [DecidableEq ι] (objects : Finset ManagedObject) :
    (lists ι Image).Reloaded (machine ι objects) where
  complete := by
    intro es favorites _ list source hsource
    obtain rfl := Option.some.inj hsource
    exact favorites.list.page.dataSource_complete
  step := by
    intro es favorites e favorites' hrun hen hstep list source hsource
    obtain rfl := Option.some.inj hsource
    have hstatus := (displays_of_run hrun).status
    refine ⟨_, rfl, ?_⟩
    have hlist := list_step hstatus hen hstep
    split at hlist
    · rename_i enumeration fetch hfetch
      exact .inr (by simp only [lists, reloads_eq hstatus, hfetch, Option.isSome_some])
    · exact .inl (by rw [hlist.1])

/-- A page that comes on display reloads its table. -/
theorem onDisplay_step {es : List (FavoritesEvent ι)} (hrun : (machine ι objects).Run es favorites)
    (hen : Enabled favorites e) (hstep : favorites.step e = .ok favorites') (hdisplay : favorites'.onDisplay = true) :
    favorites.onDisplay = true ∨ (lists ι Image).reloads favorites e () = true := by
  have hstatus := (displays_of_run hrun).status
  have hlist := list_step hstatus hen hstep
  split at hlist
  · rename_i enumeration fetch hfetch
    exact .inr (by simp only [lists, reloads_eq hstatus, hfetch, Option.isSome_some])
  · exact .inl (hlist.2 hdisplay).1

/-- A tap on the row of a cell that the page displays presents the announced player. -/
structure OpensAnnounced (favorites : Favorites ι) (cell : ListCell Image) (indexPath : IndexPath)
    (player : ι) : Prop where
  enabled : Enabled favorites
    (.didSelectRowAt player (.favorite favorites.list.page indexPath.sectionIndex indexPath.row))
  opens : ∃ favorites' opened, favorites.step (.didSelectRowAt player
      (.favorite favorites.list.page indexPath.sectionIndex indexPath.row)) = .ok favorites' ∧
    favorites'.presented = some player ∧ favorites'.players player = some opened ∧
    cell.Announces opened.player

/-- A cell of the table shows the episode of its row. -/
structure RowShows (favorites : Favorites ι) (cell : ListCell Image) (indexPath : IndexPath) :
    Prop where
  episode : ∃ group episode, favorites.list.page.podcastSaved[indexPath.sectionIndex]? = some group ∧
    group.episode[indexPath.row]? = some episode ∧ cell.SetUpFor episode.cellContent
  opens : favorites.onDisplay = true → favorites.presented = none →
    ∀ player, favorites.players player = none → favorites.OpensAnnounced cell indexPath player

theorem rowShows_of_displays (hdisplays : favorites.list.Displays favorites.onDisplay)
    {view : ListView Image} (h : view.Displays favorites.list.page.dataSource)
    {cell : ListCell Image} (hcell : cell ∈ view.cells) {indexPath : IndexPath}
    (hpath : indexPath ∈ cell.indexPath) : favorites.RowShows cell indexPath := by
  obtain ⟨⟨rows, hrows, hlt⟩, content, hcontent, hset⟩ := h.cells cell hcell indexPath hpath
  obtain ⟨group, hgroup, hrest⟩ := Except.bind_eq_ok.mp hcontent
  obtain ⟨episode, hepisode, hreturn⟩ := Except.bind_eq_ok.mp hrest
  obtain rfl := Except.ok.inj hreturn
  refine ⟨⟨group, episode, element_natCast_eq_ok.mp hgroup, element_natCast_eq_ok.mp hepisode,
    hset⟩, fun hdisplay hpresented player hnew => ⟨⟨hpresented, hnew, hdisplay, rfl, ?_, ?_⟩, ?_⟩⟩
  · -- a page with an item to display has its table in view
    have hne : favorites.list.page.podcastSaved ≠ [] := List.ne_nil_of_mem (mem_of_element hgroup)
    have hview := hdisplays.subviews.resolve_right fun hnone => hne hnone.2.1
    rw [hview, if_neg hne]
    exact List.mem_singleton_self _
  · refine ⟨rows, ?_, Int.natCast_nonneg _, Int.natCast_nonneg _, Int.ofNat_lt.mpr hlt⟩
    rw [hdisplays.sectionRows, Int.toNat_natCast]
    exact hrows
  · obtain ⟨controller, hselect, hannounces⟩ :=
      PageListFavorite.exists_announced hgroup hepisode hset
    have hstep : favorites.step (.didSelectRowAt player (.favorite favorites.list.page
        indexPath.sectionIndex indexPath.row)) =
        .ok (favorites.present player controller (some .pageListFavorite)) := by
      simp only [step, EpisodeSelection.didSelectRowAt, hselect, Except.ok_bind]
      rfl
    exact ⟨_, _, hstep, rfl, Function.update_self _ _ _, hannounces⟩

end Favorites

section Favorites

open Favorites

/-- In every run of the app, whatever its players do to the store meanwhile: the table of a page
    of favourites on display has counted the episodes that the page has fetched last, each of
    its cells on display is set up for the episode of its row, and a tap on it presents the
    player that it announces; no data source traps, and the cells show the pictures of their
    episodes if each picture arrives while its cell is set up for it. -/
theorem favorite_table_shows_items {ι : Type} [DecidableEq ι] (objects : Finset ManagedObject)
    (images : ImageSource Data Image) {es : List (FavoritesEvent ι ⊕ (Unit × ListViewEvent Data))}
    {s : Favorites ι × (Unit → ListView Image)}
    (h : ((machine ι objects).attach ((lists ι Image).component images)).Run es s) :
    (s.1.onDisplay = true →
      (s.2 ()).sectionRows = s.1.list.page.podcastSaved.map (·.episode.length)) ∧
    (∀ cell ∈ (s.2 ()).cells, ∀ indexPath ∈ cell.indexPath, s.1.RowShows cell indexPath) ∧
    (∀ event, ((lists ι Image).component images).Enabled s.1 s.2 event →
      ∃ views, ((lists ι Image).component images).step s.1 s.2 event = .ok views) ∧
    ((((machine ι objects).attach ((lists ι Image).component images)).when
        (Lists.Downloads (ReusedCell.ArrivesInTime images))).Run es s →
      ∀ cell ∈ (s.2 ()).cells, ∀ content, cell.SetUpFor content → cell.Shows images content) := by
  have hreloaded := reloaded ι Image objects
  have hinv := Lists.inv_of_run_any hreloaded h
  refine ⟨fun hdisplay => ?_, fun cell hcell indexPath hpath => ?_,
    fun event hen => Lists.exists_step hreloaded hinv h.of_attach hen,
    fun hwhen cell hcell content hset =>
      Lists.shows_of_run_when hreloaded hwhen (.inl rfl) hcell hset⟩
  · obtain ⟨source, hsource, hrows⟩ := Lists.counted_of_run hreloaded ()
      (Q := fun favorites => favorites.onDisplay = true) Bool.false_ne_true (fun _ _ => rfl)
      (fun _ _ _ _ hrun hen hstep => onDisplay_step hrun hen hstep) h hdisplay
    obtain rfl := Option.some.inj hsource
    exact hrows
  · exact rowShows_of_displays (displays_of_run h.of_attach) (hinv.displays () _ rfl) hcell hpath

theorem favorite_table_shows_items_savedB :
    ∃ es s, ((machine Bool {⟨0, savedOfB⟩}).attach
        ((lists Bool String).component echoSource)).Run es s ∧
      ∃ cell ∈ (s.2 ()).cells, ∃ indexPath ∈ cell.indexPath, s.1.RowShows cell indexPath := by
  -- the page appears and fetches
  have hrun := Machine.run_of_replay
    ((machine Bool {⟨0, savedOfB⟩}).attach ((lists Bool String).component echoSource))
    [.inl (.viewWillAppear .toList (some [⟨0, savedOfB⟩]))] (by decide)
  generalize hs : Option.get _ _ = s at hrun
  have hdisplay : s.1.onDisplay = true := by
    rw [← hs]
    rfl
  have hpage : s.1.list.page =
      .fetchFavoriteEpisode Enumeration.toList.enumerated (some [savedOfB]) := by
    rw [← hs]
    exact FavoritePage.page_fetchFavoriteEpisode _ _ _
  -- the row of the episode comes on display
  have hrow : HasRow (s.2 ()).sectionRows ⟨0, 0⟩ := by
    rw [(favorite_table_shows_items {⟨0, savedOfB⟩} echoSource hrun).1 hdisplay]
    have hgroups := (displays_of_run hrun.of_attach).episode_ne_nil
    rw [hpage] at hgroups ⊢
    cases hsaved : (PageListFavorite.fetchFavoriteEpisode Enumeration.toList.enumerated
        (some [savedOfB])).podcastSaved with
    | nil => exact absurd hsaved (fetchFavoriteEpisode_ne_nil .toList (List.cons_ne_nil _ []))
    | cons group groups =>
      rw [hsaved] at hgroups
      exact ⟨_, rfl, List.length_pos_of_ne_nil (hgroups group List.mem_cons_self)⟩
  have hen : ((machine Bool {⟨0, savedOfB⟩}).attach
      ((lists Bool String).component echoSource)).Enabled s
      (.inr ((), .cellForRowAt none ⟨0, 0⟩)) := ⟨rfl, hrow, fun _ hnone => by cases hnone⟩
  obtain ⟨views, hviews⟩ :=
    (favorite_table_shows_items {⟨0, savedOfB⟩} echoSource hrun).2.2.1 _ hen
  have hrun' := hrun.snoc hen (Machine.attach_step_inr.mpr ⟨views, hviews, rfl⟩)
  obtain ⟨cell, hcell, hpath⟩ : ∃ cell ∈ (views ()).cells, cell.indexPath = some ⟨0, 0⟩ := by
    obtain ⟨view, hview, hreturn⟩ := Except.bind_eq_ok.mp hviews
    obtain ⟨content, -, hreturn'⟩ := Except.bind_eq_ok.mp hview
    obtain rfl := Except.ok.inj hreturn
    obtain rfl := Except.ok.inj hreturn'
    exact ⟨_, List.mem_append_right _ (List.mem_singleton_self _), rfl⟩
  exact ⟨_, _, hrun', cell, hcell, _, hpath,
    (favorite_table_shows_items {⟨0, savedOfB⟩} echoSource hrun').2.1 cell hcell _ hpath⟩

end Favorites

end BingePodcast
