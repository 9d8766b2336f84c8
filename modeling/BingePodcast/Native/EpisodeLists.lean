import BingePodcast.Native.Favorites
import BingePodcast.Native.ListView

/-!
# The lists of podcasts and episodes

The data sources of the carousel and of the pages of the podcast screen, and of the page of
favourites, with the handlers that reload these lists.
-/

namespace BingePodcast

/-- The arguments of `setupCell` in the two tables of episodes. -/
def Episode.cellContent (episode : Episode) : CellContent where
  -- the time is a literal in both
  texts := [episode.title.getD "", episode.subtitle.getD "", "1:02"]
  imageURL := episode.imageUrl.getD ""

/-! ## The podcast screen -/

/-- The data source of `myCollectionViewPodcast`. -/
def PodcastViewController.dataSource (controller : PodcastViewController) : DataSource where
  sectionRows := [controller.podcastEpisode.length]
  cellForRowAt indexPath := do
    let podcastEpisode ← element controller.podcastEpisode indexPath.row
    -- `setUpUI` ignores its two texts
    return ⟨[], podcastEpisode.podcast.image.getD ""⟩

/-- The data source of `tableViewEpisode`: each episode is a section of one row. -/
def PageListPodcast.dataSource (page : PageListPodcast) : DataSource where
  sectionRows := List.replicate page.podcastEpisode.episode.length 1
  cellForRowAt indexPath := do
    let episode ← element page.podcastEpisode.episode indexPath.sectionIndex
    return episode.cellContent

/-- The page that `setupPageController` creates. -/
def initialPage : PageListPodcast :=
  ⟨⟨initialPodcast, [⟨some "", some "", some "", some "", some "", some "", some ""⟩]⟩⟩

/-- The lists of the podcast screen. -/
inductive PodcastList where
  | myCollectionViewPodcast
  /-- The table of the placeholder page. -/
  | initialTable
  /-- The table of the page at `index`. -/
  | tableViewEpisode (index : ℕ)
deriving DecidableEq, Repr

namespace PodcastScreen

/-- A result is `.success(data)` with `data` not `nil`. -/
def isData : Option (Result (List Episode)) → Bool
  | some (.ok (some _)) => true
  | some (.ok none) | some (.error _) | none => false

/-- The lists that an event reloads: `showPodcastAndEpisode` reloads the carousel, and
    `loadMoreEpisode` the table of the page at `currentIndex`. -/
def reloads (screen : PodcastScreen) (event : PodcastScreenEvent) (list : PodcastList) : Bool :=
  match event, list with
  | .firstPageResponse request response, .myCollectionViewPodcast =>
    match screen.paging.firstPageResponse request response with
    | .ok (_, result) => isData result
    | .error _ => false
  | .loadMoreResponse request response, .tableViewEpisode index =>
    isData (screen.paging.loadMoreResponse request response).2 &&
      screen.controller.currentIndex == index
  | _, _ => false

/-- The lists of the podcast screen. A page has its table from its creation on. -/
def lists (Image : Type) : Lists PodcastScreen PodcastScreenEvent PodcastList Image where
  cls
    | .myCollectionViewPodcast => CellPodcastCollectionViewCell
    | .initialTable | .tableViewEpisode _ => CellEpisodeTabViewCell
  dataSource screen
    | .myCollectionViewPodcast => some screen.controller.dataSource
    | .initialTable => some initialPage.dataSource
    | .tableViewEpisode index =>
      screen.controller.arrayPageListPodcast[index]?.map PageListPodcast.dataSource
  reloads := reloads

end PodcastScreen

/-! ## The favourites -/

/-- The data source of `tableViewEpisode`: each podcast is a section of its episodes. -/
def PageListFavorite.dataSource (page : PageListFavorite) : DataSource where
  sectionRows := page.podcastSaved.map (·.episode.length)
  cellForRowAt indexPath := do
    let podcast ← element page.podcastSaved indexPath.sectionIndex
    let episode ← element podcast.episode indexPath.row
    return episode.cellContent

namespace Favorites

/-- The handlers of an event call `fetchFavoriteEpisode`, which reloads the table. -/
def reloads {ι : Type} (favorites : Favorites ι) : FavoritesEvent ι → Bool
  | .viewWillAppear _ _ => favorites.list.status != .seeLater
  | .dismiss _ _ => favorites.transitioningDelegate == some .pageListFavorite
  | .viewDidDisappear | .didSelectRowAt _ _ | .openPlayer _ | .deinit _ | .playerWillAppear
  | .actionPressFavoriteButton | .clickBegins _ | .checkCalls _ _ | .clickCalls _ _ _ _
  | .checkResumes _ _ | .clickResumes _ _ => false

/-- The one list, the table of the page of favourites. Before `initTableView` has set its
    data source, the page has nothing to list. -/
def lists (ι Image : Type) : Lists (Favorites ι) (FavoritesEvent ι) Unit Image where
  cls _ := CellEpisodeTabViewCell
  dataSource favorites _ := some favorites.list.page.dataSource
  reloads favorites event _ := favorites.reloads event

end Favorites

end BingePodcast
