import BingePodcast.Native.PodcastScreen
import BingePodcast.Native.PlayerViewController

/-!
# Opening an episode in the player

The list pages of the favourites and of a podcast, and what their `didSelectRowAt` hands
over to the player it presents. The storyboard has a `PlayerViewController`, so the cast of
what it instantiates succeeds. The player is handed over before it is presented, that is
before its `viewWillAppear`.
-/

namespace BingePodcast

/-- The list page of the favourites. -/
structure PageListFavorite where
  podcastSaved : List PodcastEpisode
deriving DecidableEq, Repr

/-- `PageListFavorite.fetchFavoriteEpisode()` -/
def PageListFavorite.fetchFavoriteEpisode
    (enumerated : (Finmap fun _ : String => List Episode) → List (Σ _ : String, List Episode))
    (fetch : CoreDataManager.Fetch) : PageListFavorite where
  podcastSaved := CoreDataManager.fetchFavoriteEpisode enumerated fetch

/-- A `PlayerViewController` as the storyboard instantiates it: its labels have no text. -/
def PlayerViewController.instantiated : PlayerViewController where
  titlePodcast := none
  subtitlePodcast := none
  descriptionPodcast := none
  imagePlayer := "placeholderImage"

/-- `tableView(_:didSelectRowAt:)` of the favourites, for an index path. -/
def PageListFavorite.didSelectRowAt (page : PageListFavorite) (sectionIndex row : ℤ) :
    Except Trap PlayerViewController := do
  let podcast ← element page.podcastSaved sectionIndex
  let episodeData ← element podcast.episode row
  return { PlayerViewController.instantiated with
    titlePodcast := episodeData.title
    subtitlePodcast := episodeData.subtitle
    descriptionPodcast := episodeData.description
    imagePlayer := episodeData.imageUrl.getD "" }

/-- `tableView(_:didSelectRowAt:)` of a podcast, for the section of an index path. -/
def PageListPodcast.didSelectRowAt (page : PageListPodcast) (index : ℤ) :
    Except Trap PlayerViewController := do
  let episode ← element page.podcastEpisode.episode index
  return { PlayerViewController.instantiated with
    titlePodcast := episode.title
    subtitlePodcast := episode.subtitle
    descriptionPodcast := episode.description
    -- only this list hands over the podcast
    podcastTitle := episode.podcastTitle.getD ""
    imagePlayer := episode.imageUrl.getD "" }

/-- The selection of an episode in one of the two lists. -/
inductive EpisodeSelection where
  | favorite (page : PageListFavorite) (sectionIndex row : ℤ)
  | podcast (page : PageListPodcast) (index : ℤ)
deriving DecidableEq, Repr

/-- The player that a selection opens. -/
def EpisodeSelection.didSelectRowAt : EpisodeSelection → Except Trap PlayerViewController
  | .favorite page sectionIndex row => page.didSelectRowAt sectionIndex row
  | .podcast page index => page.didSelectRowAt index

end BingePodcast
