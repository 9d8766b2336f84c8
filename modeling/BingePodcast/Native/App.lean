import BingePodcast.ForStd.Component
import BingePodcast.Native.EpisodeLists

/-!
# The app

The podcast screen and the favourites are tabs of one app. All that passes from one to the
other is the episode that a player is opened on: it is selected on the page that the podcast
screen displays, saved by the player and listed by the page of favourites.
-/

namespace BingePodcast

/-- The page on display. -/
def PodcastScreen.displayedPage (screen : PodcastScreen) : Option PageListPodcast :=
  match screen.controller.displayed with
  | .initialVC => some initialPage
  | .page index => screen.controller.arrayPageListPodcast[index]?

/-- The page of a podcast on which an episode is selected. -/
def FavoritesEvent.selectedPage {ι : Type} : FavoritesEvent ι → Option PageListPodcast
  | .didSelectRowAt _ (.podcast page _) => some page
  | _ => none

namespace App

/-- An episode of a podcast is selected on the page on display. -/
def SelectsOn {ι : Type} (screen : PodcastScreen) (e : FavoritesEvent ι) : Prop :=
  ∀ page ∈ e.selectedPage, screen.displayedPage = some page

instance {ι : Type} (screen : PodcastScreen) (e : FavoritesEvent ι) :
    Decidable (SelectsOn screen e) := inferInstanceAs (Decidable (∀ _ ∈ _, _ = _))

/-- The app on `collections`, from a store with `objects` on. -/
def machine (collections : Collections) (ι : Type) [DecidableEq ι]
    (objects : Finset ManagedObject) :
    Machine (PodcastScreen × Favorites ι) (PodcastScreenEvent ⊕ FavoritesEvent ι) Trap :=
  (PodcastScreen.machine collections).attach
    ((Favorites.machine ι objects).guarded fun screen _ e => SelectsOn screen e)

instance (collections : Collections) (ι : Type) [DecidableEq ι] (objects : Finset ManagedObject)
    (app : PodcastScreen × Favorites ι) (e : PodcastScreenEvent ⊕ FavoritesEvent ι) :
    Decidable ((machine collections ι objects).Enabled app e) :=
  inferInstanceAs (Decidable (((PodcastScreen.machine collections).attach
    ((Favorites.machine ι objects).guarded fun screen _ e => SelectsOn screen e)).Enabled app e))

end App

end BingePodcast
