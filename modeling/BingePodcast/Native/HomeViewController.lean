import BingePodcast.Native.FirebaseService
import BingePodcast.Native.ListView

/-!
# The home screen

`HomeViewController` with its collection view and the placeholders that it shows meanwhile,
driven through `HomePageModel` by the answer to its request.
-/

namespace BingePodcast

/-- The properties of `HomeViewController` that its methods use, as `viewDidLoad` leaves
    them. -/
structure HomeViewController where
  podcast : List Podcast := []
  /-- `stackViewLoaderCollectionView.isHidden` -/
  isLoaderHidden : Bool := false
  /-- `collectionViewPodcast.isHidden` -/
  isCollectionViewHidden : Bool := false
deriving DecidableEq, Repr

namespace HomeViewController

/-- `fetchPodcastListAndShowOnHomePage(result:)`, up to its `reloadData`. -/
def fetchPodcastListAndShowOnHomePage (_controller : HomeViewController)
    (result : List Podcast) : HomeViewController where
  podcast := result
  isLoaderHidden := true
  isCollectionViewHidden := false

/-- The data source of `collectionViewPodcast`. -/
def dataSource (controller : HomeViewController) : DataSource where
  sectionRows := [controller.podcast.length]
  cellForRowAt indexPath := do
    let podcast ← element controller.podcast indexPath.row
    return ⟨[podcast.title.getD "", podcast.author.getD ""], podcast.image.getD ""⟩

end HomeViewController

/-- The screen: its controller, and whether the list of podcasts that `viewDidLoad` asks for is
    still awaited. -/
structure HomeScreen where
  controller : HomeViewController := {}
  pending : Bool := true
deriving DecidableEq, Repr

/-- What can happen to the screen: the answer to `fetchAllPodcastFirebase`. -/
inductive HomeScreenEvent where
  | fetchAllPodcastResponse (response : Response)
deriving DecidableEq, Repr

namespace HomeScreen

/-- What the closure in `fetchAllPodcast` hands to its delegate. -/
def fetchAllPodcast (response : Response) : Option (List Podcast) :=
  match FirebaseService.fetchAllPodcastCompletion response.querySnapshot response.err with
  | some (.ok data) => data
  -- failures are printed
  | some (.error _) => none
  | none => none

/-- One event of the screen. -/
def step (screen : HomeScreen) : HomeScreenEvent → Except Trap HomeScreen
  | .fetchAllPodcastResponse response =>
    let screen := { screen with pending := false }
    match fetchAllPodcast response with
    | some data => .ok { screen with
        controller := screen.controller.fetchPodcastListAndShowOnHomePage data }
    | none => .ok screen

/-- The runs of the screen from `viewDidLoad` on: its request is answered once. -/
def machine (collections : Collections) : Machine HomeScreen HomeScreenEvent Trap where
  init := {}
  Enabled screen
    | .fetchAllPodcastResponse response =>
      screen.pending = true ∧ collections.Answers ⟨"Podcast", none, none⟩ response
  step := step

instance (collections : Collections) (screen : HomeScreen) (event : HomeScreenEvent) :
    Decidable ((machine collections).Enabled screen event) :=
  match event with
  | .fetchAllPodcastResponse _ => inferInstanceAs (Decidable (_ ∧ _))

/-- The one list of the screen, `collectionViewPodcast`. -/
def lists (Image : Type) : Lists HomeScreen HomeScreenEvent Unit Image where
  cls _ := PodcastHomePageCollectionViewCell
  dataSource screen _ := some screen.controller.dataSource
  reloads _ event _ :=
    match event with
    | .fetchAllPodcastResponse response => (fetchAllPodcast response).isSome

end HomeScreen

end BingePodcast
