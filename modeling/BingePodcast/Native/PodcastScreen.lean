import BingePodcast.Native.FirebaseService
import Mathlib.Data.Rat.Defs
import Mathlib.Algebra.Order.Ring.Unbundled.Rat

/-!
# The podcast screen

`PodcastViewController` with its pages, its carousel and its page control, driven through
`PodcastPageModel` by the answers to its requests and by the user's scrolls, swipes and
taps. Pages are objects that are appended to `arrayPageListPodcast` and never removed, so
the page a view controller shows is known by its index there.

The page controller's `dataSource` is `nil`, so UIKit never calls the two methods of
`PodcastViewController+PageViewController.swift`.
-/

namespace BingePodcast

/-- The list page of one podcast. -/
structure PageListPodcast where
  podcastEpisode : PodcastEpisode
deriving DecidableEq, Repr

/-- The view controller on display in a page controller. -/
inductive Displayed where
  /-- The placeholder page that `setupPageController` creates. -/
  | initialVC
  /-- The page at `index` in the controller's array of pages. -/
  | page (index : Nat)
deriving DecidableEq, Repr

/-- The podcast of the placeholder page. -/
def initialPodcast : Podcast := ⟨some "", some "", some ""⟩

/-- The properties of `PodcastViewController` that its methods use, as `viewDidLoad`
    leaves them. -/
structure PodcastViewController where
  podcastEpisode : List PodcastEpisode := []
  arrayPageListPodcast : List PageListPodcast := []
  currentIndex : ℤ := 0
  displayed : Displayed := .initialVC
  /-- `pageControl.currentPage` -/
  currentPage : ℤ := 0
deriving DecidableEq, Repr

namespace PodcastViewController

/-- `pageControl.numberOfPages`. -/
def numberOfPages : ℤ := 6

/-- `pageControl?.currentPage = value`: UIKit pins the value to the existing pages. -/
def setCurrentPage (controller : PodcastViewController) (value : ℤ) : PodcastViewController :=
  { controller with currentPage := max 0 (min value (numberOfPages - 1)) }

/-- `pageController?.setViewControllers([arrayPageListPodcast[index]], …)`. -/
def setViewControllers (controller : PodcastViewController) (index : ℤ) :
    Except Trap PodcastViewController := do
  let _ ← element controller.arrayPageListPodcast index
  return { controller with displayed := .page index.toNat }

/-- `next()` -/
def next (controller : PodcastViewController) : Except Trap PodcastViewController :=
  -- `count` is an `Int` in Swift: of no podcasts, `count - 1` is -1
  if controller.currentIndex ≥ controller.podcastEpisode.length - 1 then .ok controller
  else
    let currentIndex := controller.currentIndex + 1
    ({ controller with currentIndex }.setCurrentPage currentIndex).setViewControllers currentIndex

/-- `previous()` -/
def previous (controller : PodcastViewController) : Except Trap PodcastViewController :=
  if controller.currentIndex = 0 then .ok controller
  else
    let currentIndex := controller.currentIndex - 1
    ({ controller with currentIndex }.setCurrentPage currentIndex).setViewControllers currentIndex

/-- `positionCellWithIdexPath(indexCell:)`: the second comparison sees the index that the
    first one may have changed. -/
def positionCellWithIdexPath (controller : PodcastViewController) (indexCell : ℤ) :
    Except Trap PodcastViewController := do
  let controller ← if indexCell < controller.currentIndex then controller.previous
    else .ok controller
  let controller ← if indexCell > controller.currentIndex then controller.next
    else .ok controller
  -- whatever page is displayed now, the index is overwritten
  return { controller with currentIndex := indexCell }

/-- `swipeLeftToRight(_:)` -/
def swipeLeftToRight (controller : PodcastViewController) : Except Trap PodcastViewController :=
  if controller.currentIndex ≠ 0 then
    controller.positionCellWithIdexPath (controller.currentIndex - 1)
  else .ok controller

/-- `swipeRightToLeft(_:)` -/
def swipeRightToLeft (controller : PodcastViewController) : Except Trap PodcastViewController :=
  if controller.currentIndex ≠ controller.podcastEpisode.length - 1 then
    controller.positionCellWithIdexPath (controller.currentIndex + 1)
  else .ok controller

/-- `showPodcastAndEpisode(podcastEpisode:)` -/
def showPodcastAndEpisode (controller : PodcastViewController) (podcastEpisode : PodcastEpisode) :
    Except Trap PodcastViewController := do
  let controller :=
    { controller with podcastEpisode := controller.podcastEpisode ++ [podcastEpisode] }
  match controller.podcastEpisode.getLast? with
  | none => return controller
  | some lastPodcast =>
    let controller := { controller with
      arrayPageListPodcast := controller.arrayPageListPodcast ++ [⟨lastPodcast⟩]
      currentIndex := controller.currentIndex + 1 }
    -- the sixth podcast is taken for the last one
    if controller.currentIndex = 6 then
      let controller ← controller.setViewControllers 0
      return { controller with currentIndex := 0 }
    else return controller

/-- `arrayPageListPodcast[index].podcastEpisode.episode.append(episode)` -/
def appendEpisode (index : ℤ) (pages : List PageListPodcast) (episode : Episode) :
    Except Trap (List PageListPodcast) :=
  updateElement pages index fun page =>
    ⟨{ page.podcastEpisode with episode := page.podcastEpisode.episode ++ [episode] }⟩

/-- `loadMoreEpisode(podcastEpisode:)` -/
def loadMoreEpisode (controller : PodcastViewController) (podcastEpisode : PodcastEpisode) :
    Except Trap PodcastViewController := do
  -- `podcastEpisode.podcast` is not read: the page is the one selected now
  let arrayPageListPodcast ← podcastEpisode.episode.foldlM
    (appendEpisode controller.currentIndex) controller.arrayPageListPodcast
  { controller with arrayPageListPodcast }.setViewControllers controller.currentIndex

/-- The podcast of the page on display. -/
def displayedPodcast (controller : PodcastViewController) : Option Podcast :=
  match controller.displayed with
  | .initialVC => some initialPodcast
  | .page index => controller.arrayPageListPodcast[index]?.map (·.podcastEpisode.podcast)

end PodcastViewController

/-- The screen: its controller, the paging service with the podcasts its closures captured,
    and whether the list of podcasts that `viewDidLoad` asks for is still awaited. -/
structure PodcastScreen where
  controller : PodcastViewController := {}
  paging : Paging Podcast := {}
  podcastListPending : Bool := true

/-- What can happen to the screen. -/
inductive PodcastScreenEvent where
  | podcastListResponse (response : Response)
  | firstPageResponse (request : PageRequest Podcast) (response : Response)
  | loadMoreResponse (request : PageRequest Podcast) (response : Response)
  | scrollViewDidScroll (contentOffsetY contentHeight tableViewHeight : ℚ)
  | swipeLeftToRight
  | swipeRightToLeft
  | didSelectItemAt (row : Nat)
deriving DecidableEq, Repr

namespace PodcastScreen

/-- `fetchPodcastList(result:)`: one `fetchEpisodePodcast` for each podcast. -/
def fetchPodcastList (screen : PodcastScreen) (result : List Podcast) :
    Except Trap PodcastScreen := do
  let paging ← result.foldlM
    (fun paging podcast => paging.fetchEpisodeOnPosdcastFirebase podcast.name podcast)
    screen.paging
  return { screen with paging }

/-- The answer to `fetchAllPodcast`. -/
def podcastListResponse (screen : PodcastScreen) (response : Response) :
    Except Trap PodcastScreen :=
  let screen := { screen with podcastListPending := false }
  match FirebaseService.fetchAllPodcastCompletion response.querySnapshot response.err with
  | some (.ok (some data)) => screen.fetchPodcastList data
  -- failures are printed, `nil` data is ignored
  | _ => .ok screen

/-- The answer to `fetchEpisodePodcast(podcast:)`, whose closure captured the podcast. -/
def firstPageResponse (screen : PodcastScreen) (request : PageRequest Podcast)
    (response : Response) : Except Trap PodcastScreen := do
  let (paging, result) ← screen.paging.firstPageResponse request response
  -- `fetchEpisodePodcast` shows the page of the podcast it captured
  let controller ← match result with
    | some (.ok (some data)) =>
      screen.controller.showPodcastAndEpisode ⟨request.onCompletion, data⟩
    | _ => .ok screen.controller
  return { screen with controller, paging }

/-- The answer to `fetchEpisodeMore(podcast:)`, whose closure captured the podcast. -/
def loadMoreResponse (screen : PodcastScreen) (request : PageRequest Podcast)
    (response : Response) : Except Trap PodcastScreen := do
  let (paging, result) := screen.paging.loadMoreResponse request response
  -- `fetchEpisodeMore` passes on the title of the podcast it captured
  let controller ← match result with
    | some (.ok (some data)) =>
      screen.controller.loadMoreEpisode
        ⟨⟨request.onCompletion.title, some "", some ""⟩, data⟩
    | _ => .ok screen.controller
  return { screen with controller, paging }

/-- `scrollViewDidScroll(_:)` of the page on display. -/
def scrollViewDidScroll (screen : PodcastScreen)
    (contentOffsetY contentHeight tableViewHeight : ℚ) : Except Trap PodcastScreen :=
  let offSetBottonTablView : ℚ := 150
  if contentOffsetY ≥ contentHeight - tableViewHeight - offSetBottonTablView then
    match screen.controller.displayedPodcast with
    | some podcast => do
      let paging ← screen.paging.loadMoreData podcast.name podcast
      return { screen with paging }
    | none => .ok screen
  else .ok screen

/-- An action of the user on the carousel. -/
def onController (screen : PodcastScreen)
    (action : PodcastViewController → Except Trap PodcastViewController) :
    Except Trap PodcastScreen := do
  let controller ← action screen.controller
  return { screen with controller }

/-- One event of the screen. -/
def step (screen : PodcastScreen) : PodcastScreenEvent → Except Trap PodcastScreen
  | .podcastListResponse response => screen.podcastListResponse response
  | .firstPageResponse request response => screen.firstPageResponse request response
  | .loadMoreResponse request response => screen.loadMoreResponse request response
  | .scrollViewDidScroll contentOffsetY contentHeight tableViewHeight =>
    screen.scrollViewDidScroll contentOffsetY contentHeight tableViewHeight
  | .swipeLeftToRight => screen.onController (·.swipeLeftToRight)
  | .swipeRightToLeft => screen.onController (·.swipeRightToLeft)
  | .didSelectItemAt row => screen.onController (·.positionCellWithIdexPath row)

/-- Firestore answers what is in flight; the carousel has a cell for each podcast. -/
def Enabled (collections : Collections) (screen : PodcastScreen) : PodcastScreenEvent → Prop
  | .podcastListResponse response =>
    screen.podcastListPending = true ∧ collections.Answers ⟨"Podcast", none, none⟩ response
  | .firstPageResponse request response =>
    request ∈ screen.paging.firstPages ∧ collections.Answers request.query response
  | .loadMoreResponse request response =>
    request ∈ screen.paging.loadMores ∧ collections.Answers request.query response
  | .didSelectItemAt row => row < screen.controller.podcastEpisode.length
  | .scrollViewDidScroll _ _ _ => True
  | .swipeLeftToRight => True
  | .swipeRightToLeft => True

/-- The runs of the screen from `viewDidLoad` on. -/
def machine (collections : Collections) : Machine PodcastScreen PodcastScreenEvent Trap where
  init := {}
  Enabled := Enabled collections
  step := step

instance (collections : Collections) (screen : PodcastScreen) (event : PodcastScreenEvent) :
    Decidable ((machine collections).Enabled screen event) :=
  match event with
  | .podcastListResponse _ => inferInstanceAs (Decidable (_ ∧ _))
  | .firstPageResponse _ _ => inferInstanceAs (Decidable (_ ∧ _))
  | .loadMoreResponse _ _ => inferInstanceAs (Decidable (_ ∧ _))
  | .didSelectItemAt _ => inferInstanceAs (Decidable (_ < _))
  | .scrollViewDidScroll _ _ _ => inferInstanceAs (Decidable True)
  | .swipeLeftToRight => inferInstanceAs (Decidable True)
  | .swipeRightToLeft => inferInstanceAs (Decidable True)

end PodcastScreen

end BingePodcast
