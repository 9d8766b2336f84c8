import BingePodcast.ForStd.Machine
import BingePodcast.Native.EpisodeSelection

/-!
# The favourites screen

`FavoriteViewController` with its two list pages, the two titles that switch between them
and the line under the title that is selected. The constant of `leftContainer` places the
line, and a switch moves it by what it computes from the widths of the titles.

The two pages are objects that `initVariable` appends to `arrayPageListFavorite`, so the page
on display is known by its index there. The block of `UIView.animate` runs at once: only what
is drawn takes its time.
-/

namespace BingePodcast

/-- The fonts of the two titles. -/
inductive Fonts where
  | proximaNova_Regular
  | proximaNova_Bold
deriving DecidableEq, Repr

/-- The widths that place the line. -/
structure TitleWidths where
  /-- `UIScreen.main.bounds.width` -/
  screen : ℚ
  /-- `favoriteTitle.intrinsicContentSize.width`, by the font of the label. -/
  favoriteTitle : Fonts → ℚ
  /-- `seeLaterTitle.intrinsicContentSize.width`, by the font of the label. -/
  seeLaterTitle : Fonts → ℚ

/-- The properties of `FavoriteViewController` that its tabs use. -/
structure FavoriteViewController where
  /-- The page controller, by what it displays. -/
  pageController : Option Displayed := none
  currentIndex : ℤ := 0
  podcastSaved : List PodcastEpisode := []
  arrayPageListFavorite : List PageListFavorite := []
  /-- The constraint, by its constant. -/
  leftContainer : Option ℚ := none
  /-- The label, by its font. -/
  favoriteTitle : Fonts := .proximaNova_Bold
  /-- The label, by its font. -/
  seeLaterTitle : Fonts := .proximaNova_Regular
deriving DecidableEq, Repr

namespace FavoriteViewController

/-- `initVariable()` -/
def initVariable (controller : FavoriteViewController) : FavoriteViewController :=
  let test1 : PageListFavorite := { podcastSaved := [] }
  let test2 : PageListFavorite := { podcastSaved := [] }
  { controller with
    arrayPageListFavorite := controller.arrayPageListFavorite ++ [test1] ++ [test2] }

/-- `setupTitlePageViewController()` -/
def setupTitlePageViewController (controller : FavoriteViewController) : FavoriteViewController :=
  { controller with leftContainer := some 40 }

/-- `setupPageController()`: the page controller displays `emptyPageListPodcast`, which
    `initVariable` has set. -/
def setupPageController (controller : FavoriteViewController) : FavoriteViewController :=
  { controller with pageController := some .initialVC }

/-- The controller after its `viewDidLoad()`. -/
def viewDidLoad : FavoriteViewController :=
  let controller : FavoriteViewController := {}
  controller.initVariable.setupTitlePageViewController.setupPageController

/-- `pageController.setViewControllers([arrayPageListFavorite[index]], …)`, if there is a page
    controller. -/
def setViewControllers (controller : FavoriteViewController) (index : ℤ) :
    Except Trap FavoriteViewController :=
  match controller.pageController with
  | none => .ok controller
  | some _ => do
    let _ ← element controller.arrayPageListFavorite index
    return { controller with pageController := some (.page index.toNat) }

/-- `viewWillAppear(_:)`, given the favourites that `fetchFavoriteEpisode` returns:
    `viewDidLoad` has set `coreDataManagerFavorite`, so the guard passes. -/
def viewWillAppear (controller : FavoriteViewController) (episodeSaved : List PodcastEpisode) :
    Except Trap FavoriteViewController := do
  let controller := { controller with podcastSaved := episodeSaved }
  let arrayPageListFavorite ← updateElement controller.arrayPageListFavorite 0
    fun page => { page with podcastSaved := controller.podcastSaved }
  -- `currentIndex` is neither read nor written
  { controller with arrayPageListFavorite }.setViewControllers 0

/-- What the line is moved by, for the fonts that the titles have. -/
def lineDistance (widths : TitleWidths) (controller : FavoriteViewController) : ℚ :=
  widths.screen - widths.favoriteTitle controller.favoriteTitle / 2 -
    widths.seeLaterTitle controller.seeLaterTitle / 2 - 80

/-- `animationTransitionTitle()`: it changes the fonts first. -/
def animationTransitionTitle (widths : TitleWidths) (controller : FavoriteViewController) :
    Except Trap FavoriteViewController :=
  if controller.currentIndex = 1 then
    let controller := { controller with
      seeLaterTitle := .proximaNova_Regular
      favoriteTitle := .proximaNova_Bold }
    match controller.leftContainer with
    | none => .error .nilForceCast
    | some constant => .ok { controller with
        leftContainer := some (constant - controller.lineDistance widths)
        currentIndex := controller.currentIndex - 1 }
  else
    let controller := { controller with
      seeLaterTitle := .proximaNova_Bold
      favoriteTitle := .proximaNova_Regular }
    match controller.leftContainer with
    | none => .error .nilForceCast
    | some constant => .ok { controller with
        leftContainer := some (constant + controller.lineDistance widths)
        currentIndex := controller.currentIndex + 1 }

/-- The body of the handlers of both titles, which differ in the direction of the animation
    only: it switches to the other tab, whichever title was tapped. -/
def switchPage (widths : TitleWidths) (controller : FavoriteViewController) :
    Except Trap FavoriteViewController := do
  let controller ← controller.animationTransitionTitle widths
  controller.setViewControllers controller.currentIndex

/-- `nextPageController()`, the handler of a tap on `seeLaterTitle`. -/
def nextPageController (widths : TitleWidths) (controller : FavoriteViewController) :
    Except Trap FavoriteViewController := controller.switchPage widths

/-- `previousPageController()`, the handler of a tap on `favoriteTitle`. -/
def previousPageController (widths : TitleWidths) (controller : FavoriteViewController) :
    Except Trap FavoriteViewController := controller.switchPage widths

end FavoriteViewController

/-- What can happen to the tabs: a tap on a title, or the screen appears. -/
inductive FavoriteTabEvent where
  | previousPageController
  | nextPageController
  | viewWillAppear (episodeSaved : List PodcastEpisode)
deriving DecidableEq, Repr

namespace FavoriteViewController

/-- One event of the tabs. -/
def step (widths : TitleWidths) (controller : FavoriteViewController) :
    FavoriteTabEvent → Except Trap FavoriteViewController
  | .previousPageController => controller.previousPageController widths
  | .nextPageController => controller.nextPageController widths
  | .viewWillAppear episodeSaved => controller.viewWillAppear episodeSaved

/-- The runs of the tabs from `controller` on. -/
def tabs (widths : TitleWidths) (controller : FavoriteViewController) :
    Machine FavoriteViewController FavoriteTabEvent Trap where
  init := controller
  Enabled _ _ := True
  step := step widths

instance (widths : TitleWidths) (controller s : FavoriteViewController) (e : FavoriteTabEvent) :
    Decidable ((controller.tabs widths).Enabled s e) := inferInstanceAs (Decidable True)

end FavoriteViewController

end BingePodcast
