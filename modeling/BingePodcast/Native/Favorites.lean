import BingePodcast.Native.CoreDataStack
import BingePodcast.Native.EpisodeSelection

/-!
# The favourites of the app

The list page of the favourites, the players that lists and the tab bar open, and their
managers over one store. A player is presented over everything else, one at a time, and each
has a manager of its own; its tasks keep it alive after it was dismissed.
`PlayerViewController.lean` has the pieces of these tasks and looks at one player over a store
that nobody else changes.
-/

namespace BingePodcast

/-! ## The list page -/

/-- Which page a `PageListFavorite` is. -/
inductive FavoriteStatus where
  | favorite
  | seeLater
  | initialisation
deriving DecidableEq, Repr

/-- What a `PageListFavorite` adds to its `view`. -/
inductive FavoriteSubview where
  | viewEmptyMessage
  | tableViewEpisode
  | animationView
deriving DecidableEq, Repr

/-- How `enumerated()` lists the entries of a dictionary: each of them once. -/
structure Enumeration where
  enumerated : (Finmap fun _ : String => List Episode) → List (Σ _ : String, List Episode)
  coe_enumerated (dictionary : Finmap fun _ : String => List Episode) :
    (enumerated dictionary : Multiset (Σ _ : String, List Episode)) = dictionary.entries

/-- A `PageListFavorite` and what it displays. -/
structure FavoritePage where
  status : FavoriteStatus
  page : PageListFavorite := ⟨[]⟩
  /-- The subviews of `view`, from back to front. -/
  subviews : List FavoriteSubview := []
  /-- The numbers of rows of the sections, as `tableViewEpisode` has last asked for them. -/
  sectionRows : List ℕ := []
deriving DecidableEq, Repr

namespace FavoritePage

/-- `view.addSubview(subview)`: a subview moves to the front. -/
def addSubview (page : FavoritePage) (subview : FavoriteSubview) : FavoritePage :=
  { page with subviews := page.subviews.erase subview ++ [subview] }

/-- `subview.removeFromSuperview()` -/
def removeFromSuperview (page : FavoritePage) (subview : FavoriteSubview) : FavoritePage :=
  { page with subviews := page.subviews.erase subview }

/-- `tableViewEpisode.reloadData()`, by `numberOfSections` and `numberOfRowsInSection`. -/
def reloadData (page : FavoritePage) : FavoritePage :=
  { page with sectionRows := page.page.podcastSaved.map (·.episode.length) }

/-- `emptyViewMessage()` -/
def emptyViewMessage (page : FavoritePage) : FavoritePage :=
  (page.addSubview .viewEmptyMessage).removeFromSuperview .tableViewEpisode

/-- `initTableView()`: a table that gets its data source loads its rows too. -/
def initTableView (page : FavoritePage) : FavoritePage :=
  (page.removeFromSuperview .viewEmptyMessage).addSubview .tableViewEpisode

/-- `checkIfEmptyTableView()` -/
def checkIfEmptyTableView (page : FavoritePage) : FavoritePage :=
  if page.page.podcastSaved.isEmpty then page.emptyViewMessage else page.initTableView

/-- `fetchFavoriteEpisode()` -/
def fetchFavoriteEpisode (page : FavoritePage) (enumeration : Enumeration)
    (fetch : CoreDataManager.Fetch) : FavoritePage :=
  { page with page := .fetchFavoriteEpisode enumeration.enumerated fetch }
    |>.reloadData.checkIfEmptyTableView

/-- `viewWillAppear(_:)` -/
def viewWillAppear (page : FavoritePage) (enumeration : Enumeration)
    (fetch : CoreDataManager.Fetch) : FavoritePage :=
  if page.status = .seeLater then page.addSubview .animationView
  else page.fetchFavoriteEpisode enumeration fetch

end FavoritePage

/-! ## The players and the page over one store -/

/-- A player that was opened, with its tasks in flight. -/
structure OpenedPlayer where
  player : PlayerViewController
  tasks : List FavoriteTask
deriving DecidableEq, Repr

namespace OpenedPlayer

/-- `Task { … }` -/
def start (opened : OpenedPlayer) (task : FavoriteTask) : OpenedPlayer :=
  { opened with tasks := opened.tasks ++ [task] }

/-- Replace a task by what follows it. -/
def advance (opened : OpenedPlayer) (task : FavoriteTask) (next : List FavoriteTask) :
    OpenedPlayer :=
  { opened with tasks := opened.tasks.erase task ++ next }

end OpenedPlayer

/-- The `transitioningDelegate` of a player, the list that presents it. -/
inductive TransitioningDelegate where
  | pageListFavorite
  | pageListPodcast
deriving DecidableEq, Repr

/-- The list of a selection is the delegate of the player. -/
def EpisodeSelection.transitioningDelegate : EpisodeSelection → TransitioningDelegate
  | .favorite _ _ _ => .pageListFavorite
  | .podcast _ _ => .pageListPodcast

/-- The favourites of an app whose players are called `ι`. The manager of the list page is
    `none`, that of a player is `some` of it. -/
structure Favorites (ι : Type) where
  managers : CoreDataStacks (Option ι)
  players : ι → Option OpenedPlayer := fun _ => none
  /-- The player that is presented over the other screens. -/
  presented : Option ι := none
  /-- That of the player presented last. The tab bar gives its player none. -/
  transitioningDelegate : Option TransitioningDelegate := none
  list : FavoritePage := { status := .favorite }
  /-- Whether the page is on display, if only under the presented player. -/
  onDisplay : Bool := false

/-- What can happen. A fetch is `none` if it throws; `saved` tells whether `context.save()`
    succeeds if it is called. -/
inductive FavoritesEvent (ι : Type) where
  /-- The list page appears. -/
  | viewWillAppear (enumeration : Enumeration) (fetch : Option (List ManagedObject))
  /-- Another tab or another page is displayed. -/
  | viewDidDisappear
  /-- An episode is selected in a list, which presents a new player. -/
  | didSelectRowAt (player : ι) (selection : EpisodeSelection)
  /-- The tab bar presents a new player, on no episode. -/
  | openPlayer (player : ι)
  /-- The presented player is dismissed. -/
  | dismiss (enumeration : Enumeration) (fetch : Option (List ManagedObject))
  /-- A player goes away, with its manager. -/
  | deinit (player : ι)
  /-- The presented player appears again. -/
  | playerWillAppear
  | actionPressFavoriteButton
  | clickBegins (player : ι)
  | checkCalls (player : ι) (fetch : Option (List ManagedObject))
  | clickCalls (player : ι) (favorite : Bool) (fetch : Option (List ManagedObject)) (saved : Bool)
  | checkResumes (player : ι) (found : Bool)
  | clickResumes (player : ι) (favorite : Bool)

namespace Favorites

variable {ι : Type}

/-- The rows that a fetch lists. -/
def fetchedRows (fetch : Option (List ManagedObject)) : CoreDataManager.Fetch :=
  fetch.map (·.map ManagedObject.row)

/-- `animationController(forDismissed:)`: the list page fetches if it has presented the player. -/
def animationController (favorites : Favorites ι) (enumeration : Enumeration)
    (fetch : CoreDataManager.Fetch) : FavoritePage :=
  match favorites.transitioningDelegate with
  | some .pageListFavorite => favorites.list.fetchFavoriteEpisode enumeration fetch
  -- UIKit asks nobody about the player of the tab bar
  | some .pageListPodcast | none => favorites.list

/-- A task of a player is in flight. -/
def HasTask (favorites : Favorites ι) (player : ι) (task : FavoriteTask) : Prop :=
  ∃ opened ∈ favorites.players player, task ∈ opened.tasks

/-- A fetch that does not throw lists the objects of its context. -/
def Fetches (favorites : Favorites ι) (manager : Option ι)
    (fetch : Option (List ManagedObject)) : Prop :=
  ∀ result ∈ fetch, (result : Multiset ManagedObject) = (favorites.managers.objects manager).val

/-- A list can be selected from if it is on display, at the rows that its table has. -/
def CanSelect (favorites : Favorites ι) : EpisodeSelection → Prop
  | .favorite page sectionIndex row =>
    favorites.onDisplay = true ∧ page = favorites.list.page ∧
      .tableViewEpisode ∈ favorites.list.subviews ∧
      ∃ rows ∈ favorites.list.sectionRows[sectionIndex.toNat]?,
        0 ≤ sectionIndex ∧ 0 ≤ row ∧ row < rows
  | .podcast page index =>
    favorites.onDisplay = false ∧ 0 ≤ index ∧ index < page.podcastEpisode.episode.length

/-- A presented player covers the lists and the tab bar; its tasks keep a dismissed player
    alive. -/
def Enabled (favorites : Favorites ι) : FavoritesEvent ι → Prop
  | .viewWillAppear _ fetch => favorites.presented = none ∧ favorites.Fetches none fetch
  | .viewDidDisappear => favorites.presented = none
  | .didSelectRowAt player selection =>
    favorites.presented = none ∧ favorites.players player = none ∧ favorites.CanSelect selection
  | .openPlayer player => favorites.presented = none ∧ favorites.players player = none
  | .dismiss _ fetch => favorites.presented ≠ none ∧ favorites.Fetches none fetch
  | .deinit player =>
    favorites.presented ≠ some player ∧ ∃ opened ∈ favorites.players player, opened.tasks = []
  | .playerWillAppear => favorites.presented ≠ none
  | .actionPressFavoriteButton => favorites.presented ≠ none
  | .clickBegins player => favorites.HasTask player .click
  | .checkCalls player fetch =>
    favorites.HasTask player .check ∧ favorites.Fetches (some player) fetch
  | .clickCalls player favorite fetch _ =>
    favorites.HasTask player (.clicked favorite) ∧ favorites.Fetches (some player) fetch
  | .checkResumes player found => favorites.HasTask player (.checked found)
  | .clickResumes player favorite => favorites.HasTask player (.saved favorite)

variable [DecidableEq ι]

/-- Change an opened player. -/
def updatePlayer (favorites : Favorites ι) (player : ι) (f : OpenedPlayer → OpenedPlayer) :
    Favorites ι :=
  { favorites with
    players := Function.update favorites.players player ((favorites.players player).map f) }

/-- `present(_:animated:)`: the first `viewWillAppear` of a new player comes with it. -/
def present (favorites : Favorites ι) (player : ι) (controller : PlayerViewController)
    (transitioningDelegate : Option TransitioningDelegate) : Favorites ι :=
  { favorites with
    players := Function.update favorites.players player (some ⟨controller, [.check]⟩)
    presented := some player
    transitioningDelegate }

/-- A presented player starts a task. -/
def start (favorites : Favorites ι) (task : FavoriteTask) : Favorites ι :=
  match favorites.presented with
  | some player => favorites.updatePlayer player (·.start task)
  | none => favorites

/-- The call of a click, given the flag as read before. -/
def favoriteButtonClickCall (managers : CoreDataStacks (Option ι)) (player : ι)
    (controller : PlayerViewController) (favorite : Bool) (fetch : Option (List ManagedObject))
    (saved : Bool) : CoreDataStacks (Option ι) :=
  if !favorite then managers.addEpisodeInFavorite (some player) controller.favoriteEpisode saved
  else managers.removeEpisodeFromFavorite (some player) fetch controller.title controller.subtitle
    saved

/-- One event. -/
def step (favorites : Favorites ι) : FavoritesEvent ι → Except Trap (Favorites ι)
  | .viewWillAppear enumeration fetch => .ok { favorites with
      list := favorites.list.viewWillAppear enumeration (fetchedRows fetch)
      onDisplay := true }
  | .viewDidDisappear => .ok { favorites with onDisplay := false }
  | .didSelectRowAt player selection => do
    let controller ← selection.didSelectRowAt
    return favorites.present player controller (some selection.transitioningDelegate)
  | .openPlayer player => .ok (favorites.present player .instantiated none)
  | .dismiss enumeration fetch => .ok { favorites with
      list := favorites.animationController enumeration (fetchedRows fetch)
      presented := none }
  | .deinit player => .ok { favorites with managers := favorites.managers.deinit (some player) }
  | .playerWillAppear => .ok (favorites.start .check)
  | .actionPressFavoriteButton => .ok (favorites.start .click)
  | .clickBegins player => .ok (favorites.updatePlayer player fun opened =>
      opened.advance .click [.clicked opened.player.isFavorite])
  | .checkCalls player fetch => .ok (favorites.updatePlayer player fun opened =>
      opened.advance .check
        [.checked (opened.player.checkIfEpisodeIsFavorite (fetchedRows fetch))])
  | .clickCalls player favorite fetch saved =>
    match favorites.players player with
    | some opened => .ok { favorites.updatePlayer player fun opened =>
          opened.advance (.clicked favorite) [.saved favorite] with
        managers :=
          favoriteButtonClickCall favorites.managers player opened.player favorite fetch saved }
    | none => .ok favorites
  | .checkResumes player found => .ok (favorites.updatePlayer player fun opened =>
      { opened with player := opened.player.checkIfPodcastIsFavorite found }.advance
        (.checked found) [])
  | .clickResumes player favorite => .ok (favorites.updatePlayer player fun opened =>
      { opened with player := opened.player.favoriteButtonClick favorite }.advance
        (.saved favorite) [])

/-- The app from a store with `objects` on. -/
def machine (ι : Type) [DecidableEq ι] (objects : Finset ManagedObject) :
    Machine (Favorites ι) (FavoritesEvent ι) Trap where
  init := { managers := (CoreDataStacks.machine (Option ι) objects).init }
  Enabled := Enabled
  step := step

instance (favorites : Favorites ι) (player : ι) (task : FavoriteTask) :
    Decidable (favorites.HasTask player task) := inferInstanceAs (Decidable (∃ _ ∈ _, _))

instance (favorites : Favorites ι) (manager : Option ι) (fetch : Option (List ManagedObject)) :
    Decidable (favorites.Fetches manager fetch) := inferInstanceAs (Decidable (∀ _ ∈ _, _ = _))

instance (favorites : Favorites ι) (selection : EpisodeSelection) :
    Decidable (favorites.CanSelect selection) :=
  match selection with
  | .favorite _ _ _ => inferInstanceAs (Decidable (_ ∧ _ ∧ _ ∧ ∃ _ ∈ _, _ ∧ _ ∧ _))
  | .podcast _ _ => inferInstanceAs (Decidable (_ ∧ _ ∧ _))

instance (objects : Finset ManagedObject) (favorites : Favorites ι) (event : FavoritesEvent ι) :
    Decidable ((machine ι objects).Enabled favorites event) :=
  match event with
  | .viewWillAppear _ _ => inferInstanceAs (Decidable (_ ∧ _))
  | .viewDidDisappear => inferInstanceAs (Decidable (_ = _))
  | .didSelectRowAt _ _ => inferInstanceAs (Decidable (_ ∧ _ ∧ _))
  | .openPlayer _ => inferInstanceAs (Decidable (_ ∧ _))
  | .dismiss _ _ => inferInstanceAs (Decidable (_ ≠ _ ∧ _))
  | .deinit _ => inferInstanceAs (Decidable (_ ≠ _ ∧ ∃ _ ∈ _, _ = _))
  | .playerWillAppear => inferInstanceAs (Decidable (_ ≠ _))
  | .actionPressFavoriteButton => inferInstanceAs (Decidable (_ ≠ _))
  | .clickBegins _ => inferInstanceAs (Decidable (HasTask _ _ _))
  | .checkCalls _ _ => inferInstanceAs (Decidable (_ ∧ _))
  | .clickCalls _ _ _ _ => inferInstanceAs (Decidable (_ ∧ _))
  | .checkResumes _ _ => inferInstanceAs (Decidable (HasTask _ _ _))
  | .clickResumes _ _ => inferInstanceAs (Decidable (HasTask _ _ _))

end Favorites

end BingePodcast
