import BingePodcast.Native.CoreDataManager

/-!
# The favourite button of the player

`PlayerViewController` with the two kinds of tasks that read and write `isFavorite`: the
check that `viewWillAppear` starts, and `favoriteButtonClick`. Both run on the main actor
and suspend at their call of `CoreDataManager`, so a task is a piece of code before the
call, the call, and a piece of code after it.
-/

namespace BingePodcast

/-- The properties of `PlayerViewController` that its favourite button uses. A label is
    given by its text. -/
structure PlayerViewController where
  titlePodcast : Option String
  subtitlePodcast : Option String
  descriptionPodcast : Option String
  imagePlayer : String
  podcastTitle : String := ""
  isFavorite : Bool := false
  /-- The name of the image of `heartButton`. -/
  heartImage : String := "favorite_unselected_white"
deriving DecidableEq, Repr

namespace PlayerViewController

/-- `titlePodcast.text ?? ""` -/
def title (player : PlayerViewController) : String := player.titlePodcast.getD ""

/-- `subtitlePodcast.text ?? ""` -/
def subtitle (player : PlayerViewController) : String := player.subtitlePodcast.getD ""

/-- The call of `checkIfEpisodeIsFavorite` in `checkIfPodcastIsFavorite`. -/
def checkIfEpisodeIsFavorite (player : PlayerViewController) (fetch : CoreDataManager.Fetch) :
    Bool :=
  CoreDataManager.checkIfEpisodeIsFavorite fetch player.title player.subtitle

/-- The rest of the task in `checkIfPodcastIsFavorite`. -/
def checkIfPodcastIsFavorite (player : PlayerViewController) (found : Bool) :
    PlayerViewController :=
  if found then
    { player with heartImage := "favorite_selected_white", isFavorite := true }
  else
    { player with heartImage := "favorite_unselected_white", isFavorite := false }

/-- The arguments of `addEpisodeInFavorite` in `favoriteButtonClick`. -/
def favoriteEpisode (player : PlayerViewController) : FavoriteEpisode where
  title := player.title
  subtitle := player.subtitle
  description := player.descriptionPodcast.getD ""
  totalTime := ""
  imageUrl := player.imagePlayer
  playerUrl := ""
  podcastName := player.podcastTitle

/-- The call of `removeEpisodeFromFavorite` in `favoriteButtonClick`. -/
def removeEpisodeFromFavorite (player : PlayerViewController) (context : Multiset EpisodeSaved)
    (fetch : CoreDataManager.Fetch) : Multiset EpisodeSaved :=
  CoreDataManager.removeEpisodeFromFavorite context fetch player.title player.subtitle

/-- The call in `favoriteButtonClick`, given the flag as read before. -/
def favoriteButtonClickCall (player : PlayerViewController) (favorite : Bool)
    (context : Multiset EpisodeSaved) (fetch : CoreDataManager.Fetch) : Multiset EpisodeSaved :=
  if !favorite then CoreDataManager.addEpisodeInFavorite context player.favoriteEpisode
  else player.removeEpisodeFromFavorite context fetch

/-- `toggleFavoriteButton(sender:)` -/
def toggleFavoriteButton (player : PlayerViewController) : PlayerViewController :=
  if player.isFavorite then { player with heartImage := "favorite_selected_white" }
  else { player with heartImage := "favorite_unselected_white" }

/-- The rest of `favoriteButtonClick` after its call. -/
def favoriteButtonClick (player : PlayerViewController) (favorite : Bool) : PlayerViewController :=
  { player with isFavorite := !favorite }.toggleFavoriteButton

end PlayerViewController

/-! ## The tasks of the player -/

/-- A task in flight, by how far it has got. -/
inductive FavoriteTask where
  /-- `checkIfPodcastIsFavorite` before its call. -/
  | check
  /-- `checkIfPodcastIsFavorite` after its call. -/
  | checked (found : Bool)
  /-- `favoriteButtonClick` before it has run. -/
  | click
  /-- `favoriteButtonClick` before its call, with the flag it has read. -/
  | clicked (favorite : Bool)
  /-- `favoriteButtonClick` after its call. -/
  | saved (favorite : Bool)
deriving DecidableEq, Repr

/-- A player, the rows of the context and the tasks in flight. `outcomes` is a record of the
    calls of `CoreDataManager`: whether each found or left the player's episode saved. -/
structure FavoriteButton where
  player : PlayerViewController
  context : Multiset EpisodeSaved
  tasks : List FavoriteTask := [.check]
  outcomes : List Bool := []

/-- What can happen: the view appears again, the button is pressed, or a task in flight
    makes its next step. -/
inductive FavoriteButtonEvent where
  | viewWillAppear
  | actionPressFavoriteButton
  | clickBegins
  | checkCalls (result : List EpisodeSaved)
  | clickCalls (favorite : Bool) (result : List EpisodeSaved)
  | checkResumes (found : Bool)
  | clickResumes (favorite : Bool)
deriving DecidableEq, Repr

namespace FavoriteButton

/-- Replace a task by what follows it. -/
def advance (button : FavoriteButton) (task : FavoriteTask) (next : List FavoriteTask) :
    List FavoriteTask :=
  button.tasks.erase task ++ next

/-- One event. -/
def step (button : FavoriteButton) : FavoriteButtonEvent → FavoriteButton
  | .viewWillAppear => { button with tasks := button.tasks ++ [.check] }
  | .actionPressFavoriteButton => { button with tasks := button.tasks ++ [.click] }
  -- the flag is read here, the call comes later
  | .clickBegins => { button with
      tasks := button.advance .click [.clicked button.player.isFavorite] }
  | .checkCalls result =>
    let found := button.player.checkIfEpisodeIsFavorite (some result)
    { button with
      tasks := button.advance .check [.checked found]
      outcomes := button.outcomes ++ [found] }
  | .clickCalls favorite result => { button with
      context := button.player.favoriteButtonClickCall favorite button.context (some result)
      tasks := button.advance (.clicked favorite) [.saved favorite]
      outcomes := button.outcomes ++ [!favorite] }
  -- what a task found or did at its call is written here, whatever happened since
  | .checkResumes found => { button with
      player := button.player.checkIfPodcastIsFavorite found
      tasks := button.advance (.checked found) [] }
  | .clickResumes favorite => { button with
      player := button.player.favoriteButtonClick favorite
      tasks := button.advance (.saved favorite) [] }

/-- The view appears and the button is pressed at any moment; a task in flight makes its
    next step; a fetch lists the rows of the context. -/
def Enabled (button : FavoriteButton) : FavoriteButtonEvent → Prop
  | .viewWillAppear => True
  | .actionPressFavoriteButton => True
  | .clickBegins => .click ∈ button.tasks
  | .checkCalls result =>
    .check ∈ button.tasks ∧ (result : Multiset EpisodeSaved) = button.context
  | .clickCalls favorite result =>
    .clicked favorite ∈ button.tasks ∧ (result : Multiset EpisodeSaved) = button.context
  | .checkResumes found => .checked found ∈ button.tasks
  | .clickResumes favorite => .saved favorite ∈ button.tasks

/-- The runs of a player from its first `viewWillAppear` on. -/
def machine (player : PlayerViewController) (context : Multiset EpisodeSaved) :
    Machine FavoriteButton FavoriteButtonEvent Empty where
  init := { player, context }
  Enabled := Enabled
  step button event := .ok (button.step event)

instance (player : PlayerViewController) (context : Multiset EpisodeSaved)
    (button : FavoriteButton) (event : FavoriteButtonEvent) :
    Decidable ((machine player context).Enabled button event) :=
  match event with
  | .viewWillAppear => inferInstanceAs (Decidable True)
  | .actionPressFavoriteButton => inferInstanceAs (Decidable True)
  | .clickBegins => inferInstanceAs (Decidable (_ ∈ _))
  | .checkCalls _ => inferInstanceAs (Decidable (_ ∧ _))
  | .clickCalls _ _ => inferInstanceAs (Decidable (_ ∧ _))
  | .checkResumes _ => inferInstanceAs (Decidable (_ ∈ _))
  | .clickResumes _ => inferInstanceAs (Decidable (_ ∈ _))

end FavoriteButton

end BingePodcast
