import BingePodcast.Native.Decode
import BingePodcast.ForStd.Machine
import BingePodcast.ForStd.Multiset

/-!
# CoreDataManager

`CoreDataManager.swift`: the favourites in Core Data. The managed objects of the context
are a multiset of rows; a fetch lists them in an order that Core Data does not promise, and
so does a Swift dictionary its entries. Saving the context changes neither.
-/

namespace BingePodcast

/-- The entity `EpisodeSaved` of the data model, all of whose attributes are optional. -/
structure EpisodeSaved where
  titleEpisode : Option String
  subtitleEpisode : Option String
  descriptionEpisode : Option String
  totalTimeEpisode : Option String
  imageUrlEpisode : Option String
  playerUrlEpisode : Option String
  podcastName : Option String
deriving DecidableEq, Repr

/-- The arguments of `addEpisodeInFavorite`. -/
structure FavoriteEpisode where
  title : String
  subtitle : String
  description : String
  totalTime : String
  imageUrl : String
  playerUrl : String
  podcastName : String
deriving DecidableEq, Repr

/-- The row that `addEpisodeInFavorite` inserts. -/
def FavoriteEpisode.row (episode : FavoriteEpisode) : EpisodeSaved where
  titleEpisode := some episode.title
  subtitleEpisode := some episode.subtitle
  descriptionEpisode := some episode.description
  totalTimeEpisode := some episode.totalTime
  imageUrlEpisode := some episode.imageUrl
  playerUrlEpisode := some episode.playerUrl
  podcastName := some episode.podcastName

/-- The `Episode(…)` that `fetchFavoriteEpisode` builds from a row. -/
def Episode.ofSaved (res : EpisodeSaved) : Episode where
  title := some (res.titleEpisode.getD "")
  subtitle := some (res.subtitleEpisode.getD "")
  description := some (res.descriptionEpisode.getD "")
  totalTime := some (res.totalTimeEpisode.getD "")
  imageUrl := some (res.imageUrlEpisode.getD "")
  playerUrl := some (res.playerUrlEpisode.getD "")
  podcastTitle := some (res.podcastName.getD "")

namespace CoreDataManager

/-- What `context.fetch(request)` returns, `none` if it throws. -/
abbrev Fetch := Option (List EpisodeSaved)

/-- The condition of the loop in `checkIfEpisodeIsFavorite`. -/
def isEpisode (titleEpisode subtitleEpisode : String) (r : EpisodeSaved) : Bool :=
  r.titleEpisode == some titleEpisode && r.subtitleEpisode == some subtitleEpisode

/-- The condition of the loop in `removeEpisodeFromFavorite`. -/
def isRemoved (titlePodcast subtitlePodcast : String) (r : EpisodeSaved) : Bool :=
  (r.titleEpisode == some titlePodcast && r.subtitleEpisode == some subtitlePodcast) ||
    -- rows with a blank title go with every removal
    r.titleEpisode == some ""

/-- `checkIfEpisodeIsFavorite(titleEpisode:subtitleEpisode:)` -/
def checkIfEpisodeIsFavorite (fetch : Fetch) (titleEpisode subtitleEpisode : String) : Bool :=
  match fetch with
  | some result => result.any (isEpisode titleEpisode subtitleEpisode)
  | none => false

/-- `addEpisodeInFavorite(…)` -/
def addEpisodeInFavorite (context : Multiset EpisodeSaved) (episode : FavoriteEpisode) :
    Multiset EpisodeSaved :=
  episode.row ::ₘ context

/-- `removeEpisodeFromFavorite(titlePodcast:subtitlePodcast:)` -/
def removeEpisodeFromFavorite (context : Multiset EpisodeSaved) (fetch : Fetch)
    (titlePodcast subtitlePodcast : String) : Multiset EpisodeSaved :=
  match fetch with
  | some result => result.foldl
      (fun context r => if isRemoved titlePodcast subtitlePodcast r then context.erase r else context)
      context
  | none => context

/-- The `podcastEpisodeDictionary` of `fetchFavoriteEpisode`. -/
def podcastEpisodeDictionary (episodes : List Episode) : Finmap fun _ : String => List Episode :=
  episodes.foldl (fun dictionary episode =>
    dictionary.appendAt (episode.podcastTitle.getD "") episode) ∅

/-- `fetchFavoriteEpisode()`, where `enumerated` lists the entries of a dictionary. -/
def fetchFavoriteEpisode
    (enumerated : (Finmap fun _ : String => List Episode) → List (Σ _ : String, List Episode))
    (fetch : Fetch) : List PodcastEpisode :=
  match fetch with
  | some result =>
    (enumerated (podcastEpisodeDictionary (result.map Episode.ofSaved))).map fun element =>
      ⟨⟨some element.1, some "", some ""⟩, element.2⟩
  | none => []

end CoreDataManager

/-- A call of one of the two methods that change the favourites; removing fetches first. -/
inductive FavoriteCall where
  | addEpisodeInFavorite (episode : FavoriteEpisode)
  | removeEpisodeFromFavorite (titlePodcast subtitlePodcast : String) (result : List EpisodeSaved)
deriving DecidableEq, Repr

namespace CoreDataManager

/-- The fetch of a call lists the rows of the context. -/
def Enabled (context : Multiset EpisodeSaved) : FavoriteCall → Prop
  | .addEpisodeInFavorite _ => True
  | .removeEpisodeFromFavorite _ _ result => (result : Multiset EpisodeSaved) = context

/-- One call. -/
def step (context : Multiset EpisodeSaved) : FavoriteCall → Except Empty (Multiset EpisodeSaved)
  | .addEpisodeInFavorite episode => .ok (addEpisodeInFavorite context episode)
  | .removeEpisodeFromFavorite titlePodcast subtitlePodcast result =>
    .ok (removeEpisodeFromFavorite context (some result) titlePodcast subtitlePodcast)

/-- Calls one after another, from an empty store on. -/
def machine : Machine (Multiset EpisodeSaved) FavoriteCall Empty where
  init := 0
  Enabled := Enabled
  step := step

instance (context : Multiset EpisodeSaved) (call : FavoriteCall) :
    Decidable (machine.Enabled context call) :=
  match call with
  | .addEpisodeInFavorite _ => inferInstanceAs (Decidable True)
  | .removeEpisodeFromFavorite _ _ _ => inferInstanceAs (Decidable (_ = _))

end CoreDataManager

end BingePodcast
