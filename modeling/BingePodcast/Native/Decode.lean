import Mathlib.Data.List.Basic

/-!
# Podcasts, episodes and documents

The types of `Decode.swift`, and the documents they are decoded from. A document's
`data()` is a `[String: Any]` dictionary of which the handlers read only entries cast
with `as? String`.
-/

namespace BingePodcast

/-- `Podcast` of `Decode.swift`. -/
structure Podcast where
  title : Option String
  image : Option String
  author : Option String
deriving DecidableEq, Repr

/-- `Episode` of `Decode.swift`. -/
structure Episode where
  title : Option String
  subtitle : Option String
  description : Option String
  totalTime : Option String
  imageUrl : Option String
  playerUrl : Option String
  podcastTitle : Option String
deriving DecidableEq, Repr

/-- `PodcastEpisode` of `Decode.swift`: a podcast with some of its episodes. -/
structure PodcastEpisode where
  podcast : Podcast
  episode : List Episode
deriving DecidableEq, Repr

/-- The value of a document's field: `as? String` tells strings from everything else. -/
inductive FieldValue where
  | string (s : String)
  | other
deriving DecidableEq, Repr

/-- A document of a Firestore collection. -/
structure DocumentSnapshot where
  documentID : String
  data : List (String × FieldValue)
deriving DecidableEq, Repr

/-- `document.data()[key] as? String`. -/
def DocumentSnapshot.string? (document : DocumentSnapshot) (key : String) : Option String :=
  match document.data.lookup key with
  | some (.string s) => some s
  | _ => none

/-- The `Podcast(…)` that `fetchAllPodcastFirebase` builds from a document. -/
def Podcast.ofDocument (document : DocumentSnapshot) : Podcast where
  title := document.string? "title"
  image := document.string? "image"
  author := document.string? "author"

/-- The `Episode(…)` that the other handlers build from a document of `podcastName`. -/
def Episode.ofDocument (podcastName : String) (document : DocumentSnapshot) : Episode where
  title := document.string? "title"
  subtitle := document.string? "subtitle"
  description := document.string? "description"
  totalTime := document.string? "totalTime"
  imageUrl := document.string? "imageUrl"
  playerUrl := document.string? "playerUrl"
  podcastTitle := some podcastName

/-- The name of a podcast's collection, `podcast.title ?? ""`. -/
def Podcast.name (podcast : Podcast) : String := podcast.title.getD ""

end BingePodcast
