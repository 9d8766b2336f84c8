import BingePodcast.Native.Firestore
import BingePodcast.Native.Swift
import BingePodcast.ForStd.Except
import BingePodcast.ForStd.Machine
import Mathlib.Logic.Function.Basic

/-!
# FirebaseService

`FirebaseService.swift`: the queries it issues, the handlers of their answers, and the
system it forms with the requests in flight. A handler returns the service it leaves
behind and what it passes to `onCompletion`, `none` if it does not call it.
-/

namespace BingePodcast

/-- What `onCompletion` receives, `Result<α?, Error>`. -/
abbrev Result (α : Type) := Except FirestoreError (Option α)

/-- The stored properties of `FirebaseService` that its methods use. -/
structure FirebaseService where
  arrayLastDocument : String → Option DocumentSnapshot := fun _ => none
  isLoading : Bool := false

namespace FirebaseService

/-- The private `podcastLimit`, also the literal in `getDocumentsWithLimit`. -/
def podcastLimit : Nat := 5

/-- `Firestore.firestore().collection(path)` throws on the paths it rejects. -/
def collection (path : String) : Except Trap String :=
  if isCollectionPath path then .ok path else .error .invalidCollectionPath

theorem collection_eq_ok {path path' : String} :
    collection path = .ok path' ↔ isCollectionPath path ∧ path' = path := by
  simp only [collection]
  split <;> simp [*, eq_comm]

/-- `FirebaseManager.getDocuments`. -/
def getDocuments (collectionName : String) : Except Trap Query := do
  let path ← collection collectionName
  return ⟨path, none, none⟩

/-- `FirebaseManager.getDocumentsWithLimit`. -/
def getDocumentsWithLimit (podcastName : String) : Except Trap Query := do
  let path ← collection podcastName
  return ⟨path, none, some podcastLimit⟩

/-- The handler in `fetchAllPodcastFirebase`. -/
def fetchAllPodcastCompletion (querySnapshot : Option (List DocumentSnapshot))
    (err : Option FirestoreError) : Option (Result (List Podcast)) :=
  match querySnapshot with
  -- the guard comes before the test of `err`, so an error without a snapshot is swallowed
  | none => none
  | some documents =>
    match err with
    | some err => some (.error err)
    | none => some (.ok (some (documents.map Podcast.ofDocument)))

/-- The handler in `fetchOneEpisodeFirebase`. -/
def fetchOneEpisodeCompletion (podcast : String) (episodeNumber : ℤ)
    (querySnapshot : Option (List DocumentSnapshot)) (err : Option FirestoreError) :
    Except Trap (Option (Result Episode)) :=
  match err with
  | some err => .ok (some (.error err))
  | none =>
    match querySnapshot with
    | none => .ok none
    | some documents => do
      -- `queryDoc[episodeNumber]` is an unchecked subscript
      let document ← element documents episodeNumber
      return some (.ok (some (Episode.ofDocument podcast document)))

/-- The handler in `fetchEpisodeOnPosdcastFirebase`: `documents.last as! DocumentSnapshot`
    traps on an empty page. -/
def fetchEpisodeOnPosdcastCompletion (service : FirebaseService) (podcastName : String)
    (querySnapshot : Option (List DocumentSnapshot)) (err : Option FirestoreError) :
    Except Trap (FirebaseService × Option (Result (List Episode))) :=
  match err with
  | some err => .ok (service, some (.error err))
  | none =>
    match querySnapshot with
    | none => .ok (service, none)
    | some documents =>
      match documents.getLast? with
      | none => .error .nilForceCast
      | some last =>
        -- the cursor is set before `onCompletion` is called
        .ok ({ service with
            arrayLastDocument := Function.update service.arrayLastDocument podcastName last },
          some (.ok (some (documents.map (Episode.ofDocument podcastName)))))

/-- `loadMoreData` up to its query: `none` if the guard drops the call. -/
def loadMoreData (service : FirebaseService) (podcastName : String) :
    Except Trap (FirebaseService × Option Query) :=
  match service.arrayLastDocument podcastName with
  | none => .ok (service, none)
  | some lastDocument =>
    -- `!isLoading` in the guard: one flag for the podcasts of all names
    if service.isLoading then .ok (service, none)
    else do
      let path ← collection podcastName
      return ({ service with isLoading := true }, some ⟨path, some lastDocument, some podcastLimit⟩)

/-- The handler in `loadMoreData`: assigning `documents.last` of an empty page removes
    the entry of `arrayLastDocument`. -/
def loadMoreCompletion (service : FirebaseService) (podcastName : String)
    (querySnapshot : Option (List DocumentSnapshot)) (err : Option FirestoreError) :
    FirebaseService × Option (Result (List Episode)) :=
  let service := { service with isLoading := false }
  match err with
  | some err => (service, some (.error err))
  | none =>
    match querySnapshot with
    | some documents =>
      ({ service with
          arrayLastDocument :=
            Function.update service.arrayLastDocument podcastName documents.getLast? },
        some (.ok (some (documents.map (Episode.ofDocument podcastName)))))
    -- without a snapshot the handler still completes, with no episode
    | none => (service, some (.ok (some [])))

end FirebaseService

/-- `fetchOneEpisodeFirebase` when Firestore answers with the snapshot of the collection. -/
def fetchOneEpisodeFirebase (collections : Collections) (podcast : String)
    (episodeNumber : ℤ) : Except Trap (Option (Result Episode)) := do
  let query ← FirebaseService.getDocuments podcast
  FirebaseService.fetchOneEpisodeCompletion podcast episodeNumber
    (some (query.documents collections)) none

/-! ## The service and its requests in flight -/

/-- A query in flight, with what its `onCompletion` closure captured. -/
structure PageRequest (κ : Type) where
  query : Query
  onCompletion : κ
deriving DecidableEq, Repr

/-- Which of the two handlers of episode pages ran. -/
inductive Page where
  | first
  | more
deriving DecidableEq, Repr

/-- A record of one answered request: the documents of its snapshot, and what the handler
    passed to `onCompletion`. -/
structure Completion where
  podcastName : String
  page : Page
  documents : List DocumentSnapshot
  result : Option (Result (List Episode))

/-- A `FirebaseService`, its requests in flight and the record of the answered ones. -/
structure Paging (κ : Type) where
  service : FirebaseService := {}
  firstPages : List (PageRequest κ) := []
  loadMores : List (PageRequest κ) := []
  completions : List Completion := []

/-- A call of one of the two paging methods, or the answer to a request in flight. -/
inductive PagingEvent (κ : Type) where
  | fetchEpisodeOnPosdcastFirebase (podcastName : String) (onCompletion : κ)
  | loadMoreData (podcastName : String) (onCompletion : κ)
  | firstPageResponse (request : PageRequest κ) (response : Response)
  | loadMoreResponse (request : PageRequest κ) (response : Response)
deriving DecidableEq, Repr

namespace Paging

variable {κ : Type} [DecidableEq κ]

/-- `fetchEpisodeOnPosdcastFirebase`. -/
def fetchEpisodeOnPosdcastFirebase (sys : Paging κ) (podcastName : String)
    (onCompletion : κ) : Except Trap (Paging κ) := do
  let query ← FirebaseService.getDocumentsWithLimit podcastName
  return { sys with firstPages := sys.firstPages ++ [⟨query, onCompletion⟩] }

/-- `loadMoreData`. -/
def loadMoreData (sys : Paging κ) (podcastName : String) (onCompletion : κ) :
    Except Trap (Paging κ) := do
  let (service, query) ← sys.service.loadMoreData podcastName
  return { sys with
    service
    loadMores := sys.loadMores ++ (query.map (⟨·, onCompletion⟩)).toList }

/-- The answer to a first-page request, with what `onCompletion` receives. -/
def firstPageResponse (sys : Paging κ) (request : PageRequest κ) (response : Response) :
    Except Trap (Paging κ × Option (Result (List Episode))) := do
  let podcastName := request.query.collection
  let (service, result) ← sys.service.fetchEpisodeOnPosdcastCompletion podcastName
    response.querySnapshot response.err
  return ({ sys with
      service
      firstPages := sys.firstPages.erase request
      completions := sys.completions ++
        [⟨podcastName, .first, response.querySnapshot.getD [], result⟩] }, result)

/-- The answer to a load-more request, with what `onCompletion` receives. -/
def loadMoreResponse (sys : Paging κ) (request : PageRequest κ) (response : Response) :
    Paging κ × Option (Result (List Episode)) :=
  let podcastName := request.query.collection
  let (service, result) := sys.service.loadMoreCompletion podcastName
    response.querySnapshot response.err
  ({ sys with
      service
      loadMores := sys.loadMores.erase request
      completions := sys.completions ++
        [⟨podcastName, .more, response.querySnapshot.getD [], result⟩] }, result)

/-- Calls can be made at any moment; Firestore answers what is in flight, a query with one
    of its `answers`. -/
def Enabled (answers : Query → Response → Prop) (sys : Paging κ) : PagingEvent κ → Prop
  | .fetchEpisodeOnPosdcastFirebase _ _ => True
  | .loadMoreData _ _ => True
  | .firstPageResponse request response =>
    request ∈ sys.firstPages ∧ answers request.query response
  | .loadMoreResponse request response =>
    request ∈ sys.loadMores ∧ answers request.query response

instance (answers : Query → Response → Prop) [∀ query response, Decidable (answers query response)]
    (sys : Paging κ) (event : PagingEvent κ) : Decidable (Enabled answers sys event) :=
  match event with
  | .fetchEpisodeOnPosdcastFirebase _ _ => inferInstanceAs (Decidable True)
  | .loadMoreData _ _ => inferInstanceAs (Decidable True)
  | .firstPageResponse _ _ => inferInstanceAs (Decidable (_ ∧ _))
  | .loadMoreResponse _ _ => inferInstanceAs (Decidable (_ ∧ _))

/-- One event of the system. -/
def step (sys : Paging κ) : PagingEvent κ → Except Trap (Paging κ)
  | .fetchEpisodeOnPosdcastFirebase podcastName onCompletion =>
    sys.fetchEpisodeOnPosdcastFirebase podcastName onCompletion
  | .loadMoreData podcastName onCompletion => sys.loadMoreData podcastName onCompletion
  | .firstPageResponse request response => do
    let (sys, _) ← sys.firstPageResponse request response
    return sys
  | .loadMoreResponse request response => .ok (sys.loadMoreResponse request response).1

/-- The runs of a fresh `FirebaseService`. -/
def machine (κ : Type) [DecidableEq κ] (answers : Query → Response → Prop) :
    Machine (Paging κ) (PagingEvent κ) Trap where
  init := {}
  Enabled := Enabled answers
  step := step

instance (answers : Query → Response → Prop) [∀ query response, Decidable (answers query response)]
    (sys : Paging κ) (event : PagingEvent κ) :
    Decidable ((machine κ answers).Enabled sys event) :=
  inferInstanceAs (Decidable (Enabled answers sys event))

end Paging

end BingePodcast
