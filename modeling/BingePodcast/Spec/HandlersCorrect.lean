import BingePodcast.Native.FirebaseService

/-!
# The handlers of Firestore's answers

The four completion handlers of `FirebaseService` test the error, the snapshot and the
documents in different orders. This file states what all of them owe to their callers, one
call of `onCompletion` for every answer, and says for each exactly which answers get it.

## Key results

- `DocumentSnapshot.decodes_string?`: `as? String` reads the strings and nothing else
- `handlers_report_iff`: the answers that each handler reports, and reports right
-/

namespace BingePodcast

/-! ## What a document decodes to -/

/-- `value` is the field `key` of the document if that is a string, and `nil` if it is
    missing or something else. -/
def DocumentSnapshot.Decodes (document : DocumentSnapshot) (key : String)
    (value : Option String) : Prop :=
  ∀ s, value = some s ↔ document.data.lookup key = some (.string s)

theorem DocumentSnapshot.decodes_string? (document : DocumentSnapshot) (key : String) :
    document.Decodes key (document.string? key) := by
  intro s
  simp only [string?]
  split
  · rename_i s' hlookup
    simp [hlookup]
  · rename_i hother
    simp only [reduceCtorEq, false_iff]
    exact hother s

/-- A podcast with the fields of a document. -/
structure Podcast.Decodes (document : DocumentSnapshot) (podcast : Podcast) : Prop where
  title : document.Decodes "title" podcast.title
  image : document.Decodes "image" podcast.image
  author : document.Decodes "author" podcast.author

/-- An episode with the fields of a document from the collection `podcastName`. -/
structure Episode.Decodes (podcastName : String) (document : DocumentSnapshot)
    (episode : Episode) : Prop where
  title : document.Decodes "title" episode.title
  subtitle : document.Decodes "subtitle" episode.subtitle
  description : document.Decodes "description" episode.description
  totalTime : document.Decodes "totalTime" episode.totalTime
  imageUrl : document.Decodes "imageUrl" episode.imageUrl
  playerUrl : document.Decodes "playerUrl" episode.playerUrl
  podcastTitle : episode.podcastTitle = some podcastName

theorem Podcast.decodes_ofDocument (document : DocumentSnapshot) :
    Podcast.Decodes document (Podcast.ofDocument document) where
  title := document.decodes_string? "title"
  image := document.decodes_string? "image"
  author := document.decodes_string? "author"

theorem Episode.decodes_ofDocument (podcastName : String) (document : DocumentSnapshot) :
    Episode.Decodes podcastName document (Episode.ofDocument podcastName document) where
  title := document.decodes_string? "title"
  subtitle := document.decodes_string? "subtitle"
  description := document.decodes_string? "description"
  totalTime := document.decodes_string? "totalTime"
  imageUrl := document.decodes_string? "imageUrl"
  playerUrl := document.decodes_string? "playerUrl"
  podcastTitle := rfl

/-! ## What a handler owes -/

/-- What a handler owes its caller: it does not trap and calls `onCompletion`, with a failure
    if Firestore failed or the snapshot does not contain what was `requested`, and with a
    success that decodes what was requested otherwise. -/
def Reports {δ α : Type} (requested : List DocumentSnapshot → Option δ) (Decodes : δ → α → Prop)
    (response : Response) (outcome : Except Trap (Option (Result α))) : Prop :=
  match response with
  | .error _ => ∃ err, outcome = .ok (some (.error err))
  | .snapshot documents =>
    match requested documents with
    | some d => ∃ a, outcome = .ok (some (.ok (some a))) ∧ Decodes d a
    | none => ∃ err, outcome = .ok (some (.error err))

/-- The calls that issue a query. -/
inductive FirestoreCall where
  | fetchAllPodcastFirebase
  | fetchOneEpisodeFirebase (podcast : String) (episodeNumber : ℤ)
  | fetchEpisodeOnPosdcastFirebase (podcastName : String)
  | loadMoreData (podcastName : String)
deriving DecidableEq, Repr

/-- The document at an index, if there is one. -/
def documentAt (index : ℤ) (documents : List DocumentSnapshot) : Option DocumentSnapshot :=
  if 0 ≤ index then documents[index.toNat]? else none

/-- The handler of a call reports the response as it should. -/
def FirestoreCall.Reported (service : FirebaseService) (response : Response) :
    FirestoreCall → Prop
  | .fetchAllPodcastFirebase => Reports some (List.Forall₂ Podcast.Decodes) response
      (.ok (FirebaseService.fetchAllPodcastCompletion response.querySnapshot response.err))
  | .fetchOneEpisodeFirebase podcast episodeNumber =>
    Reports (documentAt episodeNumber) (Episode.Decodes podcast) response
      (FirebaseService.fetchOneEpisodeCompletion podcast episodeNumber
        response.querySnapshot response.err)
  | .fetchEpisodeOnPosdcastFirebase podcastName =>
    Reports some (List.Forall₂ (Episode.Decodes podcastName)) response
      ((service.fetchEpisodeOnPosdcastCompletion podcastName
        response.querySnapshot response.err).map Prod.snd)
  | .loadMoreData podcastName => Reports some (List.Forall₂ (Episode.Decodes podcastName)) response
      (.ok (service.loadMoreCompletion podcastName response.querySnapshot response.err).2)

/-- The responses that the handler of a call is prepared for. -/
def FirestoreCall.Prepared (response : Response) : FirestoreCall → Prop
  | .fetchAllPodcastFirebase => response.err = none
  | .fetchOneEpisodeFirebase _ episodeNumber => ∀ documents, response = .snapshot documents →
      0 ≤ episodeNumber ∧ episodeNumber < documents.length
  | .fetchEpisodeOnPosdcastFirebase _ => response ≠ .snapshot []
  | .loadMoreData _ => True

/-! ## The handlers, one by one -/

section Handlers

variable (service : FirebaseService) (podcastName : String) (response : Response)

private theorem forall₂_map {α : Type} {R : DocumentSnapshot → α → Prop}
    {f : DocumentSnapshot → α} (h : ∀ document, R document (f document))
    (documents : List DocumentSnapshot) : List.Forall₂ R documents (documents.map f) :=
  List.forall₂_map_right_iff.mpr (List.forall₂_same.mpr fun document _ => h document)

/-- An error without a snapshot is swallowed by the first guard. -/
theorem reported_fetchAllPodcastFirebase_iff :
    FirestoreCall.Reported service response .fetchAllPodcastFirebase ↔
      FirestoreCall.Prepared response .fetchAllPodcastFirebase := by
  cases response with
  | error err =>
    refine iff_of_false ?_ (by simp [FirestoreCall.Prepared, Response.err])
    rintro ⟨err', heq⟩
    cases heq
  | snapshot documents =>
    refine iff_of_true ?_ rfl
    exact ⟨_, rfl, forall₂_map Podcast.decodes_ofDocument documents⟩

/-- An index outside the snapshot traps. -/
theorem reported_fetchOneEpisodeFirebase_iff (podcast : String) (episodeNumber : ℤ) :
    FirestoreCall.Reported service response (.fetchOneEpisodeFirebase podcast episodeNumber) ↔
      FirestoreCall.Prepared response (.fetchOneEpisodeFirebase podcast episodeNumber) := by
  cases response with
  | error err => exact iff_of_true ⟨err, rfl⟩ fun documents heq => by cases heq
  | snapshot documents =>
    simp only [FirestoreCall.Prepared, Response.snapshot.injEq, forall_eq']
    by_cases hindex : 0 ≤ episodeNumber ∧ episodeNumber < documents.length
    · obtain ⟨n, rfl⟩ := Int.eq_ofNat_of_zero_le hindex.1
      have hn : n < documents.length := Int.ofNat_lt.mp hindex.2
      refine iff_of_true ?_ hindex
      have hrequested : documentAt n documents = some documents[n] := by
        simp [documentAt, hn]
      simp only [FirestoreCall.Reported, Reports, hrequested]
      refine ⟨_, ?_, Episode.decodes_ofDocument podcast documents[n]⟩
      simp [FirebaseService.fetchOneEpisodeCompletion, Response.err, Response.querySnapshot,
        element_ofNat hn]
    · refine iff_of_false ?_ hindex
      have htrap : element documents episodeNumber = .error .indexOutOfRange :=
        element_eq_error.mpr ⟨rfl, by omega⟩
      -- neither a success nor a failure is reported
      simp only [FirestoreCall.Reported, Reports, FirebaseService.fetchOneEpisodeCompletion,
        Response.err, Response.querySnapshot, htrap, Except.error_bind]
      split <;> simp

/-- An empty first page traps at the force cast of its last document. -/
theorem reported_fetchEpisodeOnPosdcastFirebase_iff :
    FirestoreCall.Reported service response (.fetchEpisodeOnPosdcastFirebase podcastName) ↔
      FirestoreCall.Prepared response (.fetchEpisodeOnPosdcastFirebase podcastName) := by
  cases response with
  | error err => exact iff_of_true ⟨err, rfl⟩ (by simp [FirestoreCall.Prepared])
  | snapshot documents =>
    simp only [FirestoreCall.Reported, Reports, FirebaseService.fetchEpisodeOnPosdcastCompletion,
      Response.err, Response.querySnapshot, FirestoreCall.Prepared, ne_eq, Response.snapshot.injEq]
    cases hlast : documents.getLast? with
    | none => exact iff_of_false (by simp [Except.map]) (by simpa using hlast)
    | some last =>
      have hne : documents ≠ [] := by
        rintro rfl
        simp at hlast
      refine iff_of_true ?_ hne
      exact ⟨_, rfl, forall₂_map (Episode.decodes_ofDocument podcastName) documents⟩

theorem reported_loadMoreData :
    FirestoreCall.Reported service response (.loadMoreData podcastName) := by
  cases response with
  | error err => exact ⟨err, rfl⟩
  | snapshot documents =>
    exact ⟨_, rfl, forall₂_map (Episode.decodes_ofDocument podcastName) documents⟩

end Handlers

/-- For every call, whatever the state of the service: the response is reported by one call
    of `onCompletion`, and reported right, exactly if the handler is prepared for it. -/
theorem handlers_report_iff (service : FirebaseService) (response : Response)
    (call : FirestoreCall) :
    call.Reported service response ↔ call.Prepared response := by
  cases call with
  | fetchAllPodcastFirebase => exact reported_fetchAllPodcastFirebase_iff service response
  | fetchOneEpisodeFirebase podcast episodeNumber =>
    exact reported_fetchOneEpisodeFirebase_iff service response podcast episodeNumber
  | fetchEpisodeOnPosdcastFirebase podcastName =>
    exact reported_fetchEpisodeOnPosdcastFirebase_iff service podcastName response
  | loadMoreData podcastName =>
    exact iff_of_true (reported_loadMoreData service podcastName response) trivial

/-- An error is not reported, an index behind the snapshot and an empty first page trap. -/
theorem answers_unreported :
    (FirebaseService.fetchAllPodcastCompletion (Response.error ⟨"offline"⟩).querySnapshot
        (Response.error ⟨"offline"⟩).err = none ∧
      ¬ FirestoreCall.Reported {} (.error ⟨"offline"⟩) .fetchAllPodcastFirebase) ∧
    (FirebaseService.fetchOneEpisodeCompletion "A" 1 (some [⟨"a", []⟩]) none =
        .error .indexOutOfRange ∧
      ¬ FirestoreCall.Reported {} (.snapshot [⟨"a", []⟩]) (.fetchOneEpisodeFirebase "A" 1)) ∧
    ((({} : FirebaseService).fetchEpisodeOnPosdcastCompletion "A" (some []) none).map Prod.snd =
        .error .nilForceCast ∧
      ¬ FirestoreCall.Reported {} (.snapshot []) (.fetchEpisodeOnPosdcastFirebase "A")) := by
  refine ⟨⟨rfl, ?_⟩, ⟨rfl, ?_⟩, ⟨rfl, ?_⟩⟩
  · rw [reported_fetchAllPodcastFirebase_iff]
    simp [FirestoreCall.Prepared, Response.err]
  · rw [reported_fetchOneEpisodeFirebase_iff]
    simp [FirestoreCall.Prepared]
  · rw [reported_fetchEpisodeOnPosdcastFirebase_iff]
    simp [FirestoreCall.Prepared]

end BingePodcast
