import BingePodcast.Native.FirebaseService
import BingePodcast.ForStd.List
import Mathlib.Data.List.Count

/-!
# Paging delivers every document once

The pages a `FirebaseService` passes to `onCompletion` for one podcast, whatever the
other podcasts do meanwhile, are the pages of five documents of that podcast's
collection, in order. `Reads` states this for one podcast after any number of pages and
`PagingInv` ties the readers of all podcasts to the requests in flight and to `isLoading`.

## Key results

- `Paging.loadMoreData_cases`, `Paging.firstPageResponse_cases`: everything a call or an
  answer can do
- `Reads.more`: a further page extends what was read by the documents behind the cursor
- `pagingInv_of_run`: the invariant holds at the end of every run
- `paging_loses_and_repeats_nothing`: delivered pages, cursors and `isLoading` in every
  reachable state
-/

namespace BingePodcast

open FirebaseService (podcastLimit)

/-! ## What was delivered -/

/-- The handler passed a success to `onCompletion`. -/
def Completion.isSuccess (c : Completion) : Bool :=
  match c.result with
  | some (.ok _) => true
  | _ => false

/-- The episodes passed to `onCompletion` as success. -/
def Completion.episodes (c : Completion) : List Episode :=
  match c.result with
  | some (.ok (some episodes)) => episodes
  | _ => []

/-- The record of a page that was delivered. -/
def Completion.delivered (podcastName : String) (page : Page)
    (documents : List DocumentSnapshot) : Completion :=
  ⟨podcastName, page, documents,
    some (.ok (some (documents.map (Episode.ofDocument podcastName))))⟩

/-- The record of a request that failed. -/
def Completion.failed (podcastName : String) (page : Page) (err : FirestoreError) : Completion :=
  ⟨podcastName, page, [], some (.error err)⟩

/-- The name a first page is asked for. -/
def PagingEvent.fetchedName {κ : Type} : PagingEvent κ → Option String
  | .fetchEpisodeOnPosdcastFirebase podcastName _ => some podcastName
  | _ => none

/-- The names passed to `fetchEpisodeOnPosdcastFirebase`, in order. -/
def fetchedNames {κ : Type} (es : List (PagingEvent κ)) : List String :=
  es.filterMap PagingEvent.fetchedName

/-- `fetchEpisodeOnPosdcastFirebase` is called at most once for each name. -/
def FetchedOnce {κ : Type} (es : List (PagingEvent κ)) : Prop :=
  (fetchedNames es).Nodup

instance {κ : Type} (es : List (PagingEvent κ)) : Decidable (FetchedOnce es) :=
  inferInstanceAs (Decidable (fetchedNames es).Nodup)

/-- `fetchEpisodeOnPosdcastFirebase` is called at most once for `podcastName`. -/
def NameFetchedOnce {κ : Type} (es : List (PagingEvent κ)) (podcastName : String) : Prop :=
  (fetchedNames es).count podcastName ≤ 1

instance {κ : Type} (es : List (PagingEvent κ)) (podcastName : String) :
    Decidable (NameFetchedOnce es podcastName) :=
  inferInstanceAs (Decidable (_ ≤ 1))

namespace Paging

variable {κ : Type} (sys : Paging κ) (podcastName : String)

/-- The answered requests of one podcast, in the order of the answers. -/
def completionsOf : List Completion :=
  sys.completions.filter (·.podcastName == podcastName)

/-- The documents delivered for a podcast. -/
def documentsDelivered : List DocumentSnapshot :=
  (sys.completionsOf podcastName).flatMap (·.documents)

/-- The concatenation of the pages passed to `onCompletion` as success. -/
def episodesDelivered : List Episode :=
  (sys.completionsOf podcastName).flatMap Completion.episodes

/-- The first page of a podcast was delivered. -/
def FirstPageDelivered : Prop :=
  ∃ c ∈ sys.completionsOf podcastName, c.page = .first ∧ c.isSuccess

/-- The number of successful load-more responses. -/
def moreDelivered : Nat :=
  (sys.completionsOf podcastName).countP fun c => c.page == .more && c.isSuccess

/-- A load-more request was answered by an empty page. -/
def Exhausted : Prop :=
  ∃ c ∈ sys.completionsOf podcastName, c.page = .more ∧ c.result = some (.ok (some []))

end Paging

/-! ## One event -/

namespace Paging

variable {κ : Type} {sys sys' : Paging κ} {podcastName : String} {k : κ}

theorem fetchEpisodeOnPosdcastFirebase_eq_ok :
    sys.fetchEpisodeOnPosdcastFirebase podcastName k = .ok sys' ↔
      isCollectionPath podcastName ∧
      sys' = { sys with
        firstPages := sys.firstPages ++ [⟨⟨podcastName, none, some podcastLimit⟩, k⟩] } := by
  simp only [fetchEpisodeOnPosdcastFirebase, FirebaseService.getDocumentsWithLimit,
    Except.bind_eq_ok, FirebaseService.collection_eq_ok, Except.pure_eq_ok, Except.ok.injEq]
  constructor
  · rintro ⟨_, ⟨_, ⟨hpath, rfl⟩, rfl⟩, rfl⟩
    exact ⟨hpath, rfl⟩
  · rintro ⟨hpath, rfl⟩
    exact ⟨_, ⟨_, ⟨hpath, rfl⟩, rfl⟩, rfl⟩

/-- A call of `loadMoreData` is dropped without a cursor or while loading; otherwise it
    raises the flag and issues one request at the cursor. -/
theorem loadMoreData_cases (h : sys.loadMoreData podcastName k = .ok sys') :
    ((sys.service.arrayLastDocument podcastName = none ∨ sys.service.isLoading) ∧ sys' = sys) ∨
    (∃ last, sys.service.arrayLastDocument podcastName = some last ∧
      sys.service.isLoading = false ∧ isCollectionPath podcastName ∧
      sys' = { sys with
        service := { sys.service with isLoading := true }
        loadMores := sys.loadMores ++
          [⟨⟨podcastName, some last, some podcastLimit⟩, k⟩] }) := by
  obtain ⟨⟨service, query⟩, hcall, hsys⟩ := Except.bind_eq_ok.mp h
  obtain rfl := Except.ok.inj hsys
  simp only [FirebaseService.loadMoreData] at hcall
  -- the two guards of the source, then its query
  split at hcall
  · rename_i hcursor
    cases hcall
    exact .inl ⟨.inl hcursor, by simp⟩
  · rename_i last hcursor
    split at hcall
    · rename_i hloading
      cases hcall
      exact .inl ⟨.inr hloading, by simp⟩
    · rename_i hloading
      simp only [Except.bind_eq_ok, FirebaseService.collection_eq_ok, Except.pure_eq_ok] at hcall
      obtain ⟨_, ⟨hpath, rfl⟩, hcall⟩ := hcall
      cases hcall
      exact .inr ⟨last, hcursor, Bool.eq_false_iff.mpr hloading, hpath, rfl⟩

/-- A call of `loadMoreData` that traps does so at the name of its collection. -/
theorem loadMoreData_eq_error {trap : Trap}
    (h : sys.loadMoreData podcastName k = .error trap) : trap = .invalidCollectionPath := by
  rcases Except.bind_eq_error.mp h with hcall | ⟨_, -, hok⟩
  · simp only [FirebaseService.loadMoreData] at hcall
    split at hcall
    · cases hcall
    · split at hcall
      · cases hcall
      · rcases Except.bind_eq_error.mp hcall with hpath | ⟨_, -, hok⟩
        · simp only [FirebaseService.collection] at hpath
          split at hpath
          · cases hpath
          · exact (Except.error.inj hpath).symm
        · cases hok
  · cases hok

variable [DecidableEq κ] {request : PageRequest κ} {response : Response}
variable {result : Option (Result (List Episode))}

/-- A first page that is not empty is delivered and leaves a cursor. -/
theorem firstPageResponse_snapshot {documents : List DocumentSnapshot} {last : DocumentSnapshot}
    (hlast : documents.getLast? = some last) :
    sys.firstPageResponse request (.snapshot documents) =
      .ok ({ sys with
          service := { sys.service with
            arrayLastDocument := Function.update sys.service.arrayLastDocument
              request.query.collection (some last) }
          firstPages := sys.firstPages.erase request
          completions := sys.completions ++
            [.delivered request.query.collection .first documents] },
        some (.ok (some (documents.map (Episode.ofDocument request.query.collection))))) := by
  simp only [firstPageResponse, FirebaseService.fetchEpisodeOnPosdcastCompletion, Response.err,
    Response.querySnapshot, hlast, Except.ok_bind]
  rfl

/-- A first-page request fails, or its page is delivered and leaves a cursor. -/
theorem firstPageResponse_cases
    (h : sys.firstPageResponse request response = .ok (sys', result)) :
    let podcastName := request.query.collection
    (∃ err, response = .error err ∧ result = some (.error err) ∧
      sys' = { sys with
        firstPages := sys.firstPages.erase request
        completions := sys.completions ++ [.failed podcastName .first err] }) ∨
    (∃ documents last, response = .snapshot documents ∧ documents.getLast? = some last ∧
      result = some (.ok (some (documents.map (Episode.ofDocument podcastName)))) ∧
      sys' = { sys with
        service := { sys.service with
          arrayLastDocument :=
            Function.update sys.service.arrayLastDocument podcastName (some last) }
        firstPages := sys.firstPages.erase request
        completions := sys.completions ++ [.delivered podcastName .first documents] }) := by
  cases response with
  | error err =>
    obtain ⟨rfl, rfl⟩ := Prod.mk.inj (Except.ok.inj h)
    exact .inl ⟨err, rfl, rfl, rfl⟩
  | snapshot documents =>
    cases hlast : documents.getLast? with
    | none =>
      -- the force cast of an empty page traps
      obtain rfl := List.getLast?_eq_none_iff.mp hlast
      cases h
    | some last =>
      rw [firstPageResponse_snapshot hlast] at h
      obtain ⟨rfl, rfl⟩ := Prod.mk.inj (Except.ok.inj h)
      exact .inr ⟨documents, last, rfl, hlast, rfl, rfl⟩

theorem loadMoreResponse_error (err : FirestoreError) :
    sys.loadMoreResponse request (.error err) =
      ({ sys with
          service := { sys.service with isLoading := false }
          loadMores := sys.loadMores.erase request
          completions := sys.completions ++ [.failed request.query.collection .more err] },
        some (.error err)) := rfl

theorem loadMoreResponse_snapshot (documents : List DocumentSnapshot) :
    sys.loadMoreResponse request (.snapshot documents) =
      ({ sys with
          service :=
            { arrayLastDocument := Function.update sys.service.arrayLastDocument
                request.query.collection documents.getLast?
              isLoading := false }
          loadMores := sys.loadMores.erase request
          completions := sys.completions ++
            [.delivered request.query.collection .more documents] },
        some (.ok (some (documents.map (Episode.ofDocument request.query.collection))))) := rfl

end Paging

/-! ## The flag -/

/-- `isLoading` is up exactly while a load-more request is in flight, and then there is
    only that one. -/
def LoadingInv {κ : Type} (sys : Paging κ) : Prop :=
  sys.loadMores.length = if sys.service.isLoading then 1 else 0

namespace LoadingInv

variable {κ : Type} {sys sys' : Paging κ}

theorem idle (h : LoadingInv sys) (hloading : sys.service.isLoading = false) :
    sys.loadMores = [] := by
  simpa [LoadingInv, hloading] using h

theorem loading (h : LoadingInv sys) {request : PageRequest κ} (hmem : request ∈ sys.loadMores) :
    sys.service.isLoading = true ∧ sys.loadMores = [request] := by
  have hpos := List.length_pos_of_mem hmem
  rw [LoadingInv] at h
  split at h
  · rename_i hloading
    obtain ⟨r, hr⟩ := List.length_eq_one_iff.mp h
    rw [hr, List.mem_singleton] at hmem
    exact ⟨hloading, by rw [hr, hmem]⟩
  · omega

theorem loadMoreData (h : LoadingInv sys) {podcastName : String} {k : κ}
    (hstep : sys.loadMoreData podcastName k = .ok sys') : LoadingInv sys' := by
  rcases Paging.loadMoreData_cases hstep with ⟨-, rfl⟩ | ⟨last, -, hloading, -, rfl⟩
  · exact h
  · simp [LoadingInv, h.idle hloading]

variable [DecidableEq κ] {request : PageRequest κ} {response : Response}

theorem firstPageResponse (h : LoadingInv sys) {result : Option (Result (List Episode))}
    (hstep : sys.firstPageResponse request response = .ok (sys', result)) :
    LoadingInv sys' := by
  rcases Paging.firstPageResponse_cases hstep with
    ⟨err, -, -, rfl⟩ | ⟨documents, last, -, -, -, rfl⟩ <;> exact h

theorem loadMoreResponse (h : LoadingInv sys) (hmem : request ∈ sys.loadMores)
    (response : Response) : LoadingInv (sys.loadMoreResponse request response).1 := by
  obtain ⟨-, hsingleton⟩ := h.loading hmem
  cases response <;>
    simp [LoadingInv, Paging.loadMoreResponse_error, Paging.loadMoreResponse_snapshot,
      hsingleton]

theorem step (h : LoadingInv sys) {answers : Query → Response → Prop} {e : PagingEvent κ}
    (hen : Paging.Enabled answers sys e) (hstep : sys.step e = .ok sys') :
    LoadingInv sys' := by
  cases e with
  | fetchEpisodeOnPosdcastFirebase podcastName k =>
    obtain ⟨-, rfl⟩ := Paging.fetchEpisodeOnPosdcastFirebase_eq_ok.mp hstep
    exact h
  | loadMoreData podcastName k => exact h.loadMoreData hstep
  | firstPageResponse request response =>
    obtain ⟨⟨sys₁, result⟩, hresponse, heq⟩ := Except.bind_eq_ok.mp hstep
    obtain rfl : sys₁ = sys' := Except.ok.inj heq
    exact h.firstPageResponse hresponse
  | loadMoreResponse request response =>
    obtain rfl := Except.ok.inj hstep
    exact h.loadMoreResponse hen.1 response

end LoadingInv

/-! ## The reader of one podcast -/

@[simp] theorem Completion.isSuccess_delivered (podcastName : String) (page : Page)
    (documents : List DocumentSnapshot) :
    (Completion.delivered podcastName page documents).isSuccess = true := rfl

@[simp] theorem Completion.page_delivered (podcastName : String) (page : Page)
    (documents : List DocumentSnapshot) :
    (Completion.delivered podcastName page documents).page = page := rfl

@[simp] theorem Completion.isSuccess_failed (podcastName : String) (page : Page)
    (err : FirestoreError) : (Completion.failed podcastName page err).isSuccess = false := rfl

@[simp] theorem Completion.episodes_failed (podcastName : String) (page : Page)
    (err : FirestoreError) : (Completion.failed podcastName page err).episodes = [] := rfl

/-- The cursor of a reader that has been given `pages` pages. -/
def readerCursor (documents : List DocumentSnapshot) : Nat → Option DocumentSnapshot
  | 0 => none
  | k + 1 => List.pageCursor podcastLimit documents k

/-- After `pages` successful answers, the answered requests `cs` of a podcast have
    delivered that many pages of its documents and left `cursor`. -/
structure Reads (documents : List DocumentSnapshot) (podcastName : String)
    (cs : List Completion) (cursor : Option DocumentSnapshot) (pages : Nat) : Prop where
  episodes : ∀ c ∈ cs, c.episodes = c.documents.map (Episode.ofDocument podcastName)
  delivered : cs.flatMap (·.documents) = documents.take (podcastLimit * pages)
  cursor_eq : cursor = readerCursor documents pages
  first_iff : (∃ c ∈ cs, c.page = .first ∧ c.isSuccess) ↔ 0 < pages
  more_eq : cs.countP (fun c => c.page == .more && c.isSuccess) = pages - 1
  exhausted_iff : (∃ c ∈ cs, c.page = .more ∧ c.result = some (.ok (some []))) ↔
    1 < pages ∧ documents.length ≤ podcastLimit * (pages - 1)
  nonempty : 0 < pages → documents ≠ []
  bounded : 1 < pages → podcastLimit * (pages - 2) < documents.length

namespace Reads

variable {documents : List DocumentSnapshot} {podcastName : String} {cs : List Completion}
variable {cursor : Option DocumentSnapshot} {pages : Nat}

theorem nil : Reads documents podcastName [] none 0 where
  episodes := by simp
  delivered := by simp
  cursor_eq := rfl
  first_iff := by simp
  more_eq := rfl
  exhausted_iff := by simp
  nonempty := by simp
  bounded := by simp

/-- A failure delivers nothing and leaves the cursor where it was. -/
theorem failed (h : Reads documents podcastName cs cursor pages) (page : Page)
    (err : FirestoreError) :
    Reads documents podcastName (cs ++ [.failed podcastName page err]) cursor pages where
  episodes c hc := by
    rcases List.mem_append.mp hc with hc | hc
    · exact h.episodes c hc
    · rw [List.mem_singleton.mp hc]
      rfl
  delivered := by simp [h.delivered, Completion.failed]
  cursor_eq := h.cursor_eq
  first_iff := by simp [← h.first_iff]
  more_eq := by simp [h.more_eq]
  exhausted_iff := by simp [← h.exhausted_iff, Completion.failed]
  nonempty := h.nonempty
  bounded := h.bounded

/-- The first page starts the reader. -/
theorem first (h : Reads documents podcastName cs cursor 0) {last : DocumentSnapshot}
    (hlast : (documents.take podcastLimit).getLast? = some last) :
    Reads documents podcastName
      (cs ++ [.delivered podcastName .first (documents.take podcastLimit)]) (some last) 1 where
  episodes c hc := by
    rcases List.mem_append.mp hc with hc | hc
    · exact h.episodes c hc
    · rw [List.mem_singleton.mp hc]
      rfl
  delivered := by simp [h.delivered, Completion.delivered]
  cursor_eq := by rw [← hlast, List.getLast?_firstPage]; rfl
  first_iff := by simp [Completion.delivered, Completion.isSuccess]
  more_eq := by simp [h.more_eq]
  exhausted_iff := by simp [h.exhausted_iff, Completion.delivered]
  nonempty _ := by
    rintro rfl
    simp at hlast
  bounded := by simp

/-- Where the reader has a cursor, the next page follows what it has read. -/
theorem page_eq (hnodup : (documents.map DocumentSnapshot.documentID).Nodup)
    {last : DocumentSnapshot} (h : Reads documents podcastName cs (some last) pages) :
    0 < pages ∧ podcastLimit * (pages - 1) < documents.length ∧
      (documents.after (fun d => d.documentID == last.documentID)).take podcastLimit =
        (documents.drop (podcastLimit * pages)).take podcastLimit := by
  have hcursor := h.cursor_eq
  cases pages with
  | zero => cases hcursor
  | succ k =>
    refine ⟨Nat.succ_pos k, ?_, List.take_after_pageCursor hnodup hcursor.symm⟩
    exact (List.pageCursor_isSome_iff (by decide)).mp (by
      rw [Nat.add_sub_cancel]; exact Option.isSome_of_eq_some hcursor.symm)

/-- A further page extends what was read by the documents behind the cursor. -/
theorem more (hnodup : (documents.map DocumentSnapshot.documentID).Nodup)
    {last : DocumentSnapshot} (h : Reads documents podcastName cs (some last) pages)
    {page : List DocumentSnapshot}
    (hpage : page =
      (documents.after (fun d => d.documentID == last.documentID)).take podcastLimit) :
    Reads documents podcastName (cs ++ [.delivered podcastName .more page])
      page.getLast? (pages + 1) := by
  obtain ⟨hpos, hlt, heq⟩ := h.page_eq hnodup
  obtain ⟨k, rfl⟩ : ∃ k, pages = k + 1 := ⟨pages - 1, by omega⟩
  rw [heq] at hpage
  have hempty : page = [] ↔ documents.length ≤ podcastLimit * (k + 1) := by
    rw [hpage, List.take_eq_nil_iff, List.drop_eq_nil_iff]
    simp [podcastLimit]
  -- the reader was not exhausted before, as it had a cursor
  have hbefore : ¬ ∃ c ∈ cs, c.page = .more ∧ c.result = some (.ok (some [])) := by
    rw [h.exhausted_iff]
    omega
  exact {
    episodes := fun c hc => by
      rcases List.mem_append.mp hc with hc | hc
      · exact h.episodes c hc
      · rw [List.mem_singleton.mp hc]
        rfl
    delivered := by
      rw [List.flatMap_append, h.delivered, Nat.mul_succ podcastLimit (k + 1), List.take_add,
        ← hpage]
      simp [Completion.delivered]
    cursor_eq := by rw [hpage, List.getLast?_page]; rfl
    first_iff := by
      obtain ⟨c, hc, hfirst⟩ := h.first_iff.mpr hpos
      exact ⟨fun _ => Nat.succ_pos _, fun _ => ⟨c, List.mem_append_left _ hc, hfirst⟩⟩
    more_eq := by simp [h.more_eq]
    exhausted_iff := by
      constructor
      · rintro ⟨c, hc, hmore, hresult⟩
        rcases List.mem_append.mp hc with hc | hc
        · exact absurd ⟨c, hc, hmore, hresult⟩ hbefore
        · rw [List.mem_singleton.mp hc] at hresult
          exact ⟨by omega, hempty.mp (by simpa [Completion.delivered] using hresult)⟩
      · rintro ⟨_, hle⟩
        refine ⟨_, List.mem_append_right _ (List.mem_singleton_self _), rfl, ?_⟩
        simp [Completion.delivered, hempty.mpr hle]
    nonempty := fun _ => h.nonempty hpos
    bounded := fun _ => hlt }

end Reads

/-! ## The system -/

/-- The requests of one podcast. -/
def requestsOf {κ : Type} (podcastName : String) (requests : List (PageRequest κ)) : Nat :=
  requests.countP (·.query.collection == podcastName)

/-- The answered first-page requests. -/
def Paging.firstPagesAnswered {κ : Type} (sys : Paging κ) (podcastName : String) : Nat :=
  (sys.completionsOf podcastName).countP (·.page == .first)

/-- What holds after the events `es`: the shape of the requests in flight, the flag, and a
    reader for every podcast whose first page was asked for at most once. -/
structure PagingInv {κ : Type} (collections : Collections) (es : List (PagingEvent κ))
    (sys : Paging κ) : Prop where
  firstPages : ∀ request ∈ sys.firstPages, isCollectionPath request.query.collection ∧
    request.query = ⟨request.query.collection, none, some podcastLimit⟩
  loadMores : ∀ request ∈ sys.loadMores, isCollectionPath request.query.collection ∧ ∃ last,
    request.query = ⟨request.query.collection, some last, some podcastLimit⟩ ∧
    (NameFetchedOnce es request.query.collection →
      sys.service.arrayLastDocument request.query.collection = some last)
  isLoading : LoadingInv sys
  paths : ∀ podcastName last, sys.service.arrayLastDocument podcastName = some last →
    isCollectionPath podcastName
  answered : ∀ c ∈ sys.completions, isCollectionPath c.podcastName
  fetched : ∀ podcastName, (fetchedNames es).count podcastName =
    requestsOf podcastName sys.firstPages + sys.firstPagesAnswered podcastName
  reads : ∀ podcastName, NameFetchedOnce es podcastName →
    ∃ pages, Reads (collections podcastName).documents podcastName
      (sys.completionsOf podcastName) (sys.service.arrayLastDocument podcastName) pages

namespace Paging

variable {κ : Type}

/-- A new record belongs to its own podcast only. -/
theorem completionsOf_append (sys : Paging κ) {sys' : Paging κ} {c : Completion}
    (h : sys'.completions = sys.completions ++ [c]) (podcastName : String) :
    sys'.completionsOf podcastName =
      sys.completionsOf podcastName ++ if c.podcastName = podcastName then [c] else [] := by
  by_cases hname : c.podcastName = podcastName <;>
    simp [completionsOf, h, List.filter_append, hname]

end Paging

theorem fetchedNames_append {κ : Type} (es : List (PagingEvent κ)) (e : PagingEvent κ) :
    fetchedNames (es ++ [e]) = fetchedNames es ++ e.fetchedName.toList := by
  cases h : e.fetchedName <;> simp [fetchedNames, h]

theorem FetchedOnce.name {κ : Type} {es : List (PagingEvent κ)} (h : FetchedOnce es)
    (podcastName : String) : NameFetchedOnce es podcastName :=
  List.nodup_iff_count_le_one.mp h podcastName

theorem NameFetchedOnce.of_append {κ : Type} {es : List (PagingEvent κ)} {e : PagingEvent κ}
    {podcastName : String} (h : NameFetchedOnce (es ++ [e]) podcastName) :
    NameFetchedOnce es podcastName := by
  rw [NameFetchedOnce, fetchedNames_append, List.count_append] at h
  exact Nat.le_of_add_right_le h

namespace PagingInv

variable {κ : Type} {collections : Collections} {es : List (PagingEvent κ)}
variable {sys sys' : Paging κ} {podcastName : String} {k : κ}

theorem init : PagingInv collections [] ({} : Paging κ) where
  firstPages := by simp
  loadMores := by simp
  isLoading := rfl
  paths := by simp
  answered := by simp
  fetched := by simp [fetchedNames, requestsOf, Paging.firstPagesAnswered, Paging.completionsOf]
  reads _ _ := ⟨0, Reads.nil⟩

/-- Only the names that first pages were asked for matter. -/
theorem congr {es' : List (PagingEvent κ)} (h : PagingInv collections es sys)
    (hes : fetchedNames es' = fetchedNames es) : PagingInv collections es' sys := by
  have honce : NameFetchedOnce es' = NameFetchedOnce es := by
    funext podcastName
    simp only [NameFetchedOnce, hes]
  exact { h with
    loadMores := honce ▸ h.loadMores
    fetched := hes ▸ h.fetched
    reads := honce ▸ h.reads }

theorem fetchEpisodeOnPosdcastFirebase (h : PagingInv collections es sys)
    (hstep : sys.fetchEpisodeOnPosdcastFirebase podcastName k = .ok sys') :
    PagingInv collections (es ++ [.fetchEpisodeOnPosdcastFirebase podcastName k]) sys' := by
  obtain ⟨hpath, rfl⟩ := Paging.fetchEpisodeOnPosdcastFirebase_eq_ok.mp hstep
  refine { h with
    firstPages := ?_
    loadMores := fun request hrequest => ?_
    fetched := fun name => ?_
    reads := fun name honce => h.reads name honce.of_append }
  · intro request hrequest
    rcases List.mem_append.mp hrequest with hrequest | hrequest
    · exact h.firstPages request hrequest
    · rw [List.mem_singleton.mp hrequest]
      exact ⟨hpath, rfl⟩
  · obtain ⟨hpath, last, hquery, hcursor⟩ := h.loadMores request hrequest
    exact ⟨hpath, last, hquery, fun honce => hcursor honce.of_append⟩
  · have hfetched := h.fetched name
    simp only [fetchedNames_append, PagingEvent.fetchedName, Option.toList_some,
      List.count_append, List.count_singleton, requestsOf, List.countP_append,
      List.countP_singleton] at hfetched ⊢
    simp only [hfetched, Paging.firstPagesAnswered, Paging.completionsOf]
    omega

theorem loadMoreData (h : PagingInv collections es sys)
    (hstep : sys.loadMoreData podcastName k = .ok sys') :
    PagingInv collections (es ++ [.loadMoreData podcastName k]) sys' := by
  have hes : fetchedNames (es ++ [.loadMoreData podcastName k]) = fetchedNames es := by
    simp [fetchedNames_append, PagingEvent.fetchedName]
  rcases Paging.loadMoreData_cases hstep with ⟨_, rfl⟩ | ⟨last, hcursor, hloading, hpath, rfl⟩
  · exact h.congr hes
  · -- nothing was outstanding, so the new request is the only one
    have hnone := h.isLoading.idle hloading
    refine { h.congr hes with
      loadMores := ?_
      isLoading := h.isLoading.loadMoreData hstep }
    intro request hrequest
    rw [hnone, List.nil_append, List.mem_singleton] at hrequest
    rw [hrequest]
    exact ⟨hpath, last, rfl, fun _ => hcursor⟩

/-- While its first page is awaited a podcast has been given no page. -/
theorem pages_eq_zero (h : PagingInv collections es sys) {request : PageRequest κ}
    (honce : NameFetchedOnce es request.query.collection) (hmem : request ∈ sys.firstPages)
    {documents : List DocumentSnapshot} {cursor : Option DocumentSnapshot} {pages : Nat}
    (hreads : Reads documents request.query.collection
      (sys.completionsOf request.query.collection) cursor pages) : pages = 0 := by
  -- the one call for the name is the request in flight, so none was answered
  have hcount := h.fetched request.query.collection
  rw [NameFetchedOnce] at honce
  have hpos : 0 < requestsOf request.query.collection sys.firstPages :=
    List.countP_pos_iff.mpr ⟨request, hmem, by simp⟩
  have hanswered : sys.firstPagesAnswered request.query.collection = 0 := by omega
  by_contra hne
  obtain ⟨c, hc, hfirst, _⟩ := hreads.first_iff.mpr (Nat.pos_of_ne_zero hne)
  exact absurd (by simpa using hfirst) (List.countP_eq_zero.mp hanswered c hc)

/-- First pages are asked for at the paths of collections. -/
theorem path_of_fetched (h : PagingInv collections es sys)
    (hmem : podcastName ∈ fetchedNames es) : isCollectionPath podcastName := by
  have hpos := List.count_pos_iff.mpr hmem
  rw [h.fetched] at hpos
  -- the call is still in flight or was answered
  rcases Nat.add_pos_iff_pos_or_pos.mp hpos with hrequested | hanswered
  · obtain ⟨request, hrequest, hname⟩ := List.countP_pos_iff.mp hrequested
    exact eq_of_beq hname ▸ (h.firstPages request hrequest).1
  · obtain ⟨c, hc, -⟩ := List.countP_pos_iff.mp hanswered
    obtain ⟨hc, hname⟩ := List.mem_filter.mp hc
    exact eq_of_beq hname ▸ h.answered c hc

/-- The record of an answer to a collection that exists. -/
private theorem answered_append (h : PagingInv collections es sys) {c : Completion}
    (hpath : isCollectionPath c.podcastName) :
    ∀ c' ∈ sys.completions ++ [c], isCollectionPath c'.podcastName := by
  intro c' hc'
  rcases List.mem_append.mp hc' with hc' | hc'
  · exact h.answered c' hc'
  · rwa [List.mem_singleton.mp hc']

section Responses

variable [DecidableEq κ] {request : PageRequest κ} {response : Response}
variable {result : Option (Result (List Episode))}

/-- The counts that `fetched` compares: answering a first-page request moves it from the
    requests in flight to the answered ones. -/
private theorem fetched_firstPageResponse (h : PagingInv collections es sys)
    (hmem : request ∈ sys.firstPages) {c : Completion}
    (hname : c.podcastName = request.query.collection) (hpage : c.page = .first)
    (hfirstPages : sys'.firstPages = sys.firstPages.erase request)
    (hcompletions : sys'.completions = sys.completions ++ [c]) (name : String) :
    (fetchedNames (es ++ [.firstPageResponse request response])).count name =
      requestsOf name sys'.firstPages + sys'.firstPagesAnswered name := by
  have hfetched := h.fetched name
  have herase : requestsOf name sys'.firstPages =
      requestsOf name sys.firstPages - if request.query.collection = name then 1 else 0 := by
    simp [hfirstPages, requestsOf, List.countP_erase, hmem]
  simp only [fetchedNames_append, PagingEvent.fetchedName, Option.toList_none, List.append_nil,
    Paging.firstPagesAnswered, Paging.completionsOf_append sys hcompletions, List.countP_append,
    herase, hname] at hfetched ⊢
  split
  · rename_i heq
    have hpos : 0 < requestsOf name sys.firstPages :=
      List.countP_pos_iff.mpr ⟨request, hmem, by simpa using heq⟩
    simp only [List.countP_singleton, hpage, beq_self_eq_true, if_true]
    omega
  · simpa using hfetched

theorem firstPageResponse (h : PagingInv collections es sys) (hmem : request ∈ sys.firstPages)
    (hanswer : collections.Answers request.query response)
    (hstep : sys.firstPageResponse request response = .ok (sys', result)) :
    PagingInv collections (es ++ [.firstPageResponse request response]) sys' := by
  have herased : ∀ r ∈ sys.firstPages.erase request, r ∈ sys.firstPages :=
    fun r hr => List.mem_of_mem_erase hr
  rcases Paging.firstPageResponse_cases hstep with
    ⟨err, rfl, -, rfl⟩ | ⟨documents, last, rfl, hlast, -, rfl⟩
  · refine { h with
      firstPages := fun r hr => h.firstPages r (herased r hr)
      loadMores := fun r hr => ?_
      answered := h.answered_append (h.firstPages request hmem).1
      fetched := h.fetched_firstPageResponse hmem rfl rfl rfl rfl
      reads := fun name honce => ?_ }
    · obtain ⟨hpath, last, hquery, hcursor⟩ := h.loadMores r hr
      exact ⟨hpath, last, hquery, fun honce => hcursor honce.of_append⟩
    obtain ⟨pages, hreads⟩ := h.reads name honce.of_append
    refine ⟨pages, ?_⟩
    rw [Paging.completionsOf_append sys rfl]
    split
    · rename_i heq
      obtain rfl : request.query.collection = name := heq
      exact hreads.failed .first err
    · simpa using hreads
  · obtain ⟨hpath, hquery⟩ := h.firstPages request hmem
    -- the answer is the first page of the collection
    have hdocuments : documents =
        (collections request.query.collection).documents.take podcastLimit := by
      rw [Collections.Answers, hquery] at hanswer
      exact hanswer
    -- a podcast whose first page is asked for once has been given nothing so far
    have hunread : NameFetchedOnce es request.query.collection →
        Reads (collections request.query.collection).documents request.query.collection
          (sys.completionsOf request.query.collection)
          (sys.service.arrayLastDocument request.query.collection) 0 := by
      intro honce
      obtain ⟨pages, hreads⟩ := h.reads request.query.collection honce
      obtain rfl := h.pages_eq_zero honce hmem hreads
      exact hreads
    refine ⟨fun r hr => h.firstPages r (herased r hr), ?_, h.isLoading, ?_,
      h.answered_append hpath, h.fetched_firstPageResponse hmem rfl rfl rfl rfl, ?_⟩
    · -- the podcast had no cursor, so no load-more request of it is in flight
      intro r hr
      obtain ⟨hrpath, last', hr, hcursor⟩ := h.loadMores r hr
      refine ⟨hrpath, last', hr, fun honce => ?_⟩
      have hne : r.query.collection ≠ request.query.collection := by
        intro heq
        have hcursor := hcursor honce.of_append
        rw [heq, (hunread (heq ▸ honce.of_append)).cursor_eq] at hcursor
        cases hcursor
      simpa [Function.update_of_ne hne] using hcursor honce.of_append
    · intro name last' hcursor
      by_cases heq : name = request.query.collection
      · exact heq ▸ hpath
      · exact h.paths name last' (by simpa [Function.update_of_ne heq] using hcursor)
    · intro name honce
      rw [Paging.completionsOf_append sys rfl]
      by_cases heq : request.query.collection = name
      · subst heq
        simp only [Completion.delivered, if_true, Function.update_self]
        exact ⟨1, hdocuments ▸ (hunread honce.of_append).first (hdocuments ▸ hlast)⟩
      · simp only [Completion.delivered, heq, if_false, List.append_nil,
          Function.update_of_ne (Ne.symm heq)]
        exact h.reads name honce.of_append

theorem loadMoreResponse (h : PagingInv collections es sys) (hmem : request ∈ sys.loadMores)
    (hanswer : collections.Answers request.query response) :
    PagingInv collections (es ++ [.loadMoreResponse request response])
      (sys.loadMoreResponse request response).1 := by
  obtain ⟨-, hsingleton⟩ := h.isLoading.loading hmem
  have hloading := h.isLoading.loadMoreResponse hmem response
  have hes : fetchedNames (es ++ [.loadMoreResponse request response]) = fetchedNames es := by
    simp [fetchedNames_append, PagingEvent.fetchedName]
  obtain ⟨hpath, last, hquery, hcursor⟩ := h.loadMores request hmem
  have hempty : sys.loadMores.erase request = [] := by simp [hsingleton]
  -- a load-more answer is no first-page answer
  have hfetched : ∀ (sys' : Paging κ) (c : Completion), c.page = .more →
      sys'.firstPages = sys.firstPages → sys'.completions = sys.completions ++ [c] →
      ∀ name, (fetchedNames (es ++ [.loadMoreResponse request response])).count name =
        requestsOf name sys'.firstPages + sys'.firstPagesAnswered name := by
    intro sys' c hpage hfirstPages hcompletions name
    rw [hes, h.fetched name, hfirstPages, Paging.firstPagesAnswered, Paging.firstPagesAnswered,
      Paging.completionsOf_append sys hcompletions]
    split <;> simp [hpage]
  cases response with
  | error err =>
    rw [Paging.loadMoreResponse_error] at hloading ⊢
    refine ⟨h.firstPages, by simp [hempty], hloading, h.paths,
      h.answered_append hpath, hfetched _ _ rfl rfl rfl, fun name honce => ?_⟩
    obtain ⟨pages, hreads⟩ := h.reads name honce.of_append
    refine ⟨pages, ?_⟩
    rw [Paging.completionsOf_append sys rfl]
    split
    · rename_i heq
      obtain rfl : request.query.collection = name := heq
      exact hreads.failed .more err
    · simpa using hreads
  | snapshot documents =>
    rw [Paging.loadMoreResponse_snapshot] at hloading ⊢
    -- the answer is what follows the cursor in the collection
    have hdocuments : documents = ((collections request.query.collection).documents.after
        fun d => d.documentID == last.documentID).take podcastLimit := by
      rw [Collections.Answers, hquery] at hanswer
      exact hanswer
    refine ⟨h.firstPages, by simp [hempty], hloading, ?_,
      h.answered_append hpath, hfetched _ _ rfl rfl rfl, fun name honce => ?_⟩
    · intro name last' hlast'
      by_cases heq : name = request.query.collection
      · exact heq ▸ hpath
      · exact h.paths name last' (by simpa [Function.update_of_ne heq] using hlast')
    · rw [Paging.completionsOf_append sys rfl]
      by_cases heq : request.query.collection = name
      · subst heq
        obtain ⟨pages, hreads⟩ := h.reads request.query.collection honce.of_append
        rw [hcursor honce.of_append] at hreads
        simp only [Completion.delivered, if_true, Function.update_self]
        exact ⟨pages + 1, hreads.more (collections _).nodup hdocuments⟩
      · simp only [Completion.delivered, heq, if_false, List.append_nil,
          Function.update_of_ne (Ne.symm heq)]
        exact h.reads name honce.of_append

end Responses

end PagingInv

/-- The invariant holds at the end of every run. -/
theorem pagingInv_of_run {κ : Type} [DecidableEq κ] {collections : Collections}
    {es : List (PagingEvent κ)} {sys : Paging κ}
    (h : (Paging.machine κ collections.Answers).Run es sys) : PagingInv collections es sys := by
  induction h with
  | nil => exact PagingInv.init
  | @snoc es sys sys' e hrun hen hstep hinv =>
    cases e with
    | fetchEpisodeOnPosdcastFirebase podcastName k =>
      exact hinv.fetchEpisodeOnPosdcastFirebase hstep
    | loadMoreData podcastName k => exact hinv.loadMoreData hstep
    | firstPageResponse request response =>
      obtain ⟨⟨sys₁, result⟩, hresponse, heq⟩ := Except.bind_eq_ok.mp hstep
      obtain rfl : sys₁ = sys' := Except.ok.inj heq
      exact hinv.firstPageResponse hen.1 hen.2 hresponse
    | loadMoreResponse request response =>
      obtain rfl := Except.ok.inj hstep
      exact hinv.loadMoreResponse hen.1 hen.2

/-! ## Every reachable state -/

namespace Reads

variable {documents : List DocumentSnapshot} {podcastName : String} {cs : List Completion}
variable {cursor : Option DocumentSnapshot} {pages : Nat}

/-- The episodes delivered are the documents delivered, decoded. -/
theorem flatMap_episodes (h : Reads documents podcastName cs cursor pages) :
    cs.flatMap Completion.episodes =
      (cs.flatMap (·.documents)).map (Episode.ofDocument podcastName) := by
  rw [List.map_flatMap]
  exact List.flatMap_congr fun c hc => h.episodes c hc

/-- The cursor is the last document delivered. -/
theorem getLast?_of_cursor {last : DocumentSnapshot}
    (h : Reads documents podcastName cs (some last) pages) :
    (cs.flatMap (·.documents)).getLast? = some last := by
  rw [h.delivered]
  cases pages with
  | zero => cases h.cursor_eq
  | succ k => exact List.getLast?_take_of_pageCursor h.cursor_eq.symm

/-- There is no cursor before the first page and after an empty one. -/
theorem cursor_eq_none_iff (h : Reads documents podcastName cs cursor pages) :
    cursor = none ↔ (¬ ∃ c ∈ cs, c.page = .first ∧ c.isSuccess) ∨
      ∃ c ∈ cs, c.page = .more ∧ c.result = some (.ok (some [])) := by
  rw [h.first_iff, h.exhausted_iff, h.cursor_eq]
  cases pages with
  | zero => simp [readerCursor]
  | succ k =>
    -- after `k + 1` pages the cursor is gone once `k` pages hold everything
    rw [readerCursor, List.pageCursor_eq_none_iff (by decide)]
    have hnonempty := List.length_pos_iff.mpr (h.nonempty (Nat.succ_pos k))
    simp only [podcastLimit]
    omega

/-- An empty page comes after the last document. -/
theorem delivered_of_exhausted (h : Reads documents podcastName cs cursor pages)
    (hexhausted : ∃ c ∈ cs, c.page = .more ∧ c.result = some (.ok (some []))) :
    cs.flatMap (·.documents) = documents := by
  obtain ⟨hlt, hle⟩ := h.exhausted_iff.mp hexhausted
  rw [h.delivered, List.take_of_length_le]
  simp only [podcastLimit] at hle ⊢
  omega

end Reads

/-- What paging guarantees in a state, for every podcast. -/
structure PagingSound {κ : Type} [DecidableEq κ] (collections : Collections)
    (sys : Paging κ) : Prop where
  /-- The delivered documents begin the podcast's collection, without gap or repetition. -/
  documents : ∀ podcastName,
    sys.documentsDelivered podcastName <+: (collections podcastName).documents
  /-- The pages passed to `onCompletion` are the delivered documents, mapped in order. -/
  episodes : ∀ podcastName, sys.episodesDelivered podcastName =
    (sys.documentsDelivered podcastName).map (Episode.ofDocument podcastName)
  /-- A cursor is the last document delivered. -/
  cursor : ∀ podcastName last, sys.service.arrayLastDocument podcastName = some last →
    (sys.documentsDelivered podcastName).getLast? = some last
  /-- A cursor is missing exactly before the first page and after an empty page. -/
  noCursor : ∀ podcastName, sys.service.arrayLastDocument podcastName = none ↔
    ¬ sys.FirstPageDelivered podcastName ∨ sys.Exhausted podcastName
  /-- After an empty page the whole collection has been delivered. -/
  exhausted : ∀ podcastName, sys.Exhausted podcastName →
    sys.documentsDelivered podcastName = (collections podcastName).documents
  /-- An error leaves all cursors unchanged. -/
  error : ∀ request err sys',
    Paging.step sys (.firstPageResponse request (.error err)) = .ok sys' ∨
      Paging.step sys (.loadMoreResponse request (.error err)) = .ok sys' →
    sys'.service.arrayLastDocument = sys.service.arrayLastDocument
  /-- The flag is up exactly while a load-more request is outstanding. -/
  isLoading : sys.service.isLoading = true ↔ sys.loadMores.length = 1
  /-- There is never more than one load-more request outstanding. -/
  outstanding : sys.loadMores.length ≤ 1

theorem PagingInv.sound {κ : Type} [DecidableEq κ] {collections : Collections}
    {es : List (PagingEvent κ)} {sys : Paging κ} (h : PagingInv collections es sys)
    (honce : FetchedOnce es) : PagingSound collections sys where
  documents podcastName := by
    obtain ⟨pages, hreads⟩ := h.reads podcastName (honce.name podcastName)
    rw [Paging.documentsDelivered, hreads.delivered]
    exact List.take_prefix _ _
  episodes podcastName := by
    obtain ⟨pages, hreads⟩ := h.reads podcastName (honce.name podcastName)
    exact hreads.flatMap_episodes
  cursor podcastName last hcursor := by
    obtain ⟨pages, hreads⟩ := h.reads podcastName (honce.name podcastName)
    exact (hcursor ▸ hreads).getLast?_of_cursor
  noCursor podcastName := by
    obtain ⟨pages, hreads⟩ := h.reads podcastName (honce.name podcastName)
    exact hreads.cursor_eq_none_iff
  exhausted podcastName hexhausted := by
    obtain ⟨pages, hreads⟩ := h.reads podcastName (honce.name podcastName)
    exact hreads.delivered_of_exhausted hexhausted
  error request err sys' := by
    rintro (hstep | hstep)
    · obtain ⟨⟨sys₁, result⟩, hresponse, heq⟩ := Except.bind_eq_ok.mp hstep
      obtain rfl : sys₁ = sys' := Except.ok.inj heq
      rcases Paging.firstPageResponse_cases hresponse with
        ⟨err, -, -, rfl⟩ | ⟨documents, last, hsnapshot, -⟩
      · rfl
      · cases hsnapshot
    · obtain rfl := Except.ok.inj hstep
      rfl
  isLoading := by
    have hlength := h.isLoading
    rw [LoadingInv] at hlength
    rw [hlength]
    split <;> simp [*]
  outstanding := by
    have hlength := h.isLoading
    rw [LoadingInv] at hlength
    rw [hlength]
    split <;> simp

/-- Paging loses and repeats nothing: in every state reached by a run that asks for each
    first page at most once, whatever the order of calls, pages and errors. -/
theorem paging_loses_and_repeats_nothing {κ : Type} [DecidableEq κ] (collections : Collections)
    {es : List (PagingEvent κ)} {sys : Paging κ}
    (h : (Paging.machine κ collections.Answers).Run es sys) (honce : FetchedOnce es) :
    PagingSound collections sys :=
  (pagingInv_of_run h).sound honce

/-- The document of an episode whose total time is no string. -/
def documentOf (documentID title : String) : DocumentSnapshot :=
  ⟨documentID, [("title", .string title), ("subtitle", .string "x"), ("totalTime", .other)]⟩

/-- Two documents under the name `"A"`, none elsewhere. -/
def twoDocuments : Collections := fun name =>
  if name = "A" then ⟨[documentOf "1" "Pilot", documentOf "2" "Finale"], by decide⟩
  else ⟨[], List.nodup_nil⟩

/-- The first page, a failed and an empty load-more page. -/
def readToTheEnd : List (PagingEvent Unit) :=
  let more : PageRequest Unit := ⟨⟨"A", some (documentOf "2" "Finale"), some 5⟩, ()⟩
  [.fetchEpisodeOnPosdcastFirebase "A" (),
    .firstPageResponse ⟨⟨"A", none, some 5⟩, ()⟩
      (.snapshot [documentOf "1" "Pilot", documentOf "2" "Finale"]),
    .loadMoreData "A" (), .loadMoreResponse more (.error ⟨"offline"⟩),
    .loadMoreData "A" (), .loadMoreResponse more (.snapshot [])]

theorem paging_loses_and_repeats_nothing_readToTheEnd :
    ∃ sys, (Paging.machine Unit twoDocuments.Answers).Run readToTheEnd sys ∧
      PagingSound twoDocuments sys ∧
      (sys.episodesDelivered "A").map (·.title) = [some "Pilot", some "Finale"] ∧
      (sys.episodesDelivered "A").map (·.totalTime) = [none, none] :=
  have hrun := Machine.run_of_replay (Paging.machine Unit twoDocuments.Answers) readToTheEnd
    (by decide)
  ⟨_, hrun, paging_loses_and_repeats_nothing twoDocuments hrun (by decide), by decide, by decide⟩

end BingePodcast
