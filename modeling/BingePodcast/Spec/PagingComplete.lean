import BingePodcast.Spec.PagingCorrect
import Mathlib.Algebra.Order.Floor.Div
import Mathlib.Algebra.Order.Ring.Nat

/-!
# Paging reaches the end

A collection of `n` documents is read by its first page and `n ⌈/⌉ 5` successful load-more
answers, the last of which is empty and takes the cursor away. What they deliver is what
an unpaged read of the collection delivers.

## Key results

- `Reads.pages_le`: a reader is given at most `n ⌈/⌉ 5 + 1` pages
- `paging_reaches_the_end`: before the last answer every free `loadMoreData` call issues a
  request, after it none does and the collection is complete
-/

namespace BingePodcast

open FirebaseService (podcastLimit)

/-- Within its collection the unpaged read delivers the document at the index. -/
theorem fetchOneEpisodeFirebase_eq (collections : Collections) {podcast : String}
    (hpath : isCollectionPath podcast) {i : Nat}
    (hi : i < (collections podcast).documents.length) :
    fetchOneEpisodeFirebase collections podcast i =
      .ok (some (.ok (some (Episode.ofDocument podcast (collections podcast).documents[i])))) := by
  have hquery : FirebaseService.getDocuments podcast = .ok ⟨podcast, none, none⟩ := by
    simp [FirebaseService.getDocuments, FirebaseService.collection, hpath]
  simp [fetchOneEpisodeFirebase, hquery, FirebaseService.fetchOneEpisodeCompletion,
    Query.documents, element_ofNat hi]

namespace Reads

variable {documents : List DocumentSnapshot} {podcastName : String} {cs : List Completion}
variable {cursor : Option DocumentSnapshot} {pages : Nat}

/-- The reader has a cursor exactly when pages are left. -/
theorem cursor_isSome_iff (h : Reads documents podcastName cs cursor pages) (hpos : 0 < pages) :
    cursor.isSome ↔ pages - 1 < documents.length ⌈/⌉ podcastLimit := by
  obtain ⟨k, rfl⟩ : ∃ k, pages = k + 1 := ⟨pages - 1, by omega⟩
  rw [h.cursor_eq, readerCursor, List.pageCursor_isSome_iff (by decide), Nat.add_sub_cancel,
    ← not_le, ← not_le, ceilDiv_le_iff_le_mul (by decide)]

/-- A reader is given no page after an empty one. -/
theorem pages_le (h : Reads documents podcastName cs cursor pages) :
    pages - 1 ≤ documents.length ⌈/⌉ podcastLimit := by
  rcases Nat.lt_or_ge 1 pages with hlt | hle
  · have hbounded := h.bounded hlt
    rw [← not_le, ← ceilDiv_le_iff_le_mul (by decide)] at hbounded
    omega
  · omega

/-- After the last page everything has been delivered. -/
theorem delivered_of_le (h : Reads documents podcastName cs cursor pages)
    (hle : documents.length ⌈/⌉ podcastLimit ≤ pages - 1) :
    cs.flatMap (·.documents) = documents := by
  rw [ceilDiv_le_iff_le_mul (by decide)] at hle
  rw [h.delivered, List.take_of_length_le]
  exact hle.trans (Nat.mul_le_mul_left _ (Nat.sub_le _ _))

end Reads

namespace PagingInv

variable {κ : Type} {collections : Collections} {es : List (PagingEvent κ)} {sys : Paging κ}
variable {podcastName : String}

/-- Without a cursor a call of `loadMoreData` changes nothing: it issues no request. -/
theorem loadMoreData_eq_self (hcursor : sys.service.arrayLastDocument podcastName = none)
    (k : κ) : sys.loadMoreData podcastName k = .ok sys := by
  simp [Paging.loadMoreData, FirebaseService.loadMoreData, hcursor]

/-- With a cursor and nothing outstanding, a call of `loadMoreData` issues a request. -/
theorem loadMoreData_eq_request (h : PagingInv collections es sys) {last : DocumentSnapshot}
    (hcursor : sys.service.arrayLastDocument podcastName = some last)
    (hidle : sys.loadMores = []) (k : κ) :
    sys.loadMoreData podcastName k = .ok { sys with
      service := { sys.service with isLoading := true }
      loadMores := [⟨⟨podcastName, some last, some podcastLimit⟩, k⟩] } := by
  have hloading : sys.service.isLoading = false := by
    have hlength := h.isLoading
    rw [LoadingInv, hidle] at hlength
    by_contra hne
    simp [Bool.eq_true_of_not_eq_false hne] at hlength
  simp [Paging.loadMoreData, FirebaseService.loadMoreData, FirebaseService.collection, hcursor,
    hloading, h.paths podcastName last hcursor, hidle]

end PagingInv

namespace Paging

variable {κ : Type} [DecidableEq κ] {answers : Query → Response → Prop}
variable {es es' : List (PagingEvent κ)} {sys sys' : Paging κ}

/-- The record of answered requests only grows. -/
theorem completions_prefix_of_step {e : PagingEvent κ} (h : sys.step e = .ok sys') :
    sys.completions <+: sys'.completions := by
  cases e with
  | fetchEpisodeOnPosdcastFirebase podcastName k =>
    obtain ⟨-, rfl⟩ := fetchEpisodeOnPosdcastFirebase_eq_ok.mp h
    exact List.prefix_refl _
  | loadMoreData podcastName k =>
    rcases loadMoreData_cases h with ⟨-, rfl⟩ | ⟨last, -, -, -, rfl⟩ <;>
      exact List.prefix_refl _
  | firstPageResponse request response =>
    obtain ⟨⟨sys₁, result⟩, hresponse, heq⟩ := Except.bind_eq_ok.mp h
    obtain rfl : sys₁ = sys' := Except.ok.inj heq
    rcases firstPageResponse_cases hresponse with
      ⟨err, -, -, rfl⟩ | ⟨documents, last, -, -, -, rfl⟩ <;> exact List.prefix_append _ _
  | loadMoreResponse request response =>
    -- a record is appended for a page and for an error
    obtain rfl := Except.ok.inj h
    cases response <;> exact List.prefix_append _ _

/-- What a podcast was given stays given. -/
theorem completionsOf_prefix (h : (machine κ answers).Run es sys)
    (h' : (machine κ answers).Run (es ++ es') sys') (podcastName : String) :
    sys.completionsOf podcastName <+: sys'.completionsOf podcastName := by
  have hprefix : sys.completions <+: sys'.completions :=
    Machine.Run.advance (r := fun s t => s.completions <+: t.completions)
      (fun _ => List.prefix_refl _) (fun _ _ _ => List.IsPrefix.trans)
      (fun _ _ _ _ => completions_prefix_of_step) h h'
  exact hprefix.filter _

end Paging

/-- Paging reaches the end. Once the first page of a non-empty collection was delivered:
    there are at most `n ⌈/⌉ 5` successful load-more answers; before the last of them a call
    of `loadMoreData` with nothing outstanding issues a request; after it there is no
    cursor, the delivered pages are the collection, episode by episode what
    `fetchOneEpisodeFirebase` delivers, and no later call issues a request. -/
theorem paging_reaches_the_end {κ : Type} [DecidableEq κ] (collections : Collections)
    {es : List (PagingEvent κ)} {sys : Paging κ}
    (h : (Paging.machine κ collections.Answers).Run es sys) (podcastName : String)
    (honce : NameFetchedOnce es podcastName) (hfirst : sys.FirstPageDelivered podcastName) :
    let documents := (collections podcastName).documents
    let answers := documents.length ⌈/⌉ 5
    sys.moreDelivered podcastName ≤ answers ∧
    (sys.moreDelivered podcastName < answers → sys.loadMores = [] →
      ∀ k, ∃ last, sys.service.arrayLastDocument podcastName = some last ∧
        sys.loadMoreData podcastName k = .ok { sys with
          service := { sys.service with isLoading := true }
          loadMores := [⟨⟨podcastName, some last, some 5⟩, k⟩] }) ∧
    (sys.moreDelivered podcastName = answers →
      sys.service.arrayLastDocument podcastName = none ∧
      sys.episodesDelivered podcastName = documents.map (Episode.ofDocument podcastName) ∧
      (∀ i < documents.length, fetchOneEpisodeFirebase collections podcastName i =
        .ok (some (.ok (sys.episodesDelivered podcastName)[i]?))) ∧
      ∀ es' sys', (Paging.machine κ collections.Answers).Run (es ++ es') sys' →
        NameFetchedOnce (es ++ es') podcastName → ∀ k, sys'.loadMoreData podcastName k = .ok sys') := by
  intro documents answers
  have hinv := pagingInv_of_run h
  obtain ⟨pages, hreads⟩ := hinv.reads podcastName honce
  have hpos : 0 < pages := hreads.first_iff.mp hfirst
  have hmore : sys.moreDelivered podcastName = pages - 1 := hreads.more_eq
  refine ⟨hmore ▸ hreads.pages_le, fun hlt hidle k => ?_, fun heq => ?_⟩
  · obtain ⟨last, hlast⟩ := Option.isSome_iff_exists.mp
      ((hreads.cursor_isSome_iff hpos).mpr (hmore ▸ hlt))
    exact ⟨last, hlast, hinv.loadMoreData_eq_request hlast hidle k⟩
  · -- this holds of the reader now and of the reader at the end of any longer run
    have hend : ∀ {pages cs cursor}, Reads documents podcastName cs cursor pages →
        0 < pages → answers ≤ pages - 1 → cursor = none := by
      intro pages cs cursor hreads hpos hle
      rw [← Option.not_isSome_iff_eq_none, hreads.cursor_isSome_iff hpos]
      exact not_lt.mpr hle
    have hepisodes : sys.episodesDelivered podcastName =
        documents.map (Episode.ofDocument podcastName) := by
      rw [Paging.episodesDelivered, hreads.flatMap_episodes,
        hreads.delivered_of_le (hmore ▸ heq.ge)]
    refine ⟨hend hreads hpos (by omega), hepisodes, fun i hi => ?_, fun es' sys' h' honce' k => ?_⟩
    · -- the name is a path, as its first page was delivered
      obtain ⟨c, hc, -⟩ := hfirst
      obtain ⟨hc, hname⟩ := List.mem_filter.mp hc
      have hpath : isCollectionPath podcastName := by
        rw [← eq_of_beq hname]
        exact hinv.answered c hc
      rw [fetchOneEpisodeFirebase_eq collections hpath hi, hepisodes, List.getElem?_map,
        List.getElem?_eq_getElem hi, Option.map_some]
    · -- later states have at least as many answers, and at most `answers`
      obtain ⟨pages', hreads'⟩ := (pagingInv_of_run h').reads podcastName honce'
      have hprefix := Paging.completionsOf_prefix h h' podcastName
      have hpos' : 0 < pages' := by
        rw [← hreads'.first_iff]
        obtain ⟨c, hc, hfirst⟩ := hfirst
        exact ⟨c, hprefix.subset hc, hfirst⟩
      have hle : pages - 1 ≤ pages' - 1 := by
        rw [← hreads.more_eq, ← hreads'.more_eq]
        exact hprefix.sublist.countP_le
      exact PagingInv.loadMoreData_eq_self (hend hreads' hpos' (by omega)) k

theorem paging_reaches_the_end_readToTheEnd :
    ∃ sys, (Paging.machine Unit twoDocuments.Answers).Run readToTheEnd sys ∧
      sys.service.arrayLastDocument "A" = none ∧
      sys.episodesDelivered "A" =
        [⟨some "Pilot", some "x", none, none, none, none, some "A"⟩,
          ⟨some "Finale", some "x", none, none, none, none, some "A"⟩] :=
  have hrun := Machine.run_of_replay (Paging.machine Unit twoDocuments.Answers) readToTheEnd
    (by decide)
  have hend := (paging_reaches_the_end twoDocuments hrun "A" (by decide)
    ⟨_, .head _, rfl, rfl⟩).2.2 rfl
  ⟨_, hrun, hend.1, hend.2.1.trans (by decide)⟩

end BingePodcast
