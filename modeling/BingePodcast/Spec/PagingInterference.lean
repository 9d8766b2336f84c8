import BingePodcast.Spec.PagingCorrect

/-!
# What the podcasts share

`arrayLastDocument` is kept per podcast, `isLoading` is not. `PodcastView` is the service
as one podcast sees it: a reader that is told, at each of its `loadMoreData` calls, whether
another podcast is loading. The service refines one such reader per podcast
(`Paging.view_step`), so podcasts influence one another through that bit and nothing else.

## Key results

- `Paging.view_step_of_other`: the events of other podcasts leave the view alone
- `Paging.view_step`: the events of the podcast move the view as `PodcastView.next` says
- `podcasts_interfere_only_through_isLoading`: two runs with the same calls, answers and
  bits for a podcast agree on its requests and its episodes
- `podcasts_interfere`: without the bits they need not
-/

namespace BingePodcast

open FirebaseService (podcastLimit)

variable {κ : Type}

/-- A call or an answer as the podcast concerned sees it. -/
inductive PagingInput (κ : Type) where
  | fetchEpisodeOnPosdcastFirebase (onCompletion : κ)
  | loadMoreData (onCompletion : κ)
  | firstPageResponse (onCompletion : κ) (response : Response)
  | loadMoreResponse (onCompletion : κ) (response : Response)
deriving DecidableEq, Repr

/-- The call or answer an event is for `podcastName`, if any. -/
def PagingEvent.inputOf (podcastName : String) : PagingEvent κ → Option (PagingInput κ)
  | .fetchEpisodeOnPosdcastFirebase name k =>
    if name = podcastName then some (.fetchEpisodeOnPosdcastFirebase k) else none
  | .loadMoreData name k => if name = podcastName then some (.loadMoreData k) else none
  | .firstPageResponse request response =>
    if request.query.collection = podcastName then
      some (.firstPageResponse request.onCompletion response)
    else none
  | .loadMoreResponse request response =>
    if request.query.collection = podcastName then
      some (.loadMoreResponse request.onCompletion response)
    else none

namespace Paging

/-- A load-more request of another podcast is outstanding. -/
def othersLoading (sys : Paging κ) (podcastName : String) : Bool :=
  sys.loadMores.any (·.query.collection != podcastName)

/-- The calls and answers of a podcast. -/
def input (podcastName : String) (_ : Paging κ) (e : PagingEvent κ) : Option (PagingInput κ) :=
  e.inputOf podcastName

/-- The calls and answers of a podcast, a call of `loadMoreData` together with whether
    another podcast is loading. -/
def gatedInput (podcastName : String) (sys : Paging κ) (e : PagingEvent κ) :
    Option (PagingInput κ × Bool) :=
  (e.inputOf podcastName).map fun
    | .loadMoreData k => (.loadMoreData k, sys.othersLoading podcastName)
    | i => (i, false)

/-- What a call of `loadMoreData` for a podcast does: the cursor of the request it issues,
    or `none` if it issues no request. -/
def callOutcome (podcastName : String) (sys : Paging κ) :
    PagingEvent κ → Option (Option DocumentSnapshot)
  | .loadMoreData name _ =>
    if name = podcastName then
      match sys.service.loadMoreData podcastName with
      | .ok (_, some query) => some query.startAfter
      | _ => some none
    else none
  | _ => none

end Paging

/-! ## The service as one podcast sees it -/

/-- A podcast's cursor, the number of its outstanding load-more requests and the record of
    its answered requests. -/
structure PodcastView where
  cursor : Option DocumentSnapshot
  outstanding : Nat
  completions : List Completion

namespace PodcastView

/-- The cursor at which a call of `loadMoreData` issues a request. -/
def issue (view : PodcastView) (othersLoading : Bool) : Option DocumentSnapshot :=
  if view.outstanding = 0 ∧ othersLoading = false then view.cursor else none

/-- A call or an answer, together with whether another podcast is loading. -/
def next (podcastName : String) (view : PodcastView) : PagingInput κ × Bool → PodcastView
  | (.fetchEpisodeOnPosdcastFirebase _, _) => view
  | (.loadMoreData _, othersLoading) =>
    if (view.issue othersLoading).isSome then { view with outstanding := 1 } else view
  | (.firstPageResponse _ (.error err), _) =>
    { view with completions := view.completions ++ [.failed podcastName .first err] }
  | (.firstPageResponse _ (.snapshot documents), _) =>
    { view with
      cursor := documents.getLast?
      completions := view.completions ++ [.delivered podcastName .first documents] }
  | (.loadMoreResponse _ (.error err), _) =>
    { view with
      outstanding := 0
      completions := view.completions ++ [.failed podcastName .more err] }
  | (.loadMoreResponse _ (.snapshot documents), _) =>
    { cursor := documents.getLast?
      outstanding := 0
      completions := view.completions ++ [.delivered podcastName .more documents] }

/-- The outcome of a call. -/
def outcome (view : PodcastView) : PagingInput κ × Bool → Option (Option DocumentSnapshot)
  | (.loadMoreData _, othersLoading) => some (view.issue othersLoading)
  | _ => none

end PodcastView

namespace Paging

/-- The service as `podcastName` sees it. -/
def view (sys : Paging κ) (podcastName : String) : PodcastView where
  cursor := sys.service.arrayLastDocument podcastName
  outstanding := requestsOf podcastName sys.loadMores
  completions := sys.completionsOf podcastName

/-- The flag is up if the podcast itself or another one is loading. -/
theorem isLoading_eq_false_iff {sys : Paging κ} (h : LoadingInv sys) (podcastName : String) :
    sys.service.isLoading = false ↔
      requestsOf podcastName sys.loadMores = 0 ∧ sys.othersLoading podcastName = false := by
  constructor
  · intro hloading
    simp [h.idle hloading, requestsOf, othersLoading]
  · rintro ⟨hown, hothers⟩
    -- with the flag up the one request in flight is the podcast's own or another's
    by_contra hne
    rw [LoadingInv, if_pos (Bool.of_not_eq_false hne)] at h
    obtain ⟨r, hr⟩ := List.length_eq_one_iff.mp h
    simp [hr, requestsOf, othersLoading] at hown hothers
    exact hown hothers

/-- A call of `loadMoreData` issues a request at the cursor if nobody is loading. -/
theorem issue_view {sys : Paging κ} (hloading : LoadingInv sys) (podcastName : String) :
    (sys.view podcastName).issue (sys.othersLoading podcastName) =
      if sys.service.isLoading then none else sys.service.arrayLastDocument podcastName := by
  have hiff : sys.service.isLoading = false ↔
      (sys.view podcastName).outstanding = 0 ∧ sys.othersLoading podcastName = false :=
    isLoading_eq_false_iff hloading podcastName
  rw [PodcastView.issue]
  cases hflag : sys.service.isLoading with
  | true =>
    have hbusy : ¬ ((sys.view podcastName).outstanding = 0 ∧
        sys.othersLoading podcastName = false) := by simp [← hiff, hflag]
    rw [if_neg hbusy, if_pos rfl]
  | false => rw [if_pos (hiff.mp hflag), if_neg Bool.false_ne_true]; rfl

variable [DecidableEq κ] {answers : Query → Response → Prop} {sys sys' : Paging κ}
variable {e : PagingEvent κ} {podcastName : String}

/-- The events of other podcasts leave the view of a podcast alone. -/
theorem view_step_of_other (h : e.inputOf podcastName = none) (hstep : sys.step e = .ok sys') :
    sys'.view podcastName = sys.view podcastName := by
  cases e with
  | fetchEpisodeOnPosdcastFirebase name k =>
    obtain ⟨-, rfl⟩ := fetchEpisodeOnPosdcastFirebase_eq_ok.mp hstep
    rfl
  | loadMoreData name k =>
    have hne : name ≠ podcastName := by simpa [PagingEvent.inputOf] using h
    rcases loadMoreData_cases hstep with ⟨-, rfl⟩ | ⟨last, -, -, -, rfl⟩
    · rfl
    · simp [view, requestsOf, hne, completionsOf]
  | firstPageResponse request response =>
    have hne : request.query.collection ≠ podcastName := by simpa [PagingEvent.inputOf] using h
    obtain ⟨⟨sys₁, result⟩, hresponse, heq⟩ := Except.bind_eq_ok.mp hstep
    obtain rfl : sys₁ = sys' := Except.ok.inj heq
    rcases firstPageResponse_cases hresponse with
      ⟨err, -, -, rfl⟩ | ⟨documents, last, -, -, -, rfl⟩ <;>
    · rw [view, completionsOf_append sys rfl]
      simp [view, Completion.failed, Completion.delivered, hne, Function.update_of_ne hne.symm]
  | loadMoreResponse request response =>
    have hne : request.query.collection ≠ podcastName := by simpa [PagingEvent.inputOf] using h
    obtain rfl := Except.ok.inj hstep
    -- the flag falls, but the view does not see it
    have herase : requestsOf podcastName (sys.loadMores.erase request) =
        requestsOf podcastName sys.loadMores := by
      simp [requestsOf, List.countP_erase, hne]
    cases response with
    | error err =>
      rw [loadMoreResponse_error, view, completionsOf_append sys rfl]
      simp [view, Completion.failed, hne, herase]
    | snapshot documents =>
      rw [loadMoreResponse_snapshot, view, completionsOf_append sys rfl]
      simp [view, Completion.delivered, hne, herase, Function.update_of_ne hne.symm]

/-- The calls and answers of a podcast move its view as `PodcastView.next` says, and a call
    of `loadMoreData` issues the request the view issues. -/
theorem view_step {l : PagingInput κ × Bool} (hloading : LoadingInv sys)
    (hen : Enabled answers sys e) (hstep : sys.step e = .ok sys')
    (hl : gatedInput podcastName sys e = some l) :
    sys'.view podcastName = (sys.view podcastName).next podcastName l ∧
      callOutcome podcastName sys e = (sys.view podcastName).outcome l := by
  cases e with
  | fetchEpisodeOnPosdcastFirebase name k =>
    obtain ⟨-, rfl⟩ := fetchEpisodeOnPosdcastFirebase_eq_ok.mp hstep
    simp only [gatedInput, PagingEvent.inputOf, Option.map_eq_some_iff] at hl
    obtain ⟨i, hi, rfl⟩ := hl
    split at hi
    · obtain rfl := Option.some.inj hi
      exact ⟨rfl, rfl⟩
    · cases hi
  | loadMoreData name k =>
    simp only [gatedInput, PagingEvent.inputOf, Option.map_eq_some_iff] at hl
    obtain ⟨i, hi, rfl⟩ := hl
    split at hi
    · rename_i hname
      subst hname
      obtain rfl := Option.some.inj hi
      have hissue := issue_view hloading name
      rcases loadMoreData_cases hstep with ⟨hdropped, heq⟩ | ⟨last, hcursor, hidle, hpath, rfl⟩
      · -- a dropped call: the view issues no request either
        have hnone : (sys.view name).issue (sys.othersLoading name) = none := by
          rw [hissue]
          rcases hdropped with hcursor | hflag
          · simp [hcursor]
          · simp [hflag]
        refine ⟨by simp [heq, PodcastView.next, hnone], ?_⟩
        simp only [callOutcome, PodcastView.outcome, hnone, FirebaseService.loadMoreData, if_true]
        rcases hdropped with hcursor | hflag
        · simp [hcursor]
        · cases hcursor : sys.service.arrayLastDocument name <;> simp [hflag]
      · -- a call that goes through: nobody was loading, so the view issues it too
        have hsome : (sys.view name).issue (sys.othersLoading name) = some last := by
          simp [hissue, hidle, hcursor]
        have hnone := hloading.idle hidle
        constructor
        · rw [PodcastView.next, hsome, Option.isSome_some, if_pos rfl]
          simp [view, hnone, requestsOf, completionsOf]
        · simp [callOutcome, PodcastView.outcome, hsome, FirebaseService.loadMoreData, hcursor,
            hidle, FirebaseService.collection, hpath]
    · cases hi
  | firstPageResponse request response =>
    simp only [gatedInput, PagingEvent.inputOf, Option.map_eq_some_iff] at hl
    obtain ⟨i, hi, rfl⟩ := hl
    split at hi
    · rename_i hname
      subst hname
      obtain rfl := Option.some.inj hi
      refine ⟨?_, rfl⟩
      obtain ⟨⟨sys₁, result⟩, hresponse, heq⟩ := Except.bind_eq_ok.mp hstep
      obtain rfl : sys₁ = sys' := Except.ok.inj heq
      rcases firstPageResponse_cases hresponse with
        ⟨err, rfl, -, rfl⟩ | ⟨documents, last, rfl, hlast, -, rfl⟩
      · rw [view, completionsOf_append sys rfl]
        simp [PodcastView.next, view, Completion.failed]
      · rw [view, completionsOf_append sys rfl]
        simp [PodcastView.next, view, Completion.delivered, hlast]
    · cases hi
  | loadMoreResponse request response =>
    simp only [gatedInput, PagingEvent.inputOf, Option.map_eq_some_iff] at hl
    obtain ⟨i, hi, rfl⟩ := hl
    split at hi
    · rename_i hname
      subst hname
      obtain rfl := Option.some.inj hi
      refine ⟨?_, rfl⟩
      obtain rfl := Except.ok.inj hstep
      -- the request answered is the only one in flight
      obtain ⟨-, hsingleton⟩ := hloading.loading hen.1
      cases response with
      | error err =>
        rw [loadMoreResponse_error, view, completionsOf_append sys rfl]
        simp [PodcastView.next, view, Completion.failed, hsingleton, requestsOf]
      | snapshot documents =>
        rw [loadMoreResponse_snapshot, view, completionsOf_append sys rfl]
        simp [PodcastView.next, view, Completion.delivered, hsingleton, requestsOf]
    · cases hi

omit [DecidableEq κ] in
theorem gatedInput_eq_none_iff :
    gatedInput podcastName sys e = none ↔ e.inputOf podcastName = none := by
  simp [gatedInput]

omit [DecidableEq κ] in
theorem callOutcome_eq_none (h : e.inputOf podcastName = none) :
    callOutcome podcastName sys e = none := by
  cases e <;> simp_all [callOutcome, PagingEvent.inputOf]

end Paging

/-! ## Two runs -/

/-- Podcasts interfere only through `isLoading`. In two runs with the same calls and answers
    for a podcast, and the same answers at its `loadMoreData` calls to whether another
    podcast is loading, these calls issue the same requests, the same episodes are delivered
    for the podcast and the same cursor is left. What happens to other podcasts is
    arbitrary, and so are the answers of Firestore. -/
theorem podcasts_interfere_only_through_isLoading [DecidableEq κ]
    (answers : Query → Response → Prop) (podcastName : String)
    {es₁ es₂ : List (PagingEvent κ)} {sys₁ sys₂ : Paging κ}
    (h₁ : (Paging.machine κ answers).Run es₁ sys₁) (h₂ : (Paging.machine κ answers).Run es₂ sys₂)
    (hinput : (Paging.machine κ answers).trace (Paging.gatedInput podcastName) es₁ =
      (Paging.machine κ answers).trace (Paging.gatedInput podcastName) es₂) :
    (Paging.machine κ answers).trace (Paging.callOutcome podcastName) es₁ =
        (Paging.machine κ answers).trace (Paging.callOutcome podcastName) es₂ ∧
      sys₁.episodesDelivered podcastName = sys₂.episodesDelivered podcastName ∧
      sys₁.service.arrayLastDocument podcastName = sys₂.service.arrayLastDocument podcastName := by
  -- the two runs stay in states that look alike to the podcast
  have hunwind := Machine.Run.unwind (M := Paging.machine κ answers)
    (Paging.gatedInput podcastName) (Paging.callOutcome podcastName)
    (R := fun sys sys' => LoadingInv sys ∧ LoadingInv sys' ∧
      sys.view podcastName = sys'.view podcastName)
    ⟨rfl, rfl, rfl⟩ ?left ?right ?both h₁ h₂ hinput
  case left =>
    rintro s e t u hen hst hnone ⟨hs, hu, hview⟩
    rw [Paging.gatedInput_eq_none_iff] at hnone
    exact ⟨Paging.callOutcome_eq_none hnone, hs.step hen hst, hu,
      (Paging.view_step_of_other hnone hst).trans hview⟩
  case right =>
    rintro s e t u hen hst hnone ⟨hu, hs, hview⟩
    rw [Paging.gatedInput_eq_none_iff] at hnone
    exact ⟨Paging.callOutcome_eq_none hnone, hu, hs.step hen hst,
      hview.trans (Paging.view_step_of_other hnone hst).symm⟩
  case both =>
    rintro s e t s' e' t' l hen hst hen' hst' hl hl' ⟨hs, hs', hview⟩
    obtain ⟨hnext, hout⟩ := Paging.view_step hs hen hst hl
    obtain ⟨hnext', hout'⟩ := Paging.view_step hs' hen' hst' hl'
    exact ⟨by rw [hout, hout', hview], hs.step hen hst, hs'.step hen' hst',
      by rw [hnext, hnext', hview]⟩
  obtain ⟨houtcome, -, -, hview⟩ := hunwind
  refine ⟨houtcome, ?_, congrArg PodcastView.cursor hview⟩
  have hcompletions := congrArg PodcastView.completions hview
  exact congrArg (List.flatMap Completion.episodes) hcompletions

/-- One document under `"A"` and one under `"B"`. -/
def twoPodcasts : Collections := fun name =>
  if name = "A" then ⟨[⟨"a", []⟩], List.nodup_singleton "a"⟩
  else if name = "B" then ⟨[⟨"b", []⟩], List.nodup_singleton "b"⟩
  else ⟨[], List.nodup_nil⟩

/-- The first page of `podcastName`, whose only document is `document`. -/
def loadFirstPage (podcastName : String) (document : DocumentSnapshot) :
    List (PagingEvent Unit) :=
  [.fetchEpisodeOnPosdcastFirebase podcastName (),
    .firstPageResponse ⟨⟨podcastName, none, some 5⟩, ()⟩ (.snapshot [document])]

/-- `"B"` is opened and asked for more. -/
def onlyB : List (PagingEvent Unit) :=
  loadFirstPage "B" ⟨"b", []⟩ ++ [.loadMoreData "B" ()]

/-- The same for `"B"`, after `"A"` was opened. -/
def behindA : List (PagingEvent Unit) :=
  loadFirstPage "A" ⟨"a", []⟩ ++ onlyB

/-- The same for `"B"`, while `"A"` is loading more. -/
def whileALoads : List (PagingEvent Unit) :=
  loadFirstPage "A" ⟨"a", []⟩ ++ loadFirstPage "B" ⟨"b", []⟩ ++
    [.loadMoreData "A" (), .loadMoreData "B" ()]

theorem podcasts_interfere_only_through_isLoading_behindA :
    (Paging.machine Unit twoPodcasts.Answers).trace (Paging.callOutcome "B") onlyB =
      (Paging.machine Unit twoPodcasts.Answers).trace (Paging.callOutcome "B") behindA :=
  (podcasts_interfere_only_through_isLoading twoPodcasts.Answers "B"
    (Machine.run_of_replay _ onlyB (by decide))
    (Machine.run_of_replay _ behindA (by decide)) (by decide)).1

/-- Podcasts interfere: with the same calls and answers for `"B"`, its call of
    `loadMoreData` issues a request in one run and is dropped in the other. -/
theorem podcasts_interfere :
    (∃ sys, (Paging.machine Unit twoPodcasts.Answers).Run onlyB sys) ∧
    (∃ sys, (Paging.machine Unit twoPodcasts.Answers).Run whileALoads sys) ∧
    (Paging.machine Unit twoPodcasts.Answers).trace (Paging.input "B") onlyB =
      (Paging.machine Unit twoPodcasts.Answers).trace (Paging.input "B") whileALoads ∧
    (Paging.machine Unit twoPodcasts.Answers).trace (Paging.callOutcome "B") onlyB =
      [some ⟨"b", []⟩] ∧
    (Paging.machine Unit twoPodcasts.Answers).trace (Paging.callOutcome "B") whileALoads =
      [none] :=
  ⟨⟨_, Machine.run_of_replay _ _ (by decide)⟩, ⟨_, Machine.run_of_replay _ _ (by decide)⟩,
    by decide, by decide, by decide⟩

end BingePodcast
