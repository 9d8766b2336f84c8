import BingePodcast.Spec.FavoritesGrouped
import BingePodcast.Spec.FavoritesTaps

/-!
# The list of favourites

The list page reads the store when it appears and when a player that it has presented is
dismissed, never in between, and so not when the player of the tab bar is dismissed over it.
This file says what it displays in every run, and when that is still what the store holds.

## Key results

- `FavoritePage.Displays`: a page that has fetched displays its table or its message
- `favorites_never_trap`: no selection in a list traps
- `list_is_fresh`: a page that nothing covers lists the store, if no player of its own was
  dismissed, and the page did not appear, before the taps had reached the store, and if the
  player of the tab bar was not tapped over it
- `list_shows_taps`: such a page lists an episode by how often it was tapped, in any players
-/

namespace BingePodcast

/-! ## What a page displays -/

namespace FavoritePage

variable {page : FavoritePage} {enumeration : Enumeration} {result : List EpisodeSaved}
variable {fetch : CoreDataManager.Fetch}

/-- A page of favourites has its table or its message in view, once it has appeared, and its
    table has counted the episodes of its groups, none of which is empty. -/
structure Displays (page : FavoritePage) (appeared : Bool) : Prop where
  status : page.status = .favorite
  sectionRows : page.sectionRows = page.page.podcastSaved.map (·.episode.length)
  episode_ne_nil : ∀ group ∈ page.page.podcastSaved, group.episode ≠ []
  subviews : page.subviews =
      (if page.page.podcastSaved = [] then [.viewEmptyMessage] else [.tableViewEpisode]) ∨
    appeared = false ∧ page.page.podcastSaved = [] ∧ page.subviews = []

theorem Displays.mono {appeared appeared' : Bool} (h : Displays page appeared)
    (happeared : appeared' = true → appeared = true) : Displays page appeared' where
  status := h.status
  sectionRows := h.sectionRows
  episode_ne_nil := h.episode_ne_nil
  subviews := h.subviews.imp_right fun ⟨hnot, hsaved, hview⟩ =>
    ⟨Bool.eq_false_iff.mpr fun htrue => by simp [happeared htrue] at hnot, hsaved, hview⟩

theorem episode_ne_nil_of_fetch (enumeration : Enumeration) (fetch : CoreDataManager.Fetch) :
    ∀ group ∈ CoreDataManager.fetchFavoriteEpisode enumeration.enumerated fetch,
      group.episode ≠ [] := by
  cases fetch with
  | none => simp [CoreDataManager.fetchFavoriteEpisode]
  | some result =>
    intro group hgroup
    obtain ⟨-, -, hne⟩ :=
      (CoreDataManager.mem_fetchFavoriteEpisode_iff enumeration.coe_enumerated).mp hgroup
    exact hne

@[simp] theorem page_fetchFavoriteEpisode (page : FavoritePage) (enumeration : Enumeration)
    (fetch : CoreDataManager.Fetch) :
    (page.fetchFavoriteEpisode enumeration fetch).page =
      .fetchFavoriteEpisode enumeration.enumerated fetch := by
  simp only [fetchFavoriteEpisode, checkIfEmptyTableView]
  split <;> rfl

/-- A fetch, also one that throws, leaves the table or the message in view. -/
theorem Displays.fetchFavoriteEpisode {appeared : Bool} (h : Displays page appeared)
    (enumeration : Enumeration) (fetch : CoreDataManager.Fetch) :
    Displays (page.fetchFavoriteEpisode enumeration fetch) true where
  status := by
    simp only [FavoritePage.fetchFavoriteEpisode, checkIfEmptyTableView]
    split <;> exact h.status
  sectionRows := by
    simp only [FavoritePage.fetchFavoriteEpisode, checkIfEmptyTableView]
    split <;> rfl
  episode_ne_nil := by
    rw [page_fetchFavoriteEpisode]
    exact episode_ne_nil_of_fetch enumeration fetch
  subviews := by
    refine .inl ?_
    rw [page_fetchFavoriteEpisode]
    simp only [FavoritePage.fetchFavoriteEpisode, checkIfEmptyTableView, reloadData,
      List.isEmpty_iff]
    -- whatever was in view before, one of the two takes its place
    have hsubviews : page.subviews = [] ∨ page.subviews = [.viewEmptyMessage] ∨
        page.subviews = [.tableViewEpisode] := by
      cases h.subviews with
      | inl hview =>
        split at hview
        · exact .inr (.inl hview)
        · exact .inr (.inr hview)
      | inr hnone => exact .inl hnone.2.2
    split
    · simp only [emptyViewMessage, addSubview, removeFromSuperview]
      obtain hview | hview | hview := hsubviews <;> rw [hview] <;> rfl
    · simp only [initTableView, addSubview, removeFromSuperview]
      obtain hview | hview | hview := hsubviews <;> rw [hview] <;> rfl

end FavoritePage

namespace Favorites

variable {ι : Type} [DecidableEq ι] {objects : Finset ManagedObject}
variable {favorites favorites' : Favorites ι} {es : List (FavoritesEvent ι)} {e : FavoritesEvent ι}
variable {player : ι} {opened : OpenedPlayer}

/-! ## Selections -/

/-- The fetch of the list page that an event makes. -/
def listFetch (favorites : Favorites ι) :
    FavoritesEvent ι → Option (Enumeration × Option (List ManagedObject))
  | .viewWillAppear enumeration fetch => some (enumeration, fetch)
  | .dismiss enumeration fetch =>
    if favorites.transitioningDelegate = some .pageListFavorite then some (enumeration, fetch)
    else none
  | .viewDidDisappear | .didSelectRowAt _ _ | .openPlayer _ | .deinit _ | .playerWillAppear
  | .actionPressFavoriteButton | .clickBegins _ | .checkCalls _ _ | .clickCalls _ _ _ _
  | .checkResumes _ _ | .clickResumes _ _ => none

/-- The list page has presented the player that covers it. -/
def Presents (favorites : Favorites ι) : Prop :=
  favorites.presented ≠ none ∧ favorites.transitioningDelegate = some .pageListFavorite

omit [DecidableEq ι] in
theorem not_presents_of_presented (h : favorites.presented = none) : ¬ favorites.Presents :=
  fun hpresents => hpresents.1 h

/-- An event fetches for the list page, or leaves it alone. -/
theorem list_step (hstatus : favorites.list.status = .favorite) (hen : Enabled favorites e)
    (hstep : favorites.step e = .ok favorites') :
    match favorites.listFetch e with
    | some (enumeration, fetch) =>
      favorites'.list = favorites.list.fetchFavoriteEpisode enumeration (fetchedRows fetch) ∧
        favorites'.managers = favorites.managers ∧ favorites'.players = favorites.players
    | none => favorites'.list = favorites.list ∧
        (favorites'.onDisplay = true → favorites.onDisplay = true ∧
          (¬ favorites'.Presents → ¬ favorites.Presents)) := by
  cases e with
  | viewWillAppear enumeration fetch =>
    obtain rfl := Except.ok.inj hstep
    simp [listFetch, FavoritePage.viewWillAppear, hstatus]
  | viewDidDisappear =>
    obtain rfl := Except.ok.inj hstep
    simp [listFetch]
  | didSelectRowAt player selection =>
    obtain ⟨controller, -, hreturn⟩ := Except.bind_eq_ok.mp hstep
    obtain rfl := Except.ok.inj hreturn
    exact ⟨rfl, fun hdisplay => ⟨hdisplay, fun _ => not_presents_of_presented hen.1⟩⟩
  | openPlayer player =>
    obtain rfl := Except.ok.inj hstep
    exact ⟨rfl, fun hdisplay => ⟨hdisplay, fun _ => not_presents_of_presented hen.1⟩⟩
  | dismiss enumeration fetch =>
    obtain rfl := Except.ok.inj hstep
    -- only a player that the page has presented makes it fetch
    by_cases hdelegate : favorites.transitioningDelegate = some .pageListFavorite
    · simp [listFetch, animationController, hdelegate]
    · rw [listFetch, if_neg hdelegate]
      refine ⟨?_, fun hdisplay => ⟨hdisplay, fun _ hpresents => hdelegate hpresents.2⟩⟩
      simp only [animationController]
      split
      · contradiction
      · rfl
      · rfl
  | deinit player =>
    obtain rfl := Except.ok.inj hstep
    exact ⟨rfl, fun hdisplay => ⟨hdisplay, id⟩⟩
  | playerWillAppear =>
    obtain rfl := Except.ok.inj hstep
    simp only [listFetch, start]
    split <;> exact ⟨rfl, fun hdisplay => ⟨hdisplay, id⟩⟩
  | actionPressFavoriteButton =>
    obtain rfl := Except.ok.inj hstep
    simp only [listFetch, start]
    split <;> exact ⟨rfl, fun hdisplay => ⟨hdisplay, id⟩⟩
  | clickBegins player =>
    obtain rfl := Except.ok.inj hstep
    exact ⟨rfl, fun hdisplay => ⟨hdisplay, id⟩⟩
  | checkCalls player fetch =>
    obtain rfl := Except.ok.inj hstep
    exact ⟨rfl, fun hdisplay => ⟨hdisplay, id⟩⟩
  | clickCalls player favorite fetch saved =>
    simp only [step] at hstep
    split at hstep <;> (obtain rfl := Except.ok.inj hstep; exact ⟨rfl, fun hdisplay => ⟨hdisplay, id⟩⟩)
  | checkResumes player found =>
    obtain rfl := Except.ok.inj hstep
    exact ⟨rfl, fun hdisplay => ⟨hdisplay, id⟩⟩
  | clickResumes player favorite =>
    obtain rfl := Except.ok.inj hstep
    exact ⟨rfl, fun hdisplay => ⟨hdisplay, id⟩⟩

theorem displays_of_run (h : (machine ι objects).Run es favorites) :
    favorites.list.Displays favorites.onDisplay := by
  refine h.invariant (I := fun favorites => favorites.list.Displays favorites.onDisplay)
    ⟨rfl, rfl, by simp [machine], .inr ⟨rfl, rfl, rfl⟩⟩ ?_
  intro favorites e favorites' hdisplays hen hstep
  have hlist := list_step hdisplays.status hen hstep
  split at hlist
  · rename_i enumeration fetch heq
    rw [hlist.1]
    exact (hdisplays.fetchFavoriteEpisode enumeration _).mono fun _ => rfl
  · rw [hlist.1]
    exact hdisplays.mono fun hdisplay => (hlist.2 hdisplay).1

/-- An access within the bounds succeeds. -/
theorem exists_element {α : Type} {xs : List α} {i : ℤ} (hpos : 0 ≤ i) (hlt : i < xs.length) :
    ∃ x, element xs i = .ok x := by
  cases helement : element xs i with
  | ok x => exact ⟨x, rfl⟩
  | error trap =>
    have hrange := (element_eq_error.mp helement).2
    omega

omit [DecidableEq ι] in
/-- A selection in a list that can be selected from opens an episode of the list. -/
theorem exists_controller (hdisplays : favorites.list.Displays favorites.onDisplay)
    {selection : EpisodeSelection} (hselect : favorites.CanSelect selection) :
    ∃ controller, selection.didSelectRowAt = .ok controller ∧
      (favorites.onDisplay = true →
        ∃ group ∈ favorites.list.page.podcastSaved, ∃ episode ∈ group.episode,
          controller.titlePodcast = episode.title ∧
          controller.subtitlePodcast = episode.subtitle) := by
  cases selection with
  | favorite page sectionIndex row =>
    obtain ⟨-, rfl, -, rows, hrows, hsection, hrow, hlt⟩ := hselect
    rw [hdisplays.sectionRows, List.getElem?_map, Option.mem_def, Option.map_eq_some_iff] at hrows
    obtain ⟨group', hgroup', rfl⟩ := hrows
    have hbound := (List.getElem?_eq_some_iff.mp hgroup').1
    obtain ⟨group, hgroup⟩ := exists_element hsection (by omega :
      sectionIndex < favorites.list.page.podcastSaved.length)
    -- the group that the table has counted is the group of the access
    have hsame : group' = group := by
      have haccess := element_ofNat hbound
      rw [Int.toNat_of_nonneg hsection, hgroup, Except.ok.injEq] at haccess
      rw [haccess]
      exact (List.getElem?_eq_some_iff.mp hgroup').2.symm
    subst hsame
    obtain ⟨episode, hepisode⟩ := exists_element hrow hlt
    refine ⟨_, by simp only [EpisodeSelection.didSelectRowAt, PageListFavorite.didSelectRowAt,
      hgroup, Except.ok_bind, hepisode]; rfl, fun _ => ?_⟩
    exact ⟨group', mem_of_element hgroup, episode, mem_of_element hepisode, rfl, rfl⟩
  | podcast page index =>
    obtain ⟨hdisplay, hpos, hlt⟩ := hselect
    obtain ⟨episode, hepisode⟩ := exists_element hpos hlt
    exact ⟨_, by simp only [EpisodeSelection.didSelectRowAt, PageListPodcast.didSelectRowAt,
      hepisode]; rfl, fun htrue => by simp [hdisplay] at htrue⟩

/-- An enabled event does not trap. -/
theorem exists_step (hdisplays : favorites.list.Displays favorites.onDisplay)
    (hen : Enabled favorites e) : ∃ favorites', favorites.step e = .ok favorites' := by
  cases e with
  | didSelectRowAt player selection =>
    obtain ⟨controller, hopens, -⟩ := exists_controller hdisplays hen.2.2
    exact ⟨_, by simp only [step, hopens]; rfl⟩
  | clickCalls player favorite fetch saved =>
    simp only [step]
    split <;> exact ⟨_, rfl⟩
  | _ => exact ⟨_, rfl⟩

end Favorites

/-- No event of the app traps: in every run, a page of favourites on display has either its
    table or its message in view, by whether its last fetch has found anything, the table has
    no empty section, and a selection at one of the rows that the table has counted, like
    every other event, succeeds. -/
theorem favorites_never_trap {ι : Type} [DecidableEq ι] (objects : Finset ManagedObject)
    {es : List (FavoritesEvent ι)} {favorites : Favorites ι}
    (h : (Favorites.machine ι objects).Run es favorites) :
    (favorites.onDisplay = true → favorites.list.subviews =
      if favorites.list.page.podcastSaved = [] then [.viewEmptyMessage]
      else [.tableViewEpisode]) ∧
    (∀ rows ∈ favorites.list.sectionRows, 0 < rows) ∧
    ∀ e, Favorites.Enabled favorites e → ∃ favorites', favorites.step e = .ok favorites' := by
  have hdisplays := Favorites.displays_of_run h
  refine ⟨fun hdisplay => ?_, fun rows hrows => ?_, fun e => Favorites.exists_step hdisplays⟩
  · refine hdisplays.subviews.resolve_right fun hnone => ?_
    simp [hdisplay] at hnone
  · rw [hdisplays.sectionRows, List.mem_map] at hrows
    obtain ⟨group, hgroup, rfl⟩ := hrows
    exact List.length_pos_of_ne_nil (hdisplays.episode_ne_nil group hgroup)

/-- A fetch that has found something lists something. -/
theorem fetchFavoriteEpisode_ne_nil (enumeration : Enumeration) {result : List EpisodeSaved}
    (hne : result ≠ []) :
    CoreDataManager.fetchFavoriteEpisode enumeration.enumerated (some result) ≠ [] := by
  intro hnil
  have hepisodes := CoreDataManager.flatMap_fetchFavoriteEpisode enumeration.coe_enumerated
    (show ((result : List EpisodeSaved) : Multiset EpisodeSaved) = result from rfl)
  rw [hnil, Multiset.map_coe] at hepisodes
  exact hne (List.map_eq_nil_iff.mp ((Multiset.coe_eq_zero _).mp hepisodes.symm))

theorem favorites_never_trap_appears :
    ∃ favorites, (Favorites.machine Bool {⟨0, savedOfB⟩}).Run
        [.viewWillAppear .toList (some [⟨0, savedOfB⟩])] favorites ∧
      favorites.list.subviews = [.tableViewEpisode] := by
  have hrun := Machine.run_of_replay (Favorites.machine Bool {⟨0, savedOfB⟩})
    [.viewWillAppear .toList (some [⟨0, savedOfB⟩])] (by decide)
  refine ⟨_, hrun, ((favorites_never_trap {⟨0, savedOfB⟩} hrun).1 (by decide)).trans ?_⟩
  refine if_neg fun hnil => ?_
  have hpage := FavoritePage.page_fetchFavoriteEpisode { status := .favorite } .toList (some [savedOfB])
  exact fetchFavoriteEpisode_ne_nil .toList (List.cons_ne_nil savedOfB [])
    ((congrArg PageListFavorite.podcastSaved hpage).symm.trans hnil)

namespace Favorites

variable {ι : Type} {objects : Finset ManagedObject}
variable {favorites favorites' : Favorites ι} {es : List (FavoritesEvent ι)} {e : FavoritesEvent ι}
variable {player : ι} {opened : OpenedPlayer}

/-! ## Freshness -/

/-- No tap is on its way to the store. -/
def Settled (favorites : Favorites ι) : Prop :=
  ∀ player, ∀ opened ∈ favorites.players player, ¬ opened.Pending

/-- The list page fetches only when no tap is on its way to the store, and with success. Over
    a page on display, only players that it has presented are tapped. -/
def Patient (favorites : Favorites ι) (e : FavoritesEvent ι) : Prop :=
  (∀ x ∈ favorites.listFetch e, x.2.isSome ∧ favorites.Settled) ∧
    ∀ episode ∈ favorites.pressed e, favorites.onDisplay = true → favorites.Presents

instance [Fintype ι] (favorites : Favorites ι) : Decidable favorites.Settled :=
  inferInstanceAs (Decidable (∀ _, ∀ _ ∈ _, ¬ _))

instance (favorites : Favorites ι) : Decidable favorites.Presents :=
  inferInstanceAs (Decidable (_ ≠ _ ∧ _ = _))

instance [Fintype ι] (favorites : Favorites ι) (e : FavoritesEvent ι) :
    Decidable (favorites.Patient e) :=
  inferInstanceAs (Decidable ((∀ _ ∈ _, _ = _ ∧ Settled _) ∧ ∀ _ ∈ _, _ = _ → Presents _))

/-- The page lists what the store holds, in some order. -/
def ListsStore (favorites : Favorites ι) : Prop :=
  ∃ (enumeration : Enumeration) (result : List ManagedObject),
    (result : Multiset ManagedObject) = favorites.managers.contexts.store.val ∧
    favorites.list.page =
      .fetchFavoriteEpisode enumeration.enumerated (some (result.map ManagedObject.row))

/-- A page on display lists the store, and no tap is on its way there, unless a player that the
    page has presented covers it. -/
def Fresh (favorites : Favorites ι) : Prop :=
  favorites.onDisplay = true → ¬ favorites.Presents → favorites.Settled ∧ favorites.ListsStore

/-- Only a press makes a tap pending. -/
theorem pending_of_step {e' : FavoriteButtonEvent} (he : e' ≠ .actionPressFavoriteButton)
    (hen : e' = .clickBegins → .click ∈ opened.tasks) (h : (opened.step e').Pending) :
    opened.Pending := by
  cases e' with
  | viewWillAppear =>
    simpa [OpenedPlayer.step, FavoriteButton.step, OpenedPlayer.Pending] using h
  | actionPressFavoriteButton => exact absurd rfl he
  | clickBegins => exact .inl (hen rfl)
  | checkCalls result =>
    simpa [OpenedPlayer.step, FavoriteButton.step, FavoriteButton.advance, OpenedPlayer.Pending]
      using h
  | clickCalls favorite result =>
    -- the task that makes the call may be one of several
    have hmem : ∀ task, task ∈ (opened.step (.clickCalls favorite result)).tasks →
        task ≠ .saved favorite → task ∈ opened.tasks := fun task htask hne =>
      List.mem_of_mem_erase ((List.mem_append.mp htask).resolve_right
        fun hsaved => hne (List.mem_singleton.mp hsaved))
    cases h with
    | inl hclick => exact .inl (hmem _ hclick (by simp))
    | inr hclicked =>
      obtain ⟨favorite', hclicked⟩ := hclicked
      exact .inr ⟨favorite', hmem _ hclicked (by simp)⟩
  | checkResumes found =>
    simpa [OpenedPlayer.step, FavoriteButton.step, FavoriteButton.advance, OpenedPlayer.Pending]
      using h
  | clickResumes favorite =>
    simpa [OpenedPlayer.step, FavoriteButton.step, FavoriteButton.advance, OpenedPlayer.Pending]
      using h

variable [DecidableEq ι]

/-- Without a press, no tap starts. -/
theorem Settled.step (h : favorites.Settled) (hpressed : favorites.pressed e = none)
    (hen : Enabled favorites e) (hstep : favorites.step e = .ok favorites') :
    favorites'.Settled := by
  intro player opened' hopened' hpending
  rw [Option.mem_def] at hopened'
  cases he : favorites.buttonEvent e with
  | some event =>
    obtain ⟨player', e'⟩ := event
    rw [(players_of_buttonEvent hstep he).1] at hopened'
    by_cases hne : player = player'
    · subst hne
      rw [players_updatePlayer_self] at hopened'
      obtain ⟨opened, hopened, rfl⟩ := Option.map_eq_some_iff.mp hopened'
      have henabled := enabled_of_buttonEvent hen he
      refine h player opened hopened (pending_of_step ?_ ?_ hpending)
      · rintro rfl
        cases hpressed.symm.trans (pressed_of_buttonEvent he hopened).1
      · rintro rfl
        exact henabled.mem hopened
    · rw [players_updatePlayer_of_ne hne] at hopened'
      exact h player opened' hopened' hpending
  | none =>
    cases players_of_buttonEvent_eq_none hen hstep he with
    | inl hsame => exact h player opened' (hsame.1 ▸ hopened') hpending
    | inr hnew =>
      obtain ⟨player', controller, -, -, -, -, hplayers⟩ := hnew
      rw [hplayers] at hopened'
      by_cases hne : player = player'
      · -- a new player has only its check in flight
        subst hne
        rw [Function.update_self, Option.some.injEq] at hopened'
        subst hopened'
        simp [OpenedPlayer.Pending] at hpending
      · rw [Function.update_of_ne hne] at hopened'
        exact h player opened' hopened' hpending

/-- While no tap is on its way to the store, it stays as it is. -/
theorem Settled.store_step (h : favorites.Settled) (hen : Enabled favorites e)
    (hstep : favorites.step e = .ok favorites') :
    favorites'.managers.contexts.store = favorites.managers.contexts.store := by
  have hmanagers := managers_step hen hstep
  cases e with
  | clickCalls player favorite fetch saved =>
    -- a click that calls its manager is a tap on its way
    obtain ⟨opened, hopened, htask⟩ := hen.1
    exact absurd (.inr ⟨favorite, htask⟩) (h player opened hopened)
  | deinit player =>
    rw [hmanagers.2]
    rfl
  | viewWillAppear enumeration fetch => rw [hmanagers]
  | viewDidDisappear => rw [hmanagers]
  | didSelectRowAt player selection => rw [hmanagers]
  | openPlayer player => rw [hmanagers]
  | dismiss enumeration fetch => rw [hmanagers]
  | playerWillAppear => rw [hmanagers]
  | actionPressFavoriteButton => rw [hmanagers]
  | clickBegins player => rw [hmanagers]
  | checkCalls player fetch => rw [hmanagers]
  | checkResumes player found => rw [hmanagers]
  | clickResumes player favorite => rw [hmanagers]

omit [DecidableEq ι] in
theorem fetches_of_listFetch {x : Enumeration × Option (List ManagedObject)}
    (hen : Enabled favorites e) (hfetch : favorites.listFetch e = some x) :
    favorites.Fetches none x.2 := by
  cases e with
  | viewWillAppear enumeration fetch =>
    obtain rfl := Option.some.inj hfetch
    exact hen.2
  | dismiss enumeration fetch =>
    rw [listFetch] at hfetch
    split at hfetch
    · obtain rfl := Option.some.inj hfetch
      exact hen.2
    · cases hfetch
  | _ => cases hfetch

theorem Fresh.step (h : Fresh favorites) (hrun : (machine ι objects).Run es favorites)
    (hpatient : Patient favorites e) (hen : Enabled favorites e)
    (hstep : favorites.step e = .ok favorites') : Fresh favorites' := by
  intro hdisplay hpresents
  have hlist := list_step (displays_of_run hrun).status hen hstep
  cases hfetch : favorites.listFetch e with
  | some x =>
    obtain ⟨enumeration, fetch⟩ := x
    simp only [hfetch] at hlist
    obtain ⟨hpage, hmanagers, hplayers⟩ := hlist
    obtain ⟨hsome, hsettled⟩ := hpatient.1 _ hfetch
    obtain ⟨result, rfl⟩ := Option.isSome_iff_exists.mp hsome
    refine ⟨fun player opened hopened => hsettled player opened (hplayers ▸ hopened), ?_⟩
    refine ⟨enumeration, result, ?_, ?_⟩
    · -- the manager of the page sees the store
      rw [hmanagers, ← objects_none_of_run hrun]
      exact fetches_of_listFetch hen hfetch result rfl
    · rw [hpage, FavoritePage.page_fetchFavoriteEpisode]
      rfl
  | none =>
    simp only [hfetch] at hlist
    obtain ⟨hpage, hbefore⟩ := hlist
    obtain ⟨hdisplay₀, hpresents₀⟩ := hbefore hdisplay
    obtain ⟨hsettled, enumeration, result, hresult, heq⟩ := h hdisplay₀ (hpresents₀ hpresents)
    -- a player that is tapped now would be one of the page
    have hpressed : favorites.pressed e = none := Option.eq_none_iff_forall_ne_some.mpr
      fun episode heq => hpresents₀ hpresents (hpatient.2 episode heq hdisplay₀)
    refine ⟨hsettled.step hpressed hen hstep, enumeration, result, ?_, ?_⟩
    · rw [hsettled.store_step hen hstep, hresult]
    · rw [hpage, heq]

theorem fresh_of_run (h : ((machine ι objects).when Patient).Run es favorites) :
    Fresh favorites := by
  induction h with
  | nil =>
    intro hdisplay
    cases hdisplay
  | snoc hrun hen hstep ih =>
    exact ih.step hrun.of_when hen.2 hen.1 hstep

omit [DecidableEq ι] in
/-- The episodes of a page that lists the store are its rows. -/
theorem ListsStore.flatMap_episode (h : favorites.ListsStore) :
    (favorites.list.page.podcastSaved.flatMap (·.episode) : Multiset Episode) =
      favorites.managers.storedRows.map Episode.ofSaved := by
  obtain ⟨enumeration, result, hresult, heq⟩ := h
  rw [heq]
  refine CoreDataManager.flatMap_fetchFavoriteEpisode enumeration.coe_enumerated ?_
  rw [← Multiset.map_coe, hresult, CoreDataStacks.storedRows]

omit [DecidableEq ι] in
/-- Such a page is empty exactly when the store is. -/
theorem ListsStore.podcastSaved_eq_nil_iff (h : favorites.ListsStore)
    (hdisplays : favorites.list.Displays favorites.onDisplay) :
    favorites.list.page.podcastSaved = [] ↔ favorites.managers.storedRows = 0 := by
  have hepisodes := h.flatMap_episode
  constructor
  · intro hnil
    rw [hnil, List.flatMap_nil, Multiset.coe_nil, eq_comm, Multiset.map_eq_zero] at hepisodes
    exact hepisodes
  · intro hzero
    rw [hzero, Multiset.map_zero, Multiset.coe_eq_zero, List.flatMap_eq_nil_iff] at hepisodes
    -- a group would not be empty
    exact List.eq_nil_iff_forall_not_mem.mpr fun group hgroup =>
      hdisplays.episode_ne_nil group hgroup (hepisodes group hgroup)

end Favorites

/-- The list is fresh. If the page of favourites appears, and players that it has presented are
    dismissed, only when no tap is on its way to the store, its fetches succeed, and the player
    of the tab bar is not tapped over it, then a page on display that no player covers lists
    what the store holds, displays its table exactly when there is something to list, and each
    selection in it opens an episode that is stored. -/
theorem list_is_fresh {ι : Type} [DecidableEq ι] (objects : Finset ManagedObject)
    {es : List (FavoritesEvent ι)} {favorites : Favorites ι}
    (h : ((Favorites.machine ι objects).when Favorites.Patient).Run es favorites)
    (hdisplay : favorites.onDisplay = true) (hpresented : favorites.presented = none) :
    favorites.ListsStore ∧
    favorites.list.subviews =
      (if favorites.managers.storedRows = 0 then [.viewEmptyMessage] else [.tableViewEpisode]) ∧
    ∀ sectionIndex row, favorites.CanSelect (.favorite favorites.list.page sectionIndex row) →
      ∃ controller, favorites.list.page.didSelectRowAt sectionIndex row = .ok controller ∧
        ∃ r ∈ favorites.managers.storedRows, controller.title = r.titleEpisode.getD "" ∧
          controller.subtitle = r.subtitleEpisode.getD "" := by
  have hdisplays := Favorites.displays_of_run h.of_when
  obtain ⟨-, hlists⟩ := Favorites.fresh_of_run h hdisplay
    (Favorites.not_presents_of_presented hpresented)
  refine ⟨hlists, ?_, fun sectionIndex row hselect => ?_⟩
  · rw [hdisplays.subviews.resolve_right fun hnone => by simp [hdisplay] at hnone]
    simp only [hlists.podcastSaved_eq_nil_iff hdisplays]
  · obtain ⟨controller, hopens, hepisode⟩ := Favorites.exists_controller hdisplays hselect
    refine ⟨controller, hopens, ?_⟩
    obtain ⟨group, hgroup, episode, hmem, htitle, hsubtitle⟩ := hepisode hdisplay
    have hrow : episode ∈ favorites.managers.storedRows.map Episode.ofSaved := by
      rw [← hlists.flatMap_episode]
      exact List.mem_flatMap.mpr ⟨group, hgroup, hmem⟩
    obtain ⟨r, hr, rfl⟩ := Multiset.mem_map.mp hrow
    exact ⟨r, hr, by rw [PlayerViewController.title, htitle]; rfl,
      by rw [PlayerViewController.subtitle, hsubtitle]; rfl⟩

/-- The page of favourites has appeared, with one episode, and the player of the tab bar is
    opened over it, and dismissed; then an episode of `"A"` is added in the list of its podcast,
    and the page appears again. -/
noncomputable def addedElsewhere : List (FavoritesEvent Bool) :=
  [.viewWillAppear .toList (some [⟨0, savedOfB⟩]), .openPlayer false, .dismiss .toList none,
    .viewDidDisappear, .didSelectRowAt true (selectionOf "A" "1"),
    .checkCalls true (some [⟨0, savedOfB⟩]), .checkResumes true false, .actionPressFavoriteButton,
    .clickBegins true, .clickCalls true false none true, .dismiss .toList none,
    .viewWillAppear .toList (some [⟨1, (playerOf "A" "1").favoriteEpisode.row⟩, ⟨0, savedOfB⟩])]

theorem list_is_fresh_addedElsewhere :
    ∃ favorites, (Favorites.machine Bool {⟨0, savedOfB⟩}).Run addedElsewhere favorites ∧
      favorites.ListsStore ∧ favorites.list.subviews = [.tableViewEpisode] ∧
      favorites.managers.storedRows =
        {(playerOf "A" "1").favoriteEpisode.row, savedOfB} := by
  have hrun := Machine.run_of_replay
    ((Favorites.machine Bool {⟨0, savedOfB⟩}).when Favorites.Patient) addedElsewhere (by decide)
  have hfresh := list_is_fresh {⟨0, savedOfB⟩} hrun (by decide) (by decide)
  refine ⟨_, hrun.of_when, hfresh.1, hfresh.2.1.trans ?_, by decide⟩
  decide

namespace Favorites

variable {ι : Type} [DecidableEq ι] {objects : Finset ManagedObject}
variable {favorites : Favorites ι} {es : List (FavoritesEvent ι)}

/-! ## What the user sees of the taps -/

/-- The page lists an episode of the title and the subtitle. -/
def ListsEpisode (favorites : Favorites ι) (title subtitle : String) : Prop :=
  ∃ group ∈ favorites.list.page.podcastSaved, ∃ episode ∈ group.episode,
    episode.title = some title ∧ episode.subtitle = some subtitle

/-- From a store that the app has written, the app reads rows that it has written. -/
theorem written_of_run
    (hwritten : ∀ x ∈ objects, ∃ episode : FavoriteEpisode, x.row = episode.row)
    (h : (machine ι objects).Run es favorites) {manager : Option ι} {r : EpisodeSaved}
    (hr : r ∈ favorites.managers.rows manager) : ∃ episode : FavoriteEpisode, r = episode.row := by
  obtain ⟨x, hx, rfl⟩ := Multiset.mem_map.mp hr
  cases ((within_of_run h).view manager).1 x hx with
  | inl hstored => exact hwritten x hstored
  | inr hnew =>
    obtain ⟨-, player, -, opened, -, hrow⟩ := hnew
    exact ⟨_, hrow⟩

omit [DecidableEq ι] in
/-- A page that lists the store lists the episodes that are saved there. -/
theorem ListsStore.listsEpisode_iff (h : favorites.ListsStore)
    (hwritten : ∀ r ∈ favorites.managers.storedRows, ∃ episode : FavoriteEpisode, r = episode.row)
    (episode : FavoriteEpisode) : favorites.ListsEpisode episode.title episode.subtitle ↔
      episode.IsSaved favorites.managers.storedRows := by
  have hlisted : ∀ listed : Episode,
      (∃ group ∈ favorites.list.page.podcastSaved, listed ∈ group.episode) ↔
        ∃ r ∈ favorites.managers.storedRows, Episode.ofSaved r = listed := fun listed => by
    rw [← Multiset.mem_map, ← h.flatMap_episode, Multiset.mem_coe, List.mem_flatMap]
  constructor
  · rintro ⟨group, hgroup, listed, hmem, htitle, hsubtitle⟩
    obtain ⟨r, hr, rfl⟩ := (hlisted listed).mp ⟨group, hgroup, hmem⟩
    obtain ⟨written, rfl⟩ := hwritten r hr
    exact ⟨_, hr, htitle, hsubtitle⟩
  · rintro ⟨r, hr, htitle, hsubtitle⟩
    obtain ⟨group, hgroup, hmem⟩ := (hlisted _).mpr ⟨r, hr, rfl⟩
    exact ⟨group, hgroup, _, hmem, by simp [Episode.ofSaved, htitle],
      by simp [Episode.ofSaved, hsubtitle]⟩

end Favorites

/-- The list shows the taps. From a store that the app has written, in a run that is both calm
    and patient, a page of favourites on display that no player covers lists an episode exactly
    if it was saved at the start and tapped an even number of times, or was not and was tapped
    an odd number of times, in whichever players and in whatever order the taps reached the
    store. -/
theorem list_shows_taps {ι : Type} [DecidableEq ι] (objects : Finset ManagedObject)
    (hwritten : ∀ x ∈ objects, ∃ episode : FavoriteEpisode, x.row = episode.row)
    {es : List (FavoritesEvent ι)} {favorites : Favorites ι}
    (h : ((Favorites.machine ι objects).when fun favorites e =>
      favorites.Calm e ∧ favorites.Patient e).Run es favorites)
    (hdisplay : favorites.onDisplay = true) (hpresented : favorites.presented = none)
    (episode : FavoriteEpisode) (hblank : episode.title ≠ "") :
    favorites.ListsEpisode episode.title episode.subtitle ↔
      (episode.IsSaved (objects.val.map ManagedObject.row) ↔
        Even (((Favorites.machine ι objects).trace Favorites.pressed es).countP
          fun tapped => tapped.Same episode)) := by
  have hcalm := h.when_mono fun _ _ hstep => hstep.1
  obtain ⟨hsettled, hlists⟩ := Favorites.fresh_of_run (h.when_mono fun _ _ hstep => hstep.2)
    hdisplay (Favorites.not_presents_of_presented hpresented)
  have hrows : ∀ r ∈ favorites.managers.storedRows, ∃ episode : FavoriteEpisode,
      r = episode.row := fun r hr =>
    Favorites.written_of_run hwritten h.of_when
      ((Favorites.clean_of_run hcalm).rows_eq none ▸ hr)
  rw [hlists.listsEpisode_iff hrows, Favorites.storedRows_of_run hcalm hsettled]
  exact FavoriteEpisode.isSaved_foldl_tap_iff hblank _ _

/-- The episode of `"A"` is added and that of `"B"` removed, before the page appears. -/
noncomputable def tappedThenListed : List (FavoritesEvent Bool) :=
  [.didSelectRowAt true (selectionOf "A" "1"), .checkCalls true (some [⟨0, savedOfB⟩]),
    .checkResumes true false, .actionPressFavoriteButton, .clickBegins true,
    .dismiss .toList none, .didSelectRowAt false (selectionOf "B" "2"),
    .checkCalls false (some [⟨0, savedOfB⟩]), .checkResumes false true,
    .actionPressFavoriteButton, .clickBegins false,
    .clickCalls false true (some [⟨0, savedOfB⟩]) true, .clickCalls true false none true,
    .dismiss .toList none,
    .viewWillAppear .toList (some [⟨1, (playerOf "A" "1").favoriteEpisode.row⟩])]

theorem list_shows_taps_tappedThenListed :
    ∃ favorites, (Favorites.machine Bool {⟨0, savedOfB⟩}).Run tappedThenListed favorites ∧
      favorites.ListsEpisode "1" "x" ∧ ¬ favorites.ListsEpisode "2" "x" := by
  have hrun := Machine.run_of_replay ((Favorites.machine Bool {⟨0, savedOfB⟩}).when
    fun favorites e => favorites.Calm e ∧ favorites.Patient e) tappedThenListed (by decide)
  have hshows := list_shows_taps {⟨0, savedOfB⟩}
    (fun x hx => ⟨_, congrArg ManagedObject.row (Finset.mem_singleton.mp hx)⟩) hrun (by decide)
    (by decide)
  refine ⟨_, hrun.of_when, (hshows (playerOf "A" "1").favoriteEpisode (by decide)).mpr ?_,
    fun hlists => ?_⟩
  · decide
  · exact absurd ((hshows (playerOf "B" "2").favoriteEpisode (by decide)).mp hlists) (by decide)

end BingePodcast
