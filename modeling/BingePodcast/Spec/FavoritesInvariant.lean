import BingePodcast.Native.Favorites
import BingePodcast.Spec.CoreDataStackCorrect
import BingePodcast.Spec.FavoriteButtonCorrect

/-!
# What the players do to the favourites

What one event of the app does to the players and to the managers, and what follows for the
store in every run: no order of the tasks and no failed save lets a player reach a favourite
that its removals do not match.

## Key results

- `Favorites.players_step`: an opened player stays opened, on the same episode
- `Favorites.managers_step`: an event is at most one call of a manager
- `Favorites.managers_run`: so what holds of the managers holds in the app
- `Favorites.changes_of_run`: the list page, and a player that is opened, see the store
- `players_keep_to_their_favorites`: what the store can have gained and lost
-/

namespace BingePodcast

namespace PlayerViewController

variable {player : PlayerViewController}

/-- A removal by the player matches a row. -/
def Removes (player : PlayerViewController) (r : EpisodeSaved) : Prop :=
  CoreDataManager.isRemoved player.title player.subtitle r

instance (player : PlayerViewController) : DecidablePred player.Removes :=
  fun _ => inferInstanceAs (Decidable (_ = _))

theorem removes_congr {player' : PlayerViewController}
    (h : player'.favoriteEpisode = player.favoriteEpisode) {r : EpisodeSaved} :
    player'.Removes r ↔ player.Removes r := by
  have htitle : player'.title = player.title := congrArg FavoriteEpisode.title h
  have hsubtitle : player'.subtitle = player.subtitle := congrArg FavoriteEpisode.subtitle h
  rw [Removes, Removes, htitle, hsubtitle]

end PlayerViewController

/-- What an event of its button does to an opened player. -/
def OpenedPlayer.step (opened : OpenedPlayer) (e : FavoriteButtonEvent) : OpenedPlayer :=
  let button : FavoriteButton := { player := opened.player, context := 0, tasks := opened.tasks }
  ⟨(button.step e).player, (button.step e).tasks⟩

theorem OpenedPlayer.favoriteEpisode_step (opened : OpenedPlayer) (e : FavoriteButtonEvent) :
    (opened.step e).player.favoriteEpisode = opened.player.favoriteEpisode := by
  cases e <;> simp [step, FavoriteButton.step]

namespace Favorites

variable {ι : Type} [DecidableEq ι] {objects : Finset ManagedObject}
variable {favorites favorites' : Favorites ι} {es : List (FavoritesEvent ι)} {e : FavoritesEvent ι}
variable {player : ι} {opened opened' : OpenedPlayer}

/-! ## The players -/

omit [DecidableEq ι] in
theorem checkIfEpisodeIsFavorite_fetchedRows (controller : PlayerViewController)
    (fetch : Option (List ManagedObject)) :
    controller.checkIfEpisodeIsFavorite (fetchedRows fetch) =
      controller.checkIfEpisodeIsFavorite (some ((fetch.getD []).map ManagedObject.row)) := by
  cases fetch <;> rfl

/-- The event of a player's button that an event of the app is. A fetch that throws finds no
    more than one that lists nothing. -/
def buttonEvent (favorites : Favorites ι) : FavoritesEvent ι → Option (ι × FavoriteButtonEvent)
  | .playerWillAppear => favorites.presented.map (·, .viewWillAppear)
  | .actionPressFavoriteButton => favorites.presented.map (·, .actionPressFavoriteButton)
  | .clickBegins player => some (player, .clickBegins)
  | .checkCalls player fetch =>
    some (player, .checkCalls ((fetch.getD []).map ManagedObject.row))
  | .clickCalls player favorite fetch _ =>
    some (player, .clickCalls favorite ((fetch.getD []).map ManagedObject.row))
  | .checkResumes player found => some (player, .checkResumes found)
  | .clickResumes player favorite => some (player, .clickResumes favorite)
  | .viewWillAppear _ _ | .viewDidDisappear | .didSelectRowAt _ _ | .openPlayer _ | .dismiss _ _
  | .deinit _ => none

/-- The player that an event opens, and what it is handed over. -/
def opening : FavoritesEvent ι → Option (ι × PlayerViewController)
  | .didSelectRowAt player selection => selection.didSelectRowAt.toOption.map (player, ·)
  | .openPlayer player => some (player, .instantiated)
  | .viewWillAppear _ _ | .viewDidDisappear | .dismiss _ _ | .deinit _ | .playerWillAppear
  | .actionPressFavoriteButton | .clickBegins _ | .checkCalls _ _ | .clickCalls _ _ _ _
  | .checkResumes _ _ | .clickResumes _ _ => none

/-- An event of the button of a player does to it what it does to a player alone. -/
theorem players_of_buttonEvent (hstep : favorites.step e = .ok favorites')
    {e' : FavoriteButtonEvent} (he : favorites.buttonEvent e = some (player, e')) :
    favorites'.players = (favorites.updatePlayer player (·.step e')).players ∧
    favorites'.presented = favorites.presented := by
  cases e with
  | viewWillAppear enumeration fetch => cases he
  | viewDidDisappear => cases he
  | didSelectRowAt player' selection => cases he
  | openPlayer player' => cases he
  | dismiss enumeration fetch => cases he
  | deinit player' => cases he
  | playerWillAppear =>
    obtain rfl := Except.ok.inj hstep
    obtain ⟨player', hpresented, heq⟩ := Option.map_eq_some_iff.mp he
    obtain ⟨rfl, rfl⟩ := Prod.mk.inj heq
    rw [start, hpresented]
    exact ⟨rfl, hpresented⟩
  | actionPressFavoriteButton =>
    obtain rfl := Except.ok.inj hstep
    obtain ⟨player', hpresented, heq⟩ := Option.map_eq_some_iff.mp he
    obtain ⟨rfl, rfl⟩ := Prod.mk.inj heq
    rw [start, hpresented]
    exact ⟨rfl, hpresented⟩
  | clickBegins player' =>
    obtain rfl := Except.ok.inj hstep
    obtain ⟨rfl, rfl⟩ := Prod.mk.inj (Option.some.inj he)
    exact ⟨rfl, rfl⟩
  | checkCalls player' fetch =>
    obtain rfl := Except.ok.inj hstep
    obtain ⟨rfl, rfl⟩ := Prod.mk.inj (Option.some.inj he)
    simp only [checkIfEpisodeIsFavorite_fetchedRows]
    exact ⟨rfl, rfl⟩
  | clickCalls player' favorite fetch saved =>
    obtain ⟨rfl, rfl⟩ := Prod.mk.inj (Option.some.inj he)
    simp only [step] at hstep
    split at hstep
    · obtain rfl := Except.ok.inj hstep
      exact ⟨rfl, rfl⟩
    · -- a player that is not opened stays so
      rename_i hnone
      obtain rfl := Except.ok.inj hstep
      refine ⟨?_, rfl⟩
      rw [updatePlayer, hnone, Option.map_none, ← hnone, Function.update_eq_self]
  | checkResumes player' found =>
    obtain rfl := Except.ok.inj hstep
    obtain ⟨rfl, rfl⟩ := Prod.mk.inj (Option.some.inj he)
    exact ⟨rfl, rfl⟩
  | clickResumes player' favorite =>
    obtain rfl := Except.ok.inj hstep
    obtain ⟨rfl, rfl⟩ := Prod.mk.inj (Option.some.inj he)
    exact ⟨rfl, rfl⟩

omit [DecidableEq ι] in
theorem HasTask.mem {task : FavoriteTask} (h : favorites.HasTask player task)
    (hopened : favorites.players player = some opened) : task ∈ opened.tasks := by
  obtain ⟨opened', hopened', htask⟩ := h
  obtain rfl := Option.some.inj (hopened.symm.trans hopened')
  exact htask

omit [DecidableEq ι] in
/-- The button of a player has an event if the player is presented, or has the task for it. -/
theorem enabled_of_buttonEvent (hen : Enabled favorites e) {e' : FavoriteButtonEvent}
    (he : favorites.buttonEvent e = some (player, e')) :
    match e' with
    | .viewWillAppear | .actionPressFavoriteButton => favorites.presented = some player
    | .clickBegins => favorites.HasTask player .click
    | .checkCalls _ => favorites.HasTask player .check
    | .clickCalls favorite _ => favorites.HasTask player (.clicked favorite)
    | .checkResumes found => favorites.HasTask player (.checked found)
    | .clickResumes favorite => favorites.HasTask player (.saved favorite) := by
  cases e with
  | viewWillAppear enumeration fetch => cases he
  | viewDidDisappear => cases he
  | didSelectRowAt player' selection => cases he
  | openPlayer player' => cases he
  | dismiss enumeration fetch => cases he
  | deinit player' => cases he
  | playerWillAppear =>
    obtain ⟨player', hpresented, heq⟩ := Option.map_eq_some_iff.mp he
    obtain ⟨rfl, rfl⟩ := Prod.mk.inj heq
    exact hpresented
  | actionPressFavoriteButton =>
    obtain ⟨player', hpresented, heq⟩ := Option.map_eq_some_iff.mp he
    obtain ⟨rfl, rfl⟩ := Prod.mk.inj heq
    exact hpresented
  | clickBegins player' =>
    obtain ⟨rfl, rfl⟩ := Prod.mk.inj (Option.some.inj he)
    exact hen
  | checkCalls player' fetch =>
    obtain ⟨rfl, rfl⟩ := Prod.mk.inj (Option.some.inj he)
    exact hen.1
  | clickCalls player' favorite fetch saved =>
    obtain ⟨rfl, rfl⟩ := Prod.mk.inj (Option.some.inj he)
    exact hen.1
  | checkResumes player' found =>
    obtain ⟨rfl, rfl⟩ := Prod.mk.inj (Option.some.inj he)
    exact hen
  | clickResumes player' favorite =>
    obtain ⟨rfl, rfl⟩ := Prod.mk.inj (Option.some.inj he)
    exact hen

omit [DecidableEq ι] in
/-- If the presented player is opened, so is every player whose button has an event. -/
theorem opened_of_buttonEvent
    (hpresented : ∀ player ∈ favorites.presented, ∃ opened, favorites.players player = some opened)
    (hen : Enabled favorites e) {e' : FavoriteButtonEvent}
    (he : favorites.buttonEvent e = some (player, e')) :
    ∃ opened, favorites.players player = some opened := by
  have henabled := enabled_of_buttonEvent hen he
  cases e' with
  | viewWillAppear => exact hpresented player henabled
  | actionPressFavoriteButton => exact hpresented player henabled
  | clickBegins => exact henabled.imp fun _ h => h.1
  | checkCalls result => exact henabled.imp fun _ h => h.1
  | clickCalls favorite result => exact henabled.imp fun _ h => h.1
  | checkResumes found => exact henabled.imp fun _ h => h.1
  | clickResumes favorite => exact henabled.imp fun _ h => h.1

/-- Any other event leaves the players alone, or opens one and presents it. -/
theorem players_of_buttonEvent_eq_none (hen : Enabled favorites e)
    (hstep : favorites.step e = .ok favorites') (he : favorites.buttonEvent e = none) :
    favorites'.players = favorites.players ∧
      (favorites'.presented = favorites.presented ∨ favorites'.presented = none) ∧
      opening e = none ∨
    ∃ player controller, opening e = some (player, controller) ∧
      favorites.players player = none ∧ favorites.presented = none ∧
      favorites'.presented = some player ∧
      favorites'.players = Function.update favorites.players player (some ⟨controller, [.check]⟩) := by
  cases e with
  | viewWillAppear enumeration fetch =>
    obtain rfl := Except.ok.inj hstep
    exact .inl ⟨rfl, .inl rfl, rfl⟩
  | viewDidDisappear =>
    obtain rfl := Except.ok.inj hstep
    exact .inl ⟨rfl, .inl rfl, rfl⟩
  | didSelectRowAt player selection =>
    obtain ⟨controller, hopens, hreturn⟩ := Except.bind_eq_ok.mp hstep
    obtain rfl := Except.ok.inj hreturn
    exact .inr ⟨player, controller, by rw [opening, hopens]; rfl, hen.2.1, hen.1, rfl, rfl⟩
  | openPlayer player =>
    obtain rfl := Except.ok.inj hstep
    exact .inr ⟨player, .instantiated, rfl, hen.2, hen.1, rfl, rfl⟩
  | dismiss enumeration fetch =>
    obtain rfl := Except.ok.inj hstep
    exact .inl ⟨rfl, .inr rfl, rfl⟩
  | deinit player =>
    obtain rfl := Except.ok.inj hstep
    exact .inl ⟨rfl, .inl rfl, rfl⟩
  | playerWillAppear => exact absurd (Option.map_eq_none_iff.mp he) hen
  | actionPressFavoriteButton => exact absurd (Option.map_eq_none_iff.mp he) hen
  | clickBegins player => cases he
  | checkCalls player fetch => cases he
  | clickCalls player favorite fetch saved => cases he
  | checkResumes player found => cases he
  | clickResumes player favorite => cases he

theorem players_updatePlayer_self (f : OpenedPlayer → OpenedPlayer) :
    (favorites.updatePlayer player f).players player = (favorites.players player).map f :=
  Function.update_self _ _ _

theorem players_updatePlayer_of_ne {player' : ι} (h : player' ≠ player)
    (f : OpenedPlayer → OpenedPlayer) :
    (favorites.updatePlayer player f).players player' = favorites.players player' :=
  Function.update_of_ne h _ _

/-- An opened player stays opened, on the same episode. -/
theorem players_step (hen : Enabled favorites e) (hstep : favorites.step e = .ok favorites')
    (hopened : favorites.players player = some opened) :
    ∃ opened', favorites'.players player = some opened' ∧
      opened'.player.favoriteEpisode = opened.player.favoriteEpisode := by
  cases he : favorites.buttonEvent e with
  | some event =>
    rw [(players_of_buttonEvent hstep he).1]
    by_cases hne : player = event.1
    · subst hne
      refine ⟨opened.step event.2, ?_, opened.favoriteEpisode_step event.2⟩
      rw [players_updatePlayer_self, hopened, Option.map_some]
    · exact ⟨opened, (players_updatePlayer_of_ne hne _).trans hopened, rfl⟩
  | none =>
    cases players_of_buttonEvent_eq_none hen hstep he with
    | inl hsame => exact ⟨opened, by rw [hsame.1, hopened], rfl⟩
    | inr hnew =>
      obtain ⟨player', controller, -, hnone, -, -, hplayers⟩ := hnew
      -- the new player is none of those opened before
      have hne : player ≠ player' := by
        rintro rfl
        cases hnone.symm.trans hopened
      exact ⟨opened, by rw [hplayers, Function.update_of_ne hne, hopened], rfl⟩

/-- A player that was not opened before is one that the event opens. -/
theorem opened_of_step (hen : Enabled favorites e) (hstep : favorites.step e = .ok favorites')
    (hnone : favorites.players player = none) (hopened : favorites'.players player = some opened) :
    ∃ controller, opening e = some (player, controller) ∧ opened = ⟨controller, [.check]⟩ := by
  cases he : favorites.buttonEvent e with
  | some event =>
    rw [(players_of_buttonEvent hstep he).1] at hopened
    by_cases hne : player = event.1
    · subst hne
      rw [players_updatePlayer_self, hnone] at hopened
      cases hopened
    · rw [players_updatePlayer_of_ne hne, hnone] at hopened
      cases hopened
  | none =>
    cases players_of_buttonEvent_eq_none hen hstep he with
    | inl hsame =>
      rw [hsame.1, hnone] at hopened
      cases hopened
    | inr hnew =>
      obtain ⟨player', controller, hopens, -, -, -, hplayers⟩ := hnew
      rw [hplayers] at hopened
      by_cases hne : player = player'
      · subst hne
        rw [Function.update_self] at hopened
        exact ⟨controller, hopens, (Option.some.inj hopened).symm⟩
      · rw [Function.update_of_ne hne, hnone] at hopened
        cases hopened

/-- The presented player was presented before, or it is new. -/
theorem presented_step (hen : Enabled favorites e) (hstep : favorites.step e = .ok favorites')
    (hpresented : favorites'.presented = some player) :
    favorites.presented = some player ∨
      ∃ controller, opening e = some (player, controller) ∧
        favorites'.players player = some ⟨controller, [.check]⟩ := by
  cases he : favorites.buttonEvent e with
  | some event => exact .inl ((players_of_buttonEvent hstep he).2 ▸ hpresented)
  | none =>
    cases players_of_buttonEvent_eq_none hen hstep he with
    | inl hsame =>
      cases hsame.2.1 with
      | inl heq => exact .inl (heq ▸ hpresented)
      | inr hnone => cases hnone.symm.trans hpresented
    | inr hnew =>
      obtain ⟨player', controller, hopens, -, -, hpresented', hplayers⟩ := hnew
      obtain rfl := Option.some.inj (hpresented'.symm.trans hpresented)
      exact .inr ⟨controller, hopens, by rw [hplayers, Function.update_self]⟩

/-- The presented player is opened. -/
theorem opened_of_presented (h : (machine ι objects).Run es favorites) :
    ∀ player ∈ favorites.presented, ∃ opened, favorites.players player = some opened := by
  refine h.invariant (I := fun favorites => ∀ player ∈ favorites.presented,
    ∃ opened, favorites.players player = some opened) ?_ ?_
  · rintro player ⟨⟩
  · intro favorites e favorites' hbefore hen hstep player hpresented
    cases presented_step hen hstep hpresented with
    | inl hold =>
      obtain ⟨opened, hopened⟩ := hbefore player hold
      obtain ⟨opened', hopened', -⟩ := players_step hen hstep hopened
      exact ⟨opened', hopened'⟩
    | inr hnew =>
      obtain ⟨controller, -, hopened⟩ := hnew
      exact ⟨_, hopened⟩

/-! ## The managers -/

/-- The call of a manager that an event makes. -/
def managerEvent (favorites : Favorites ι) : FavoritesEvent ι → Option (CoreDataEvent (Option ι))
  | .clickCalls player favorite fetch saved => (favorites.players player).map fun opened =>
    if !favorite then .addEpisodeInFavorite (some player) opened.player.favoriteEpisode saved
    else .removeEpisodeFromFavorite (some player) opened.player.title opened.player.subtitle
      fetch saved
  | .deinit player => some (.deinit (some player))
  | .viewWillAppear _ _ | .viewDidDisappear | .didSelectRowAt _ _ | .openPlayer _ | .dismiss _ _
  | .playerWillAppear | .actionPressFavoriteButton | .clickBegins _ | .checkCalls _ _
  | .checkResumes _ _ | .clickResumes _ _ => none

/-- An event is at most one call of a manager, and leaves the managers alone otherwise. -/
theorem managers_step (hen : Enabled favorites e) (hstep : favorites.step e = .ok favorites') :
    match favorites.managerEvent e with
    | some call =>
      CoreDataStacks.Enabled favorites.managers call ∧
        favorites'.managers = favorites.managers.step call
    | none => favorites'.managers = favorites.managers := by
  cases e with
  | viewWillAppear enumeration fetch =>
    obtain rfl := Except.ok.inj hstep
    rfl
  | viewDidDisappear =>
    obtain rfl := Except.ok.inj hstep
    rfl
  | didSelectRowAt player selection =>
    obtain ⟨controller, -, hreturn⟩ := Except.bind_eq_ok.mp hstep
    obtain rfl := Except.ok.inj hreturn
    rfl
  | openPlayer player =>
    obtain rfl := Except.ok.inj hstep
    rfl
  | dismiss enumeration fetch =>
    obtain rfl := Except.ok.inj hstep
    rfl
  | deinit player =>
    obtain rfl := Except.ok.inj hstep
    exact ⟨trivial, rfl⟩
  | playerWillAppear =>
    obtain rfl := Except.ok.inj hstep
    simp only [managerEvent, start]
    split <;> rfl
  | actionPressFavoriteButton =>
    obtain rfl := Except.ok.inj hstep
    simp only [managerEvent, start]
    split <;> rfl
  | clickBegins player =>
    obtain rfl := Except.ok.inj hstep
    rfl
  | checkCalls player fetch =>
    obtain rfl := Except.ok.inj hstep
    rfl
  | clickCalls player favorite fetch saved =>
    obtain ⟨⟨opened, hopened, -⟩, hfetch⟩ := hen
    rw [Option.mem_def] at hopened
    simp only [step, hopened] at hstep
    obtain rfl := Except.ok.inj hstep
    simp only [managerEvent, hopened, Option.map_some]
    -- an add makes no use of the fetch
    cases favorite with
    | false => exact ⟨trivial, rfl⟩
    | true => exact ⟨hfetch, rfl⟩
  | checkResumes player found =>
    obtain rfl := Except.ok.inj hstep
    rfl
  | clickResumes player favorite =>
    obtain rfl := Except.ok.inj hstep
    rfl

omit [DecidableEq ι] in
/-- A call of a manager is that of a click of its player, or the end of its player. -/
theorem managerEvent_cases {call : CoreDataEvent (Option ι)}
    (hcall : favorites.managerEvent e = some call) :
    (∃ player favorite fetch saved opened, e = .clickCalls player favorite fetch saved ∧
      favorites.players player = some opened ∧
      call = if !favorite then
          .addEpisodeInFavorite (some player) opened.player.favoriteEpisode saved
        else .removeEpisodeFromFavorite (some player) opened.player.title opened.player.subtitle
          fetch saved) ∨
    ∃ player, e = .deinit player ∧ call = .deinit (some player) := by
  cases e with
  | clickCalls player favorite fetch saved =>
    obtain ⟨opened, hopened, rfl⟩ := Option.map_eq_some_iff.mp hcall
    exact .inl ⟨player, favorite, fetch, saved, opened, rfl, hopened, rfl⟩
  | deinit player => exact .inr ⟨player, rfl, (Option.some.inj hcall).symm⟩
  | viewWillAppear enumeration fetch => cases hcall
  | viewDidDisappear => cases hcall
  | didSelectRowAt player selection => cases hcall
  | openPlayer player => cases hcall
  | dismiss enumeration fetch => cases hcall
  | playerWillAppear => cases hcall
  | actionPressFavoriteButton => cases hcall
  | clickBegins player => cases hcall
  | checkCalls player fetch => cases hcall
  | checkResumes player found => cases hcall
  | clickResumes player favorite => cases hcall

omit [DecidableEq ι] in
/-- The player of a call is opened. -/
theorem opened_of_managerEvent (hen : Enabled favorites e) {call : CoreDataEvent (Option ι)}
    (hcall : favorites.managerEvent e = some call) :
    ∃ player, call.manager = some player ∧ ∃ opened, favorites.players player = some opened := by
  obtain ⟨player, favorite, fetch, saved, opened, -, hopened, rfl⟩ | ⟨player, rfl, rfl⟩ :=
    managerEvent_cases hcall
  · exact ⟨player, by cases favorite <;> rfl, opened, hopened⟩
  · obtain ⟨-, opened, hopened, -⟩ := hen
    exact ⟨player, rfl, opened, hopened⟩

/-- The manager of the list page has nothing to save, nor has that of a player before it is
    opened. -/
theorem changes_of_run (h : (machine ι objects).Run es favorites) {manager : Option ι}
    (hmanager : ∀ player ∈ manager, favorites.players player = none) :
    favorites.managers.contexts.changes manager = .none := by
  induction h with
  | nil => rfl
  | @snoc es favorites favorites' e _ hen hstep ih =>
    -- a player that is not opened now was not opened before
    have hbefore : ∀ player ∈ manager, favorites.players player = none := by
      intro player hplayer
      refine Option.eq_none_iff_forall_ne_some.mpr fun opened hopened => ?_
      obtain ⟨opened', hopened', -⟩ := players_step hen hstep hopened
      cases (hmanager player hplayer).symm.trans hopened'
    have hmanagers := managers_step hen hstep
    split at hmanagers
    · rename_i call hcall
      obtain ⟨player, hplayer, opened, hopened⟩ := opened_of_managerEvent hen hcall
      have hne : manager ≠ call.manager := by
        rintro rfl
        cases (hbefore player hplayer).symm.trans hopened
      rw [hmanagers.2, CoreDataStacks.changes_step_of_ne hne, ih hbefore]
    · rw [hmanagers, ih hbefore]

/-- The list page sees the store. -/
theorem objects_none_of_run (h : (machine ι objects).Run es favorites) :
    favorites.managers.objects none = favorites.managers.contexts.store :=
  Workspace.view_of_none (changes_of_run h (by simp))

/-! ## What the players may change -/

/-- A manager adds the episode of its player. -/
def Writes (favorites : Favorites ι) (manager : Option ι) (x : ManagedObject) : Prop :=
  ∃ player, manager = some player ∧ ∃ opened, favorites.players player = some opened ∧
    x.row = opened.player.favoriteEpisode.row

/-- A manager deletes what its player removes. -/
def Deletes (favorites : Favorites ι) (manager : Option ι) (x : ManagedObject) : Prop :=
  ∃ player, manager = some player ∧ ∃ opened, favorites.players player = some opened ∧
    opened.player.Removes x.row

theorem writes_step (hen : Enabled favorites e) (hstep : favorites.step e = .ok favorites')
    {manager : Option ι} {x : ManagedObject} (h : favorites.Writes manager x) :
    favorites'.Writes manager x := by
  obtain ⟨player, rfl, opened, hopened, hrow⟩ := h
  obtain ⟨opened', hopened', hepisode⟩ := players_step hen hstep hopened
  exact ⟨player, rfl, opened', hopened', by rw [hrow, hepisode]⟩

theorem deletes_step (hen : Enabled favorites e) (hstep : favorites.step e = .ok favorites')
    {manager : Option ι} {x : ManagedObject} (h : favorites.Deletes manager x) :
    favorites'.Deletes manager x := by
  obtain ⟨player, rfl, opened, hopened, hremoves⟩ := h
  obtain ⟨opened', hopened', hepisode⟩ := players_step hen hstep hopened
  exact ⟨player, rfl, opened', hopened',
    (PlayerViewController.removes_congr hepisode).mpr hremoves⟩

omit [DecidableEq ι] in
/-- A call keeps to what the player of its manager may change. -/
theorem within_managerEvent {call : CoreDataEvent (Option ι)}
    (hcall : favorites.managerEvent e = some call) :
    call.Within favorites.Writes favorites.Deletes := by
  obtain ⟨player, favorite, fetch, saved, opened, -, hopened, rfl⟩ | ⟨player, -, rfl⟩ :=
    managerEvent_cases hcall
  · cases favorite with
    | false => exact fun _ => ⟨player, rfl, opened, hopened, rfl⟩
    | true => exact fun _ hremoved => ⟨player, rfl, opened, hopened, hremoved⟩
  · trivial

/-- Every manager keeps to what its player may change. -/
theorem within_of_run (h : (machine ι objects).Run es favorites) :
    favorites.managers.contexts.Within objects favorites.Writes favorites.Deletes := by
  induction h with
  | nil => exact .init objects
  | snoc _ hen hstep ih =>
    have hmono := ih.mono (fun _ _ => writes_step hen hstep) fun _ _ => deletes_step hen hstep
    have hmanagers := managers_step hen hstep
    split at hmanagers
    · rename_i call hcall
      rw [hmanagers.2]
      have hwithin := CoreDataStacks.within_step ih (within_managerEvent hcall)
      exact hwithin.mono (fun _ _ => writes_step hen hstep) fun _ _ => deletes_step hen hstep
    · rwa [hmanagers]

end Favorites

/-- Players keep to their favourites. Whatever the players do, in any order of their tasks and
    whichever saves fail, every manager sees only the objects that were stored and rows of
    episodes that a player was opened on, and it sees all the objects that were stored and
    that no removal of such a player matches. -/
theorem players_keep_to_their_favorites {ι : Type} [DecidableEq ι] (objects : Finset ManagedObject)
    {es : List (FavoritesEvent ι)} {favorites : Favorites ι}
    (h : (Favorites.machine ι objects).Run es favorites) (manager : Option ι) :
    (∀ x ∈ favorites.managers.objects manager, x ∈ objects ∨
      ∃ player, ∃ opened ∈ favorites.players player,
        x.row = opened.player.favoriteEpisode.row) ∧
    ∀ x ∈ objects, (∀ player, ∀ opened ∈ favorites.players player,
        ¬ opened.player.Removes x.row) →
      x ∈ favorites.managers.objects manager := by
  obtain ⟨hseen, hkept⟩ := (Favorites.within_of_run h).view manager
  constructor
  · intro x hx
    refine (hseen x hx).imp_right ?_
    rintro ⟨-, player, -, opened, hopened, hrow⟩
    exact ⟨player, opened, hopened, hrow⟩
  · intro x hx hnot
    refine hkept x hx fun i hdel => ?_
    obtain ⟨player, -, opened, hopened, hremoves⟩ := hdel
    exact hnot player opened hopened hremoves

/-- The entries of a dictionary, listed in some order. -/
noncomputable def Enumeration.toList : Enumeration where
  enumerated dictionary := dictionary.entries.toList
  coe_enumerated dictionary := dictionary.entries.coe_toList

/-- The selection of an episode with the subtitle `"x"` in the list of its podcast. -/
def selectionOf (podcastTitle title : String) : EpisodeSelection :=
  .podcast ⟨⟨some podcastTitle, none, none⟩,
    [⟨some title, some "x", none, none, none, none, some podcastTitle⟩]⟩ 0

/-- The episode of `"A"` is selected; its player adds it before the check has found anything,
    without success, and is dismissed. -/
noncomputable def addUnsaved : List (FavoritesEvent Bool) :=
  [.didSelectRowAt true (selectionOf "A" "1"), .actionPressFavoriteButton, .clickBegins true,
    .clickCalls true false (some [⟨0, savedOfB⟩]) false, .dismiss .toList none]

theorem players_keep_to_their_favorites_addUnsaved :
    ∃ favorites, (Favorites.machine Bool {⟨0, savedOfB⟩}).Run addUnsaved favorites ∧
      ⟨0, savedOfB⟩ ∈ favorites.managers.objects none := by
  have hrun := Machine.run_of_replay (Favorites.machine Bool {⟨0, savedOfB⟩}) addUnsaved (by decide)
  exact ⟨_, hrun, (players_keep_to_their_favorites {⟨0, savedOfB⟩} hrun none).2 _ (by decide)
    (by decide)⟩

end BingePodcast
