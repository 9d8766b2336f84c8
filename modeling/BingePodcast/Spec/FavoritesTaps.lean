import BingePodcast.ForStd.List
import BingePodcast.Spec.FavoritesInvariant

/-!
# Taps on the favourite buttons

What a user may expect: a tap on the button of a player adds its episode to the favourites or
removes it, at once. This file says when the app keeps to that, although each tap is a task
in several steps and the tasks of different players interleave.

## Key results

- `FavoriteEpisode.tap_comm`: taps on episodes that do not conflict commute
- `FavoriteEpisode.isSaved_foldl_tap_iff`: of taps on one episode, only their parity counts
- `Favorites.knowing_of_run`: what the players and their tasks know of the store
- `favorites_follow_taps`: the favourites are those of the taps in the order of the presses
-/

namespace BingePodcast

/-! ## Taps -/

namespace FavoriteEpisode

variable {episode episode' : FavoriteEpisode} {rows : Multiset EpisodeSaved}

/-- There is a row of the title and subtitle of the episode. -/
def IsSaved (episode : FavoriteEpisode) (rows : Multiset EpisodeSaved) : Prop :=
  ∃ r ∈ rows, r.titleEpisode = some episode.title ∧ r.subtitleEpisode = some episode.subtitle

instance (episode : FavoriteEpisode) (rows : Multiset EpisodeSaved) :
    Decidable (episode.IsSaved rows) :=
  Multiset.decidableExistsMultiset (p := fun r : EpisodeSaved =>
    r.titleEpisode = some episode.title ∧ r.subtitleEpisode = some episode.subtitle)

/-- A tap on the button of an episode. -/
def tap (episode : FavoriteEpisode) (rows : Multiset EpisodeSaved) : Multiset EpisodeSaved :=
  if episode.IsSaved rows then
    rows.filter fun r => ¬ CoreDataManager.isRemoved episode.title episode.subtitle r
  else episode.row ::ₘ rows

/-- Taps on the episodes may concern the same rows. -/
def Conflicts (episode episode' : FavoriteEpisode) : Prop :=
  (episode.title = episode'.title ∧ episode.subtitle = episode'.subtitle) ∨
    episode.title = "" ∨ episode'.title = ""

instance (episode episode' : FavoriteEpisode) : Decidable (episode.Conflicts episode') :=
  inferInstanceAs (Decidable (_ ∨ _))

theorem Conflicts.refl (episode : FavoriteEpisode) : episode.Conflicts episode := .inl ⟨rfl, rfl⟩

theorem Conflicts.symm (h : episode.Conflicts episode') : episode'.Conflicts episode :=
  h.imp (fun heq => ⟨heq.1.symm, heq.2.symm⟩) Or.symm

/-- The app cannot tell the rows of the two episodes apart. -/
def Same (episode episode' : FavoriteEpisode) : Prop :=
  episode.title = episode'.title ∧ episode.subtitle = episode'.subtitle

instance (episode episode' : FavoriteEpisode) : Decidable (episode.Same episode') :=
  inferInstanceAs (Decidable (_ ∧ _))

theorem not_conflicts_iff : ¬ episode.Conflicts episode' ↔
    ¬ episode.Same episode' ∧ episode.title ≠ "" ∧ episode'.title ≠ "" := by
  simp only [Conflicts, Same, not_or, ne_eq]

/-- No removal of another episode matches a row of one with a title. -/
theorem not_isRemoved (hne : ¬ episode.Same episode') (hblank : episode'.title ≠ "")
    {r : EpisodeSaved} (htitle : r.titleEpisode = some episode'.title)
    (hsubtitle : r.subtitleEpisode = some episode'.subtitle) :
    ¬ CoreDataManager.isRemoved episode.title episode.subtitle r := by
  simp only [CoreDataManager.isRemoved, htitle, hsubtitle, Bool.or_eq_true, Bool.and_eq_true,
    beq_iff_eq, Option.some.injEq]
  rintro (hsame | htitle)
  · exact hne ⟨hsame.1.symm, hsame.2.symm⟩
  · exact hblank htitle

/-- A tap changes whether its episode is saved. -/
theorem isSaved_tap_self : episode.IsSaved (episode.tap rows) ↔ ¬ episode.IsSaved rows := by
  rw [tap]
  split
  · rename_i hsaved
    refine iff_of_false ?_ (not_not_intro hsaved)
    intro ⟨r, hr, htitle, hsubtitle⟩
    refine (Multiset.mem_filter.mp hr).2 ?_
    simp [CoreDataManager.isRemoved, htitle, hsubtitle]
  · rename_i hunsaved
    exact iff_of_true ⟨_, Multiset.mem_cons_self _ _, rfl, rfl⟩ hunsaved

/-- A tap leaves other episodes with a title as they are. -/
theorem isSaved_tap (hne : ¬ episode.Same episode') (hblank : episode'.title ≠ "") :
    episode'.IsSaved (episode.tap rows) ↔ episode'.IsSaved rows := by
  rw [tap]
  split
  · constructor
    · intro ⟨r, hr, hmatches⟩
      exact ⟨r, (Multiset.mem_filter.mp hr).1, hmatches⟩
    · intro ⟨r, hr, hmatches⟩
      exact ⟨r, Multiset.mem_filter.mpr ⟨hr, not_isRemoved hne hblank hmatches.1 hmatches.2⟩,
        hmatches⟩
  · constructor
    · intro ⟨r, hr, hmatches⟩
      cases Multiset.mem_cons.mp hr with
      | inl hnew =>
        -- the new row is one of `episode`
        subst hnew
        exact absurd ⟨Option.some.inj hmatches.1, Option.some.inj hmatches.2⟩ hne
      | inr hold => exact ⟨r, hold, hmatches⟩
    · intro ⟨r, hr, hmatches⟩
      exact ⟨r, Multiset.mem_cons_of_mem hr, hmatches⟩

/-- Taps on episodes that do not conflict commute. -/
theorem tap_comm (h : ¬ episode.Conflicts episode') :
    episode'.tap (episode.tap rows) = episode.tap (episode'.tap rows) := by
  obtain ⟨hne, hblank, hblank'⟩ := not_conflicts_iff.mp h
  have hne' : ¬ episode'.Same episode := fun hsame => hne ⟨hsame.1.symm, hsame.2.symm⟩
  have hsaved : episode'.IsSaved (episode.tap rows) ↔ episode'.IsSaved rows :=
    isSaved_tap hne hblank'
  have hsaved' : episode.IsSaved (episode'.tap rows) ↔ episode.IsSaved rows :=
    isSaved_tap hne' hblank
  rw [tap, tap.eq_def episode (episode'.tap rows)]
  simp only [hsaved, hsaved']
  by_cases hin : episode.IsSaved rows
  · by_cases hin' : episode'.IsSaved rows
    · simp only [tap, hin, hin', if_true]
      exact Multiset.filter_comm _ _ _
    · simp only [tap, hin, hin', if_true, if_false]
      exact (Multiset.filter_cons_of_pos rows (a := episode'.row)
        (not_isRemoved hne hblank' rfl rfl)).symm
  · by_cases hin' : episode'.IsSaved rows
    · simp only [tap, hin, hin', if_true, if_false]
      exact Multiset.filter_cons_of_pos rows (a := episode.row)
        (not_isRemoved hne' hblank rfl rfl)
    · simp only [tap, hin, hin', if_false]
      exact Multiset.cons_swap _ _ _

theorem Same.isSaved_iff (h : episode.Same episode') :
    episode.IsSaved rows ↔ episode'.IsSaved rows := by
  rw [IsSaved, IsSaved, h.1, h.2]

/-- After taps, an episode with a title is saved if it was, and they are even in number, or if it
    was not, and they are odd. Taps on other episodes make no difference. -/
theorem isSaved_foldl_tap_iff (hblank : episode.title ≠ "") (taps : List FavoriteEpisode)
    (rows : Multiset EpisodeSaved) :
    episode.IsSaved (taps.foldl (fun rows tapped => tapped.tap rows) rows) ↔
      (episode.IsSaved rows ↔ Even (taps.countP fun tapped => tapped.Same episode)) := by
  refine List.foldl_toggle_iff (P := episode.IsSaved) (p := fun tapped => tapped.Same episode)
    ?_ ?_ taps rows
  · intro rows tapped hsame
    rw [← hsame.isSaved_iff, ← hsame.isSaved_iff, isSaved_tap_self]
  · intro rows tapped hne
    exact isSaved_tap hne hblank

end FavoriteEpisode

/-! ## What a player knows -/

namespace OpenedPlayer

variable {opened : OpenedPlayer} {saved saved' : Prop} {task : FavoriteTask}

/-- The flag of the player, or its only task in flight, is right about whether the episode is
    `saved`. -/
def Knows (opened : OpenedPlayer) (saved : Prop) : Prop :=
  match opened.tasks with
  | [] | [.click] => opened.player.isFavorite = true ↔ saved
  | [.check] => True
  | [.checked found] => found = true ↔ saved
  | [.clicked favorite] => favorite = true ↔ saved
  | [.saved favorite] => favorite = false ↔ saved
  | _ => False

theorem Knows.congr (h : opened.Knows saved) (hsaved : saved ↔ saved') : opened.Knows saved' :=
  propext hsaved ▸ h

/-- A player that knows has no other task. -/
theorem Knows.tasks_eq (h : opened.Knows saved) (htask : task ∈ opened.tasks) :
    opened.tasks = [task] := by
  rw [Knows] at h
  split at h <;> rename_i htasks <;>
    first
    | (rw [htasks] at htask ⊢; cases List.mem_singleton.mp htask; rfl)
    | (rw [htasks] at htask; cases htask)
    | cases h

theorem Knows.of_clicked {favorite : Bool} (h : opened.Knows saved)
    (htask : .clicked favorite ∈ opened.tasks) : favorite = true ↔ saved := by
  have htasks := h.tasks_eq htask
  rwa [Knows, htasks] at h

/-- What its button may do to a player that knows. -/
def Allows (opened : OpenedPlayer) (saved : Prop) : FavoriteButtonEvent → Prop
  | .viewWillAppear | .actionPressFavoriteButton => opened.tasks = []
  | .clickBegins => .click ∈ opened.tasks
  | .checkCalls result =>
    .check ∈ opened.tasks ∧ (opened.player.checkIfEpisodeIsFavorite (some result) = true ↔ saved)
  | .clickCalls favorite _ => .clicked favorite ∈ opened.tasks
  | .checkResumes found => .checked found ∈ opened.tasks
  | .clickResumes favorite => .saved favorite ∈ opened.tasks

/-- Whether the episode is saved after an event of its button. -/
def savedAfter (saved : Prop) : FavoriteButtonEvent → Prop
  | .clickCalls favorite _ => favorite = false
  | .viewWillAppear | .actionPressFavoriteButton | .clickBegins | .checkCalls _
  | .checkResumes _ | .clickResumes _ => saved

/-- An event of its button keeps what a player knows. -/
theorem Knows.step (h : opened.Knows saved) {e : FavoriteButtonEvent} (he : opened.Allows saved e) :
    (opened.step e).Knows (savedAfter saved e) := by
  obtain ⟨player, tasks⟩ := opened
  cases e with
  | viewWillAppear =>
    obtain rfl : tasks = [] := he
    trivial
  | actionPressFavoriteButton =>
    obtain rfl : tasks = [] := he
    exact h
  | clickBegins =>
    obtain rfl : tasks = [.click] := h.tasks_eq he
    exact h
  | checkCalls result =>
    obtain rfl : tasks = [.check] := h.tasks_eq he.1
    exact he.2
  | clickCalls favorite result =>
    obtain rfl : tasks = [.clicked favorite] := h.tasks_eq he
    simp [OpenedPlayer.step, FavoriteButton.step, FavoriteButton.advance, Knows, savedAfter]
  | checkResumes found =>
    obtain rfl : tasks = [.checked found] := h.tasks_eq he
    simpa [OpenedPlayer.step, FavoriteButton.step, FavoriteButton.advance, Knows, savedAfter] using h
  | clickResumes favorite =>
    obtain rfl : tasks = [.saved favorite] := h.tasks_eq he
    simpa [OpenedPlayer.step, FavoriteButton.step, FavoriteButton.advance, Knows, savedAfter] using h

/-- A tap of the player has not yet reached the store. -/
def Pending (opened : OpenedPlayer) : Prop :=
  .click ∈ opened.tasks ∨ ∃ favorite, .clicked favorite ∈ opened.tasks

instance (opened : OpenedPlayer) : Decidable opened.Pending :=
  inferInstanceAs (Decidable (_ ∨ ∃ _, _))

/-- Whether a tap is pending after an event of the button. -/
def pendingAfter (pending : Prop) : FavoriteButtonEvent → Prop
  | .actionPressFavoriteButton => True
  | .clickCalls _ _ => False
  | .viewWillAppear | .clickBegins | .checkCalls _ | .checkResumes _ | .clickResumes _ => pending

theorem Knows.pending_step (h : opened.Knows saved) {e : FavoriteButtonEvent}
    (he : opened.Allows saved e) :
    (opened.step e).Pending ↔ pendingAfter opened.Pending e := by
  obtain ⟨player, tasks⟩ := opened
  cases e with
  | viewWillAppear =>
    obtain rfl : tasks = [] := he
    simp [OpenedPlayer.step, FavoriteButton.step, Pending, pendingAfter]
  | actionPressFavoriteButton =>
    obtain rfl : tasks = [] := he
    simp [OpenedPlayer.step, FavoriteButton.step, Pending, pendingAfter]
  | clickBegins =>
    obtain rfl : tasks = [.click] := h.tasks_eq he
    simp [OpenedPlayer.step, FavoriteButton.step, FavoriteButton.advance, Pending, pendingAfter]
  | checkCalls result =>
    obtain rfl : tasks = [.check] := h.tasks_eq he.1
    simp [OpenedPlayer.step, FavoriteButton.step, FavoriteButton.advance, Pending, pendingAfter]
  | clickCalls favorite result =>
    obtain rfl : tasks = [.clicked favorite] := h.tasks_eq he
    simp [OpenedPlayer.step, FavoriteButton.step, FavoriteButton.advance, Pending, pendingAfter]
  | checkResumes found =>
    obtain rfl : tasks = [.checked found] := h.tasks_eq he
    simp [OpenedPlayer.step, FavoriteButton.step, FavoriteButton.advance, Pending, pendingAfter]
  | clickResumes favorite =>
    obtain rfl : tasks = [.saved favorite] := h.tasks_eq he
    simp [OpenedPlayer.step, FavoriteButton.step, FavoriteButton.advance, Pending, pendingAfter]

end OpenedPlayer

namespace Favorites

variable {ι : Type} {objects : Finset ManagedObject}
variable {favorites favorites' : Favorites ι} {es : List (FavoritesEvent ι)} {e : FavoritesEvent ι}
variable {player player' : ι} {opened opened' : OpenedPlayer} {episode episode' : FavoriteEpisode}

/-! ## Calm runs -/

/-- No player with a task in flight conflicts with the episode. -/
def Free (favorites : Favorites ι) (episode : FavoriteEpisode) : Prop :=
  ∀ player, ∀ opened ∈ favorites.players player, opened.tasks ≠ [] →
    ¬ opened.player.favoriteEpisode.Conflicts episode

/-- A player starts a task only when no player that conflicts with it has one in flight; no
    fetch throws, and saves succeed. -/
def Calm (favorites : Favorites ι) : FavoritesEvent ι → Prop
  | .didSelectRowAt _ selection =>
    ∀ controller ∈ selection.didSelectRowAt.toOption, favorites.Free controller.favoriteEpisode
  | .openPlayer _ => favorites.Free PlayerViewController.instantiated.favoriteEpisode
  | .playerWillAppear | .actionPressFavoriteButton =>
    ∀ player ∈ favorites.presented, ∀ opened ∈ favorites.players player,
      favorites.Free opened.player.favoriteEpisode
  | .checkCalls _ fetch => fetch.isSome
  | .clickCalls _ favorite fetch saved => (favorite = true → fetch.isSome) ∧ saved = true
  | .viewWillAppear _ _ | .viewDidDisappear | .dismiss _ _ | .deinit _ | .clickBegins _
  | .checkResumes _ _ | .clickResumes _ _ => True

/-- The player shows the episode and has a task in flight. -/
def Busy (favorites : Favorites ι) (player : ι) (episode : FavoriteEpisode) : Prop :=
  ∃ opened, favorites.players player = some opened ∧ opened.player.favoriteEpisode = episode ∧
    opened.tasks ≠ []

theorem Free.not_conflicts (h : favorites.Free episode) (hbusy : favorites.Busy player episode') :
    ¬ episode'.Conflicts episode := by
  obtain ⟨opened, hopened, rfl, htasks⟩ := hbusy
  exact h player opened hopened htasks

/-- A player that may start a task has none. -/
theorem Free.tasks_eq_nil (h : favorites.Free opened.player.favoriteEpisode)
    (hopened : favorites.players player = some opened) : opened.tasks = [] := by
  by_contra htasks
  exact h player opened hopened htasks (.refl _)

/-- A calm player starts a task only if its episode is free. -/
theorem free_of_calm (hcalm : Calm favorites e) {e' : FavoriteButtonEvent}
    (he : favorites.buttonEvent e = some (player, e'))
    (hopened : favorites.players player = some opened)
    (hstarts : e' = .viewWillAppear ∨ e' = .actionPressFavoriteButton) :
    favorites.Free opened.player.favoriteEpisode := by
  cases e with
  | playerWillAppear =>
    obtain ⟨player', hpresented, heq⟩ := Option.map_eq_some_iff.mp he
    obtain ⟨rfl, rfl⟩ := Prod.mk.inj heq
    exact hcalm player' hpresented opened hopened
  | actionPressFavoriteButton =>
    obtain ⟨player', hpresented, heq⟩ := Option.map_eq_some_iff.mp he
    obtain ⟨rfl, rfl⟩ := Prod.mk.inj heq
    exact hcalm player' hpresented opened hopened
  | clickBegins player' => simp [← (Prod.mk.inj (Option.some.inj he)).2] at hstarts
  | checkCalls player' fetch => simp [← (Prod.mk.inj (Option.some.inj he)).2] at hstarts
  | clickCalls player' favorite fetch saved =>
    simp [← (Prod.mk.inj (Option.some.inj he)).2] at hstarts
  | checkResumes player' found => simp [← (Prod.mk.inj (Option.some.inj he)).2] at hstarts
  | clickResumes player' favorite => simp [← (Prod.mk.inj (Option.some.inj he)).2] at hstarts
  | viewWillAppear enumeration fetch => cases he
  | viewDidDisappear => cases he
  | didSelectRowAt player' selection => cases he
  | openPlayer player' => cases he
  | dismiss enumeration fetch => cases he
  | deinit player' => cases he

/-- A calm player is opened only on a free episode. -/
theorem free_of_opening (hcalm : Calm favorites e) {controller : PlayerViewController}
    (hopens : opening e = some (player, controller)) :
    favorites.Free controller.favoriteEpisode := by
  cases e with
  | didSelectRowAt player' selection =>
    obtain ⟨controller', hselect, heq⟩ := Option.map_eq_some_iff.mp hopens
    obtain ⟨rfl, rfl⟩ := Prod.mk.inj heq
    exact hcalm controller' hselect
  | openPlayer player' =>
    obtain ⟨rfl, rfl⟩ := Prod.mk.inj (Option.some.inj hopens)
    exact hcalm
  | _ => cases hopens

/-- A player whose button has an event has a task in flight already, or starts one. -/
theorem free_or_busy (hcalm : Calm favorites e) (hen : Enabled favorites e)
    {e' : FavoriteButtonEvent} (he : favorites.buttonEvent e = some (player, e'))
    (hopened : favorites.players player = some opened) :
    favorites.presented = some player ∧ favorites.Free opened.player.favoriteEpisode ∨
      favorites.Busy player opened.player.favoriteEpisode := by
  have htask : ∀ task, favorites.HasTask player task →
      favorites.Busy player opened.player.favoriteEpisode :=
    fun task htask => ⟨opened, hopened, rfl, List.ne_nil_of_mem (htask.mem hopened)⟩
  have henabled := enabled_of_buttonEvent hen he
  cases e' with
  | viewWillAppear => exact .inl ⟨henabled, free_of_calm hcalm he hopened (.inl rfl)⟩
  | actionPressFavoriteButton => exact .inl ⟨henabled, free_of_calm hcalm he hopened (.inr rfl)⟩
  | clickBegins => exact .inr (htask _ henabled)
  | checkCalls result => exact .inr (htask _ henabled)
  | clickCalls favorite result => exact .inr (htask _ henabled)
  | checkResumes found => exact .inr (htask _ henabled)
  | clickResumes favorite => exact .inr (htask _ henabled)

/-- A player whose button has an event is opened, and it is presented or has a task in flight. -/
theorem active_of_buttonEvent
    (hpresented : ∀ player, favorites.presented = some player →
      ∃ opened, favorites.players player = some opened)
    (hcalm : Calm favorites e) (hen : Enabled favorites e)
    {e' : FavoriteButtonEvent} (he : favorites.buttonEvent e = some (player, e')) :
    ∃ opened, favorites.players player = some opened ∧
      (opened.tasks ≠ [] ∨ favorites.presented = some player) := by
  obtain ⟨opened, hopened⟩ := opened_of_buttonEvent hpresented hen he
  refine ⟨opened, hopened, ?_⟩
  cases free_or_busy hcalm hen he hopened with
  | inl hfree => exact .inr hfree.1
  | inr hbusy =>
    obtain ⟨opened', hopened', -, htasks⟩ := hbusy
    obtain rfl := Option.some.inj (hopened.symm.trans hopened')
    exact .inl htasks

variable [DecidableEq ι]

/-- A player with a task in flight had one before, or is presented and starts one. -/
theorem busy_step (hcalm : Calm favorites e) (hen : Enabled favorites e)
    (hstep : favorites.step e = .ok favorites') (hbusy : favorites'.Busy player episode) :
    favorites.Busy player episode ∨
      favorites'.presented = some player ∧ favorites.Free episode := by
  obtain ⟨opened', hopened', rfl, htasks⟩ := hbusy
  cases he : favorites.buttonEvent e with
  | some event =>
    obtain ⟨player', e'⟩ := event
    obtain ⟨hplayers, hpresented⟩ := players_of_buttonEvent hstep he
    rw [hplayers] at hopened'
    by_cases hne : player = player'
    · -- its own event, which keeps the episode
      subst hne
      rw [players_updatePlayer_self] at hopened'
      obtain ⟨opened, hopened, rfl⟩ := Option.map_eq_some_iff.mp hopened'
      rw [opened.favoriteEpisode_step]
      exact (free_or_busy hcalm hen he hopened).symm.imp_right fun h => ⟨hpresented.trans h.1, h.2⟩
    · rw [players_updatePlayer_of_ne hne] at hopened'
      exact .inl ⟨opened', hopened', rfl, htasks⟩
  | none =>
    cases players_of_buttonEvent_eq_none hen hstep he with
    | inl hsame => exact .inl ⟨opened', hsame.1 ▸ hopened', rfl, htasks⟩
    | inr hnew =>
      obtain ⟨player', controller, hopens, -, -, hpresented, hplayers⟩ := hnew
      rw [hplayers] at hopened'
      by_cases hne : player = player'
      · subst hne
        rw [Function.update_self, Option.some.injEq] at hopened'
        subst hopened'
        exact .inr ⟨hpresented, free_of_opening hcalm hopens⟩
      · rw [Function.update_of_ne hne] at hopened'
        exact .inl ⟨opened', hopened', rfl, htasks⟩

/-- Players with tasks in flight do not conflict, nor does one with the presented player. -/
structure Separate (favorites : Favorites ι) : Prop where
  busy : ∀ player player' episode episode', player ≠ player' → favorites.Busy player episode →
    favorites.Busy player' episode' → ¬ episode.Conflicts episode'
  presented : ∀ player, favorites.presented = some player →
    ∃ opened, favorites.players player = some opened ∧ ∀ player' episode, player' ≠ player →
      favorites.Busy player' episode → ¬ episode.Conflicts opened.player.favoriteEpisode

theorem Separate.step (h : Separate favorites) (hcalm : Calm favorites e)
    (hen : Enabled favorites e) (hstep : favorites.step e = .ok favorites') :
    Separate favorites' where
  busy player player' episode episode' hne hbusy hbusy' := by
    -- at most the presented player has started a task just now
    cases busy_step hcalm hen hstep hbusy with
    | inl hold =>
      cases busy_step hcalm hen hstep hbusy' with
      | inl hold' => exact h.busy player player' episode episode' hne hold hold'
      | inr hnew' => exact hnew'.2.not_conflicts hold
    | inr hnew =>
      cases busy_step hcalm hen hstep hbusy' with
      | inl hold' => exact fun hconflict => hnew.2.not_conflicts hold' hconflict.symm
      | inr hnew' => exact absurd (Option.some.inj (hnew.1.symm.trans hnew'.1)) hne
  presented player hpresented := by
    have hbefore : ∀ player' episode, player' ≠ player → favorites'.Busy player' episode →
        favorites.Busy player' episode := by
      intro player' episode hne hbusy
      refine (busy_step hcalm hen hstep hbusy).resolve_right fun hnew => hne ?_
      exact Option.some.inj (hnew.1.symm.trans hpresented)
    cases presented_step hen hstep hpresented with
    | inl hold =>
      obtain ⟨opened, hopened, hothers⟩ := h.presented player hold
      obtain ⟨opened', hopened', hepisode⟩ := players_step hen hstep hopened
      refine ⟨opened', hopened', fun player' episode hne hbusy => ?_⟩
      rw [hepisode]
      exact hothers player' episode hne (hbefore player' episode hne hbusy)
    | inr hnew =>
      obtain ⟨controller, hopens, hopened⟩ := hnew
      exact ⟨_, hopened, fun player' episode hne hbusy =>
        (free_of_opening hcalm hopens).not_conflicts (hbefore player' episode hne hbusy)⟩

theorem separate_of_run (h : ((machine ι objects).when Calm).Run es favorites) :
    Separate favorites := by
  refine h.invariant (I := Separate) ⟨?_, ?_⟩ ?_
  · rintro player player' episode episode' - ⟨opened, hopened, -⟩
    cases hopened
  · intro player hpresented
    cases hpresented
  · intro favorites e favorites' hseparate hen hstep
    exact hseparate.step hen.2 hen.1 hstep

/-! ## The store -/

omit [DecidableEq ι] in
/-- A calm call has its save succeed. -/
theorem saves_of_calm (hcalm : Calm favorites e) {call : CoreDataEvent (Option ι)}
    (hcall : favorites.managerEvent e = some call) : favorites.managers.Saves call := by
  obtain ⟨player, favorite, fetch, saved, opened, rfl, -, rfl⟩ | ⟨player, -, rfl⟩ :=
    managerEvent_cases hcall
  · cases favorite with
    | false => exact hcalm.2
    | true => exact fun _ => hcalm.2
  · trivial

theorem clean_of_run (h : ((machine ι objects).when Calm).Run es favorites) :
    favorites.managers.Clean := by
  refine h.invariant (I := fun favorites => favorites.managers.Clean)
    (CoreDataStacks.Clean.init objects) ?_
  intro favorites e favorites' hclean hen hstep
  have hmanagers := managers_step hen.1 hstep
  split at hmanagers
  · rename_i call hcall
    rw [hmanagers.2]
    exact hclean.step (saves_of_calm hen.2 hcall)
  · rwa [hmanagers]

/-- The episode whose player calls its manager. -/
def called (favorites : Favorites ι) : FavoritesEvent ι → Option FavoriteEpisode
  | .clickCalls player _ _ _ => (favorites.players player).map (·.player.favoriteEpisode)
  | .viewWillAppear _ _ | .viewDidDisappear | .didSelectRowAt _ _ | .openPlayer _ | .dismiss _ _
  | .deinit _ | .playerWillAppear | .actionPressFavoriteButton | .clickBegins _ | .checkCalls _ _
  | .checkResumes _ _ | .clickResumes _ _ => none

/-- The presented player, and the players with tasks in flight, know about their episodes. -/
def Knowing (favorites : Favorites ι) : Prop :=
  ∀ player opened, favorites.players player = some opened →
    opened.tasks ≠ [] ∨ favorites.presented = some player →
    opened.Knows (opened.player.favoriteEpisode.IsSaved favorites.managers.storedRows)

/-- The call of a click that knows is a tap. -/
theorem storedRows_clickCall (hclean : favorites.managers.Clean) (player : ι)
    (controller : PlayerViewController) {favorite : Bool} {fetch : Option (List ManagedObject)}
    (hknows : favorite = true ↔ controller.favoriteEpisode.IsSaved favorites.managers.storedRows)
    (hfetch : favorites.Fetches (some player) fetch) (hsome : favorite = true → fetch.isSome) :
    (favoriteButtonClickCall favorites.managers player controller favorite fetch true).storedRows =
      controller.favoriteEpisode.tap favorites.managers.storedRows := by
  cases favorite with
  | false =>
    rw [FavoriteEpisode.tap, if_neg (by rw [← hknows]; simp), favoriteButtonClickCall,
      if_pos (by rfl), CoreDataStacks.addEpisodeInFavorite, hclean.storedRows_insertNewObject]
  | true =>
    obtain ⟨result, rfl⟩ := Option.isSome_iff_exists.mp (hsome rfl)
    rw [FavoriteEpisode.tap, if_pos (hknows.mp rfl), favoriteButtonClickCall, if_neg (by simp),
      CoreDataStacks.removeEpisodeFromFavorite_eq,
      hclean.storedRows_deleteAll (some player) (hfetch result rfl)]
    rfl

/-- An event taps the episode whose player calls its manager, and no other changes the store. -/
theorem storedRows_step (hclean : favorites.managers.Clean) (hknowing : Knowing favorites)
    (hcalm : Calm favorites e) (hen : Enabled favorites e)
    (hstep : favorites.step e = .ok favorites') :
    favorites'.managers.storedRows =
      (favorites.called e).elim favorites.managers.storedRows
        (·.tap favorites.managers.storedRows) := by
  have hmanagers := managers_step hen hstep
  cases e with
  | clickCalls player favorite fetch saved =>
    obtain ⟨⟨opened, hopened, htask⟩, hfetch⟩ := hen
    obtain ⟨hsome, rfl⟩ := hcalm
    -- the flag that the click has read is still what the store says
    have hknows := (hknowing player opened hopened (.inl (List.ne_nil_of_mem htask))).of_clicked htask
    rw [Option.mem_def] at hopened
    simp only [step, hopened] at hstep
    obtain rfl := Except.ok.inj hstep
    rw [called, hopened]
    exact storedRows_clickCall hclean player opened.player hknows hfetch hsome
  | deinit player =>
    rw [hmanagers.2, CoreDataStacks.step, hclean.deinit]
    rfl
  | viewWillAppear enumeration fetch => exact congrArg _ hmanagers
  | viewDidDisappear => exact congrArg _ hmanagers
  | didSelectRowAt player selection => exact congrArg _ hmanagers
  | openPlayer player => exact congrArg _ hmanagers
  | dismiss enumeration fetch => exact congrArg _ hmanagers
  | playerWillAppear => exact congrArg _ hmanagers
  | actionPressFavoriteButton => exact congrArg _ hmanagers
  | clickBegins player => exact congrArg _ hmanagers
  | checkCalls player fetch => exact congrArg _ hmanagers
  | checkResumes player found => exact congrArg _ hmanagers
  | clickResumes player favorite => exact congrArg _ hmanagers

omit [DecidableEq ι] in
/-- A player that makes a call has a task in flight. -/
theorem busy_of_called (hen : Enabled favorites e) (hcalled : favorites.called e = some episode) :
    ∃ player, favorites.Busy player episode ∧
      ∃ favorite result, favorites.buttonEvent e = some (player, .clickCalls favorite result) := by
  cases e with
  | clickCalls player favorite fetch saved =>
    obtain ⟨opened, hopened, hepisode⟩ := Option.map_eq_some_iff.mp hcalled
    have htask := hen.1.mem hopened
    exact ⟨player, ⟨opened, hopened, hepisode, List.ne_nil_of_mem htask⟩, favorite, _, rfl⟩
  | viewWillAppear enumeration fetch => cases hcalled
  | viewDidDisappear => cases hcalled
  | didSelectRowAt player selection => cases hcalled
  | openPlayer player => cases hcalled
  | dismiss enumeration fetch => cases hcalled
  | deinit player => cases hcalled
  | playerWillAppear => cases hcalled
  | actionPressFavoriteButton => cases hcalled
  | clickBegins player => cases hcalled
  | checkCalls player fetch => cases hcalled
  | checkResumes player found => cases hcalled
  | clickResumes player favorite => cases hcalled

/-- What an event of its button finds and leaves of the episode of a player that knows. -/
theorem allows_of_enabled (hclean : favorites.managers.Clean) (hknowing : Knowing favorites)
    (hcalm : Calm favorites e) (hen : Enabled favorites e)
    (hstep : favorites.step e = .ok favorites') {e' : FavoriteButtonEvent}
    (he : favorites.buttonEvent e = some (player, e'))
    (hopened : favorites.players player = some opened) :
    let saved := opened.player.favoriteEpisode.IsSaved favorites.managers.storedRows
    opened.Allows saved e' ∧ (OpenedPlayer.savedAfter saved e' ↔
      opened.player.favoriteEpisode.IsSaved favorites'.managers.storedRows) := by
  intro saved
  have hrows := storedRows_step hclean hknowing hcalm hen hstep
  cases e with
  | viewWillAppear enumeration fetch => cases he
  | viewDidDisappear => cases he
  | didSelectRowAt player' selection => cases he
  | openPlayer player' => cases he
  | dismiss enumeration fetch => cases he
  | deinit player' => cases he
  | playerWillAppear =>
    obtain ⟨player', hpresented, heq⟩ := Option.map_eq_some_iff.mp he
    obtain ⟨rfl, rfl⟩ := Prod.mk.inj heq
    exact ⟨(hcalm player' hpresented opened hopened).tasks_eq_nil hopened, by rw [hrows]; rfl⟩
  | actionPressFavoriteButton =>
    obtain ⟨player', hpresented, heq⟩ := Option.map_eq_some_iff.mp he
    obtain ⟨rfl, rfl⟩ := Prod.mk.inj heq
    exact ⟨(hcalm player' hpresented opened hopened).tasks_eq_nil hopened, by rw [hrows]; rfl⟩
  | clickBegins player' =>
    obtain ⟨rfl, rfl⟩ := Prod.mk.inj (Option.some.inj he)
    exact ⟨hen.mem hopened, by rw [hrows]; rfl⟩
  | checkCalls player' fetch =>
    obtain ⟨rfl, rfl⟩ := Prod.mk.inj (Option.some.inj he)
    obtain ⟨result, rfl⟩ := Option.isSome_iff_exists.mp hcalm
    refine ⟨⟨hen.1.mem hopened, ?_⟩, by rw [hrows]; rfl⟩
    refine PlayerViewController.checkIfEpisodeIsFavorite_iff ?_
    rw [Option.getD_some, ← Multiset.map_coe, hen.2 result rfl,
      ← hclean.rows_eq (some player'), CoreDataStacks.rows]
  | clickCalls player' favorite fetch success =>
    obtain ⟨rfl, rfl⟩ := Prod.mk.inj (Option.some.inj he)
    have hclicked := hen.1.mem hopened
    refine ⟨hclicked, ?_⟩
    have hknows := (hknowing player' opened hopened (.inl (List.ne_nil_of_mem hclicked))).of_clicked
      hclicked
    rw [hrows, called, hopened, Option.map_some, Option.elim_some,
      FavoriteEpisode.isSaved_tap_self, ← hknows, Bool.not_eq_true]
    rfl
  | checkResumes player' found =>
    obtain ⟨rfl, rfl⟩ := Prod.mk.inj (Option.some.inj he)
    exact ⟨hen.mem hopened, by rw [hrows]; rfl⟩
  | clickResumes player' favorite =>
    obtain ⟨rfl, rfl⟩ := Prod.mk.inj (Option.some.inj he)
    exact ⟨hen.mem hopened, by rw [hrows]; rfl⟩

/-- An event that is not of its own button leaves what a player knows. -/
theorem isSaved_step_of_ne (hseparate : Separate favorites) (hclean : favorites.managers.Clean)
    (hknowing : Knowing favorites) (hcalm : Calm favorites e) (hen : Enabled favorites e)
    (hstep : favorites.step e = .ok favorites')
    (he : ∀ e', favorites.buttonEvent e ≠ some (player, e'))
    (hopened : favorites.players player = some opened)
    (hactive : opened.tasks ≠ [] ∨ favorites.presented = some player) :
    opened.player.favoriteEpisode.IsSaved favorites.managers.storedRows ↔
      opened.player.favoriteEpisode.IsSaved favorites'.managers.storedRows := by
  rw [storedRows_step hclean hknowing hcalm hen hstep]
  cases hcalled : favorites.called e with
  | none => rfl
  | some episode =>
    -- the call is of another player, with a task in flight
    obtain ⟨player', hbusy, favorite, result, hevent⟩ := busy_of_called hen hcalled
    have hne : player' ≠ player := by
      rintro rfl
      exact he _ hevent
    have hconflict : ¬ episode.Conflicts opened.player.favoriteEpisode := by
      cases hactive with
      | inl htasks =>
        exact hseparate.busy player' player _ _ hne hbusy ⟨opened, hopened, rfl, htasks⟩
      | inr hpresented =>
        obtain ⟨opened', hopened', hothers⟩ := hseparate.presented player hpresented
        obtain rfl := Option.some.inj (hopened.symm.trans hopened')
        exact hothers player' episode hne hbusy
    obtain ⟨hnotSame, -, hblank⟩ := FavoriteEpisode.not_conflicts_iff.mp hconflict
    exact (FavoriteEpisode.isSaved_tap hnotSame hblank).symm

theorem Knowing.step (hknowing : Knowing favorites) (hseparate : Separate favorites)
    (hclean : favorites.managers.Clean) (hcalm : Calm favorites e) (hen : Enabled favorites e)
    (hstep : favorites.step e = .ok favorites') : Knowing favorites' := by
  intro player opened' hopened' hactive'
  -- a player that was active and has no event of its own knows what it knew
  have hkeeps : ∀ opened, favorites.players player = some opened →
      opened.tasks ≠ [] ∨ favorites.presented = some player →
      (∀ e', favorites.buttonEvent e ≠ some (player, e')) →
      opened.Knows (opened.player.favoriteEpisode.IsSaved favorites'.managers.storedRows) :=
    fun opened hopened hactive he => (hknowing player opened hopened hactive).congr
      (isSaved_step_of_ne hseparate hclean hknowing hcalm hen hstep he hopened hactive)
  cases he : favorites.buttonEvent e with
  | some event =>
    obtain ⟨player', e'⟩ := event
    obtain ⟨hplayers, hpresented⟩ := players_of_buttonEvent hstep he
    rw [hplayers] at hopened'
    by_cases hne : player = player'
    · subst hne
      obtain ⟨opened, hopened, hactive⟩ := active_of_buttonEvent
        (fun player hplayer => (hseparate.presented player hplayer).imp fun _ h => h.1) hcalm hen he
      rw [players_updatePlayer_self, hopened, Option.map_some, Option.some.injEq] at hopened'
      subst hopened'
      obtain ⟨hallows, hsaved⟩ := allows_of_enabled hclean hknowing hcalm hen hstep he hopened
      rw [opened.favoriteEpisode_step]
      exact ((hknowing player opened hopened hactive).step hallows).congr hsaved
    · rw [players_updatePlayer_of_ne hne] at hopened'
      refine hkeeps opened' hopened' (hpresented ▸ hactive') fun e'' heq => hne ?_
      exact (congrArg Prod.fst (Option.some.inj (he.symm.trans heq))).symm
  | none =>
    have hnot : ∀ e', favorites.buttonEvent e ≠ some (player, e') := fun e' heq => by
      cases he.symm.trans heq
    cases players_of_buttonEvent_eq_none hen hstep he with
    | inl hsame =>
      refine hkeeps opened' (hsame.1 ▸ hopened') (hactive'.imp_right fun hpresented => ?_) hnot
      cases hsame.2.1 with
      | inl heq => exact heq ▸ hpresented
      | inr hnone => cases hnone.symm.trans hpresented
    | inr hnew =>
      obtain ⟨player', controller, -, -, -, hpresented, hplayers⟩ := hnew
      rw [hplayers] at hopened'
      by_cases hne : player = player'
      · subst hne
        rw [Function.update_self, Option.some.injEq] at hopened'
        subst hopened'
        trivial
      · rw [Function.update_of_ne hne] at hopened'
        refine hkeeps opened' hopened' (hactive'.imp_right fun hpresented' => ?_) hnot
        exact absurd (Option.some.inj (hpresented'.symm.trans hpresented)) hne

theorem knowing_of_run (h : ((machine ι objects).when Calm).Run es favorites) :
    Knowing favorites := by
  induction h with
  | nil =>
    intro player opened hopened
    cases hopened
  | snoc hrun hen hstep ih =>
    exact ih.step (separate_of_run hrun) (clean_of_run hrun) hen.2 hen.1 hstep

/-! ## Pending taps -/

/-- The episode whose button is pressed. -/
def pressed (favorites : Favorites ι) : FavoritesEvent ι → Option FavoriteEpisode
  | .actionPressFavoriteButton =>
    (favorites.presented.bind favorites.players).map (·.player.favoriteEpisode)
  | .viewWillAppear _ _ | .viewDidDisappear | .didSelectRowAt _ _ | .openPlayer _ | .dismiss _ _
  | .deinit _ | .playerWillAppear | .clickBegins _ | .checkCalls _ _ | .clickCalls _ _ _ _
  | .checkResumes _ _ | .clickResumes _ _ => none

/-- A tap on the episode, by the player, has not yet reached the store. -/
def Pends (favorites : Favorites ι) (x : ι × FavoriteEpisode) : Prop :=
  ∃ opened, favorites.players x.1 = some opened ∧ opened.player.favoriteEpisode = x.2 ∧
    opened.Pending

omit [DecidableEq ι] in
/-- Only events of buttons are presses and calls. -/
theorem pressed_of_buttonEvent_eq_none (he : favorites.buttonEvent e = none) :
    favorites.pressed e = none ∧ favorites.called e = none := by
  cases e with
  | actionPressFavoriteButton =>
    rw [buttonEvent, Option.map_eq_none_iff] at he
    simp [pressed, called, he]
  | clickCalls player favorite fetch saved => cases he
  | _ => exact ⟨rfl, rfl⟩

omit [DecidableEq ι] in
/-- Which event of a button is a press, and which a call. -/
theorem pressed_of_buttonEvent {e' : FavoriteButtonEvent}
    (he : favorites.buttonEvent e = some (player, e'))
    (hopened : favorites.players player = some opened) :
    match e' with
    | .actionPressFavoriteButton =>
      favorites.pressed e = some opened.player.favoriteEpisode ∧ favorites.called e = none
    | .clickCalls _ _ =>
      favorites.pressed e = none ∧ favorites.called e = some opened.player.favoriteEpisode
    | _ => favorites.pressed e = none ∧ favorites.called e = none := by
  cases e with
  | viewWillAppear enumeration fetch => cases he
  | viewDidDisappear => cases he
  | didSelectRowAt player' selection => cases he
  | openPlayer player' => cases he
  | dismiss enumeration fetch => cases he
  | deinit player' => cases he
  | playerWillAppear =>
    obtain ⟨player', hpresented, heq⟩ := Option.map_eq_some_iff.mp he
    obtain ⟨rfl, rfl⟩ := Prod.mk.inj heq
    exact ⟨rfl, rfl⟩
  | actionPressFavoriteButton =>
    obtain ⟨player', hpresented, heq⟩ := Option.map_eq_some_iff.mp he
    obtain ⟨rfl, rfl⟩ := Prod.mk.inj heq
    exact ⟨by simp [pressed, hpresented, hopened], rfl⟩
  | clickBegins player' =>
    obtain ⟨rfl, rfl⟩ := Prod.mk.inj (Option.some.inj he)
    exact ⟨rfl, rfl⟩
  | checkCalls player' fetch =>
    obtain ⟨rfl, rfl⟩ := Prod.mk.inj (Option.some.inj he)
    exact ⟨rfl, rfl⟩
  | clickCalls player' favorite fetch success =>
    obtain ⟨rfl, rfl⟩ := Prod.mk.inj (Option.some.inj he)
    exact ⟨rfl, by rw [called, hopened]; rfl⟩
  | checkResumes player' found =>
    obtain ⟨rfl, rfl⟩ := Prod.mk.inj (Option.some.inj he)
    exact ⟨rfl, rfl⟩
  | clickResumes player' favorite =>
    obtain ⟨rfl, rfl⟩ := Prod.mk.inj (Option.some.inj he)
    exact ⟨rfl, rfl⟩

/-- An event of its button decides whether a tap of a player is pending. -/
theorem pends_of_buttonEvent (hstep : favorites.step e = .ok favorites')
    {e' : FavoriteButtonEvent} (he : favorites.buttonEvent e = some (player, e'))
    (hopened : favorites.players player = some opened) {x : ι × FavoriteEpisode} :
    favorites'.Pends x ↔ x.1 = player ∧ opened.player.favoriteEpisode = x.2 ∧
        (opened.step e').Pending ∨ x.1 ≠ player ∧ favorites.Pends x := by
  rw [Pends, (players_of_buttonEvent hstep he).1]
  by_cases hne : x.1 = player
  · rw [hne, players_updatePlayer_self, hopened, Option.map_some]
    simp [opened.favoriteEpisode_step]
  · rw [players_updatePlayer_of_ne hne]
    simp [hne, Pends]

omit [DecidableEq ι] in
/-- The pending tap of one player, and those of the others. -/
theorem pends_iff (hopened : favorites.players player = some opened)
    {x : ι × FavoriteEpisode} :
    favorites.Pends x ↔ x.1 = player ∧ opened.player.favoriteEpisode = x.2 ∧ opened.Pending ∨
      x.1 ≠ player ∧ favorites.Pends x := by
  by_cases hne : x.1 = player
  · rw [Pends, hne, hopened]
    simp
  · simp [hne]

/-- Any other event leaves the pending taps. -/
theorem pends_of_buttonEvent_eq_none (hen : Enabled favorites e)
    (hstep : favorites.step e = .ok favorites') (he : favorites.buttonEvent e = none)
    {x : ι × FavoriteEpisode} : favorites'.Pends x ↔ favorites.Pends x := by
  cases players_of_buttonEvent_eq_none hen hstep he with
  | inl hsame => rw [Pends, hsame.1, Pends]
  | inr hnew =>
    obtain ⟨player, controller, -, hnone, -, -, hplayers⟩ := hnew
    rw [Pends, hplayers, Pends]
    by_cases hne : x.1 = player
    · -- the new player has not been tapped
      rw [hne, Function.update_self, hnone]
      simp [OpenedPlayer.Pending]
    · rw [Function.update_of_ne hne]

/-- The taps so far are those that have reached the store, then the pending ones in the order
    of their presses. -/
structure Taps (favorites : Favorites ι) (rows : Multiset EpisodeSaved)
    (taps : List FavoriteEpisode) (pending : List (ι × FavoriteEpisode)) : Prop where
  nodup : pending.Nodup
  mem_pending : ∀ x, x ∈ pending ↔ favorites.Pends x
  foldl_tap : taps.foldl (fun rows episode => episode.tap rows) rows =
    pending.foldl (fun rows x => x.2.tap rows) favorites.managers.storedRows

omit [DecidableEq ι] in
/-- Pending taps of players that do not conflict commute. -/
theorem Separate.tap_comm (h : Separate favorites) {x y : ι × FavoriteEpisode}
    (hx : favorites.Pends x) (hy : favorites.Pends y) (rows : Multiset EpisodeSaved) :
    y.2.tap (x.2.tap rows) = x.2.tap (y.2.tap rows) := by
  have hbusy : ∀ x : ι × FavoriteEpisode, favorites.Pends x → favorites.Busy x.1 x.2 := by
    rintro x ⟨opened, hopened, hepisode, hpending⟩
    refine ⟨opened, hopened, hepisode, ?_⟩
    cases hpending with
    | inl hclick => exact List.ne_nil_of_mem hclick
    | inr hclicked => exact List.ne_nil_of_mem hclicked.choose_spec
  by_cases hne : x.1 = y.1
  · -- a player has one episode
    obtain ⟨opened, hopened, hx, -⟩ := hx
    obtain ⟨opened', hopened', hy, -⟩ := hy
    rw [hne] at hopened
    obtain rfl := Option.some.inj (hopened.symm.trans hopened')
    rw [← hx, hy]
  · exact FavoriteEpisode.tap_comm (h.busy x.1 y.1 x.2 y.2 hne (hbusy x hx) (hbusy y hy))

namespace Taps

variable {rows : Multiset EpisodeSaved} {taps : List FavoriteEpisode}
variable {pending : List (ι × FavoriteEpisode)} {x : ι × FavoriteEpisode}

omit [DecidableEq ι] in
theorem congr (h : Taps favorites rows taps pending)
    (hpends : ∀ y, favorites'.Pends y ↔ favorites.Pends y)
    (hrows : favorites'.managers.storedRows = favorites.managers.storedRows) :
    Taps favorites' rows taps pending where
  nodup := h.nodup
  mem_pending y := (h.mem_pending y).trans (hpends y).symm
  foldl_tap := hrows ▸ h.foldl_tap

omit [DecidableEq ι] in
/-- A press makes a tap pending. -/
theorem press (h : Taps favorites rows taps pending) (hnew : ¬ favorites.Pends x)
    (hpends : ∀ y, favorites'.Pends y ↔ favorites.Pends y ∨ y = x)
    (hrows : favorites'.managers.storedRows = favorites.managers.storedRows) :
    Taps favorites' rows (taps ++ [x.2]) (pending ++ [x]) where
  nodup := List.nodup_append.mpr ⟨h.nodup, List.nodup_singleton x, fun y hy z hz heq =>
    hnew ((h.mem_pending x).mp (List.mem_singleton.mp hz ▸ heq ▸ hy))⟩
  mem_pending y := by rw [List.mem_append, List.mem_singleton, h.mem_pending, hpends]
  foldl_tap := by
    rw [List.foldl_append, h.foldl_tap, List.foldl_append, hrows]
    rfl

/-- A call brings one of the pending taps to the store, whatever was pressed before it. -/
theorem call (h : Taps favorites rows taps pending) (hseparate : Separate favorites)
    (hx : favorites.Pends x) (hpends : ∀ y, favorites'.Pends y ↔ y ≠ x ∧ favorites.Pends y)
    (hrows : favorites'.managers.storedRows = x.2.tap favorites.managers.storedRows) :
    Taps favorites' rows taps (pending.erase x) where
  nodup := h.nodup.erase x
  mem_pending y := by rw [h.nodup.mem_erase_iff, h.mem_pending, hpends]
  foldl_tap := by
    have hperm := List.perm_cons_erase ((h.mem_pending x).mpr hx)
    rw [h.foldl_tap, hperm.foldl_eq' (fun y hy z hz rows =>
      hseparate.tap_comm ((h.mem_pending y).mp hy) ((h.mem_pending z).mp hz) rows), hrows]
    rfl

end Taps

theorem Taps.step {rows : Multiset EpisodeSaved} {taps : List FavoriteEpisode}
    {pending : List (ι × FavoriteEpisode)} (h : Taps favorites rows taps pending)
    (hseparate : Separate favorites) (hclean : favorites.managers.Clean)
    (hknowing : Knowing favorites) (hcalm : Calm favorites e) (hen : Enabled favorites e)
    (hstep : favorites.step e = .ok favorites') :
    ∃ pending', Taps favorites' rows (taps ++ (favorites.pressed e).toList) pending' := by
  have hrows := storedRows_step hclean hknowing hcalm hen hstep
  cases he : favorites.buttonEvent e with
  | none =>
    obtain ⟨hpressed, hcalled⟩ := pressed_of_buttonEvent_eq_none he
    rw [hcalled] at hrows
    rw [hpressed, Option.toList_none, List.append_nil]
    exact ⟨pending, h.congr (fun _ => pends_of_buttonEvent_eq_none hen hstep he) hrows⟩
  | some event =>
    obtain ⟨player, e'⟩ := event
    obtain ⟨opened, hopened, hactive⟩ := active_of_buttonEvent
      (fun player hplayer => (hseparate.presented player hplayer).imp fun _ h => h.1) hcalm hen he
    have hallows := (allows_of_enabled hclean hknowing hcalm hen hstep he hopened).1
    have hpending := (hknowing player opened hopened hactive).pending_step hallows
    have hpends := fun x => (pends_of_buttonEvent hstep he hopened (x := x)).trans
      (or_congr_left (and_congr_right fun _ => and_congr_right fun _ => hpending))
    have hkinds := pressed_of_buttonEvent he hopened
    -- what is neither a press nor a call leaves the pending taps and the store
    have hother : OpenedPlayer.pendingAfter opened.Pending e' = opened.Pending →
        favorites.pressed e = none ∧ favorites.called e = none →
        ∃ pending', Taps favorites' rows (taps ++ (favorites.pressed e).toList) pending' := by
      rintro hafter ⟨hpressed, hcalled⟩
      rw [hcalled] at hrows
      rw [hpressed, Option.toList_none, List.append_nil]
      refine ⟨pending, h.congr (fun x => ?_) hrows⟩
      rw [hpends, hafter, ← pends_iff hopened]
    cases e' with
    | viewWillAppear => exact hother rfl hkinds
    | clickBegins => exact hother rfl hkinds
    | checkCalls result => exact hother rfl hkinds
    | checkResumes found => exact hother rfl hkinds
    | clickResumes favorite => exact hother rfl hkinds
    | actionPressFavoriteButton =>
      obtain ⟨hpressed, hcalled⟩ := hkinds
      have hnot : ¬ opened.Pending := by
        simp only [OpenedPlayer.Pending, show opened.tasks = [] from hallows]
        simp
      rw [hcalled] at hrows
      rw [hpressed]
      refine ⟨_, h.press (x := (player, opened.player.favoriteEpisode)) ?_ (fun y => ?_) hrows⟩
      · rw [pends_iff hopened]
        simp [hnot]
      · rw [hpends, pends_iff hopened (x := y), Prod.ext_iff]
        simp only [hnot, OpenedPlayer.pendingAfter, and_true, and_false, false_or,
          eq_comm (a := y.2)]
        by_cases hplayer : y.1 = player <;> simp [hplayer]
    | clickCalls favorite result =>
      obtain ⟨hpressed, hcalled⟩ := hkinds
      have hyes : opened.Pending := .inr ⟨favorite, hallows⟩
      rw [hcalled] at hrows
      rw [hpressed, Option.toList_none, List.append_nil]
      refine ⟨_, h.call (x := (player, opened.player.favoriteEpisode)) hseparate
        ⟨opened, hopened, rfl, hyes⟩ (fun y => ?_) hrows⟩
      have hne : y ≠ (player, opened.player.favoriteEpisode) ↔
          ¬ (y.1 = player ∧ opened.player.favoriteEpisode = y.2) := by
        rw [ne_eq, Prod.ext_iff, eq_comm (a := y.2)]
      rw [hpends, pends_iff hopened (x := y), hne]
      simp only [hyes, OpenedPlayer.pendingAfter, and_true, and_false, false_or]
      by_cases hplayer : y.1 = player <;> simp [hplayer]

theorem taps_of_run (h : ((machine ι objects).when Calm).Run es favorites) :
    ∃ pending, Taps favorites (objects.val.map ManagedObject.row)
      ((machine ι objects).trace pressed es) pending := by
  induction h with
  | nil =>
    refine ⟨[], List.nodup_nil, fun x => iff_of_false List.not_mem_nil ?_, rfl⟩
    rintro ⟨opened, hopened, -⟩
    cases hopened
  | snoc hrun hen hstep ih =>
    obtain ⟨pending, htaps⟩ := ih
    rw [hrun.of_when.trace_snoc]
    exact htaps.step (separate_of_run hrun) (clean_of_run hrun) (knowing_of_run hrun) hen.2 hen.1
      hstep

/-- Once no tap is pending, the store holds what the taps leave. -/
theorem storedRows_of_run (h : ((machine ι objects).when Calm).Run es favorites)
    (hrest : ∀ player, ∀ opened ∈ favorites.players player, ¬ opened.Pending) :
    favorites.managers.storedRows = ((machine ι objects).trace pressed es).foldl
      (fun rows episode => episode.tap rows) (objects.val.map ManagedObject.row) := by
  obtain ⟨pending, htaps⟩ := taps_of_run h
  have hnil : pending = [] := List.eq_nil_iff_forall_not_mem.mpr fun x hx => by
    obtain ⟨opened, hopened, -, hpending⟩ := (htaps.mem_pending x).mp hx
    exact hrest x.1 opened hopened hpending
  rw [htaps.foldl_tap, hnil]
  rfl

instance [Fintype ι] (favorites : Favorites ι) (episode : FavoriteEpisode) :
    Decidable (favorites.Free episode) := inferInstanceAs (Decidable (∀ _, ∀ _ ∈ _, _ → ¬ _))

instance [Fintype ι] (favorites : Favorites ι) (e : FavoritesEvent ι) :
    Decidable (favorites.Calm e) :=
  match e with
  | .didSelectRowAt _ _ => inferInstanceAs (Decidable (∀ _ ∈ _, Free _ _))
  | .openPlayer _ => inferInstanceAs (Decidable (Free _ _))
  | .playerWillAppear => inferInstanceAs (Decidable (∀ _ ∈ _, ∀ _ ∈ _, Free _ _))
  | .actionPressFavoriteButton => inferInstanceAs (Decidable (∀ _ ∈ _, ∀ _ ∈ _, Free _ _))
  | .checkCalls _ _ => inferInstanceAs (Decidable (_ = _))
  | .clickCalls _ _ _ _ => inferInstanceAs (Decidable (_ ∧ _ = _))
  | .viewWillAppear _ _ => inferInstanceAs (Decidable True)
  | .viewDidDisappear => inferInstanceAs (Decidable True)
  | .dismiss _ _ => inferInstanceAs (Decidable True)
  | .deinit _ => inferInstanceAs (Decidable True)
  | .clickBegins _ => inferInstanceAs (Decidable True)
  | .checkResumes _ _ => inferInstanceAs (Decidable True)
  | .clickResumes _ _ => inferInstanceAs (Decidable True)

end Favorites

/-- The favourites follow the taps. If a player starts a task only when no player with a task
    in flight conflicts with it, no fetch throws and saves succeed, then at rest the flag of the
    presented player is right, and once no tap is pending every manager sees the favourites
    that the taps leave, done at once and in the order of the presses. -/
theorem favorites_follow_taps {ι : Type} [DecidableEq ι] (objects : Finset ManagedObject)
    {es : List (FavoritesEvent ι)} {favorites : Favorites ι}
    (h : ((Favorites.machine ι objects).when Favorites.Calm).Run es favorites)
    (manager : Option ι) :
    (∀ player ∈ favorites.presented, ∀ opened ∈ favorites.players player, opened.tasks = [] →
      (opened.player.isFavorite = true ↔
        opened.player.favoriteEpisode.IsSaved (favorites.managers.rows manager))) ∧
    ((∀ player, ∀ opened ∈ favorites.players player, ¬ opened.Pending) →
      favorites.managers.rows manager =
        ((Favorites.machine ι objects).trace Favorites.pressed es).foldl
          (fun rows episode => episode.tap rows) (objects.val.map ManagedObject.row)) := by
  rw [(Favorites.clean_of_run h).rows_eq]
  constructor
  · intro player hpresented opened hopened htasks
    have hknows := Favorites.knowing_of_run h player opened hopened (.inr hpresented)
    rwa [OpenedPlayer.Knows, htasks] at hknows
  · exact Favorites.storedRows_of_run h

/-- The episodes of `"A"` and `"B"` are tapped, one after the other, and reach the store the
    other way round. -/
noncomputable def tappedBoth : List (FavoritesEvent Bool) :=
  [.didSelectRowAt true (selectionOf "A" "1"), .checkCalls true (some [⟨0, savedOfB⟩]),
    .checkResumes true false, .actionPressFavoriteButton, .clickBegins true,
    .dismiss .toList none, .didSelectRowAt false (selectionOf "B" "2"),
    .checkCalls false (some [⟨0, savedOfB⟩]), .checkResumes false true,
    .actionPressFavoriteButton, .clickBegins false,
    .clickCalls false true (some [⟨0, savedOfB⟩]) true, .clickCalls true false none true,
    .clickResumes true false]

theorem favorites_follow_taps_tappedBoth :
    ∃ favorites, (Favorites.machine Bool {⟨0, savedOfB⟩}).Run tappedBoth favorites ∧
      favorites.managers.rows none = {(playerOf "A" "1").favoriteEpisode.row} := by
  have hrun := Machine.run_of_replay
    ((Favorites.machine Bool {⟨0, savedOfB⟩}).when Favorites.Calm) tappedBoth (by decide)
  refine ⟨_, hrun.of_when, ((favorites_follow_taps {⟨0, savedOfB⟩} hrun none).2 ?_).trans ?_⟩
  · decide
  · decide

end BingePodcast
