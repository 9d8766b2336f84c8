import BingePodcast.Spec.FavoritesTaps
import Mathlib.Algebra.Order.Ring.Nat

/-!
# The tasks come to rest

A task of a player is a check of two steps or a click of three, and each of its steps waits for
nothing but its turn. So all tasks of the app come to an end, whatever else has happened and
whatever has failed, and the taps reach the store.

## Key results

- `Favorites.exists_step_of_task`: a task in flight can make its next step
- `Favorites.Accounts`: the steps done and the steps left are those of the tasks started
- `tasks_come_to_rest`: so every run can be continued until no task is in flight
- `taps_reach_store`: and after the last step the store holds what the taps leave
-/

namespace BingePodcast

/-- The steps that a task has before it. -/
def FavoriteTask.steps : FavoriteTask → ℕ
  | .check => 2
  | .checked _ => 1
  | .click => 3
  | .clicked _ => 2
  | .saved _ => 1

theorem FavoriteTask.steps_pos (task : FavoriteTask) : 0 < task.steps := by
  cases task <;> simp [steps]

namespace FavoritesEvent

variable {ι : Type}

/-- An event is a step of a task in flight. -/
def isStep : FavoritesEvent ι → Bool
  | .clickBegins _ | .checkCalls _ _ | .clickCalls _ _ _ _ | .checkResumes _ _
  | .clickResumes _ _ => true
  | .viewWillAppear _ _ | .viewDidDisappear | .didSelectRowAt _ _ | .openPlayer _ | .dismiss _ _
  | .deinit _ | .playerWillAppear | .actionPressFavoriteButton => false

/-- The steps of the task that an event starts. -/
def started : FavoritesEvent ι → ℕ
  | .didSelectRowAt _ _ | .openPlayer _ | .playerWillAppear => FavoriteTask.check.steps
  | .actionPressFavoriteButton => FavoriteTask.click.steps
  | .viewWillAppear _ _ | .viewDidDisappear | .dismiss _ _ | .deinit _ | .clickBegins _
  | .checkCalls _ _ | .clickCalls _ _ _ _ | .checkResumes _ _ | .clickResumes _ _ => 0

theorem started_of_isStep {e : FavoritesEvent ι} (h : e.isStep) : e.started = 0 := by
  cases e <;> first | rfl | cases h

end FavoritesEvent

/-! ## The steps of one player -/

namespace FavoriteButtonEvent

/-- The task that an event of the button advances. -/
def task : FavoriteButtonEvent → Option FavoriteTask
  | .viewWillAppear | .actionPressFavoriteButton => none
  | .clickBegins => some .click
  | .checkCalls _ => some .check
  | .clickCalls favorite _ => some (.clicked favorite)
  | .checkResumes found => some (.checked found)
  | .clickResumes favorite => some (.saved favorite)

/-- The steps of the task that an event of the button starts. -/
def started : FavoriteButtonEvent → ℕ
  | .viewWillAppear => FavoriteTask.check.steps
  | .actionPressFavoriteButton => FavoriteTask.click.steps
  | .clickBegins | .checkCalls _ | .clickCalls _ _ | .checkResumes _ | .clickResumes _ => 0

end FavoriteButtonEvent

namespace OpenedPlayer

variable {opened : OpenedPlayer}

/-- The steps that the tasks of a player have before them. -/
def stepsLeft (opened : OpenedPlayer) : ℕ := (opened.tasks.map FavoriteTask.steps).sum

theorem stepsLeft_eq_zero : opened.stepsLeft = 0 ↔ opened.tasks = [] := by
  rw [stepsLeft]
  cases opened.tasks with
  | nil => simp
  | cons task tasks =>
    have hpos := task.steps_pos
    simp only [List.map_cons, List.sum_cons, reduceCtorEq, iff_false]
    omega

/-- A task that gives way to what follows it. -/
theorem sum_steps_advance {tasks : List FavoriteTask} {task : FavoriteTask} (h : task ∈ tasks)
    (next : List FavoriteTask) :
    ((tasks.erase task ++ next).map FavoriteTask.steps).sum + task.steps =
      (tasks.map FavoriteTask.steps).sum + (next.map FavoriteTask.steps).sum := by
  have herase := List.sum_map_erase FavoriteTask.steps h
  rw [List.map_append, List.sum_append]
  omega

/-- An event of the button that advances no task starts one. -/
theorem tasks_start (opened : OpenedPlayer) {e : FavoriteButtonEvent} (h : e.task = none) :
    ∃ task : FavoriteTask, (opened.step e).tasks = opened.tasks ++ [task] ∧
      e.started = task.steps := by
  cases e with
  | viewWillAppear => exact ⟨.check, rfl, rfl⟩
  | actionPressFavoriteButton => exact ⟨.click, rfl, rfl⟩
  | clickBegins => cases h
  | checkCalls result => cases h
  | clickCalls favorite result => cases h
  | checkResumes found => cases h
  | clickResumes favorite => cases h

/-- A task that is advanced has one step less before it. -/
theorem tasks_advance (opened : OpenedPlayer) {e : FavoriteButtonEvent} {task : FavoriteTask}
    (h : e.task = some task) :
    e.started = 0 ∧ ∃ next : List FavoriteTask,
      (opened.step e).tasks = opened.tasks.erase task ++ next ∧
      (next.map FavoriteTask.steps).sum + 1 = task.steps := by
  cases e with
  | viewWillAppear => cases h
  | actionPressFavoriteButton => cases h
  | clickBegins =>
    obtain rfl := Option.some.inj h
    exact ⟨rfl, [.clicked opened.player.isFavorite], rfl, rfl⟩
  | checkCalls result =>
    obtain rfl := Option.some.inj h
    exact ⟨rfl, [.checked _], rfl, rfl⟩
  | clickCalls favorite result =>
    obtain rfl := Option.some.inj h
    exact ⟨rfl, [.saved favorite], rfl, rfl⟩
  | checkResumes found =>
    obtain rfl := Option.some.inj h
    exact ⟨rfl, [], rfl, rfl⟩
  | clickResumes favorite =>
    obtain rfl := Option.some.inj h
    exact ⟨rfl, [], rfl, rfl⟩

/-- An event of the button starts a task or makes a step. -/
theorem stepsLeft_step {e : FavoriteButtonEvent} (h : ∀ task ∈ e.task, task ∈ opened.tasks) :
    (opened.step e).stepsLeft + e.task.isSome.toNat = opened.stepsLeft + e.started := by
  cases htask : e.task with
  | none =>
    obtain ⟨task, htasks, hstarted⟩ := opened.tasks_start htask
    simp [stepsLeft, htasks, hstarted]
  | some task =>
    obtain ⟨hstarted, next, htasks, hsteps⟩ := opened.tasks_advance htask
    have hsum := sum_steps_advance (h task htask) next
    simp only [stepsLeft, htasks, hstarted, Option.isSome_some, Bool.toNat_true]
    omega

end OpenedPlayer

namespace Favorites

variable {ι : Type} {objects : Finset ManagedObject}
variable {favorites favorites' : Favorites ι} {es : List (FavoritesEvent ι)} {e : FavoritesEvent ι}
variable {player : ι} {opened : OpenedPlayer} {e' : FavoriteButtonEvent} {players : Finset ι}

/-- No task is in flight. -/
def AtRest (favorites : Favorites ι) : Prop :=
  ∀ player, ∀ opened ∈ favorites.players player, opened.tasks = []

/-! ## The next step of a task -/

/-- A task in flight can make its next step, with a fetch and a save that succeed. -/
theorem exists_step_of_task [DecidableEq ι] {task : FavoriteTask}
    (h : favorites.HasTask player task) :
    ∃ e favorites', e.isStep ∧ favorites.Enabled e ∧ favorites.Calm e ∧
      favorites.step e = .ok favorites' := by
  -- a fetch may list the objects of its context in any order, so in this one
  have hfetches : favorites.Fetches (some player)
      (some (favorites.managers.objects (some player)).toList) := by
    rintro result ⟨⟩
    exact Finset.coe_toList _
  cases task with
  | check => exact ⟨.checkCalls player _, _, rfl, ⟨h, hfetches⟩, rfl, rfl⟩
  | checked found => exact ⟨.checkResumes player found, _, rfl, h, trivial, rfl⟩
  | click => exact ⟨.clickBegins player, _, rfl, h, trivial, rfl⟩
  | clicked favorite =>
    -- the call adds or removes the episode of the player, so it needs to be opened
    obtain ⟨opened, hopened, -⟩ := id h
    refine ⟨.clickCalls player favorite (some (favorites.managers.objects (some player)).toList)
      true, ?_⟩
    simp only [step, Option.mem_def.mp hopened]
    exact ⟨_, rfl, ⟨h, hfetches⟩, ⟨fun _ => rfl, rfl⟩, rfl⟩
  | saved favorite => exact ⟨.clickResumes player favorite, _, rfl, h, trivial, rfl⟩

/-- As long as a task is in flight, some task can make its next step. -/
theorem exists_step_of_not_atRest [DecidableEq ι] (h : ¬ favorites.AtRest) :
    ∃ e favorites', e.isStep ∧ favorites.Enabled e ∧ favorites.Calm e ∧
      favorites.step e = .ok favorites' := by
  simp only [AtRest, not_forall] at h
  obtain ⟨player, opened, hopened, htasks⟩ := h
  obtain ⟨task, htask⟩ := List.exists_mem_of_ne_nil _ htasks
  exact exists_step_of_task ⟨opened, hopened, htask⟩

/-! ## The steps of all players -/

/-- What an event starts and whether it is a step can be seen at the button. -/
theorem isStep_of_buttonEvent (he : favorites.buttonEvent e = some (player, e')) :
    e.isStep = e'.task.isSome ∧ e.started = e'.started := by
  cases e with
  | viewWillAppear enumeration fetch => cases he
  | viewDidDisappear => cases he
  | didSelectRowAt player' selection => cases he
  | openPlayer player' => cases he
  | dismiss enumeration fetch => cases he
  | deinit player' => cases he
  | playerWillAppear =>
    obtain ⟨player', -, heq⟩ := Option.map_eq_some_iff.mp he
    obtain ⟨rfl, rfl⟩ := Prod.mk.inj heq
    exact ⟨rfl, rfl⟩
  | actionPressFavoriteButton =>
    obtain ⟨player', -, heq⟩ := Option.map_eq_some_iff.mp he
    obtain ⟨rfl, rfl⟩ := Prod.mk.inj heq
    exact ⟨rfl, rfl⟩
  | clickBegins player' =>
    obtain ⟨rfl, rfl⟩ := Prod.mk.inj (Option.some.inj he)
    exact ⟨rfl, rfl⟩
  | checkCalls player' fetch =>
    obtain ⟨rfl, rfl⟩ := Prod.mk.inj (Option.some.inj he)
    exact ⟨rfl, rfl⟩
  | clickCalls player' favorite fetch saved =>
    obtain ⟨rfl, rfl⟩ := Prod.mk.inj (Option.some.inj he)
    exact ⟨rfl, rfl⟩
  | checkResumes player' found =>
    obtain ⟨rfl, rfl⟩ := Prod.mk.inj (Option.some.inj he)
    exact ⟨rfl, rfl⟩
  | clickResumes player' favorite =>
    obtain ⟨rfl, rfl⟩ := Prod.mk.inj (Option.some.inj he)
    exact ⟨rfl, rfl⟩

/-- The task that an event of the button advances is in flight. -/
theorem hasTask_of_buttonEvent (hen : Enabled favorites e)
    (he : favorites.buttonEvent e = some (player, e')) :
    ∀ task ∈ e'.task, favorites.HasTask player task := by
  have henabled := enabled_of_buttonEvent hen he
  rintro task htask
  cases e' with
  | viewWillAppear => cases htask
  | actionPressFavoriteButton => cases htask
  | clickBegins => exact Option.some.inj htask ▸ henabled
  | checkCalls result => exact Option.some.inj htask ▸ henabled
  | clickCalls favorite result => exact Option.some.inj htask ▸ henabled
  | checkResumes found => exact Option.some.inj htask ▸ henabled
  | clickResumes favorite => exact Option.some.inj htask ▸ henabled

variable [DecidableEq ι]

/-- Any other event is no step, and starts a check if it opens a player. -/
theorem isStep_of_buttonEvent_eq_none (hen : Enabled favorites e)
    (hstep : favorites.step e = .ok favorites') (he : favorites.buttonEvent e = none) :
    e.isStep = false ∧ e.started = (opening e).elim 0 fun _ => FavoriteTask.check.steps := by
  cases e with
  | didSelectRowAt player selection =>
    obtain ⟨controller, hselect, -⟩ := Except.bind_eq_ok.mp hstep
    rw [opening, hselect]
    exact ⟨rfl, rfl⟩
  | playerWillAppear => exact absurd (Option.map_eq_none_iff.mp he) hen
  | actionPressFavoriteButton => exact absurd (Option.map_eq_none_iff.mp he) hen
  | viewWillAppear enumeration fetch => exact ⟨rfl, rfl⟩
  | viewDidDisappear => exact ⟨rfl, rfl⟩
  | openPlayer player => exact ⟨rfl, rfl⟩
  | dismiss enumeration fetch => exact ⟨rfl, rfl⟩
  | deinit player => exact ⟨rfl, rfl⟩
  | clickBegins player => cases he
  | checkCalls player fetch => cases he
  | clickCalls player favorite fetch saved => cases he
  | checkResumes player found => cases he
  | clickResumes player favorite => cases he

/-- The steps that the tasks of some players have before them. -/
def stepsLeft (favorites : Favorites ι) (players : Finset ι) : ℕ :=
  ∑ player ∈ players, (favorites.players player).elim 0 OpenedPlayer.stepsLeft

theorem stepsLeft_update {f : Option OpenedPlayer} (hplayer : player ∈ players)
    (hplayers : favorites'.players = Function.update favorites.players player f) :
    favorites'.stepsLeft players + (favorites.players player).elim 0 OpenedPlayer.stepsLeft =
      favorites.stepsLeft players + f.elim 0 OpenedPlayer.stepsLeft := by
  have hupdate : (fun player' => (favorites'.players player').elim 0 OpenedPlayer.stepsLeft) =
      Function.update (fun player' => (favorites.players player').elim 0 OpenedPlayer.stepsLeft)
        player (f.elim 0 OpenedPlayer.stepsLeft) := by
    funext player'
    rw [hplayers]
    by_cases hne : player' = player
    · subst hne
      rw [Function.update_self, Function.update_self]
    · rw [Function.update_of_ne hne, Function.update_of_ne hne]
  rw [stepsLeft, hupdate]
  exact Finset.sum_update_add hplayer _ _

/-- The steps done and the steps left are those of the tasks that were started. -/
structure Accounts (favorites : Favorites ι) (es : List (FavoritesEvent ι))
    (players : Finset ι) : Prop where
  closed : ∀ player ∉ players, favorites.players player = none
  steps : favorites.stepsLeft players + es.countP FavoritesEvent.isStep =
    (es.map FavoritesEvent.started).sum

theorem Accounts.step (h : Accounts favorites es players)
    (hrun : (machine ι objects).Run es favorites) (hen : Enabled favorites e)
    (hstep : favorites.step e = .ok favorites') :
    ∃ players', Accounts favorites' (es ++ [e]) players' := by
  have hcount : (es ++ [e]).countP FavoritesEvent.isStep =
      es.countP FavoritesEvent.isStep + e.isStep.toNat := by
    rw [List.countP_append, List.countP_singleton]
    cases e.isStep <;> rfl
  have hsum : ((es ++ [e]).map FavoritesEvent.started).sum =
      (es.map FavoritesEvent.started).sum + e.started := by
    simp
  have hsteps := h.steps
  cases he : favorites.buttonEvent e with
  | some event =>
    obtain ⟨player, e'⟩ := event
    obtain ⟨hisStep, hstarted⟩ := isStep_of_buttonEvent he
    obtain ⟨opened, hopened⟩ := opened_of_buttonEvent (opened_of_presented hrun) hen he
    have hplayers : favorites'.players =
        Function.update favorites.players player (some (opened.step e')) := by
      rw [(players_of_buttonEvent hstep he).1, updatePlayer, hopened, Option.map_some]
    have hplayer : player ∈ players := by
      by_contra hnot
      cases (h.closed player hnot).symm.trans hopened
    -- of all players, only this one has more or fewer steps left
    have hleft := stepsLeft_update hplayer hplayers
    have hone := opened.stepsLeft_step fun task htask =>
      (hasTask_of_buttonEvent hen he task htask).mem hopened
    rw [hopened] at hleft
    simp only [Option.elim_some] at hleft
    refine ⟨players, fun player' hplayer' => ?_, ?_⟩
    · have hne : player' ≠ player := fun heq => hplayer' (heq ▸ hplayer)
      rw [hplayers, Function.update_of_ne hne]
      exact h.closed player' hplayer'
    · rw [hcount, hsum, hisStep, hstarted]
      omega
  | none =>
    obtain ⟨hisStep, hstarted⟩ := isStep_of_buttonEvent_eq_none hen hstep he
    cases players_of_buttonEvent_eq_none hen hstep he with
    | inl hsame =>
      -- nothing is started and nothing done
      refine ⟨players, fun player hplayer => hsame.1 ▸ h.closed player hplayer, ?_⟩
      rw [hsame.2.2, Option.elim_none] at hstarted
      rw [hcount, hsum, hisStep, hstarted, stepsLeft, hsame.1]
      exact hsteps
    | inr hnew =>
      obtain ⟨player, controller, hopens, hnone, -, -, hplayers⟩ := hnew
      -- a player that is not opened has no steps left
      have hinsert : favorites.stepsLeft (insert player players) = favorites.stepsLeft players :=
        Finset.sum_insert_of_eq_zero_if_notMem fun _ => by rw [hnone, Option.elim_none]
      have hleft := stepsLeft_update (Finset.mem_insert_self player players) hplayers
      rw [hnone, hinsert] at hleft
      simp only [Option.elim_none, Option.elim_some] at hleft
      refine ⟨insert player players, fun player' hplayer' => ?_, ?_⟩
      · rw [Finset.mem_insert, not_or] at hplayer'
        rw [hplayers, Function.update_of_ne hplayer'.1]
        exact h.closed player' hplayer'.2
      · rw [hopens, Option.elim_some] at hstarted
        rw [hcount, hsum, hisStep, hstarted]
        simp only [OpenedPlayer.stepsLeft, List.map_cons, List.map_nil, List.sum_singleton] at hleft
        simp only [Bool.toNat_false]
        omega

theorem accounts_of_run (h : (machine ι objects).Run es favorites) :
    ∃ players, Accounts favorites es players := by
  -- by induction on the run; `players` are those opened so far
  induction h with
  | nil => exact ⟨∅, fun _ _ => rfl, rfl⟩
  | snoc hrun hen hstep ih =>
    obtain ⟨players, haccounts⟩ := ih
    exact haccounts.step hrun hen hstep

omit [DecidableEq ι] in
/-- The tasks are at rest when no steps are left. -/
theorem Accounts.atRest_iff (h : Accounts favorites es players) :
    favorites.AtRest ↔ es.countP FavoritesEvent.isStep = (es.map FavoritesEvent.started).sum := by
  have hleft : favorites.AtRest ↔ favorites.stepsLeft players = 0 := by
    rw [stepsLeft, Finset.sum_eq_zero_iff]
    constructor
    · intro hrest player _
      cases hopened : favorites.players player with
      | none => rfl
      | some opened => exact OpenedPlayer.stepsLeft_eq_zero.mpr (hrest player opened hopened)
    · intro hzero player opened hopened
      have hplayer : player ∈ players := by
        by_contra hnot
        cases (h.closed player hnot).symm.trans hopened
      have hnone := hzero player hplayer
      rw [Option.mem_def.mp hopened] at hnone
      exact OpenedPlayer.stepsLeft_eq_zero.mp hnone
  have hsteps := h.steps
  rw [hleft]
  omega

/-- In every run the steps done are at most those of the tasks started, and at rest they are
    exactly these. -/
theorem countP_isStep_of_run (h : (machine ι objects).Run es favorites) :
    es.countP FavoritesEvent.isStep ≤ (es.map FavoritesEvent.started).sum ∧
      (favorites.AtRest ↔
        es.countP FavoritesEvent.isStep = (es.map FavoritesEvent.started).sum) := by
  obtain ⟨players, haccounts⟩ := accounts_of_run h
  exact ⟨haccounts.steps ▸ Nat.le_add_left _ _, haccounts.atRest_iff⟩

omit [DecidableEq ι] in
/-- What a run that goes on by steps alone has done, and what it has started. -/
theorem countP_isStep_append (es : List (FavoritesEvent ι)) {es' : List (FavoritesEvent ι)}
    (h : ∀ e ∈ es', e.isStep) :
    (es ++ es').countP FavoritesEvent.isStep = es.countP FavoritesEvent.isStep + es'.length ∧
      ((es ++ es').map FavoritesEvent.started).sum = (es.map FavoritesEvent.started).sum := by
  constructor
  · rw [List.countP_append, List.countP_eq_length.mpr h]
  · rw [List.map_append, List.sum_append, List.sum_eq_zero (l := es'.map _), Nat.add_zero]
    intro n hn
    obtain ⟨e, he, rfl⟩ := List.mem_map.mp hn
    exact FavoritesEvent.started_of_isStep (h e he)

/-- A run can go on by steps alone until the tasks are at rest, whichever condition these steps
    must meet, if a task in flight can always make one that meets it. -/
theorem exists_atRest {C : Favorites ι → FavoritesEvent ι → Prop}
    (hstep : ∀ favorites : Favorites ι, ¬ favorites.AtRest → ∃ e favorites', e.isStep ∧
      favorites.Enabled e ∧ C favorites e ∧ favorites.step e = .ok favorites')
    (h : ((machine ι objects).when C).Run es favorites) :
    ∃ es' favorites', (∀ e ∈ es', e.isStep) ∧
      ((machine ι objects).when C).Run (es ++ es') favorites' ∧ favorites'.AtRest := by
  refine h.exists_continuation (n := (es.map FavoritesEvent.started).sum) ?_ ?_
  · intro _ favorites _ hrest
    obtain ⟨e, favorites', he, hen, hC, hst⟩ := hstep favorites hrest
    exact ⟨e, favorites', he, ⟨hen, hC⟩, hst⟩
  · -- there are only so many steps to make
    intro es' favorites' hall hrun
    have hle := (countP_isStep_of_run hrun.of_when).1
    obtain ⟨hcount, hsum⟩ := countP_isStep_append es hall
    omega

omit [DecidableEq ι] in
/-- A step of a task is no press. -/
theorem pressed_of_isStep (h : e.isStep) : favorites.pressed e = none := by
  cases e <;> first | rfl | cases h

omit [DecidableEq ι] in
theorem AtRest.not_pending (h : favorites.AtRest) :
    ∀ player, ∀ opened ∈ favorites.players player, ¬ opened.Pending := by
  intro player opened hopened
  simp [OpenedPlayer.Pending, h player opened hopened]

end Favorites

/-- The tasks come to rest. In every run, whatever fails, the tasks have made at most two steps
    for each appearance of a player and three for each press, and exactly as many when none is
    in flight. So every run can go on by steps of the tasks alone, without a new event of the
    user, until none is. -/
theorem tasks_come_to_rest {ι : Type} [DecidableEq ι] (objects : Finset ManagedObject)
    {es : List (FavoritesEvent ι)} {favorites : Favorites ι}
    (h : (Favorites.machine ι objects).Run es favorites) :
    es.countP FavoritesEvent.isStep ≤ (es.map FavoritesEvent.started).sum ∧
    (favorites.AtRest ↔
      es.countP FavoritesEvent.isStep = (es.map FavoritesEvent.started).sum) ∧
    ∃ es' favorites', (∀ e ∈ es', e.isStep) ∧
      (Favorites.machine ι objects).Run (es ++ es') favorites' ∧ favorites'.AtRest := by
  obtain ⟨hle, hrest⟩ := Favorites.countP_isStep_of_run h
  refine ⟨hle, hrest, ?_⟩
  have hstep : ∀ favorites : Favorites ι, ¬ favorites.AtRest → ∃ e favorites', e.isStep ∧
      favorites.Enabled e ∧ True ∧ favorites.step e = .ok favorites' := by
    intro favorites hnot
    obtain ⟨e, favorites', he, hen, -, hstep⟩ := favorites.exists_step_of_not_atRest hnot
    exact ⟨e, favorites', he, hen, trivial, hstep⟩
  obtain ⟨es', favorites', hall, hrun, hrest'⟩ :=
    Favorites.exists_atRest hstep (h.when_of_all fun _ _ => trivial)
  exact ⟨es', favorites', hall, hrun.of_when, hrest'⟩

/-- The episode of `"A"` is tapped twice before its player has checked anything, and the save of
    the first tap fails. -/
def tappedTwice : List (FavoritesEvent Bool) :=
  [.didSelectRowAt true (selectionOf "A" "1"), .actionPressFavoriteButton,
    .actionPressFavoriteButton, .clickBegins true, .clickCalls true false none false]

theorem tasks_come_to_rest_tappedTwice : ∃ es favorites, (∀ e ∈ es, e.isStep) ∧
    (Favorites.machine Bool {⟨0, savedOfB⟩}).Run (tappedTwice ++ es) favorites ∧
    favorites.AtRest := by
  have hrun := Machine.run_of_replay (Favorites.machine Bool {⟨0, savedOfB⟩}) tappedTwice
    (by decide)
  exact (tasks_come_to_rest {⟨0, savedOfB⟩} hrun).2.2

/-- The taps reach the store. A calm run can go on by calm steps of the tasks alone until no
    task is in flight. However these steps interleave, they are equally many, and then every
    manager sees the favourites that the taps leave, done at once and in the order of the
    presses. -/
theorem taps_reach_store {ι : Type} [DecidableEq ι] (objects : Finset ManagedObject)
    {es : List (FavoritesEvent ι)} {favorites : Favorites ι}
    (h : ((Favorites.machine ι objects).when Favorites.Calm).Run es favorites) :
    (∃ es' favorites', (∀ e ∈ es', e.isStep) ∧
      ((Favorites.machine ι objects).when Favorites.Calm).Run (es ++ es') favorites' ∧
      favorites'.AtRest) ∧
    ∀ es' favorites', (∀ e ∈ es', e.isStep) →
      ((Favorites.machine ι objects).when Favorites.Calm).Run (es ++ es') favorites' →
      favorites'.AtRest →
      es.countP FavoritesEvent.isStep + es'.length = (es.map FavoritesEvent.started).sum ∧
      ∀ manager, favorites'.managers.rows manager =
        ((Favorites.machine ι objects).trace Favorites.pressed es).foldl
          (fun rows episode => episode.tap rows) (objects.val.map ManagedObject.row) := by
  refine ⟨Favorites.exists_atRest (fun favorites => favorites.exists_step_of_not_atRest) h, ?_⟩
  intro es' favorites' hall hrun hrest
  constructor
  · obtain ⟨hcount, hsum⟩ := Favorites.countP_isStep_append es hall
    rw [← hcount, ← hsum]
    exact (Favorites.countP_isStep_of_run hrun.of_when).2.mp hrest
  · intro manager
    -- the steps press no button, so the taps are those of the run before
    have hnone : ∀ favorites : Favorites ι, ∀ e ∈ es', favorites.pressed e = none :=
      fun favorites e he => Favorites.pressed_of_isStep (hall e he)
    have htrace := hrun.of_when.trace_append_of_none hnone
    rw [(Favorites.clean_of_run hrun).rows_eq, ← htrace]
    exact Favorites.storedRows_of_run hrun hrest.not_pending

/-- The episode of `"A"` is tapped, and its player is dismissed before the tap has reached the
    store. -/
noncomputable def tappedAndDismissed : List (FavoritesEvent Bool) :=
  [.didSelectRowAt true (selectionOf "A" "1"), .checkCalls true (some [⟨0, savedOfB⟩]),
    .checkResumes true false, .actionPressFavoriteButton, .dismiss .toList none]

theorem taps_reach_store_tappedAndDismissed : ∃ es favorites, es.length = 3 ∧
    (Favorites.machine Bool {⟨0, savedOfB⟩}).Run (tappedAndDismissed ++ es) favorites ∧
    favorites.managers.rows none = {(playerOf "A" "1").favoriteEpisode.row, savedOfB} := by
  have hrun := Machine.run_of_replay
    ((Favorites.machine Bool {⟨0, savedOfB⟩}).when Favorites.Calm) tappedAndDismissed (by decide)
  obtain ⟨⟨es, favorites, hall, hrun', hrest⟩, hends⟩ := taps_reach_store {⟨0, savedOfB⟩} hrun
  obtain ⟨hlength, hrows⟩ := hends es favorites hall hrun' hrest
  refine ⟨es, favorites, ?_, hrun'.of_when, (hrows none).trans ?_⟩
  · exact Nat.add_left_cancel (n := 2) hlength
  · decide

end BingePodcast
