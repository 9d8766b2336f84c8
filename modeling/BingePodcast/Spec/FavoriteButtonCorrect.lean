import BingePodcast.Spec.FavoritesCorrect

/-!
# The favourite button

A task of the player that resumes writes what it read or did at its call, which later calls
may have overtaken. This file says exactly when the button still tells the truth once no
task is in flight, and exactly when the store holds no episode twice.

## Key results

- `FavoriteButton.latest_of_run`: the store agrees with the most recent call
- `button_tells_truth_iff`: the flag agrees with the store at rest exactly when each task that
  leaves the button at rest has the outcome of the most recent call
- `no_duplicate_iff`: rows stay unique exactly when every add comes after a call that found
  or left the episode unsaved
-/

namespace BingePodcast

/-! ## The pieces of the tasks -/

namespace PlayerViewController

variable {player : PlayerViewController} {context : Multiset EpisodeSaved}
variable {result : List EpisodeSaved}

@[simp] theorem title_checkIfPodcastIsFavorite (found : Bool) :
    (player.checkIfPodcastIsFavorite found).title = player.title := by
  cases found <;> rfl

@[simp] theorem subtitle_checkIfPodcastIsFavorite (found : Bool) :
    (player.checkIfPodcastIsFavorite found).subtitle = player.subtitle := by
  cases found <;> rfl

@[simp] theorem isFavorite_checkIfPodcastIsFavorite (found : Bool) :
    (player.checkIfPodcastIsFavorite found).isFavorite = found := by
  cases found <;> rfl

@[simp] theorem title_favoriteButtonClick (favorite : Bool) :
    (player.favoriteButtonClick favorite).title = player.title := by
  cases favorite <;> rfl

@[simp] theorem subtitle_favoriteButtonClick (favorite : Bool) :
    (player.favoriteButtonClick favorite).subtitle = player.subtitle := by
  cases favorite <;> rfl

@[simp] theorem isFavorite_favoriteButtonClick (favorite : Bool) :
    (player.favoriteButtonClick favorite).isFavorite = !favorite := by
  cases favorite <;> rfl

/-- The check does not change the episode that a click would add. -/
@[simp] theorem favoriteEpisode_checkIfPodcastIsFavorite (found : Bool) :
    (player.checkIfPodcastIsFavorite found).favoriteEpisode = player.favoriteEpisode := by
  cases found <;> rfl

/-- Neither does a click. -/
@[simp] theorem favoriteEpisode_favoriteButtonClick (favorite : Bool) :
    (player.favoriteButtonClick favorite).favoriteEpisode = player.favoriteEpisode := by
  cases favorite <;> rfl

/-- There is a row of the title and subtitle of the player. -/
def IsSaved (player : PlayerViewController) (context : Multiset EpisodeSaved) : Prop :=
  ∃ r ∈ context, r.titleEpisode = some player.title ∧ r.subtitleEpisode = some player.subtitle

theorem checkIfEpisodeIsFavorite_iff (h : (result : Multiset EpisodeSaved) = context) :
    player.checkIfEpisodeIsFavorite (some result) ↔ player.IsSaved context :=
  CoreDataManager.checkIfEpisodeIsFavorite_iff h

/-- A click saves the episode if it has read the flag down, else it removes all its rows. -/
theorem isSaved_favoriteButtonClickCall (h : (result : Multiset EpisodeSaved) = context)
    (favorite : Bool) :
    player.IsSaved (player.favoriteButtonClickCall favorite context (some result)) ↔
      (!favorite) = true := by
  cases favorite with
  | false => exact iff_of_true ⟨_, Multiset.mem_cons_self _ _, rfl, rfl⟩ rfl
  | true =>
    -- no row of the title and subtitle is kept
    refine iff_of_false ?_ (by simp)
    rintro ⟨r, hr, htitle, hsubtitle⟩
    rw [favoriteButtonClickCall, if_neg (by simp), removeEpisodeFromFavorite,
      CoreDataManager.removeEpisodeFromFavorite_eq h, Multiset.mem_filter] at hr
    exact hr.2 (by simp [CoreDataManager.isRemoved, htitle, hsubtitle])

end PlayerViewController

/-- What a task in flight has found or done at its call. -/
def FavoriteTask.outcome : FavoriteTask → Option Bool
  | .checked found => some found
  | .saved favorite => some (!favorite)
  | .check | .click | .clicked _ => none

/-- The task that an event lets finish. -/
def FavoriteButtonEvent.finishes : FavoriteButtonEvent → Option FavoriteTask
  | .checkResumes found => some (.checked found)
  | .clickResumes favorite => some (.saved favorite)
  | .viewWillAppear | .actionPressFavoriteButton | .clickBegins | .checkCalls _
  | .clickCalls _ _ => none

namespace FavoriteButton

variable {player : PlayerViewController} {context : Multiset EpisodeSaved}
variable {button button' : FavoriteButton} {es : List FavoriteButtonEvent}
variable {e : FavoriteButtonEvent} {task : FavoriteTask}

/-- A task that finishes writes its outcome and changes nothing else. -/
theorem step_of_finishes (button : FavoriteButton) (h : e.finishes = some task) :
    (button.step e).tasks = button.tasks.erase task ∧
    (button.step e).context = button.context ∧
    (button.step e).outcomes = button.outcomes ∧
    (button.step e).player.title = button.player.title ∧
    (button.step e).player.subtitle = button.player.subtitle ∧
    task.outcome = some (button.step e).player.isFavorite := by
  cases e with
  | checkResumes found =>
    obtain rfl := Option.some.inj h
    simp [step, advance, FavoriteTask.outcome]
  | clickResumes favorite =>
    obtain rfl := Option.some.inj h
    simp [step, advance, FavoriteTask.outcome]
  | viewWillAppear => cases h
  | actionPressFavoriteButton => cases h
  | clickBegins => cases h
  | checkCalls result => cases h
  | clickCalls favorite result => cases h

theorem mem_tasks_of_finishes (hen : Enabled button e) (h : e.finishes = some task) :
    task ∈ button.tasks := by
  cases e <;> first | (obtain rfl := Option.some.inj h; exact hen) | cases h

/-- An event that lets no task finish leaves one in flight. -/
theorem tasks_ne_nil_of_finishes_eq_none (h : e.finishes = none) : (button.step e).tasks ≠ [] := by
  cases e with
  | viewWillAppear => simp [step]
  | actionPressFavoriteButton => simp [step]
  | clickBegins => simp [step, advance]
  | checkCalls result => simp [step, advance]
  | clickCalls favorite result => simp [step, advance]
  | checkResumes found => cases h
  | clickResumes favorite => cases h

/-! ## The most recent call -/

/-- A call has been made before a task resumes, and the store agrees with the most recent
    one. -/
structure Latest (button : FavoriteButton) : Prop where
  called : ∀ task ∈ button.tasks, task.outcome ≠ none → button.outcomes ≠ []
  latest : ∀ found, button.outcomes.getLast? = some found →
    (button.player.IsSaved button.context ↔ found = true)

namespace Latest

/-- A task that has made no call joins some of those in flight. -/
private theorem called_append (h : Latest button) {tasks : List FavoriteTask}
    (htasks : ∀ task ∈ tasks, task ∈ button.tasks) {next : FavoriteTask}
    (hnext : next.outcome = none) :
    ∀ task ∈ tasks ++ [next], task.outcome ≠ none → button.outcomes ≠ [] := by
  intro task hmem houtcome
  rcases List.mem_append.mp hmem with hmem | hmem
  · exact h.called task (htasks task hmem) houtcome
  · rw [List.mem_singleton.mp hmem] at houtcome
    exact absurd hnext houtcome

/-- A call makes its own outcome the most recent one. -/
private theorem of_call {found : Bool} (houtcomes : button'.outcomes = button.outcomes ++ [found])
    (hsaved : button'.player.IsSaved button'.context ↔ found = true) : Latest button' where
  called _ _ _ := by simp [houtcomes]
  latest found' hlast := by
    rw [houtcomes, List.getLast?_concat, Option.some.injEq] at hlast
    exact hlast ▸ hsaved

/-- One event keeps the agreement. -/
theorem step (h : Latest button) (hen : Enabled button e) : Latest (button.step e) := by
  cases hfinishes : e.finishes with
  | some task =>
    obtain ⟨htasks, hcontext, houtcomes, htitle, hsubtitle, -⟩ :=
      step_of_finishes button hfinishes
    refine ⟨fun task' hmem houtcome => ?_, fun found hlast => ?_⟩
    · rw [htasks] at hmem
      exact houtcomes ▸ h.called task' (List.mem_of_mem_erase hmem) houtcome
    · rw [PlayerViewController.IsSaved, hcontext, htitle, hsubtitle]
      exact h.latest found (houtcomes ▸ hlast)
  | none =>
    cases e with
    | viewWillAppear => exact ⟨h.called_append (fun _ => id) rfl, h.latest⟩
    | actionPressFavoriteButton => exact ⟨h.called_append (fun _ => id) rfl, h.latest⟩
    | clickBegins => exact ⟨h.called_append (fun _ => List.mem_of_mem_erase) rfl, h.latest⟩
    | checkCalls result =>
      exact of_call rfl (PlayerViewController.checkIfEpisodeIsFavorite_iff hen.2).symm
    | clickCalls favorite result =>
      exact of_call rfl (PlayerViewController.isSaved_favoriteButtonClickCall hen.2 favorite)
    | checkResumes found => cases hfinishes
    | clickResumes favorite => cases hfinishes

end Latest

/-- The agreement holds at the end of every run. -/
theorem latest_of_run (h : (machine player context).Run es button) : Latest button := by
  refine h.invariant (I := Latest) ⟨by simp [machine, FavoriteTask.outcome], by simp [machine]⟩ ?_
  intro button e button' hlatest hen hstep
  obtain rfl := Except.ok.inj hstep
  exact hlatest.step hen

/-! ## The truth of the flag -/

/-- At rest the flag is what the check answers. -/
def TellsTruth (button : FavoriteButton) : Prop :=
  button.tasks = [] → ∀ result : List EpisodeSaved,
    (result : Multiset EpisodeSaved) = button.context →
    button.player.isFavorite = button.player.checkIfEpisodeIsFavorite (some result)

/-- The task that leaves the button at rest has the outcome of the most recent call. -/
def FinishesLatest (button : FavoriteButton) (e : FavoriteButtonEvent) : Prop :=
  ∀ task ∈ e.finishes, button.tasks.erase task = [] → button.outcomes.getLast? = task.outcome

instance (button : FavoriteButton) (e : FavoriteButtonEvent) : Decidable (FinishesLatest button e) :=
  inferInstanceAs (Decidable (∀ task ∈ e.finishes, _ → _))

theorem tellsTruth_iff :
    TellsTruth button ↔ (button.tasks = [] →
      (button.player.isFavorite = true ↔ button.player.IsSaved button.context)) := by
  refine forall_congr' fun _ => ⟨fun h => ?_, fun h result hresult => ?_⟩
  · obtain ⟨result, hresult⟩ := Quot.exists_rep button.context
    rw [h result hresult, PlayerViewController.checkIfEpisodeIsFavorite_iff hresult]
  · rw [Bool.eq_iff_iff, h, PlayerViewController.checkIfEpisodeIsFavorite_iff hresult]

/-- Exactly the events that meet `FinishesLatest` keep the flag truthful. -/
theorem tellsTruth_step_iff (h : Latest button) (hen : Enabled button e) :
    TellsTruth (button.step e) ↔ FinishesLatest button e := by
  cases hfinishes : e.finishes with
  | none =>
    -- the button is not at rest afterwards
    refine iff_of_true (fun hrest => absurd hrest (tasks_ne_nil_of_finishes_eq_none hfinishes)) ?_
    intro task htask
    cases hfinishes.symm.trans htask
  | some task =>
    obtain ⟨htasks, -, houtcomes, -, -, houtcome⟩ := step_of_finishes button hfinishes
    -- the task was behind its call, so there is a most recent one
    have hcalled := h.called task (mem_tasks_of_finishes hen hfinishes) (by simp [houtcome])
    obtain ⟨found, hfound⟩ := Option.isSome_iff_exists.mp (List.getLast?_isSome.mpr hcalled)
    have hsaved := (h.step hen).latest found (houtcomes ▸ hfound)
    simp only [tellsTruth_iff, htasks, FinishesLatest, hfinishes, Option.mem_some_iff, forall_eq']
    refine imp_congr_right fun _ => ?_
    rw [hsaved, hfound, houtcome, Option.some.injEq, ← Bool.eq_iff_iff, eq_comm]

/-! ## Unique rows -/

/-- There is at most one row for each title and subtitle. -/
def UniqueRows (context : Multiset EpisodeSaved) : Prop :=
  (context.map fun r => (r.titleEpisode, r.subtitleEpisode)).Nodup

instance (context : Multiset EpisodeSaved) : Decidable (UniqueRows context) :=
  inferInstanceAs (Decidable (Multiset.Nodup _))

/-- An add comes after a call that found or left the episode unsaved; the first call of the
    player adds only if the store it was opened on has no row of the episode. -/
def AddsUnsaved (button : FavoriteButton) : FavoriteButtonEvent → Prop
  | .clickCalls false result =>
    match button.outcomes.getLast? with
    | some found => found = false
    | none => button.player.checkIfEpisodeIsFavorite (some result) = false
  | _ => True

instance (button : FavoriteButton) (e : FavoriteButtonEvent) : Decidable (AddsUnsaved button e) :=
  match e with
  | .clickCalls false result =>
    match h : button.outcomes.getLast? with
    | some found => decidable_of_iff (found = false) (by rw [AddsUnsaved, h])
    | none => decidable_of_iff
        (button.player.checkIfEpisodeIsFavorite (some result) = false) (by rw [AddsUnsaved, h])
  | .clickCalls true _ => inferInstanceAs (Decidable True)
  | .viewWillAppear => inferInstanceAs (Decidable True)
  | .actionPressFavoriteButton => inferInstanceAs (Decidable True)
  | .clickBegins => inferInstanceAs (Decidable True)
  | .checkCalls _ => inferInstanceAs (Decidable True)
  | .checkResumes _ => inferInstanceAs (Decidable True)
  | .clickResumes _ => inferInstanceAs (Decidable True)

theorem addsUnsaved_iff (h : Latest button) {result : List EpisodeSaved}
    (hresult : (result : Multiset EpisodeSaved) = button.context) :
    AddsUnsaved button (.clickCalls false result) ↔ ¬ button.player.IsSaved button.context := by
  rw [AddsUnsaved]
  split
  · rename_i found hfound
    rw [h.latest found hfound, Bool.not_eq_true]
  · rw [← Bool.not_eq_true, PlayerViewController.checkIfEpisodeIsFavorite_iff hresult]

theorem uniqueRows_add_iff (h : UniqueRows context) :
    UniqueRows (CoreDataManager.addEpisodeInFavorite context player.favoriteEpisode) ↔
      ¬ player.IsSaved context := by
  rw [UniqueRows] at h ⊢
  rw [CoreDataManager.addEpisodeInFavorite, Multiset.map_cons, Multiset.nodup_cons,
    and_iff_left h, Multiset.mem_map]
  simp [PlayerViewController.IsSaved, FavoriteEpisode.row, PlayerViewController.favoriteEpisode]

/-- Exactly the events that meet `AddsUnsaved` keep the rows unique. -/
theorem uniqueRows_step_iff (hlatest : Latest button) (h : UniqueRows button.context)
    (hen : Enabled button e) :
    UniqueRows (button.step e).context ↔ AddsUnsaved button e := by
  cases e with
  | clickCalls favorite result =>
    cases favorite with
    | false =>
      rw [addsUnsaved_iff hlatest hen.2]
      exact uniqueRows_add_iff h
    | true =>
      -- removing rows makes no duplicate
      refine iff_of_true ?_ trivial
      have hremove := CoreDataManager.removeEpisodeFromFavorite_eq (t := button.player.title)
        (s := button.player.subtitle) hen.2
      exact Multiset.nodup_of_le
        (Multiset.map_le_map (hremove.trans_le (Multiset.filter_le _ _))) h
  | viewWillAppear => exact iff_of_true h trivial
  | actionPressFavoriteButton => exact iff_of_true h trivial
  | clickBegins => exact iff_of_true h trivial
  | checkCalls result => exact iff_of_true h trivial
  | checkResumes found => exact iff_of_true h trivial
  | clickResumes favorite => exact iff_of_true h trivial

end FavoriteButton

/-- All along a run, the flag tells the truth whenever no task is in flight, exactly when
    every task that leaves the button at rest has the outcome of the most recent call. -/
theorem button_tells_truth_iff (player : PlayerViewController) (context : Multiset EpisodeSaved)
    {es : List FavoriteButtonEvent} {button : FavoriteButton}
    (h : (FavoriteButton.machine player context).Run es button) :
    (∀ es' button', es' <+: es → (FavoriteButton.machine player context).Run es' button' →
      button'.TellsTruth) ↔
    ((FavoriteButton.machine player context).when FavoriteButton.FinishesLatest).Run es button := by
  refine Machine.Run.forall_prefix_iff_when (fun hrest => absurd hrest (List.cons_ne_nil _ _)) ?_ h
  intro es button e button' hrun _ hen hstep
  obtain rfl := Except.ok.inj hstep
  exact FavoriteButton.tellsTruth_step_iff (FavoriteButton.latest_of_run hrun.of_when) hen

/-- The check answers, then the button is pressed and the episode added; the check resumes
    before the click or after it. -/
def checkThenClick (resumes : List FavoriteButtonEvent) : List FavoriteButtonEvent :=
  [.checkCalls [], .actionPressFavoriteButton, .clickBegins, .clickCalls false []] ++ resumes

theorem button_tells_truth_iff_checkThenClick :
    ∃ button, (FavoriteButton.machine (playerOf "A" "1") 0).Run
        (checkThenClick [.checkResumes false, .clickResumes false]) button ∧ button.TellsTruth :=
  have hrun := Machine.run_of_replay
    ((FavoriteButton.machine (playerOf "A" "1") 0).when FavoriteButton.FinishesLatest)
    (checkThenClick [.checkResumes false, .clickResumes false]) (by decide)
  ⟨_, hrun.of_when, (button_tells_truth_iff (playerOf "A" "1") 0 hrun.of_when).mpr hrun _ _
    (List.prefix_refl _) hrun.of_when⟩

/-- If the check resumes last, it puts the flag down although the episode is saved. -/
theorem late_check_lies :
    ∃ button, (FavoriteButton.machine (playerOf "A" "1") 0).Run
        (checkThenClick [.clickResumes false, .checkResumes false]) button ∧
      button.tasks = [] ∧ button.context = {(playerOf "A" "1").favoriteEpisode.row} ∧
      button.player.isFavorite = false ∧ ¬ button.TellsTruth := by
  have hrun := Machine.run_of_replay (FavoriteButton.machine (playerOf "A" "1") 0)
    (checkThenClick [.clickResumes false, .checkResumes false]) (by decide)
  refine ⟨_, hrun, by decide, by decide, by decide, fun htruth => ?_⟩
  exact absurd (htruth (by decide) [(playerOf "A" "1").favoriteEpisode.row] (by decide))
    (by decide)

/-- From unique rows on, the rows stay unique all along a run exactly when every add comes
    after a call that found or left the episode unsaved. -/
theorem no_duplicate_iff (player : PlayerViewController) {context : Multiset EpisodeSaved}
    (hunique : FavoriteButton.UniqueRows context) {es : List FavoriteButtonEvent}
    {button : FavoriteButton} (h : (FavoriteButton.machine player context).Run es button) :
    (∀ es' button', es' <+: es → (FavoriteButton.machine player context).Run es' button' →
      FavoriteButton.UniqueRows button'.context) ↔
    ((FavoriteButton.machine player context).when FavoriteButton.AddsUnsaved).Run es button := by
  refine Machine.Run.forall_prefix_iff_when
    (P := fun button => FavoriteButton.UniqueRows button.context) hunique ?_ h
  intro es button e button' hrun hrows hen hstep
  obtain rfl := Except.ok.inj hstep
  exact FavoriteButton.uniqueRows_step_iff (FavoriteButton.latest_of_run hrun.of_when) hrows hen

/-- The button is pressed again before the first press has reached the store. -/
def doublePress : List FavoriteButtonEvent :=
  [.checkCalls [], .checkResumes false, .actionPressFavoriteButton, .actionPressFavoriteButton,
    .clickBegins, .clickBegins, .clickCalls false []]

theorem no_duplicate_iff_doublePress :
    ∃ button, (FavoriteButton.machine (playerOf "A" "1") 0).Run doublePress button ∧
      FavoriteButton.UniqueRows button.context :=
  have hrun := Machine.run_of_replay
    ((FavoriteButton.machine (playerOf "A" "1") 0).when FavoriteButton.AddsUnsaved)
    doublePress (by decide)
  ⟨_, hrun.of_when, (no_duplicate_iff (playerOf "A" "1") (by decide) hrun.of_when).mpr hrun _ _
    (List.prefix_refl _) hrun.of_when⟩

/-- The second press adds the episode once more. -/
theorem double_press_duplicates :
    FavoriteButton.UniqueRows 0 ∧
    ∃ button, (FavoriteButton.machine (playerOf "A" "1") 0).Run
        (doublePress ++ [.clickCalls false [(playerOf "A" "1").favoriteEpisode.row]]) button ∧
      ¬ FavoriteButton.UniqueRows button.context :=
  have hrun := Machine.run_of_replay (FavoriteButton.machine (playerOf "A" "1") 0)
    (doublePress ++ [.clickCalls false [(playerOf "A" "1").favoriteEpisode.row]]) (by decide)
  ⟨by decide, _, hrun, by decide⟩

end BingePodcast
