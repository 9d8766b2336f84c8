import BingePodcast.Native.HomeViewController
import BingePodcast.Spec.ListViewCorrect
import BingePodcast.Spec.PodcastScreenInvariant

/-!
# What the home screen displays

The screen shows its placeholders until the podcasts arrive, and for good if they do not. Its
collection view then has a cell for each podcast, and no reuse of a cell and no late download
makes one show anything of another podcast.

## Key results

- `HomeScreen.shows_of_run`: the placeholders or the podcasts, by what has arrived
- `home_screen_shows_podcasts`: the same with the collection view and its cells
-/

namespace BingePodcast

variable {Data Image : Type}

namespace HomeScreen

variable {collections : Collections} {screen screen' : HomeScreen} {es : List HomeScreenEvent}

/-- The list of podcasts has arrived. -/
def Arrived (es : List HomeScreenEvent) : Prop :=
  ∃ documents, .fetchAllPodcastResponse (.snapshot documents) ∈ es

/-- The placeholders before the podcasts have arrived, and the podcasts after that. -/
structure Shows (collections : Collections) (arrived : Prop) (screen : HomeScreen) : Prop where
  podcast : screen.controller.podcast = if screen.controller.isLoaderHidden then
    collections.podcasts else []
  isLoaderHidden : screen.controller.isLoaderHidden = true ↔ arrived
  isCollectionViewHidden : screen.controller.isCollectionViewHidden = false

/-- The one answer brings the podcasts, or changes nothing. -/
theorem step_eq {response : Response}
    (hanswer : collections.Answers ⟨"Podcast", none, none⟩ response) :
    screen.step (.fetchAllPodcastResponse response) = .ok
      { pending := false
        controller := if response.err = none then ⟨collections.podcasts, true, false⟩
          else screen.controller } := by
  cases response with
  | snapshot documents =>
    obtain rfl : documents = (collections "Podcast").documents := hanswer
    rfl
  | error err => rfl

theorem shows_of_run (h : (machine collections).Run es screen) :
    screen.Shows collections (Arrived es) ∧ (screen.pending = true → es = []) := by
  induction h with
  | nil =>
    exact ⟨⟨rfl, by simp [machine, Arrived], rfl⟩, fun _ => rfl⟩
  | @snoc es screen screen' e _ hen hstep ih =>
    obtain ⟨response⟩ := e
    obtain ⟨hpending, hanswer⟩ := hen
    -- nothing has arrived while the request was in flight
    obtain rfl := ih.2 hpending
    obtain rfl := Except.ok.inj ((step_eq hanswer).symm.trans hstep)
    refine ⟨?_, fun hfalse => absurd hfalse Bool.false_ne_true⟩
    cases response with
    | snapshot documents =>
      refine ⟨rfl, iff_of_true rfl ⟨documents, ?_⟩, rfl⟩
      exact List.mem_append_right _ (List.mem_singleton_self _)
    | error err =>
      refine ⟨ih.1.podcast, ih.1.isLoaderHidden.trans (iff_of_false ?_ ?_),
        ih.1.isCollectionViewHidden⟩
      · rintro ⟨documents, hmem⟩
        cases hmem
      · rintro ⟨documents, hmem⟩
        cases List.mem_singleton.mp hmem

/-- The delegate method of the screen reloads its list whenever it changes the podcasts. -/
theorem reloaded (Image : Type) (collections : Collections) :
    (lists Image).Reloaded (machine collections) where
  complete := by
    intro es screen _ list source hsource indexPath hrow
    obtain rfl := Option.some.inj hsource
    have helement := element_ofNat (hasRow_singleton hrow)
    exact ⟨_, by simp only [HomeViewController.dataSource, helement, Except.ok_bind]; rfl⟩
  step := by
    rintro es screen ⟨response⟩ screen' - ⟨-, hanswer⟩ hstep list source hsource
    obtain rfl := Option.some.inj hsource
    obtain rfl := Except.ok.inj ((step_eq hanswer).symm.trans hstep)
    refine ⟨_, rfl, ?_⟩
    cases response with
    | snapshot documents => exact .inr rfl
    | error err => exact .inl rfl

/-- The placeholders are hidden only when the list is reloaded. -/
theorem isLoaderHidden_step {e : HomeScreenEvent} (Image : Type)
    (hstep : screen.step e = .ok screen') (hhidden : screen'.controller.isLoaderHidden = true) :
    screen.controller.isLoaderHidden = true ∨ (lists Image).reloads screen e () = true := by
  obtain ⟨response⟩ := e
  simp only [step] at hstep
  split at hstep
  · rename_i data hdata
    exact .inr (by simp [lists, hdata])
  · obtain rfl := Except.ok.inj hstep
    exact .inl hhidden

/-- What the cell of a podcast is set up with. -/
def content (podcast : Podcast) : CellContent :=
  ⟨[podcast.title.getD "", podcast.author.getD ""], podcast.image.getD ""⟩

theorem exists_podcast {controller : HomeViewController} {indexPath : IndexPath}
    {cellContent : CellContent} (h : controller.dataSource.cellForRowAt indexPath = .ok cellContent) :
    ∃ podcast, controller.podcast[indexPath.row]? = some podcast ∧
      cellContent = content podcast := by
  obtain ⟨podcast, helement, hreturn⟩ := Except.bind_eq_ok.mp h
  exact ⟨podcast, element_natCast_eq_ok.mp helement, (Except.ok.inj hreturn).symm⟩

end HomeScreen

section HomeScreen

open HomeScreen

/-- In every run of the home screen, whatever the order of its answer, of the rows that come on
    display, of the downloads and of the reuses: the placeholders are hidden exactly when the
    podcasts have arrived, the collection view then has a row for each of them, each cell on
    display shows the podcast of its row, with a picture that can only be that podcast's, and
    no event traps. -/
theorem home_screen_shows_podcasts (collections : Collections) (images : ImageSource Data Image)
    {es : List (HomeScreenEvent ⊕ (Unit × ListViewEvent Data))}
    {s : HomeScreen × (Unit → ListView Image)}
    (h : ((machine collections).attach ((lists Image).component images)).Run es s) :
    s.1.Shows collections (Arrived (es.filterMap Sum.getLeft?)) ∧
    (s.1.controller.isLoaderHidden = true →
      (s.2 ()).sectionRows = [collections.podcasts.length]) ∧
    (∀ cell ∈ (s.2 ()).cells, ∀ indexPath ∈ cell.indexPath,
      ∃ podcast, s.1.controller.podcast[indexPath.row]? = some podcast ∧
        cell.Shows images (content podcast)) ∧
    ∀ e, ((machine collections).attach ((lists Image).component images)).Enabled s e →
      ∃ t, ((machine collections).attach ((lists Image).component images)).step s e = .ok t := by
  have hreloaded := reloaded Image collections
  have hshows := (shows_of_run h.of_attach).1
  have hinv := Lists.inv_of_run_any hreloaded h
  refine ⟨hshows, fun hhidden => ?_, fun cell hcell indexPath hpath => ?_, fun e hen => ?_⟩
  · -- the placeholders are hidden by the handler that reloads the collection view
    obtain ⟨source, hsource, hrows⟩ := Lists.counted_of_run hreloaded ()
      (Q := fun screen => screen.controller.isLoaderHidden = true) Bool.false_ne_true
      (fun _ _ => rfl) (fun _ _ _ _ _ _ hstep => isLoaderHidden_step Image hstep) h hhidden
    obtain rfl := Option.some.inj hsource
    rw [hrows, HomeViewController.dataSource, hshows.podcast, if_pos hhidden]
  · obtain ⟨-, cellContent, hcontent, hset⟩ :=
      (hinv.displays () _ rfl).cells cell hcell indexPath hpath
    obtain ⟨podcast, hpodcast, rfl⟩ := exists_podcast hcontent
    obtain ⟨es', hrun⟩ := hinv.cells () cell hcell
    exact ⟨podcast, hpodcast, hset.shows (ReusedCell.tracks_of_run hrun.of_when).2.2.showsOwn⟩
  · cases e with
    | inl e =>
      obtain ⟨response⟩ := e
      exact ⟨_, Machine.attach_step_inl.mpr ⟨_, step_eq hen.2, rfl⟩⟩
    | inr event =>
      obtain ⟨views, hviews⟩ := Lists.exists_step hreloaded hinv h.of_attach hen
      exact ⟨_, Machine.attach_step_inr.mpr ⟨views, hviews, rfl⟩⟩

/-- The podcasts `"A"` and `"B"` with their pictures. -/
def picturesAB : Collections := fun _ =>
  ⟨[⟨"1", [("title", .string "A"), ("image", .string "a")]⟩,
    ⟨"2", [("title", .string "B"), ("image", .string "b")]⟩], by decide⟩

/-- The cell of `"A"` is reused for `"B"`, and the picture of `"A"` arrives after that of
    `"B"`. -/
def reusedForB : List (HomeScreenEvent ⊕ (Unit × ListViewEvent String)) :=
  [.inl (.fetchAllPodcastResponse (.snapshot (picturesAB "Podcast").documents)),
    .inr ((), .cellForRowAt none ⟨0, 0⟩), .inr ((), .didEndDisplaying 0),
    .inr ((), .cellForRowAt (some 0) ⟨0, 1⟩), .inr ((), .download 0 (arrives "b" 1)),
    .inr ((), .download 0 .mainQueueBlock), .inr ((), .download 0 (arrives "a" 0)),
    .inr ((), .download 0 .mainQueueBlock)]

theorem home_screen_shows_podcasts_reusedForB :
    ∃ s, ((machine picturesAB).attach ((lists String).component echoSource)).Run reusedForB s ∧
      ∃ cell ∈ (s.2 ()).cells, cell.indexPath = some ⟨0, 1⟩ ∧
        ∃ podcast, s.1.controller.podcast[1]? = some podcast ∧
          cell.Shows echoSource (content podcast) := by
  have hrun := Machine.run_of_replay
    ((machine picturesAB).attach ((lists String).component echoSource)) reusedForB (by decide)
  obtain ⟨cell, hcell, hpath⟩ : ∃ cell ∈ ((((machine picturesAB).attach
      ((lists String).component echoSource)).replay reusedForB).get (by decide)).2 () |>.cells,
      cell.indexPath = some ⟨0, 1⟩ := by decide
  exact ⟨_, hrun, cell, hcell, hpath,
    (home_screen_shows_podcasts picturesAB echoSource hrun).2.2.1 cell hcell _ hpath⟩

end HomeScreen

end BingePodcast
