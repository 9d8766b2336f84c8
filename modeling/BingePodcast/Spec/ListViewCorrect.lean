import BingePodcast.ForStd.List
import BingePodcast.Native.ListView
import BingePodcast.Spec.ImageCellCorrect

/-!
# What lists display

A list displays the right things if its screen plays along: the data source has every item
that it counts, and a handler that changes the items reloads the list. This file shows that
nothing more is needed, however UIKit reuses the cells; the screens' own files show that they
play along.

## Key results

- `ListView.Displays`: the cells on display were set up, last, for the items of their rows
- `Lists.inv_of_run`: the lists of a screen that reloads them display its items, and each of
  their cells goes through a run of its own, whatever the others do
- `Lists.exists_step`: no data source of such a screen traps
-/

namespace BingePodcast

variable {Data Image : Type} {images : ImageSource Data Image} {cls : ImageCellClass Image}

/-! ## Cells -/

namespace ReusedCell

variable {reused : ReusedCell Image} {e : ReusedCellEvent Data}

theorem getLast?_setups_setup (images : ImageSource Data Image) (cls : ImageCellClass Image)
    (reused : ReusedCell Image) (imageURL : String) :
    (reused.step images cls (.setup imageURL)).setups.getLast? = some imageURL := by
  obtain ⟨requests, -, hstep⟩ := step_setup images cls reused imageURL
  rw [hstep]
  exact List.getLast?_concat

/-- Only a set-up is recorded as one. -/
theorem setups_step (he : e.isSetup = false) (hen : Enabled images reused e) :
    (reused.step images cls e).setups = reused.setups := by
  cases e with
  | setup imageURL => cases he
  | dataTaskResult download result =>
    cases step_dataTaskResult cls hen with
    | inl hstep => rw [hstep]
    | inr hstep => rw [hstep]
  | mainQueueBlock =>
    simp only [step]
    split <;> rfl

/-- The cell has gone through a run of its own, with downloads that came in as `C` says. -/
def RunsAlone (images : ImageSource Data Image) (cls : ImageCellClass Image)
    (C : ReusedCell Image → ReusedCellEvent Data → Prop) (reused : ReusedCell Image) : Prop :=
  ∃ es, ((machine images cls).when C).Run es reused

theorem RunsAlone.step {C : ReusedCell Image → ReusedCellEvent Data → Prop}
    (h : RunsAlone images cls C reused) (hen : Enabled images reused e) (hC : C reused e) :
    RunsAlone images cls C (reused.step images cls e) := by
  obtain ⟨es, hrun⟩ := h
  exact ⟨es ++ [e], .snoc hrun ⟨hen, hC⟩ rfl⟩

end ReusedCell

/-! ## One list -/

/-- The data source has an item for every row that it counts. -/
def DataSource.Complete (source : DataSource) : Prop :=
  ∀ indexPath, HasRow source.sectionRows indexPath →
    ∃ content, source.cellForRowAt indexPath = .ok content

theorem hasRow_singleton {rows : ℕ} {indexPath : IndexPath} (h : HasRow [rows] indexPath) :
    indexPath.row < rows := by
  obtain ⟨rows', hrows, hlt⟩ := h
  obtain rfl := List.mem_singleton.mp (List.mem_of_getElem? hrows)
  exact hlt

/-- The cell was set up, last, for such an item. -/
structure ListCell.SetUpFor (cell : ListCell Image) (content : CellContent) : Prop where
  texts : cell.texts = content.texts
  imageURL : cell.reused.setups.getLast? = some content.imageURL

/-- The cell shows such an item: its texts, and the placeholder or its picture, and of those the
    picture once its download has succeeded and nothing is outstanding. -/
structure ListCell.Shows (images : ImageSource Data Image) (cell : ListCell Image)
    (content : CellContent) : Prop where
  texts : cell.texts = content.texts
  picture : cell.reused.cell.picture = .placeholderImage ∨
    cell.reused.cell.picture = .image (images.imageOf content.imageURL)
  succeeded : cell.reused.requests = [] → cell.reused.mainQueue = [] →
    cell.reused.succeeded = true →
    cell.reused.cell.picture = .image (images.imageOf content.imageURL)

theorem ListCell.SetUpFor.shows {cell : ListCell Image} {content : CellContent}
    (h : cell.SetUpFor content) (howns : cell.reused.ShowsOwn images) :
    cell.Shows images content where
  texts := h.texts
  picture := (howns _ h.imageURL).1
  succeeded := (howns _ h.imageURL).2

namespace ListView

variable {source : DataSource} {view view' : ListView Image} {e : ListViewEvent Data}
variable {cell : ListCell Image}

/-- A list has counted the rows of its data source, unless it was never loaded, and its cells
    on display were set up, last, for the items of their rows. -/
structure Displays (view : ListView Image) (source : DataSource) : Prop where
  counted : view.sectionRows = source.sectionRows ∨ view = {}
  cells : ∀ cell ∈ view.cells, ∀ indexPath ∈ cell.indexPath,
    HasRow source.sectionRows indexPath ∧
      ∃ content, source.cellForRowAt indexPath = .ok content ∧ cell.SetUpFor content

theorem Displays.init (source : DataSource) : ({} : ListView Image).Displays source :=
  ⟨.inr rfl, fun _ h => absurd h List.not_mem_nil⟩

theorem Displays.reloadData (view : ListView Image) (source : DataSource) :
    (view.reloadData source).Displays source := by
  refine ⟨.inl rfl, fun cell hcell indexPath hpath => ?_⟩
  -- no cell is on display until the rows are asked for again
  obtain ⟨cell', -, rfl⟩ := List.mem_map.mp hcell
  cases hpath

/-- Where the cells of a list come from: they were there, perhaps on display, or they were set
    up for a row, or one of their downloads went on. -/
theorem mem_cells_of_step (hen : view.Enabled images e)
    (hstep : view.step images cls source e = .ok view') (hcell : cell ∈ view'.cells) :
    (∃ cell₀ ∈ view.cells, cell = cell₀ ∨ cell = cell₀.enqueue) ∨
    (∃ cell₀ content indexPath, (cell₀ ∈ view.cells ∨ cell₀ = {}) ∧
      HasRow view.sectionRows indexPath ∧ source.cellForRowAt indexPath = .ok content ∧
      cell = cell₀.setUp images cls content indexPath) ∨
    ∃ i cell₀ event, e = .download i event ∧ view.cells[i]? = some cell₀ ∧
      event.isSetup = false ∧ ReusedCell.Enabled images cell₀.reused event ∧
      cell = { cell₀ with reused := cell₀.reused.step images cls event } := by
  cases e with
  | reloadData =>
    obtain rfl := Except.ok.inj hstep
    obtain ⟨cell₀, hcell₀, rfl⟩ := List.mem_map.mp hcell
    exact .inl ⟨cell₀, hcell₀, .inr rfl⟩
  | cellForRowAt dequeued indexPath =>
    obtain ⟨content, hcontent, hreturn⟩ := Except.bind_eq_ok.mp hstep
    obtain rfl := Except.ok.inj hreturn
    cases dequeued with
    | some i =>
      cases List.mem_of_mem_modify hcell with
      | inl hold => exact .inl ⟨cell, hold, .inl rfl⟩
      | inr hset =>
        obtain ⟨cell₀, hcell₀, rfl⟩ := hset
        exact .inr (.inl ⟨cell₀, content, indexPath, .inl (List.mem_of_getElem? hcell₀), hen.1,
          hcontent, rfl⟩)
    | none =>
      -- UIKit had no cell to reuse and creates one
      cases List.mem_append.mp hcell with
      | inl hold => exact .inl ⟨cell, hold, .inl rfl⟩
      | inr hset =>
        obtain rfl := List.mem_singleton.mp hset
        exact .inr (.inl ⟨{}, content, indexPath, .inr rfl, hen.1, hcontent, rfl⟩)
  | didEndDisplaying i =>
    obtain rfl := Except.ok.inj hstep
    cases List.mem_of_mem_modify hcell with
    | inl hold => exact .inl ⟨cell, hold, .inl rfl⟩
    | inr hset =>
      obtain ⟨cell₀, hcell₀, rfl⟩ := hset
      exact .inl ⟨cell₀, List.mem_of_getElem? hcell₀, .inr rfl⟩
  | download i event =>
    obtain rfl := Except.ok.inj hstep
    cases List.mem_of_mem_modify hcell with
    | inl hold => exact .inl ⟨cell, hold, .inl rfl⟩
    | inr hset =>
      obtain ⟨cell₀, hcell₀, rfl⟩ := hset
      obtain ⟨hevent, cell₁, hcell₁, henabled⟩ := hen
      obtain rfl : cell₀ = cell₁ := Option.some.inj (hcell₀.symm.trans hcell₁)
      exact .inr (.inr ⟨i, cell₀, event, rfl, hcell₀, hevent, henabled, rfl⟩)

/-- The rows are counted when the list is reloaded and at no other moment. -/
theorem sectionRows_of_step (hstep : view.step images cls source e = .ok view') :
    view'.sectionRows = source.sectionRows ∨
      view'.sectionRows = view.sectionRows ∧ e ≠ .reloadData := by
  cases e with
  | reloadData =>
    obtain rfl := Except.ok.inj hstep
    exact .inl rfl
  | cellForRowAt dequeued indexPath =>
    obtain ⟨content, -, hreturn⟩ := Except.bind_eq_ok.mp hstep
    obtain rfl := Except.ok.inj hreturn
    cases dequeued <;> exact .inr ⟨rfl, by simp⟩
  | didEndDisplaying i =>
    obtain rfl := Except.ok.inj hstep
    exact .inr ⟨rfl, by simp⟩
  | download i event =>
    obtain rfl := Except.ok.inj hstep
    exact .inr ⟨rfl, by simp⟩

/-- A list that was never loaded can only be reloaded. -/
theorem eq_reloadData_of_enabled (hen : ({} : ListView Image).Enabled images e) :
    e = .reloadData := by
  cases e with
  | reloadData => rfl
  | cellForRowAt dequeued indexPath =>
    obtain ⟨⟨rows, hrows, -⟩, -⟩ := hen
    simp at hrows
  | didEndDisplaying i =>
    obtain ⟨cell, hcell, -⟩ := hen
    simp at hcell
  | download i event =>
    obtain ⟨-, cell, hcell, -⟩ := hen
    simp at hcell

/-- A list displays what it should after each of its events. -/
theorem Displays.step (h : view.Displays source) (hen : view.Enabled images e)
    (hstep : view.step images cls source e = .ok view') : view'.Displays source := by
  -- a list that has never counted its rows has no event but the first reload
  have hrows : view.sectionRows = source.sectionRows ∨ e = .reloadData := by
    cases h.counted with
    | inl hcounted => exact .inl hcounted
    | inr hnever =>
      rw [hnever] at hen
      exact .inr (eq_reloadData_of_enabled hen)
  constructor
  · left
    cases sectionRows_of_step hstep with
    | inl hcounted => exact hcounted
    | inr hkept => rw [hkept.1, hrows.resolve_right hkept.2]
  · intro cell hcell indexPath hpath
    obtain ⟨cell₀, hcell₀, rfl | rfl⟩ | ⟨cell₀, content, indexPath', -, hrow, hcontent, rfl⟩ |
      ⟨i, cell₀, event, -, hcell₀, hevent, henabled, rfl⟩ := mem_cells_of_step hen hstep hcell
    · exact h.cells cell hcell₀ indexPath hpath
    · cases hpath
    · obtain rfl := Option.some.inj hpath
      have hcounted : view.sectionRows = source.sectionRows := by
        refine hrows.resolve_right ?_
        rintro rfl
        obtain rfl := Except.ok.inj hstep
        obtain ⟨cell₁, -, heq⟩ := List.mem_map.mp hcell
        cases congrArg ListCell.indexPath heq
      exact ⟨hcounted ▸ hrow, content, hcontent, rfl,
        ReusedCell.getLast?_setups_setup images cls cell₀.reused content.imageURL⟩
    · -- a download changes the picture only
      obtain ⟨hrow, content, hcontent, hset⟩ :=
        h.cells cell₀ (List.mem_of_getElem? hcell₀) indexPath hpath
      refine ⟨hrow, content, hcontent, hset.texts, ?_⟩
      rw [ReusedCell.setups_step hevent henabled]
      exact hset.imageURL

/-- Each cell of a list goes through a run of its own. -/
theorem runsAlone_of_step {C : ReusedCell Image → ReusedCellEvent Data → Prop}
    (hsetup : ∀ reused imageURL, C reused (.setup imageURL))
    (h : ∀ cell ∈ view.cells, cell.reused.RunsAlone images cls C) (hen : view.Enabled images e)
    (hC : ∀ i event, e = .download i event → ∀ cell ∈ view.cells[i]?, C cell.reused event)
    (hstep : view.step images cls source e = .ok view') :
    ∀ cell ∈ view'.cells, cell.reused.RunsAlone images cls C := by
  intro cell hcell
  obtain ⟨cell₀, hcell₀, rfl | rfl⟩ | ⟨cell₀, content, indexPath, hcell₀, -, -, rfl⟩ |
    ⟨i, cell₀, event, rfl, hcell₀, -, henabled, rfl⟩ := mem_cells_of_step hen hstep hcell
  · exact h cell hcell₀
  · exact h cell₀ hcell₀
  · have hbefore : cell₀.reused.RunsAlone images cls C := by
      cases hcell₀ with
      | inl hmem => exact h cell₀ hmem
      | inr hnew =>
        rw [hnew]
        exact ⟨[], .nil⟩
    exact hbefore.step (e := .setup content.imageURL) trivial (hsetup _ _)
  · exact (h cell₀ (List.mem_of_getElem? hcell₀)).step henabled (hC i event rfl cell₀ hcell₀)

/-- The data source does not trap at a row that the list has counted. -/
theorem exists_step (cls : ImageCellClass Image) (h : view.Displays source)
    (hcomplete : source.Complete) (hen : view.Enabled images e) :
    ∃ view', view.step images cls source e = .ok view' := by
  cases e with
  | cellForRowAt dequeued indexPath =>
    have hrow : HasRow source.sectionRows indexPath := by
      cases h.counted with
      | inl hcounted => exact hcounted ▸ hen.1
      | inr hnever =>
        rw [hnever] at hen
        cases eq_reloadData_of_enabled hen
    obtain ⟨content, hcontent⟩ := hcomplete indexPath hrow
    exact ⟨_, by simp only [step, hcontent, Except.ok_bind]; rfl⟩
  | _ => exact ⟨_, rfl⟩

end ListView

/-! ## The lists of a screen -/

namespace Lists

variable {σ ε ℓ : Type} [DecidableEq ℓ] {M : Machine σ ε Trap} {lists : Lists σ ε ℓ Image}
variable {C : ReusedCell Image → ReusedCellEvent Data → Prop}
variable {screen : σ} {views : ℓ → ListView Image}

/-- The part of a screen in its lists: its data sources have every item that they count, its
    lists do not go away, and a handler that changes the items of a list reloads it. -/
structure Reloaded (lists : Lists σ ε ℓ Image) (M : Machine σ ε Trap) : Prop where
  complete : ∀ {es s}, M.Run es s → ∀ list, ∀ source ∈ lists.dataSource s list, source.Complete
  step : ∀ {es s e t}, M.Run es s → M.Enabled s e → M.step s e = .ok t →
    ∀ list, ∀ source ∈ lists.dataSource s list, ∃ source' ∈ lists.dataSource t list,
      source' = source ∨ lists.reloads s e list = true

/-- The downloads of the cells come in as `C` says. -/
def Downloads (C : ReusedCell Image → ReusedCellEvent Data → Prop) (s : σ × (ℓ → ListView Image)) :
    ε ⊕ (ℓ × ListViewEvent Data) → Prop
  | .inr (list, .download i event) => ∀ cell ∈ (s.2 list).cells[i]?, C cell.reused event
  | .inr (_, .reloadData) | .inr (_, .cellForRowAt _ _) | .inr (_, .didEndDisplaying _) => True
  | .inl _ => True

instance [∀ (reused : ReusedCell Image) (e : ReusedCellEvent Data), Decidable (C reused e)]
    (s : σ × (ℓ → ListView Image)) (e : ε ⊕ (ℓ × ListViewEvent Data)) :
    Decidable (Downloads C s e) :=
  match e with
  | .inr (_, .download _ _) => inferInstanceAs (Decidable (∀ _ ∈ _, C _ _))
  | .inr (_, .reloadData) | .inr (_, .cellForRowAt _ _) | .inr (_, .didEndDisplaying _) =>
    inferInstanceAs (Decidable True)
  | .inl _ => inferInstanceAs (Decidable True)

/-- What holds of the lists of a screen: they display its items, and each of their cells has
    gone through a run of its own. -/
structure Inv (lists : Lists σ ε ℓ Image) (images : ImageSource Data Image)
    (C : ReusedCell Image → ReusedCellEvent Data → Prop) (screen : σ)
    (views : ℓ → ListView Image) : Prop where
  displays : ∀ list, ∀ source ∈ lists.dataSource screen list, (views list).Displays source
  empty : ∀ list, lists.dataSource screen list = none → views list = {}
  cells : ∀ list, ∀ cell ∈ (views list).cells, cell.reused.RunsAlone images (lists.cls list) C

/-- A step of the screen keeps the invariant. -/
theorem Inv.follow (h : lists.Inv images C screen views) (hreloaded : lists.Reloaded M) {es : List ε}
    {e : ε} {screen' : σ} (hrun : M.Run es screen) (hen : M.Enabled screen e)
    (hstep : M.step screen e = .ok screen') :
    lists.Inv images C screen' ((lists.component images).follow screen e screen' views) := by
  refine ⟨fun list source' hsource' => ?_, fun list hnone => ?_, fun list => ?_⟩
  · simp only [component, Option.mem_def.mp hsource']
    split
    · exact .reloadData _ _
    · -- a list that is not reloaded has kept its items, or has just come into being
      rename_i hkept
      cases hsource : lists.dataSource screen list with
      | none =>
        rw [h.empty list hsource]
        exact .init source'
      | some source =>
        obtain ⟨source'', hsource'', heq⟩ := hreloaded.step hrun hen hstep list source hsource
        obtain rfl := Option.some.inj (hsource'.symm.trans hsource'')
        rw [heq.resolve_right hkept]
        exact h.displays list source hsource
  · -- a list does not go away
    simp only [component, hnone]
    refine h.empty list (Option.eq_none_iff_forall_not_mem.mpr fun source hsource => ?_)
    obtain ⟨source', hsource', -⟩ := hreloaded.step hrun hen hstep list source hsource
    rw [hnone] at hsource'
    cases hsource'
  · simp only [component]
    split
    · split
      · intro cell hcell
        obtain ⟨cell₀, hcell₀, rfl⟩ := List.mem_map.mp hcell
        exact h.cells list cell₀ hcell₀
      · exact h.cells list
    · exact h.cells list

/-- An event of a list keeps the invariant. -/
theorem Inv.step (h : lists.Inv images C screen views)
    (hsetup : ∀ reused imageURL, C reused (.setup imageURL))
    {event : ℓ × ListViewEvent Data} {views' : ℓ → ListView Image}
    (hen : (lists.component images).Enabled screen views event)
    (hC : Downloads (σ := σ) (ε := ε) C (screen, views) (.inr event))
    (hstep : (lists.component images).step screen views event = .ok views') :
    lists.Inv images C screen views' := by
  obtain ⟨list₀, e⟩ := event
  obtain ⟨source₀, hsource₀⟩ := Option.isSome_iff_exists.mp hen.1
  simp only [component, hsource₀] at hstep
  obtain ⟨view, hview, hreturn⟩ := Except.bind_eq_ok.mp hstep
  obtain rfl := Except.ok.inj hreturn
  refine ⟨fun list source hsource => ?_, fun list hnone => ?_, fun list => ?_⟩
  · by_cases hlist : list = list₀
    · subst hlist
      obtain rfl := Option.some.inj (hsource₀.symm.trans hsource)
      rw [Function.update_self]
      exact (h.displays list source₀ hsource).step hen.2 hview
    · rw [Function.update_of_ne hlist]
      exact h.displays list source hsource
  · have hlist : list ≠ list₀ := by
      rintro rfl
      rw [hsource₀] at hnone
      cases hnone
    rw [Function.update_of_ne hlist]
    exact h.empty list hnone
  · by_cases hlist : list = list₀
    · subst hlist
      rw [Function.update_self]
      refine ListView.runsAlone_of_step hsetup (h.cells list) hen.2 ?_ hview
      rintro i event rfl
      exact hC
    · rw [Function.update_of_ne hlist]
      exact h.cells list

/-- The invariant holds at the end of every run. -/
theorem inv_of_run (hreloaded : lists.Reloaded M)
    (hsetup : ∀ reused imageURL, C reused (.setup imageURL))
    {es : List (ε ⊕ (ℓ × ListViewEvent Data))} {s : σ × (ℓ → ListView Image)}
    (h : ((M.attach (lists.component images)).when (Downloads C)).Run es s) :
    lists.Inv images C s.1 s.2 := by
  refine Machine.Run.attach_invariant (I := lists.Inv images C) ?_ ?_ ?_ h
  · exact ⟨fun _ source _ => .init source, fun _ _ => rfl,
      fun _ _ hcell => absurd hcell List.not_mem_nil⟩
  · intro es screen views e screen' hrun hinv hen hstep
    exact hinv.follow hreloaded hrun hen hstep
  · intro es screen views event views' _ hinv hen hC hstep
    exact hinv.step hsetup hen hC hstep

omit [DecidableEq ℓ] in
theorem downloads_true (s : σ × (ℓ → ListView Image)) (e : ε ⊕ (ℓ × ListViewEvent Data)) :
    Downloads (fun _ _ => True) s e := by
  cases e with
  | inl e => trivial
  | inr event =>
    obtain ⟨list, e⟩ := event
    cases e with
    | download i event => exact fun _ _ => trivial
    | _ => trivial

theorem inv_of_run_any (hreloaded : lists.Reloaded M)
    {es : List (ε ⊕ (ℓ × ListViewEvent Data))} {s : σ × (ℓ → ListView Image)}
    (h : (M.attach (lists.component images)).Run es s) :
    lists.Inv images (fun _ _ => True) s.1 s.2 :=
  inv_of_run hreloaded (fun _ _ => trivial) (h.when_of_all downloads_true)

/-- If every picture arrives while its cell is set up for it, the cells of the two classes
    without an effective guard show the items that they are set up for. -/
theorem shows_of_run_when (hreloaded : lists.Reloaded M)
    {es : List (ε ⊕ (ℓ × ListViewEvent Data))} {s : σ × (ℓ → ListView Image)}
    (h : ((M.attach (lists.component images)).when
      (Downloads (ReusedCell.ArrivesInTime images))).Run es s) {list : ℓ}
    (hcls : lists.cls list = CellEpisodeTabViewCell ∨
      lists.cls list = CellPodcastCollectionViewCell) {cell : ListCell Image}
    (hcell : cell ∈ (s.2 list).cells) {content : CellContent} (hset : cell.SetUpFor content) :
    cell.Shows images content := by
  obtain ⟨es', hrun⟩ := (inv_of_run hreloaded (fun _ _ => trivial) h).cells list cell hcell
  exact hset.shows (ReusedCell.tracks_of_run_when hcls hrun).2.showsOwn

/-- If `Q` comes about only when a list is reloaded, the list has counted its items while `Q`
    holds. -/
theorem counted_of_run (hreloaded : lists.Reloaded M) (list : ℓ) {Q : σ → Prop}
    (hinit : ¬ Q M.init) (hexists : ∀ s, Q s → (lists.dataSource s list).isSome)
    (hstep : ∀ es s e t, M.Run es s → M.Enabled s e → M.step s e = .ok t → Q t →
      Q s ∨ lists.reloads s e list = true)
    {es : List (ε ⊕ (ℓ × ListViewEvent Data))} {s : σ × (ℓ → ListView Image)}
    (h : (M.attach (lists.component images)).Run es s) (hQ : Q s.1) :
    ∃ source ∈ lists.dataSource s.1 list, (s.2 list).sectionRows = source.sectionRows := by
  refine Machine.Run.attach_invariant (D := fun _ _ => True)
    (I := fun screen views => Q screen → ∃ source ∈ lists.dataSource screen list,
      (views list).sectionRows = source.sectionRows)
    (fun hQ => absurd hQ hinit) ?_ ?_ (h.when_of_all fun _ _ => trivial) hQ
  · intro es screen views e screen' hrun hcounted hen hst hQ'
    obtain ⟨source', hsource'⟩ := Option.isSome_iff_exists.mp (hexists screen' hQ')
    refine ⟨source', hsource', ?_⟩
    simp only [component, hsource']
    split
    · rfl
    · rename_i hkept
      obtain ⟨source, hsource, hrows⟩ :=
        hcounted ((hstep es screen e screen' hrun hen hst hQ').resolve_right hkept)
      obtain ⟨source'', hsource'', heq⟩ := hreloaded.step hrun hen hst list source hsource
      obtain rfl := Option.some.inj (hsource'.symm.trans hsource'')
      rw [heq.resolve_right hkept]
      exact hrows
  · intro es screen views event views' _ hcounted hen _ hst hQ'
    obtain ⟨source, hsource, hrows⟩ := hcounted hQ'
    refine ⟨source, hsource, ?_⟩
    obtain ⟨source₀, hsource₀⟩ := Option.isSome_iff_exists.mp hen.1
    simp only [component, hsource₀] at hst
    obtain ⟨view, hview, hreturn⟩ := Except.bind_eq_ok.mp hst
    obtain rfl := Except.ok.inj hreturn
    by_cases hlist : list = event.1
    · subst hlist
      obtain rfl := Option.some.inj (hsource₀.symm.trans hsource)
      rw [Function.update_self]
      cases ListView.sectionRows_of_step hview with
      | inl hnew => exact hnew
      | inr hkept => rw [hkept.1, hrows]
    · rw [Function.update_of_ne hlist, hrows]

/-- The data sources of a screen that plays its part do not trap. -/
theorem exists_step (hreloaded : lists.Reloaded M) (h : lists.Inv images C screen views) {es : List ε}
    (hrun : M.Run es screen) {event : ℓ × ListViewEvent Data}
    (hen : (lists.component images).Enabled screen views event) :
    ∃ views', (lists.component images).step screen views event = .ok views' := by
  obtain ⟨source, hsource⟩ := Option.isSome_iff_exists.mp hen.1
  obtain ⟨view, hview⟩ := ListView.exists_step (lists.cls event.1)
    (h.displays event.1 source hsource) (hreloaded.complete hrun event.1 source hsource) hen.2
  exact ⟨_, by simp only [component, hsource, hview, Except.ok_bind]; rfl⟩

end Lists

end BingePodcast
