import BingePodcast.Native.ImageCell

/-!
# The pictures of reused cells

A download may yield its picture after the cell was set up for something else. This file
says what keeps a cell from showing the picture of another item: the guard of the home
carousel's cells always does, and the two cells without an effective guard show their own
picture exactly when no late one arrives.

## Key results

- `ReusedCell.Tracks.step`: a class of cells whose blocks are good keeps its own picture
- `reused_cells_show_own_iff`: the list cells show their own picture exactly when each
  picture arrives while the cell is set up for it
- `home_cell_shows_own`: the home cells always do
-/

namespace BingePodcast

variable {Data Image : Type} {source : ImageSource Data Image} {cls : ImageCellClass Image}

namespace ReusedCell

variable {reused reused' : ReusedCell Image} {e : ReusedCellEvent Data}
variable {es : List (ReusedCellEvent Data)}

/-- Downloads are those of set-ups, and what they queue is the image behind their URL. -/
structure Inv (source : ImageSource Data Image) (reused : ReusedCell Image) : Prop where
  requests : ∀ download ∈ reused.requests,
    reused.setups[download.setup]? = some download.imageURL
  mainQueue : ∀ block ∈ reused.mainQueue,
    block.urlString = some block.download.imageURL ∧
      block.imageObject = source.imageOf block.download.imageURL ∧
      reused.setups[block.download.setup]? = some block.download.imageURL

/-- The handler of a download passes on its URL. -/
theorem downloadImage_snd (decode : Data → Option Image) (urlString : String)
    (result : DataTaskResult Data) :
    (ImageCallURL.downloadImage decode urlString result).2 = some urlString := by
  unfold ImageCallURL.downloadImage
  split
  · rfl
  · split
    · split <;> rfl
    · rfl

/-- What a set-up does: it starts a download unless the URL is invalid. -/
theorem step_setup (source : ImageSource Data Image) (cls : ImageCellClass Image)
    (reused : ReusedCell Image) (imageURL : String) :
    ∃ requests, (requests = reused.requests ∨
        requests = reused.requests ++ [⟨imageURL, reused.setups.length⟩]) ∧
      reused.step source cls (.setup imageURL) =
        { cell := cls.setup reused.cell imageURL
          requests := requests
          mainQueue := reused.mainQueue
          setups := reused.setups ++ [imageURL]
          succeeded := false } := by
  by_cases hisURL : source.isURL imageURL
  · refine ⟨_, .inr rfl, ?_⟩
    simp only [step, if_pos hisURL]
  · refine ⟨_, .inl rfl, ?_⟩
    simp only [step, if_neg hisURL, completion]

/-- What one answer does: it queues the image behind the URL, or fails. -/
theorem step_dataTaskResult (cls : ImageCellClass Image) {download : ImageDownload}
    {result : DataTaskResult Data}
    (hen : Enabled source reused (.dataTaskResult download result)) :
    reused.step source cls (.dataTaskResult download result) =
        { reused with requests := reused.requests.erase download } ∨
      reused.step source cls (.dataTaskResult download result) =
        { reused with
          requests := reused.requests.erase download
          mainQueue := reused.mainQueue ++
            [⟨download, source.imageOf download.imageURL, some download.imageURL⟩]
          succeeded := reused.succeeded || download.setup + 1 == reused.setups.length } := by
  have hurl := downloadImage_snd source.decode download.imageURL result
  have himage := hen.2
  simp only [step]
  generalize ImageCallURL.downloadImage source.decode download.imageURL result = handled at *
  obtain ⟨image, urlString⟩ := handled
  obtain rfl : urlString = some download.imageURL := hurl
  cases image with
  | none => exact .inl rfl
  | some imageObject =>
    obtain rfl := himage imageObject rfl
    exact .inr rfl

/-- One event keeps the invariant. -/
theorem Inv.step (h : Inv source reused) (hen : Enabled source reused e) :
    Inv source (reused.step source cls e) := by
  -- set-ups are only ever added
  have hadded : ∀ {i : Nat} {url imageURL : String}, reused.setups[i]? = some url →
      (reused.setups ++ [imageURL])[i]? = some url := by
    intro i url imageURL hi
    rw [List.getElem?_append_left (List.getElem?_eq_some_iff.mp hi).1, hi]
  cases e with
  | setup imageURL =>
    obtain ⟨requests, hrequests, hstep⟩ := step_setup source cls reused imageURL
    rw [hstep]
    constructor
    · intro download hdownload
      rcases hrequests with rfl | rfl
      · exact hadded (h.requests download hdownload)
      · rcases List.mem_append.mp hdownload with hdownload | hdownload
        · exact hadded (h.requests download hdownload)
        · rw [List.mem_singleton.mp hdownload]
          exact List.getElem?_concat_length
    · intro block hblock
      obtain ⟨hurl, himage, hsetup⟩ := h.mainQueue block hblock
      exact ⟨hurl, himage, hadded hsetup⟩
  | dataTaskResult download result =>
    have hrequests : ∀ download' ∈ reused.requests.erase download,
        reused.setups[download'.setup]? = some download'.imageURL :=
      fun download' hmem => h.requests download' (List.mem_of_mem_erase hmem)
    rcases step_dataTaskResult cls hen with hstep | hstep
    · rw [hstep]
      exact ⟨hrequests, h.mainQueue⟩
    · rw [hstep]
      refine ⟨hrequests, fun block hblock => ?_⟩
      rcases List.mem_append.mp hblock with hblock | hblock
      · exact h.mainQueue block hblock
      · rw [List.mem_singleton.mp hblock]
        exact ⟨rfl, rfl, h.requests download hen.1⟩
  | mainQueueBlock =>
    simp only [ReusedCell.step]
    split
    · rename_i block blocks hqueue
      refine ⟨h.requests, fun block' hblock' => h.mainQueue block' ?_⟩
      rw [hqueue]
      exact List.mem_cons_of_mem _ hblock'
    · exact h

/-! ## Showing the own picture -/

/-- The cell shows the placeholder or the picture of its latest set-up; with nothing
    outstanding, it shows the latter if that download has succeeded. -/
def ShowsOwn (source : ImageSource Data Image) (reused : ReusedCell Image) : Prop :=
  ∀ imageURL, reused.setups.getLast? = some imageURL →
    (reused.cell.picture = .placeholderImage ∨
      reused.cell.picture = .image (source.imageOf imageURL)) ∧
    (reused.requests = [] → reused.mainQueue = [] → reused.succeeded = true →
      reused.cell.picture = .image (source.imageOf imageURL))

/-- The picture of the latest set-up is shown, or still to come if it has succeeded. -/
structure Tracks (source : ImageSource Data Image) (reused : ReusedCell Image) : Prop where
  picture : ∀ imageURL, reused.setups.getLast? = some imageURL →
    reused.cell.picture = .placeholderImage ∨
      reused.cell.picture = .image (source.imageOf imageURL)
  succeeded : ∀ imageURL, reused.setups.getLast? = some imageURL → reused.succeeded = true →
    reused.cell.picture = .image (source.imageOf imageURL) ∨
      ∃ block ∈ reused.mainQueue, block.download.imageURL = imageURL

theorem Tracks.showsOwn (h : Tracks source reused) : ShowsOwn source reused := by
  intro imageURL hlast
  refine ⟨h.picture imageURL hlast, fun _ hqueue hsucceeded => ?_⟩
  rcases h.succeeded imageURL hlast hsucceeded with hpicture | ⟨block, hblock, -⟩
  · exact hpicture
  · rw [hqueue] at hblock
    exact absurd hblock List.not_mem_nil

theorem tracks_init : Tracks source ({} : ReusedCell Image) :=
  ⟨fun _ h => absurd h (by simp), fun _ h => absurd h (by simp)⟩

/-- A block does no harm: it shows the picture of the latest set-up, or it belongs to
    another URL and shows nothing. -/
def Harmless (source : ImageSource Data Image) (cls : ImageCellClass Image)
    (reused : ReusedCell Image) (block : ImageBlock Image) : Prop :=
  ∀ imageURL, reused.setups.getLast? = some imageURL →
    let cell := cls.completion reused.cell block.download.imageURL block.imageObject block.urlString
    cell.picture = .image (source.imageOf imageURL) ∨
      (cell.picture = reused.cell.picture ∧ block.download.imageURL ≠ imageURL)

/-- One event keeps the cell on its own picture, if it runs no harmful block. -/
theorem Tracks.step (h : Tracks source reused) (hinv : Inv source reused)
    (hsetup : ∀ cell imageURL, (cls.setup cell imageURL).picture = .placeholderImage)
    (hen : Enabled source reused e)
    (hharmless : e = .mainQueueBlock → ∀ block ∈ reused.mainQueue.head?,
      Harmless source cls reused block) :
    Tracks source (reused.step source cls e) := by
  cases e with
  | setup imageURL =>
    obtain ⟨requests, -, hstep⟩ := step_setup source cls reused imageURL
    rw [hstep]
    exact ⟨fun _ _ => .inl (hsetup _ _), fun _ _ h => absurd h (by simp)⟩
  | dataTaskResult download result =>
    rcases step_dataTaskResult cls hen with hstep | hstep
    · rw [hstep]
      exact ⟨h.picture, h.succeeded⟩
    · rw [hstep]
      refine ⟨h.picture, fun imageURL hlast hsucceeded => ?_⟩
      rcases Bool.or_eq_true_iff.mp hsucceeded with hsucceeded | hlatest
      · -- it had succeeded before, and nothing leaves the queue
        exact (h.succeeded imageURL hlast hsucceeded).imp_right fun ⟨block, hblock, hurl⟩ =>
          ⟨block, List.mem_append_left _ hblock, hurl⟩
      · -- the answer is the one to the latest set-up
        refine .inr ⟨_, List.mem_append_right _ (List.mem_singleton_self _), ?_⟩
        have hrequest := hinv.requests download hen.1
        have hlast' : reused.setups.getLast? = some imageURL := hlast
        rw [List.getLast?_eq_getElem?, ← eq_of_beq hlatest, Nat.add_sub_cancel, hrequest] at hlast'
        exact Option.some.inj hlast'
  | mainQueueBlock =>
    have hharmless := hharmless rfl
    simp only [ReusedCell.step]
    split
    · rename_i block blocks hqueue
      have hblock := hharmless block (by rw [hqueue]; rfl)
      constructor
      · intro imageURL hlast
        rcases hblock imageURL hlast with hshown | ⟨hkept, -⟩
        · exact .inr hshown
        · rw [hkept]
          exact h.picture imageURL hlast
      · intro imageURL hlast hsucceeded
        rcases hblock imageURL hlast with hshown | ⟨hkept, hne⟩
        · exact .inl hshown
        · rw [hkept]
          refine (h.succeeded imageURL hlast hsucceeded).imp_right fun ⟨block', hblock', hurl⟩ => ?_
          rw [hqueue] at hblock'
          rcases List.mem_cons.mp hblock' with rfl | hblock'
          · exact absurd hurl hne
          · exact ⟨block', hblock', hurl⟩
    · exact h

/-! ## The cells of the lists -/

/-- A picture arrives for the item that the cell is set up for, or one with the same picture. -/
def ArrivesInTime (source : ImageSource Data Image) (reused : ReusedCell Image) :
    ReusedCellEvent Data → Prop
  | .mainQueueBlock => ∀ block ∈ reused.mainQueue.head?, ∀ imageURL ∈ reused.setups.getLast?,
      source.imageOf block.download.imageURL = source.imageOf imageURL
  | .setup _ => True
  | .dataTaskResult _ _ => True

instance [DecidableEq Image] (source : ImageSource Data Image) (reused : ReusedCell Image)
    (e : ReusedCellEvent Data) : Decidable (ArrivesInTime source reused e) :=
  match e with
  | .mainQueueBlock => inferInstanceAs (Decidable (∀ _ ∈ _, ∀ _ ∈ _, _))
  | .setup _ => inferInstanceAs (Decidable True)
  | .dataTaskResult _ _ => inferInstanceAs (Decidable True)

theorem picture_setup
    (hcls : cls = CellEpisodeTabViewCell ∨ cls = CellPodcastCollectionViewCell)
    (cell : ImageCell Image) (imageURL : String) :
    (cls.setup cell imageURL).picture = .placeholderImage := by
  rcases hcls with rfl | rfl <;> rfl

/-- The cells of the lists show whatever picture arrives. -/
theorem picture_completion
    (hcls : cls = CellEpisodeTabViewCell ∨ cls = CellPodcastCollectionViewCell)
    (cell : ImageCell Image) (imageURL : String) (imageObject : Image) :
    (cls.completion cell imageURL imageObject (some imageURL)).picture = .image imageObject := by
  rcases hcls with rfl | rfl
  · -- the guard compares the URL with itself
    simp [CellEpisodeTabViewCell]
  · rfl

/-- A block shows the image behind its URL. -/
theorem picture_mainQueueBlock
    (hcls : cls = CellEpisodeTabViewCell ∨ cls = CellPodcastCollectionViewCell)
    (hinv : Inv source reused) {block : ImageBlock Image} (hblock : block ∈ reused.mainQueue) :
    (cls.completion reused.cell block.download.imageURL block.imageObject block.urlString).picture =
      .image (source.imageOf block.download.imageURL) := by
  obtain ⟨hurl, himage, -⟩ := hinv.mainQueue block hblock
  rw [hurl, himage, picture_completion hcls]

theorem harmless_of_arrivesInTime
    (hcls : cls = CellEpisodeTabViewCell ∨ cls = CellPodcastCollectionViewCell)
    (hinv : Inv source reused)
    (htime : ArrivesInTime source reused (.mainQueueBlock : ReusedCellEvent Data))
    {block : ImageBlock Image} (hblock : block ∈ reused.mainQueue.head?) :
    Harmless source cls reused block := by
  intro imageURL hlast
  left
  rw [picture_mainQueueBlock hcls hinv (List.mem_of_head? hblock)]
  exact congrArg Picture.image (htime block hblock imageURL hlast)

/-- Exactly the events that meet `ArrivesInTime` keep the cell on its own picture. -/
theorem showsOwn_step_iff
    (hcls : cls = CellEpisodeTabViewCell ∨ cls = CellPodcastCollectionViewCell)
    (hinv : Inv source reused) (h : Tracks source reused) (hen : Enabled source reused e) :
    ShowsOwn source (reused.step source cls e) ↔ ArrivesInTime source reused e := by
  constructor
  · intro hshows
    cases e with
    | setup imageURL => trivial
    | dataTaskResult download result => trivial
    | mainQueueBlock =>
      intro block hblock imageURL hlast
      have hmem : block ∈ reused.mainQueue := List.mem_of_head? hblock
      obtain ⟨blocks, hqueue⟩ := List.head?_eq_some_iff.mp hblock
      simp only [step, hqueue] at hshows
      have hpicture := (hshows imageURL hlast).1
      rw [picture_mainQueueBlock hcls hinv hmem] at hpicture
      simpa using hpicture
  · intro htime
    refine (h.step hinv (picture_setup hcls) hen ?_).showsOwn
    rintro rfl block hblock
    exact harmless_of_arrivesInTime hcls hinv htime hblock

/-- Runs whose pictures all arrive in time keep the cell on its own picture. -/
theorem tracks_of_run_when
    (hcls : cls = CellEpisodeTabViewCell ∨ cls = CellPodcastCollectionViewCell)
    (h : ((machine source cls).when (ArrivesInTime source)).Run es reused) :
    Inv source reused ∧ Tracks source reused := by
  refine h.invariant (I := fun reused => Inv source reused ∧ Tracks source reused)
    ⟨⟨by simp [Machine.when, machine], by simp [Machine.when, machine]⟩, tracks_init⟩ ?_
  rintro reused e reused' ⟨hinv, htracks⟩ ⟨hen, htime⟩ hstep
  obtain rfl := Except.ok.inj hstep
  refine ⟨hinv.step hen, htracks.step hinv (picture_setup hcls) hen ?_⟩
  rintro rfl block hblock
  exact harmless_of_arrivesInTime hcls hinv htime hblock

end ReusedCell

/-- Both cells of the lists, all along a run of set-ups and downloads, show the placeholder or
    their own picture, and the latter once it has arrived and nothing is outstanding,
    exactly when each picture arrives while the cell is set up for it. -/
theorem reused_cells_show_own_iff (source : ImageSource Data Image)
    (hcls : cls = CellEpisodeTabViewCell ∨ cls = CellPodcastCollectionViewCell)
    {es : List (ReusedCellEvent Data)} {reused : ReusedCell Image}
    (h : (ReusedCell.machine source cls).Run es reused) :
    (∀ es' reused', es' <+: es → (ReusedCell.machine source cls).Run es' reused' →
      reused'.ShowsOwn source) ↔
    ((ReusedCell.machine source cls).when (ReusedCell.ArrivesInTime source)).Run es reused := by
  refine Machine.Run.forall_prefix_iff_when ReusedCell.tracks_init.showsOwn ?_ h
  intro es reused e reused' hrun _ hen hstep
  obtain rfl := Except.ok.inj hstep
  obtain ⟨hinv, htracks⟩ := ReusedCell.tracks_of_run_when hcls hrun
  exact ReusedCell.showsOwn_step_iff hcls hinv htracks hen

/-- Every string is a URL, and the image behind it is the string itself. -/
def echoSource : ImageSource String String where
  isURL _ := true
  decode data := some data
  imageOf imageURL := imageURL

/-- The answer to the download of `setup` number `n`. -/
def arrives (imageURL : String) (n : Nat) : ReusedCellEvent String :=
  .dataTaskResult ⟨imageURL, n⟩ ⟨some imageURL, some 200, false⟩

/-- The cell is set up for `"A"` and again for `"B"` after the picture of `"A"` has arrived. -/
def inTurn : List (ReusedCellEvent String) :=
  [.setup "A", arrives "A" 0, .mainQueueBlock, .setup "B", arrives "B" 1, .mainQueueBlock]

theorem reused_cells_show_own_iff_inTurn :
    ∃ reused, (ReusedCell.machine echoSource CellEpisodeTabViewCell).Run inTurn reused ∧
      reused.ShowsOwn echoSource :=
  have hrun := Machine.run_of_replay
    ((ReusedCell.machine echoSource CellEpisodeTabViewCell).when
      (ReusedCell.ArrivesInTime echoSource)) inTurn (by decide)
  ⟨_, hrun.of_when, (reused_cells_show_own_iff echoSource (.inl rfl) hrun.of_when).mpr hrun _ _
    (List.prefix_refl _) hrun.of_when⟩

/-- The picture of `"A"` arrives after that of `"B"`, for which the cell is set up. -/
def lateArrival : List (ReusedCellEvent String) :=
  [.setup "A", .setup "B", arrives "B" 1, .mainQueueBlock, arrives "A" 0, .mainQueueBlock]

/-- Nothing is outstanding and `"B"` has succeeded, but both cells show `"A"`. -/
theorem late_picture_stays :
    (∃ reused, (ReusedCell.machine echoSource CellEpisodeTabViewCell).Run lateArrival reused ∧
      reused.setups.getLast? = some "B" ∧ reused.requests = [] ∧ reused.mainQueue = [] ∧
      reused.succeeded = true ∧ reused.cell.picture = .image "A" ∧
      ¬ reused.ShowsOwn echoSource) ∧
    (∃ reused, (ReusedCell.machine echoSource CellPodcastCollectionViewCell).Run lateArrival reused ∧
      reused.setups.getLast? = some "B" ∧ reused.requests = [] ∧ reused.mainQueue = [] ∧
      reused.succeeded = true ∧ reused.cell.picture = .image "A" ∧
      ¬ reused.ShowsOwn echoSource) := by
  have hrun := Machine.run_of_replay (ReusedCell.machine echoSource CellEpisodeTabViewCell)
    lateArrival (by decide)
  have hrun' := Machine.run_of_replay (ReusedCell.machine echoSource CellPodcastCollectionViewCell)
    lateArrival (by decide)
  refine ⟨⟨_, hrun, by decide, by decide, by decide, by decide, by decide, fun hshows => ?_⟩,
    ⟨_, hrun', by decide, by decide, by decide, by decide, by decide, fun hshows => ?_⟩⟩
  · exact absurd (hshows "B" (by decide)).1 (by decide)
  · exact absurd (hshows "B" (by decide)).1 (by decide)

/-! ## The cells of the home carousel -/

namespace ReusedCell

variable {reused : ReusedCell Image} {e : ReusedCellEvent Data}
variable {es : List (ReusedCellEvent Data)}

/-- A cell of the home carousel remembers the image URL it was set up for. -/
def Remembers (reused : ReusedCell Image) : Prop :=
  ∀ imageURL, reused.setups.getLast? = some imageURL → reused.cell.imageName = imageURL

theorem imageName_completion (cell : ImageCell Image) (imageURL : String) (imageObject : Image)
    (urlString : Option String) :
    (PodcastHomePageCollectionViewCell.completion cell imageURL imageObject urlString).imageName =
      cell.imageName := by
  simp only [PodcastHomePageCollectionViewCell]
  split
  · split <;> rfl
  · rfl

theorem Remembers.step (h : Remembers reused) (hen : Enabled source reused e) :
    Remembers (reused.step source PodcastHomePageCollectionViewCell e) := by
  cases e with
  | setup imageURL =>
    obtain ⟨requests, -, hstep⟩ :=
      step_setup source PodcastHomePageCollectionViewCell reused imageURL
    rw [hstep]
    intro imageURL' hlast
    exact Option.some.inj (List.getLast?_concat.symm.trans hlast)
  | dataTaskResult download result =>
    rcases step_dataTaskResult PodcastHomePageCollectionViewCell hen with hstep | hstep
    · rw [hstep]
      exact h
    · rw [hstep]
      exact h
  | mainQueueBlock =>
    simp only [ReusedCell.step]
    split
    · intro imageURL hlast
      rw [imageName_completion]
      exact h imageURL hlast
    · exact h

/-- The guard lets a block through exactly if it is of the URL that the cell remembers. -/
theorem harmless_of_remembers (h : Remembers reused) (hinv : Inv source reused)
    {block : ImageBlock Image} (hblock : block ∈ reused.mainQueue) :
    Harmless source PodcastHomePageCollectionViewCell reused block := by
  obtain ⟨hurl, himage, -⟩ := hinv.mainQueue block hblock
  intro imageURL hlast
  have hname := h imageURL hlast
  by_cases hsame : block.download.imageURL = imageURL
  · left
    simp [PodcastHomePageCollectionViewCell, hurl, himage, hname, hsame]
  · right
    have hguard : ¬ reused.cell.imageName = block.download.imageURL :=
      fun heq => hsame (heq.symm.trans hname)
    simp [PodcastHomePageCollectionViewCell, hurl, hguard, hsame]

/-- The home cells keep track of their own picture in every run. -/
theorem tracks_of_run
    (h : (machine source PodcastHomePageCollectionViewCell).Run es reused) :
    Inv source reused ∧ Remembers reused ∧ Tracks source reused := by
  refine h.invariant
    (I := fun reused => Inv source reused ∧ Remembers reused ∧ Tracks source reused)
    ⟨⟨by simp [machine], by simp [machine]⟩, fun _ hlast => absurd hlast (by simp [machine]),
      tracks_init⟩ ?_
  rintro reused e reused' ⟨hinv, hremembers, htracks⟩ hen hstep
  obtain rfl := Except.ok.inj hstep
  refine ⟨hinv.step hen, hremembers.step hen, htracks.step hinv (fun _ _ => rfl) hen ?_⟩
  rintro rfl block hblock
  exact harmless_of_remembers hremembers hinv (List.mem_of_head? hblock)

end ReusedCell

/-- After any set-ups and downloads, a cell of the home carousel shows the placeholder or the
    image behind its `imageName`, and the latter if the latest set-up's download has
    succeeded and nothing is outstanding. -/
theorem home_cell_shows_own (source : ImageSource Data Image)
    {es : List (ReusedCellEvent Data)} {reused : ReusedCell Image}
    (h : (ReusedCell.machine source PodcastHomePageCollectionViewCell).Run es reused)
    (hsetups : reused.setups ≠ []) :
    reused.setups.getLast? = some reused.cell.imageName ∧
    (reused.cell.picture = .placeholderImage ∨
      reused.cell.picture = .image (source.imageOf reused.cell.imageName)) ∧
    (reused.requests = [] → reused.mainQueue = [] → reused.succeeded = true →
      reused.cell.picture = .image (source.imageOf reused.cell.imageName)) := by
  obtain ⟨-, hremembers, htracks⟩ := ReusedCell.tracks_of_run h
  obtain ⟨imageURL, hlast⟩ := Option.isSome_iff_exists.mp (List.getLast?_isSome.mpr hsetups)
  rw [hremembers imageURL hlast]
  exact ⟨hlast, htracks.showsOwn imageURL hlast⟩

theorem home_cell_shows_own_lateArrival :
    ∃ reused, (ReusedCell.machine echoSource PodcastHomePageCollectionViewCell).Run
        lateArrival reused ∧ reused.cell.picture = .image "B" :=
  have hrun := Machine.run_of_replay
    (ReusedCell.machine echoSource PodcastHomePageCollectionViewCell) lateArrival (by decide)
  ⟨_, hrun, (home_cell_shows_own echoSource hrun (by decide)).2.2 (by decide) (by decide)
    (by decide)⟩

end BingePodcast
