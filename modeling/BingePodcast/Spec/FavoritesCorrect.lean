import BingePodcast.Native.PlayerViewController

/-!
# The favourites store

What the four methods of `CoreDataManager` do to the rows of the context and read from
them, whatever order Core Data and Swift list things in, and over runs of calls.

## Key results

- `CoreDataManager.removeEpisodeFromFavorite_eq`: the loop of deletions filters the rows
- `CoreDataManager.flatMap_fetchFavoriteEpisode`: regrouping loses and repeats no row
- `favorites_refine`: after any calls the favourites are the surviving adds
- `favorites_independent`: episodes that differ in title or subtitle do not share rows
-/

namespace BingePodcast

namespace CoreDataManager

variable {context : Multiset EpisodeSaved} {result : List EpisodeSaved} {t s : String}

/-! ## The methods on the rows -/

/-- Deleting row by row filters the rows of the context. -/
theorem removeEpisodeFromFavorite_eq (h : (result : Multiset EpisodeSaved) = context) :
    removeEpisodeFromFavorite context (some result) t s =
      context.filter fun r => ¬ isRemoved t s r :=
  Multiset.foldl_erase_eq_filter h

/-- The check looks for a row of the title and subtitle. -/
theorem checkIfEpisodeIsFavorite_iff (h : (result : Multiset EpisodeSaved) = context) :
    checkIfEpisodeIsFavorite (some result) t s ↔
      ∃ r ∈ context, r.titleEpisode = some t ∧ r.subtitleEpisode = some s := by
  simp [checkIfEpisodeIsFavorite, isEpisode, ← h]

/-- A listing of the entries of every dictionary. -/
def Enumerates
    (enumerated : (Finmap fun _ : String => List Episode) → List (Σ _ : String, List Episode)) :
    Prop :=
  ∀ dictionary, (enumerated dictionary : Multiset (Σ _ : String, List Episode)) = dictionary.entries

/-- The groups of favourites contain each row once. -/
theorem flatMap_fetchFavoriteEpisode
    {enumerated : (Finmap fun _ : String => List Episode) → List (Σ _ : String, List Episode)}
    (henumerated : Enumerates enumerated) (h : (result : Multiset EpisodeSaved) = context) :
    ((fetchFavoriteEpisode enumerated (some result)).flatMap (·.episode) : Multiset Episode) =
      context.map Episode.ofSaved := by
  have hvalues : (podcastEpisodeDictionary (result.map Episode.ofSaved)).values =
      (result.map Episode.ofSaved : Multiset Episode) := by
    rw [podcastEpisodeDictionary, Finmap.values_foldl_appendAt, Finmap.values_empty, add_zero]
  -- flattening the groups is listing the values of the dictionary
  rw [← h, Multiset.map_coe, ← hvalues, Finmap.values, ← henumerated, Multiset.coe_bind,
    fetchFavoriteEpisode, List.flatMap_map]

end CoreDataManager

/-! ## Runs of calls -/

/-- An added episode as it is read back. -/
def FavoriteEpisode.episode (episode : FavoriteEpisode) : Episode where
  title := some episode.title
  subtitle := some episode.subtitle
  description := some episode.description
  totalTime := some episode.totalTime
  imageUrl := some episode.imageUrl
  playerUrl := some episode.playerUrl
  podcastTitle := some episode.podcastName

/-- A call removes an episode that was added before. -/
def FavoriteCall.removes (episode : FavoriteEpisode) : FavoriteCall → Bool
  | .addEpisodeInFavorite _ => false
  | .removeEpisodeFromFavorite titlePodcast subtitlePodcast _ =>
    (episode.title == titlePodcast && episode.subtitle == subtitlePodcast) || episode.title == ""

/-- The episodes added that no later call removes. -/
def surviving : List FavoriteCall → List FavoriteEpisode
  | [] => []
  | .addEpisodeInFavorite episode :: calls =>
    if calls.any (·.removes episode) then surviving calls else episode :: surviving calls
  | .removeEpisodeFromFavorite _ _ _ :: calls => surviving calls

/-- One more call keeps the episodes it does not remove, and adds its own. -/
theorem surviving_concat (calls : List FavoriteCall) (call : FavoriteCall) :
    surviving (calls ++ [call]) =
      (surviving calls).filter (fun episode => !call.removes episode) ++ surviving [call] := by
  induction calls with
  | nil => rfl
  | cons c calls ih =>
    cases c with
    | removeEpisodeFromFavorite t s result => exact ih
    | addEpisodeInFavorite episode =>
      -- the new call may be the first one to remove this episode
      simp only [List.cons_append, surviving, List.any_append, List.any_cons, List.any_nil,
        Bool.or_false, ih]
      cases calls.any (·.removes episode) <;> cases hcall : call.removes episode <;>
        simp [hcall]

namespace CoreDataManager

variable {context : Multiset EpisodeSaved} {calls : List FavoriteCall}

/-- The rows of the context are the surviving adds. -/
theorem context_of_run (h : machine.Run calls context) :
    context = ((surviving calls).map FavoriteEpisode.row : Multiset EpisodeSaved) := by
  induction h with
  | nil => rfl
  | @snoc calls context context' call hrun hen hstep ih =>
    rw [surviving_concat]
    cases call with
    | addEpisodeInFavorite episode =>
      obtain rfl := Except.ok.inj hstep
      rw [addEpisodeInFavorite, ih, Multiset.cons_coe, Multiset.coe_eq_coe]
      have hcomm : ([episode.row] ++ (surviving calls).map FavoriteEpisode.row).Perm
          ((surviving calls).map FavoriteEpisode.row ++ [episode.row]) := List.perm_append_comm
      simpa [FavoriteCall.removes, surviving] using hcomm
    | removeEpisodeFromFavorite t s result =>
      obtain rfl := Except.ok.inj hstep
      -- the condition of the loop on a row is the reference's condition on its episode
      have hremoved : (fun r => decide ¬ isRemoved t s r) ∘ FavoriteEpisode.row =
          fun episode => !(FavoriteCall.removeEpisodeFromFavorite t s result).removes episode := by
        funext episode
        have hrow : isRemoved t s episode.row =
          (FavoriteCall.removeEpisodeFromFavorite t s result).removes episode := rfl
        simp [hrow]
      rw [removeEpisodeFromFavorite_eq hen, ih, Multiset.filter_coe, List.filter_map, hremoved,
        surviving, surviving, List.append_nil]

end CoreDataManager

/-- After any calls on an empty store: the favourites read back are the surviving adds with
    their seven fields, each once, and the check finds exactly the titles and subtitles
    among them. -/
theorem favorites_refine
    (enumerated : (Finmap fun _ : String => List Episode) → List (Σ _ : String, List Episode))
    (henumerated : CoreDataManager.Enumerates enumerated) {calls : List FavoriteCall}
    {context : Multiset EpisodeSaved} (h : CoreDataManager.machine.Run calls context)
    {result : List EpisodeSaved} (hresult : (result : Multiset EpisodeSaved) = context) :
    let favorites :=
      (CoreDataManager.fetchFavoriteEpisode enumerated (some result)).flatMap (·.episode)
    (favorites : Multiset Episode) = (surviving calls).map FavoriteEpisode.episode ∧
    ∀ result' : List EpisodeSaved, (result' : Multiset EpisodeSaved) = context → ∀ t s,
      (CoreDataManager.checkIfEpisodeIsFavorite (some result') t s = true ↔
        ∃ episode ∈ favorites, episode.title = some t ∧ episode.subtitle = some s) := by
  intro favorites
  have hcontext := CoreDataManager.context_of_run h
  have hfavorites : (favorites : Multiset Episode) =
      (surviving calls).map FavoriteEpisode.episode := by
    rw [CoreDataManager.flatMap_fetchFavoriteEpisode henumerated hresult, hcontext,
      Multiset.map_coe, List.map_map]
    rfl
  refine ⟨hfavorites, fun result' hresult' t s => ?_⟩
  rw [CoreDataManager.checkIfEpisodeIsFavorite_iff hresult', hcontext]
  simp only [← Multiset.mem_coe, hfavorites]
  simp [FavoriteEpisode.row, FavoriteEpisode.episode]

/-- An episode of `"B"`, a blank one and one of `"A"`; removing the latter. -/
def addAndRemove : List FavoriteCall :=
  [.addEpisodeInFavorite ⟨"1", "x", "", "", "", "", "B"⟩,
    .addEpisodeInFavorite ⟨"", "y", "", "", "", "", "B"⟩,
    .addEpisodeInFavorite ⟨"2", "z", "", "", "", "", "A"⟩,
    .removeEpisodeFromFavorite "2" "z"
      [FavoriteEpisode.row ⟨"2", "z", "", "", "", "", "A"⟩,
        FavoriteEpisode.row ⟨"1", "x", "", "", "", "", "B"⟩,
        FavoriteEpisode.row ⟨"", "y", "", "", "", "", "B"⟩]]

theorem favorites_refine_addAndRemove :
    ((CoreDataManager.fetchFavoriteEpisode (fun dictionary => dictionary.entries.toList)
        (some [FavoriteEpisode.row ⟨"1", "x", "", "", "", "", "B"⟩])).flatMap (·.episode) :
          Multiset Episode) =
      {FavoriteEpisode.episode ⟨"1", "x", "", "", "", "", "B"⟩} :=
  have hrun := Machine.run_of_replay CoreDataManager.machine addAndRemove (by decide)
  have hresult : (([FavoriteEpisode.row ⟨"1", "x", "", "", "", "", "B"⟩] : List EpisodeSaved) :
      Multiset EpisodeSaved) = _ := by decide
  (favorites_refine (fun dictionary => dictionary.entries.toList)
    (fun dictionary => dictionary.entries.coe_toList) hrun hresult).1

/-! ## Episodes and their rows -/

/-- A row saved for the episode of a player. -/
def PlayerViewController.IsRow (player : PlayerViewController) (r : EpisodeSaved) : Prop :=
  r.titleEpisode = some player.title ∧ r.subtitleEpisode = some player.subtitle ∧
    r.podcastName = some player.podcastTitle

instance (player : PlayerViewController) : DecidablePred player.IsRow :=
  fun _ => inferInstanceAs (Decidable (_ ∧ _ ∧ _))

/-- Episodes that differ in title or subtitle are independent: removing the first leaves the
    rows of the second in place unless they are blank, and checking the second gives the
    same answer without the rows of the first. -/
theorem favorites_independent (player₁ player₂ : PlayerViewController)
    (hne : player₁.title ≠ player₂.title ∨ player₁.subtitle ≠ player₂.subtitle)
    {context : Multiset EpisodeSaved} {result : List EpisodeSaved}
    (hresult : (result : Multiset EpisodeSaved) = context) :
    (player₂.title ≠ "" → ∀ r, player₂.IsRow r →
      (player₁.removeEpisodeFromFavorite context (some result)).count r = context.count r) ∧
    ∀ others : List EpisodeSaved,
      (others : Multiset EpisodeSaved) = context.filter (fun r => ¬ player₁.IsRow r) →
      player₂.checkIfEpisodeIsFavorite (some result) =
        player₂.checkIfEpisodeIsFavorite (some others) := by
  constructor
  · rintro hblank r ⟨htitle, hsubtitle, -⟩
    have hkept : ¬ CoreDataManager.isRemoved player₁.title player₁.subtitle r := by
      simp only [CoreDataManager.isRemoved, htitle, hsubtitle, Bool.or_eq_true, Bool.and_eq_true,
        beq_iff_eq, Option.some.injEq]
      rintro (⟨heq, heq'⟩ | heq)
      · exact hne.elim (· heq.symm) (· heq'.symm)
      · exact hblank heq
    rw [PlayerViewController.removeEpisodeFromFavorite,
      CoreDataManager.removeEpisodeFromFavorite_eq hresult]
    exact Multiset.count_filter_of_pos hkept
  · intro others hothers
    rw [Bool.eq_iff_iff, PlayerViewController.checkIfEpisodeIsFavorite,
      PlayerViewController.checkIfEpisodeIsFavorite,
      CoreDataManager.checkIfEpisodeIsFavorite_iff hresult,
      CoreDataManager.checkIfEpisodeIsFavorite_iff hothers]
    refine exists_congr fun r => ?_
    rw [Multiset.mem_filter, and_assoc, and_congr_right_iff]
    -- a row of the second episode is none of the first
    refine fun _ => (and_iff_right_of_imp ?_).symm
    rintro ⟨htitle, hsubtitle⟩ ⟨htitle', hsubtitle', -⟩
    rw [htitle, Option.some.injEq] at htitle'
    rw [hsubtitle, Option.some.injEq] at hsubtitle'
    exact hne.elim (· htitle'.symm) (· hsubtitle'.symm)

/-- The player opened on an episode of the podcast `podcastTitle`, with the subtitle `"x"`. -/
def playerOf (podcastTitle title : String) : PlayerViewController where
  titlePodcast := some title
  subtitlePodcast := some "x"
  descriptionPodcast := none
  imagePlayer := ""
  podcastTitle := podcastTitle

/-- The row of an episode of `"A"`. -/
def savedOfA : EpisodeSaved := (playerOf "A" "1").favoriteEpisode.row

/-- The row of an episode of `"B"`. -/
def savedOfB : EpisodeSaved := (playerOf "B" "2").favoriteEpisode.row

theorem favorites_independent_playerOf :
    ((playerOf "A" "1").removeEpisodeFromFavorite {savedOfA, savedOfB}
      (some [savedOfA, savedOfB])).count savedOfB = 1 ∧
    (playerOf "B" "2").checkIfEpisodeIsFavorite (some [savedOfA, savedOfB]) =
      (playerOf "B" "2").checkIfEpisodeIsFavorite (some [savedOfB]) := by
  have hresult : (([savedOfA, savedOfB] : List EpisodeSaved) : Multiset EpisodeSaved) =
      {savedOfA, savedOfB} := rfl
  obtain ⟨hkept, hcheck⟩ := favorites_independent (playerOf "A" "1") (playerOf "B" "2")
    (.inl (by decide)) hresult
  exact ⟨(hkept (by decide) savedOfB (by decide)).trans (by decide),
    hcheck [savedOfB] (by decide)⟩

/-- Episodes of one title and subtitle share their rows across podcasts, and the rows of a
    blank title go with any other. -/
theorem favorites_shared :
    let sameOfB := (playerOf "B" "1").favoriteEpisode.row
    let blankOfB := (playerOf "B" "").favoriteEpisode.row
    (playerOf "A" "1").removeEpisodeFromFavorite {sameOfB} (some [sameOfB]) = 0 ∧
    (playerOf "B" "1").checkIfEpisodeIsFavorite (some [savedOfA]) = true ∧
    (playerOf "A" "1").removeEpisodeFromFavorite {blankOfB} (some [blankOfB]) = 0 := by
  decide

end BingePodcast
