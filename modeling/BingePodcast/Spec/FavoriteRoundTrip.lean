import BingePodcast.Native.EpisodeSelection
import BingePodcast.ForStd.Except
import BingePodcast.Spec.FavoriteButtonCorrect
import BingePodcast.Spec.FavoritesGrouped

/-!
# Round trips of a favourite

An episode travels from a list to the labels and properties of the player, from there to a
row of the store, and from the row back to the list of favourites. This file says exactly
which episodes survive the way: those that are removed and added again, and those that are
added for the first time.

## Key results

- `FavoriteButton.run_checkTask`, `FavoriteButton.run_tapTask`: what a whole task does
- `favorite_twice_iff`: removing and adding an episode keeps the favourites exactly when the
  list it was selected in hands over what its row has
- `favorite_keeps_episode_iff`: a new favourite is read back whole exactly when it has no
  total time and no player URL
-/

namespace BingePodcast

/-! ## Whole tasks -/

/-- The events of the check. -/
def checkTask (found : Bool) (result : List EpisodeSaved) : List FavoriteButtonEvent :=
  [.checkCalls result, .checkResumes found]

/-- The events of a tap on the button. -/
def tapTask (favorite : Bool) (result : List EpisodeSaved) : List FavoriteButtonEvent :=
  [.actionPressFavoriteButton, .clickBegins, .clickCalls favorite result, .clickResumes favorite]

namespace FavoriteButton

open Machine

variable {player : PlayerViewController} {context : Multiset EpisodeSaved}
variable {button button' : FavoriteButton} {es : List FavoriteButtonEvent}
variable {result : List EpisodeSaved} {found favorite : Bool}

/-- The check writes down whether the episode is saved, and nothing is in flight after it. -/
theorem run_checkTask (h : (machine player context).Run (checkTask found result) button) :
    (found = true ↔ player.IsSaved context) ∧ button.tasks = [] ∧ button.context = context ∧
      button.player = player.checkIfPodcastIsFavorite found := by
  have hevents : checkTask found result = [] ++ [.checkCalls result] ++ [.checkResumes found] := rfl
  rw [hevents] at h
  obtain ⟨_, h, hresumes, hstep⟩ := run_snoc_iff.mp h
  obtain ⟨_, h, hcalls, hstep'⟩ := run_snoc_iff.mp h
  obtain rfl := run_nil_iff.mp h
  obtain rfl := Except.ok.inj hstep'
  obtain rfl := Except.ok.inj hstep
  -- the task in flight has the answer of the call
  have hfound : found = player.checkIfEpisodeIsFavorite (some result) := by
    have hmem : FavoriteTask.checked found ∈
        [FavoriteTask.checked (player.checkIfEpisodeIsFavorite (some result))] := hresumes
    simpa using hmem
  refine ⟨?_, ?_, rfl, rfl⟩
  · rw [hfound]
    exact PlayerViewController.checkIfEpisodeIsFavorite_iff hcalls.2
  · simp [step, advance, machine, hfound]

/-- A tap with nothing in flight does what the flag says and negates the flag. -/
theorem run_tapTask (hrun : (machine player context).Run es button) (hrest : button.tasks = [])
    (h : (machine player context).Run (es ++ tapTask favorite result) button') :
    favorite = button.player.isFavorite ∧ (result : Multiset EpisodeSaved) = button.context ∧
      button'.tasks = [] ∧ button'.player = button.player.favoriteButtonClick favorite ∧
      button'.context =
        button.player.favoriteButtonClickCall favorite button.context (some result) := by
  have hevents : es ++ tapTask favorite result = es ++ [.actionPressFavoriteButton] ++
      [.clickBegins] ++ [.clickCalls favorite result] ++ [.clickResumes favorite] := by
    simp [tapTask]
  rw [hevents] at h
  obtain ⟨_, h, hresumes, hstep⟩ := run_snoc_iff.mp h
  obtain ⟨_, h, hcalls, hstep'⟩ := run_snoc_iff.mp h
  obtain ⟨_, h, -, hstep''⟩ := run_snoc_iff.mp h
  obtain ⟨_, h, -, hstep'''⟩ := run_snoc_iff.mp h
  obtain rfl := hrun.det h
  obtain rfl := Except.ok.inj hstep'''
  obtain rfl := Except.ok.inj hstep''
  obtain rfl := Except.ok.inj hstep'
  obtain rfl := Except.ok.inj hstep
  -- the only task in flight is the tap's own, so it has read the flag of this moment
  have hflag : favorite = button.player.isFavorite := by
    have hmem := hcalls.1
    simpa [step, advance, hrest] using hmem
  refine ⟨hflag, hcalls.2, ?_, rfl, rfl⟩
  simp [step, advance, hrest, hflag]

end FavoriteButton

/-! ## Removing and adding again -/

/-- Episodes that are read back the same were added with the same arguments. -/
theorem FavoriteEpisode.episode_injective : Function.Injective FavoriteEpisode.episode := by
  intro episode episode' heq
  cases episode
  cases episode'
  simpa [FavoriteEpisode.episode] using heq

namespace CoreDataManager

variable {context : Multiset EpisodeSaved} {result : List EpisodeSaved} {r : EpisodeSaved}
variable {player : PlayerViewController}

/-- Removing an episode that is saved once, where no row is blank, takes its row only. -/
theorem removeEpisodeFromFavorite_eq_erase (hunique : FavoriteButton.UniqueRows context)
    (hblank : ∀ r ∈ context, r.titleEpisode ≠ some "") (hr : r ∈ context)
    (htitle : r.titleEpisode = some player.title)
    (hsubtitle : r.subtitleEpisode = some player.subtitle)
    (h : (result : Multiset EpisodeSaved) = context) :
    player.removeEpisodeFromFavorite context (some result) = context.erase r := by
  obtain ⟨others, rfl⟩ := Multiset.exists_cons_of_mem hr
  rw [FavoriteButton.UniqueRows, Multiset.map_cons, Multiset.nodup_cons] at hunique
  have hremoved : isRemoved player.title player.subtitle r = true := by
    simp [isRemoved, htitle, hsubtitle]
  have hkept : ∀ r' ∈ others, ¬ isRemoved player.title player.subtitle r' := by
    intro r' hr'
    have hblank' := hblank r' (Multiset.mem_cons_of_mem hr')
    simp only [isRemoved, Bool.or_eq_true, Bool.and_eq_true, beq_iff_eq, hblank', or_false]
    rintro ⟨htitle', hsubtitle'⟩
    exact hunique.1 (Multiset.mem_map.mpr
      ⟨r', hr', by rw [htitle, hsubtitle, htitle', hsubtitle']⟩)
  rw [PlayerViewController.removeEpisodeFromFavorite, removeEpisodeFromFavorite_eq h,
    Multiset.erase_cons_head,
    Multiset.filter_cons_of_neg (p := fun r => ¬ isRemoved player.title player.subtitle r) _
      (not_not.mpr hremoved),
    Multiset.filter_eq_self.mpr hkept]

end CoreDataManager

namespace FavoriteButton

variable {player : PlayerViewController} {context : Multiset EpisodeSaved}
variable {button : FavoriteButton} {result result' result'' : List EpisodeSaved}
variable {found favorite favorite' : Bool} {r : EpisodeSaved}

/-- After the check and two taps the row of the episode is the one the player writes. -/
theorem context_of_two_taps (hunique : UniqueRows context)
    (hblank : ∀ r ∈ context, r.titleEpisode ≠ some "") (hr : r ∈ context)
    (htitle : r.titleEpisode = some player.title)
    (hsubtitle : r.subtitleEpisode = some player.subtitle)
    (h : (machine player context).Run
      (checkTask found result ++ tapTask favorite result' ++ tapTask favorite' result'') button) :
    button.context = player.favoriteEpisode.row ::ₘ context.erase r := by
  obtain ⟨button₂, h₂⟩ := h.of_prefix (List.prefix_append _ _)
  obtain ⟨button₁, h₁⟩ := h₂.of_prefix (List.prefix_append _ _)
  obtain ⟨hfound, hrest₁, hcontext₁, hplayer₁⟩ := run_checkTask h₁
  obtain ⟨hfavorite, hresult', hrest₂, hplayer₂, hcontext₂⟩ := run_tapTask h₁ hrest₁ h₂
  obtain ⟨hfavorite', -, -, -, hcontext₃⟩ := run_tapTask h₂ hrest₂ h
  -- the check finds the row, so the first tap removes it and the second adds one
  obtain rfl : found = true := hfound.mpr ⟨r, hr, htitle, hsubtitle⟩
  obtain rfl : favorite = true := by simpa [hplayer₁] using hfavorite
  obtain rfl : favorite' = false := by simpa [hplayer₂] using hfavorite'
  have hremoved : button₂.context = context.erase r := by
    rw [hcontext₁] at hresult'
    have herase := CoreDataManager.removeEpisodeFromFavorite_eq_erase hunique hblank hr htitle
      hsubtitle hresult'
    rw [hcontext₂, hcontext₁, hplayer₁]
    exact herase
  rw [hcontext₃, hremoved, hplayer₂, hplayer₁]
  rfl

end FavoriteButton

namespace EpisodeSelection

variable {context : Multiset EpisodeSaved} {player : PlayerViewController} {r : EpisodeSaved}

/-- The list shows the store as it is: the favourites are those of its rows. -/
def Shows (context : Multiset EpisodeSaved) : EpisodeSelection → Prop
  | .favorite page _ _ => ∃ enumerated, ∃ result : List EpisodeSaved,
      CoreDataManager.Enumerates enumerated ∧ (result : Multiset EpisodeSaved) = context ∧
      page = PageListFavorite.fetchFavoriteEpisode enumerated (some result)
  | .podcast _ _ => True

/-- What the list hands over beside the title and subtitle is what the row has. The
    favourites hand over no podcast title. -/
def HandsOver (r : EpisodeSaved) : EpisodeSelection → Prop
  | .favorite _ _ _ => r.podcastName = some ""
  | .podcast page index => ∀ episode, element page.podcastEpisode.episode index = .ok episode →
      r.descriptionEpisode = some (episode.description.getD "") ∧
      r.imageUrlEpisode = some (episode.imageUrl.getD "") ∧
      r.podcastName = some (episode.podcastTitle.getD "")

/-- What a player opened in the favourites has from a row of the store. -/
theorem favoriteEpisode_of_favorite {page : PageListFavorite} {sectionIndex row : ℤ}
    (hshows : (favorite page sectionIndex row).Shows context)
    (hopens : page.didSelectRowAt sectionIndex row = .ok player) :
    ∃ r ∈ context, player.favoriteEpisode =
      ⟨r.titleEpisode.getD "", r.subtitleEpisode.getD "", r.descriptionEpisode.getD "", "",
        r.imageUrlEpisode.getD "", "", ""⟩ := by
  obtain ⟨enumerated, result, henumerated, hresult, rfl⟩ := hshows
  obtain ⟨group, hgroup, hopens⟩ := Except.bind_eq_ok.mp hopens
  obtain ⟨episode, hepisode, hopens⟩ := Except.bind_eq_ok.mp hopens
  obtain rfl := Except.ok.inj hopens
  -- the selected episode is a row as it is read back
  have hmem : episode ∈ context.map Episode.ofSaved := by
    rw [← CoreDataManager.flatMap_fetchFavoriteEpisode henumerated hresult, Multiset.mem_coe,
      List.mem_flatMap]
    exact ⟨group, mem_of_element hgroup, mem_of_element hepisode⟩
  obtain ⟨r, hr, rfl⟩ := Multiset.mem_map.mp hmem
  exact ⟨r, hr, rfl⟩

/-- A player writes the row of the episode it was opened on again exactly when the list
    handed over what the row has. -/
theorem favoriteEpisode_eq_iff
    (hwritten : ∀ r ∈ context, ∃ player : PlayerViewController, r = player.favoriteEpisode.row)
    (hunique : FavoriteButton.UniqueRows context)
    {selection : EpisodeSelection} (hshows : selection.Shows context)
    (hopens : selection.didSelectRowAt = .ok player)
    {saved : PlayerViewController} (hsaved : saved.favoriteEpisode.row ∈ context)
    (htitle : saved.title = player.title) (hsubtitle : saved.subtitle = player.subtitle) :
    saved.favoriteEpisode = player.favoriteEpisode ↔
      selection.HandsOver saved.favoriteEpisode.row := by
  cases selection with
  | favorite page sectionIndex row =>
    obtain ⟨r, hr, hplayer⟩ := favoriteEpisode_of_favorite hshows hopens
    -- the row that the list read is the only one of the title and subtitle
    obtain rfl : r = saved.favoriteEpisode.row := by
      obtain ⟨other, rfl⟩ := hwritten r hr
      refine Multiset.inj_on_of_nodup_map hunique _ hr _ hsaved ?_
      have htitle' : player.title = other.title := congrArg FavoriteEpisode.title hplayer
      have hsubtitle' : player.subtitle = other.subtitle := congrArg FavoriteEpisode.subtitle hplayer
      simp [FavoriteEpisode.row, PlayerViewController.favoriteEpisode, htitle, hsubtitle, htitle',
        hsubtitle']
    rw [hplayer]
    simp [HandsOver, FavoriteEpisode.row, PlayerViewController.favoriteEpisode]
  | podcast page index =>
    obtain ⟨episode, hepisode, hopens⟩ := Except.bind_eq_ok.mp hopens
    obtain rfl := Except.ok.inj hopens
    simp only [HandsOver, hepisode, Except.ok.injEq, forall_eq']
    simp only [PlayerViewController.favoriteEpisode, FavoriteEpisode.row,
      FavoriteEpisode.mk.injEq, Option.some.injEq, htitle, hsubtitle, true_and]

end EpisodeSelection

/-- In a store of rows that the button wrote, with pairwise distinct titles and subtitles and
    no blank title: an episode is selected, checked, removed and added again. The favourites
    are the same up to the order exactly when the list that it was selected in handed over
    what its row has. -/
theorem favorite_twice_iff {context : Multiset EpisodeSaved}
    (hwritten : ∀ r ∈ context, ∃ player : PlayerViewController, r = player.favoriteEpisode.row)
    (hunique : FavoriteButton.UniqueRows context)
    (hblank : ∀ r ∈ context, r.titleEpisode ≠ some "")
    (selection : EpisodeSelection) (hshows : selection.Shows context)
    {player : PlayerViewController} (hopens : selection.didSelectRowAt = .ok player)
    {r : EpisodeSaved} (hr : r ∈ context) (htitle : r.titleEpisode = some player.title)
    (hsubtitle : r.subtitleEpisode = some player.subtitle)
    {found favorite favorite' : Bool} {result result' result'' : List EpisodeSaved}
    {button : FavoriteButton}
    (h : (FavoriteButton.machine player context).Run
      (checkTask found result ++ tapTask favorite result' ++ tapTask favorite' result'') button)
    {enumerated enumerated' :
      (Finmap fun _ : String => List Episode) → List (Σ _ : String, List Episode)}
    (henumerated : CoreDataManager.Enumerates enumerated)
    (henumerated' : CoreDataManager.Enumerates enumerated')
    {before after : List EpisodeSaved} (hbefore : (before : Multiset EpisodeSaved) = context)
    (hafter : (after : Multiset EpisodeSaved) = button.context) :
    CoreDataManager.SameFavorites
        (CoreDataManager.fetchFavoriteEpisode enumerated (some before))
        (CoreDataManager.fetchFavoriteEpisode enumerated' (some after)) ↔
      selection.HandsOver r := by
  obtain ⟨player', rfl⟩ := hwritten r hr
  have hcontext := FavoriteButton.context_of_two_taps hunique hblank hr htitle hsubtitle h
  rw [CoreDataManager.sameFavorites_iff henumerated henumerated', ← Multiset.map_coe,
    ← Multiset.map_coe, hbefore, hafter, hcontext, ← Multiset.cons_erase hr,
    Multiset.erase_cons_head, Multiset.map_cons, Multiset.map_cons, Multiset.cons_inj_left]
  rw [← EpisodeSelection.favoriteEpisode_eq_iff hwritten hunique hshows hopens hr
    (Option.some.inj htitle) (Option.some.inj hsubtitle)]
  exact FavoriteEpisode.episode_injective.eq_iff

/-- The favourites of one row, listed in the only possible order. -/
theorem CoreDataManager.fetchFavoriteEpisode_singleton (r : EpisodeSaved) :
    fetchFavoriteEpisode (fun dictionary => dictionary.entries.toList) (some [r]) =
      [⟨groupPodcast (r.podcastName.getD ""), [Episode.ofSaved r]⟩] := by
  have hentries : (podcastEpisodeDictionary [Episode.ofSaved r]).entries =
      {⟨r.podcastName.getD "", [Episode.ofSaved r]⟩} := rfl
  simp [fetchFavoriteEpisode, hentries, groupPodcast]

/-- The page of `"A"` with this episode. -/
def pageOfA : PageListPodcast :=
  ⟨⟨some "A", none, none⟩, [⟨some "1", some "x", none, none, none, none, some "A"⟩]⟩

/-- The check and two taps, from the row `saved` and some others on. -/
def twoTaps (saved : EpisodeSaved) (others : List EpisodeSaved) : List FavoriteButtonEvent :=
  checkTask true (saved :: others) ++ tapTask true (saved :: others) ++ tapTask false others

theorem favorite_twice_iff_pageOfA :
    pageOfA.didSelectRowAt 0 = .ok (playerOf "A" "1") ∧
    ∃ button, (FavoriteButton.machine (playerOf "A" "1") {savedOfA, savedOfB}).Run
        (twoTaps savedOfA [savedOfB]) button ∧
      CoreDataManager.SameFavorites
        (CoreDataManager.fetchFavoriteEpisode (fun dictionary => dictionary.entries.toList)
          (some [savedOfA, savedOfB]))
        (CoreDataManager.fetchFavoriteEpisode (fun dictionary => dictionary.entries.toList)
          (some [savedOfB, savedOfA])) := by
  have hopens : (EpisodeSelection.podcast pageOfA 0).didSelectRowAt = .ok (playerOf "A" "1") := rfl
  have hrun := Machine.run_of_replay
    (FavoriteButton.machine (playerOf "A" "1") {savedOfA, savedOfB}) (twoTaps savedOfA [savedOfB])
    (by decide)
  have hstored : ∀ r ∈ ({savedOfA, savedOfB} : Multiset EpisodeSaved),
      r = savedOfA ∨ r = savedOfB := by simp
  refine ⟨hopens, _, hrun, (favorite_twice_iff (r := savedOfA) ?_ ?_ ?_ (.podcast pageOfA 0) trivial
    hopens (Multiset.mem_cons_self _ _) rfl rfl hrun
    (fun dictionary => dictionary.entries.coe_toList)
    (fun dictionary => dictionary.entries.coe_toList)
    (show (([_, _] : List EpisodeSaved) : Multiset EpisodeSaved) = _ from rfl) ?_).mpr ?_⟩
  · intro r hr
    exact (hstored r hr).elim (⟨playerOf "A" "1", ·⟩) (⟨playerOf "B" "2", ·⟩)
  · decide
  · intro r hr
    obtain rfl | rfl := hstored r hr <;> decide
  · decide
  · intro episode hepisode
    obtain rfl := Except.ok.inj hepisode
    decide

/-- Selected in the favourites, the episode of `"A"` comes back under the blank podcast. -/
theorem favorite_twice_forgets_podcast :
    let enumerated := fun dictionary : Finmap fun _ : String => List Episode =>
      dictionary.entries.toList
    let page := PageListFavorite.fetchFavoriteEpisode enumerated (some [savedOfA])
    let player := { playerOf "" "1" with descriptionPodcast := some "" }
    let after := player.favoriteEpisode.row
    page.didSelectRowAt 0 0 = .ok player ∧
    (∃ button, (FavoriteButton.machine player {savedOfA}).Run (twoTaps savedOfA []) button ∧
      button.context = {after}) ∧
    ¬ CoreDataManager.SameFavorites
      (CoreDataManager.fetchFavoriteEpisode enumerated (some [savedOfA]))
      (CoreDataManager.fetchFavoriteEpisode enumerated (some [after])) ∧
    (CoreDataManager.fetchFavoriteEpisode enumerated (some [savedOfA])).map (·.podcast.title) =
      [some "A"] ∧
    (CoreDataManager.fetchFavoriteEpisode enumerated (some [after])).map (·.podcast.title) =
      [some ""] := by
  intro enumerated page player after
  have henumerated : CoreDataManager.Enumerates enumerated :=
    fun dictionary => dictionary.entries.coe_toList
  have hrun := Machine.run_of_replay (FavoriteButton.machine player {savedOfA})
    (twoTaps savedOfA []) (by decide)
  refine ⟨?_, ⟨_, hrun, by decide⟩, ?_, ?_, ?_⟩
  · simp only [page, PageListFavorite.fetchFavoriteEpisode, enumerated,
      CoreDataManager.fetchFavoriteEpisode_singleton]
    rfl
  · rw [CoreDataManager.sameFavorites_iff henumerated henumerated]
    decide
  · simp only [enumerated, CoreDataManager.fetchFavoriteEpisode_singleton]
    rfl
  · simp only [enumerated, CoreDataManager.fetchFavoriteEpisode_singleton]
    rfl

/-! ## A new favourite -/

/-- An episode with `nil` read as the empty string. -/
def Episode.filled (episode : Episode) : Episode where
  title := some (episode.title.getD "")
  subtitle := some (episode.subtitle.getD "")
  description := some (episode.description.getD "")
  totalTime := some (episode.totalTime.getD "")
  imageUrl := some (episode.imageUrl.getD "")
  playerUrl := some (episode.playerUrl.getD "")
  podcastTitle := some (episode.podcastTitle.getD "")

/-- An episode is in the group that its podcast title names. -/
theorem CoreDataManager.exists_group_iff
    {enumerated : (Finmap fun _ : String => List Episode) → List (Σ _ : String, List Episode)}
    (henumerated : Enumerates enumerated) {result : List EpisodeSaved} {episode : Episode} :
    (∃ group ∈ fetchFavoriteEpisode enumerated (some result),
        group.podcast.title = episode.podcastTitle ∧ episode ∈ group.episode) ↔
      episode ∈ (result : Multiset EpisodeSaved).map Episode.ofSaved := by
  rw [← flatMap_fetchFavoriteEpisode henumerated rfl, Multiset.mem_coe, List.mem_flatMap]
  refine exists_congr fun group => and_congr_right fun hgroup => and_iff_right_of_imp ?_
  intro hepisode
  obtain ⟨podcastTitle, rfl, -⟩ := (mem_fetchFavoriteEpisode_iff henumerated).mp hgroup
  exact (of_decide_eq_true (List.mem_filter.mp hepisode).2).symm

namespace FavoriteButton

variable {player : PlayerViewController} {context : Multiset EpisodeSaved}
variable {button : FavoriteButton} {result result' : List EpisodeSaved} {found favorite : Bool}

/-- After the check and a tap, an episode that was not saved has a row. -/
theorem context_of_tap (hunsaved : ¬ player.IsSaved context)
    (h : (machine player context).Run (checkTask found result ++ tapTask favorite result') button) :
    button.context = player.favoriteEpisode.row ::ₘ context := by
  obtain ⟨button₁, h₁⟩ := h.of_prefix (List.prefix_append _ _)
  obtain ⟨hfound, hrest₁, hcontext₁, hplayer₁⟩ := run_checkTask h₁
  obtain ⟨hfavorite, -, -, -, hcontext₂⟩ := run_tapTask h₁ hrest₁ h
  obtain rfl : found = false := by simpa [hunsaved] using hfound
  obtain rfl : favorite = false := by simpa [hplayer₁] using hfavorite
  rw [hcontext₂, hcontext₁, hplayer₁]
  rfl

end FavoriteButton

/-- What the player writes of an episode of a podcast is read back as the whole episode
    exactly when it has no total time and no player URL. -/
theorem PageListPodcast.episode_eq_filled_iff {page : PageListPodcast} {index : ℤ}
    {player : PlayerViewController} (hopens : page.didSelectRowAt index = .ok player)
    {episode : Episode} (hepisode : element page.podcastEpisode.episode index = .ok episode) :
    player.favoriteEpisode.episode = episode.filled ↔
      episode.totalTime.getD "" = "" ∧ episode.playerUrl.getD "" = "" := by
  simp only [didSelectRowAt, hepisode, Except.ok_bind, Except.pure_eq_ok, Except.ok.injEq] at hopens
  subst hopens
  simp [PlayerViewController.favoriteEpisode, FavoriteEpisode.episode, Episode.filled,
    PlayerViewController.title, PlayerViewController.subtitle, @eq_comm _ ""]

/-- An episode of a podcast that the check does not find is selected, checked and added. The
    favourites then have the whole episode in the group of its podcast, and all they had
    before, exactly when the episode has no total time and no player URL or a row of the
    store reads back as the episode already. -/
theorem favorite_keeps_episode_iff {context : Multiset EpisodeSaved} {page : PageListPodcast}
    {index : ℤ} {episode : Episode}
    (hepisode : element page.podcastEpisode.episode index = .ok episode)
    (hunsaved : ¬ ∃ r ∈ context, r.titleEpisode = some (episode.title.getD "") ∧
      r.subtitleEpisode = some (episode.subtitle.getD ""))
    {player : PlayerViewController} (hopens : page.didSelectRowAt index = .ok player)
    {found favorite : Bool} {result result' : List EpisodeSaved} {button : FavoriteButton}
    (h : (FavoriteButton.machine player context).Run
      (checkTask found result ++ tapTask favorite result') button)
    {enumerated enumerated' :
      (Finmap fun _ : String => List Episode) → List (Σ _ : String, List Episode)}
    (henumerated : CoreDataManager.Enumerates enumerated)
    (henumerated' : CoreDataManager.Enumerates enumerated')
    {before after : List EpisodeSaved} (hbefore : (before : Multiset EpisodeSaved) = context)
    (hafter : (after : Multiset EpisodeSaved) = button.context) :
    let favorites := CoreDataManager.fetchFavoriteEpisode enumerated (some before)
    let favorites' := CoreDataManager.fetchFavoriteEpisode enumerated' (some after)
    ((∃ group ∈ favorites', group.podcast.title = some (episode.podcastTitle.getD "") ∧
        episode.filled ∈ group.episode) ∧
      (favorites.flatMap (·.episode) : Multiset Episode) ≤ favorites'.flatMap (·.episode)) ↔
    (episode.totalTime.getD "" = "" ∧ episode.playerUrl.getD "" = "") ∨
      ∃ r ∈ context, Episode.ofSaved r = episode.filled := by
  intro favorites favorites'
  have hsaved : ¬ player.IsSaved context := by
    simp only [PageListPodcast.didSelectRowAt, hepisode, Except.ok_bind, Except.pure_eq_ok,
      Except.ok.injEq] at hopens
    rw [← hopens]
    exact hunsaved
  have hcontext := FavoriteButton.context_of_tap hsaved h
  -- what was read back before is still read back
  have hkept : (favorites.flatMap (·.episode) : Multiset Episode) ≤
      favorites'.flatMap (·.episode) := by
    rw [CoreDataManager.flatMap_fetchFavoriteEpisode henumerated hbefore,
      CoreDataManager.flatMap_fetchFavoriteEpisode henumerated' hafter, hcontext,
      Multiset.map_cons]
    exact Multiset.le_cons_self _ _
  have hgroup : (∃ group ∈ favorites', group.podcast.title = episode.filled.podcastTitle ∧
      episode.filled ∈ group.episode) ↔ _ := CoreDataManager.exists_group_iff henumerated'
  rw [and_iff_left hkept]
  refine hgroup.trans ?_
  rw [hafter, hcontext, Multiset.map_cons, Multiset.mem_cons, Multiset.mem_map,
    ← page.episode_eq_filled_iff hopens hepisode, eq_comm]
  rfl

/-- The episode of `"A"` is no favourite yet, and the tap adds it to that of `"B"`. -/
theorem favorite_keeps_episode_iff_pageOfA :
    let favorites := CoreDataManager.fetchFavoriteEpisode
      (fun dictionary => dictionary.entries.toList) (some [savedOfB])
    let favorites' := CoreDataManager.fetchFavoriteEpisode
      (fun dictionary => dictionary.entries.toList) (some [savedOfB, savedOfA])
    ∃ button, (FavoriteButton.machine (playerOf "A" "1") {savedOfB}).Run
        (checkTask false [savedOfB] ++ tapTask false [savedOfB]) button ∧
      (∃ group ∈ favorites', group.podcast.title = some "A" ∧
        ⟨some "1", some "x", some "", some "", some "", some "", some "A"⟩ ∈ group.episode) ∧
      (favorites.flatMap (·.episode) : Multiset Episode) ≤ favorites'.flatMap (·.episode) := by
  intro favorites favorites'
  have hrun := Machine.run_of_replay (FavoriteButton.machine (playerOf "A" "1") {savedOfB})
    (checkTask false [savedOfB] ++ tapTask false [savedOfB]) (by decide)
  have hepisode : element pageOfA.podcastEpisode.episode 0 =
      .ok ⟨some "1", some "x", none, none, none, none, some "A"⟩ := rfl
  have hopens : pageOfA.didSelectRowAt 0 = .ok (playerOf "A" "1") := rfl
  have hunsaved : ¬ ∃ r ∈ ({savedOfB} : Multiset EpisodeSaved),
      r.titleEpisode = some "1" ∧ r.subtitleEpisode = some "x" := by
    simp only [Multiset.mem_singleton, exists_eq_left]
    decide
  refine ⟨_, hrun, (favorite_keeps_episode_iff hepisode hunsaved hopens hrun
    (fun dictionary => dictionary.entries.coe_toList)
    (fun dictionary => dictionary.entries.coe_toList) (Multiset.coe_singleton _) ?_).mpr
      (.inl ⟨rfl, rfl⟩)⟩
  decide

/-- An episode of `"A"` with a total time and a player URL. -/
def playedOfA : Episode :=
  ⟨some "1", some "x", none, some "01:02", none, some "1.mp3", some "A"⟩

/-- Both are lost on the way to the store. -/
theorem favorite_loses_totalTime_and_playerUrl :
    let page : PageListPodcast := ⟨⟨some "A", none, none⟩, [playedOfA]⟩
    page.didSelectRowAt 0 = .ok (playerOf "A" "1") ∧
    (∃ button, (FavoriteButton.machine (playerOf "A" "1") 0).Run
        (checkTask false [] ++ tapTask false []) button ∧ button.context = {savedOfA}) ∧
    CoreDataManager.fetchFavoriteEpisode (fun dictionary => dictionary.entries.toList)
        (some [savedOfA]) =
      [⟨⟨some "A", some "", some ""⟩,
        [⟨some "1", some "x", some "", some "", some "", some "", some "A"⟩]⟩] ∧
    playedOfA.filled ≠ ⟨some "1", some "x", some "", some "", some "", some "", some "A"⟩ := by
  have hrun := Machine.run_of_replay (FavoriteButton.machine (playerOf "A" "1") 0)
    (checkTask false [] ++ tapTask false []) (by decide)
  refine ⟨rfl, ⟨_, hrun, by decide⟩, ?_, by decide⟩
  rw [CoreDataManager.fetchFavoriteEpisode_singleton]
  rfl

end BingePodcast
