import BingePodcast.Spec.FavoritesCorrect

/-!
# The groups of favourites

`fetchFavoriteEpisode` groups the rows by podcast in a dictionary and lists its entries in
an order that Swift does not promise. This file says what the groups are, whatever that
order is, and what of them is left if all orders are forgotten.

## Key results

- `CoreDataManager.mem_fetchFavoriteEpisode_iff`: a group for each podcast that has rows,
  with its rows in the order of the fetch
- `favorites_partitioned`: the groups partition the rows
- `CoreDataManager.sameFavorites_iff`: up to the order, the groups are the rows
-/

namespace BingePodcast

/-! ## One group for each podcast -/

namespace CoreDataManager

variable {enumerated enumerated' :
  (Finmap fun _ : String => List Episode) → List (Σ _ : String, List Episode)}
variable {result result' : List EpisodeSaved} {group : PodcastEpisode}

/-- The rows of one podcast as episodes, in the order of the fetch. -/
def episodesOf (podcastTitle : String) (result : List EpisodeSaved) : List Episode :=
  (result.map Episode.ofSaved).filter (·.podcastTitle = some podcastTitle)

/-- The `Podcast(…)` that heads a group. -/
def groupPodcast (podcastTitle : String) : Podcast := ⟨some podcastTitle, some "", some ""⟩

theorem mem_entries_podcastEpisodeDictionary_iff {podcastTitle : String}
    {episodes : List Episode} :
    ⟨podcastTitle, episodes⟩ ∈ (podcastEpisodeDictionary (result.map Episode.ofSaved)).entries ↔
      episodes ≠ [] ∧ episodes = episodesOf podcastTitle result := by
  -- a row always has a podcast title, so the key it is put under tells which one
  have hkey : (result.map Episode.ofSaved).filter
      (fun episode => decide (episode.podcastTitle.getD "" = podcastTitle)) =
        episodesOf podcastTitle result := by
    refine List.filter_congr fun episode hepisode => ?_
    obtain ⟨r, -, rfl⟩ := List.mem_map.mp hepisode
    exact decide_eq_decide.mpr (by simp [Episode.ofSaved])
  have hlookup := Finmap.getD_lookup_foldl_appendAt (fun episode : Episode =>
    episode.podcastTitle.getD "") (result.map Episode.ofSaved) ∅ podcastTitle
  rw [Finmap.mk_mem_entries_iff, podcastEpisodeDictionary, hlookup, Finmap.mem_foldl_appendAt, hkey]
  simp only [Finmap.lookup_empty, Option.getD_none, List.nil_append, Finmap.notMem_empty, false_or,
    ← hkey]
  constructor
  · rintro ⟨⟨episode, hepisode, htitle⟩, rfl⟩
    exact ⟨List.ne_nil_of_mem (List.mem_filter.mpr ⟨hepisode, decide_eq_true htitle⟩), rfl⟩
  · rintro ⟨hne, rfl⟩
    obtain ⟨episode, hmem⟩ := List.exists_mem_of_ne_nil _ hne
    obtain ⟨hepisode, htitle⟩ := List.mem_filter.mp hmem
    exact ⟨⟨episode, hepisode, of_decide_eq_true htitle⟩, rfl⟩

/-- The groups are those of the podcasts that have rows. -/
theorem mem_fetchFavoriteEpisode_iff (henumerated : Enumerates enumerated) :
    group ∈ fetchFavoriteEpisode enumerated (some result) ↔
      ∃ podcastTitle, group = ⟨groupPodcast podcastTitle, episodesOf podcastTitle result⟩ ∧
        group.episode ≠ [] := by
  -- listed in whatever order, the entries are those of the dictionary
  have hlisted : ∀ dictionary entry, entry ∈ enumerated dictionary ↔ entry ∈ dictionary.entries := by
    intro dictionary entry
    rw [← henumerated, Multiset.mem_coe]
  simp only [fetchFavoriteEpisode, List.mem_map, hlisted]
  constructor
  · rintro ⟨⟨podcastTitle, episodes⟩, hentry, rfl⟩
    obtain ⟨hne, heq⟩ := mem_entries_podcastEpisodeDictionary_iff.mp hentry
    exact ⟨podcastTitle, by rw [← heq]; rfl, hne⟩
  · rintro ⟨podcastTitle, rfl, hne⟩
    exact ⟨⟨podcastTitle, _⟩, mem_entries_podcastEpisodeDictionary_iff.mpr ⟨hne, rfl⟩, rfl⟩

/-- No two groups have the same title. -/
theorem nodup_titles (henumerated : Enumerates enumerated) :
    ((fetchFavoriteEpisode enumerated (some result)).map (·.podcast.title)).Nodup := by
  have hkeys := (podcastEpisodeDictionary (result.map Episode.ofSaved)).nodupKeys
  rw [← henumerated, Multiset.coe_nodupKeys] at hkeys
  have htitles : (fetchFavoriteEpisode enumerated (some result)).map (·.podcast.title) =
      (enumerated (podcastEpisodeDictionary (result.map Episode.ofSaved))).keys.map some := by
    simp [fetchFavoriteEpisode, List.keys]
  rw [htitles]
  exact hkeys.map (Option.some_injective _)

end CoreDataManager

/-- What is read of a row: each attribute, with `nil` as the empty string. -/
structure Episode.ReadsBack (r : EpisodeSaved) (episode : Episode) : Prop where
  title : episode.title = some (r.titleEpisode.getD "")
  subtitle : episode.subtitle = some (r.subtitleEpisode.getD "")
  description : episode.description = some (r.descriptionEpisode.getD "")
  totalTime : episode.totalTime = some (r.totalTimeEpisode.getD "")
  imageUrl : episode.imageUrl = some (r.imageUrlEpisode.getD "")
  playerUrl : episode.playerUrl = some (r.playerUrlEpisode.getD "")
  podcastTitle : episode.podcastTitle = some (r.podcastName.getD "")

theorem Episode.readsBack_ofSaved (r : EpisodeSaved) : Episode.ReadsBack r (Episode.ofSaved r) :=
  ⟨rfl, rfl, rfl, rfl, rfl, rfl, rfl⟩

/-- The groups hold each row once, under its own podcast and in the order of the rows. -/
structure Partitions (result : List EpisodeSaved) (groups : List PodcastEpisode) : Prop where
  /-- No podcast has two groups. -/
  nodup : (groups.map (·.podcast.title)).Nodup
  /-- No group is empty. -/
  ne_nil : ∀ group ∈ groups, group.episode ≠ []
  /-- A group holds episodes of its podcast only. -/
  podcastTitle : ∀ group ∈ groups, ∀ episode ∈ group.episode,
    episode.podcastTitle = group.podcast.title
  /-- The groups together hold the rows as they are read back, each group in their order. -/
  rows : ∃ episodes, List.Forall₂ Episode.ReadsBack result episodes ∧
    (groups.flatMap (·.episode)).Perm episodes ∧
    ∀ group ∈ groups, group.episode = episodes.filter (·.podcastTitle = group.podcast.title)

/-- Whatever order the dictionary is enumerated in, `fetchFavoriteEpisode` partitions the
    rows. -/
theorem favorites_partitioned
    (enumerated : (Finmap fun _ : String => List Episode) → List (Σ _ : String, List Episode))
    (henumerated : CoreDataManager.Enumerates enumerated) (result : List EpisodeSaved) :
    Partitions result (CoreDataManager.fetchFavoriteEpisode enumerated (some result)) := by
  have hfilter : ∀ group ∈ CoreDataManager.fetchFavoriteEpisode enumerated (some result),
      group.episode =
        (result.map Episode.ofSaved).filter (·.podcastTitle = group.podcast.title) := by
    intro group hgroup
    obtain ⟨podcastTitle, rfl, -⟩ :=
      (CoreDataManager.mem_fetchFavoriteEpisode_iff henumerated).mp hgroup
    rfl
  constructor
  case nodup => exact CoreDataManager.nodup_titles henumerated
  case ne_nil =>
    intro group hgroup
    obtain ⟨podcastTitle, -, hne⟩ :=
      (CoreDataManager.mem_fetchFavoriteEpisode_iff henumerated).mp hgroup
    exact hne
  case podcastTitle =>
    intro group hgroup episode hepisode
    rw [hfilter group hgroup, List.mem_filter] at hepisode
    exact of_decide_eq_true hepisode.2
  case rows =>
    refine ⟨result.map Episode.ofSaved, ?_, ?_, hfilter⟩
    · rw [List.forall₂_map_right_iff, List.forall₂_same]
      exact fun r _ => Episode.readsBack_ofSaved r
    · rw [← Multiset.coe_eq_coe, CoreDataManager.flatMap_fetchFavoriteEpisode henumerated rfl,
        Multiset.map_coe]

/-- A row of `"A"`, one without a podcast, one of `"A"` again and one of the blank podcast. -/
def mixedRows : List EpisodeSaved :=
  [⟨some "1", none, none, none, none, none, some "A"⟩,
    ⟨none, none, none, none, none, none, none⟩,
    ⟨some "2", none, none, none, none, none, some "A"⟩,
    ⟨some "3", none, none, none, none, none, some ""⟩]

theorem favorites_partitioned_mixedRows :
    Partitions mixedRows (CoreDataManager.fetchFavoriteEpisode
      (fun dictionary => dictionary.entries.toList) (some mixedRows)) :=
  favorites_partitioned (fun dictionary => dictionary.entries.toList)
    (fun dictionary => dictionary.entries.coe_toList) mixedRows

/-! ## The groups up to the order -/

namespace CoreDataManager

/-- The groups without the order of the groups and of the episodes in each. -/
def unordered (groups : List PodcastEpisode) : Multiset (Podcast × Multiset Episode) :=
  groups.map fun group => (group.podcast, (group.episode : Multiset Episode))

/-- The same groups up to the order of the groups and of the episodes in each. -/
def SameFavorites (groups groups' : List PodcastEpisode) : Prop :=
  unordered groups = unordered groups'

theorem bind_unordered (groups : List PodcastEpisode) :
    (unordered groups).bind (·.2) = (groups.flatMap (·.episode) : Multiset Episode) := by
  rw [unordered, ← Multiset.map_coe, Multiset.bind_map, Multiset.coe_bind]

theorem nodup_unordered (henumerated : Enumerates enumerated) :
    (unordered (fetchFavoriteEpisode enumerated (some result))).Nodup := by
  have htitles : ((fetchFavoriteEpisode enumerated (some result)).map (·.podcast.title)).Nodup :=
    nodup_titles henumerated
  rw [unordered, Multiset.coe_nodup]
  refine List.Nodup.of_map (fun view => view.1.title) ?_
  rwa [List.map_map]

/-- The unordered groups are those of the multiset of the rows. -/
theorem mem_unordered_iff (henumerated : Enumerates enumerated)
    {view : Podcast × Multiset Episode} :
    view ∈ unordered (fetchFavoriteEpisode enumerated (some result)) ↔
      ∃ podcastTitle, view = (groupPodcast podcastTitle,
        (result.map Episode.ofSaved : Multiset Episode).filter
          (·.podcastTitle = some podcastTitle)) ∧ view.2 ≠ 0 := by
  simp only [unordered, Multiset.mem_coe, List.mem_map, mem_fetchFavoriteEpisode_iff henumerated,
    Multiset.filter_coe]
  constructor
  · rintro ⟨group, ⟨podcastTitle, rfl, hne⟩, rfl⟩
    exact ⟨podcastTitle, rfl, mt (Multiset.coe_eq_zero _).mp hne⟩
  · rintro ⟨podcastTitle, rfl, hne⟩
    exact ⟨_, ⟨podcastTitle, rfl, mt (Multiset.coe_eq_zero _).mpr hne⟩, rfl⟩

/-- Up to the order, the groups are the same exactly when the rows read back as the same
    episodes. -/
theorem sameFavorites_iff (henumerated : Enumerates enumerated)
    (henumerated' : Enumerates enumerated') :
    SameFavorites (fetchFavoriteEpisode enumerated (some result))
        (fetchFavoriteEpisode enumerated' (some result')) ↔
      (result.map Episode.ofSaved : Multiset Episode) = result'.map Episode.ofSaved := by
  constructor
  · intro hsame
    have hflat := congrArg (fun views => views.bind (·.2)) hsame
    simp only [bind_unordered, flatMap_fetchFavoriteEpisode henumerated rfl,
      flatMap_fetchFavoriteEpisode henumerated' rfl, Multiset.map_coe] at hflat
    exact hflat
  · intro hrows
    rw [SameFavorites, (nodup_unordered henumerated).ext (nodup_unordered henumerated')]
    intro view
    rw [mem_unordered_iff henumerated, mem_unordered_iff henumerated', hrows]

end CoreDataManager

end BingePodcast
