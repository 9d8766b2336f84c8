import BingePodcast.Native.CoreDataStack
import BingePodcast.Spec.FavoritesCorrect

/-!
# Managers over one store

What the managers of the app see of one another, for any order of their calls and whichever
of their saves fail.

## Key results

- `managers_refine_logs`: every manager sees the calls that were saved, in the order of the
  saves, and its own calls that were not
- `managers_see_store_iff`: every manager sees the store all along a run exactly when every save
  of a change succeeds
- `managers_share_favorites`: then they act like one manager over the same store
-/

namespace BingePodcast

/-- The call of an event, as a call of a single manager: a removal whose fetch throws changes
    nothing, and neither does the end of a manager. -/
def CoreDataEvent.call {ι : Type} : CoreDataEvent ι → Option FavoriteCall
  | .addEpisodeInFavorite _ episode _ => some (.addEpisodeInFavorite episode)
  | .removeEpisodeFromFavorite _ titlePodcast subtitlePodcast (some result) _ =>
    some (.removeEpisodeFromFavorite titlePodcast subtitlePodcast (result.map ManagedObject.row))
  | .removeEpisodeFromFavorite _ _ _ none _ => none
  | .deinit _ => none

/-- The calls of some events, of whichever managers. -/
def favoriteCalls {ι : Type} (es : List (CoreDataEvent ι)) : List FavoriteCall :=
  es.filterMap CoreDataEvent.call

theorem favoriteCalls_append {ι : Type} (es : List (CoreDataEvent ι)) (e : CoreDataEvent ι) :
    favoriteCalls (es ++ [e]) = favoriteCalls es ++ e.call.toList := by
  cases h : e.call <;> simp [favoriteCalls, h]

/-- The manager that an event is about. -/
def CoreDataEvent.manager {ι : Type} : CoreDataEvent ι → ι
  | .addEpisodeInFavorite manager _ _ => manager
  | .removeEpisodeFromFavorite manager _ _ _ _ => manager
  | .deinit manager => manager

/-- An event adds only what its manager may write, `W`, and deletes only what it may
    delete, `D`. -/
def CoreDataEvent.Within {ι : Type} (W D : ι → ManagedObject → Prop) : CoreDataEvent ι → Prop
  | .addEpisodeInFavorite manager episode _ => ∀ objectID, W manager ⟨objectID, episode.row⟩
  | .removeEpisodeFromFavorite manager titlePodcast subtitlePodcast _ _ =>
    ∀ x, CoreDataManager.isRemoved titlePodcast subtitlePodcast x.row → D manager x
  | .deinit _ => True

namespace CoreDataStacks

variable {ι : Type} {managers managers' : CoreDataStacks ι} {manager : ι}

/-! ## The logs -/

/-- What the managers have saved and what each has still to save. -/
structure SavedLogs (ι : Type) where
  logs : Logs ι ManagedObject
  nextObjectID : Nat

/-- Nothing was called yet on a store with `objects`. -/
def SavedLogs.init (ι : Type) (objects : Finset ManagedObject) : SavedLogs ι :=
  ⟨⟨[], fun _ => []⟩, objects.sup (·.objectID + 1)⟩

/-- The objects that a removal deletes. -/
def removed (titlePodcast subtitlePodcast : String) (fetch : Option (List ManagedObject)) :
    List ManagedObject :=
  (fetch.getD []).filter fun r => CoreDataManager.isRemoved titlePodcast subtitlePodcast r.row

variable [DecidableEq ι]

/-- A manager records its changes, and commits what it has recorded if its save succeeds. -/
def SavedLogs.call (saved : SavedLogs ι) (manager : ι) (changes : List (Change ManagedObject))
    (success : Bool) : Logs ι ManagedObject :=
  let logs := saved.logs.record manager changes
  if success then logs.commit manager else logs

/-- What one event does to the logs. -/
def SavedLogs.step (saved : SavedLogs ι) : CoreDataEvent ι → SavedLogs ι
  | .addEpisodeInFavorite manager episode success =>
    ⟨saved.call manager [.insert ⟨saved.nextObjectID, episode.row⟩] success,
      saved.nextObjectID + 1⟩
  | .removeEpisodeFromFavorite manager titlePodcast subtitlePodcast fetch success =>
    ⟨saved.call manager ((removed titlePodcast subtitlePodcast fetch).map .delete) success,
      saved.nextObjectID⟩
  | .deinit manager => ⟨saved.logs.discard manager, saved.nextObjectID⟩

/-- The logs after some events. -/
def savedLogs (objects : Finset ManagedObject) (es : List (CoreDataEvent ι)) :
    Logs ι ManagedObject :=
  (es.foldl SavedLogs.step (SavedLogs.init ι objects)).logs

/-! ## One call -/

/-- The loop of a removal deletes the objects that match. -/
theorem foldl_delete (titlePodcast subtitlePodcast : String) (result : List ManagedObject)
    (context : Changes ManagedObject) :
    result.foldl (fun context r =>
        if CoreDataManager.isRemoved titlePodcast subtitlePodcast r.row then context.delete r
        else context) context =
      (removed titlePodcast subtitlePodcast (some result)).foldl Changes.delete context := by
  rw [removed, Option.getD_some, List.foldl_filter]

/-- A manager deletes objects from its context. -/
def deleteAll (managers : CoreDataStacks ι) (manager : ι) (objects : List ManagedObject) :
    CoreDataStacks ι :=
  { managers with
    contexts := managers.contexts.modify manager (objects.foldl Changes.delete ·) }

/-- A removal deletes what it has fetched and matched, then saves. -/
theorem removeEpisodeFromFavorite_eq (fetch : Option (List ManagedObject))
    (titlePodcast subtitlePodcast : String) (saved : Bool) :
    managers.removeEpisodeFromFavorite manager fetch titlePodcast subtitlePodcast saved =
      (managers.deleteAll manager (removed titlePodcast subtitlePodcast fetch)).saveContext
        manager saved := by
  rw [deleteAll]
  cases fetch with
  | none =>
    -- nothing is deleted if the fetch throws
    have hself : managers.contexts.modify manager
        (([] : List ManagedObject).foldl Changes.delete ·) = managers.contexts := by
      rw [Workspace.modify, List.foldl_nil, Function.update_eq_self]
    rw [removeEpisodeFromFavorite, show removed titlePodcast subtitlePodcast none = [] from rfl,
      hself]
  | some result =>
    rw [removeEpisodeFromFavorite]
    simp only [foldl_delete]

/-- A successful save commits, also if there is nothing to commit. -/
theorem saveContext_true (managers : CoreDataStacks ι) (manager : ι) :
    managers.saveContext manager true =
      { managers with contexts := managers.contexts.commit manager } := by
  rw [saveContext]
  split
  · rfl
  · rename_i hnone
    rw [Workspace.commit_of_none (by simpa [hasChanges] using hnone)]

theorem saveContext_false (managers : CoreDataStacks ι) (manager : ι) :
    managers.saveContext manager false = managers := by
  simp [saveContext]

/-! ## Any saves -/

variable {objects : Finset ManagedObject} {saved : SavedLogs ι}

/-- The contexts stand for the logs, and no object has the ID of the next one. -/
structure LogsInv (objects : Finset ManagedObject) (saved : SavedLogs ι)
    (managers : CoreDataStacks ι) : Prop where
  refines : managers.contexts.Refines objects saved.logs
  nextObjectID : saved.nextObjectID = managers.nextObjectID
  stored : ∀ x ∈ managers.contexts.store, x.objectID < managers.nextObjectID
  inserted : ∀ i x, .insert x ∈ saved.logs.uncommitted i → x.objectID < managers.nextObjectID

namespace LogsInv

theorem init (objects : Finset ManagedObject) :
    LogsInv objects (SavedLogs.init ι objects) (machine ι objects).init where
  refines := .init objects
  nextObjectID := rfl
  stored x hx := Finset.le_sup (f := fun x => x.objectID + 1) hx
  inserted := by simp [SavedLogs.init]

theorem insertNewObject (h : LogsInv objects saved managers) (manager : ι) (row : EpisodeSaved) :
    LogsInv objects
      ⟨saved.logs.record manager [.insert ⟨saved.nextObjectID, row⟩], saved.nextObjectID + 1⟩
      (managers.insertNewObject manager row) where
  refines := by
    -- the ID is new to the store and to every log
    rw [h.nextObjectID]
    exact h.refines.insert manager (fun hstore => Nat.lt_irrefl _ (h.stored _ hstore))
      fun i hlog => Nat.lt_irrefl _ (h.inserted i _ hlog)
  nextObjectID := by
    rw [h.nextObjectID]
    rfl
  stored x hx := Nat.lt_succ_of_lt (h.stored x hx)
  inserted i x hx := by
    by_cases hi : i = manager
    · subst hi
      simp only [Logs.record, Function.update_self, List.mem_append, List.mem_singleton,
        Change.insert.injEq] at hx
      cases hx with
      | inl hold => exact Nat.lt_succ_of_lt (h.inserted i x hold)
      | inr hnew =>
        rw [hnew, h.nextObjectID]
        exact Nat.lt_succ_self _
    · simp only [Logs.record, Function.update_of_ne hi] at hx
      exact Nat.lt_succ_of_lt (h.inserted i x hx)

theorem deleteAll (h : LogsInv objects saved managers) (manager : ι) (xs : List ManagedObject) :
    LogsInv objects ⟨saved.logs.record manager (xs.map .delete), saved.nextObjectID⟩
      (managers.deleteAll manager xs) where
  refines := h.refines.deleteAll manager xs
  nextObjectID := h.nextObjectID
  stored := h.stored
  inserted i x hx := by
    by_cases hi : i = manager
    · subst hi
      exact h.inserted i x (by simpa [Logs.record] using hx)
    · simp only [Logs.record, Function.update_of_ne hi] at hx
      exact h.inserted i x hx

omit [DecidableEq ι] in
/-- What a manager sees has been stored or inserted by it. -/
theorem objectID_lt (h : LogsInv objects saved managers) {x : ManagedObject}
    (hx : x ∈ managers.objects manager) : x.objectID < managers.nextObjectID := by
  simp only [CoreDataStacks.objects, Workspace.view, Changes.apply, Finset.mem_union,
    Finset.mem_sdiff] at hx
  cases hx with
  | inl hstore => exact h.stored x hstore.1
  -- an insertion of the context is one of its log
  | inr hinserted => exact h.inserted manager x ((h.refines.represents manager).inserted x hinserted)

theorem saveContext (h : LogsInv objects saved managers) (manager : ι) (success : Bool) :
    LogsInv objects
      ⟨if success then saved.logs.commit manager else saved.logs, saved.nextObjectID⟩
      (managers.saveContext manager success) := by
  cases success with
  | false =>
    rw [saveContext_false]
    exact ⟨h.refines, h.nextObjectID, h.stored, h.inserted⟩
  | true =>
    rw [saveContext_true]
    refine ⟨h.refines.commit manager, h.nextObjectID, fun x hx => h.objectID_lt hx, ?_⟩
    intro i x hx
    by_cases hi : i = manager
    · subst hi
      simp [Logs.commit] at hx
    · simp only [if_true, Logs.commit, Function.update_of_ne hi] at hx
      exact h.inserted i x hx

theorem deinit (h : LogsInv objects saved managers) (manager : ι) :
    LogsInv objects ⟨saved.logs.discard manager, saved.nextObjectID⟩ (managers.deinit manager) where
  refines := h.refines.discard manager
  nextObjectID := h.nextObjectID
  stored := h.stored
  inserted i x hx := by
    by_cases hi : i = manager
    · subst hi
      simp [Logs.discard] at hx
    · simp only [Logs.discard, Function.update_of_ne hi] at hx
      exact h.inserted i x hx

/-- One event does to the contexts what it does to the logs. -/
theorem step (h : LogsInv objects saved managers) (e : CoreDataEvent ι) :
    LogsInv objects (saved.step e) (managers.step e) := by
  cases e with
  | addEpisodeInFavorite manager episode success =>
    exact (h.insertNewObject manager episode.row).saveContext manager success
  | removeEpisodeFromFavorite manager titlePodcast subtitlePodcast fetch success =>
    rw [CoreDataStacks.step, removeEpisodeFromFavorite_eq]
    exact (h.deleteAll manager _).saveContext manager success
  | deinit manager => exact h.deinit manager

end LogsInv

/-- The contexts stand for the logs at the end of every run. -/
theorem logsInv_of_run {es : List (CoreDataEvent ι)} (h : (machine ι objects).Run es managers) :
    LogsInv objects (es.foldl SavedLogs.step (SavedLogs.init ι objects)) managers := by
  induction h with
  | nil => exact LogsInv.init objects
  | snoc _ _ hstep ih =>
    obtain rfl := Except.ok.inj hstep
    rw [List.foldl_append]
    exact ih.step _

/-! ## What a manager sees of its own calls -/

namespace LogsInv

end LogsInv

/-! ## What the managers may change -/

variable {W D : ι → ManagedObject → Prop}

theorem within_saveContext (h : managers.contexts.Within objects W D) (manager : ι)
    (success : Bool) : (managers.saveContext manager success).contexts.Within objects W D := by
  cases success with
  | false => rwa [saveContext_false]
  | true =>
    rw [saveContext_true]
    exact h.commit manager

/-- An event that keeps to what its manager may write or delete keeps the bounds. -/
theorem within_step (h : managers.contexts.Within objects W D) {e : CoreDataEvent ι}
    (he : e.Within W D) : (managers.step e).contexts.Within objects W D := by
  cases e with
  | addEpisodeInFavorite manager episode success =>
    have hinsert : (managers.insertNewObject manager episode.row).contexts.Within objects W D :=
      h.insert manager (he managers.nextObjectID)
    exact within_saveContext hinsert manager success
  | removeEpisodeFromFavorite manager titlePodcast subtitlePodcast fetch success =>
    have hdelete : (managers.deleteAll manager
        (removed titlePodcast subtitlePodcast fetch)).contexts.Within objects W D :=
      h.deleteAll manager fun x hx => he x (List.mem_filter.mp hx).2
    rw [CoreDataStacks.step, removeEpisodeFromFavorite_eq]
    exact within_saveContext hdelete manager success
  | deinit manager => exact h.discard manager

/-- Unsaved changes of a manager are none of the others'. -/
theorem objects_modify_of_ne {manager' : ι} (hne : manager ≠ manager')
    (f : Changes ManagedObject → Changes ManagedObject) (next : ℕ) :
    CoreDataStacks.objects ⟨managers.contexts.modify manager' f, next⟩ manager =
      managers.objects manager := by
  simp [CoreDataStacks.objects, Workspace.view, Workspace.modify, hne]

theorem mem_objects_saveContext_of_ne (h : managers.contexts.Within objects W D) {manager' : ι}
    (hne : manager ≠ manager') {x : ManagedObject} (hW : ¬ W manager' x) (hD : ¬ D manager' x)
    (success : Bool) :
    x ∈ (managers.saveContext manager' success).objects manager ↔ x ∈ managers.objects manager := by
  cases success with
  | false => rw [saveContext_false]
  | true =>
    rw [saveContext_true]
    exact h.mem_view_commit hne hW hD

/-- What a manager may not change looks the same to the others after its event. -/
theorem mem_objects_step_of_ne (h : managers.contexts.Within objects W D) {e : CoreDataEvent ι}
    (he : e.Within W D) (hne : manager ≠ e.manager) {x : ManagedObject} (hW : ¬ W e.manager x)
    (hD : ¬ D e.manager x) :
    x ∈ (managers.step e).objects manager ↔ x ∈ managers.objects manager := by
  cases e with
  | addEpisodeInFavorite manager' episode success =>
    replace hne : manager ≠ manager' := hne
    have hinsert : (managers.insertNewObject manager' episode.row).contexts.Within objects W D :=
      h.insert manager' (he managers.nextObjectID)
    rw [CoreDataStacks.step, CoreDataStacks.addEpisodeInFavorite,
      mem_objects_saveContext_of_ne hinsert hne hW hD, CoreDataStacks.insertNewObject,
      objects_modify_of_ne hne]
  | removeEpisodeFromFavorite manager' titlePodcast subtitlePodcast fetch success =>
    replace hne : manager ≠ manager' := hne
    have hdelete : (managers.deleteAll manager'
        (removed titlePodcast subtitlePodcast fetch)).contexts.Within objects W D :=
      h.deleteAll manager' fun x hx => he x (List.mem_filter.mp hx).2
    rw [CoreDataStacks.step, removeEpisodeFromFavorite_eq,
      mem_objects_saveContext_of_ne hdelete hne hW hD, CoreDataStacks.deleteAll,
      objects_modify_of_ne hne]
  | deinit manager' =>
    replace hne : manager ≠ manager' := hne
    rw [CoreDataStacks.step, CoreDataStacks.deinit, Workspace.discard, objects_modify_of_ne hne]

/-! ## What others leave alone -/

theorem changes_saveContext_of_ne {manager' : ι} (hne : manager ≠ manager') (success : Bool) :
    (managers.saveContext manager' success).contexts.changes manager =
      managers.contexts.changes manager := by
  cases success with
  | false => rw [saveContext_false]
  | true =>
    rw [saveContext_true]
    exact Workspace.changes_commit_of_ne hne

/-- An event changes the context of its manager only. -/
theorem changes_step_of_ne {e : CoreDataEvent ι} (hne : manager ≠ e.manager) :
    (managers.step e).contexts.changes manager = managers.contexts.changes manager := by
  cases e with
  | addEpisodeInFavorite manager' episode success =>
    replace hne : manager ≠ manager' := hne
    rw [CoreDataStacks.step, CoreDataStacks.addEpisodeInFavorite, changes_saveContext_of_ne hne,
      CoreDataStacks.insertNewObject, Workspace.changes_modify_of_ne hne]
  | removeEpisodeFromFavorite manager' titlePodcast subtitlePodcast fetch success =>
    replace hne : manager ≠ manager' := hne
    rw [CoreDataStacks.step, removeEpisodeFromFavorite_eq, changes_saveContext_of_ne hne,
      CoreDataStacks.deleteAll, Workspace.changes_modify_of_ne hne]
  | deinit manager' =>
    replace hne : manager ≠ manager' := hne
    rw [CoreDataStacks.step, CoreDataStacks.deinit, Workspace.discard,
      Workspace.changes_modify_of_ne hne]

/-- What is stored, as the rows that each manager fetches when there is nothing to save. -/
def storedRows (managers : CoreDataStacks ι) : Multiset EpisodeSaved :=
  managers.contexts.store.val.map ManagedObject.row

omit [DecidableEq ι] in
/-- A manager with nothing to save fetches what is stored. -/
theorem rows_of_none (h : managers.contexts.changes manager = .none) :
    managers.rows manager = managers.storedRows := by
  rw [rows, objects, Workspace.view_of_none h, storedRows]

/-! ## Successful saves -/

/-- A call that changes its context has its save succeed. -/
def Saves (_ : CoreDataStacks ι) : CoreDataEvent ι → Prop
  | .addEpisodeInFavorite _ _ success => success = true
  | .removeEpisodeFromFavorite _ titlePodcast subtitlePodcast fetch success =>
    removed titlePodcast subtitlePodcast fetch ≠ [] → success = true
  | .deinit _ => True

instance (managers : CoreDataStacks ι) (e : CoreDataEvent ι) : Decidable (managers.Saves e) :=
  match e with
  | .addEpisodeInFavorite _ _ _ => inferInstanceAs (Decidable (_ = _))
  | .removeEpisodeFromFavorite _ _ _ _ _ => inferInstanceAs (Decidable (_ → _))
  | .deinit _ => inferInstanceAs (Decidable True)

/-- No manager has changes to save. -/
structure Clean (managers : CoreDataStacks ι) : Prop where
  changes : ∀ manager, managers.contexts.changes manager = .none
  stored : ∀ x ∈ managers.contexts.store, x.objectID < managers.nextObjectID

/-- Every manager sees the store and nothing else. -/
def SeeStore (managers : CoreDataStacks ι) : Prop :=
  ∀ manager, managers.objects manager = managers.contexts.store

namespace Clean

omit [DecidableEq ι] in
/-- Without changes, every manager sees the store. -/
theorem objects_eq (h : Clean managers) (manager : ι) :
    managers.objects manager = managers.contexts.store :=
  Workspace.view_of_none (h.changes manager)

theorem init (objects : Finset ManagedObject) : Clean (machine ι objects).init where
  changes _ := rfl
  stored := (LogsInv.init objects).stored

/-- After a save the store is what the manager saw. -/
theorem commit (h : Clean managers) (manager : ι) (f : Changes ManagedObject → Changes ManagedObject)
    (next : Nat)
    (hnext : ∀ x ∈ (f .none).apply managers.contexts.store, x.objectID < next) :
    Clean ⟨(managers.contexts.modify manager f).commit manager, next⟩ ∧
    ((managers.contexts.modify manager f).commit manager).store =
      (f .none).apply managers.contexts.store := by
  have hview : (managers.contexts.modify manager f).view manager =
      (f .none).apply managers.contexts.store := by
    simp [Workspace.view, Workspace.modify, h.changes]
  refine ⟨⟨fun i => ?_, fun x hx => hnext x (hview ▸ hx)⟩, hview⟩
  by_cases hi : i = manager
  · subst hi
    simp [Workspace.commit]
  · simp [Workspace.commit, Workspace.modify, hi, h.changes]

/-- The store after an insertion that was saved. -/
theorem insertNewObject (h : Clean managers) (manager : ι) (row : EpisodeSaved) :
    let managers' := (managers.insertNewObject manager row).saveContext manager true
    Clean managers' ∧
    managers'.contexts.store = insert ⟨managers.nextObjectID, row⟩ managers.contexts.store := by
  intro managers'
  have heq : managers' = _ := saveContext_true _ manager
  have hinsert : (Changes.none.insert ⟨managers.nextObjectID, row⟩).apply
      managers.contexts.store = insert ⟨managers.nextObjectID, row⟩ managers.contexts.store := by
    rw [Changes.apply_insert, Changes.apply_none]
  have hcommit := h.commit manager (·.insert ⟨managers.nextObjectID, row⟩)
    (managers.nextObjectID + 1) (by
      rw [hinsert]
      intro x hx
      cases Finset.mem_insert.mp hx with
      | inl hnew => exact hnew ▸ Nat.lt_succ_self _
      | inr hold => exact Nat.lt_succ_of_lt (h.stored x hold))
  rw [hinsert] at hcommit
  exact heq ▸ hcommit

/-- The store after deletions that were saved. -/
theorem deleteAll (h : Clean managers) (manager : ι) (xs : List ManagedObject) :
    let managers' := (managers.deleteAll manager xs).saveContext manager true
    Clean managers' ∧
    managers'.contexts.store = Change.replay managers.contexts.store (xs.map .delete) := by
  intro managers'
  have heq : managers' = _ := saveContext_true _ manager
  have hdelete := (Changes.Represents.none.deleteAll xs).apply_eq managers.contexts.store (by simp)
  rw [List.nil_append] at hdelete
  have hcommit := h.commit manager (xs.foldl Changes.delete ·) managers.nextObjectID (by
    rw [hdelete]
    exact fun x hx => h.stored x (Change.mem_replay_delete.mp hx).1)
  rw [hdelete] at hcommit
  exact heq ▸ hcommit

/-- What leaves the context as it was leaves nothing to save. -/
theorem saveContext_modify (h : Clean managers) {f : Changes ManagedObject → Changes ManagedObject}
    (hf : f .none = .none) (manager : ι) (success : Bool) :
    CoreDataStacks.saveContext
        { managers with contexts := managers.contexts.modify manager f } manager success =
      managers := by
  have hself : managers.contexts.modify manager f = managers.contexts := by
    rw [Workspace.modify, h.changes, hf, ← h.changes manager, Function.update_eq_self]
  rw [hself, CoreDataStacks.saveContext, if_neg (by simp [hasChanges, h.changes])]

/-- A removal that matches nothing does nothing. -/
theorem deleteAll_nil (h : Clean managers) (manager : ι) (success : Bool) :
    (managers.deleteAll manager []).saveContext manager success = managers :=
  h.saveContext_modify rfl manager success

theorem deinit (h : Clean managers) (manager : ι) : managers.deinit manager = managers := by
  have hself : managers.contexts.discard manager = managers.contexts := by
    rw [Workspace.discard, Workspace.modify, ← h.changes manager, Function.update_eq_self]
  rw [CoreDataStacks.deinit, hself]

/-- An event that saves what it changes leaves nothing to save. -/
theorem step (h : Clean managers) {e : CoreDataEvent ι} (hsaves : managers.Saves e) :
    Clean (managers.step e) := by
  cases e with
  | addEpisodeInFavorite manager episode success =>
    obtain rfl : success = true := hsaves
    exact (h.insertNewObject manager episode.row).1
  | removeEpisodeFromFavorite manager titlePodcast subtitlePodcast fetch success =>
    rw [CoreDataStacks.step, removeEpisodeFromFavorite_eq]
    by_cases hnil : removed titlePodcast subtitlePodcast fetch = []
    · rw [hnil, h.deleteAll_nil]
      exact h
    · obtain rfl : success = true := hsaves hnil
      exact (h.deleteAll manager _).1
  | deinit manager =>
    rw [CoreDataStacks.step, h.deinit]
    exact h

/-- A change that was not saved is seen by its manager and is not in the store. -/
theorem objects_modify (h : Clean managers) (manager : ι)
    (f : Changes ManagedObject → Changes ManagedObject) :
    (managers.contexts.modify manager f).view manager =
      (f .none).apply (managers.contexts.modify manager f).store := by
  simp [Workspace.view, Workspace.modify, h.changes]

/-- Exactly the events that save what they change leave every manager with the store. -/
theorem seeStore_step_iff (h : Clean managers) {e : CoreDataEvent ι} (hen : Enabled managers e) :
    SeeStore (managers.step e) ↔ managers.Saves e := by
  refine ⟨fun hsees => ?_, fun hsaves => (h.step hsaves).objects_eq⟩
  cases e with
  | addEpisodeInFavorite manager episode success =>
    by_contra hfailed
    obtain rfl : success = false := Bool.eq_false_iff.mpr hfailed
    rw [CoreDataStacks.step, CoreDataStacks.addEpisodeInFavorite, saveContext_false] at hsees
    have hview := h.objects_modify manager (·.insert ⟨managers.nextObjectID, episode.row⟩)
    rw [Changes.apply_insert, Changes.apply_none] at hview
    -- the new object is not in the store
    have hnew := Finset.mem_insert_self
      (⟨managers.nextObjectID, episode.row⟩ : ManagedObject) managers.contexts.store
    have hstored : (⟨managers.nextObjectID, episode.row⟩ : ManagedObject) ∈
        managers.contexts.store := (hview.symm.trans (hsees manager)) ▸ hnew
    exact Nat.lt_irrefl _ (h.stored _ hstored)
  | removeEpisodeFromFavorite manager titlePodcast subtitlePodcast fetch success =>
    intro hne
    by_contra hfailed
    obtain rfl : success = false := Bool.eq_false_iff.mpr hfailed
    obtain ⟨x, hx⟩ := List.exists_mem_of_ne_nil _ hne
    rw [CoreDataStacks.step, removeEpisodeFromFavorite_eq, saveContext_false] at hsees
    have hview := h.objects_modify manager
      ((removed titlePodcast subtitlePodcast fetch).foldl Changes.delete ·)
    have hdelete := (Changes.Represents.none.deleteAll
      (removed titlePodcast subtitlePodcast fetch)).apply_eq managers.contexts.store (by simp)
    rw [List.nil_append] at hdelete
    -- a matching object is in the store, as it was fetched
    have hstored : x ∈ managers.contexts.store := by
      cases hfetch : fetch with
      | none => simp [removed, hfetch] at hx
      | some result =>
        rw [removed, hfetch, Option.getD_some, List.mem_filter] at hx
        have hresult := hen result (by simp [hfetch])
        rw [← h.objects_eq manager, ← Finset.mem_val, ← hresult]
        exact hx.1
    have heq : managers.contexts.store = Change.replay managers.contexts.store
        ((removed titlePodcast subtitlePodcast fetch).map .delete) :=
      (hsees manager).symm.trans (hview.trans hdelete)
    rw [heq] at hstored
    exact (Change.mem_replay_delete.mp hstored).2 hx
  | deinit manager => trivial

end Clean

/-- Where every save so far has succeeded, there is nothing to save. -/
theorem clean_of_run {es : List (CoreDataEvent ι)}
    (h : ((machine ι objects).when Saves).Run es managers) : Clean managers := by
  induction h with
  | nil => exact Clean.init objects
  | snoc _ hen hstep ih =>
    obtain rfl := Except.ok.inj hstep
    exact ih.step hen.2

/-! ## One manager for all -/

namespace Clean

omit [DecidableEq ι] in
theorem rows_eq (h : Clean managers) (manager : ι) :
    managers.rows manager = managers.storedRows :=
  rows_of_none (h.changes manager)

/-- A saved insertion adds its row. -/
theorem storedRows_insertNewObject (h : Clean managers) (manager : ι) (row : EpisodeSaved) :
    ((managers.insertNewObject manager row).saveContext manager true).storedRows =
      row ::ₘ managers.storedRows := by
  have hnew : (⟨managers.nextObjectID, row⟩ : ManagedObject) ∉ managers.contexts.store :=
    fun hmem => Nat.lt_irrefl _ (h.stored _ hmem)
  rw [storedRows, (h.insertNewObject manager row).2, Finset.insert_val_of_notMem hnew,
    Multiset.map_cons, storedRows]

/-- A saved removal filters the rows. -/
theorem storedRows_deleteAll (h : Clean managers) (manager : ι) {result : List ManagedObject}
    (hresult : (result : Multiset ManagedObject) = (managers.objects manager).val)
    (titlePodcast subtitlePodcast : String) :
    ((managers.deleteAll manager (removed titlePodcast subtitlePodcast (some result))).saveContext
      manager true).storedRows =
        managers.storedRows.filter fun r =>
          ¬ CoreDataManager.isRemoved titlePodcast subtitlePodcast r := by
  have hmem : ∀ x, x ∈ result ↔ x ∈ managers.contexts.store := by
    intro x
    rw [← Multiset.mem_coe, hresult, Finset.mem_val, h.objects_eq]
  -- what is left of the store are the objects that do not match
  have hstore : Change.replay managers.contexts.store
      ((removed titlePodcast subtitlePodcast (some result)).map .delete) =
        managers.contexts.store.filter fun x =>
          ¬ CoreDataManager.isRemoved titlePodcast subtitlePodcast x.row := by
    ext x
    rw [Change.mem_replay_delete, removed, Option.getD_some, List.mem_filter, hmem,
      Finset.mem_filter]
    tauto
  rw [storedRows, (h.deleteAll manager _).2, hstore, Finset.filter_val, storedRows,
    Multiset.filter_map]
  rfl

/-- An event that saves what it changes is a call of a single manager on the stored rows. -/
theorem call_step (h : Clean managers) {e : CoreDataEvent ι} (hen : Enabled managers e)
    (hsaves : managers.Saves e) {context : Multiset EpisodeSaved} {calls : List FavoriteCall}
    (hrun : (CoreDataManager.machine.startAt context).Run calls managers.storedRows) :
    (CoreDataManager.machine.startAt context).Run (calls ++ e.call.toList)
      (managers.step e).storedRows := by
  cases e with
  | addEpisodeInFavorite manager episode success =>
    obtain rfl : success = true := hsaves
    refine .snoc hrun trivial ?_
    rw [CoreDataStacks.step, CoreDataStacks.addEpisodeInFavorite,
      h.storedRows_insertNewObject]
    rfl
  | removeEpisodeFromFavorite manager titlePodcast subtitlePodcast fetch success =>
    rw [CoreDataStacks.step, removeEpisodeFromFavorite_eq]
    cases fetch with
    | none =>
      -- a fetch that throws is no call of the single manager
      rw [show removed titlePodcast subtitlePodcast none = [] from rfl, h.deleteAll_nil]
      simpa [CoreDataEvent.call] using hrun
    | some result =>
      have hresult := hen result rfl
      have hrows : ((result.map ManagedObject.row : List EpisodeSaved) : Multiset EpisodeSaved) =
          managers.storedRows := by
        rw [← Multiset.map_coe, hresult, h.objects_eq, storedRows]
      refine .snoc hrun hrows ?_
      show Except.ok _ = Except.ok _
      rw [CoreDataManager.removeEpisodeFromFavorite_eq hrows]
      by_cases hnil : removed titlePodcast subtitlePodcast (some result) = []
      · -- with nothing to remove the filter keeps everything
        rw [hnil, h.deleteAll_nil, ← h.storedRows_deleteAll manager hresult, hnil,
          h.deleteAll_nil]
      · obtain rfl : success = true := hsaves hnil
        rw [h.storedRows_deleteAll manager hresult]
  | deinit manager =>
    rw [CoreDataStacks.step, h.deinit]
    simpa [CoreDataEvent.call] using hrun

end Clean

end CoreDataStacks

section

variable {ι : Type} [DecidableEq ι] {es : List (CoreDataEvent ι)} {managers : CoreDataStacks ι}

/-- Managers refine logs. Whatever the order of the calls and whichever saves fail, the store
    holds the changes that were saved, manager by manager in the order of the saves, and
    every manager sees these and then its own changes since its last save. -/
theorem managers_refine_logs (objects : Finset ManagedObject)
    (h : (CoreDataStacks.machine ι objects).Run es managers) :
    let logs := CoreDataStacks.savedLogs objects es
    managers.contexts.store = Change.replay objects logs.committed ∧
    ∀ manager, managers.objects manager =
      Change.replay objects (logs.committed ++ logs.uncommitted manager) := by
  have hrefines := (CoreDataStacks.logsInv_of_run h).refines
  exact ⟨hrefines.store_eq, fun manager => hrefines.view manager⟩

/-- Two managers: the add of the first is not saved, the second adds and saves, and the
    removal of the first fetches both objects, removes the other one and saves the add too. -/
def savedLate : List (CoreDataEvent Bool) :=
  [.addEpisodeInFavorite true ⟨"1", "x", "", "", "", "", "B"⟩ false,
    .addEpisodeInFavorite false ⟨"2", "y", "", "", "", "", "A"⟩ true,
    .removeEpisodeFromFavorite true "2" "y"
      (some [⟨1, FavoriteEpisode.row ⟨"2", "y", "", "", "", "", "A"⟩⟩,
        ⟨0, FavoriteEpisode.row ⟨"1", "x", "", "", "", "", "B"⟩⟩]) true]

theorem managers_refine_logs_savedLate :
    ∃ managers, (CoreDataStacks.machine Bool ∅).Run savedLate managers ∧
      managers.contexts.store = {⟨0, FavoriteEpisode.row ⟨"1", "x", "", "", "", "", "B"⟩⟩} := by
  have hrun := Machine.run_of_replay (CoreDataStacks.machine Bool ∅) savedLate (by decide)
  exact ⟨_, hrun, (managers_refine_logs ∅ hrun).1.trans (by decide)⟩

/-- Every manager sees the store and nothing else all along a run exactly when every save of a
    change succeeds. -/
theorem managers_see_store_iff (objects : Finset ManagedObject)
    (h : (CoreDataStacks.machine ι objects).Run es managers) :
    (∀ es' managers', es' <+: es → (CoreDataStacks.machine ι objects).Run es' managers' →
      managers'.SeeStore) ↔
    ((CoreDataStacks.machine ι objects).when CoreDataStacks.Saves).Run es managers := by
  refine Machine.Run.forall_prefix_iff_when (CoreDataStacks.Clean.init objects).objects_eq ?_ h
  intro es s e t hrun _ hen hstep
  obtain rfl := Except.ok.inj hstep
  exact (CoreDataStacks.clean_of_run hrun).seeStore_step_iff hen

theorem managers_see_store_iff_savedLate :
    ∃ es managers, es <+: savedLate ∧ (CoreDataStacks.machine Bool ∅).Run es managers ∧
      ¬ managers.SeeStore := by
  have hrun := Machine.run_of_replay (CoreDataStacks.machine Bool ∅) savedLate (by decide)
  have hfailed : ¬ ((CoreDataStacks.machine Bool ∅).when CoreDataStacks.Saves).Run savedLate
      (((CoreDataStacks.machine Bool ∅).replay savedLate).get (by decide)) := by
    intro hwhen
    have hreplay := Machine.run_iff_replay.mp hwhen
    have hnone : ((CoreDataStacks.machine Bool ∅).when CoreDataStacks.Saves).replay savedLate =
        none := by decide
    rw [hnone] at hreplay
    cases hreplay
  have hall := mt (managers_see_store_iff ∅ hrun).mp hfailed
  simp only [not_forall, exists_prop] at hall
  obtain ⟨es, managers, hpre, hes, hsees⟩ := hall
  exact ⟨es, managers, hpre, hes, hsees⟩

/-- As long as every save of a change succeeds, any number of managers over any store act like a
    single one over it: their calls are a run of it that ends with what each of them sees, which
    from an empty store on are the surviving adds of all. -/
theorem managers_share_favorites (objects : Finset ManagedObject)
    (h : ((CoreDataStacks.machine ι objects).when CoreDataStacks.Saves).Run es managers)
    (manager : ι) :
    (CoreDataManager.machine.startAt (objects.val.map ManagedObject.row)).Run (favoriteCalls es)
      (managers.rows manager) ∧
    (objects = ∅ → managers.rows manager =
      ((surviving (favoriteCalls es)).map FavoriteEpisode.row : Multiset EpisodeSaved)) := by
  have hrun : (CoreDataManager.machine.startAt (objects.val.map ManagedObject.row)).Run
      (favoriteCalls es) managers.storedRows := by
    induction h with
    | nil => exact .nil
    | snoc hrun hen hstep ih =>
      obtain rfl := Except.ok.inj hstep
      rw [favoriteCalls_append]
      exact (CoreDataStacks.clean_of_run hrun).call_step hen.1 hen.2 ih
  rw [(CoreDataStacks.clean_of_run h).rows_eq]
  refine ⟨hrun, ?_⟩
  rintro rfl
  exact CoreDataManager.context_of_run hrun

/-- The row of an episode of `"C"`. -/
def rowOfC : EpisodeSaved := FavoriteEpisode.row ⟨"3", "w", "", "", "", "", "C"⟩

/-- Over a store with an episode of `"C"`, the first manager removes what the second has added,
    and a row with a blank title. -/
def savedAtOnce : List (CoreDataEvent Bool) :=
  [.addEpisodeInFavorite false ⟨"2", "y", "", "", "", "", "A"⟩ true,
    .addEpisodeInFavorite true ⟨"", "z", "", "", "", "", "A"⟩ true,
    .addEpisodeInFavorite true ⟨"1", "x", "", "", "", "", "B"⟩ true,
    .deinit false,
    .removeEpisodeFromFavorite true "2" "y"
      (some [⟨2, FavoriteEpisode.row ⟨"", "z", "", "", "", "", "A"⟩⟩, ⟨0, rowOfC⟩,
        ⟨1, FavoriteEpisode.row ⟨"2", "y", "", "", "", "", "A"⟩⟩,
        ⟨3, FavoriteEpisode.row ⟨"1", "x", "", "", "", "", "B"⟩⟩]) true]

theorem managers_share_favorites_savedAtOnce :
    ∃ managers, (CoreDataStacks.machine Bool {⟨0, rowOfC⟩}).Run savedAtOnce managers ∧
      (CoreDataManager.machine.startAt {rowOfC}).Run (favoriteCalls savedAtOnce)
        (managers.rows false) ∧
      managers.rows false = {rowOfC, FavoriteEpisode.row ⟨"1", "x", "", "", "", "", "B"⟩} := by
  have hrun := Machine.run_of_replay
    ((CoreDataStacks.machine Bool {⟨0, rowOfC⟩}).when CoreDataStacks.Saves) savedAtOnce (by decide)
  have hshare := managers_share_favorites {⟨0, rowOfC⟩} hrun false
  exact ⟨_, hrun.of_when, hshare.1, by decide⟩

end

end BingePodcast
