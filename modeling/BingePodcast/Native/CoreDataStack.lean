import BingePodcast.Native.CoreDataManager
import BingePodcast.ForStd.Workspace
import Mathlib.Order.Lattice.Nat

/-!
# CoreDataStack

`CoreDataStack.swift` under the managers of the app. Every player and the favourites screen
create a `CoreDataManager` of their own, each with a `CoreDataStack` and its `mainContext`,
over one store file. An object is inserted into the context of its manager and deleted from
it; the others see this once `saveContext` has saved. Attributes are set at the insertion
and never again, so no two contexts disagree about those of an object.

`CoreDataManager.lean` looks at one manager and takes its context for the store.
-/

namespace BingePodcast

/-- A managed object of the entity `EpisodeSaved`: its ID tells it from an object with the
    same attributes. -/
structure ManagedObject where
  objectID : Nat
  row : EpisodeSaved
deriving DecidableEq, Repr

/-- The stacks of the managers `ι` over one store. -/
structure CoreDataStacks (ι : Type) where
  contexts : Workspace ι ManagedObject
  /-- The ID of the object that is inserted next. -/
  nextObjectID : Nat

/-- A call of one of the two methods of a manager that change the favourites, or the end of
    a manager. `saved` tells whether `context.save()` succeeds if it is called; the fetch of
    a removal is `none` if it throws. -/
inductive CoreDataEvent (ι : Type) where
  | addEpisodeInFavorite (manager : ι) (episode : FavoriteEpisode) (saved : Bool)
  | removeEpisodeFromFavorite (manager : ι) (titlePodcast subtitlePodcast : String)
      (fetch : Option (List ManagedObject)) (saved : Bool)
  | deinit (manager : ι)
deriving DecidableEq, Repr

namespace CoreDataStacks

variable {ι : Type}

/-- What an unfiltered fetch of a manager lists. -/
def objects (managers : CoreDataStacks ι) (manager : ι) : Finset ManagedObject :=
  managers.contexts.view manager

/-- The rows that a manager fetches. -/
def rows (managers : CoreDataStacks ι) (manager : ι) : Multiset EpisodeSaved :=
  (managers.objects manager).val.map ManagedObject.row

/-- `context.hasChanges` -/
def hasChanges (managers : CoreDataStacks ι) (manager : ι) : Bool :=
  managers.contexts.changes manager ≠ .none

variable [DecidableEq ι]

/-- `saveContext()`: an error of `context.save()` is printed. -/
def saveContext (managers : CoreDataStacks ι) (manager : ι) (saved : Bool) : CoreDataStacks ι :=
  if managers.hasChanges manager then
    if saved then { managers with contexts := managers.contexts.commit manager }
    -- the changes stay in the context
    else managers
  else managers

/-- `insertNewObject(forEntityName:into:)` and the seven `setValue` after it. -/
def insertNewObject (managers : CoreDataStacks ι) (manager : ι) (row : EpisodeSaved) :
    CoreDataStacks ι where
  contexts := managers.contexts.modify manager (·.insert ⟨managers.nextObjectID, row⟩)
  nextObjectID := managers.nextObjectID + 1

/-- `addEpisodeInFavorite(…)` of a manager. -/
def addEpisodeInFavorite (managers : CoreDataStacks ι) (manager : ι) (episode : FavoriteEpisode)
    (saved : Bool) : CoreDataStacks ι :=
  (managers.insertNewObject manager episode.row).saveContext manager saved

/-- `removeEpisodeFromFavorite(titlePodcast:subtitlePodcast:)` of a manager. -/
def removeEpisodeFromFavorite (managers : CoreDataStacks ι) (manager : ι)
    (fetch : Option (List ManagedObject)) (titlePodcast subtitlePodcast : String)
    (saved : Bool) : CoreDataStacks ι :=
  let managers := match fetch with
    | some result => { managers with
        contexts := managers.contexts.modify manager fun context => result.foldl
          (fun context (r : ManagedObject) =>
            if CoreDataManager.isRemoved titlePodcast subtitlePodcast r.row then context.delete r
            else context)
          context }
    | none => managers
  -- the context is saved whether or not the fetch has thrown
  managers.saveContext manager saved

/-- A manager goes away with its context. -/
def deinit (managers : CoreDataStacks ι) (manager : ι) : CoreDataStacks ι :=
  { managers with contexts := managers.contexts.discard manager }

/-- One event. -/
def step (managers : CoreDataStacks ι) : CoreDataEvent ι → CoreDataStacks ι
  | .addEpisodeInFavorite manager episode saved =>
    managers.addEpisodeInFavorite manager episode saved
  | .removeEpisodeFromFavorite manager titlePodcast subtitlePodcast fetch saved =>
    managers.removeEpisodeFromFavorite manager fetch titlePodcast subtitlePodcast saved
  | .deinit manager => managers.deinit manager

/-- A fetch that does not throw lists the objects of its context. -/
def Enabled (managers : CoreDataStacks ι) : CoreDataEvent ι → Prop
  | .addEpisodeInFavorite _ _ _ => True
  | .removeEpisodeFromFavorite manager _ _ fetch _ =>
    ∀ result ∈ fetch, (result : Multiset ManagedObject) = (managers.objects manager).val
  | .deinit _ => True

/-- The managers of the app from a store with `objects` on. -/
def machine (ι : Type) [DecidableEq ι] (objects : Finset ManagedObject) :
    Machine (CoreDataStacks ι) (CoreDataEvent ι) Empty where
  init := ⟨⟨objects, fun _ => .none⟩, objects.sup (·.objectID + 1)⟩
  Enabled := Enabled
  step managers event := .ok (managers.step event)

instance (managers : CoreDataStacks ι) (event : CoreDataEvent ι) : Decidable (Enabled managers event) :=
  match event with
  | .addEpisodeInFavorite _ _ _ => inferInstanceAs (Decidable True)
  | .removeEpisodeFromFavorite _ _ _ _ _ => inferInstanceAs (Decidable (∀ _ ∈ _, _ = _))
  | .deinit _ => inferInstanceAs (Decidable True)

instance (objects : Finset ManagedObject) (managers : CoreDataStacks ι) (event : CoreDataEvent ι) :
    Decidable ((machine ι objects).Enabled managers event) :=
  inferInstanceAs (Decidable (Enabled managers event))

end CoreDataStacks

end BingePodcast
