import Mathlib.Data.Finset.Basic
import Mathlib.Data.Finset.Lattice.Lemmas
import Mathlib.Logic.Function.Basic

/-!
# Workspaces over a shared store

Clients read and change a store through changes of their own, which the others do not see
until they are committed. `Logs` is what a workspace stands for: the changes committed so
far, in the order of the commits, and those each client has still to commit.

## Key results

- `Workspace.Refines.view`: a client sees the store after all committed changes and its own
- `Workspace.Refines.insert`, `.delete`, `.commit`, `.discard`: what the operations do to
  the logs
- `Workspace.Within.view`: what clients can see if each keeps to the changes it may make
-/

/-- A change of a store. -/
inductive Change (α : Type*) where
  | insert (x : α)
  | delete (x : α)

/-- The changes that a client has made and not committed. -/
structure Changes (α : Type*) where
  inserted : Finset α
  deleted : Finset α

namespace Change

variable {α : Type*} [DecidableEq α]

/-- The store after a change. -/
def apply (store : Finset α) : Change α → Finset α
  | .insert x => Insert.insert x store
  | .delete x => store.erase x

/-- The store after a list of changes. -/
def replay (store : Finset α) (log : List (Change α)) : Finset α :=
  log.foldl Change.apply store

theorem replay_append (store : Finset α) (log₁ log₂ : List (Change α)) :
    replay store (log₁ ++ log₂) = replay (replay store log₁) log₂ := List.foldl_append

theorem mem_replay_delete {store : Finset α} {xs : List α} {x : α} :
    x ∈ replay store (xs.map .delete) ↔ x ∈ store ∧ x ∉ xs := by
  induction xs generalizing store with
  | nil => simp [replay]
  | cons y xs ih =>
    have hrest : x ∈ replay store ((y :: xs).map .delete) ↔
        x ∈ replay (store.erase y) (xs.map .delete) := Iff.rfl
    rw [hrest, ih, Finset.mem_erase, List.mem_cons, not_or]
    exact ⟨fun h => ⟨h.1.2, h.1.1, h.2⟩, fun h => ⟨⟨h.2.1, h.1⟩, h.2.2⟩⟩

end Change

namespace Changes

variable {α : Type*} {changes : Changes α} {x : α} {log : List (Change α)}

/-- No changes. -/
def none : Changes α := ⟨∅, ∅⟩

variable [DecidableEq α]

instance : DecidableEq (Changes α) := fun c₁ c₂ =>
  decidable_of_iff (c₁.inserted = c₂.inserted ∧ c₁.deleted = c₂.deleted) (by
    cases c₁
    cases c₂
    simp)

/-- A store with the changes, as their client sees it. -/
def apply (changes : Changes α) (store : Finset α) : Finset α :=
  store \ changes.deleted ∪ changes.inserted

/-- A new element is inserted. -/
def insert (changes : Changes α) (x : α) : Changes α :=
  { changes with inserted := Insert.insert x changes.inserted }

/-- An element is deleted, which takes back its insertion if that was not committed. -/
def delete (changes : Changes α) (x : α) : Changes α :=
  if x ∈ changes.inserted then { changes with inserted := changes.inserted.erase x }
  else { changes with deleted := Insert.insert x changes.deleted }

@[simp] theorem apply_none (store : Finset α) : (none : Changes α).apply store = store := by
  simp [apply, none]

theorem apply_insert (store : Finset α) :
    (changes.insert x).apply store = Insert.insert x (changes.apply store) :=
  Finset.union_insert _ _ _

theorem mem_apply {store : Finset α} :
    x ∈ changes.apply store ↔ x ∈ store ∧ x ∉ changes.deleted ∨ x ∈ changes.inserted := by
  rw [apply, Finset.mem_union, Finset.mem_sdiff]

theorem inserted_delete_subset : (changes.delete x).inserted ⊆ changes.inserted := by
  rw [delete]
  split
  · exact Finset.erase_subset _ _
  · exact Finset.Subset.refl _

theorem deleted_delete_subset :
    (changes.delete x).deleted ⊆ Insert.insert x changes.deleted := by
  rw [delete]
  split
  · exact Finset.subset_insert _ _
  · exact Finset.Subset.refl _

/-- Of a store that has no uncommitted insertion, an element is gone once it is deleted. -/
theorem apply_delete {store : Finset α} (h : x ∈ changes.inserted → x ∉ store) :
    (changes.delete x).apply store = (changes.apply store).erase x := by
  ext y
  rw [delete]
  split
  · rename_i hinserted
    have hstore := h hinserted
    simp only [apply, Finset.mem_union, Finset.mem_sdiff, Finset.mem_erase]
    grind
  · rename_i hinserted
    simp only [apply, Finset.mem_union, Finset.mem_sdiff, Finset.mem_erase, Finset.mem_insert]
    grind

/-- The changes do to a store what a log does, as long as the store has none of the
    elements that the log inserts. -/
structure Represents (changes : Changes α) (log : List (Change α)) : Prop where
  inserted : ∀ x ∈ changes.inserted, .insert x ∈ log
  apply_eq : ∀ store, (∀ x, .insert x ∈ log → x ∉ store) →
    changes.apply store = Change.replay store log

namespace Represents

theorem none : Represents (none : Changes α) [] where
  inserted := by simp [Changes.none]
  apply_eq store _ := apply_none store

theorem insert (h : Represents changes log) (x : α) :
    Represents (changes.insert x) (log ++ [.insert x]) where
  inserted y hy := by
    cases Finset.mem_insert.mp hy with
    | inl heq => simp [heq]
    | inr hold => exact List.mem_append_left _ (h.inserted y hold)
  apply_eq store hstore := by
    rw [apply_insert, Change.replay_append,
      h.apply_eq store fun y hy => hstore y (List.mem_append_left _ hy)]
    rfl

theorem delete (h : Represents changes log) (x : α) :
    Represents (changes.delete x) (log ++ [.delete x]) where
  inserted y hy := List.mem_append_left _ (h.inserted y (inserted_delete_subset hy))
  apply_eq store hstore := by
    have hlog : ∀ y, .insert y ∈ log → y ∉ store := fun y hy =>
      hstore y (List.mem_append_left _ hy)
    rw [apply_delete fun hx => hlog x (h.inserted x hx), Change.replay_append,
      h.apply_eq store hlog]
    rfl

/-- A list of elements is deleted one after the other. -/
theorem deleteAll (h : Represents changes log) (xs : List α) :
    Represents (xs.foldl Changes.delete changes) (log ++ xs.map .delete) := by
  induction xs generalizing changes log with
  | nil => simpa using h
  | cons x xs ih =>
    -- the log grows by one deletion before the rest of the list
    have hrest := ih (h.delete x)
    rwa [List.append_assoc] at hrest

end Represents

end Changes

/-- A store and the uncommitted changes of each client. -/
structure Workspace (ι α : Type*) where
  store : Finset α
  changes : ι → Changes α

/-- The changes committed so far and those each client has still to commit. -/
structure Logs (ι α : Type*) where
  committed : List (Change α)
  uncommitted : ι → List (Change α)

namespace Logs

variable {ι α : Type*} [DecidableEq ι]

/-- A client makes changes. -/
def record (logs : Logs ι α) (i : ι) (changes : List (Change α)) : Logs ι α :=
  { logs with uncommitted := Function.update logs.uncommitted i (logs.uncommitted i ++ changes) }

/-- A client commits. -/
def commit (logs : Logs ι α) (i : ι) : Logs ι α where
  committed := logs.committed ++ logs.uncommitted i
  uncommitted := Function.update logs.uncommitted i []

/-- The uncommitted changes of a client are lost. -/
def discard (logs : Logs ι α) (i : ι) : Logs ι α :=
  { logs with uncommitted := Function.update logs.uncommitted i [] }

end Logs

namespace Workspace

variable {ι α : Type*} [DecidableEq α] {w : Workspace ι α} {i j : ι} {x : α}

/-- What a client sees. -/
def view (w : Workspace ι α) (i : ι) : Finset α := (w.changes i).apply w.store

/-- A workspace stands for logs over the store it started with: its changes do what the
    uncommitted logs do, and no client's insertion is in the store or in another log. -/
structure Refines (w : Workspace ι α) (store : Finset α) (logs : Logs ι α) : Prop where
  store_eq : w.store = Change.replay store logs.committed
  represents : ∀ i, (w.changes i).Represents (logs.uncommitted i)
  fresh : ∀ i x, .insert x ∈ logs.uncommitted i → x ∉ w.store
  apart : ∀ i j x, .insert x ∈ logs.uncommitted i → .insert x ∈ logs.uncommitted j → i = j

namespace Refines

variable {store : Finset α} {logs : Logs ι α}

theorem init (store : Finset α) :
    Refines (⟨store, fun _ => .none⟩ : Workspace ι α) store ⟨[], fun _ => []⟩ where
  store_eq := rfl
  represents _ := .none
  fresh := by simp
  apart := by simp

/-- A client sees the store after all committed changes and its own. -/
theorem view (h : Refines w store logs) (i : ι) :
    w.view i = Change.replay store (logs.committed ++ logs.uncommitted i) := by
  rw [Workspace.view, (h.represents i).apply_eq _ (h.fresh i), h.store_eq, Change.replay_append]

end Refines

/-- A client without changes sees the store. -/
theorem view_of_none (h : w.changes i = .none) : w.view i = w.store := by
  rw [view, h, Changes.apply_none]

variable [DecidableEq ι]

/-- A client changes its changes. -/
def modify (w : Workspace ι α) (i : ι) (f : Changes α → Changes α) : Workspace ι α :=
  { w with changes := Function.update w.changes i (f (w.changes i)) }

/-- A client commits: what it sees becomes the store. -/
def commit (w : Workspace ι α) (i : ι) : Workspace ι α where
  store := w.view i
  changes := Function.update w.changes i .none

/-- The uncommitted changes of a client are lost. -/
def discard (w : Workspace ι α) (i : ι) : Workspace ι α := w.modify i fun _ => .none

omit [DecidableEq α] in
theorem changes_modify_of_ne (hj : j ≠ i) (f : Changes α → Changes α) :
    (w.modify i f).changes j = w.changes j :=
  Function.update_of_ne hj _ _

theorem changes_commit_of_ne (hj : j ≠ i) : (w.commit i).changes j = w.changes j :=
  Function.update_of_ne hj _ _

/-- Without changes there is nothing to commit. -/
theorem commit_of_none (h : w.changes i = .none) : w.commit i = w := by
  have hchanges : Function.update w.changes i .none = w.changes := by
    rw [← h, Function.update_eq_self]
  rw [commit, view_of_none h, hchanges]

namespace Refines

variable {store : Finset α} {logs : Logs ι α}

/-- A new element is inserted by one client. -/
theorem insert (h : Refines w store logs) (i : ι) (hstore : x ∉ w.store)
    (hfresh : ∀ j, .insert x ∉ logs.uncommitted j) :
    Refines (w.modify i (·.insert x)) store (logs.record i [.insert x]) where
  store_eq := h.store_eq
  represents j := by
    by_cases hj : j = i
    · subst hj
      simpa [Workspace.modify, Logs.record] using (h.represents j).insert x
    · simpa [Workspace.modify, Logs.record, hj] using h.represents j
  fresh j y hy := by
    by_cases hj : j = i
    · subst hj
      simp only [Logs.record, Function.update_self, List.mem_append, List.mem_singleton,
        Change.insert.injEq] at hy
      cases hy with
      | inl hold => exact h.fresh j y hold
      | inr heq => exact heq ▸ hstore
    · simp only [Logs.record, Function.update_of_ne hj] at hy
      exact h.fresh j y hy
  apart j k y hj hk := by
    -- the new element is in the log of `i` only
    have hlog : ∀ l, .insert y ∈ (logs.record i [.insert x]).uncommitted l →
        .insert y ∈ logs.uncommitted l ∨ l = i ∧ y = x := by
      intro l hl
      by_cases hli : l = i
      · subst hli
        simpa [Logs.record] using hl
      · simp only [Logs.record, Function.update_of_ne hli] at hl
        exact .inl hl
    cases hlog j hj with
    | inl hj =>
      cases hlog k hk with
      | inl hk => exact h.apart j k y hj hk
      | inr hk => exact absurd (hk.2 ▸ hj) (hfresh j)
    | inr hj =>
      cases hlog k hk with
      | inl hk => exact absurd (hj.2 ▸ hk) (hfresh k)
      | inr hk => rw [hj.1, hk.1]

omit [DecidableEq α] in
/-- What only deletes leaves the insertions of a log alone. -/
private theorem insert_mem_record_delete {xs : List α} {j : ι} {y : α} :
    .insert y ∈ (logs.record i (xs.map .delete)).uncommitted j ↔
      .insert y ∈ logs.uncommitted j := by
  by_cases hj : j = i
  · subst hj
    simp [Logs.record]
  · simp [Logs.record, hj]

/-- Elements are deleted by one client. -/
theorem deleteAll (h : Refines w store logs) (i : ι) (xs : List α) :
    Refines (w.modify i (xs.foldl Changes.delete ·)) store (logs.record i (xs.map .delete)) where
  store_eq := h.store_eq
  represents j := by
    by_cases hj : j = i
    · subst hj
      simpa [Workspace.modify, Logs.record] using (h.represents j).deleteAll xs
    · simpa [Workspace.modify, Logs.record, hj] using h.represents j
  fresh j y hy := h.fresh j y (insert_mem_record_delete.mp hy)
  apart j k y hj hk :=
    h.apart j k y (insert_mem_record_delete.mp hj) (insert_mem_record_delete.mp hk)

omit [DecidableEq α] in
/-- An uncommitted log that is emptied has no insertions left. -/
private theorem mem_update_nil {i j : ι} {y : α}
    (h : .insert y ∈ Function.update logs.uncommitted i [] j) :
    j ≠ i ∧ .insert y ∈ logs.uncommitted j := by
  by_cases hj : j = i
  · subst hj
    simp at h
  · exact ⟨hj, by rwa [Function.update_of_ne hj] at h⟩

private theorem represents_update_none (h : Refines w store logs) (i j : ι) :
    (Function.update w.changes i .none j).Represents (Function.update logs.uncommitted i [] j) := by
  by_cases hj : j = i
  · subst hj
    rw [Function.update_self, Function.update_self]
    exact .none
  · rw [Function.update_of_ne hj, Function.update_of_ne hj]
    exact h.represents j

/-- A commit appends the log of its client to those committed before. -/
theorem commit (h : Refines w store logs) (i : ι) : Refines (w.commit i) store (logs.commit i) where
  store_eq := h.view i
  represents := h.represents_update_none i
  fresh j y hy := by
    obtain ⟨hj, hlog⟩ := mem_update_nil hy
    -- what the client has inserted is in no other log
    simp only [Workspace.commit, Workspace.view, Changes.apply, Finset.mem_union, Finset.mem_sdiff,
      not_or, not_and_or]
    exact ⟨.inl (h.fresh j y hlog), fun hinserted =>
      hj (h.apart j i y hlog ((h.represents i).inserted y hinserted))⟩
  apart j k y hj hk := h.apart j k y (mem_update_nil hj).2 (mem_update_nil hk).2

/-- A client that goes away takes its uncommitted changes with it. -/
theorem discard (h : Refines w store logs) (i : ι) :
    Refines (w.discard i) store (logs.discard i) where
  store_eq := h.store_eq
  represents := h.represents_update_none i
  fresh j y hy := h.fresh j y (mem_update_nil hy).2
  apart j k y hj hk := h.apart j k y (mem_update_nil hj).2 (mem_update_nil hk).2

end Refines

/-! ## What clients may change -/

/-- The changes of each client `i` insert only what it may write, `W i`, and delete only what
    it may remove, `D i`; and so did the changes that were committed over `store`. -/
structure Within (w : Workspace ι α) (store : Finset α) (W D : ι → α → Prop) : Prop where
  inserted : ∀ i, ∀ x ∈ (w.changes i).inserted, W i x
  deleted : ∀ i, ∀ x ∈ (w.changes i).deleted, D i x
  written : ∀ x ∈ w.store, x ∈ store ∨ ∃ i, W i x
  kept : ∀ x ∈ store, (∀ i, ¬ D i x) → x ∈ w.store

namespace Within

variable {store : Finset α} {W D W' D' : ι → α → Prop}

omit [DecidableEq α] [DecidableEq ι] in
theorem init (store : Finset α) : Within ⟨store, fun _ => .none⟩ store W D where
  inserted _ x hx := absurd hx (Finset.notMem_empty x)
  deleted _ x hx := absurd hx (Finset.notMem_empty x)
  written _ hx := .inl hx
  kept _ hx _ := hx

omit [DecidableEq α] [DecidableEq ι] in
/-- The clients may change more. -/
theorem mono (h : Within w store W D) (hW : ∀ i x, W i x → W' i x) (hD : ∀ i x, D i x → D' i x) :
    Within w store W' D' where
  inserted i x hx := hW i x (h.inserted i x hx)
  deleted i x hx := hD i x (h.deleted i x hx)
  written x hx := (h.written x hx).imp_right fun ⟨i, hi⟩ => ⟨i, hW i x hi⟩
  kept x hx hnot := h.kept x hx fun i hi => hnot i (hD i x hi)

omit [DecidableEq ι] in
/-- A client sees nothing that was neither there nor written, and all that nobody may remove. -/
theorem view (h : Within w store W D) (i : ι) :
    (∀ x ∈ w.view i, x ∈ store ∨ ∃ j, W j x) ∧
    ∀ x ∈ store, (∀ j, ¬ D j x) → x ∈ w.view i := by
  constructor
  · intro x hx
    cases Changes.mem_apply.mp hx with
    | inl hold => exact h.written x hold.1
    | inr hnew => exact .inr ⟨i, h.inserted i x hnew⟩
  · intro x hx hnot
    exact Changes.mem_apply.mpr (.inl ⟨h.kept x hx hnot, fun hdel => hnot i (h.deleted i x hdel)⟩)

omit [DecidableEq α] in
/-- A client makes changes that it may make. -/
theorem modify (h : Within w store W D) (i : ι) {f : Changes α → Changes α}
    (hinserted : ∀ x ∈ (f (w.changes i)).inserted, W i x)
    (hdeleted : ∀ x ∈ (f (w.changes i)).deleted, D i x) : Within (w.modify i f) store W D where
  inserted j x hx := by
    by_cases hj : j = i
    · subst hj
      exact hinserted x (by simpa [Workspace.modify] using hx)
    · exact h.inserted j x (by simpa [Workspace.modify, hj] using hx)
  deleted j x hx := by
    by_cases hj : j = i
    · subst hj
      exact hdeleted x (by simpa [Workspace.modify] using hx)
    · exact h.deleted j x (by simpa [Workspace.modify, hj] using hx)
  written := h.written
  kept := h.kept

theorem insert (h : Within w store W D) (i : ι) (hx : W i x) :
    Within (w.modify i (·.insert x)) store W D := by
  refine h.modify i (fun y hy => ?_) (h.deleted i)
  cases Finset.mem_insert.mp hy with
  | inl heq => exact heq ▸ hx
  | inr hold => exact h.inserted i y hold

omit [DecidableEq ι] in
private theorem foldl_delete {xs : List α} (hxs : ∀ x ∈ xs, D i x) {changes : Changes α}
    (hinserted : ∀ x ∈ changes.inserted, W i x) (hdeleted : ∀ x ∈ changes.deleted, D i x) :
    (∀ x ∈ (xs.foldl Changes.delete changes).inserted, W i x) ∧
    ∀ x ∈ (xs.foldl Changes.delete changes).deleted, D i x := by
  induction xs generalizing changes with
  | nil => exact ⟨hinserted, hdeleted⟩
  | cons y xs ih =>
    refine ih (fun x hx => hxs x (List.mem_cons_of_mem y hx))
      (fun x hx => hinserted x (Changes.inserted_delete_subset hx)) fun x hx => ?_
    cases Finset.mem_insert.mp (Changes.deleted_delete_subset hx) with
    | inl heq => exact heq ▸ hxs y List.mem_cons_self
    | inr hold => exact hdeleted x hold

theorem deleteAll (h : Within w store W D) (i : ι) {xs : List α} (hxs : ∀ x ∈ xs, D i x) :
    Within (w.modify i (xs.foldl Changes.delete ·)) store W D :=
  have hfold := foldl_delete hxs (h.inserted i) (h.deleted i)
  h.modify i hfold.1 hfold.2

omit [DecidableEq α] in
theorem discard (h : Within w store W D) (i : ι) : Within (w.discard i) store W D :=
  h.modify i (fun x hx => absurd hx (Finset.notMem_empty x))
    fun x hx => absurd hx (Finset.notMem_empty x)

theorem commit (h : Within w store W D) (i : ι) : Within (w.commit i) store W D where
  inserted := (h.discard i).inserted
  deleted := (h.discard i).deleted
  written := (h.view i).1
  kept := (h.view i).2

/-- Of what a client may not change, the others see the same when it has committed. -/
theorem mem_view_commit (h : Within w store W D) (hj : j ≠ i) (hW : ¬ W i x) (hD : ¬ D i x) :
    x ∈ (w.commit i).view j ↔ x ∈ w.view j := by
  -- the commit changes the store only where `i` may, and the changes of `j` not at all
  have hstore : x ∈ (w.commit i).store ↔ x ∈ w.store :=
    Changes.mem_apply.trans ⟨fun hx => hx.elim And.left fun hnew => absurd (h.inserted i x hnew) hW,
      fun hx => .inl ⟨hx, fun hdel => hD (h.deleted i x hdel)⟩⟩
  rw [Workspace.view, Workspace.view, Changes.mem_apply, Changes.mem_apply, hstore,
    changes_commit_of_ne hj]

end Within

end Workspace
