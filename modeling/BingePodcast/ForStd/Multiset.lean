import Mathlib.Data.Multiset.Filter
import Mathlib.Data.Multiset.Bind
import Mathlib.Algebra.BigOperators.Group.Finset.Piecewise
import Mathlib.Data.Finmap

/-!
# Multiset, Finset and Finmap lemmas for the standard library

A loop that erases elements while it goes through a listing of the multiset, the sum of a
function that is updated at one point, and a dictionary of lists that is filled element by
element: its values and its entries.
-/

namespace Multiset

variable {α : Type*} [DecidableEq α] {p : α → Prop} [DecidablePred p]

/-- Erasing the listed elements that satisfy `p` leaves those that do not. -/
theorem foldl_erase_add (xs : List α) (m : Multiset α) :
    xs.foldl (fun m x => if p x then m.erase x else m) (↑xs + m) =
      (↑xs : Multiset α).filter (fun x => ¬ p x) + m := by
  induction xs generalizing m with
  | nil => simp
  | cons x xs ih =>
    rw [List.foldl_cons, ← cons_coe, cons_add]
    by_cases hx : p x
    · rw [if_pos hx, erase_cons_head, ih, filter_cons_of_neg (p := fun x => ¬ p x) _ (not_not.mpr hx)]
    · rw [if_neg hx, ← add_cons, ih, filter_cons_of_pos (p := fun x => ¬ p x) _ hx,
        add_cons, cons_add]

/-- A loop through all elements that erases those that satisfy `p` filters the multiset,
    in whatever order it meets them. -/
theorem foldl_erase_eq_filter {xs : List α} {m : Multiset α} (h : (xs : Multiset α) = m) :
    xs.foldl (fun m x => if p x then m.erase x else m) m = m.filter fun x => ¬ p x := by
  have hloop := foldl_erase_add (p := p) xs 0
  rwa [add_zero, add_zero, h] at hloop

end Multiset

namespace Finset

/-- An update at one point changes a sum by the difference of the two values. -/
theorem sum_update_add {ι : Type*} [DecidableEq ι] {s : Finset ι} {i : ι} (h : i ∈ s)
    (f : ι → ℕ) (b : ℕ) : ∑ x ∈ s, Function.update f i b x + f i = ∑ x ∈ s, f x + b := by
  have hnew := sum_update_of_mem h f b
  have hold := sum_update_of_mem h f (f i)
  rw [Function.update_eq_self] at hold
  omega

end Finset

namespace Finmap

section Erase

variable {κ : Type*} {β : κ → Type*} [DecidableEq κ] {m : Finmap β} {k : κ} {b : β k}

/-- What is inserted under a key replaces what was there. -/
theorem insert_erase (m : Finmap β) (k : κ) (b : β k) : (m.erase k).insert k b = m.insert k b := by
  refine ext_lookup fun k' => ?_
  rcases eq_or_ne k' k with rfl | hne
  · rw [lookup_insert, lookup_insert]
  · rw [lookup_insert_of_ne _ hne, lookup_insert_of_ne _ hne, lookup_erase_ne hne]

/-- What is found under a key can be put back. -/
theorem insert_erase_of_lookup (h : m.lookup k = some b) : (m.erase k).insert k b = m := by
  refine ext_lookup fun k' => ?_
  rcases eq_or_ne k' k with rfl | hne
  · rw [lookup_insert, h]
  · rw [lookup_insert_of_ne _ hne, lookup_erase_ne hne]

end Erase

/-! ## Dictionaries of lists -/

variable {κ α : Type*}

/-- All values of a dictionary of lists. -/
def values (m : Finmap fun _ : κ => List α) : Multiset α :=
  m.entries.bind fun entry => (entry.2 : Multiset α)

@[simp] theorem values_empty : (∅ : Finmap fun _ : κ => List α).values = 0 := rfl

variable [DecidableEq κ]

/-- Append a value to the list under a key. -/
def appendAt (m : Finmap fun _ : κ => List α) (k : κ) (x : α) : Finmap fun _ : κ => List α :=
  match m.lookup k with
  | some xs => m.insert k (xs ++ [x])
  | none => m.insert k [x]

theorem values_insert_of_notMem {m : Finmap fun _ : κ => List α} {k : κ} (h : k ∉ m)
    (xs : List α) : (m.insert k xs).values = ↑xs + m.values := by
  rw [values, entries_insert_of_notMem h, Multiset.cons_bind, values]

/-- Appending adds one value. -/
theorem values_appendAt (m : Finmap fun _ : κ => List α) (k : κ) (x : α) :
    (m.appendAt k x).values = x ::ₘ m.values := by
  rw [appendAt]
  split
  · rename_i xs hxs
    conv_rhs => rw [← insert_erase_of_lookup hxs]
    rw [← insert_erase, values_insert_of_notMem notMem_erase_self,
      values_insert_of_notMem notMem_erase_self, ← Multiset.coe_add, Multiset.coe_singleton,
      ← Multiset.singleton_add, add_comm (xs : Multiset α), add_assoc]
  · rename_i hnone
    rw [values_insert_of_notMem (lookup_eq_none.mp hnone), Multiset.coe_singleton,
      Multiset.singleton_add]

/-- A dictionary filled from a list has the values of the list. -/
theorem values_foldl_appendAt (key : α → κ) (xs : List α) (m : Finmap fun _ : κ => List α) :
    (xs.foldl (fun m x => m.appendAt (key x) x) m).values = ↑xs + m.values := by
  induction xs generalizing m with
  | nil => simp
  | cons x xs ih =>
    rw [List.foldl_cons, ih, values_appendAt, Multiset.add_cons, ← Multiset.cons_coe,
      Multiset.cons_add]

/-- Appending changes the list under its key. -/
theorem lookup_appendAt (m : Finmap fun _ : κ => List α) (k k' : κ) (x : α) :
    (m.appendAt k x).lookup k' =
      if k' = k then some ((m.lookup k).getD [] ++ [x]) else m.lookup k' := by
  have hinsert : ∀ xs : List α,
      (m.insert k xs).lookup k' = if k' = k then some xs else m.lookup k' := by
    intro xs
    by_cases hk : k' = k
    · rw [if_pos hk, hk, lookup_insert]
    · rw [if_neg hk, lookup_insert_of_ne _ hk]
  rw [appendAt]
  split
  · rename_i xs hxs
    rw [hinsert, hxs, Option.getD_some]
  · rename_i hnone
    rw [hinsert, hnone, Option.getD_none, List.nil_append]

/-- A dictionary filled from a list holds under each key the elements with that key, in the
    order of the list. -/
theorem getD_lookup_foldl_appendAt (key : α → κ) (xs : List α)
    (m : Finmap fun _ : κ => List α) (k : κ) :
    ((xs.foldl (fun m x => m.appendAt (key x) x) m).lookup k).getD [] =
      (m.lookup k).getD [] ++ xs.filter (key · = k) := by
  induction xs generalizing m with
  | nil => simp
  | cons x xs ih =>
    rw [List.foldl_cons, ih, lookup_appendAt, List.filter_cons]
    by_cases hk : key x = k
    · rw [if_pos hk.symm, if_pos (decide_eq_true hk), Option.getD_some, hk, List.append_assoc,
        List.singleton_append]
    · rw [if_neg (Ne.symm hk), if_neg (by simpa using hk)]

/-- Its keys are those of the elements. -/
theorem mem_foldl_appendAt (key : α → κ) (xs : List α) (m : Finmap fun _ : κ => List α) (k : κ) :
    k ∈ xs.foldl (fun m x => m.appendAt (key x) x) m ↔ k ∈ m ∨ ∃ x ∈ xs, key x = k := by
  induction xs generalizing m with
  | nil => simp
  | cons x xs ih =>
    have happend : k ∈ m.appendAt (key x) x ↔ k = key x ∨ k ∈ m := by
      rw [appendAt]
      split <;> rw [mem_insert]
    rw [List.foldl_cons, ih, happend, List.exists_mem_cons_iff, eq_comm, or_assoc, or_left_comm]

/-- An entry is a key with the list found under it. -/
theorem mk_mem_entries_iff {m : Finmap fun _ : κ => List α} {k : κ} {xs : List α} :
    ⟨k, xs⟩ ∈ m.entries ↔ k ∈ m ∧ (m.lookup k).getD [] = xs := by
  rw [← lookup_eq_some_iff, mem_iff]
  cases m.lookup k <;> simp

end Finmap
