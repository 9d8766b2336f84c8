import Mathlib.Algebra.Group.Nat.Even
import Mathlib.Data.List.Nodup
import Mathlib.Data.List.Infix
import Mathlib.Data.List.TakeDrop

/-!
# Paging through a list

`List.after` resumes a list behind a given element. When the elements carry distinct
keys, resuming behind the last element of `l.take k` is `l.drop k`, so reading a list
page by page with a cursor reads every element once.

`pageCursor n l k` is the cursor that a reader of pages of `n` elements holds after the
pages `0`, …, `k`: the last element read, and none once a page came back empty.
-/

namespace List

variable {α β : Type*} [DecidableEq β] {key : α → β} {l : List α} {a : α} {i k : Nat}

theorem mem_of_mem_after {p : α → Bool} (h : a ∈ l.after p) : a ∈ l := by
  induction l with
  | nil => exact h
  | cons x xs ih =>
    rw [after] at h
    cases hp : p x with
    | true =>
      rw [hp] at h
      exact List.mem_cons_of_mem x h
    | false =>
      rw [hp] at h
      exact List.mem_cons_of_mem x (ih h)

/-- In a list with distinct keys, what comes after the element at `i` is `drop (i + 1)`. -/
theorem after_of_getElem? (hnodup : (l.map key).Nodup) (h : l[i]? = some a) :
    l.after (fun x => key x == key a) = l.drop (i + 1) := by
  induction l generalizing i with
  | nil => simp at h
  | cons x xs ih =>
    obtain ⟨hx, hxs⟩ := List.nodup_cons.mp hnodup
    cases i with
    | zero =>
      obtain rfl : x = a := by simpa using h
      simp [after]
    | succ i =>
      rw [List.getElem?_cons_succ] at h
      have hne : key x ≠ key a := fun heq =>
        hx (heq ▸ List.mem_map_of_mem (List.mem_of_getElem? h))
      simp only [after, beq_eq_false_iff_ne.mpr hne, cond_false, List.drop_succ_cons]
      exact ih hxs h

/-- The cursor left by a read of the first `k` elements resumes at `drop k`. -/
theorem after_getLast?_take (hnodup : (l.map key).Nodup) (hk : k ≤ l.length)
    (h : (l.take k).getLast? = some a) :
    l.after (fun x => key x == key a) = l.drop k := by
  cases k with
  | zero => simp at h
  | succ i =>
    have hi : l[i]? = some a := by
      rw [List.getLast?_eq_getElem?, List.length_take_of_le hk, Nat.add_sub_cancel,
        List.getElem?_take_of_lt (Nat.lt_succ_self i)] at h
      exact h
    exact after_of_getElem? hnodup hi

/-! ## The cursor of a reader -/

/-- The last element of the pages `0`, …, `k` of `n` elements each, none if the last of
    these pages is empty. -/
def pageCursor (n : Nat) (l : List α) (k : Nat) : Option α :=
  if n * k < l.length then (l.take (n * (k + 1))).getLast? else none

/-- A cursor is the last element of what was read. -/
theorem getLast?_take_of_pageCursor {n : Nat} (h : pageCursor n l k = some a) :
    (l.take (n * (k + 1))).getLast? = some a := by
  simp only [pageCursor] at h
  split at h
  · exact h
  · cases h

theorem pageCursor_isSome_iff {n : Nat} (hn : 0 < n) :
    (pageCursor n l k).isSome ↔ n * k < l.length := by
  simp only [pageCursor]
  split
  · rename_i hk
    have hne : l.take (n * (k + 1)) ≠ [] := by
      rw [Ne, List.take_eq_nil_iff, not_or, ← List.length_eq_zero_iff]
      exact ⟨Nat.mul_ne_zero hn.ne' (Nat.succ_ne_zero k), by omega⟩
    simp [List.getLast?_isSome, hne, hk]
  · simp [*]

theorem pageCursor_eq_none_iff {n : Nat} (hn : 0 < n) :
    pageCursor n l k = none ↔ l.length ≤ n * k := by
  rw [← Option.not_isSome_iff_eq_none, pageCursor_isSome_iff hn, not_lt]

/-- The last element of page `k + 1` is the cursor after it. -/
theorem getLast?_page (n : Nat) (l : List α) (k : Nat) :
    ((l.drop (n * (k + 1))).take n).getLast? = pageCursor n l (k + 1) := by
  simp only [pageCursor]
  split
  · rename_i hk
    rcases Nat.eq_zero_or_pos n with rfl | hn
    · simp
    · have hne : (l.drop (n * (k + 1))).take n ≠ [] := by
        rw [Ne, List.take_eq_nil_iff, not_or, List.drop_eq_nil_iff]
        omega
      rw [Nat.mul_add n (k + 1) 1, Nat.mul_one, List.take_add,
        List.getLast?_append_of_ne_nil _ hne]
  · rename_i hk
    simp [List.drop_eq_nil_iff.mpr (Nat.le_of_not_lt hk)]

/-- The last element of the first page is the cursor after it. -/
theorem getLast?_firstPage (n : Nat) (l : List α) : (l.take n).getLast? = pageCursor n l 0 := by
  cases l <;> simp [pageCursor]

/-- Resuming at the cursor reads the next page. -/
theorem take_after_pageCursor {n : Nat} (hnodup : (l.map key).Nodup)
    (h : pageCursor n l k = some a) :
    (l.after (fun x => key x == key a)).take n = (l.drop (n * (k + 1))).take n := by
  have hlast := getLast?_take_of_pageCursor h
  rcases Nat.le_total (n * (k + 1)) l.length with hle | hle
  · rw [after_getLast?_take hnodup hle hlast]
  · -- all of `l` was read: its last element is the cursor and nothing follows it
    rw [List.take_of_length_le hle, ← List.take_length (l := l)] at hlast
    rw [after_getLast?_take hnodup le_rfl hlast, List.drop_length,
      List.drop_eq_nil_iff.mpr hle]

/-! ## Lists modified at one index -/

section Modify

variable {γ : Type*} {f : α → α} {g : α → γ} {n : Nat} {P : α → Prop}

/-- What holds of all elements of a modified list. -/
theorem forall_mem_modify_iff (hn : n < l.length) :
    (∀ a ∈ l.modify n f, P a) ↔ P (f l[n]) ∧ ∀ i (hi : i < l.length), i ≠ n → P l[i] := by
  rw [List.forall_mem_iff_forall_getElem]
  constructor
  · intro h
    refine ⟨?_, fun i hi hne => ?_⟩
    · have hself := h n (by rwa [List.length_modify])
      rwa [List.getElem_modify_eq] at hself
    · have hother := h i (by rwa [List.length_modify])
      rwa [List.getElem_modify_ne f l hne.symm] at hother
  · rintro ⟨hself, hrest⟩ i hi
    have hlt : i < l.length := by rwa [List.length_modify] at hi
    rcases eq_or_ne n i with rfl | hne
    · rwa [List.getElem_modify_eq]
    · rw [List.getElem_modify_ne f l hne]
      exact hrest i hlt hne.symm

/-- An element of a modified list is an old one or the modified one. -/
theorem mem_of_mem_modify (h : a ∈ l.modify n f) : a ∈ l ∨ ∃ b, l[n]? = some b ∧ a = f b := by
  obtain ⟨i, hi⟩ := List.mem_iff_getElem?.mp h
  rw [List.getElem?_modify] at hi
  obtain ⟨b, hb, ha⟩ := Option.map_eq_some_iff.mp hi
  split at ha
  · rename_i hn
    exact .inr ⟨b, hn ▸ hb, ha.symm⟩
  · exact .inl (ha ▸ List.mem_of_getElem? hb)

/-- A function that the modification respects sees no difference. -/
theorem map_modify_of_forall (h : ∀ a, g (f a) = g a) : (l.modify n f).map g = l.map g := by
  apply List.ext_getElem
  · simp
  · intro i _ _
    simp only [List.getElem_map, List.getElem_modify]
    split
    · exact h _
    · rfl

/-- If every modification appends `ys` to the image of an element, modifying one element
    appends `ys` somewhere in the concatenation. -/
theorem perm_flatMap_modify {ys : List γ} {h : α → List γ} (hf : ∀ a, h (f a) = h a ++ ys)
    (hn : n < l.length) : ((l.modify n f).flatMap h).Perm (l.flatMap h ++ ys) := by
  induction l generalizing n with
  | nil => simp at hn
  | cons a l ih =>
    cases n with
    | zero =>
      -- `ys` has to move behind the images of the later elements
      rw [List.modify_zero_cons, List.flatMap_cons, List.flatMap_cons, hf, List.append_assoc,
        List.append_assoc]
      exact List.perm_append_comm.append_left _
    | succ n =>
      rw [List.modify_succ_cons, List.flatMap_cons, List.flatMap_cons, List.append_assoc]
      exact (ih (by simpa using hn)).append_left _

end Modify

/-- If `p` tells for each image whether it is one of an element with `q`, filtering the
    concatenation is filtering the elements. -/
theorem filter_flatMap_eq {γ : Type*} {h : α → List γ} {p : γ → Bool} {q : α → Bool}
    (hpq : ∀ a ∈ l, ∀ x ∈ h a, p x = q a) :
    (l.flatMap h).filter p = (l.filter q).flatMap h := by
  induction l with
  | nil => rfl
  | cons a l ih =>
    have hrest := ih fun b hb => hpq b (List.mem_cons_of_mem a hb)
    have hhead : (h a).filter p = if q a then h a else [] := by
      split
      · rename_i hq
        exact List.filter_eq_self.mpr fun x hx => (hpq a List.mem_cons_self x hx).trans hq
      · rename_i hq
        exact List.filter_eq_nil_iff.mpr fun x hx => by
          rwa [hpq a List.mem_cons_self x hx]
    rw [List.flatMap_cons, List.filter_append, hrest, hhead, List.filter_cons]
    split <;> simp

/-- A fold whose steps toggle `P` at the elements with `p`, and keep it at the others, toggles it
    as often as there are such elements. -/
theorem foldl_toggle_iff {σ : Type*} {f : σ → α → σ} {P : σ → Prop} {p : α → Prop} [DecidablePred p]
    (htoggle : ∀ s a, p a → (P (f s a) ↔ ¬ P s)) (hkeep : ∀ s a, ¬ p a → (P (f s a) ↔ P s))
    (l : List α) (s : σ) : P (l.foldl f s) ↔ (P s ↔ Even (l.countP fun a => p a)) := by
  induction l generalizing s with
  | nil => simp
  | cons a l ih =>
    rw [List.foldl_cons, ih, List.countP_cons]
    by_cases hp : p a
    · rw [htoggle s a hp]
      simp only [hp, decide_true, if_true, Nat.even_add_one]
      tauto
    · rw [hkeep s a hp]
      simp [hp]

end List
