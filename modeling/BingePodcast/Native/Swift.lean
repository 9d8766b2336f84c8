import Mathlib.Data.Int.Notation
import Mathlib.Data.List.Basic

/-!
# Traps, array accesses and results

What the handlers use of Swift itself. An `Int` index is an integer, an array access
outside its bounds traps, and so does a `nil` that is force-cast or force-unwrapped. Swift
compares strings up to canonical equivalence: where the app compares titles and subtitles, a
Lean `String` stands for such a class. Paths, URLs and times are strings as they are.
-/

namespace BingePodcast

/-- The ways the modelled code stops the app. -/
inductive Trap where
  /-- An array access outside the bounds. -/
  | indexOutOfRange
  /-- `as!` or `!` applied to `nil`. -/
  | nilForceCast
  /-- Firestore throws on a collection path it does not accept. -/
  | invalidCollectionPath
deriving DecidableEq, Repr

/-- The array access `xs[i]`. -/
def element {α : Type} (xs : List α) (i : ℤ) : Except Trap α :=
  match i with
  | .ofNat n =>
    match xs[n]? with
    | some x => .ok x
    | none => .error .indexOutOfRange
  | .negSucc _ => .error .indexOutOfRange

/-- The array update `xs[i] = f(xs[i])`. -/
def updateElement {α : Type} (xs : List α) (i : ℤ) (f : α → α) : Except Trap (List α) :=
  match i with
  | .ofNat n =>
    if n < xs.length then .ok (xs.modify n f) else .error .indexOutOfRange
  | .negSucc _ => .error .indexOutOfRange

section Accesses

variable {α : Type} {xs : List α} {i : ℤ} {f : α → α}

theorem element_ofNat {n : Nat} (h : n < xs.length) : element xs n = .ok xs[n] := by
  simp [element, List.getElem?_eq_getElem h]

theorem element_natCast_eq_ok {n : Nat} {x : α} : element xs n = .ok x ↔ xs[n]? = some x := by
  have hn : element xs n = match xs[n]? with
    | some x => .ok x
    | none => .error .indexOutOfRange := rfl
  rw [hn]
  cases xs[n]? <;> simp

/-- An access that succeeds yields an element. -/
theorem mem_of_element {x : α} (h : element xs i = .ok x) : x ∈ xs := by
  cases i with
  | ofNat n =>
    simp only [element] at h
    split at h
    · rename_i hx
      obtain rfl := Except.ok.inj h
      exact List.mem_of_getElem? hx
    · cases h
  | negSucc n => cases h

/-- An access that fails does so because its index is out of range. -/
theorem element_eq_error {t : Trap} :
    element xs i = .error t ↔ t = .indexOutOfRange ∧ (i < 0 ∨ xs.length ≤ i) := by
  cases i with
  | ofNat n =>
    simp only [element]
    split
    · rename_i hx
      have := (List.getElem?_eq_some_iff.mp hx).1
      simp only [reduceCtorEq, Int.ofNat_eq_natCast, false_iff, not_and]
      omega
    · rename_i hx
      have := List.getElem?_eq_none_iff.mp hx
      simp only [Except.error.injEq, Int.ofNat_eq_natCast]
      exact ⟨fun h => ⟨h.symm, by omega⟩, fun h => h.1.symm⟩
  | negSucc n =>
    simp only [element, Except.error.injEq, eq_comm]
    have := Int.negSucc_lt_zero n
    tauto

/-- An update succeeds exactly at the indices of the array. -/
theorem updateElement_eq_ok {ys : List α} :
    updateElement xs i f = .ok ys ↔
      ∃ n : Nat, i = n ∧ n < xs.length ∧ ys = xs.modify n f := by
  constructor
  · intro h
    cases i with
    | ofNat n =>
      simp only [updateElement] at h
      split at h
      · exact ⟨n, rfl, ‹_›, (Except.ok.inj h).symm⟩
      · cases h
    | negSucc n => cases h
  · rintro ⟨n, rfl, h, rfl⟩
    simp [updateElement, h]

end Accesses

end BingePodcast
