import Mathlib.Data.List.Induction
import Mathlib.Data.List.Basic
import Mathlib.Algebra.Order.Ring.Int

/-!
# Lemmas on digits and fields for the standard library

`Nat.toDigits 10` writes a number without leading zeros and `Nat.ofDigitChars 10` reads any
digits. What is written is read back; conversely digits are written back unless they begin
with a zero. `Nat.toPaddedDigits` writes at least two digits. `List.splitOn` reads the
fields between separators.
-/

namespace List

variable {α : Type} [BEq α] {a : α} {xs l : List α}

/-- A field is no longer than what it is split from. -/
theorem length_le_of_mem_splitOn (h : l ∈ xs.splitOn a) : l.length ≤ xs.length := by
  induction xs generalizing l with
  | nil =>
    rw [splitOn_nil, mem_singleton] at h
    exact Nat.le_of_eq (congrArg length h)
  | cons x xs ih =>
    rw [splitOn_cons_eq_if_modifyHead] at h
    obtain ⟨field, fields, hfields⟩ := exists_cons_of_ne_nil (splitOn_ne_nil a xs)
    rw [hfields] at h ih
    split at h
    · rcases mem_cons.mp h with rfl | h
      · exact Nat.zero_le _
      · exact Nat.le_succ_of_le (ih h)
    · rcases mem_cons.mp h with rfl | h
      · exact Nat.succ_le_succ (ih mem_cons_self)
      · exact Nat.le_succ_of_le (ih (mem_cons_of_mem _ h))

end List

namespace Char

variable {c : Char}

theorem toNat_sub_lt_ten (h : c.isDigit = true) : c.toNat - '0'.toNat < 10 := by
  obtain ⟨-, hle⟩ := isDigit_iff_toNat.mp h
  have hnine : '9'.toNat = '0'.toNat + 9 := rfl
  omega

/-- The digit of the value of a digit. -/
theorem digitChar_toNat_sub (h : c.isDigit = true) : (c.toNat - '0'.toNat).digitChar = c := by
  have hle := (isDigit_iff_toNat.mp h).1
  have hzero : '0'.toNat = 48 := rfl
  apply Char.toNat_inj.mp
  rw [Nat.toNat_digitChar_of_lt_ten (toNat_sub_lt_ten h)]
  omega

end Char

namespace Nat

variable {cs : List Char} {c : Char} {n : Nat}

/-- Reading one more digit. -/
theorem ofDigitChars_concat (cs : List Char) (c : Char) :
    ofDigitChars 10 (cs ++ [c]) 0 = 10 * ofDigitChars 10 cs 0 + (c.toNat - '0'.toNat) := by
  rw [ofDigitChars_append, ofDigitChars_cons, ofDigitChars_nil]

/-- The value of `k` digits is below `10 ^ k`. -/
theorem ofDigitChars_lt (h : ∀ c ∈ cs, c.isDigit = true) :
    ofDigitChars 10 cs 0 < 10 ^ cs.length := by
  induction cs using List.reverseRecOn with
  | nil => simp
  | append_singleton cs c ih =>
    have hc := Char.toNat_sub_lt_ten (h c (by simp))
    have hcs := ih fun c hc => h c (List.mem_append_left _ hc)
    rw [ofDigitChars_concat, List.length_append, List.length_singleton, Nat.pow_succ]
    omega

private theorem head?_append_left {ds : List Char} (hne : cs ≠ []) :
    (cs ++ ds).head? = cs.head? := by
  obtain ⟨c, cs, rfl⟩ := List.exists_cons_of_ne_nil hne
  rfl

/-- A positive number is written without a leading zero. -/
theorem head?_toDigits_ne (h : 0 < n) : (toDigits 10 n).head? ≠ some '0' := by
  induction n using Nat.strongRecOn with
  | _ n ih =>
    by_cases hlt : n < 10
    · rw [toDigits_of_lt_base hlt, List.head?_cons, ne_eq, Option.some.injEq, digitChar_eq_zero]
      omega
    · rw [toDigits_of_base_le (by decide) (Nat.not_lt.mp hlt), head?_append_left toDigits_ne_nil]
      exact ih (n / 10) (by omega) (by omega)

/-- Digits that do not begin with a zero have a positive value. -/
theorem ofDigitChars_pos (h : ∀ c ∈ cs, c.isDigit = true) (hne : cs ≠ [])
    (hzero : cs.head? ≠ some '0') : 0 < ofDigitChars 10 cs 0 := by
  obtain ⟨c, cs, rfl⟩ := List.exists_cons_of_ne_nil hne
  have hc : 0 < c.toNat - '0'.toNat := by
    by_contra hle
    have hback := Char.digitChar_toNat_sub (h c List.mem_cons_self)
    rw [Nat.eq_zero_of_not_pos hle] at hback
    exact hzero (by rw [← hback]; rfl)
  rw [ofDigitChars_cons, ofDigitChars_eq_ofDigitChars_zero]
  have hpow : 0 < 10 ^ cs.length * (10 * 0 + (c.toNat - '0'.toNat)) :=
    Nat.mul_pos (Nat.pow_pos (by decide)) (by omega)
  omega

/-- Digits that do not begin with a zero are those of their value. -/
theorem toDigits_ofDigitChars (h : ∀ c ∈ cs, c.isDigit = true) (hne : cs ≠ [])
    (hzero : cs.head? ≠ some '0') : toDigits 10 (ofDigitChars 10 cs 0) = cs := by
  induction cs using List.reverseRecOn with
  | nil => exact absurd rfl hne
  | append_singleton cs c ih =>
    have hc := h c (by simp)
    have hvalue := Char.toNat_sub_lt_ten hc
    rw [ofDigitChars_concat]
    by_cases hnil : cs = []
    · rw [hnil, ofDigitChars_nil, Nat.mul_zero, Nat.zero_add, toDigits_of_lt_base hvalue,
        Char.digitChar_toNat_sub hc, List.nil_append]
    · have hcs : ∀ c ∈ cs, c.isDigit = true := fun c hc => h c (List.mem_append_left _ hc)
      rw [head?_append_left hnil] at hzero
      have hpos := ofDigitChars_pos hcs hnil hzero
      rw [← toDigits_append_toDigits (by decide) hpos hvalue, ih hcs hnil hzero,
        toDigits_of_lt_base hvalue, Char.digitChar_toNat_sub hc]

/-! ## At least two digits -/

/-- The digits of a number, with a zero in front if there is only one. -/
def toPaddedDigits (n : Nat) : List Char :=
  if n < 10 then '0' :: toDigits 10 n else toDigits 10 n

theorem isDigit_of_mem_toPaddedDigits (h : c ∈ toPaddedDigits n) : c.isDigit = true := by
  unfold toPaddedDigits at h
  split at h
  · rcases List.mem_cons.mp h with rfl | h
    · rfl
    · exact isDigit_of_mem_toDigits (by decide) (by decide) h
  · exact isDigit_of_mem_toDigits (by decide) (by decide) h

/-- Padded digits are read back. -/
theorem ofDigitChars_toPaddedDigits (n : Nat) : ofDigitChars 10 (toPaddedDigits n) 0 = n := by
  unfold toPaddedDigits
  split
  · rw [ofDigitChars_cons]
    exact ofDigitChars_ten_toDigits
  · exact ofDigitChars_ten_toDigits

/-- A number below one hundred is padded to two digits. -/
theorem length_toPaddedDigits_of_lt (h : n < 100) : (toPaddedDigits n).length = 2 := by
  unfold toPaddedDigits
  split
  · rename_i hn
    rw [toDigits_of_lt_base hn]
    rfl
  · rename_i hn
    have hle := (length_toDigits_le_iff (b := 10) (k := 2) (n := n) (by decide) (by decide)).mpr h
    have hgt := mt (length_toDigits_le_iff (b := 10) (k := 1) (n := n) (by decide)
      (by decide)).mp (by simpa using hn)
    omega

theorem two_le_length_toPaddedDigits (n : Nat) : 2 ≤ (toPaddedDigits n).length := by
  by_cases hlt : n < 100
  · exact Nat.le_of_eq (length_toPaddedDigits_of_lt hlt).symm
  · have hgt := mt (length_toDigits_le_iff (b := 10) (k := 2) (n := n) (by decide)
      (by decide)).mp hlt
    rw [toPaddedDigits, if_neg (by omega)]
    omega

/-- Padded digits begin with a zero only if there are two of them. -/
theorem length_toPaddedDigits_of_head? (h : (toPaddedDigits n).head? = some '0') :
    (toPaddedDigits n).length = 2 := by
  by_cases hlt : n < 10
  · exact length_toPaddedDigits_of_lt (by omega)
  · rw [toPaddedDigits, if_neg hlt] at h
    exact absurd h (head?_toDigits_ne (by omega))

/-- At least two digits, with a leading zero only if there are two, are the padded digits of
    their value. -/
theorem toPaddedDigits_ofDigitChars (h : ∀ c ∈ cs, c.isDigit = true) (htwo : 2 ≤ cs.length)
    (hzero : cs.head? = some '0' → cs.length = 2) :
    toPaddedDigits (ofDigitChars 10 cs 0) = cs := by
  by_cases hhead : cs.head? = some '0'
  · -- a zero and one more digit
    obtain ⟨c, d, rfl⟩ := List.length_eq_two.mp (hzero hhead)
    obtain rfl : c = '0' := by simpa using hhead
    have hd := h d (by simp)
    have hvalue : ofDigitChars 10 ['0', d] 0 = d.toNat - '0'.toNat := by
      simp [ofDigitChars_cons]
    rw [hvalue, toPaddedDigits, if_pos (Char.toNat_sub_lt_ten hd),
      toDigits_of_lt_base (Char.toNat_sub_lt_ten hd), Char.digitChar_toNat_sub hd]
  · have hne : cs ≠ [] := by
      rintro rfl
      simp at htwo
    have hback := toDigits_ofDigitChars h hne hhead
    have hten : ¬ ofDigitChars 10 cs 0 < 10 := by
      intro hlt
      rw [toDigits_of_lt_base hlt] at hback
      rw [← hback] at htwo
      simp at htwo
    rw [toPaddedDigits, if_neg hten, hback]

end Nat
