import BingePodcast.ForStd.Digits
import BingePodcast.Native.Time

/-!
# Time strings

The formatter decides by the values which fields it writes, the parser by the length of the
string which fields it reads. This file says when the parser gets through and when it is
right on a duration, and that the two decisions match on what the formatter writes.

## Key results

- `exists_convertHoursToFloat_iff`: when the parser gets through
- `Duration.convertHoursToFloat_text_iff`: what it makes of the text of a duration
- `duration_parser_iff`: exactly the strings it gets through and the durations it reads right
- `time_round_trip`: formatter and parser undo each other on canonical times
-/

namespace BingePodcast

/-! ## What the parser reads -/

theorem checked_eq_ok {x y : ℤ} : checked x = .ok y ↔ FitsInt x ∧ y = x := by
  unfold checked
  split
  · rename_i h
    simp [h, eq_comm]
  · rename_i h
    simp [h]

theorem tokenAt_eq_ok {token : List (List Character)} {i : Nat} {text : List Character} :
    tokenAt token i = .ok text ↔ token[i]? = some text := by
  unfold tokenAt
  split
  · rename_i h
    simp [h]
  · rename_i h
    simp [h]

/-- The value that the parser takes from a token, `Int(token[i]) ?? 0`. -/
def tokenValue (token : List (List Character)) (i : Nat) : ℤ :=
  ((token[i]?).bind parseInt).getD 0

theorem tokenValue_of_getElem? {token : List (List Character)} {i : Nat} {text : List Character}
    (h : token[i]? = some text) : tokenValue token i = (parseInt text).getD 0 := by
  rw [tokenValue, h]
  rfl

theorem exists_token {token : List (List Character)} {i : Nat} :
    (∃ text, token[i]? = some text) ↔ i < token.length := by
  rw [← Option.isSome_iff_exists]
  simp

/-! ## What a token can be -/

theorem mapM_scalar?_eq_some {text : List Character} {scalars : List Char} :
    text.mapM Character.scalar? = some scalars ↔ text = scalars.map .scalar := by
  induction text generalizing scalars with
  | nil => cases scalars <;> simp
  | cons character text ih =>
    rw [List.mapM_cons]
    cases character with
    | scalar c =>
      cases scalars with
      | nil => simp [Character.scalar?, Option.bind_eq_some_iff]
      | cons c' scalars =>
        simp [Character.scalar?, Option.bind_eq_some_iff, ih, and_comm]
    | cluster cs => cases scalars <;> simp [Character.scalar?]

theorem digitsValue_eq_some {digits : List Char} {v : ℤ} :
    digitsValue digits = some v ↔
      digits ≠ [] ∧ (∀ c ∈ digits, c.isDigit = true) ∧ v = Nat.ofDigitChars 10 digits 0 := by
  rw [digitsValue, Option.ite_none_right_eq_some, List.all_eq_true, and_assoc, Option.some.injEq,
    eq_comm (a := v)]

theorem digitsValue_lt {digits : List Char} {v : ℤ} (h : digitsValue digits = some v) :
    0 ≤ v ∧ v < 10 ^ digits.length := by
  obtain ⟨-, hdigit, rfl⟩ := digitsValue_eq_some.mp h
  exact ⟨Int.natCast_nonneg _, by exact_mod_cast Nat.ofDigitChars_lt hdigit⟩

/-- A text is parsed to a number with no more digits than it has characters. -/
theorem parseInt_lt {text : List Character} {v : ℤ} (h : parseInt text = some v) :
    -10 ^ text.length < v ∧ v < 10 ^ text.length := by
  obtain ⟨scalars, hscalars, h⟩ := Option.bind_eq_some_iff.mp h
  obtain ⟨value, hvalue, h⟩ := Option.bind_eq_some_iff.mp h
  obtain rfl := Option.some.inj (Option.ite_none_right_eq_some.mp h).2
  obtain rfl := mapM_scalar?_eq_some.mp hscalars
  rw [List.length_map]
  cases scalars with
  | nil => cases hvalue
  | cons c digits =>
    have hpow : (10 : ℤ) ^ (c :: digits).length = 10 * 10 ^ digits.length := by
      rw [List.length_cons, Int.pow_succ, Int.mul_comm]
    rw [signedValue] at hvalue
    split at hvalue
    · -- the sign counts as a character too
      have hlt := digitsValue_lt hvalue
      omega
    · split at hvalue
      · obtain ⟨value, hdigits, rfl⟩ := Option.map_eq_some_iff.mp hvalue
        have hlt := digitsValue_lt hdigits
        omega
      · have hlt := digitsValue_lt hvalue
        omega

section Branches

variable {totalTime : List Character} {token : List (List Character)} {newVal : ℤ}

/-- With more than five characters the parser reads hours, minutes and seconds. -/
theorem convertHoursToFloat_of_hours (htoken : totalTime.splitOn (.scalar ':') = token)
    (hcount : 5 < totalTime.length) :
    convertHoursToFloat totalTime = .ok newVal ↔
      2 < token.length ∧ FitsInt (tokenValue token 0 * 3600) ∧ FitsInt (tokenValue token 1 * 60) ∧
      FitsInt (tokenValue token 0 * 3600 + tokenValue token 1 * 60) ∧
      FitsInt (tokenValue token 0 * 3600 + tokenValue token 1 * 60 + tokenValue token 2) ∧
      newVal = tokenValue token 0 * 3600 + tokenValue token 1 * 60 + tokenValue token 2 := by
  subst htoken
  simp only [convertHoursToFloat, gt_iff_lt, if_pos hcount, Except.bind_eq_ok, tokenAt_eq_ok,
    checked_eq_ok]
  constructor
  · rintro ⟨t₀, h₀, _, ⟨hfits₀, rfl⟩, t₁, h₁, _, ⟨hfits₁, rfl⟩, _, ⟨hfits, rfl⟩, t₂, h₂, hfits₂, rfl⟩
    rw [tokenValue_of_getElem? h₀, tokenValue_of_getElem? h₁, tokenValue_of_getElem? h₂]
    exact ⟨exists_token.mp ⟨t₂, h₂⟩, hfits₀, hfits₁, hfits, hfits₂, rfl⟩
  · rintro ⟨hlen, hfits₀, hfits₁, hfits, hfits₂, rfl⟩
    obtain ⟨t₀, h₀⟩ := exists_token.mpr (Nat.lt_of_succ_lt (Nat.lt_of_succ_lt hlen))
    obtain ⟨t₁, h₁⟩ := exists_token.mpr (Nat.lt_of_succ_lt hlen)
    obtain ⟨t₂, h₂⟩ := exists_token.mpr hlen
    rw [tokenValue_of_getElem? h₀] at *
    rw [tokenValue_of_getElem? h₁] at *
    rw [tokenValue_of_getElem? h₂] at *
    exact ⟨t₀, h₀, _, ⟨hfits₀, rfl⟩, t₁, h₁, _, ⟨hfits₁, rfl⟩, _, ⟨hfits, rfl⟩, t₂, h₂, hfits₂, rfl⟩

/-- The tokens of a string are no longer than the string. -/
theorem tokenValue_lt (htoken : totalTime.splitOn (.scalar ':') = token)
    (hcount : totalTime.length ≤ 5) (i : Nat) :
    -10 ^ 5 < tokenValue token i ∧ tokenValue token i < 10 ^ 5 := by
  subst htoken
  cases htext : (totalTime.splitOn (.scalar ':'))[i]? with
  | none => simp [tokenValue, htext]
  | some text =>
    rw [tokenValue_of_getElem? htext]
    cases hvalue : parseInt text with
    | none => simp
    | some v =>
      have hlen := List.length_le_of_mem_splitOn (List.mem_of_getElem? htext)
      have hpow : (10 : ℤ) ^ text.length ≤ 10 ^ 5 := by
        exact_mod_cast Nat.pow_le_pow_right (by decide) (Nat.le_trans hlen hcount)
      have hlt := parseInt_lt hvalue
      rw [Option.getD_some]
      omega

/-- With four or five characters it reads minutes and seconds, and nothing overflows. -/
theorem convertHoursToFloat_of_minutes (htoken : totalTime.splitOn (.scalar ':') = token)
    (hcount : 3 < totalTime.length) (hcount' : totalTime.length ≤ 5) :
    convertHoursToFloat totalTime = .ok newVal ↔
      1 < token.length ∧ newVal = tokenValue token 0 * 60 + tokenValue token 1 := by
  have hfits := tokenValue_lt htoken hcount' 0
  have hfits' := tokenValue_lt htoken hcount' 1
  subst htoken
  simp only [convertHoursToFloat, gt_iff_lt, if_neg (Nat.not_lt.mpr hcount'), if_pos hcount,
    Except.bind_eq_ok, tokenAt_eq_ok, checked_eq_ok, Int.zero_add]
  constructor
  · rintro ⟨t₀, h₀, _, ⟨-, rfl⟩, _, ⟨-, rfl⟩, t₁, h₁, -, rfl⟩
    rw [tokenValue_of_getElem? h₀, tokenValue_of_getElem? h₁]
    exact ⟨exists_token.mp ⟨t₁, h₁⟩, rfl⟩
  · rintro ⟨hlen, rfl⟩
    obtain ⟨t₀, h₀⟩ := exists_token.mpr (Nat.lt_of_succ_lt hlen)
    obtain ⟨t₁, h₁⟩ := exists_token.mpr hlen
    rw [tokenValue_of_getElem? h₀] at *
    rw [tokenValue_of_getElem? h₁] at *
    have hproduct : FitsInt ((parseInt t₀).getD 0 * 60) := by
      unfold FitsInt
      omega
    have hsum : FitsInt ((parseInt t₀).getD 0 * 60 + (parseInt t₁).getD 0) := by
      unfold FitsInt
      omega
    exact ⟨t₀, h₀, _, ⟨hproduct, rfl⟩, _, ⟨hproduct, rfl⟩, t₁, h₁, hsum, rfl⟩

/-- With at most three characters it reads seconds only. -/
theorem convertHoursToFloat_of_seconds (htoken : totalTime.splitOn (.scalar ':') = token)
    (hcount : totalTime.length ≤ 3) :
    convertHoursToFloat totalTime = .ok newVal ↔ newVal = tokenValue token 0 := by
  have hfits := tokenValue_lt htoken (by omega) 0
  subst htoken
  obtain ⟨t₀, h₀⟩ := exists_token.mpr
    (List.length_pos_iff.mpr (List.splitOn_ne_nil (Character.scalar ':') totalTime))
  rw [tokenValue_of_getElem? h₀] at *
  have hvalue : FitsInt ((parseInt t₀).getD 0) := by
    unfold FitsInt
    omega
  simp [convertHoursToFloat, show ¬ 5 < totalTime.length by omega,
    show ¬ 3 < totalTime.length by omega, tokenAt_eq_ok.mpr h₀, checked_eq_ok, hvalue]

end Branches

/-- The strings that the parser gets through: those with enough tokens for the fields that it
    reads, whose hours and minutes do not overflow. -/
def EnoughTokens (totalTime : List Character) : Prop :=
  let token := totalTime.splitOn (.scalar ':')
  if totalTime.length > 5 then
    2 < token.length ∧ FitsInt (tokenValue token 0 * 3600) ∧ FitsInt (tokenValue token 1 * 60) ∧
      FitsInt (tokenValue token 0 * 3600 + tokenValue token 1 * 60) ∧
      FitsInt (tokenValue token 0 * 3600 + tokenValue token 1 * 60 + tokenValue token 2)
  else if totalTime.length > 3 then 1 < token.length
  else True

theorem exists_convertHoursToFloat_iff (totalTime : List Character) :
    (∃ newVal, convertHoursToFloat totalTime = .ok newVal) ↔ EnoughTokens totalTime := by
  unfold EnoughTokens
  by_cases hhours : 5 < totalTime.length
  · simp [hhours, convertHoursToFloat_of_hours rfl hhours]
  · by_cases hminutes : 3 < totalTime.length
    · simp [hhours, hminutes, convertHoursToFloat_of_minutes rfl hminutes (Nat.not_lt.mp hhours)]
    · simp [hhours, hminutes, convertHoursToFloat_of_seconds rfl (Nat.not_lt.mp hminutes)]

/-! ## Durations -/

/-- A non-empty run of decimal digits. -/
structure DigitRun where
  digits : List Char
  ne_nil : digits ≠ []
  isDigit : ∀ c ∈ digits, c.isDigit = true

namespace DigitRun

/-- The characters of a run. -/
def text (run : DigitRun) : List Character := run.digits.map .scalar

/-- The number that a run denotes. -/
def value (run : DigitRun) : Nat := Nat.ofDigitChars 10 run.digits 0

/-- The run of a number without leading zeros. -/
def unpadded (n : Nat) : DigitRun where
  digits := Nat.toDigits 10 n
  ne_nil := Nat.toDigits_ne_nil
  isDigit _ hc := Nat.isDigit_of_mem_toDigits (by decide) (by decide) hc

/-- The run of a number with at least two digits. -/
def padded (n : Nat) : DigitRun where
  digits := Nat.toPaddedDigits n
  ne_nil := List.ne_nil_of_length_pos
    (Nat.lt_of_lt_of_le Nat.zero_lt_two (Nat.two_le_length_toPaddedDigits n))
  isDigit _ hc := Nat.isDigit_of_mem_toPaddedDigits hc

@[simp] theorem value_padded (n : Nat) : (padded n).value = n :=
  Nat.ofDigitChars_toPaddedDigits n

theorem length_text_pos (run : DigitRun) : 0 < run.text.length := by
  rw [text, List.length_map]
  exact List.length_pos_iff.mpr run.ne_nil

theorem colon_notMem_text (run : DigitRun) : Character.scalar ':' ∉ run.text := by
  intro h
  obtain ⟨c, hc, heq⟩ := List.mem_map.mp h
  obtain rfl := Character.scalar.inj heq
  exact absurd (run.isDigit _ hc) (by decide)

/-- A run is parsed to its number, if that is in range. -/
theorem parseInt_text (run : DigitRun) (h : FitsInt run.value) :
    parseInt run.text = some (run.value : ℤ) := by
  obtain ⟨c, digits, hdigits⟩ := List.exists_cons_of_ne_nil run.ne_nil
  have hc := run.isDigit c (hdigits ▸ List.mem_cons_self)
  have hvalue : signedValue run.digits = some (run.value : ℤ) := by
    rw [hdigits, signedValue, if_neg, if_neg, ← hdigits]
    · exact digitsValue_eq_some.mpr ⟨run.ne_nil, run.isDigit, rfl⟩
    -- a digit is no sign
    · rintro rfl
      exact absurd hc (by decide)
    · rintro rfl
      exact absurd hc (by decide)
  rw [parseInt, text, mapM_scalar?_eq_some.mpr rfl]
  simp only [Option.bind_eq_bind, Option.bind_some, hvalue, if_pos h]

end DigitRun

/-- A duration of one, two or three fields. -/
inductive Duration where
  | seconds (s : DigitRun)
  | minutes (m s : DigitRun)
  | hours (h m s : DigitRun)

namespace Duration

def fields : Duration → List DigitRun
  | seconds s => [s]
  | minutes m s => [m, s]
  | hours h m s => [h, m, s]

/-- The fields separated by colons. -/
def text (duration : Duration) : List Character :=
  [Character.scalar ':'].intercalate (duration.fields.map DigitRun.text)

/-- The number of seconds. -/
def total : Duration → Nat
  | seconds s => s.value
  | minutes m s => 60 * m.value + s.value
  | hours h m s => 3600 * h.value + 60 * m.value + s.value

/-- The durations that the parser reads right: those with as many fields as it takes their
    length for, and the zeros `0:0` and `0:0:0`. -/
def Recognized (duration : Duration) : Prop :=
  match duration with
  | seconds _ => duration.text.length ≤ 3
  | minutes _ _ => 3 < duration.text.length ∧ duration.text.length ≤ 5 ∨
      duration.text.length = 3 ∧ duration.total = 0
  | hours _ _ _ => 5 < duration.text.length ∨ duration.total = 0

theorem text_minutes (m s : DigitRun) :
    (minutes m s).text = m.text ++ .scalar ':' :: s.text := by
  simp [text, fields]

theorem text_hours (h m s : DigitRun) :
    (hours h m s).text = h.text ++ .scalar ':' :: (m.text ++ .scalar ':' :: s.text) := by
  simp [text, fields]

theorem three_le_length_text (m s : DigitRun) : 3 ≤ (minutes m s).text.length := by
  have hm := m.length_text_pos
  have hs := s.length_text_pos
  simp only [text_minutes, List.length_append, List.length_cons]
  omega

theorem five_le_length_text (h m s : DigitRun) : 5 ≤ (hours h m s).text.length := by
  have hh := h.length_text_pos
  have hm := m.length_text_pos
  have hs := s.length_text_pos
  simp only [text_hours, List.length_append, List.length_cons]
  omega

theorem splitOn_text (duration : Duration) :
    duration.text.splitOn (.scalar ':') = duration.fields.map DigitRun.text := by
  apply List.splitOn_intercalate
  · intro l hl
    obtain ⟨run, -, rfl⟩ := List.mem_map.mp hl
    exact run.colon_notMem_text
  · cases duration <;> simp [fields]

/-- The tokens of the text are the fields. -/
theorem tokenValue_text (duration : Duration) (h : ∀ run ∈ duration.fields, FitsInt run.value)
    (i : Nat) :
    tokenValue (duration.fields.map DigitRun.text) i =
      (duration.fields[i]?.map fun run => (run.value : ℤ)).getD 0 := by
  rw [tokenValue, List.getElem?_map]
  cases hrun : duration.fields[i]? with
  | none => rfl
  | some run =>
    have hparse := run.parseInt_text (h run (List.mem_of_getElem? hrun))
    simp [hparse]

/-- The fields of a duration are in range if its total is. -/
theorem fitsInt_of_mem_fields {duration : Duration} (h : FitsInt duration.total) :
    ∀ run ∈ duration.fields, FitsInt run.value := by
  intro run hrun
  have hle : run.value ≤ duration.total := by
    cases duration with
    | seconds s =>
      obtain rfl := List.mem_singleton.mp hrun
      exact Nat.le_refl _
    | minutes m s =>
      simp only [fields, List.mem_cons, List.not_mem_nil, or_false] at hrun
      rcases hrun with rfl | rfl <;> simp only [total] <;> omega
    | hours h m s =>
      simp only [fields, List.mem_cons, List.not_mem_nil, or_false] at hrun
      rcases hrun with rfl | rfl | rfl <;> simp only [total] <;> omega
  unfold FitsInt at *
  omega

/-- The parser gets through a long text only if it has all three fields. -/
theorem two_lt_length_fields {duration : Duration} {newVal : ℤ}
    (hcount : 5 < duration.text.length) (hok : convertHoursToFloat duration.text = .ok newVal) :
    2 < duration.fields.length := by
  have htokens := ((convertHoursToFloat_of_hours duration.splitOn_text hcount).mp hok).1
  rwa [List.length_map] at htokens

/-- And through one of four or five characters only if it has two of them. -/
theorem one_lt_length_fields {duration : Duration} {newVal : ℤ}
    (hcount : 3 < duration.text.length) (hcount' : duration.text.length ≤ 5)
    (hok : convertHoursToFloat duration.text = .ok newVal) : 1 < duration.fields.length := by
  have htokens := ((convertHoursToFloat_of_minutes duration.splitOn_text hcount hcount').mp hok).1
  rwa [List.length_map] at htokens

/-- The parser reads a duration right exactly if it is recognized. -/
theorem convertHoursToFloat_text_iff (duration : Duration) (h : FitsInt duration.total) :
    convertHoursToFloat duration.text = .ok (duration.total : ℤ) ↔ duration.Recognized := by
  have htoken := duration.splitOn_text
  have hvalue := duration.tokenValue_text (fitsInt_of_mem_fields h)
  unfold Recognized
  cases duration with
  | seconds s =>
    by_cases hseconds : (seconds s).text.length ≤ 3
    · rw [convertHoursToFloat_of_seconds htoken hseconds, hvalue]
      simp [fields, total, hseconds]
    · -- the parser takes it for more fields than it has
      refine iff_of_false (fun hok => ?_) hseconds
      by_cases hminutes : (seconds s).text.length ≤ 5
      · exact absurd (one_lt_length_fields (by omega) hminutes hok) (Nat.lt_irrefl 1)
      · exact absurd (two_lt_length_fields (by omega) hok) (by simp [fields])
  | minutes m s =>
    have hthree := three_le_length_text m s
    by_cases hseconds : (minutes m s).text.length ≤ 3
    · -- the parser reads the minutes as seconds
      rw [convertHoursToFloat_of_seconds htoken hseconds, hvalue]
      simp only [fields, total, List.getElem?_cons_zero, Option.map_some, Option.getD_some]
      omega
    · by_cases hminutes : (minutes m s).text.length ≤ 5
      · rw [convertHoursToFloat_of_minutes htoken (by omega) hminutes, hvalue, hvalue]
        simp only [fields, total, List.map_cons, List.map_nil, List.length_cons, List.length_nil,
          List.getElem?_cons_zero, List.getElem?_cons_succ, Option.map_some, Option.getD_some]
        omega
      · refine iff_of_false (fun hok => ?_) (by omega)
        exact absurd (two_lt_length_fields (by omega) hok) (Nat.lt_irrefl 2)
  | hours hh m s =>
    have hfive := five_le_length_text hh m s
    by_cases hminutes : (hours hh m s).text.length ≤ 5
    · -- the parser reads the hours as minutes and the minutes as seconds
      rw [convertHoursToFloat_of_minutes htoken (by omega) hminutes, hvalue, hvalue]
      simp only [fields, total, List.map_cons, List.map_nil, List.length_cons, List.length_nil,
        List.getElem?_cons_zero, List.getElem?_cons_succ, Option.map_some, Option.getD_some]
      omega
    · rw [convertHoursToFloat_of_hours htoken (by omega), hvalue, hvalue, hvalue]
      refine iff_of_true ?_ (.inl (by omega))
      simp only [fields, total, FitsInt, List.map_cons, List.map_nil, List.length_cons,
        List.length_nil, List.getElem?_cons_zero, List.getElem?_cons_succ, Option.map_some,
        Option.getD_some] at h ⊢
      omega

end Duration

/-- The parser gets through a string exactly if that has enough tokens for what its length
    makes the parser read, and no overflow; and it reads the string of a duration whose total
    is in range right exactly if its length fits the number of fields, or the total is zero. -/
theorem duration_parser_iff (totalTime : List Character) :
    ((∃ newVal, convertHoursToFloat totalTime = .ok newVal) ↔ EnoughTokens totalTime) ∧
    ∀ duration : Duration, duration.text = totalTime → FitsInt duration.total →
      (convertHoursToFloat totalTime = .ok (duration.total : ℤ) ↔ duration.Recognized) := by
  refine ⟨exists_convertHoursToFloat_iff totalTime, ?_⟩
  rintro duration rfl hfits
  exact duration.convertHoursToFloat_text_iff hfits

/-- One minute and two seconds, `1:2`. -/
def oneTwo : Duration := .minutes (.unpadded 1) (.unpadded 2)

/-- The same with padded fields, `01:02`. -/
def oneTwoPadded : Duration := .minutes (.padded 1) (.padded 2)

theorem duration_parser_iff_oneTwoPadded : convertHoursToFloat oneTwoPadded.text = .ok 62 :=
  ((duration_parser_iff oneTwoPadded.text).2 oneTwoPadded rfl (by decide)).mpr
    (.inl ⟨by decide, by decide⟩)

/-- A string of four digits traps, and of `1:2` the parser reads the minute as a second. -/
theorem duration_parser_misreads :
    convertHoursToFloat (['1', '2', '3', '4'].map .scalar) = .error .indexOutOfRange ∧
    oneTwo.text = ['1', ':', '2'].map Character.scalar ∧ oneTwo.total = 62 ∧
    FitsInt oneTwo.total ∧ convertHoursToFloat oneTwo.text = .ok 1 :=
  ⟨rfl, rfl, rfl, by decide, rfl⟩

/-! ## What the formatter writes -/

/-- A number with at least two digits. -/
def paddedText (n : Nat) : List Character := (Nat.toPaddedDigits n).map .scalar

theorem description_natCast (n : Nat) :
    description (n : ℤ) = (Nat.toDigits 10 n).map Character.scalar := rfl

/-- Below ten the formatter adds a zero itself. -/
theorem paddedText_of_lt {n : Nat} (h : n < 10) :
    paddedText n = .scalar '0' :: description (n : ℤ) := by
  rw [paddedText, Nat.toPaddedDigits, if_pos h, List.map_cons, description_natCast]

theorem paddedText_of_le {n : Nat} (h : 10 ≤ n) : paddedText n = description (n : ℤ) := by
  rw [paddedText, Nat.toPaddedDigits, if_neg (Nat.not_lt.mpr h), description_natCast]

private theorem append_of_ite {c : Prop} [Decidable c] (val text : List Character) :
    (if c then val ++ text else val) = val ++ if c then text else [] := by
  split
  · rfl
  · rw [List.append_nil]

/-- The two branches for a field that is not zero write it padded. -/
theorem field_branches (val : List Character) (n : Nat) :
    (val ++
        if (n : ℤ) ≠ 0 ∧ (n : ℤ) < 10 then .scalar '0' :: description n ++ [.scalar ':'] else []) ++
        (if (n : ℤ) ≠ 0 ∧ (n : ℤ) ≥ 10 then description n ++ [.scalar ':'] else []) =
      val ++ if n = 0 then [] else paddedText n ++ [.scalar ':'] := by
  by_cases hzero : n = 0
  · simp [hzero]
  · rw [if_neg hzero]
    by_cases hlt : n < 10
    · rw [if_pos (by omega), if_neg (by omega), paddedText_of_lt hlt, List.append_nil]
    · rw [if_neg (by omega), if_pos (by omega), paddedText_of_le (Nat.not_lt.mp hlt),
        List.append_nil]

/-- The branch for zero minutes writes them padded too. -/
theorem zero_branch (val : List Character) (n : Nat) :
    (val ++ if n = 0 then [] else paddedText n ++ [.scalar ':']) ++
        (if (n : ℤ) = 0 then [.scalar '0', .scalar '0', .scalar ':'] else []) =
      val ++ (paddedText n ++ [.scalar ':']) := by
  by_cases hzero : n = 0
  · rw [hzero, if_pos rfl, List.append_nil]
    rfl
  · rw [if_neg hzero, if_neg (by omega), List.append_nil]

theorem seconds_branches (val : List Character) (n : Nat) :
    (if (n : ℤ) ≥ 10 then val ++ description n else val ++ .scalar '0' :: description n) =
      val ++ paddedText n := by
  by_cases hlt : n < 10
  · rw [if_neg (by omega), paddedText_of_lt hlt]
  · rw [if_pos (by omega), paddedText_of_le (Nat.not_lt.mp hlt)]

/-- The formatter writes padded fields, and no hours if there are none. -/
theorem secondsToHoursMinutesSecondsToString_natCast (n : Nat) :
    secondsToHoursMinutesSecondsToString n =
      (if n / 3600 = 0 then [] else paddedText (n / 3600) ++ [.scalar ':']) ++
        (paddedText (n % 3600 / 60) ++ .scalar ':' :: paddedText (n % 3600 % 60)) := by
  have hhours : (n : ℤ).tdiv 3600 = ((n / 3600 : Nat) : ℤ) := rfl
  have hminutes : ((n : ℤ).tmod 3600).tdiv 60 = ((n % 3600 / 60 : Nat) : ℤ) := rfl
  have hseconds : ((n : ℤ).tmod 3600).tmod 60 = ((n % 3600 % 60 : Nat) : ℤ) := rfl
  simp only [secondsToHoursMinutesSecondsToString, hhours, hminutes, hseconds, append_of_ite,
    seconds_branches]
  rw [field_branches, field_branches, zero_branch]
  simp

/-! ## Canonical times -/

namespace DigitRun

/-- Minutes and seconds of a canonical time: two digits below 60. -/
structure IsSexagesimal (run : DigitRun) : Prop where
  length : run.digits.length = 2
  lt : run.value < 60

/-- Hours of a canonical time: at least two digits and not zero, with a leading zero only in
    two digits, that is below 10. -/
structure IsHours (run : DigitRun) : Prop where
  two_le : 2 ≤ run.digits.length
  ne_zero : run.value ≠ 0
  leading : run.digits.head? = some '0' → run.digits.length = 2

theorem isSexagesimal_padded {n : Nat} (h : n < 60) : (padded n).IsSexagesimal where
  length := Nat.length_toPaddedDigits_of_lt (Nat.lt_trans h (by decide))
  lt := by rwa [value_padded]

theorem isHours_padded {n : Nat} (h : n ≠ 0) : (padded n).IsHours where
  two_le := Nat.two_le_length_toPaddedDigits n
  ne_zero := by rwa [value_padded]
  leading := Nat.length_toPaddedDigits_of_head?

/-- Such hours are written as they are. -/
theorem IsHours.paddedText_value {run : DigitRun} (h : run.IsHours) :
    paddedText run.value = run.text :=
  congrArg _ (Nat.toPaddedDigits_ofDigitChars run.isDigit h.two_le h.leading)

/-- And so are such minutes and seconds. -/
theorem IsSexagesimal.paddedText_value {run : DigitRun} (h : run.IsSexagesimal) :
    paddedText run.value = run.text :=
  congrArg _ (Nat.toPaddedDigits_ofDigitChars run.isDigit (Nat.le_of_eq h.length.symm)
    fun _ => h.length)

end DigitRun

namespace Duration

/-- `MM:SS`, or `H:MM:SS` with at least one hour. -/
def Canonical : Duration → Prop
  | seconds _ => False
  | minutes m s => m.IsSexagesimal ∧ s.IsSexagesimal
  | hours h m s => h.IsHours ∧ m.IsSexagesimal ∧ s.IsSexagesimal

/-- The canonical time of a number of seconds. -/
def ofSeconds (n : Nat) : Duration :=
  if n / 3600 = 0 then minutes (.padded (n % 3600 / 60)) (.padded (n % 3600 % 60))
  else hours (.padded (n / 3600)) (.padded (n % 3600 / 60)) (.padded (n % 3600 % 60))

theorem canonical_ofSeconds (n : Nat) : (ofSeconds n).Canonical := by
  have hm : (DigitRun.padded (n % 3600 / 60)).IsSexagesimal :=
    DigitRun.isSexagesimal_padded (by omega)
  have hs : (DigitRun.padded (n % 3600 % 60)).IsSexagesimal :=
    DigitRun.isSexagesimal_padded (by omega)
  unfold ofSeconds
  split
  · exact ⟨hm, hs⟩
  · rename_i hne
    exact ⟨DigitRun.isHours_padded hne, hm, hs⟩

@[simp] theorem total_ofSeconds (n : Nat) : (ofSeconds n).total = n := by
  unfold ofSeconds
  split <;> simp only [total, DigitRun.value_padded] <;> omega

/-- The parser recognizes canonical times. -/
theorem Canonical.recognized {duration : Duration} (h : duration.Canonical) :
    duration.Recognized := by
  unfold Recognized
  cases duration with
  | seconds s => exact h.elim
  | minutes m s =>
    obtain ⟨hm, hs⟩ := h
    simp only [text_minutes, DigitRun.text, List.length_append, List.length_cons, List.length_map,
      hm.length, hs.length]
    omega
  | hours hh m s =>
    obtain ⟨hhours, hm, hs⟩ := h
    have htwo := hhours.two_le
    simp only [text_hours, DigitRun.text, List.length_append, List.length_cons, List.length_map,
      hm.length, hs.length]
    omega

/-- The formatter writes the total of a canonical time as that time. -/
theorem Canonical.secondsToHoursMinutesSecondsToString_total {duration : Duration}
    (h : duration.Canonical) :
    secondsToHoursMinutesSecondsToString duration.total = duration.text := by
  rw [secondsToHoursMinutesSecondsToString_natCast]
  cases duration with
  | seconds s => exact h.elim
  | minutes m s =>
    obtain ⟨hm, hs⟩ := h
    have hlt := hm.lt
    have hlt' := hs.lt
    rw [total, if_pos (by omega), show (60 * m.value + s.value) % 3600 / 60 = m.value by omega,
      show (60 * m.value + s.value) % 3600 % 60 = s.value by omega, hm.paddedText_value,
      hs.paddedText_value, text_minutes, List.nil_append]
  | hours hh m s =>
    obtain ⟨hhours, hm, hs⟩ := h
    have hlt := hm.lt
    have hlt' := hs.lt
    have hne := hhours.ne_zero
    rw [total, if_neg (by omega),
      show (3600 * hh.value + 60 * m.value + s.value) / 3600 = hh.value by omega,
      show (3600 * hh.value + 60 * m.value + s.value) % 3600 / 60 = m.value by omega,
      show (3600 * hh.value + 60 * m.value + s.value) % 3600 % 60 = s.value by omega,
      hhours.paddedText_value, hm.paddedText_value, hs.paddedText_value, text_hours]
    simp

end Duration

/-- Parsing what the formatter writes of a number of seconds gives the number back, and
    formatting what the parser reads of a canonical time gives the time back. -/
theorem time_round_trip :
    (∀ seconds : ℤ, 0 ≤ seconds → FitsInt seconds →
      convertHoursToFloat (secondsToHoursMinutesSecondsToString seconds) = .ok seconds) ∧
    (∀ duration : Duration, duration.Canonical → FitsInt duration.total →
      ∃ newVal, convertHoursToFloat duration.text = .ok newVal ∧
        secondsToHoursMinutesSecondsToString newVal = duration.text) := by
  constructor
  · intro seconds hnonneg hfits
    obtain ⟨n, rfl⟩ := Int.eq_ofNat_of_zero_le hnonneg
    have hcanonical := Duration.canonical_ofSeconds n
    have htext := hcanonical.secondsToHoursMinutesSecondsToString_total
    have hparse := (Duration.ofSeconds n).convertHoursToFloat_text_iff
    rw [Duration.total_ofSeconds] at htext hparse
    rw [htext]
    exact (hparse hfits).mpr hcanonical.recognized
  · intro duration hcanonical hfits
    exact ⟨duration.total, (duration.convertHoursToFloat_text_iff hfits).mpr hcanonical.recognized,
      hcanonical.secondsToHoursMinutesSecondsToString_total⟩

theorem time_round_trip_max :
    convertHoursToFloat (secondsToHoursMinutesSecondsToString 9223372036854775807) =
        .ok 9223372036854775807 ∧
      ∃ newVal, convertHoursToFloat (Duration.ofSeconds 35999).text = .ok newVal ∧
        secondsToHoursMinutesSecondsToString newVal = (Duration.ofSeconds 35999).text :=
  ⟨time_round_trip.1 9223372036854775807 (by decide) (by decide),
    time_round_trip.2 (Duration.ofSeconds 35999) (Duration.canonical_ofSeconds 35999) (by decide)⟩

end BingePodcast
