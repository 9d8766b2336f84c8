import BingePodcast.ForStd.Except
import Mathlib.Data.Int.Notation

/-!
# Time strings

`secondsToHoursMinutesSecondsToString` of `UIString.swift` and `convertHoursToFloat` of
`UIFloat.swift`. Both depend on what a string counts and is split into, which in Swift are
grapheme clusters, and on the range of a 64-bit `Int`, outside which arithmetic traps.
-/

namespace BingePodcast

/-- A Swift `Character`: a grapheme cluster of one Unicode scalar or of several. -/
inductive Character where
  | scalar (c : Char)
  | cluster (scalars : List Char)
deriving DecidableEq, Repr

/-- The scalar of a `Character` that has only one. -/
def Character.scalar? : Character → Option Char
  | .scalar c => some c
  | .cluster _ => none

/-- The ways the functions on time strings stop the app. -/
inductive TimeTrap where
  /-- An array access outside the bounds. -/
  | indexOutOfRange
  /-- A result that is no 64-bit `Int`. -/
  | overflow
deriving DecidableEq, Repr

/-- The range of a 64-bit `Int`, from `Int.min` to `Int.max`. -/
def FitsInt (x : ℤ) : Prop := -9223372036854775808 ≤ x ∧ x ≤ 9223372036854775807

instance (x : ℤ) : Decidable (FitsInt x) := inferInstanceAs (Decidable (_ ∧ _))

/-- The result of an arithmetic operation on `Int`. -/
def checked (x : ℤ) : Except TimeTrap ℤ :=
  if FitsInt x then .ok x else .error .overflow

/-- The array access `token[i]`. -/
def tokenAt (token : List (List Character)) (i : Nat) : Except TimeTrap (List Character) :=
  match token[i]? with
  | some text => .ok text
  | none => .error .indexOutOfRange

/-- The value of decimal digits, at least one. -/
def digitsValue (digits : List Char) : Option ℤ :=
  if digits ≠ [] ∧ digits.all Char.isDigit then some (Nat.ofDigitChars 10 digits 0) else none

/-- The value of decimal digits with an optional sign. -/
def signedValue (scalars : List Char) : Option ℤ :=
  match scalars with
  | [] => none
  | c :: digits =>
    if c = '+' then digitsValue digits
    else if c = '-' then (digitsValue digits).map (- ·)
    else digitsValue scalars

/-- `Int(text)`: decimal digits with an optional sign, if their value is in range. -/
def parseInt (text : List Character) : Option ℤ := do
  let scalars ← text.mapM Character.scalar?
  let value ← signedValue scalars
  if FitsInt value then some value else none

/-- `convertHoursToFloat(totalTime:)` -/
def convertHoursToFloat (totalTime : List Character) : Except TimeTrap ℤ := do
  let token := totalTime.splitOn (.scalar ':')
  if totalTime.length > 5 then
    let newVal ← checked ((parseInt (← tokenAt token 0)).getD 0 * 3600)
    let newVal ← checked (newVal + (← checked ((parseInt (← tokenAt token 1)).getD 0 * 60)))
    checked (newVal + (parseInt (← tokenAt token 2)).getD 0)
  else if totalTime.length > 3 then
    let newVal ← checked (0 + (← checked ((parseInt (← tokenAt token 0)).getD 0 * 60)))
    checked (newVal + (parseInt (← tokenAt token 1)).getD 0)
  else
    checked (0 + (parseInt (← tokenAt token 0)).getD 0)

/-- The text of an `Int` in a string, `"\\(i)"`. -/
def description (i : ℤ) : List Character :=
  match i with
  | .ofNat n => (Nat.toDigits 10 n).map .scalar
  | .negSucc n => .scalar '-' :: (Nat.toDigits 10 (n + 1)).map .scalar

/-- `secondsToHoursMinutesSecondsToString(_:)`; division of `Int` truncates. -/
def secondsToHoursMinutesSecondsToString (seconds : ℤ) : List Character :=
  let hours := seconds.tdiv 3600
  let minutes := (seconds.tmod 3600).tdiv 60
  let seconds := (seconds.tmod 3600).tmod 60
  let zero := Character.scalar '0'
  let colon := Character.scalar ':'
  let val := []
  let val := if hours ≠ 0 ∧ hours < 10 then val ++ (zero :: description hours ++ [colon]) else val
  let val := if hours ≠ 0 ∧ hours ≥ 10 then val ++ (description hours ++ [colon]) else val
  let val := if minutes ≠ 0 ∧ minutes < 10 then val ++ (zero :: description minutes ++ [colon])
    else val
  let val := if minutes ≠ 0 ∧ minutes ≥ 10 then val ++ (description minutes ++ [colon]) else val
  let val := if minutes = 0 then val ++ [zero, zero, colon] else val
  if seconds ≥ 10 then val ++ description seconds else val ++ zero :: description seconds

end BingePodcast
