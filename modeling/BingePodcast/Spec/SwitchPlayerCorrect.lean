import BingePodcast.Native.SwitchPlayer
import Mathlib.Algebra.Order.Field.Basic
import Mathlib.Algebra.Order.Field.Rat
import Mathlib.Tactic.Linarith

/-!
# The ends of the slide-to-play switch

A tap and a pan that ends leave the switch at one of its two ends. A pan that is cancelled or
fails leaves it where it was dragged. This file says where that is, and from this exactly
which gestures leave the switch at rest.

## Key results

- `SwitchPlayer.withinBounds_imageTapped`, `SwitchPlayer.withinBounds_handlePanGesture`: nothing
  leads the circle and the alpha out of their bounds
- `SwitchPlayer.handlePanGesture_changed`: what one more translation of a pan does
- `switch_player_rests_iff`: the switch is at rest after every gesture of a run exactly when
  each pan that is cancelled or fails has left it as it was
-/

namespace BingePodcast

open Constants_SwitchPlayer

namespace SwitchPlayer

variable {bounds : SwitchPlayerBounds} {player : SwitchPlayer} {x : ℚ}

/-! ## The two ends -/

/-- Not finished, with the circle at the left. -/
def atStart : SwitchPlayer where
  isFinished := false
  leftContainerImageCircleViewConstraint := some 7
  leftTextStackViewConstraint := some 105
  alpha := 1

/-- Finished, with the circle at the right. -/
def atEnd (bounds : SwitchPlayerBounds) : SwitchPlayer where
  isFinished := true
  leftContainerImageCircleViewConstraint := some bounds.xEndingPoint
  leftTextStackViewConstraint := some 25
  alpha := 1

/-- The switch rests at one of its ends. -/
def Rests (bounds : SwitchPlayerBounds) (player : SwitchPlayer) : Prop :=
  player = atStart ∨ player = atEnd bounds

instance (bounds : SwitchPlayerBounds) (player : SwitchPlayer) : Decidable (Rests bounds player) :=
  inferInstanceAs (Decidable (_ ∨ _))

/-- The constraints exist, the circle is between its ends and the alpha between 0 and 1. -/
structure WithinBounds (bounds : SwitchPlayerBounds) (player : SwitchPlayer) : Prop where
  circle : ∃ x, player.leftContainerImageCircleViewConstraint = some x ∧
    marginContainerImage ≤ x ∧ x ≤ bounds.xEndingPoint
  text : player.leftTextStackViewConstraint.isSome
  alpha_nonneg : 0 ≤ player.alpha
  alpha_le : player.alpha ≤ 1

/-- `active` brings every switch that has its constraints to an end, whatever the action. -/
theorem active_eq (hcircle : player.leftContainerImageCircleViewConstraint.isSome)
    (htext : player.leftTextStackViewConstraint.isSome) (action : Action) :
    player.active bounds action = if player.isFinished then atEnd bounds else atStart := by
  obtain ⟨circle, hcircle⟩ := Option.isSome_iff_exists.mp hcircle
  obtain ⟨text, htext⟩ := Option.isSome_iff_exists.mp htext
  cases hfinished : player.isFinished with
  | true =>
    simp only [active, hfinished, updateTextSkatXPosition, updateContainerImageCircleXPosition,
      hcircle, htext, Option.map_some, if_true]
    rfl
  | false =>
    simp only [active, hfinished, updateTextSkatXPosition, reset,
      updateContainerImageCircleXPosition, hcircle, htext, Option.map_some, Bool.false_eq_true,
      if_false]
    rfl

/-- A tap leads to the other end. -/
theorem imageTapped_eq (h : WithinBounds bounds player) :
    player.imageTapped bounds = if player.isFinished then atStart else atEnd bounds := by
  obtain ⟨circle, hcircle, -⟩ := h.circle
  rw [imageTapped, active_eq]
  · cases player.isFinished with
    | true => rfl
    | false => rfl
  · exact Option.isSome_of_eq_some hcircle
  · exact h.text

theorem rests_imageTapped (h : WithinBounds bounds player) :
    Rests bounds (player.imageTapped bounds) := by
  rw [imageTapped_eq h]
  split
  · exact .inl rfl
  · exact .inr rfl

/-- A finished switch ignores pans. -/
theorem handlePanGesture_of_finished (h : player.isFinished = true) (state : PanState) :
    player.handlePanGesture bounds state x = player := by
  unfold handlePanGesture
  rw [if_pos h]

/-- Only translations and the end of a pan change anything. -/
theorem handlePanGesture_of_ne {state : PanState} (hchanged : state ≠ .changed)
    (hended : state ≠ .ended) : player.handlePanGesture bounds state x = player := by
  unfold handlePanGesture
  split
  · rfl
  · cases state with
    | changed => exact absurd rfl hchanged
    | ended => exact absurd rfl hended
    | began => rfl
    | cancelled => rfl
    | failed => rfl

/-- A pan that ends far enough leads to the right end. -/
theorem handlePanGesture_ended_of_le
    (hcircle : player.leftContainerImageCircleViewConstraint.isSome)
    (htext : player.leftTextStackViewConstraint.isSome) (hunfinished : player.isFinished = false)
    (hx : bounds.xEndingPoint - 45 ≤ x) :
    player.handlePanGesture bounds .ended x = atEnd bounds := by
  simp only [handlePanGesture, hunfinished, Bool.false_eq_true, if_false, ge_iff_le, if_pos hx]
  rw [active_eq]
  · rfl
  · rwa [updateContainerImageCircleXPosition, Option.isSome_map]
  · exact htext

/-! ## Bounds -/

theorem withinBounds_atStart (hE : marginContainerImage < bounds.xEndingPoint) :
    WithinBounds bounds atStart :=
  ⟨⟨_, rfl, le_refl _, hE.le⟩, rfl, zero_le_one, le_refl _⟩

theorem withinBounds_atEnd (hE : marginContainerImage < bounds.xEndingPoint) :
    WithinBounds bounds (atEnd bounds) :=
  ⟨⟨_, rfl, hE.le, le_refl _⟩, rfl, zero_le_one, le_refl _⟩

theorem Rests.withinBounds (hE : marginContainerImage < bounds.xEndingPoint)
    (h : Rests bounds player) : WithinBounds bounds player := by
  cases h with
  | inl hplayer => exact hplayer ▸ withinBounds_atStart hE
  | inr hplayer => exact hplayer ▸ withinBounds_atEnd hE

/-- A tap keeps the bounds. -/
theorem withinBounds_imageTapped (hE : marginContainerImage < bounds.xEndingPoint)
    (h : WithinBounds bounds player) : WithinBounds bounds (player.imageTapped bounds) :=
  (rests_imageTapped h).withinBounds hE

/-- So does moving the circle to a place between its ends. -/
theorem withinBounds_update (h : WithinBounds bounds player) (hx : marginContainerImage ≤ x)
    (hx' : x ≤ bounds.xEndingPoint) :
    WithinBounds bounds (player.updateContainerImageCircleXPosition x) := by
  obtain ⟨circle, hcircle, -⟩ := h.circle
  refine ⟨⟨x, ?_, hx, hx'⟩, h.text, h.alpha_nonneg, h.alpha_le⟩
  simp only [updateContainerImageCircleXPosition, hcircle, Option.map_some]

/-- The text fades between 1 and 0 as the circle is dragged. -/
theorem alpha_mem (hx : marginContainerImage < x) (hx' : x < bounds.xEndingPoint) :
    0 < (bounds.xEndingPoint - x) / (bounds.xEndingPoint + 60) ∧
      (bounds.xEndingPoint - x) / (bounds.xEndingPoint + 60) < 1 := by
  have hmargin : marginContainerImage = 7 := rfl
  have hpos : 0 < bounds.xEndingPoint + 60 := by linarith
  refine ⟨div_pos (by linarith) hpos, ?_⟩
  rw [div_lt_one hpos]
  linarith

/-- And so does every call of the action of a pan. -/
theorem withinBounds_handlePanGesture (hE : marginContainerImage < bounds.xEndingPoint)
    (h : WithinBounds bounds player) (state : PanState) (x : ℚ) :
    WithinBounds bounds (player.handlePanGesture bounds state x) := by
  cases hfinished : player.isFinished with
  | true =>
    rw [handlePanGesture_of_finished hfinished]
    exact h
  | false =>
    cases state with
    | changed =>
      simp only [handlePanGesture, hfinished, Bool.false_eq_true, if_false]
      split
      · exact withinBounds_update h (le_refl _) hE.le
      · rename_i hlt
        split
        · exact withinBounds_update h hE.le (le_refl _)
        · rename_i hlt'
          have halpha := alpha_mem (not_le.mp hlt) (not_le.mp hlt')
          have hmoved := withinBounds_update h (not_le.mp hlt).le (not_le.mp hlt').le
          exact ⟨hmoved.circle, hmoved.text, halpha.1.le, halpha.2.le⟩
    | ended =>
      by_cases hfar : bounds.xEndingPoint - 45 ≤ x
      · obtain ⟨circle, hcircle, -⟩ := h.circle
        rw [handlePanGesture_ended_of_le (Option.isSome_of_eq_some hcircle) h.text hfinished hfar]
        exact withinBounds_atEnd hE
      · simp only [handlePanGesture, hfinished, Bool.false_eq_true, if_false, ge_iff_le, if_neg hfar]
        have hreset := withinBounds_update h (le_refl _) hE.le
        exact ⟨hreset.circle, hreset.text, zero_le_one, le_refl _⟩
    | began => rwa [handlePanGesture_of_ne (by decide) (by decide)]
    | cancelled => rwa [handlePanGesture_of_ne (by decide) (by decide)]
    | failed => rwa [handlePanGesture_of_ne (by decide) (by decide)]

/-! ## Where a pan leaves the switch -/

/-- A translation that shows the circle between its ends. -/
def Between (bounds : SwitchPlayerBounds) (x : ℚ) : Prop :=
  marginContainerImage < x ∧ x < bounds.xEndingPoint

instance (bounds : SwitchPlayerBounds) (x : ℚ) : Decidable (Between bounds x) :=
  inferInstanceAs (Decidable (_ ∧ _))

/-- The circle is where the last translation of a pan has brought it. -/
def circleAfter (bounds : SwitchPlayerBounds) (translations : List ℚ) : ℚ :=
  match translations.getLast? with
  | none => marginContainerImage
  | some x => max marginContainerImage (min x bounds.xEndingPoint)

/-- The alpha is that of the last translation between the ends. -/
def alphaAfter (bounds : SwitchPlayerBounds) (translations : List ℚ) : ℚ :=
  match (translations.filter (Between bounds)).getLast? with
  | none => 1
  | some x => (bounds.xEndingPoint - x) / (bounds.xEndingPoint + 60)

/-- A switch that was at its start and is dragged. -/
def dragged (bounds : SwitchPlayerBounds) (translations : List ℚ) : SwitchPlayer where
  isFinished := false
  leftContainerImageCircleViewConstraint := some (circleAfter bounds translations)
  leftTextStackViewConstraint := some 105
  alpha := alphaAfter bounds translations

/-- A pan leaves the switch as it was: none of its translations was between the ends, and the
    last one was not beyond the start. -/
def Untouched (bounds : SwitchPlayerBounds) (translations : List ℚ) : Prop :=
  (∀ x ∈ translations, ¬ Between bounds x) ∧
    ∀ x ∈ translations.getLast?, x ≤ marginContainerImage

instance (bounds : SwitchPlayerBounds) (translations : List ℚ) :
    Decidable (Untouched bounds translations) :=
  inferInstanceAs (Decidable ((∀ x ∈ translations, _) ∧ ∀ x ∈ translations.getLast?, _))

@[simp] theorem circleAfter_concat (translations : List ℚ) (x : ℚ) :
    circleAfter bounds (translations ++ [x]) =
      max marginContainerImage (min x bounds.xEndingPoint) := by
  rw [circleAfter, List.getLast?_concat]

theorem alphaAfter_concat_of_between (translations : List ℚ) (h : Between bounds x) :
    alphaAfter bounds (translations ++ [x]) =
      (bounds.xEndingPoint - x) / (bounds.xEndingPoint + 60) := by
  have hfilter : [x].filter (Between bounds) = [x] := by simp [h]
  rw [alphaAfter, List.filter_append, hfilter, List.getLast?_concat]

theorem alphaAfter_concat_of_not_between (translations : List ℚ) (h : ¬ Between bounds x) :
    alphaAfter bounds (translations ++ [x]) = alphaAfter bounds translations := by
  have hfilter : [x].filter (Between bounds) = [] := by simp [h]
  rw [alphaAfter, List.filter_append, hfilter, List.append_nil, alphaAfter]

/-- One more translation moves the circle of a switch that is dragged. -/
theorem handlePanGesture_changed (hE : marginContainerImage < bounds.xEndingPoint)
    (translations : List ℚ) (x : ℚ) :
    (dragged bounds translations).handlePanGesture bounds .changed x =
      dragged bounds (translations ++ [x]) := by
  have hunfinished : (dragged bounds translations).isFinished = false := rfl
  have hconcat : dragged bounds (translations ++ [x]) =
      { dragged bounds translations with
        leftContainerImageCircleViewConstraint :=
          some (max marginContainerImage (min x bounds.xEndingPoint))
        alpha := alphaAfter bounds (translations ++ [x]) } := by
    simp only [dragged, circleAfter_concat]
  simp only [handlePanGesture, hunfinished, Bool.false_eq_true, if_false]
  rw [hconcat]
  split
  · rename_i hle
    rw [alphaAfter_concat_of_not_between translations fun h => not_lt.mpr hle h.1,
      max_eq_left (min_le_of_left_le hle)]
    rfl
  · rename_i hlt
    split
    · rename_i hle
      rw [alphaAfter_concat_of_not_between translations fun h => not_lt.mpr hle h.2,
        min_eq_right hle, max_eq_right hE.le]
      rfl
    · rename_i hlt'
      have hbetween : Between bounds x := ⟨not_le.mp hlt, not_le.mp hlt'⟩
      rw [alphaAfter_concat_of_between translations hbetween, min_eq_left hbetween.2.le,
        max_eq_right hbetween.1.le]
      rfl

/-- A pan that ends leaves the switch at rest. -/
theorem rests_handlePanGesture_ended (translations : List ℚ) (x : ℚ) :
    Rests bounds ((dragged bounds translations).handlePanGesture bounds .ended x) := by
  by_cases hfar : bounds.xEndingPoint - 45 ≤ x
  · exact .inr (handlePanGesture_ended_of_le rfl rfl rfl hfar)
  · left
    simp only [handlePanGesture, dragged, Bool.false_eq_true, if_false, ge_iff_le, if_neg hfar]
    rfl

theorem circleAfter_eq_iff (hE : marginContainerImage < bounds.xEndingPoint)
    (translations : List ℚ) :
    circleAfter bounds translations = marginContainerImage ↔
      ∀ x ∈ translations.getLast?, x ≤ marginContainerImage := by
  unfold circleAfter
  cases translations.getLast? with
  | none => simp
  | some x =>
    simp only [Option.mem_def, Option.some.injEq, forall_eq', max_eq_left_iff, min_le_iff]
    exact or_iff_left (not_le.mpr hE)

theorem alphaAfter_eq_one_iff (translations : List ℚ) :
    alphaAfter bounds translations = 1 ↔ ∀ x ∈ translations, ¬ Between bounds x := by
  unfold alphaAfter
  cases hlast : (translations.filter (Between bounds)).getLast? with
  | none =>
    have hnil := List.getLast?_eq_none_iff.mp hlast
    simpa using hnil
  | some x =>
    -- the alpha of a translation between the ends is below 1
    obtain ⟨hmem, hbetween⟩ := List.mem_filter.mp (List.mem_of_getLast? hlast)
    have hbetween := of_decide_eq_true hbetween
    have halpha := alpha_mem hbetween.1 hbetween.2
    exact iff_of_false halpha.2.ne fun h => h x hmem hbetween

/-- The switch that is dragged is at its start exactly when the pan leaves it as it was. -/
theorem dragged_eq_atStart_iff (hE : marginContainerImage < bounds.xEndingPoint)
    (translations : List ℚ) :
    dragged bounds translations = atStart ↔ Untouched bounds translations := by
  rw [dragged, atStart, mk.injEq, Option.some.injEq, alphaAfter_eq_one_iff, Untouched,
    ← circleAfter_eq_iff hE]
  tauto

end SwitchPlayer

/-! ## Runs of gestures -/

namespace SwitchPlayerGestures

open SwitchPlayer (Rests WithinBounds Untouched atStart atEnd dragged)

variable {bounds : SwitchPlayerBounds} {episode : Episode}
variable {gestures gestures' : SwitchPlayerGestures} {e : SwitchPlayerEvent}
variable {es : List SwitchPlayerEvent}

/-- In every run, at every moment, the circle and the alpha are within their bounds. -/
theorem withinBounds_of_run (hE : marginContainerImage < bounds.xEndingPoint)
    (himage : episode.imageUrl.isSome) (h : (machine bounds episode).Run es gestures) :
    WithinBounds bounds gestures.player := by
  refine h.invariant (I := fun gestures => WithinBounds bounds gestures.player) ?_ ?_
  · obtain ⟨imageUrl, himageUrl⟩ := Option.isSome_iff_exists.mp himage
    simp only [machine, SwitchPlayer.setup, himageUrl]
    exact SwitchPlayer.withinBounds_atStart hE
  · intro s e t hs _ hstep
    obtain rfl := Except.ok.inj hstep
    cases e with
    | imageTapped => exact SwitchPlayer.withinBounds_imageTapped hE hs
    | handlePanGesture state x => exact SwitchPlayer.withinBounds_handlePanGesture hE hs state x

/-- Between the gestures the switch rests. A pan finds it finished, or drags it from its start. -/
def Inv (bounds : SwitchPlayerBounds) (gestures : SwitchPlayerGestures) : Prop :=
  match gestures.pan with
  | none => Rests bounds gestures.player
  | some translations =>
    gestures.player = atEnd bounds ∨ gestures.player = dragged bounds translations

theorem inv_iff_rests (hpan : gestures.pan = none) :
    Inv bounds gestures ↔ Rests bounds gestures.player := by
  rw [Inv, hpan]

/-- The pan in progress has left the switch as it was. -/
def PanUntouched (bounds : SwitchPlayerBounds) (gestures : SwitchPlayerGestures) : Prop :=
  gestures.player.isFinished = true ∨
    ∀ translations ∈ gestures.pan, Untouched bounds translations

instance (bounds : SwitchPlayerBounds) (gestures : SwitchPlayerGestures) :
    Decidable (PanUntouched bounds gestures) :=
  inferInstanceAs (Decidable (_ ∨ ∀ translations ∈ gestures.pan, _))

/-- A pan stops by ending, or has left the switch as it was. -/
def Restores (bounds : SwitchPlayerBounds) (gestures : SwitchPlayerGestures) :
    SwitchPlayerEvent → Prop
  | .imageTapped => True
  | .handlePanGesture .began _ => True
  | .handlePanGesture .changed _ => True
  | .handlePanGesture .ended _ => True
  | .handlePanGesture .cancelled _ => PanUntouched bounds gestures
  | .handlePanGesture .failed _ => PanUntouched bounds gestures

instance (bounds : SwitchPlayerBounds) (gestures : SwitchPlayerGestures) (e : SwitchPlayerEvent) :
    Decidable (Restores bounds gestures e) :=
  match e with
  | .imageTapped => inferInstanceAs (Decidable True)
  | .handlePanGesture .began _ => inferInstanceAs (Decidable True)
  | .handlePanGesture .changed _ => inferInstanceAs (Decidable True)
  | .handlePanGesture .ended _ => inferInstanceAs (Decidable True)
  | .handlePanGesture .cancelled _ => inferInstanceAs (Decidable (PanUntouched bounds gestures))
  | .handlePanGesture .failed _ => inferInstanceAs (Decidable (PanUntouched bounds gestures))

/-- A switch with a pan in progress is at rest exactly when the pan has left it as it was. -/
theorem rests_iff_panUntouched (hE : marginContainerImage < bounds.xEndingPoint)
    (hinv : Inv bounds gestures) (hpan : gestures.pan.isSome) :
    Rests bounds gestures.player ↔ PanUntouched bounds gestures := by
  obtain ⟨translations, htranslations⟩ := Option.isSome_iff_exists.mp hpan
  simp only [Inv, htranslations] at hinv
  simp only [PanUntouched, htranslations, Option.mem_def, Option.some.injEq, forall_eq']
  cases hinv with
  | inl hplayer =>
    rw [hplayer]
    exact iff_of_true (.inr rfl) (.inl rfl)
  | inr hplayer =>
    have hnotEnd : dragged bounds translations ≠ atEnd bounds := fun heq =>
      Bool.false_ne_true (congrArg SwitchPlayer.isFinished heq)
    rw [hplayer, Rests, or_iff_left hnotEnd, SwitchPlayer.dragged_eq_atStart_iff hE]
    exact (or_iff_right (Bool.false_ne_true)).symm

/-- A pan that ends leaves the switch at rest, finished or dragged. -/
theorem rests_ended (hinv : Inv bounds gestures) (hpan : gestures.pan.isSome) (x : ℚ) :
    Rests bounds (gestures.player.handlePanGesture bounds .ended x) := by
  obtain ⟨translations, htranslations⟩ := Option.isSome_iff_exists.mp hpan
  simp only [Inv, htranslations] at hinv
  cases hinv with
  | inl hplayer =>
    rw [hplayer, SwitchPlayer.handlePanGesture_of_finished rfl]
    exact .inr rfl
  | inr hplayer =>
    rw [hplayer]
    exact SwitchPlayer.rests_handlePanGesture_ended translations x

/-- After a call the switch rests, if no pan is in progress, exactly when the call restores
    it. -/
theorem rests_step_iff (hE : marginContainerImage < bounds.xEndingPoint)
    (hinv : Inv bounds gestures) (hen : Enabled gestures e) :
    ((gestures.step bounds e).pan = none → Rests bounds (gestures.step bounds e).player) ↔
      Restores bounds gestures e := by
  cases e with
  | imageTapped =>
    have hrests := (inv_iff_rests hen).mp hinv
    exact iff_of_true (fun _ => SwitchPlayer.rests_imageTapped (hrests.withinBounds hE)) trivial
  | handlePanGesture state x =>
    cases state with
    | began => exact iff_of_true (fun hpan => absurd hpan (by simp [step, panAfter])) trivial
    | changed =>
      obtain ⟨translations, htranslations⟩ := Option.isSome_iff_exists.mp hen
      refine iff_of_true (fun hpan => absurd hpan ?_) trivial
      simp [step, panAfter, htranslations]
    | ended => exact iff_of_true (fun _ => rests_ended hinv hen x) trivial
    | cancelled =>
      simp only [step, panAfter, Restores, forall_const]
      rw [SwitchPlayer.handlePanGesture_of_ne (by decide) (by decide)]
      exact rests_iff_panUntouched hE hinv hen
    | failed =>
      simp only [step, panAfter, Restores, forall_const]
      rw [SwitchPlayer.handlePanGesture_of_ne (by decide) (by decide)]
      exact rests_iff_panUntouched hE hinv hen

/-- A call that restores the switch keeps the invariant. -/
theorem inv_step (hE : marginContainerImage < bounds.xEndingPoint) (hinv : Inv bounds gestures)
    (hen : Enabled gestures e) (hrestores : Restores bounds gestures e) :
    Inv bounds (gestures.step bounds e) := by
  have hrests := (rests_step_iff hE hinv hen).mpr hrestores
  cases e with
  | imageTapped =>
    have hpan : (gestures.step bounds .imageTapped).pan = none := hen
    exact (inv_iff_rests hpan).mpr (hrests hpan)
  | handlePanGesture state x =>
    cases state with
    | began =>
      have hplayer := (inv_iff_rests hen).mp hinv
      simp only [Inv, step, panAfter]
      rw [SwitchPlayer.handlePanGesture_of_ne (by decide) (by decide)]
      -- a pan that has sent nothing yet leaves the switch at its start
      exact hplayer.symm
    | changed =>
      obtain ⟨translations, htranslations⟩ := Option.isSome_iff_exists.mp hen
      simp only [Inv, htranslations] at hinv
      simp only [Inv, step, panAfter, htranslations, Option.map_some]
      cases hinv with
      | inl hplayer =>
        rw [hplayer, SwitchPlayer.handlePanGesture_of_finished rfl]
        exact .inl rfl
      | inr hplayer =>
        rw [hplayer, SwitchPlayer.handlePanGesture_changed hE]
        exact .inr rfl
    | ended => exact (inv_iff_rests rfl).mpr (hrests rfl)
    | cancelled => exact (inv_iff_rests rfl).mpr (hrests rfl)
    | failed => exact (inv_iff_rests rfl).mpr (hrests rfl)

theorem inv_init (himage : episode.imageUrl.isSome) :
    Inv bounds { player := SwitchPlayer.setup episode } := by
  obtain ⟨imageUrl, himageUrl⟩ := Option.isSome_iff_exists.mp himage
  refine (inv_iff_rests rfl).mpr (.inl ?_)
  simp only [SwitchPlayer.setup, himageUrl]
  rfl

/-- Calls that restore the switch keep the invariant. -/
theorem inv_of_run_when (hE : marginContainerImage < bounds.xEndingPoint)
    (himage : episode.imageUrl.isSome)
    (h : ((machine bounds episode).when (Restores bounds)).Run es gestures) :
    Inv bounds gestures := by
  refine h.invariant (I := Inv bounds) (inv_init himage) ?_
  intro s e t hs hen hstep
  obtain rfl := Except.ok.inj hstep
  exact inv_step hE hs hen.1 hen.2

end SwitchPlayerGestures

section

open SwitchPlayerGestures

/-- At every moment of every run of taps and pans the circle is between its ends and the alpha
    between 0 and 1. Whenever no pan is in progress, all along a run, the switch rests at one
    of its ends exactly when each pan that is cancelled or fails found it finished, or never
    had the circle between the ends and had it at the start at last. -/
theorem switch_player_rests_iff {bounds : SwitchPlayerBounds}
    (hE : marginContainerImage < bounds.xEndingPoint) {episode : Episode}
    (himage : episode.imageUrl.isSome) {es : List SwitchPlayerEvent}
    {gestures : SwitchPlayerGestures} (h : (machine bounds episode).Run es gestures) :
    gestures.player.WithinBounds bounds ∧
    ((∀ es' gestures', es' <+: es → (machine bounds episode).Run es' gestures' →
        gestures'.pan = none → gestures'.player.Rests bounds) ↔
      ((machine bounds episode).when (Restores bounds)).Run es gestures) := by
  refine ⟨withinBounds_of_run hE himage h, ?_⟩
  refine Machine.Run.forall_prefix_iff_when
    (P := fun gestures => gestures.pan = none → gestures.player.Rests bounds) ?_ ?_ h
  · exact fun hpan => (inv_iff_rests hpan).mp (inv_init himage)
  · intro es s e t hwhen _ hen hstep
    obtain rfl := Except.ok.inj hstep
    exact rests_step_iff hE (inv_of_run_when hE himage hwhen) hen

end

/-- A switch of the home screen: its circle is dragged up to 208. -/
def homeBounds : SwitchPlayerBounds where
  width := 305
  containerCircleImage := 90

/-- An episode with an image URL. -/
def pictured : Episode :=
  ⟨some "EPISODE 8", some "Tu dors ?", some "", some "", some "vignette.png", some "", some "DU SPORT"⟩

/-- A pan that finishes the switch, a tap that brings it back, and a pan that is cancelled after
    it has gone beyond the end and back. -/
def finishAndCancel : List SwitchPlayerEvent :=
  [.handlePanGesture .began 0, .handlePanGesture .changed 100, .handlePanGesture .ended 170,
    .imageTapped,
    .handlePanGesture .began 0, .handlePanGesture .changed 300, .handlePanGesture .changed 3,
    .handlePanGesture .cancelled 3]

theorem switch_player_rests_iff_finishAndCancel :
    ∃ gestures, (SwitchPlayerGestures.machine homeBounds pictured).Run finishAndCancel gestures ∧
      gestures.player.WithinBounds homeBounds ∧ gestures.player.Rests homeBounds :=
  have hrun := Machine.run_of_replay
    ((SwitchPlayerGestures.machine homeBounds pictured).when
      (SwitchPlayerGestures.Restores homeBounds)) finishAndCancel (by decide +kernel)
  have hrests := switch_player_rests_iff (by decide +kernel) rfl hrun.of_when
  ⟨_, hrun.of_when, hrests.1, hrests.2.mpr hrun _ _ (List.prefix_refl _) hrun.of_when
    (by decide +kernel)⟩

/-- A pan that is cancelled halfway leaves the circle there and the text faded. -/
theorem cancelled_pan_leaves_circle :
    marginContainerImage < homeBounds.xEndingPoint ∧
    ∃ gestures, (SwitchPlayerGestures.machine homeBounds pictured).Run
        [.handlePanGesture .began 0, .handlePanGesture .changed 100,
          .handlePanGesture .cancelled 100] gestures ∧
      gestures.pan = none ∧
      gestures.player = {
        isFinished := false
        leftContainerImageCircleViewConstraint := some 100
        leftTextStackViewConstraint := some 105
        alpha := 27 / 67 } ∧
      ¬ gestures.player.Rests homeBounds := by
  have hrun := Machine.run_of_replay (SwitchPlayerGestures.machine homeBounds pictured)
    [.handlePanGesture .began 0, .handlePanGesture .changed 100, .handlePanGesture .cancelled 100]
    (by decide +kernel)
  exact ⟨by decide +kernel, _, hrun, by decide +kernel, by decide +kernel, by decide +kernel⟩

end BingePodcast
