import BingePodcast.ForStd.Machine
import BingePodcast.Native.Decode
import Mathlib.Data.Rat.Defs
import Mathlib.Algebra.Order.Ring.Unbundled.Rat

/-!
# The slide-to-play switch

`SwitchPlayer` of the home screen: a circle that is tapped, or dragged from its place at the
left to the end at the right, and a text that gives way to it. Two constraints place the
circle and the text, and `xEndingPoint` follows from the widths that the layout gives the
switch and the circle. No class implements `SlideToActionButtonDelegate`, so the `delegate` is
always `nil`. The blocks of `UIView.animate` run at once.
-/

namespace BingePodcast

namespace Constants_SwitchPlayer

def leftTextMinConstrait : ℚ := 25

def leftTextMaxConstrait : ℚ := 105

def marginContainerImage : ℚ := 7

end Constants_SwitchPlayer

open Constants_SwitchPlayer

/-- The widths of the laid out switch. -/
structure SwitchPlayerBounds where
  /-- `bounds.width` -/
  width : ℚ
  /-- `containerCircleImage.bounds.width` -/
  containerCircleImage : ℚ
deriving DecidableEq, Repr

/-- `xEndingPoint` -/
def SwitchPlayerBounds.xEndingPoint (bounds : SwitchPlayerBounds) : ℚ :=
  bounds.width - bounds.containerCircleImage - marginContainerImage

/-- The properties of `SwitchPlayer` that its gestures use. A constraint is given by its
    constant. -/
structure SwitchPlayer where
  isFinished : Bool := false
  leftContainerImageCircleViewConstraint : Option ℚ := none
  leftTextStackViewConstraint : Option ℚ := none
  /-- `textStack.alpha` -/
  alpha : ℚ := 1
deriving DecidableEq, Repr

/-- What led to `active(action:)`. -/
inductive Action where
  | tap
  | swipe
deriving DecidableEq, Repr

/-- The states in which a pan calls its action. -/
inductive PanState where
  | began
  | changed
  | ended
  | cancelled
  | failed
deriving DecidableEq, Repr

namespace SwitchPlayer

/-- `setup()`: without an image URL there are neither constraints nor gestures. -/
def setup (episode : Episode) : SwitchPlayer :=
  match episode.imageUrl with
  | none => {}
  | some _ => {
      leftContainerImageCircleViewConstraint := some marginContainerImage
      leftTextStackViewConstraint := some 105 }

/-- `updateContainerImageCircleXPosition(_:)` -/
def updateContainerImageCircleXPosition (player : SwitchPlayer) (x : ℚ) : SwitchPlayer :=
  { player with
    leftContainerImageCircleViewConstraint :=
      player.leftContainerImageCircleViewConstraint.map fun _ => x }

/-- `updateTextSkatXPosition(_:)` -/
def updateTextSkatXPosition (player : SwitchPlayer) (x : ℚ) : SwitchPlayer :=
  { player with
    leftTextStackViewConstraint := player.leftTextStackViewConstraint.map fun _ => x }

/-- `reset()` -/
def reset (player : SwitchPlayer) : SwitchPlayer :=
  { player with isFinished := false }.updateContainerImageCircleXPosition marginContainerImage

/-- `active(action:)`. The action decides about a change of the circle's frame only, which
    the next layout computes from the constraint again. -/
def active (bounds : SwitchPlayerBounds) (player : SwitchPlayer) (_action : Action) :
    SwitchPlayer :=
  let player := { player with alpha := 1 }
  if player.isFinished then
    let player := player.updateTextSkatXPosition leftTextMinConstrait
    player.updateContainerImageCircleXPosition bounds.xEndingPoint
  else
    let player := player.updateTextSkatXPosition leftTextMaxConstrait
    player.reset

/-- `imageTapped(tapGestureRecognizer:)` -/
def imageTapped (bounds : SwitchPlayerBounds) (player : SwitchPlayer) : SwitchPlayer :=
  let player := { player with isFinished := !player.isFinished }
  player.active bounds .tap

/-- `handlePanGesture(_:)` -/
def handlePanGesture (bounds : SwitchPlayerBounds) (player : SwitchPlayer) (state : PanState)
    (translatedPoint : ℚ) : SwitchPlayer :=
  if player.isFinished then player
  else
    match state with
    | .changed =>
      if translatedPoint ≤ marginContainerImage then
        player.updateContainerImageCircleXPosition marginContainerImage
      else if translatedPoint ≥ bounds.xEndingPoint then
        player.updateContainerImageCircleXPosition bounds.xEndingPoint
      else
        let player := player.updateContainerImageCircleXPosition translatedPoint
        { player with
          alpha := (bounds.xEndingPoint - translatedPoint) / (bounds.xEndingPoint + 60) }
    | .ended =>
      let player := { player with alpha := 1 }
      if translatedPoint ≥ bounds.xEndingPoint - 45 then
        let player := player.updateContainerImageCircleXPosition bounds.xEndingPoint
        let player := { player with isFinished := true }
        player.active bounds .swipe
      else
        { player.reset with alpha := 1 }
    -- the `default` of the switch: a pan that is cancelled or fails resets nothing
    | .began => player
    | .cancelled => player
    | .failed => player

end SwitchPlayer

/-! ## Gestures -/

/-- A switch and its gestures. `pan` is a record: the translations that the pan in progress
    has sent, if there is one. -/
structure SwitchPlayerGestures where
  player : SwitchPlayer
  pan : Option (List ℚ) := none
deriving DecidableEq, Repr

/-- A call of the action of a gesture. -/
inductive SwitchPlayerEvent where
  | imageTapped
  | handlePanGesture (state : PanState) (translatedPoint : ℚ)
deriving DecidableEq, Repr

namespace SwitchPlayerGestures

/-- The pan that is in progress after a call of its action. -/
def panAfter (pan : Option (List ℚ)) (translatedPoint : ℚ) : PanState → Option (List ℚ)
  | .began => some []
  | .changed => pan.map (· ++ [translatedPoint])
  | .ended => none
  | .cancelled => none
  | .failed => none

/-- One call. -/
def step (bounds : SwitchPlayerBounds) (gestures : SwitchPlayerGestures) :
    SwitchPlayerEvent → SwitchPlayerGestures
  | .imageTapped => { gestures with player := gestures.player.imageTapped bounds }
  | .handlePanGesture state translatedPoint =>
    { player := gestures.player.handlePanGesture bounds state translatedPoint
      pan := panAfter gestures.pan translatedPoint state }

/-- Gestures come one after the other: a tap or the beginning of a pan comes when no pan is
    in progress, and the other calls come from the pan that is. -/
def Enabled (gestures : SwitchPlayerGestures) : SwitchPlayerEvent → Prop
  | .imageTapped => gestures.pan = none
  | .handlePanGesture .began _ => gestures.pan = none
  | .handlePanGesture _ _ => gestures.pan.isSome

/-- The runs of the switch for an episode. -/
def machine (bounds : SwitchPlayerBounds) (episode : Episode) :
    Machine SwitchPlayerGestures SwitchPlayerEvent Empty where
  init := { player := SwitchPlayer.setup episode }
  Enabled := Enabled
  step gestures e := .ok (gestures.step bounds e)

instance (bounds : SwitchPlayerBounds) (episode : Episode) (gestures : SwitchPlayerGestures)
    (e : SwitchPlayerEvent) : Decidable ((machine bounds episode).Enabled gestures e) :=
  match e with
  | .imageTapped => inferInstanceAs (Decidable (_ = none))
  | .handlePanGesture .began _ => inferInstanceAs (Decidable (_ = none))
  | .handlePanGesture .changed _ => inferInstanceAs (Decidable (_ = true))
  | .handlePanGesture .ended _ => inferInstanceAs (Decidable (_ = true))
  | .handlePanGesture .cancelled _ => inferInstanceAs (Decidable (_ = true))
  | .handlePanGesture .failed _ => inferInstanceAs (Decidable (_ = true))

end SwitchPlayerGestures

end BingePodcast
