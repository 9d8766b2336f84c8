import BingePodcast.Spec.PodcastScreenInvariant

/-!
# Carousel navigation

The swipes and the taps of a screen whose podcasts have arrived. `positionCellWithIdexPath`
moves by one page at most and then takes the cell it was asked for as the current one, and
the page control has six dots. This file says exactly which moves keep the index, the page
on display and the page control in step.

## Key results

- `CarouselMove.apply_eq_ok`: on a consistent screen no move traps
- `CarouselMove.faithful_iff`: the moves that lead where they should, one by one
- `carousel_faithful_iff`: all moves of a run do exactly when each of them goes to the page
  on display or to a neighbour that has a dot
-/

namespace BingePodcast

/-! ## Moves -/

/-- A swipe on the carousel or a tap on one of its cells. -/
inductive CarouselMove where
  | swipeLeftToRight
  | swipeRightToLeft
  | didSelectItemAt (row : Nat)
deriving DecidableEq, Repr

namespace CarouselMove

/-- The method of the controller that a move calls. -/
def apply (move : CarouselMove) (controller : PodcastViewController) :
    Except Trap PodcastViewController :=
  match move with
  | .swipeLeftToRight => controller.swipeLeftToRight
  | .swipeRightToLeft => controller.swipeRightToLeft
  | .didSelectItemAt row => controller.positionCellWithIdexPath row

/-- The move as an event of the screen. -/
def event : CarouselMove → PodcastScreenEvent
  | .swipeLeftToRight => .swipeLeftToRight
  | .swipeRightToLeft => .swipeRightToLeft
  | .didSelectItemAt row => .didSelectItemAt row

/-- On the screen a move does to the controller what its method does. -/
theorem step_event (move : CarouselMove) (screen : PodcastScreen) :
    screen.step move.event = screen.onController move.apply := by
  cases move <;> rfl

/-- The page a move should lead to: the one before, the one after or the one of the cell;
    at the first and the last page a swipe stays there. -/
def target (move : CarouselMove) (controller : PodcastViewController) : ℤ :=
  match move with
  | .swipeLeftToRight => max 0 (controller.currentIndex - 1)
  | .swipeRightToLeft =>
    min (controller.currentIndex + 1) (controller.arrayPageListPodcast.length - 1)
  | .didSelectItemAt row => row

/-- A cell can be tapped if it exists. -/
def Enabled (controller : PodcastViewController) : CarouselMove → Prop
  | .didSelectItemAt row => row < controller.podcastEpisode.length
  | .swipeLeftToRight => True
  | .swipeRightToLeft => True

end CarouselMove

namespace PodcastViewController

/-- The moves on a screen, from `controller` on. -/
def carousel (controller : PodcastViewController) :
    Machine PodcastViewController CarouselMove Trap where
  init := controller
  Enabled := CarouselMove.Enabled
  step controller move := move.apply controller

instance (controller s : PodcastViewController) (move : CarouselMove) :
    Decidable (controller.carousel.Enabled s move) :=
  match move with
  | .didSelectItemAt _ => inferInstanceAs (Decidable (_ < _))
  | .swipeLeftToRight => inferInstanceAs (Decidable True)
  | .swipeRightToLeft => inferInstanceAs (Decidable True)

/-- `currentIndex` is the index of a page, and that page is on display and selected by the
    page control. -/
structure Consistent (controller : PodcastViewController) : Prop where
  length_eq : controller.podcastEpisode.length = controller.arrayPageListPodcast.length
  nonneg : 0 ≤ controller.currentIndex
  lt : controller.currentIndex < controller.arrayPageListPodcast.length
  displayed : controller.displayed = .page controller.currentIndex.toNat
  currentPage : controller.currentPage = controller.currentIndex

theorem consistent_iff {controller : PodcastViewController} : controller.Consistent ↔
    controller.podcastEpisode.length = controller.arrayPageListPodcast.length ∧
    0 ≤ controller.currentIndex ∧
    controller.currentIndex < controller.arrayPageListPodcast.length ∧
    controller.displayed = .page controller.currentIndex.toNat ∧
    controller.currentPage = controller.currentIndex :=
  ⟨fun ⟨h₁, h₂, h₃, h₄, h₅⟩ => ⟨h₁, h₂, h₃, h₄, h₅⟩,
    fun ⟨h₁, h₂, h₃, h₄, h₅⟩ => ⟨h₁, h₂, h₃, h₄, h₅⟩⟩

instance (controller : PodcastViewController) : Decidable controller.Consistent :=
  decidable_of_iff' _ consistent_iff

theorem Consistent.inv {controller : PodcastViewController} (h : controller.Consistent) :
    controller.Inv := ⟨h.length_eq, h.nonneg, fun _ => h.lt⟩

end PodcastViewController

namespace CarouselMove

open PodcastViewController (numberOfPages)

variable {controller controller' : PodcastViewController} {move : CarouselMove}

/-- A step leads from `controller` to the page `move` should lead to, and all agree on it. -/
def Faithful (controller : PodcastViewController) (move : CarouselMove)
    (controller' : PodcastViewController) : Prop :=
  controller'.Consistent ∧ controller'.currentIndex = move.target controller

instance (controller : PodcastViewController) (move : CarouselMove)
    (controller' : PodcastViewController) : Decidable (Faithful controller move controller') :=
  inferInstanceAs (Decidable (_ ∧ _))

/-- The move stays where it is, or goes to a neighbouring page that the page control has a
    dot for. -/
def Near (controller : PodcastViewController) (move : CarouselMove) : Prop :=
  move.target controller = controller.currentIndex ∨
    ((move.target controller = controller.currentIndex - 1 ∨
      move.target controller = controller.currentIndex + 1) ∧
    move.target controller < numberOfPages)

instance (controller : PodcastViewController) (move : CarouselMove) :
    Decidable (Near controller move) := inferInstanceAs (Decidable (_ ∨ _))

/-- Displaying the page `index` while taking `indexCell` for the current one is consistent
    only if they are the same, and one of the first six. -/
theorem consistent_showPage_iff (h : controller.Consistent) {index indexCell : ℤ}
    (hindex : 0 ≤ index) (hcell : 0 ≤ indexCell)
    (hlt : indexCell < controller.arrayPageListPodcast.length) :
    ({ controller.showPage index with currentIndex := indexCell } :
        PodcastViewController).Consistent ↔
      indexCell = index ∧ index < numberOfPages := by
  rw [PodcastViewController.consistent_iff]
  simp only [PodcastViewController.showPage, Displayed.page.injEq, h.length_eq, hcell, hlt,
    true_and]
  simp only [numberOfPages]
  omega

/-! ## One move -/

/-- What a move does: one page towards its target, which is the current one from then on. -/
def moved (controller : PodcastViewController) (target : ℤ) : PodcastViewController :=
  if target < controller.currentIndex then
    { controller.showPage (controller.currentIndex - 1) with currentIndex := target }
  else if controller.currentIndex < target then
    { controller.showPage (controller.currentIndex + 1) with currentIndex := target }
  else controller

@[simp] theorem currentIndex_moved (target : ℤ) :
    (moved controller target).currentIndex = target := by
  unfold moved
  split
  · rfl
  · split
    · rfl
    · omega

@[simp] theorem podcastEpisode_moved (target : ℤ) :
    (moved controller target).podcastEpisode = controller.podcastEpisode := by
  unfold moved
  split
  · rfl
  · split <;> rfl

@[simp] theorem arrayPageListPodcast_moved (target : ℤ) :
    (moved controller target).arrayPageListPodcast = controller.arrayPageListPodcast := by
  unfold moved
  split
  · rfl
  · split <;> rfl

/-- The target of a move is a page. -/
theorem target_mem (h : controller.Inv)
    (hlt : controller.currentIndex < controller.arrayPageListPodcast.length)
    (hen : move.Enabled controller) :
    0 ≤ move.target controller ∧ move.target controller < controller.arrayPageListPodcast.length := by
  have hnonneg := h.nonneg
  cases move with
  | swipeLeftToRight => exact ⟨le_max_left _ _, by simp only [target]; omega⟩
  | swipeRightToLeft => exact ⟨by simp only [target]; omega, by simp only [target]; omega⟩
  | didSelectItemAt row =>
    have hrow : row < controller.arrayPageListPodcast.length := h.length_eq ▸ hen
    exact ⟨Int.natCast_nonneg row, Int.ofNat_lt.mpr hrow⟩

/-- While `currentIndex` is the index of a page, no move traps. -/
theorem apply_eq_ok (h : controller.Inv)
    (hlt : controller.currentIndex < controller.arrayPageListPodcast.length)
    (hen : move.Enabled controller) :
    move.apply controller = .ok (moved controller (move.target controller)) := by
  have hnonneg := h.nonneg
  obtain ⟨-, htarget⟩ := target_mem h hlt hen
  cases move with
  | swipeLeftToRight =>
    rw [apply, PodcastViewController.swipeLeftToRight_eq h]
    split
    · rw [moved, if_neg (by simp only [target]; omega), if_neg (by simp only [target]; omega)]
    · have htarget : target .swipeLeftToRight controller = controller.currentIndex - 1 := by
        simp only [target]
        omega
      rw [if_pos hlt.le, moved, htarget, if_pos (by omega)]
      rfl
  | swipeRightToLeft =>
    rw [apply, PodcastViewController.swipeRightToLeft_eq h]
    split
    · have htarget : target .swipeRightToLeft controller = controller.currentIndex + 1 := by
        simp only [target]
        omega
      rw [moved, htarget, if_neg (by omega), if_pos (by omega)]
      rfl
    · -- the last page is the current one
      rw [if_pos (by omega), moved, if_neg (by simp only [target]; omega),
        if_neg (by simp only [target]; omega)]
  | didSelectItemAt row =>
    rw [apply, target, moved]
    rcases lt_trichotomy (row : ℤ) controller.currentIndex with hback | hself | hforward
    · rw [PodcastViewController.positionCellWithIdexPath_of_lt (Int.natCast_nonneg row) hback,
        if_pos hlt.le, if_pos hback]
    · rw [hself, PodcastViewController.positionCellWithIdexPath_self, if_neg (lt_irrefl _),
        if_neg (lt_irrefl _)]
    · rw [PodcastViewController.positionCellWithIdexPath_of_gt h hforward, if_neg hforward.not_gt,
        if_pos hforward, if_pos (lt_of_le_of_lt hforward htarget)]

/-- On a consistent screen exactly the near moves lead where they should. -/
theorem faithful_iff (h : controller.Consistent) (hen : move.Enabled controller)
    (hstep : move.apply controller = .ok controller') :
    Faithful controller move controller' ↔ Near controller move := by
  rw [apply_eq_ok h.inv h.lt hen] at hstep
  obtain rfl := Except.ok.inj hstep
  obtain ⟨hnonneg, hlt⟩ := target_mem h.inv h.lt hen
  rw [Faithful, currentIndex_moved, and_iff_left rfl, Near, moved]
  have hindex := h.nonneg
  split
  · rw [consistent_showPage_iff h (by omega) hnonneg hlt]
    omega
  · split
    · rw [consistent_showPage_iff h (by omega) hnonneg hlt]
      omega
    · exact iff_of_true h (.inl (by omega))

/-- A move leaves `currentIndex` the index of a page, whatever page it displays. -/
theorem inv_of_apply (h : controller.Inv)
    (hlt : controller.currentIndex < controller.arrayPageListPodcast.length)
    (hen : move.Enabled controller) (hstep : move.apply controller = .ok controller') :
    controller'.Inv ∧ controller'.currentIndex < controller'.arrayPageListPodcast.length := by
  rw [apply_eq_ok h hlt hen] at hstep
  obtain rfl := Except.ok.inj hstep
  obtain ⟨hnonneg, htarget⟩ := target_mem h hlt hen
  have hlt' : (moved controller (move.target controller)).currentIndex <
      (moved controller (move.target controller)).arrayPageListPodcast.length := by
    rwa [currentIndex_moved, arrayPageListPodcast_moved]
  refine ⟨⟨?_, ?_, fun _ => hlt'⟩, hlt'⟩
  · rw [podcastEpisode_moved, arrayPageListPodcast_moved, h.length_eq]
  · rwa [currentIndex_moved]

end CarouselMove

/-! ## Runs of moves -/

section Runs

variable {controller controller' : PodcastViewController} {moves : List CarouselMove}

/-- From a consistent screen on, `currentIndex` is always the index of a page. -/
theorem PodcastViewController.inv_of_carousel (hinit : controller.Consistent)
    (h : controller.carousel.Run moves controller') :
    controller'.Inv ∧ controller'.currentIndex < controller'.arrayPageListPodcast.length :=
  h.invariant (I := fun s => s.Inv ∧ s.currentIndex < s.arrayPageListPodcast.length)
    ⟨hinit.inv, hinit.lt⟩
    fun _ _ _ hs hen hstep => CarouselMove.inv_of_apply hs.1 hs.2 hen hstep

/-- Near moves keep the screen consistent. -/
theorem PodcastViewController.consistent_of_carousel (hinit : controller.Consistent)
    (h : (controller.carousel.when CarouselMove.Near).Run moves controller') :
    controller'.Consistent := by
  induction h with
  | nil => exact hinit
  | snoc _ hen hstep ih => exact ((CarouselMove.faithful_iff ih hen.1 hstep).mpr hen.2).1

/-- From every consistent screen on, no swipe and no tap on a cell traps; and all of them
    lead to the page they should, the screen staying consistent, exactly when each one stays
    where it is or goes to a neighbouring page for which the page control has a dot. -/
theorem carousel_faithful_iff (hinit : controller.Consistent)
    (h : controller.carousel.Run moves controller') :
    (∀ move : CarouselMove, move.Enabled controller' → ∃ t, move.apply controller' = .ok t) ∧
    ((∀ moves' (move : CarouselMove) s t, moves' ++ [move] <+: moves →
        controller.carousel.Run moves' s → move.apply s = .ok t →
        CarouselMove.Faithful s move t) ↔
      (controller.carousel.when CarouselMove.Near).Run moves controller') := by
  obtain ⟨hinv, hlt⟩ := PodcastViewController.inv_of_carousel hinit h
  refine ⟨fun move hen => ⟨_, CarouselMove.apply_eq_ok hinv hlt hen⟩, ?_⟩
  refine Machine.Run.forall_step_iff_when (fun moves s move t hwhen hen hstep => ?_) h
  exact CarouselMove.faithful_iff (PodcastViewController.consistent_of_carousel hinit hwhen) hen hstep

end Runs

/-- Three podcasts, the first one selected. -/
def threePages : PodcastViewController :=
  let podcasts : List PodcastEpisode :=
    [⟨⟨some "A", none, none⟩, []⟩, ⟨⟨some "B", none, none⟩, []⟩, ⟨⟨some "C", none, none⟩, []⟩]
  { podcastEpisode := podcasts
    arrayPageListPodcast := podcasts.map PageListPodcast.mk
    displayed := .page 0 }

theorem carousel_faithful_iff_swipeAndTap :
    ∃ controller, threePages.carousel.Run [.swipeRightToLeft, .didSelectItemAt 2] controller ∧
      (threePages.carousel.when CarouselMove.Near).Run [.swipeRightToLeft, .didSelectItemAt 2]
        controller ∧
      ∃ t, CarouselMove.apply .swipeRightToLeft controller = .ok t :=
  have hrun := Machine.run_of_replay (threePages.carousel.when CarouselMove.Near)
    [.swipeRightToLeft, .didSelectItemAt 2] (by decide)
  have hinit : threePages.Consistent := by decide
  have hfaithful := carousel_faithful_iff hinit hrun.of_when
  ⟨_, hrun.of_when, hfaithful.2.mp (hfaithful.2.mpr hrun), hfaithful.1 .swipeRightToLeft trivial⟩

/-- A tap on the third cell displays the second page. -/
theorem tap_displays_other_page :
    threePages.Consistent ∧
    ∃ controller, threePages.carousel.Run [.didSelectItemAt 2] controller ∧
      controller.currentIndex = 2 ∧ controller.displayed = .page 1 ∧
      ¬ CarouselMove.Faithful threePages (.didSelectItemAt 2) controller :=
  have hrun := Machine.run_of_replay threePages.carousel [.didSelectItemAt 2] (by decide)
  ⟨by decide, _, hrun, by decide, by decide, by decide⟩

end BingePodcast
