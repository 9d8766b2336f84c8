import BingePodcast.Native.FavoriteViewController
import Mathlib.Tactic.Linarith
import Mathlib.Tactic.Ring

/-!
# The tabs of the favourites

Both titles switch to the other tab, and every appearance of the screen shows the first page.
This file says what the selected tab and the line are after any number of taps, and from this
exactly which taps and appearances keep page, tab and line in step.

## Key results

- `FavoriteViewController.tabsInv_of_run`: the tab is the parity of the taps, and every two
  taps move the line by the same `drift`
- `favorite_tabs_iff`: all events of a run do what they should exactly when each tap is on the
  title that is not selected, the screen appears with the first tab selected only, and there is
  no drift or no way back
-/

namespace BingePodcast

/-! ## The line -/

namespace TitleWidths

variable (widths : TitleWidths)

/-- What the line is moved by on the way to the see-later title. -/
def toSeeLater : ℚ :=
  widths.screen - widths.favoriteTitle .proximaNova_Regular / 2 -
    widths.seeLaterTitle .proximaNova_Bold / 2 - 80

/-- What it is moved back by on the way to the favourite title. -/
def toFavorite : ℚ :=
  widths.screen - widths.favoriteTitle .proximaNova_Bold / 2 -
    widths.seeLaterTitle .proximaNova_Regular / 2 - 80

/-- What it is moved by there and back. -/
def drift : ℚ := widths.toSeeLater - widths.toFavorite

/-- Where the line is after a number of taps. -/
def lineAfter (taps : Nat) : ℚ :=
  40 + (taps / 2 : Nat) * widths.drift + if taps % 2 = 0 then 0 else widths.toSeeLater

/-- The titles are as wide together with the one in bold as with the other. -/
def Balanced : Prop :=
  widths.favoriteTitle .proximaNova_Bold + widths.seeLaterTitle .proximaNova_Regular =
    widths.favoriteTitle .proximaNova_Regular + widths.seeLaterTitle .proximaNova_Bold

instance : Decidable widths.Balanced := inferInstanceAs (Decidable (_ = _))

theorem drift_eq_zero_iff : widths.drift = 0 ↔ widths.Balanced := by
  unfold drift toSeeLater toFavorite Balanced
  constructor
  · intro h
    linarith
  · intro h
    linarith

theorem lineAfter_succ_of_even {taps : Nat} (h : taps % 2 = 0) :
    widths.lineAfter (taps + 1) = widths.lineAfter taps + widths.toSeeLater := by
  have hhalf : (taps + 1) / 2 = taps / 2 := by omega
  have hodd : (taps + 1) % 2 ≠ 0 := by omega
  rw [lineAfter, lineAfter, hhalf, if_neg hodd, if_pos h, add_zero]

theorem lineAfter_succ_of_odd {taps : Nat} (h : taps % 2 = 1) :
    widths.lineAfter (taps + 1) = widths.lineAfter taps - widths.toFavorite := by
  have hhalf : (taps + 1) / 2 = taps / 2 + 1 := by omega
  have heven : (taps + 1) % 2 = 0 := by omega
  rw [lineAfter, lineAfter, hhalf, if_pos heven, if_neg (by omega), drift]
  push_cast
  ring

/-- With the first tab selected again, the line is where it was only without a drift. -/
theorem lineAfter_eq_iff {taps : Nat} (h : taps % 2 = 0) :
    widths.lineAfter taps = 40 ↔ taps = 0 ∨ widths.Balanced := by
  have hhalf : (taps / 2 : Nat) = (0 : ℚ) ↔ taps = 0 := by
    rw [Nat.cast_eq_zero]
    omega
  rw [lineAfter, if_pos h, add_zero, add_eq_left, mul_eq_zero, hhalf, drift_eq_zero_iff]

end TitleWidths

/-! ## One event -/

namespace FavoriteTabEvent

/-- How often an event switches the tab. -/
def taps : FavoriteTabEvent → Nat
  | .previousPageController => 1
  | .nextPageController => 1
  | .viewWillAppear _ => 0

/-- The page that an event displays after a number of taps. -/
def shown (taps : Nat) : FavoriteTabEvent → Nat
  | .previousPageController => (taps + 1) % 2
  | .nextPageController => (taps + 1) % 2
  | .viewWillAppear _ => 0

/-- The taps of a run. -/
def totalTaps (es : List FavoriteTabEvent) : Nat := (es.map taps).sum

theorem totalTaps_append (es : List FavoriteTabEvent) (e : FavoriteTabEvent) :
    totalTaps (es ++ [e]) = totalTaps es + e.taps := by
  simp [totalTaps]

end FavoriteTabEvent

namespace FavoriteViewController

open FavoriteTabEvent (totalTaps totalTaps_append)

variable {widths : TitleWidths} {controller controller' : FavoriteViewController}
variable {taps : Nat} {e : FavoriteTabEvent} {es : List FavoriteTabEvent}

/-- The tabs after a number of taps, whatever page is on display. -/
structure TabsInv (widths : TitleWidths) (taps : Nat) (controller : FavoriteViewController) :
    Prop where
  pageController : controller.pageController.isSome
  length : controller.arrayPageListFavorite.length = 2
  currentIndex : controller.currentIndex = (taps % 2 : Nat)
  leftContainer : controller.leftContainer = some (widths.lineAfter taps)

/-- With a page controller and two pages, displaying one of them succeeds. -/
theorem setViewControllers_ofNat (index : Nat) (h : controller.pageController.isSome)
    (hindex : index < controller.arrayPageListFavorite.length) :
    controller.setViewControllers index =
      .ok { controller with pageController := some (.page index) } := by
  obtain ⟨displayed, hdisplayed⟩ := Option.isSome_iff_exists.mp h
  simp only [setViewControllers, hdisplayed, element_ofNat hindex, Except.ok_bind,
    Except.pure_eq_ok, Int.toNat_natCast]

theorem animationTransitionTitle_of_inv (h : TabsInv widths taps controller) :
    ∃ controller', controller.animationTransitionTitle widths = .ok controller' ∧
      TabsInv widths (taps + 1) controller' := by
  have hindex := h.currentIndex
  unfold animationTransitionTitle
  split
  · -- back to the favourite title
    rename_i hselected
    have hodd : taps % 2 = 1 := by omega
    simp only [h.leftContainer]
    refine ⟨_, rfl, h.pageController, h.length, ?_, ?_⟩
    · simp only
      omega
    · rw [widths.lineAfter_succ_of_odd hodd]
      rfl
  · rename_i hselected
    have heven : taps % 2 = 0 := by omega
    simp only [h.leftContainer]
    refine ⟨_, rfl, h.pageController, h.length, ?_, ?_⟩
    · simp only
      omega
    · rw [widths.lineAfter_succ_of_even heven]
      rfl

/-- A tap on either title switches to the other tab and displays its page. -/
theorem switchPage_of_inv (h : TabsInv widths taps controller) :
    ∃ controller', controller.switchPage widths = .ok controller' ∧
      TabsInv widths (taps + 1) controller' ∧
      controller'.pageController = some (.page ((taps + 1) % 2)) := by
  obtain ⟨switched, hswitched, hinv⟩ := animationTransitionTitle_of_inv h
  have hindex : (taps + 1) % 2 < switched.arrayPageListFavorite.length := by
    rw [hinv.length]
    omega
  have hdisplays := setViewControllers_ofNat _ hinv.pageController hindex
  rw [← hinv.currentIndex] at hdisplays
  refine ⟨{ switched with pageController := some (.page ((taps + 1) % 2)) }, ?_, ?_, rfl⟩
  · rw [switchPage, hswitched, Except.ok_bind, hdisplays]
  · exact ⟨rfl, hinv.length, hinv.currentIndex, hinv.leftContainer⟩

/-- The screen appears with the first page, whatever tab is selected. -/
theorem viewWillAppear_of_inv (h : TabsInv widths taps controller)
    (episodeSaved : List PodcastEpisode) :
    ∃ controller', controller.viewWillAppear episodeSaved = .ok controller' ∧
      TabsInv widths taps controller' ∧ controller'.pageController = some (.page 0) := by
  have hlength := h.length
  have hpages : updateElement controller.arrayPageListFavorite 0
      (fun page => { page with podcastSaved := episodeSaved }) =
        .ok (controller.arrayPageListFavorite.modify 0
          fun page => { page with podcastSaved := episodeSaved }) :=
    updateElement_eq_ok.mpr ⟨0, rfl, by omega, rfl⟩
  have hmodify : (controller.arrayPageListFavorite.modify 0
      fun page => { page with podcastSaved := episodeSaved }).length = 2 := by
    rw [List.length_modify, hlength]
  rw [viewWillAppear]
  simp only [hpages, Except.ok_bind]
  refine ⟨_, setViewControllers_ofNat 0 h.pageController (by simp only; omega), ?_, rfl⟩
  exact ⟨rfl, hmodify, h.currentIndex, h.leftContainer⟩

/-- No event traps: taps are counted, and the page each event displays is known. -/
theorem step_of_inv (h : TabsInv widths taps controller) (e : FavoriteTabEvent) :
    ∃ controller', controller.step widths e = .ok controller' ∧
      TabsInv widths (taps + e.taps) controller' ∧
      controller'.pageController = some (.page (e.shown taps)) := by
  cases e with
  | previousPageController => exact switchPage_of_inv h
  | nextPageController => exact switchPage_of_inv h
  | viewWillAppear episodeSaved => exact viewWillAppear_of_inv h episodeSaved

/-! ## Pages, tabs and line in step -/

/-- The page on display is that of the selected tab, and with the first one selected the line
    is where it was set up. -/
structure InStep (controller : FavoriteViewController) : Prop where
  nonneg : 0 ≤ controller.currentIndex
  lt : controller.currentIndex < controller.arrayPageListFavorite.length
  displayed : controller.pageController = some (.page controller.currentIndex.toNat)
  line : controller.currentIndex = 0 → controller.leftContainer = some 40

/-- An event leads to tabs in step, and a tap on a title to the page of that title. -/
def Faithful (e : FavoriteTabEvent) (controller' : FavoriteViewController) : Prop :=
  controller'.InStep ∧
    match e with
    | .previousPageController => controller'.pageController = some (.page 0)
    | .nextPageController => controller'.pageController = some (.page 1)
    | .viewWillAppear _ => True

/-- The events that the tabs are prepared for. -/
def Prepared (widths : TitleWidths) (controller : FavoriteViewController) : FavoriteTabEvent → Prop
  | .previousPageController => controller.currentIndex = 1 ∧ widths.Balanced
  | .nextPageController => controller.currentIndex = 0
  | .viewWillAppear _ => controller.currentIndex = 0

instance (widths : TitleWidths) (controller : FavoriteViewController) (e : FavoriteTabEvent) :
    Decidable (Prepared widths controller e) :=
  match e with
  | .previousPageController => inferInstanceAs (Decidable (_ ∧ _))
  | .nextPageController => inferInstanceAs (Decidable (_ = _))
  | .viewWillAppear _ => inferInstanceAs (Decidable (_ = _))

/-- Tabs that display a page are in step if it is the page of the parity of the taps, and the
    line has not drifted. -/
theorem inStep_iff {index : Nat} (h : TabsInv widths taps controller)
    (hdisplayed : controller.pageController = some (.page index)) :
    controller.InStep ↔ index = taps % 2 ∧ (taps % 2 = 0 → taps = 0 ∨ widths.Balanced) := by
  have hindex := h.currentIndex
  have hpage : controller.pageController = some (.page controller.currentIndex.toNat) ↔
      index = taps % 2 := by
    rw [hdisplayed, hindex, Int.toNat_natCast, Option.some.injEq, Displayed.page.injEq]
  have hline : taps % 2 = 0 →
      (controller.leftContainer = some 40 ↔ taps = 0 ∨ widths.Balanced) := by
    intro heven
    rw [h.leftContainer, Option.some.injEq, widths.lineAfter_eq_iff heven]
  constructor
  · intro hstep
    refine ⟨hpage.mp hstep.displayed, fun heven => (hline heven).mp (hstep.line ?_)⟩
    rw [hindex, heven]
    rfl
  · rintro ⟨hshown, hdrift⟩
    refine ⟨by omega, by rw [h.length]; omega, hpage.mpr hshown, fun hselected => ?_⟩
    have heven : taps % 2 = 0 := by omega
    exact (hline heven).mpr (hdrift heven)

/-- With the tabs in step, exactly the events they are prepared for lead where they should. -/
theorem faithful_iff (h : TabsInv widths taps controller) (hin : controller.InStep)
    (hstep : controller.step widths e = .ok controller') :
    Faithful e controller' ↔ Prepared widths controller e := by
  obtain ⟨_, hok, hinv', hdisplayed⟩ := step_of_inv h e
  obtain rfl := Except.ok.inj (hok.symm.trans hstep)
  have hindex := h.currentIndex
  have hdrift := (inStep_iff h hin.displayed).mp hin
  unfold Faithful
  rw [inStep_iff hinv' hdisplayed, hdisplayed]
  cases e with
  | previousPageController =>
    simp only [FavoriteTabEvent.taps, FavoriteTabEvent.shown, Prepared, Option.some.injEq,
      Displayed.page.injEq, true_and]
    constructor
    · rintro ⟨hline, hshown⟩
      exact ⟨by omega, (hline hshown).resolve_left (Nat.succ_ne_zero taps)⟩
    · rintro ⟨hselected, hbalanced⟩
      exact ⟨fun _ => .inr hbalanced, by omega⟩
  | nextPageController =>
    simp only [FavoriteTabEvent.taps, FavoriteTabEvent.shown, Prepared, Option.some.injEq,
      Displayed.page.injEq, true_and]
    constructor
    · rintro ⟨-, hshown⟩
      omega
    · intro hselected
      exact ⟨fun heven => by omega, by omega⟩
  | viewWillAppear episodeSaved =>
    simp only [FavoriteTabEvent.taps, FavoriteTabEvent.shown, Prepared, Nat.add_zero, and_true]
    constructor
    · rintro ⟨hshown, -⟩
      omega
    · intro hselected
      exact ⟨by omega, hdrift.2⟩

/-! ## Runs of the tabs -/

theorem tabsInv_viewDidLoad (widths : TitleWidths) : TabsInv widths 0 viewDidLoad where
  pageController := rfl
  length := rfl
  currentIndex := rfl
  leftContainer := by
    rw [(widths.lineAfter_eq_iff rfl).mpr (.inl rfl)]
    rfl

/-- When the screen appears for the first time, the tabs are in step. -/
theorem inStep_of_first {episodeSaved : List PodcastEpisode} (widths : TitleWidths)
    (hfirst : viewDidLoad.viewWillAppear episodeSaved = .ok controller) :
    TabsInv widths 0 controller ∧ controller.InStep := by
  obtain ⟨_, hok, hinv, hdisplayed⟩ :=
    viewWillAppear_of_inv (tabsInv_viewDidLoad widths) episodeSaved
  obtain rfl := Except.ok.inj (hok.symm.trans hfirst)
  exact ⟨hinv, (inStep_iff hinv hdisplayed).mpr ⟨rfl, fun _ => .inl rfl⟩⟩

/-- In every run the tab and the line are those of the number of taps. -/
theorem tabsInv_of_run (hinit : TabsInv widths 0 controller)
    (h : (controller.tabs widths).Run es controller') :
    TabsInv widths (totalTaps es) controller' := by
  induction h with
  | nil => exact hinit
  | @snoc es s t e _ _ hstep ih =>
    obtain ⟨_, hok, hinv, -⟩ := step_of_inv ih e
    obtain rfl := Except.ok.inj (hok.symm.trans hstep)
    rw [totalTaps_append]
    exact hinv

/-- Events that the tabs are prepared for keep them in step. -/
theorem inStep_of_run_when (hinit : TabsInv widths 0 controller) (hin : controller.InStep)
    (h : ((controller.tabs widths).when (Prepared widths)).Run es controller') :
    controller'.InStep := by
  induction h with
  | nil => exact hin
  | snoc hrun hen hstep ih =>
    exact ((faithful_iff (tabsInv_of_run hinit hrun.of_when) ih hstep).mpr hen.2).1

end FavoriteViewController

section

open FavoriteViewController

/-- From the first appearance of the screen on, the tabs are in step and no event traps. All
    events of a run keep them in step and lead to the page of the tapped title exactly when
    each tap is on the title that is not selected, the screen appears with the first tab
    selected only, and there is a tap on the favourite title only if the widths of the titles
    make no drift. -/
theorem favorite_tabs_iff (widths : TitleWidths) {episodeSaved : List PodcastEpisode}
    {controller controller' : FavoriteViewController} {es : List FavoriteTabEvent}
    (hfirst : viewDidLoad.viewWillAppear episodeSaved = .ok controller)
    (h : (controller.tabs widths).Run es controller') :
    controller.InStep ∧ (∀ e, ∃ t, controller'.step widths e = .ok t) ∧
    ((∀ es' e s t, es' ++ [e] <+: es → (controller.tabs widths).Run es' s →
        s.step widths e = .ok t → Faithful e t) ↔
      ((controller.tabs widths).when (Prepared widths)).Run es controller') := by
  obtain ⟨hinit, hin⟩ := inStep_of_first widths hfirst
  refine ⟨hin, fun e => ?_, ?_⟩
  · obtain ⟨t, hok, -⟩ := step_of_inv (tabsInv_of_run hinit h) e
    exact ⟨t, hok⟩
  · refine Machine.Run.forall_step_iff_when (Q := fun _ e t => Faithful e t)
      (fun es s e t hwhen _ hstep => ?_) h
    exact faithful_iff (tabsInv_of_run hinit hwhen.of_when) (inStep_of_run_when hinit hin hwhen) hstep

end

/-- The tabs as they appear first, without favourites. -/
def firstAppearance : FavoriteViewController where
  pageController := some (.page 0)
  arrayPageListFavorite := [⟨[]⟩, ⟨[]⟩]
  leftContainer := some 40

/-- Titles that are both ten wider in bold. -/
def evenWidths : TitleWidths where
  screen := 375
  favoriteTitle font := if font = .proximaNova_Bold then 120 else 110
  seeLaterTitle font := if font = .proximaNova_Bold then 130 else 120

theorem favorite_tabs_iff_thereAndBack :
    ∃ controller, (firstAppearance.tabs evenWidths).Run
        [.nextPageController, .previousPageController, .viewWillAppear []] controller ∧
      ((firstAppearance.tabs evenWidths).when (FavoriteViewController.Prepared evenWidths)).Run
        [.nextPageController, .previousPageController, .viewWillAppear []] controller ∧
      firstAppearance.InStep ∧
      ∃ t, controller.step evenWidths .nextPageController = .ok t :=
  have hrun := Machine.run_of_replay
    ((firstAppearance.tabs evenWidths).when (FavoriteViewController.Prepared evenWidths))
    [.nextPageController, .previousPageController, .viewWillAppear []] (by decide +kernel)
  have hfirst : FavoriteViewController.viewDidLoad.viewWillAppear [] = .ok firstAppearance := rfl
  have htabs := favorite_tabs_iff evenWidths hfirst hrun.of_when
  ⟨_, hrun.of_when, htabs.2.2.mp (htabs.2.2.mpr hrun), htabs.1, htabs.2.1 _⟩

/-- Titles that do not grow by the same in bold: there and back moves the line by -1. -/
def unevenWidths : TitleWidths where
  screen := 375
  favoriteTitle font := if font = .proximaNova_Bold then 120 else 112
  seeLaterTitle font := if font = .proximaNova_Bold then 130 else 120

/-- A tap on the title that is selected, a second appearance of the screen and a switch there
    and back, each from the first appearance on. -/
theorem tabs_out_of_step :
    FavoriteViewController.viewDidLoad.viewWillAppear [] = .ok firstAppearance ∧
    (∃ controller,
      (firstAppearance.tabs unevenWidths).Run [.previousPageController] controller ∧
      controller.pageController = some (.page 1) ∧
      ¬ FavoriteViewController.Faithful .previousPageController controller) ∧
    (∃ controller,
      (firstAppearance.tabs unevenWidths).Run [.nextPageController, .viewWillAppear []] controller ∧
      controller.currentIndex = 1 ∧ controller.pageController = some (.page 0) ∧
      ¬ controller.InStep) ∧
    (∃ controller,
      (firstAppearance.tabs unevenWidths).Run [.nextPageController, .previousPageController]
        controller ∧
      controller.currentIndex = 0 ∧ controller.leftContainer = some 39 ∧
      ¬ controller.InStep) := by
  have hsame := Machine.run_of_replay (firstAppearance.tabs unevenWidths)
    [.previousPageController] (by decide +kernel)
  have happears := Machine.run_of_replay (firstAppearance.tabs unevenWidths)
    [.nextPageController, .viewWillAppear []] (by decide +kernel)
  have hback := Machine.run_of_replay (firstAppearance.tabs unevenWidths)
    [.nextPageController, .previousPageController] (by decide +kernel)
  refine ⟨rfl, ⟨_, hsame, by decide +kernel, fun hfaithful => ?_⟩,
    ⟨_, happears, by decide +kernel, by decide +kernel, fun hin => ?_⟩,
    ⟨_, hback, by decide +kernel, by decide +kernel, fun hin => ?_⟩⟩
  · exact absurd hfaithful.2 (by decide +kernel)
  · exact absurd hin.displayed (by decide +kernel)
  · exact absurd (hin.line (by decide +kernel)) (by decide +kernel)

end BingePodcast
