import Mathlib.Data.List.Induction
import Mathlib.Data.List.Infix
import Mathlib.Logic.Relation

/-!
# Event-driven machines

A `Machine` is a state that its environment drives by events. `Enabled` says which
events the environment can send in a state, `step` what an event does: it yields the
next state or traps. A `Run` is a sequence of enabled events none of which trapped.

## Key results

- `Machine.run_iff_replay`: runs are computable
- `Machine.Run.invariant`: what every step preserves holds at the end of every run
- `Machine.Run.advance`: what every step advances is advanced in the rest of a run
- `Machine.Run.forall_prefix_iff_when`: a property holds all along a run exactly when
  every step of the run meets a condition
- `Machine.Run.forall_step_iff_when`: the same for a property of single steps
- `Machine.Outcome.exists_ok_iff`: events lead to a state exactly when none of them traps
- `Machine.Run.reaches_of_decreasing`: what can always be brought nearer can be reached
- `Machine.Run.exists_continuation`: so can what only a bounded number of events keeps away
- `Machine.Run.unwind`: two runs with equal observations make equal outputs
-/

/-- States `σ` driven by events `ε`; a step may trap with a `τ`. -/
structure Machine (σ ε τ : Type*) where
  /-- The state before the first event. -/
  init : σ
  /-- The events that can occur in a state. -/
  Enabled : σ → ε → Prop
  /-- The effect of an event. -/
  step : σ → ε → Except τ σ

namespace Machine

variable {σ ε τ : Type*} {M : Machine σ ε τ}
variable {es es₁ es₂ : List ε} {s t u : σ} {e : ε}

/-- `M.Run es s`: the events `es`, each enabled when it occurs, lead from `M.init`
    to `s` without a trap. -/
inductive Run (M : Machine σ ε τ) : List ε → σ → Prop
  | nil : M.Run [] M.init
  | snoc {es : List ε} {s t : σ} {e : ε} :
      M.Run es s → M.Enabled s e → M.step s e = .ok t → M.Run (es ++ [e]) t

/-- The machine that takes only the steps of `M` that meet `C`. Its runs are the runs
    of `M` whose steps all meet `C`. -/
def when (M : Machine σ ε τ) (C : σ → ε → Prop) : Machine σ ε τ where
  init := M.init
  Enabled s e := M.Enabled s e ∧ C s e
  step := M.step

instance {C : σ → ε → Prop} [∀ s e, Decidable (M.Enabled s e)] [∀ s e, Decidable (C s e)]
    (s : σ) (e : ε) : Decidable ((M.when C).Enabled s e) :=
  inferInstanceAs (Decidable (M.Enabled s e ∧ C s e))

/-- The machine started in another state. -/
def startAt (M : Machine σ ε τ) (s : σ) : Machine σ ε τ := { M with init := s }

theorem run_nil_iff : M.Run [] s ↔ s = M.init := by
  constructor
  · generalize hl : ([] : List ε) = l
    intro h
    cases h with
    | nil => rfl
    | snoc _ _ _ => simp at hl
  · rintro rfl
    exact .nil

theorem run_snoc_iff :
    M.Run (es ++ [e]) t ↔ ∃ s, M.Run es s ∧ M.Enabled s e ∧ M.step s e = .ok t := by
  constructor
  · generalize hl : es ++ [e] = l
    intro h
    cases h with
    | nil => simp at hl
    | snoc hrun hen hstep =>
      obtain ⟨rfl, he⟩ := List.append_inj' hl rfl
      obtain rfl := List.singleton_inj.mp he
      exact ⟨_, hrun, hen, hstep⟩
  · rintro ⟨s, hrun, hen, hstep⟩
    exact .snoc hrun hen hstep

/-- A sequence of events leads to at most one state. -/
theorem Run.det (h₁ : M.Run es s) (h₂ : M.Run es t) : s = t := by
  induction h₁ generalizing t with
  | nil => exact (run_nil_iff.mp h₂).symm
  | snoc _ _ hstep ih =>
    obtain ⟨_, hrun, _, hstep'⟩ := run_snoc_iff.mp h₂
    rw [ih hrun, hstep'] at hstep
    exact (Except.ok.inj hstep).symm

/-- A property of `init` that every step preserves holds at the end of every run. -/
theorem Run.invariant {I : σ → Prop} (hinit : I M.init)
    (hstep : ∀ s e t, I s → M.Enabled s e → M.step s e = .ok t → I t)
    (h : M.Run es s) : I s := by
  induction h with
  | nil => exact hinit
  | snoc _ hen hst ih => exact hstep _ _ _ ih hen hst

/-- The events of a run up to any point are a run. -/
theorem Run.of_prefix (h : M.Run es s) (hpre : es₁ <+: es) : ∃ t, M.Run es₁ t := by
  induction h with
  | nil =>
    obtain rfl := List.prefix_nil.mp hpre
    exact ⟨_, .nil⟩
  | snoc hrun hen hst ih =>
    rcases List.prefix_concat_iff.mp hpre with rfl | hpre
    · exact ⟨_, .snoc hrun hen hst⟩
    · exact ih hpre

/-- What every step advances by `r` is advanced by `r` in the rest of a run. -/
theorem Run.advance {r : σ → σ → Prop} (hrefl : ∀ s, r s s)
    (htrans : ∀ s t u, r s t → r t u → r s u)
    (hstep : ∀ s e t, M.Enabled s e → M.step s e = .ok t → r s t)
    (h₁ : M.Run es₁ s) (h₂ : M.Run (es₁ ++ es₂) t) : r s t := by
  induction es₂ using List.reverseRecOn generalizing t with
  | nil =>
    rw [List.append_nil] at h₂
    exact h₁.det h₂ ▸ hrefl s
  | append_singleton es e ih =>
    rw [← List.append_assoc] at h₂
    obtain ⟨u, hu, hen, hst⟩ := run_snoc_iff.mp h₂
    exact htrans _ _ _ (ih hu) (hstep _ _ _ hen hst)

/-- A run that meets `C` at every step is a run. -/
theorem Run.of_when {C : σ → ε → Prop} (h : (M.when C).Run es s) : M.Run es s := by
  induction h with
  | nil => exact .nil
  | snoc _ hen hst ih => exact .snoc ih hen.1 hst

/-- A run that meets `C` at every step meets what follows from `C`. -/
theorem Run.when_mono {C D : σ → ε → Prop} (hCD : ∀ s e, C s e → D s e)
    (h : (M.when C).Run es s) : (M.when D).Run es s := by
  induction h with
  | nil => exact .nil
  | snoc _ hen hst ih => exact .snoc ih ⟨hen.1, hCD _ _ hen.2⟩ hst

/-- A run all of whose events meet `C` is a run that meets `C` at every step. -/
theorem Run.when_of_forall {C : ε → Prop} (h : M.Run es s) (hall : ∀ e ∈ es, C e) :
    (M.when fun _ e => C e).Run es s := by
  induction h with
  | nil => exact .nil
  | @snoc es s t e _ hen hst ih =>
    have hbefore : ∀ e ∈ es, C e := fun e he => hall e (List.mem_append_left _ he)
    have hlast : C e := hall e (List.mem_append_right _ (List.mem_singleton_self e))
    exact .snoc (ih hbefore) ⟨hen, hlast⟩ hst

/-- A run meets a condition that all steps meet. -/
theorem Run.when_of_all {C : σ → ε → Prop} (h : M.Run es s) (hall : ∀ s e, C s e) :
    (M.when C).Run es s := by
  induction h with
  | nil => exact .nil
  | snoc _ hen hst ih => exact .snoc ih ⟨hen, hall _ _⟩ hst

/-! ## Traps -/

/-- `M.Outcome es r`: the events `es`, each enabled when it occurs, lead to `r`, which is a
    state, or a trap of the last event. -/
inductive Outcome (M : Machine σ ε τ) : List ε → Except τ σ → Prop
  | nil : M.Outcome [] (.ok M.init)
  | snoc {es : List ε} {s : σ} {e : ε} :
      M.Run es s → M.Enabled s e → M.Outcome (es ++ [e]) (M.step s e)

theorem outcome_ok_iff : M.Outcome es (.ok s) ↔ M.Run es s := by
  constructor
  · generalize hr : Except.ok s = r
    intro h
    cases h with
    | nil => exact Except.ok.inj hr ▸ .nil
    | snoc hrun hen => exact .snoc hrun hen hr.symm
  · intro h
    cases h with
    | nil => exact .nil
    | snoc hrun hen hstep => exact hstep ▸ .snoc hrun hen

/-- If exactly the events that meet `C` do not trap, events lead to a state exactly when all
    of them meet `C`. -/
theorem Outcome.exists_ok_iff {C : ε → Prop} {r : Except τ σ}
    (hstep : ∀ es' s e, es' ++ [e] <+: es → M.Run es' s → M.Enabled s e →
      ((∃ t, M.step s e = .ok t) ↔ C e))
    (h : M.Outcome es r) : (∃ s, r = .ok s) ↔ ∀ e ∈ es, C e := by
  -- the events of a run have not trapped
  have hrun : ∀ es' s, es' <+: es → M.Run es' s → ∀ e ∈ es', C e := by
    intro es' s hpre hrun
    induction hrun with
    | nil => simp
    | snoc hrun hen hst ih =>
      simp only [List.mem_append, List.mem_singleton, or_imp, forall_and, forall_eq]
      exact ⟨ih ((List.prefix_append _ _).trans hpre), (hstep _ _ _ hpre hrun hen).mp ⟨_, hst⟩⟩
  cases h with
  | nil => simp
  | snoc hbefore hen =>
    rw [hstep _ _ _ (List.prefix_refl _) hbefore hen]
    simp only [List.mem_append, List.mem_singleton, or_imp, forall_and, forall_eq]
    exact ⟨fun hlast => ⟨hrun _ _ (List.prefix_append _ _) hbefore, hlast⟩, And.right⟩

/-! ## Replaying events -/

section Replay

variable [∀ s e, Decidable (M.Enabled s e)]

/-- Run `es` from `s`: `none` if an event is not enabled or traps. -/
def replayFrom (M : Machine σ ε τ) [∀ s e, Decidable (M.Enabled s e)] (s : σ) :
    List ε → Option σ
  | [] => some s
  | e :: es =>
    if M.Enabled s e then
      match M.step s e with
      | .ok t => replayFrom M t es
      | .error _ => none
    else none

/-- Run `es` from the initial state. -/
def replay (M : Machine σ ε τ) [∀ s e, Decidable (M.Enabled s e)] (es : List ε) :
    Option σ :=
  M.replayFrom M.init es

theorem replayFrom_append :
    M.replayFrom s (es₁ ++ es₂) = (M.replayFrom s es₁).bind (M.replayFrom · es₂) := by
  -- both sides fail at the first event of `es₁` that is not enabled or traps
  induction es₁ generalizing s with
  | nil => rfl
  | cons e es₁ ih =>
    simp only [List.cons_append, replayFrom]
    split
    · cases M.step s e with
      | ok t => exact ih
      | error _ => rfl
    · rfl

theorem replayFrom_singleton :
    M.replayFrom s [e] = some t ↔ M.Enabled s e ∧ M.step s e = .ok t := by
  simp only [replayFrom]
  split
  · cases M.step s e <;> simp [*]
  · simp [*]

/-- `replay` computes runs. -/
theorem run_iff_replay : M.Run es s ↔ M.replay es = some s := by
  induction es using List.reverseRecOn generalizing s with
  | nil => simp [run_nil_iff, replay, replayFrom, eq_comm]
  | append_singleton es e ih =>
    rw [run_snoc_iff, replay, replayFrom_append, Option.bind_eq_some_iff]
    simp only [ih, replay, replayFrom_singleton]

/-- A replay that gets through gives a run. -/
theorem run_of_replay (M : Machine σ ε τ) [∀ s e, Decidable (M.Enabled s e)] (es : List ε)
    (h : (M.replay es).isSome) : M.Run es ((M.replay es).get h) :=
  run_iff_replay.mpr (Option.some_get h).symm

end Replay

/-! ## Continuing a run -/

/-- Some events that all meet `C` lead from a state to another. -/
def Reaches (M : Machine σ ε τ) (C : ε → Prop) : σ → σ → Prop :=
  Relation.ReflTransGen fun s t => ∃ e, C e ∧ M.Enabled s e ∧ M.step s e = .ok t

section Reaches

variable {C : ε → Prop}

theorem Reaches.refl (s : σ) : M.Reaches C s s := Relation.ReflTransGen.refl

theorem Reaches.of_step (he : C e) (hen : M.Enabled s e) (hstep : M.step s e = .ok t) :
    M.Reaches C s t :=
  Relation.ReflTransGen.single ⟨e, he, hen, hstep⟩

theorem Reaches.trans (h₁ : M.Reaches C s t) (h₂ : M.Reaches C t u) : M.Reaches C s u :=
  Relation.ReflTransGen.trans h₁ h₂

/-- What can be reached from the end of a run is reached by a longer run. -/
theorem Run.extend (h : M.Run es s) (hreach : M.Reaches C s t) :
    ∃ es', (∀ e ∈ es', C e) ∧ M.Run (es ++ es') t := by
  induction hreach with
  | refl => exact ⟨[], by simp, by rwa [List.append_nil]⟩
  | tail _ hstep ih =>
    obtain ⟨es', hall, hrun⟩ := ih
    obtain ⟨e, he, hen, hst⟩ := hstep
    refine ⟨es' ++ [e], ?_, by rw [← List.append_assoc]; exact .snoc hrun hen hst⟩
    simpa [or_imp, forall_and] using ⟨hall, he⟩

/-- If a run that meets `I` but not `P` can always be continued to one that meets `I` with a
    smaller measure, it can be continued to one that meets both. -/
theorem Run.reaches_of_decreasing {I P : σ → Prop} (measure : σ → Nat)
    (hstep : ∀ es s, M.Run es s → I s → ¬ P s →
      ∃ t, M.Reaches C s t ∧ I t ∧ measure t < measure s)
    (h : M.Run es s) (hI : I s) : ∃ t, M.Reaches C s t ∧ I t ∧ P t := by
  induction hn : measure s using Nat.strongRecOn generalizing es s with
  | ind n ih =>
    by_cases hP : P s
    · exact ⟨s, .refl s, hI, hP⟩
    · obtain ⟨t, hst, ht, hlt⟩ := hstep es s h hI hP
      obtain ⟨es', -, hrun⟩ := h.extend hst
      obtain ⟨u, htu, hu⟩ := ih (measure t) (hn ▸ hlt) hrun ht rfl
      exact ⟨u, hst.trans htu, hu⟩

end Reaches

/-- If a run that does not meet `P` can always be continued by an event of a kind of which no
    more than `n` can follow, it can be continued by such events to one that meets `P`. -/
theorem Run.exists_continuation {P : σ → Prop} {C : ε → Prop} {n : Nat}
    (hstep : ∀ es s, M.Run es s → ¬ P s → ∃ e t, C e ∧ M.Enabled s e ∧ M.step s e = .ok t)
    (hbound : ∀ es' t, (∀ e ∈ es', C e) → M.Run (es ++ es') t → es'.length ≤ n)
    (h : M.Run es s) : ∃ es' t, (∀ e ∈ es', C e) ∧ M.Run (es ++ es') t ∧ P t := by
  by_contra hnever
  -- then there are continuations of every length
  have hlong : ∀ k, ∃ es' t, (∀ e ∈ es', C e) ∧ M.Run (es ++ es') t ∧ es'.length = k := by
    intro k
    induction k with
    | zero => exact ⟨[], s, by simp, by rwa [List.append_nil], rfl⟩
    | succ k ih =>
      obtain ⟨es', t, hall, hrun, hlength⟩ := ih
      obtain ⟨e, u, he, hen, hst⟩ := hstep _ t hrun fun hP => hnever ⟨es', t, hall, hrun, hP⟩
      refine ⟨es' ++ [e], u, ?_, by rw [← List.append_assoc]; exact .snoc hrun hen hst, ?_⟩
      · simpa [or_imp, forall_and] using ⟨hall, he⟩
      · rw [List.length_append, hlength, List.length_singleton]
  obtain ⟨es', t, hall, hrun, hlength⟩ := hlong (n + 1)
  have hle := hbound es' t hall hrun
  omega

/-! ## Properties that hold all along a run -/

/-- Suppose that, as long as all steps so far met `C`, the next step keeps `P` exactly
    when it meets `C`. Then `P` holds all along a run exactly when the whole run
    meets `C`. -/
theorem Run.forall_prefix_iff_when {P : σ → Prop} {C : σ → ε → Prop} (hinit : P M.init)
    (hstep : ∀ es s e t, (M.when C).Run es s → P s → M.Enabled s e →
      M.step s e = .ok t → (P t ↔ C s e))
    (h : M.Run es s) :
    (∀ es' s', es' <+: es → M.Run es' s' → P s') ↔ (M.when C).Run es s := by
  induction h with
  | nil =>
    refine ⟨fun _ => .nil, fun _ es' s' hpre hrun => ?_⟩
    obtain rfl := List.prefix_nil.mp hpre
    rw [run_nil_iff.mp hrun]
    exact hinit
  | @snoc es s t e hrun hen hst ih =>
    constructor
    · -- `P` before and after the last event makes that event meet `C`
      intro hall
      have hwhen := ih.mp fun es' s' hpre => hall es' s' (hpre.trans (List.prefix_append _ _))
      have hs : P s := hall es s (List.prefix_append _ _) hrun
      have ht : P t := hall (es ++ [e]) t (List.prefix_refl _) (.snoc hrun hen hst)
      exact .snoc hwhen ⟨hen, (hstep es s e t hwhen hs hen hst).mp ht⟩ hst
    · -- a prefix is the whole run or a prefix of the run without its last event
      intro hwhen es' s' hpre hrun'
      obtain ⟨s₁, hwhen₁, ⟨hen₁, hC⟩, hst₁⟩ := run_snoc_iff.mp hwhen
      obtain rfl := hrun.det hwhen₁.of_when
      have hall := ih.mpr hwhen₁
      rcases List.prefix_concat_iff.mp hpre with rfl | hpre
      · obtain rfl := hrun'.det (.snoc hrun hen hst)
        have hs : P s := hall es s (List.prefix_refl _) hrun
        exact (hstep es s e _ hwhen₁ hs hen hst).mpr hC
      · exact hall es' s' hpre hrun'

/-- Suppose that, as long as all steps so far met `C`, the next step does `Q` exactly when
    it meets `C`. Then all steps of a run do `Q` exactly when the whole run meets `C`. -/
theorem Run.forall_step_iff_when {Q : σ → ε → σ → Prop} {C : σ → ε → Prop}
    (hstep : ∀ es s e t, (M.when C).Run es s → M.Enabled s e → M.step s e = .ok t →
      (Q s e t ↔ C s e))
    (h : M.Run es s) :
    (∀ es' e s' t', es' ++ [e] <+: es → M.Run es' s' → M.step s' e = .ok t' → Q s' e t') ↔
      (M.when C).Run es s := by
  induction h with
  | nil =>
    refine ⟨fun _ => .nil, fun _ es' e s' t' hpre => ?_⟩
    exact absurd (List.prefix_nil.mp hpre) (by simp)
  | @snoc es s t e hrun hen hst ih =>
    constructor
    · intro hall
      have hwhen := ih.mp fun es' e' s' t' hpre =>
        hall es' e' s' t' (hpre.trans (List.prefix_append _ _))
      have hQ : Q s e t := hall es e s t (List.prefix_refl _) hrun hst
      exact .snoc hwhen ⟨hen, (hstep es s e t hwhen hen hst).mp hQ⟩ hst
    · intro hwhen es' e' s' t' hpre hrun' hst'
      obtain ⟨s₁, hwhen₁, ⟨hen₁, hC⟩, hst₁⟩ := run_snoc_iff.mp hwhen
      obtain rfl := hrun.det hwhen₁.of_when
      -- the step is the last one of the run or one before it
      rcases List.prefix_concat_iff.mp hpre with heq | hpre
      · obtain ⟨rfl, he⟩ := List.append_inj' heq rfl
        obtain rfl := List.singleton_inj.mp he
        obtain rfl := hrun'.det hrun
        exact (hstep es' s' e' t' hwhen₁ hen₁ hst').mpr hC
      · exact ih.mpr hwhen₁ es' e' s' t' hpre hrun' hst'

/-! ## Traces and two-run properties -/

/-- The labels of the steps that `es` takes from `s`, up to the first trap. -/
def traceFrom (M : Machine σ ε τ) {ι : Type*} (label : σ → ε → Option ι) (s : σ) :
    List ε → List ι
  | [] => []
  | e :: es =>
    (label s e).toList ++
      match M.step s e with
      | .ok t => traceFrom M label t es
      | .error _ => []

/-- The labels of the steps of a run. -/
def trace (M : Machine σ ε τ) {ι : Type*} (label : σ → ε → Option ι) (es : List ε) :
    List ι :=
  M.traceFrom label M.init es

variable {ι κ : Type*} {label : σ → ε → Option ι}

@[simp] theorem trace_nil : M.trace label [] = [] := rfl

theorem Run.trace_snoc (h : M.Run es s) :
    M.trace label (es ++ [e]) = M.trace label es ++ (label s e).toList := by
  suffices key : ∀ es₁ es₂ u, M.Run es₁ u → es₁ ++ es₂ = es →
      M.traceFrom label u (es₂ ++ [e]) =
        M.traceFrom label u es₂ ++ (label s e).toList from
    key [] es M.init .nil rfl
  intro es₁ es₂
  induction es₂ generalizing es₁ with
  | nil =>
    intro u hrun heq
    rw [List.append_nil] at heq
    subst heq
    obtain rfl := hrun.det h
    simp only [List.nil_append, traceFrom]
    cases M.step u e <;> simp
  | cons e' es₂ ih =>
    intro u hrun heq
    -- the run `h` passes through `u` and takes `e'` there
    obtain ⟨v, hv⟩ := h.of_prefix (show es₁ ++ [e'] <+: es from ⟨es₂, by simpa using heq⟩)
    obtain ⟨u', hu', _, hst⟩ := run_snoc_iff.mp hv
    obtain rfl := hrun.det hu'
    simp only [List.cons_append, traceFrom, hst, List.append_assoc]
    rw [ih (es₁ ++ [e']) v hv (by simpa using heq)]

/-- Events without a label leave no trace. -/
theorem Run.trace_append_of_none (hnone : ∀ s, ∀ e ∈ es₂, label s e = none)
    (h : M.Run (es₁ ++ es₂) s) : M.trace label (es₁ ++ es₂) = M.trace label es₁ := by
  induction es₂ using List.reverseRecOn generalizing s with
  | nil => rw [List.append_nil]
  | append_singleton es e ih =>
    rw [← List.append_assoc] at h ⊢
    obtain ⟨t, hrun, -, -⟩ := run_snoc_iff.mp h
    rw [hrun.trace_snoc, hnone t e (by simp), ih (fun s e he => hnone s e (by simp [he])) hrun]
    simp

/-- Unwinding. `R` relates the states of two runs. A step with no label makes no output
    and stays in `R` on its own; steps with equal labels make equal outputs and keep `R`
    together. Then runs with equal traces of labels have equal traces of outputs. -/
theorem Run.unwind (label : σ → ε → Option ι) (out : σ → ε → Option κ) {R : σ → σ → Prop}
    (hinit : R M.init M.init)
    (hleft : ∀ s e t u, M.Enabled s e → M.step s e = .ok t → label s e = none →
      R s u → out s e = none ∧ R t u)
    (hright : ∀ s e t u, M.Enabled s e → M.step s e = .ok t → label s e = none →
      R u s → out s e = none ∧ R u t)
    (hboth : ∀ s e t s' e' t' l, M.Enabled s e → M.step s e = .ok t → M.Enabled s' e' →
      M.step s' e' = .ok t' → label s e = some l → label s' e' = some l → R s s' →
      out s e = out s' e' ∧ R t t')
    (h₁ : M.Run es₁ s) (h₂ : M.Run es₂ t) (htrace : M.trace label es₁ = M.trace label es₂) :
    M.trace out es₁ = M.trace out es₂ ∧ R s t := by
  induction h₁ generalizing es₂ t with
  | nil =>
    -- the second run makes only unlabelled steps
    induction h₂ with
    | nil => exact ⟨rfl, hinit⟩
    | snoc hr hen hst ih =>
      rw [hr.trace_snoc, trace_nil, eq_comm, List.append_eq_nil_iff,
        Option.toList_eq_nil_iff] at htrace
      obtain ⟨hout, hR⟩ := ih htrace.1.symm
      obtain ⟨hnone, hR'⟩ := hright _ _ _ _ hen hst htrace.2 hR
      exact ⟨by rw [hr.trace_snoc, hnone, hout]; simp, hR'⟩
  | @snoc es₁ s s' e hr₁ hen₁ hst₁ ih₁ =>
    cases hl₁ : label s e with
    | none =>
      -- the first run's last step is its own affair
      rw [hr₁.trace_snoc, hl₁, Option.toList_none, List.append_nil] at htrace
      obtain ⟨hout, hR⟩ := ih₁ h₂ htrace
      obtain ⟨hnone, hR'⟩ := hleft _ _ _ _ hen₁ hst₁ hl₁ hR
      exact ⟨by rw [hr₁.trace_snoc, hnone, hout]; simp, hR'⟩
    | some l =>
      -- go back along the second run to the step with the label `l`
      induction h₂ with
      | nil => simp [hr₁.trace_snoc, hl₁] at htrace
      | @snoc es₂ u u' e₂ hr₂ hen₂ hst₂ ih₂ =>
        cases hl₂ : label u e₂ with
        | none =>
          rw [hr₂.trace_snoc, hl₂, Option.toList_none, List.append_nil] at htrace
          obtain ⟨hout, hR⟩ := ih₂ htrace
          obtain ⟨hnone, hR'⟩ := hright _ _ _ _ hen₂ hst₂ hl₂ hR
          exact ⟨by rw [hout, hr₂.trace_snoc, hnone]; simp, hR'⟩
        | some l₂ =>
          -- both runs end with a labelled step, so the labels are the same
          rw [hr₁.trace_snoc, hr₂.trace_snoc, hl₁, hl₂] at htrace
          obtain ⟨hpre, hl⟩ := List.append_inj' htrace rfl
          obtain rfl : l = l₂ := by simpa using hl
          obtain ⟨hout, hR⟩ := ih₁ hr₂ hpre
          obtain ⟨heq, hR'⟩ := hboth _ _ _ _ _ _ l hen₁ hst₁ hen₂ hst₂ hl₁ hl₂ hR
          exact ⟨by rw [hr₁.trace_snoc, hr₂.trace_snoc, hout, heq], hR'⟩

end Machine
