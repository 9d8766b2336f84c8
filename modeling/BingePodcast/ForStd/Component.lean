import BingePodcast.ForStd.Except
import BingePodcast.ForStd.Machine

/-!
# Components of a machine

A component watches a machine: it follows every step of the machine and takes steps of its
own, which the machine does not notice. `Machine.attach` runs both together. A machine whose
steps depend on the states of another one is a component of it, `Machine.guarded`.

## Key results

- `Machine.Run.of_attach`: the machine runs as it does alone
- `Machine.Run.attach_invariant`: what a component keeps along every run
- `Machine.Run.of_guarded`: a guarded machine may assume what the other one guarantees
-/

/-- A component that watches a machine with states `σ` and events `ε`. -/
structure Component (σ ε γ δ τ : Type*) where
  init : γ
  /-- What a step of the machine, given its ends, does to the component. -/
  follow : σ → ε → σ → γ → γ
  Enabled : σ → γ → δ → Prop
  step : σ → γ → δ → Except τ γ

namespace Machine

variable {σ ε γ δ τ : Type} {M : Machine σ ε τ} {C : Component σ ε γ δ τ}
variable {N : Machine γ δ τ} {G : σ → γ → δ → Prop}
variable {es : List (ε ⊕ δ)} {s : σ} {c : γ}

/-- The machine together with a component. -/
def attach (M : Machine σ ε τ) (C : Component σ ε γ δ τ) : Machine (σ × γ) (ε ⊕ δ) τ where
  init := (M.init, C.init)
  Enabled s := Sum.elim (M.Enabled s.1) (C.Enabled s.1 s.2)
  step s
    | .inl e => do
      let t ← M.step s.1 e
      return (t, C.follow s.1 e t s.2)
    | .inr d => do
      let c ← C.step s.1 s.2 d
      return (s.1, c)

instance [∀ s e, Decidable (M.Enabled s e)] [∀ s c d, Decidable (C.Enabled s c d)]
    (s : σ × γ) (e : ε ⊕ δ) : Decidable ((M.attach C).Enabled s e) :=
  match e with
  | .inl e => inferInstanceAs (Decidable (M.Enabled s.1 e))
  | .inr d => inferInstanceAs (Decidable (C.Enabled s.1 s.2 d))

theorem attach_step_inl {e : ε} {sc : σ × γ} :
    (M.attach C).step (s, c) (.inl e) = .ok sc ↔
      ∃ t, M.step s e = .ok t ∧ sc = (t, C.follow s e t c) := by
  simp only [attach, Except.bind_eq_ok, Except.pure_eq_ok, Except.ok.injEq, eq_comm (a := sc)]

theorem attach_step_inr {d : δ} {sc : σ × γ} :
    (M.attach C).step (s, c) (.inr d) = .ok sc ↔ ∃ c', C.step s c d = .ok c' ∧ sc = (s, c') := by
  simp only [attach, Except.bind_eq_ok, Except.pure_eq_ok, Except.ok.injEq, eq_comm (a := sc)]

/-- The machine does not notice the component. -/
theorem Run.of_attach {sc : σ × γ} (h : (M.attach C).Run es sc) :
    M.Run (es.filterMap Sum.getLeft?) sc.1 := by
  induction h with
  | nil => exact .nil
  | @snoc es sc sc' e _ hen hstep ih =>
    rw [List.filterMap_append]
    cases e with
    | inl e =>
      obtain ⟨t, ht, rfl⟩ := attach_step_inl.mp hstep
      exact .snoc ih hen ht
    -- a step of the component is none of the machine
    | inr d =>
      obtain ⟨c', -, rfl⟩ := attach_step_inr.mp hstep
      rwa [List.filterMap_cons_none rfl, List.filterMap_nil, List.append_nil]

/-- A relation between the machine and the component that holds at the start, that the
    component re-establishes after every step of the machine and that its own steps keep,
    holds along every run. The steps may be assumed to meet a condition. -/
theorem Run.attach_invariant {D : σ × γ → ε ⊕ δ → Prop} {I : σ → γ → Prop}
    (hinit : I M.init C.init)
    (hfollow : ∀ es s c e t, M.Run es s → I s c → M.Enabled s e → M.step s e = .ok t →
      I t (C.follow s e t c))
    (hown : ∀ es s c d c', M.Run es s → I s c → C.Enabled s c d → D (s, c) (.inr d) →
      C.step s c d = .ok c' → I s c')
    {sc : σ × γ} (h : ((M.attach C).when D).Run es sc) : I sc.1 sc.2 := by
  induction h with
  | nil => exact hinit
  | @snoc es sc sc' e hrun hen hstep ih =>
    cases e with
    | inl e =>
      obtain ⟨t, ht, rfl⟩ := attach_step_inl.mp hstep
      exact hfollow _ _ _ _ _ hrun.of_when.of_attach ih hen.1 ht
    | inr d =>
      obtain ⟨c', hc', rfl⟩ := (attach_step_inr (M := M)).mp hstep
      exact hown _ _ _ _ _ hrun.of_when.of_attach ih hen.1 hen.2 hc'

/-- A machine beside another one, whose states allow or forbid its steps. -/
def guarded (N : Machine γ δ τ) (G : σ → γ → δ → Prop) : Component σ ε γ δ τ where
  init := N.init
  follow _ _ _ c := c
  Enabled s c d := N.Enabled c d ∧ G s c d
  step _ := N.step

instance [∀ c d, Decidable (N.Enabled c d)] [∀ s c d, Decidable (G s c d)] (s : σ) (c : γ) (d : δ) :
    Decidable ((N.guarded G : Component σ ε γ δ τ).Enabled s c d) :=
  inferInstanceAs (Decidable (N.Enabled c d ∧ G s c d))

/-- A guarded machine runs as it does alone, and at each of its steps it may assume what holds
    in every state that the other machine reaches and that allows the step. -/
theorem Run.of_guarded {A : γ → δ → Prop} (hguard : ∀ es s c d, M.Run es s → G s c d → A c d)
    {sc : σ × γ} (h : (M.attach (N.guarded G)).Run es sc) :
    (N.when A).Run (es.filterMap Sum.getRight?) sc.2 := by
  induction h with
  | nil => exact .nil
  | @snoc es sc sc' e hrun hen hstep ih =>
    rw [List.filterMap_append]
    cases e with
    | inl e =>
      obtain ⟨t, -, rfl⟩ := attach_step_inl.mp hstep
      rwa [List.filterMap_cons_none rfl, List.filterMap_nil, List.append_nil]
    | inr d =>
      obtain ⟨c', hc', rfl⟩ := (attach_step_inr (M := M)).mp hstep
      exact .snoc ih ⟨hen.1, hguard _ _ _ _ hrun.of_attach hen.2⟩ hc'

end Machine
