import Mathlib.Tactic.Common

/-!
# Runs of a step function, and their invariants

A system is a total step function `step : σ → α → σ`: an action that is not enabled leaves the
state alone.  A run is a list of actions, and a property of every reachable state is a property
of the last state of every run, since a prefix of a run is a run.

`run_invariant` is the plain induction.  `Guarded` restricts a run to the actions that meet a
condition in the state they are taken in; `Guarded.invariant` is the induction for an invariant
that such actions preserve, and `Guarded.iff_forall_take` says that no other runs keep it when no
other actions preserve it.
-/

namespace Framework

variable {σ α β : Type*}

/-- The state a list of actions leads to. -/
def run (step : σ → α → σ) (s : σ) (as : List α) : σ := as.foldl step s

@[simp] lemma run_nil (step : σ → α → σ) (s : σ) : run step s [] = s := rfl

@[simp] lemma run_cons (step : σ → α → σ) (s : σ) (a : α) (as : List α) :
    run step s (a :: as) = run step (step s a) as := rfl

lemma run_append (step : σ → α → σ) (s : σ) (as bs : List α) :
    run step s (as ++ bs) = run step (run step s as) bs :=
  List.foldl_append

/-- **Invariant rule.**  What every action preserves holds at the end of every run. -/
theorem run_invariant {step : σ → α → σ} {I : σ → Prop} (hstep : ∀ s a, I s → I (step s a))
    {s : σ} (hs : I s) (as : List α) : I (run step s as) := by
  induction as generalizing s with
  | nil => exact hs
  | cons a as ih => exact ih (hstep s a hs)

/-- What holds at every place of a run, given what comes before, holds at its first and at all later
places. -/
lemma forall_places_cons {P : List α → α → Prop} (a : α) (as : List α) :
    (∀ before b later, a :: as = before ++ b :: later → P before b) ↔
      P [] a ∧ ∀ before b later, as = before ++ b :: later → P (a :: before) b := by
  constructor
  · intro h
    refine ⟨h [] a as rfl, fun before b later hsplit => h (a :: before) b later ?_⟩
    rw [hsplit, List.cons_append]
  · rintro ⟨hfirst, hlater⟩ before b later hsplit
    rcases List.cons_eq_append_iff.mp hsplit with ⟨rfl, hhere⟩ | ⟨before', rfl, hrest⟩
    · obtain ⟨rfl, -⟩ := List.cons.inj hhere
      exact hfirst
    · exact hlater before' b later hrest

/-- Every action of the run meets `C` in the state it is taken in. -/
def Guarded (step : σ → α → σ) (C : σ → α → Prop) : σ → List α → Prop
  | _, [] => True
  | s, a :: as => C s a ∧ Guarded step C (step s a) as

namespace Guarded

variable {step : σ → α → σ} {C : σ → α → Prop} {s : σ}

@[simp] lemma nil : Guarded step C s [] := trivial

/-- **Guarded invariant rule.**  What every action that meets its condition preserves holds at
the end of every guarded run. -/
theorem invariant {I : σ → Prop} (hstep : ∀ s a, I s → C s a → I (step s a)) {as : List α}
    (hs : I s) (has : Guarded step C s as) : I (run step s as) := by
  induction as generalizing s with
  | nil => exact hs
  | cons a as ih => exact ih (hstep s a hs has.1) has.2

/-- An invariant under which every action meets its condition guards all runs. -/
theorem of_invariant {I : σ → Prop} (hstep : ∀ s a, I s → I (step s a)) (hC : ∀ s a, I s → C s a)
    (hs : I s) (as : List α) : Guarded step C s as := by
  induction as generalizing s with
  | nil => exact nil
  | cons a as ih => exact ⟨hC s a hs, ih (hstep s a hs)⟩

/-- **Exactly the guarded runs keep an invariant** when the condition on an action is exactly that
it preserves the invariant. -/
theorem iff_forall_take {I : σ → Prop} (hstep : ∀ s a, I s → (I (step s a) ↔ C s a))
    {as : List α} (hs : I s) :
    Guarded step C s as ↔ ∀ n, I (run step s (as.take n)) := by
  induction as generalizing s with
  | nil => simpa using hs
  | cons a as ih =>
    constructor
    · rintro ⟨ha, has⟩ n
      cases n with
      | zero => exact hs
      | succ n => exact (ih ((hstep s a hs).mpr ha)).mp has n
    · intro hall
      have hfirst : I (step s a) := by simpa using hall 1
      exact ⟨(hstep s a hs).mp hfirst, (ih hfirst).mpr fun n => hall (n + 1)⟩

/-- **Simulation rule.**  Two systems with the same actions guard the same runs, when in related
states the conditions agree, and an action that meets them leads to related states. -/
theorem iff_of_related {τ : Type*} {step' : τ → α → τ} {C' : τ → α → Prop} {R : σ → τ → Prop}
    (hiff : ∀ s t a, R s t → (C s a ↔ C' t a))
    (hstep : ∀ s t a, R s t → C' t a → R (step s a) (step' t a)) {t : τ} {as : List α}
    (h : R s t) : Guarded step C s as ↔ Guarded step' C' t as := by
  induction as generalizing s t with
  | nil => simp
  | cons a as ih =>
    have hhere := hiff s t a h
    constructor
    · rintro ⟨ha, has⟩
      have ha' := hhere.mp ha
      exact ⟨ha', (ih (hstep s t a h ha')).mp has⟩
    · rintro ⟨ha, has⟩
      exact ⟨hhere.mpr ha, (ih (hstep s t a h ha)).mpr has⟩

end Guarded

end Framework
