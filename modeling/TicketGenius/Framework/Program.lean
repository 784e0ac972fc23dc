import Mathlib.Tactic.Common

/-!
# Programs over a signature of atomic operations

A program is a tree: it returns, it raises, or it performs one atomic operation and goes on with
the reply.  The same tree is read in three ways.  `Prog.run` executes it to the end on one state,
which is the meaning of a call nobody interrupts.  `Prog.exec` executes its next operation only,
which is what a scheduler does that interleaves several programs.  `Prog.wp` never looks at a
state: it walks the tree over a *view*, what one party knows of the state, and asks a `Contract`
what each operation needs of the view, which replies it may get, and how the view goes on.

Operations do not raise by themselves: one that can fail has an `Except` among its replies, and
the program raises what it finds there (`Prog.ofExcept`).  Every exception therefore passes
through the tree, where `Prog.onRaise` and `Prog.attempt` can see it.
-/

namespace Framework

/-- The operations a program may perform, each with the type of its reply. -/
structure Signature where
  Op : Type
  Reply : Op → Type

/-- Programs over `S` that raise exceptions in `ε` and return values in `α`. -/
inductive Prog (S : Signature) (ε α : Type) : Type
  | pure (a : α) : Prog S ε α
  | raise (e : ε) : Prog S ε α
  | op (o : S.Op) (k : S.Reply o → Prog S ε α) : Prog S ε α

/-- What each operation does to a state and what it replies. -/
abbrev Handler (S : Signature) (σ : Type) : Type :=
  (o : S.Op) → σ → S.Reply o × σ

namespace Prog

variable {S : Signature} {ε α β γ σ : Type}

/-! ## The monad -/

/-- Sequencing: an exception of the first program skips the second. -/
def bind : Prog S ε α → (α → Prog S ε β) → Prog S ε β
  | .pure a, f => f a
  | .raise e, _ => .raise e
  | .op o k, f => .op o fun r => (k r).bind f

instance : Monad (Prog S ε) where
  pure := .pure
  bind := Prog.bind

/-- The program that performs one operation and returns its reply. -/
def perform (o : S.Op) : Prog S ε (S.Reply o) := .op o .pure

/-- Returns the value of an outcome, or raises its exception. -/
def ofExcept : Except ε α → Prog S ε α
  | .ok a => .pure a
  | .error e => .raise e

/-- `p.onRaise cleanup` runs `cleanup` when `p` raises, and then raises the same exception. -/
def onRaise (p : Prog S ε α) (cleanup : Prog S ε Unit) : Prog S ε α :=
  match p with
  | .pure a => .pure a
  | .raise e => cleanup.bind fun _ => .raise e
  | .op o k => .op o fun r => (k r).onRaise cleanup

/-- `p.attempt` returns the outcome of `p`, so that an exception can be looked at. -/
def attempt : Prog S ε α → Prog S ε (Except ε α)
  | .pure a => .pure (.ok a)
  | .raise e => .pure (.error e)
  | .op o k => .op o fun r => (k r).attempt

@[simp] lemma pure_bind_eq (a : α) (f : α → Prog S ε β) : (.pure a : Prog S ε α) >>= f = f a := rfl

@[simp] lemma op_bind_eq (o : S.Op) (k : S.Reply o → Prog S ε α) (f : α → Prog S ε β) :
    (.op o k : Prog S ε α) >>= f = .op o fun r => k r >>= f := rfl

@[simp] lemma ofExcept_ok_bind (a : α) (f : α → Prog S ε β) : ofExcept (.ok a) >>= f = f a := rfl

lemma bind_pure_eq (p : Prog S ε α) : (p >>= fun a => .pure a) = p := by
  induction p with
  | pure a => rfl
  | raise e => rfl
  | op o k ih =>
    rw [op_bind_eq]
    congr 1
    funext r
    exact ih r

lemma bind_assoc_eq (p : Prog S ε α) (f : α → Prog S ε β) (g : β → Prog S ε γ) :
    (p >>= f) >>= g = p >>= fun a => f a >>= g := by
  induction p with
  | pure a => rfl
  | raise e => rfl
  | op o k ih =>
    simp only [op_bind_eq]
    congr 1
    funext r
    exact ih r

instance : LawfulMonad (Prog S ε) :=
  LawfulMonad.mk' (Prog S ε) (fun p => bind_pure_eq p) (fun _ _ => rfl) bind_assoc_eq

/-! ## Running to the end -/

/-- The uninterrupted run of a program. -/
def run (h : Handler S σ) : Prog S ε α → EStateM ε σ α
  | .pure a, s => .ok a s
  | .raise e, s => .error e s
  | .op o k, s => (k (h o s).1).run h (h o s).2

/-- The state a run of a program leaves, whether it returns or raises. -/
def after (h : Handler S σ) (p : Prog S ε α) (s : σ) : σ :=
  match p.run h s with
  | .ok _ s' => s'
  | .error _ s' => s'

/-- What a run of a program returns or raises. -/
def result (h : Handler S σ) (p : Prog S ε α) (s : σ) : Except ε α :=
  match p.run h s with
  | .ok a _ => .ok a
  | .error e _ => .error e

/-- A run that has ended with an outcome, in a state. -/
def ended (outcome : Except ε α) (s : σ) : EStateM.Result ε σ α :=
  match outcome with
  | .ok a => .ok a s
  | .error e => .error e s

section Run

variable (h : Handler S σ) (s : σ)

@[simp] lemma run_pure (a : α) : (Prog.pure a : Prog S ε α).run h s = .ok a s := rfl

@[simp] lemma run_pure' (a : α) : (Pure.pure a : Prog S ε α).run h s = .ok a s := rfl

@[simp] lemma run_raise (e : ε) : (Prog.raise e : Prog S ε α).run h s = .error e s := rfl

@[simp] lemma run_ofExcept_ok (a : α) : (ofExcept (.ok a) : Prog S ε α).run h s = .ok a s := rfl

@[simp] lemma run_ofExcept_error (e : ε) :
    (ofExcept (.error e) : Prog S ε α).run h s = .error e s := rfl

lemma run_bind (p : Prog S ε α) (f : α → Prog S ε β) :
    (p >>= f).run h s =
      match p.run h s with
      | .ok a s' => (f a).run h s'
      | .error e s' => .error e s' := by
  induction p generalizing s with
  | pure a => rfl
  | raise e => rfl
  | op o k ih => exact ih (h o s).1 (h o s).2

/-- The form of `run_bind` a proof applies when it knows that the first program returns. -/
lemma run_bind_ok {p : Prog S ε α} {s s' : σ} {a : α} (f : α → Prog S ε β)
    (hp : p.run h s = .ok a s') : (p >>= f).run h s = (f a).run h s' := by
  rw [run_bind, hp]

/-- The form of `run_bind` a proof applies when it knows that the first program raises. -/
lemma run_bind_error {p : Prog S ε α} {s s' : σ} {e : ε} (f : α → Prog S ε β)
    (hp : p.run h s = .error e s') : (p >>= f).run h s = .error e s' := by
  rw [run_bind, hp]

lemma after_of_ok {p : Prog S ε α} {s s' : σ} {a : α} (hp : p.run h s = .ok a s') :
    p.after h s = s' := by
  rw [after, hp]

lemma after_of_error {p : Prog S ε α} {s s' : σ} {e : ε} (hp : p.run h s = .error e s') :
    p.after h s = s' := by
  rw [after, hp]

lemma run_ofExcept (x : Except ε α) : (ofExcept x : Prog S ε α).run h s = ended x s := by
  cases x <;> rfl

lemma result_of_ended {p : Prog S ε α} {s s' : σ} {x : Except ε α}
    (hp : p.run h s = ended x s') : p.result h s = x := by
  rw [result, hp]
  cases x <;> rfl

lemma after_of_ended {p : Prog S ε α} {s s' : σ} {x : Except ε α}
    (hp : p.run h s = ended x s') : p.after h s = s' := by
  rw [after, hp]
  cases x <;> rfl

lemma after_bind_ok {p : Prog S ε α} {s s' : σ} {a : α} (f : α → Prog S ε β)
    (hp : p.run h s = .ok a s') : (p >>= f).after h s = (f a).after h s' := by
  rw [after, run_bind_ok h f hp, after]

lemma run_ofExcept_eq_ok {x : Except ε α} {s s' : σ} {a : α} :
    (ofExcept x : Prog S ε α).run h s = .ok a s' ↔ x = .ok a ∧ s' = s := by
  cases x with
  | ok b => simp [eq_comm]
  | error e => simp

lemma result_bind_ok {p : Prog S ε α} {s s' : σ} {a : α} (f : α → Prog S ε β)
    (hp : p.run h s = .ok a s') : (p >>= f).result h s = (f a).result h s' := by
  rw [result, run_bind_ok h f hp, result]

lemma after_bind_pure (p : Prog S ε α) (f : α → β) :
    (p >>= fun a => .pure (f a)).after h s = p.after h s := by
  rw [after, after, run_bind]
  cases p.run h s <;> rfl

lemma run_of_result {p : Prog S ε α} {s : σ} {a : α} (hp : p.result h s = .ok a) :
    p.run h s = .ok a (p.after h s) := by
  unfold result at hp
  unfold after
  cases hrun : p.run h s with
  | ok b s' =>
    rw [hrun] at hp
    obtain rfl := Except.ok.inj hp
    rfl
  | error e s' =>
    rw [hrun] at hp
    cases hp

/-- A sequence returns exactly if both programs do. -/
lemma run_bind_eq_ok {p : Prog S ε α} {f : α → Prog S ε β} {s s' : σ} {b : β} :
    (p >>= f).run h s = .ok b s' ↔
      ∃ a s₁, p.run h s = .ok a s₁ ∧ (f a).run h s₁ = .ok b s' := by
  rw [run_bind]
  cases p.run h s with
  | ok a s₁ => simp
  | error e s₁ => simp

/-- The run of a program from a state returns. -/
def Returns (p : Prog S ε α) (s : σ) : Prop := ∃ a s', p.run h s = .ok a s'

variable {h s} in
lemma returns_bind_of_ok {p : Prog S ε α} {s' : σ} {a : α} {f : α → Prog S ε β}
    (hp : p.run h s = .ok a s') : (p >>= f).Returns h s ↔ (f a).Returns h s' := by
  rw [Returns, Returns, run_bind_ok h f hp]

lemma returns_pure (a : α) : (Prog.pure a : Prog S ε α).Returns h s := ⟨a, s, rfl⟩

lemma run_onRaise (p : Prog S ε α) (cleanup : Prog S ε Unit) :
    (p.onRaise cleanup).run h s =
      match p.run h s with
      | .ok a s' => .ok a s'
      | .error e s' => (cleanup >>= fun _ => .raise e).run h s' := by
  induction p generalizing s with
  | pure a => rfl
  | raise e => rfl
  | op o k ih => exact ih (h o s).1 (h o s).2

/-- A program that has been attempted returns. -/
lemma run_attempt (p : Prog S ε α) :
    p.attempt.run h s = .ok (p.result h s) (p.after h s) := by
  induction p generalizing s with
  | pure a => rfl
  | raise e => rfl
  | op o k ih => exact ih (h o s).1 (h o s).2

end Run

/-! ## Programs confined to some operations -/

/-- Every operation the program can perform satisfies `P`. -/
def Uses (P : S.Op → Prop) : Prog S ε α → Prop
  | .pure _ => True
  | .raise _ => True
  | .op o k => P o ∧ ∀ r, (k r).Uses P

lemma Uses.mono {P P' : S.Op → Prop} (hPP' : ∀ o, P o → P' o) {p : Prog S ε α} (hp : p.Uses P) :
    p.Uses P' := by
  induction p with
  | pure a => trivial
  | raise e => trivial
  | op o k ih => exact ⟨hPP' o hp.1, fun r => ih r (hp.2 r)⟩

lemma uses_ofExcept {P : S.Op → Prop} (x : Except ε α) : (ofExcept x : Prog S ε α).Uses P := by
  cases x <;> trivial

lemma uses_true (p : Prog S ε α) : p.Uses fun _ => True := by
  induction p with
  | pure a => trivial
  | raise e => trivial
  | op o k ih => exact ⟨trivial, ih⟩

lemma Uses.bind {P : S.Op → Prop} {p : Prog S ε α} {f : α → Prog S ε β}
    (hp : p.Uses P) (hf : ∀ a, (f a).Uses P) : (p >>= f).Uses P := by
  induction p with
  | pure a => exact hf a
  | raise e => trivial
  | op o k ih => exact ⟨hp.1, fun r => ih r (hp.2 r)⟩

lemma Uses.onRaise {P : S.Op → Prop} {p : Prog S ε α} {cleanup : Prog S ε Unit} (hp : p.Uses P)
    (hcleanup : cleanup.Uses P) : (p.onRaise cleanup).Uses P := by
  induction p with
  | pure a => trivial
  | raise e => exact hcleanup.bind fun _ => trivial
  | op o k ih => exact ⟨hp.1, fun r => ih r (hp.2 r)⟩

/-- **Frame rule.**  A relation that is reflexive and transitive and that every operation in `P`
respects holds between the two ends of a run confined to `P`. -/
theorem Uses.run_frame {P : S.Op → Prop} {h : Handler S σ} {R : σ → σ → Prop}
    (hrefl : ∀ s, R s s) (htrans : ∀ {s t u}, R s t → R t u → R s u)
    (hop : ∀ o s, P o → R s (h o s).2) {p : Prog S ε α} (hp : p.Uses P) (s : σ) :
    R s (p.after h s) := by
  induction p generalizing s with
  | pure a => exact hrefl s
  | raise e => exact hrefl s
  | op o k ih => exact htrans (hop o s hp.1) (ih (h o s).1 (hp.2 _) (h o s).2)

/-- The frame rule for what no operation in `P` changes. -/
lemma Uses.run_unchanged {P : S.Op → Prop} {h : Handler S σ} {f : σ → γ}
    (hop : ∀ o s, P o → f (h o s).2 = f s) {p : Prog S ε α} (hp : p.Uses P) (s : σ) :
    f (p.after h s) = f s := by
  let Same : σ → σ → Prop := fun s s' => f s' = f s
  have htrans : ∀ {s t u : σ}, Same s t → Same t u → Same s u :=
    fun hst htu => Eq.trans htu hst
  exact hp.run_frame (R := Same) (fun _ => rfl) htrans hop s

/-! ## What a run has performed -/

/-- The operations of a run, in order, each with its reply. -/
def trace (h : Handler S σ) : Prog S ε α → σ → List ((o : S.Op) × S.Reply o)
  | .pure _, _ => []
  | .raise _, _ => []
  | .op o k, s => ⟨o, (h o s).1⟩ :: (k (h o s).1).trace h (h o s).2

section Trace

variable (h : Handler S σ) (s : σ)

lemma trace_bind (p : Prog S ε α) (f : α → Prog S ε β) :
    (p >>= f).trace h s = p.trace h s ++
      match p.run h s with
      | .ok a s' => (f a).trace h s'
      | .error _ _ => [] := by
  induction p generalizing s with
  | pure a => rfl
  | raise e => rfl
  | op o k ih => exact congrArg (_ :: ·) (ih (h o s).1 (h o s).2)

lemma trace_bind_ok {p : Prog S ε α} {s s' : σ} {a : α} (f : α → Prog S ε β)
    (hp : p.run h s = .ok a s') :
    (p >>= f).trace h s = p.trace h s ++ (f a).trace h s' := by
  rw [trace_bind, hp]

lemma trace_bind_error {p : Prog S ε α} {s s' : σ} {e : ε} (f : α → Prog S ε β)
    (hp : p.run h s = .error e s') : (p >>= f).trace h s = p.trace h s := by
  rw [trace_bind, hp, List.append_nil]

lemma trace_onRaise (p : Prog S ε α) (cleanup : Prog S ε Unit) :
    (p.onRaise cleanup).trace h s = p.trace h s ++
      match p.run h s with
      | .ok _ _ => []
      | .error e s' => (cleanup >>= fun _ => .raise e : Prog S ε α).trace h s' := by
  induction p generalizing s with
  | pure a => rfl
  | raise e => rfl
  | op o k ih => exact congrArg (_ :: ·) (ih (h o s).1 (h o s).2)

/-- A run performs no operation its program cannot. -/
lemma Uses.of_mem_trace {P : S.Op → Prop} {p : Prog S ε α} (hp : p.Uses P)
    {e : (o : S.Op) × S.Reply o} (he : e ∈ p.trace h s) : P e.1 := by
  induction p generalizing s with
  | pure a => cases he
  | raise e => cases he
  | op o k ih =>
    rcases List.mem_cons.mp he with rfl | he
    · exact hp.1
    · exact ih (h o s).1 (h o s).2 (hp.2 _) he

end Trace

/-! ## What the rest of a program can do -/

/-- Following only replies in `G`, the program can come to an operation in `P`. -/
def Reaches (P : S.Op → Prop) (G : (o : S.Op) → S.Reply o → Prop) : Prog S ε α → Prop
  | .pure _ => False
  | .raise _ => False
  | .op o k => P o ∨ ∃ r, G o r ∧ (k r).Reaches P G

/-- Every operation of the program, together with what follows it, satisfies `A`. -/
def Always (A : (o : S.Op) → (S.Reply o → Prog S ε α) → Prop) : Prog S ε α → Prop
  | .pure _ => True
  | .raise _ => True
  | .op o k => A o k ∧ ∀ r, (k r).Always A

/-! ## Exceptions right after an operation -/

/-- No exception comes right after an operation in `P`; `last` says whether the operation before the
program is one. -/
def NoRaiseAfter (P : S.Op → Prop) : Prop → Prog S ε α → Prop
  | _, .pure _ => True
  | last, .raise _ => ¬ last
  | _, .op o k => ∀ r, (k r).NoRaiseAfter P (P o)

section NoRaiseAfter

variable {P : S.Op → Prop} {last : Prop}

lemma NoRaiseAfter.bind {p : Prog S ε α} {f : α → Prog S ε β} (hp : p.NoRaiseAfter P last)
    (hf : ∀ a last, (f a).NoRaiseAfter P last) : (p >>= f).NoRaiseAfter P last := by
  induction p generalizing last with
  | pure a => exact hf a last
  | raise e => exact hp
  | op o k ih => exact fun r => ih r (hp r)

/-- An outcome may be an exception, so the operation before it must not be in `P`. -/
lemma noRaiseAfter_ofExcept_bind (hlast : ¬ last) (x : Except ε α) {f : α → Prog S ε β}
    (hf : ∀ a, (f a).NoRaiseAfter P last) : (ofExcept x >>= f).NoRaiseAfter P last := by
  cases x with
  | ok a => exact hf a
  | error e => exact hlast

/-- Where a run raises, the last operation it has performed is not in `P`. -/
theorem NoRaiseAfter.of_run {p : Prog S ε α} (hp : p.NoRaiseAfter P last) {h : Handler S σ}
    {s s' : σ} {e : ε} (hrun : p.run h s = .error e s') :
    (p.trace h s = [] → ¬ last) ∧ ∀ performed ∈ (p.trace h s).getLast?, ¬ P performed.1 := by
  induction p generalizing s last with
  | pure a => cases hrun
  | raise e' =>
    refine ⟨fun _ => hp, ?_⟩
    intro performed hperformed
    cases hperformed
  | op o k ih =>
    obtain ⟨hfirst, hrest⟩ := ih (h o s).1 (hp _) (hrun : (k (h o s).1).run h (h o s).2 = _)
    refine ⟨fun hnil => (List.cons_ne_nil _ _ hnil).elim, ?_⟩
    intro performed hperformed
    rw [trace, List.getLast?_cons] at hperformed
    cases hlast : ((k (h o s).1).trace h (h o s).2).getLast? with
    | none =>
      rw [hlast] at hperformed
      obtain rfl := Option.some.inj hperformed
      exact hfirst (List.getLast?_eq_none_iff.mp hlast)
    | some performed' =>
      rw [hlast] at hperformed
      obtain rfl := Option.some.inj hperformed
      exact hrest performed' hlast

end NoRaiseAfter

/-! ## What a program can return -/

/-- Whatever the replies are, a value the program returns satisfies `Q`. -/
def Yields (Q : α → Prop) : Prog S ε α → Prop
  | .pure a => Q a
  | .raise _ => True
  | .op _ k => ∀ r, (k r).Yields Q

lemma yields_true (p : Prog S ε α) : p.Yields fun _ => True := by
  induction p with
  | pure a => trivial
  | raise e => trivial
  | op o k ih => exact ih

lemma Yields.bind {P : α → Prop} {Q : β → Prop} {p : Prog S ε α} {f : α → Prog S ε β}
    (hp : p.Yields P) (hf : ∀ a, P a → (f a).Yields Q) : (p >>= f).Yields Q := by
  induction p with
  | pure a => exact hf a hp
  | raise e => trivial
  | op o k ih => exact fun r => ih r (hp r)

/-- The form of `Yields.bind` in which nothing is asked of the first program. -/
lemma Yields.bind_right {Q : β → Prop} {f : α → Prog S ε β} (hf : ∀ a, (f a).Yields Q)
    (p : Prog S ε α) : (p >>= f).Yields Q :=
  p.yields_true.bind fun a _ => hf a

lemma Yields.onRaise {Q : α → Prop} {p : Prog S ε α} (hp : p.Yields Q)
    (cleanup : Prog S ε Unit) : (p.onRaise cleanup).Yields Q := by
  induction p with
  | pure a => exact hp
  | raise e =>
    have hraise : ∀ _ : Unit, (.raise e : Prog S ε α).Yields Q := fun _ => trivial
    exact Yields.bind_right hraise cleanup
  | op o k ih => exact fun r => ih r (hp r)

lemma Yields.of_run {Q : α → Prop} {p : Prog S ε α} (hp : p.Yields Q) {h : Handler S σ} {s s' : σ}
    {a : α} (hrun : p.run h s = .ok a s') : Q a := by
  induction p generalizing s with
  | pure b =>
    cases hrun
    exact hp
  | raise e => cases hrun
  | op o k ih => exact ih _ (hp _) hrun

/-- Whatever the replies are, the program raises. -/
abbrev NeverReturns (p : Prog S ε α) : Prop := p.Yields fun _ => False

lemma NeverReturns.bind_left {p : Prog S ε α} (hp : p.NeverReturns) (f : α → Prog S ε β) :
    (p >>= f).NeverReturns :=
  hp.bind fun _ h => h.elim

/-- What would come after a program that never returns is never performed. -/
lemma NeverReturns.uses_bind {P : S.Op → Prop} {p : Prog S ε α} (hp : p.NeverReturns)
    (huses : p.Uses P) (f : α → Prog S ε β) : (p >>= f).Uses P := by
  induction p with
  | pure a => exact hp.elim
  | raise e => trivial
  | op o k ih => exact ⟨huses.1, fun r => ih r (hp r) (huses.2 r)⟩

lemma NeverReturns.run {p : Prog S ε α} (hp : p.NeverReturns) (h : Handler S σ) (s : σ) :
    ∃ e s', p.run h s = .error e s' := by
  cases hrun : p.run h s with
  | ok a s' => exact (hp.of_run hrun).elim
  | error e s' => exact ⟨e, s', rfl⟩

end Prog

/-! ## Views and contracts -/

/-- What operations need of a party's view of the state, which replies they may get there, and
what the party's view is afterwards. -/
structure Contract (S : Signature) (Γ : Type) where
  pre : Γ → S.Op → Prop
  allows : Γ → (o : S.Op) → S.Reply o → Prop
  next : Γ → (o : S.Op) → S.Reply o → Γ

/-- Both contracts, each with its own view. -/
def Contract.both {S : Signature} {Γ Δ : Type} (C : Contract S Γ) (D : Contract S Δ) :
    Contract S (Γ × Δ) where
  pre γ o := C.pre γ.1 o ∧ D.pre γ.2 o
  allows γ o r := C.allows γ.1 o r ∧ D.allows γ.2 o r
  next γ o r := (C.next γ.1 o r, D.next γ.2 o r)

namespace Prog

variable {S : Signature} {ε α β σ Γ : Type}

/-- Weakest precondition over views: `p` performs only operations the contract allows, and
whatever the replies are it ends in `Q`. -/
def wp (C : Contract S Γ) : Prog S ε α → (Except ε α → Γ → Prop) → Γ → Prop
  | .pure a, Q, γ => Q (.ok a) γ
  | .raise e, Q, γ => Q (.error e) γ
  | .op o k, Q, γ => C.pre γ o ∧ ∀ r, C.allows γ o r → (k r).wp C Q (C.next γ o r)

section Wp

variable {C : Contract S Γ}

lemma wp_op (o : S.Op) (k : S.Reply o → Prog S ε α) (Q : Except ε α → Γ → Prop) (γ : Γ) :
    (Prog.op o k).wp C Q γ ↔ C.pre γ o ∧ ∀ r, C.allows γ o r → (k r).wp C Q (C.next γ o r) :=
  Iff.rfl

/-- The form of `wp_op` for a program in `do` notation. -/
lemma wp_perform_bind (o : S.Op) (f : S.Reply o → Prog S ε α) (Q : Except ε α → Γ → Prop)
    (γ : Γ) :
    (perform o >>= f).wp C Q γ ↔
      C.pre γ o ∧ ∀ r, C.allows γ o r → (f r).wp C Q (C.next γ o r) := Iff.rfl

lemma wp_mono {p : Prog S ε α} {Q Q' : Except ε α → Γ → Prop} {γ : Γ}
    (hQ : ∀ r γ', Q r γ' → Q' r γ') (hp : p.wp C Q γ) : p.wp C Q' γ := by
  induction p generalizing γ with
  | pure a => exact hQ _ _ hp
  | raise e => exact hQ _ _ hp
  | op o k ih => exact ⟨hp.1, fun r hr => ih r (hp.2 r hr)⟩

/-- **Sequencing rule.**  The postcondition of the first program is the precondition of the
second; an exception goes straight to `Q`. -/
theorem wp_bind (p : Prog S ε α) (f : α → Prog S ε β) (Q : Except ε β → Γ → Prop) (γ : Γ) :
    (p >>= f).wp C Q γ ↔
      p.wp C (fun r γ' => match r with
        | .ok a => (f a).wp C Q γ'
        | .error e => Q (.error e) γ') γ := by
  induction p generalizing γ with
  | pure a => exact Iff.rfl
  | raise e => exact Iff.rfl
  | op o k ih =>
    rw [op_bind_eq, wp_op, wp_op]
    exact and_congr_right fun _ => forall_congr' fun r => imp_congr_right fun _ => ih r _

lemma wp_onRaise (p : Prog S ε α) (cleanup : Prog S ε Unit) (Q : Except ε α → Γ → Prop) (γ : Γ) :
    (p.onRaise cleanup).wp C Q γ ↔
      p.wp C (fun r γ' => match r with
        | .ok a => Q (.ok a) γ'
        | .error e => (cleanup >>= fun _ => .raise e).wp C Q γ') γ := by
  induction p generalizing γ with
  | pure a => exact Iff.rfl
  | raise e => exact Iff.rfl
  | op o k ih =>
    rw [onRaise, wp_op, wp_op]
    exact and_congr_right fun _ => forall_congr' fun r => imp_congr_right fun _ => ih r _

lemma wp_ofExcept {x : Except ε α} {Q : Except ε α → Γ → Prop} {γ : Γ}
    (hok : ∀ a, x = .ok a → Q (.ok a) γ) (herror : ∀ e, Q (.error e) γ) :
    (ofExcept x : Prog S ε α).wp C Q γ := by
  rcases x with e | a
  · exact herror e
  · exact hok a rfl

lemma wp_ofExcept_bind {x : Except ε α} {f : α → Prog S ε β} {Q : Except ε β → Γ → Prop} {γ : Γ}
    (hok : ∀ a, x = .ok a → (f a).wp C Q γ) (herror : ∀ e, Q (.error e) γ) :
    (ofExcept x >>= f).wp C Q γ := by
  rcases x with e | a
  · exact herror e
  · exact hok a rfl

/-- A program confined to operations the view does not notice leaves the view alone. -/
theorem Uses.wp {P : S.Op → Prop} {p : Prog S ε α} (hp : p.Uses P) {γ : Γ}
    (hpre : ∀ o, P o → C.pre γ o) (hnext : ∀ o r, P o → C.next γ o r = γ)
    {Q : Except ε α → Γ → Prop} (hQ : ∀ r, Q r γ) : p.wp C Q γ := by
  induction p with
  | pure a => exact hQ _
  | raise e => exact hQ _
  | op o k ih =>
    refine ⟨hpre o hp.1, fun r _ => ?_⟩
    rw [hnext o r hp.1]
    exact ih r (hp.2 r)

/-- A program confined to operations that keep a property of the view keeps it. -/
theorem Uses.wp_keeping {P : S.Op → Prop} {J : Γ → Prop} {p : Prog S ε α} (hp : p.Uses P)
    (hpre : ∀ γ o, J γ → P o → C.pre γ o) (hnext : ∀ γ o r, J γ → P o → J (C.next γ o r)) {γ : Γ}
    (hγ : J γ) : p.wp C (fun _ γ' => J γ') γ := by
  induction p generalizing γ with
  | pure a => exact hγ
  | raise e => exact hγ
  | op o k ih => exact ⟨hpre γ o hγ hp.1, fun r _ => ih r (hp.2 r) (hnext γ o r hγ hp.1)⟩

end Wp

/-- A view of the states in `I` is sound: an operation the contract allows gets a reply the contract
foresees, and leads to a state in `I` that has the view the contract says. -/
def SoundOn (h : Handler S σ) (C : Contract S Γ) (view : σ → Γ) (I : σ → Prop) : Prop :=
  ∀ o s, I s → C.pre (view s) o →
    C.allows (view s) o (h o s).1 ∧ view (h o s).2 = C.next (view s) o (h o s).1 ∧ I (h o s).2

/-- **Soundness** of weakest preconditions: from a sound view of the first state, the run ends in
`Q` with the view of the last. -/
theorem SoundOn.run_of_wp {h : Handler S σ} {C : Contract S Γ} {view : σ → Γ} {I : σ → Prop}
    (hsound : SoundOn h C view I) {p : Prog S ε α} {Q : Except ε α → Γ → Prop} {s : σ}
    (hp : p.wp C Q (view s)) (hI : I s) :
    match p.run h s with
    | .ok a s' => Q (.ok a) (view s')
    | .error e s' => Q (.error e) (view s') := by
  induction p generalizing s with
  | pure a => exact hp
  | raise e => exact hp
  | op o k ih =>
    obtain ⟨hallows, hview, hI'⟩ := hsound o s hI hp.1
    have hrest := hp.2 _ hallows
    rw [← hview] at hrest
    exact ih _ hrest hI'

/-! ## Two contracts -/

/-- A program that respects each of two contracts respects both. -/
lemma wp_both {Δ : Type} {C : Contract S Γ} {D : Contract S Δ} {p : Prog S ε α}
    {Q : Except ε α → Γ → Prop} {R : Except ε α → Δ → Prop} {γ : Γ} {δ : Δ} (hC : p.wp C Q γ)
    (hD : p.wp D R δ) : p.wp (C.both D) (fun r v => Q r v.1 ∧ R r v.2) (γ, δ) := by
  induction p generalizing γ δ with
  | pure a => exact ⟨hC, hD⟩
  | raise e => exact ⟨hC, hD⟩
  | op o k ih => exact ⟨⟨hC.1, hD.1⟩, fun r hr => ih r (hC.2 r hr.1) (hD.2 r hr.2)⟩

/-- **Contracts side by side.**  The second may rely on the invariant of the first. -/
theorem SoundOn.both {Δ : Type} {h : Handler S σ} {C : Contract S Γ} {D : Contract S Δ}
    {view : σ → Γ} {view' : σ → Δ} {I J : σ → Prop} (hC : SoundOn h C view I)
    (hD : ∀ o s, I s → J s → D.pre (view' s) o →
      D.allows (view' s) o (h o s).1 ∧ view' (h o s).2 = D.next (view' s) o (h o s).1 ∧
        J (h o s).2) :
    SoundOn h (C.both D) (fun s => (view s, view' s)) fun s => I s ∧ J s := by
  rintro o s ⟨hI, hJ⟩ ⟨hpre, hpre'⟩
  obtain ⟨hallows, hview, hI'⟩ := hC o s hI hpre
  obtain ⟨hallows', hview', hJ'⟩ := hD o s hI hJ hpre'
  exact ⟨⟨hallows, hallows'⟩, Prod.ext hview hview', hI', hJ'⟩

/-! ## One operation at a time -/

/-- Executes the next operation of a program; a finished program stays as it is. -/
def exec (h : Handler S σ) : Prog S ε α → σ → Prog S ε α × σ
  | .pure a, s => (.pure a, s)
  | .raise e, s => (.raise e, s)
  | .op o k, s => (k (h o s).1, (h o s).2)

@[simp] lemma exec_pure (h : Handler S σ) (a : α) (s : σ) :
    (Prog.pure a : Prog S ε α).exec h s = (.pure a, s) := rfl

@[simp] lemma exec_raise (h : Handler S σ) (e : ε) (s : σ) :
    (Prog.raise e : Prog S ε α).exec h s = (.raise e, s) := rfl

/-- The view after the next operation of a program. -/
def observe (h : Handler S σ) (C : Contract S Γ) (γ : Γ) : Prog S ε α → σ → Γ
  | .pure _, _ => γ
  | .raise _, _ => γ
  | .op o _, s => C.next γ o (h o s).1

end Prog

end Framework
