import TicketGenius.Framework.Program

/-!
# Which exceptions can come out

`RaisesOnly P` says of an outcome, of a method and of a program that whatever it raises satisfies
`P`.  For a program the replies of its operations are restricted to those in `G`, as in
`Prog.Reaches`, because an exception can be among them.  One lemma for each way of composing.
-/

namespace Framework

variable {ε α β σ : Type} {P : ε → Prop}

/-! ## Outcomes -/

/-- The exception of an outcome, if it is one, satisfies `P`. -/
def RaisesOnly (P : ε → Prop) : Except ε α → Prop
  | .ok _ => True
  | .error e => P e

lemma raisesOnly_ok (a : α) : RaisesOnly P (.ok a) := trivial

lemma RaisesOnly.bind {x : Except ε α} {f : α → Except ε β} (hx : RaisesOnly P x)
    (hf : ∀ a, RaisesOnly P (f a)) : RaisesOnly P (x >>= f) := by
  cases x with
  | ok a => exact hf a
  | error e => exact hx

lemma raisesOnly_mapM {f : α → Except ε β} (hf : ∀ a, RaisesOnly P (f a)) (as : List α) :
    RaisesOnly P (as.mapM f) := by
  induction as with
  | nil => exact raisesOnly_ok []
  | cons a as ih =>
    rw [List.mapM_cons]
    exact (hf a).bind fun b => ih.bind fun bs => raisesOnly_ok (b :: bs)

/-- What raises for every element returns for the empty list only. -/
lemma mapM_eq_ok_of_raises {f : α → Except ε β} (hf : ∀ a, ∃ e, f a = .error e) {as : List α}
    {bs : List β} : as.mapM f = .ok bs ↔ as = [] ∧ bs = [] := by
  constructor
  · intro h
    cases as with
    | nil =>
      cases h
      exact ⟨rfl, rfl⟩
    | cons a as =>
      obtain ⟨e, he⟩ := hf a
      rw [List.mapM_cons, he] at h
      cases h
  · rintro ⟨rfl, rfl⟩
    rfl

/-! ## Methods -/

/-- Called in any state, the method raises only exceptions in `P`. -/
def MethodRaisesOnly (P : ε → Prop) (method : EStateM ε σ α) : Prop :=
  ∀ s e s', method.run s = .error e s' → P e

lemma methodRaisesOnly_of_ok {method : EStateM ε σ α}
    (h : ∀ s, ∃ a s', method.run s = .ok a s') : MethodRaisesOnly P method := by
  intro s e s' hrun
  obtain ⟨a, s'', hok⟩ := h s
  rw [hok] at hrun
  cases hrun

lemma methodRaisesOnly_throw {e : ε} (he : P e) :
    MethodRaisesOnly P (throw e : EStateM ε σ α) := by
  intro s e' s' hrun
  obtain ⟨rfl, -⟩ := EStateM.Result.error.inj hrun
  exact he

lemma methodRaisesOnly_ofExcept {x : Except ε α} (hx : RaisesOnly P x) :
    MethodRaisesOnly P (MonadExcept.ofExcept x : EStateM ε σ α) := by
  cases x with
  | ok a => exact methodRaisesOnly_of_ok fun s => ⟨a, s, rfl⟩
  | error e => exact methodRaisesOnly_throw hx

lemma MethodRaisesOnly.bind {method : EStateM ε σ α} {f : α → EStateM ε σ β}
    (hmethod : MethodRaisesOnly P method) (hf : ∀ a, MethodRaisesOnly P (f a)) :
    MethodRaisesOnly P (method >>= f) := by
  intro s e s' hrun
  rw [EStateM.run_bind] at hrun
  rcases hfirst : method.run s with ⟨a, s₁⟩ | ⟨e₁, s₁⟩
  · rw [hfirst] at hrun
    exact hf a s₁ e s' hrun
  · rw [hfirst] at hrun
    obtain ⟨rfl, -⟩ := EStateM.Result.error.inj hrun
    exact hmethod s e₁ s₁ hfirst

/-! ## Programs -/

namespace Prog

variable {S : Signature} {G : (o : S.Op) → S.Reply o → Prop}

/-- Following only replies in `G`, the program raises only exceptions in `P`. -/
def RaisesOnly (G : (o : S.Op) → S.Reply o → Prop) (P : ε → Prop) : Prog S ε α → Prop
  | .pure _ => True
  | .raise e => P e
  | .op o k => ∀ r, G o r → (k r).RaisesOnly G P

lemma raisesOnly_perform (o : S.Op) : (perform o : Prog S ε (S.Reply o)).RaisesOnly G P :=
  fun _ _ => trivial

lemma raisesOnly_ofExcept {x : Except ε α} (hx : Framework.RaisesOnly P x) :
    (ofExcept x : Prog S ε α).RaisesOnly G P := by
  cases x with
  | ok a => trivial
  | error e => exact hx

lemma RaisesOnly.bind {p : Prog S ε α} {f : α → Prog S ε β} (hp : p.RaisesOnly G P)
    (hf : ∀ a, (f a).RaisesOnly G P) : (p >>= f).RaisesOnly G P := by
  induction p with
  | pure a => exact hf a
  | raise e => exact hp
  | op o k ih => exact fun r hr => ih r (hp r hr)

/-- An operation whose reply matters to what follows. -/
lemma raisesOnly_perform_bind {o : S.Op} {f : S.Reply o → Prog S ε α}
    (hf : ∀ r, G o r → (f r).RaisesOnly G P) : (perform o >>= f).RaisesOnly G P :=
  hf

lemma RaisesOnly.onRaise {p : Prog S ε α} {cleanup : Prog S ε Unit} (hp : p.RaisesOnly G P)
    (hcleanup : cleanup.RaisesOnly G P) : (p.onRaise cleanup).RaisesOnly G P := by
  induction p with
  | pure a => trivial
  | raise e => exact hcleanup.bind fun _ => hp
  | op o k ih => exact fun r hr => ih r (hp r hr)

/-- **Soundness**: where every reply is in `G`, a run raises only exceptions in `P`. -/
theorem RaisesOnly.of_run {h : Handler S σ} (hG : ∀ o s, G o (h o s).1) {p : Prog S ε α}
    (hp : p.RaisesOnly G P) {s s' : σ} {e : ε} (hrun : p.run h s = .error e s') : P e := by
  induction p generalizing s with
  | pure a => cases hrun
  | raise e' =>
    obtain ⟨rfl, -⟩ := EStateM.Result.error.inj hrun
    exact hp
  | op o k ih => exact ih _ (hp _ (hG o s)) hrun

end Prog

end Framework
