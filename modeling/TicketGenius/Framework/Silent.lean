import TicketGenius.Framework.Program

/-!
# Silent operations and cuts

`Signature.withSilent` adds operations that reply nothing.  A program may then say more about what
it does in between than its signature could, and `Prog.erase` takes that out again: what is erased
is seen in a second state only (`run_erase`).  `Prog.lift` is the other direction.

`Prog.cut n` is the state in which a program has performed `n` operations, which is where it may be
interrupted.  The rule for it, `cut_iff`, follows one property of the views through a weakest
precondition: if each operation either leaves the property alone or brings it about, a cut has it
exactly if the operations before the cut did.
-/

namespace Framework

/-- The operations of `S`, and the silent ones of `T`. -/
@[reducible]
def Signature.withSilent (S : Signature) (T : Type) : Signature where
  Op := S.Op ⊕ T
  Reply
    | .inl o => S.Reply o
    | .inr _ => Unit

variable {S : Signature} {T ε α β σ τ Γ : Type}

/-- Operations of `S` act on a state and silent ones on another. -/
def Handler.withSilent (h : Handler S σ) (act : T → τ → τ) : Handler (S.withSilent T) (σ × τ)
  | .inl o, s => ((h o s.1).1, (h o s.1).2, s.2)
  | .inr m, s => ((), s.1, act m s.2)

namespace Prog

/-- A program without silent operations. -/
def lift : Prog S ε α → Prog (S.withSilent T) ε α
  | .pure a => .pure a
  | .raise e => .raise e
  | .op o k => .op (.inl o) fun r => (k r).lift

/-- One silent operation. -/
def silent (m : T) : Prog (S.withSilent T) ε Unit := .op (.inr m) .pure

/-- The program without its silent operations. -/
def erase : Prog (S.withSilent T) ε α → Prog S ε α
  | .pure a => .pure a
  | .raise e => .raise e
  | .op (.inl o) k => .op o fun r => (k r).erase
  | .op (.inr _) k => (k ()).erase

@[simp] lemma erase_lift (p : Prog S ε α) : (p.lift : Prog (S.withSilent T) ε α).erase = p := by
  induction p with
  | pure a => rfl
  | raise e => rfl
  | op o k ih => exact congrArg (Prog.op o) (funext ih)

@[simp] lemma erase_bind (p : Prog (S.withSilent T) ε α) (f : α → Prog (S.withSilent T) ε β) :
    (p >>= f).erase = p.erase >>= fun a => (f a).erase := by
  induction p with
  | pure a => rfl
  | raise e => rfl
  | op o k ih =>
    cases o with
    | inl o => exact congrArg (Prog.op o) (funext ih)
    | inr m => exact ih ()

/-- **Erasing** keeps the result, and what happens to the first state. -/
theorem run_erase (h : Handler S σ) (act : T → τ → τ) (p : Prog (S.withSilent T) ε α) (s : σ)
    (t : τ) :
    p.erase.run h s =
      match p.run (h.withSilent act) (s, t) with
      | .ok a s' => .ok a s'.1
      | .error e s' => .error e s'.1 := by
  induction p generalizing s t with
  | pure a => rfl
  | raise e => rfl
  | op o k ih =>
    cases o with
    | inl o => exact ih _ _ _
    | inr m => exact ih () s (act m t)

end Prog

/-! ## Weakest preconditions of lifted programs -/

/-- What a contract says of the operations that are not silent. -/
def Contract.unsilent (C : Contract (S.withSilent T) Γ) : Contract S Γ where
  pre γ o := C.pre γ (.inl o)
  allows γ o r := C.allows γ (.inl o) r
  next γ o r := C.next γ (.inl o) r

namespace Prog

variable {C : Contract (S.withSilent T) Γ}

lemma wp_lift (p : Prog S ε α) (Q : Except ε α → Γ → Prop) (γ : Γ) :
    (p.lift : Prog (S.withSilent T) ε α).wp C Q γ ↔ p.wp C.unsilent Q γ := by
  induction p generalizing γ with
  | pure a => exact Iff.rfl
  | raise e => exact Iff.rfl
  | op o k ih =>
    exact and_congr_right fun _ => forall_congr' fun r => imp_congr_right fun _ => ih r _

/-- The form of `wp_bind` for a lifted program. -/
lemma wp_lift_bind {p : Prog S ε α} {f : α → Prog (S.withSilent T) ε β}
    {Q : Except ε β → Γ → Prop} {γ : Γ} (hp : p.wp C.unsilent (fun r γ' => match r with
      | .ok a => (f a).wp C Q γ'
      | .error e => Q (.error e) γ') γ) :
    ((lift p : Prog (S.withSilent T) ε α) >>= f).wp C Q γ := by
  rw [wp_bind, wp_lift]
  exact hp

/-- A program that the view does not notice, and the values it can return. -/
lemma Uses.wp_yields {C : Contract S Γ} {P : S.Op → Prop} {Y : α → Prop} {p : Prog S ε α}
    (hp : p.Uses P) (hyields : p.Yields Y) {γ : Γ} (hpre : ∀ o, P o → C.pre γ o)
    (hnext : ∀ o r, P o → C.next γ o r = γ) {Q : Except ε α → Γ → Prop}
    (hok : ∀ a, Y a → Q (.ok a) γ) (herror : ∀ e, Q (.error e) γ) : p.wp C Q γ := by
  induction p with
  | pure a => exact hok a hyields
  | raise e => exact herror e
  | op o k ih =>
    refine ⟨hpre o hp.1, fun r _ => ?_⟩
    rw [hnext o r hp.1]
    exact ih r (hp.2 r) (hyields r)

end Prog

/-! ## Cuts -/

namespace Prog

/-- The state in which the program has performed `n` operations, or all it has. -/
def cut (h : Handler S σ) : ℕ → Prog S ε α → σ → σ
  | 0, _, s => s
  | _ + 1, .pure _, s => s
  | _ + 1, .raise _, s => s
  | n + 1, .op o k, s => (k (h o s).1).cut h n (h o s).2

/-- **Cut rule.**  Operations that the contract allows keep `I` and move the view as the contract
says; the property `P` of the view holds after one of them if it did before or the operation is in
`A`.  Then `P` holds at a cut exactly if it did at the beginning or one of the operations before the
cut is in `A`. -/
theorem cut_iff {C : Contract S Γ} {h : Handler S σ} {view : σ → Γ} {I : σ → Prop} {P : Γ → Prop}
    {A : S.Op → Prop} (hsound : SoundOn h C view I)
    (hstep : ∀ o s, I s → C.pre (view s) o → (P (view (h o s).2) ↔ P (view s) ∨ A o))
    {Q : Except ε α → Γ → Prop} (n : ℕ) {p : Prog S ε α} {s : σ} (hp : p.wp C Q (view s))
    (hI : I s) :
    I (p.cut h n s) ∧
      (P (view (p.cut h n s)) ↔ P (view s) ∨ ∃ e ∈ (p.trace h s).take n, A e.1) := by
  induction n generalizing p s with
  | zero => simpa [cut] using hI
  | succ n ih =>
    cases p with
    | pure a => simpa [cut, trace] using hI
    | raise e => simpa [cut, trace] using hI
    | op o k =>
      obtain ⟨hallows, hview, hI'⟩ := hsound o s hI hp.1
      have hrest := hp.2 _ hallows
      rw [← hview] at hrest
      obtain ⟨hcut, hiff⟩ := ih hrest hI'
      refine ⟨hcut, ?_⟩
      show P (view ((k (h o s).1).cut h n (h o s).2)) ↔ _
      rw [hiff, hstep o s hI hp.1, trace, List.take_succ_cons, or_assoc]
      simp only [List.mem_cons, exists_eq_or_imp]

/-! ## Exceptions from outside -/

/-- The program to which an exception happens when it has performed `n` operations. -/
def raiseAfter (e : ε) : ℕ → Prog S ε α → Prog S ε α
  | 0, _ => .raise e
  | _ + 1, .pure a => .pure a
  | _ + 1, .raise e' => .raise e'
  | n + 1, .op o k => .op o fun r => (k r).raiseAfter e n

/-- It performs no operation the program would not have performed. -/
lemma Uses.raiseAfter {P : S.Op → Prop} {p : Prog S ε α} (hp : p.Uses P) (e : ε) (n : ℕ) :
    (p.raiseAfter e n).Uses P := by
  induction n generalizing p with
  | zero => trivial
  | succ n ih =>
    cases p with
    | pure a => trivial
    | raise e' => trivial
    | op o k => exact ⟨hp.1, fun r => ih (hp.2 r)⟩

end Prog

end Framework
