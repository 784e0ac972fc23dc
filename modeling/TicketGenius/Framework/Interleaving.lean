import TicketGenius.Framework.Program
import TicketGenius.Framework.Run
import Mathlib.Logic.Function.Basic

/-!
# Interleaved programs and the views of their owners

Several parties run programs on one shared state, one operation at a time, in any order
(`Threads`).  For a proof, each party `i` is given a view `γ i` of the state (`Pool`).  `Views` says
when views are sound for reasoning party by party: an operation that its owner's contract allows,
taken when the schedule may let it be taken, gets a reply the contract foresees, and the views stay
accurate when the owner's own view goes on as the contract says and the other views stay as they
are.  Under that condition a weakest precondition proved for each program on its own survives every
step of every party (`Pool.Sound.exec`), so nothing has to be proved about the product of the
programs.
-/

namespace Framework

variable {S : Signature} {ι ε α σ Γ : Type} [DecidableEq ι]

/-! ## Threads -/

/-- Programs that run on one shared state. -/
structure Threads (S : Signature) (ι ε α σ : Type) where
  shared : σ
  thread : ι → Prog S ε α

/-- Party `i` executes its next operation. -/
def Threads.exec (h : Handler S σ) (c : Threads S ι ε α σ) (i : ι) : Threads S ι ε α σ where
  shared := ((c.thread i).exec h c.shared).2
  thread := Function.update c.thread i ((c.thread i).exec h c.shared).1

/-! ## Views -/

/-- The views of the parties, `Acc`urate in a state, under one contract for each party: what a
party's contract allows it to do, where the schedule lets it do it (`May`), changes its own view, as
the contract says, and no other. -/
def Views (h : Handler S σ) (C : ι → Contract S Γ) (Acc : (ι → Γ) → σ → Prop)
    (May : (ι → Γ) → ι → S.Op → Prop) : Prop :=
  ∀ γ s i o, Acc γ s → (C i).pre (γ i) o → May γ i o →
    (C i).allows (γ i) o (h o s).1 ∧
      Acc (Function.update γ i ((C i).next (γ i) o (h o s).1)) (h o s).2

/-- One operation of party `i` keeps the views accurate, and keeps the weakest precondition of the
program of `i`. -/
lemma Views.exec_sound {h : Handler S σ} {C : ι → Contract S Γ} {Acc : (ι → Γ) → σ → Prop}
    {May : (ι → Γ) → ι → S.Op → Prop} (hviews : Views h C Acc May) {γ : ι → Γ} {s : σ}
    (hacc : Acc γ s) {i : ι} {p : Prog S ε α} {Q : Except ε α → Γ → Prop}
    (hp : p.wp (C i) Q (γ i)) (hmay : ∀ o k, p = .op o k → May γ i o) :
    Acc (Function.update γ i (p.observe h (C i) (γ i) s)) (p.exec h s).2 ∧
      (p.exec h s).1.wp (C i) Q (p.observe h (C i) (γ i) s) := by
  cases p with
  | pure a => exact ⟨by simpa [Prog.observe] using hacc, hp⟩
  | raise e => exact ⟨by simpa [Prog.observe] using hacc, hp⟩
  | op o k =>
    obtain ⟨hallows, hacc'⟩ := hviews γ s i o hacc hp.1 (hmay o k rfl)
    exact ⟨hacc', hp.2 _ hallows⟩

/-- Threads with the views of their owners. -/
structure Pool (S : Signature) (ι ε α σ Γ : Type) extends Threads S ι ε α σ where
  view : ι → Γ

namespace Pool

/-- Party `i` executes its next operation. -/
def exec (h : Handler S σ) (C : ι → Contract S Γ) (c : Pool S ι ε α σ Γ) (i : ι) :
    Pool S ι ε α σ Γ where
  toThreads := c.toThreads.exec h i
  view := Function.update c.view i ((c.thread i).observe h (C i) (c.view i) c.shared)

/-- The views are accurate, and every program meets its postcondition from its owner's view. -/
structure Sound (C : ι → Contract S Γ) (Acc : (ι → Γ) → σ → Prop)
    (Q : ι → Except ε α → Γ → Prop) (c : Pool S ι ε α σ Γ) : Prop where
  accurate : Acc c.view c.shared
  meets : ∀ i, (c.thread i).wp (C i) (Q i) (c.view i)

/-- **Interleaving rule.**  Soundness survives every operation of every party that the schedule may
let it take. -/
theorem Sound.exec {h : Handler S σ} {C : ι → Contract S Γ} {Acc : (ι → Γ) → σ → Prop}
    {May : (ι → Γ) → ι → S.Op → Prop} {Q : ι → Except ε α → Γ → Prop}
    (hviews : Views h C Acc May) {c : Pool S ι ε α σ Γ} (hc : c.Sound C Acc Q) (i : ι)
    (hmay : ∀ o k, c.thread i = .op o k → May c.view i o) : (c.exec h C i).Sound C Acc Q := by
  obtain ⟨hacc, hwp⟩ := hviews.exec_sound hc.accurate (hc.meets i) hmay
  refine ⟨hacc, fun j => ?_⟩
  rcases eq_or_ne j i with rfl | hji
  · simpa [Pool.exec, Threads.exec] using hwp
  · simpa [Pool.exec, Threads.exec, hji] using hc.meets j

/-- Party `i` starts a program, from a view that is as accurate as the one it had. -/
def start (c : Pool S ι ε α σ Γ) (i : ι) (p : Prog S ε α) (γ : Γ) : Pool S ι ε α σ Γ where
  shared := c.shared
  thread := Function.update c.thread i p
  view := Function.update c.view i γ

lemma Sound.start {C : ι → Contract S Γ} {Acc : (ι → Γ) → σ → Prop}
    {Q Q' : ι → Except ε α → Γ → Prop} {c : Pool S ι ε α σ Γ} (hc : c.Sound C Acc Q) {i : ι}
    {p : Prog S ε α} {γ : Γ} (hacc : Acc (Function.update c.view i γ) c.shared)
    (hQ : ∀ j, j ≠ i → Q' j = Q j) (hp : p.wp (C i) (Q' i) γ) :
    (c.start i p γ).Sound C Acc Q' := by
  refine ⟨hacc, fun j => ?_⟩
  rcases eq_or_ne j i with rfl | hji
  · simpa [Pool.start] using hp
  · simpa [Pool.start, hji, hQ j hji] using hc.meets j

end Pool

/-! ## Runs of threads -/

/-- **Views for a run of threads.**  Threads that are sound with some views stay sound with some
views in every run whose steps meet a condition, if sound views turn the condition into what
`Views` asks of the schedule. -/
theorem Views.run_sound {h : Handler S σ} {C : ι → Contract S Γ} {Acc : (ι → Γ) → σ → Prop}
    {May : (ι → Γ) → ι → S.Op → Prop} {Q : ι → Except ε α → Γ → Prop}
    (hviews : Views h C Acc May) {When : Threads S ι ε α σ → ι → Prop}
    (hmay : ∀ (c : Pool S ι ε α σ Γ) i, c.Sound C Acc Q → When c.toThreads i →
      ∀ o k, c.thread i = .op o k → May c.view i o)
    {c : Threads S ι ε α σ} {is : List ι} (hc : ∃ γ, Pool.Sound C Acc Q ⟨c, γ⟩)
    (his : Guarded (Threads.exec h) When c is) :
    ∃ γ, Pool.Sound C Acc Q ⟨run (Threads.exec h) c is, γ⟩ := by
  refine his.invariant (I := fun c => ∃ γ, Pool.Sound C Acc Q ⟨c, γ⟩) ?_ hc
  rintro c i ⟨γ, hsound⟩ hwhen
  exact ⟨_, hsound.exec hviews i (hmay ⟨c, γ⟩ i hsound hwhen)⟩

/-! ## Programs that come and go -/

/-- What comes next in a system that starts programs while others run: a party begins a program,
giving up the one it has, or executes its next operation. -/
inductive Turn (ι β : Type)
  | begin (i : ι) (b : β)
  | exec (i : ι)

section Turns

variable {β : Type}

/-- One turn; `program b` is the program that serves `b`. -/
def Threads.turn (h : Handler S σ) (program : β → Prog S ε α) (c : Threads S ι ε α σ) :
    Turn ι β → Threads S ι ε α σ
  | .begin i b => { c with thread := Function.update c.thread i (program b) }
  | .exec i => c.exec h i

/-- All parties have returned `a`. -/
def Threads.idle (s : σ) (a : α) : Threads S ι ε α σ := ⟨s, fun _ => .pure a⟩

namespace Pool

/-- The same with views; `enter b` is what a party's view becomes when it begins to serve `b`. -/
def turn (h : Handler S σ) (C : ι → Contract S Γ) (program : β → Prog S ε α) (enter : β → Γ → Γ)
    (c : Pool S ι ε α σ Γ) : Turn ι β → Pool S ι ε α σ Γ
  | .begin i b => c.start i (program b) (enter b (c.view i))
  | .exec i => c.exec h C i

variable {h : Handler S σ} {C : ι → Contract S Γ} {program : β → Prog S ε α} (enter : β → Γ → Γ)

/-- The views play no part in what happens. -/
lemma toThreads_run (c : Pool S ι ε α σ Γ) (turns : List (Turn ι β)) :
    (run (turn h C program enter) c turns).toThreads =
      run (Threads.turn h program) c.toThreads turns := by
  induction turns generalizing c with
  | nil => rfl
  | cons t turns ih =>
    rw [run_cons, run_cons, ih]
    cases t with
    | begin i b => rfl
    | exec i => rfl

/-- **Turn rule.**  Parties that may do what their contracts allow whenever they like stay sound
when programs come and go. -/
theorem Sound.turn {Acc : (ι → Γ) → σ → Prop} {Q : ι → Except ε α → Γ → Prop}
    (hviews : Views h C Acc fun _ _ _ => True)
    (henter : ∀ γ s i b, Acc γ s → Acc (Function.update γ i (enter b (γ i))) s)
    (hprogram : ∀ i b γ, (program b).wp (C i) (Q i) (enter b γ)) {c : Pool S ι ε α σ Γ}
    (hc : c.Sound C Acc Q) (t : Turn ι β) : (c.turn h C program enter t).Sound C Acc Q := by
  cases t with
  | begin i b =>
    exact hc.start (henter c.view c.shared i b hc.accurate) (fun _ _ => rfl)
      (hprogram i b (c.view i))
  | exec i => exact hc.exec hviews i fun _ _ _ => trivial

theorem Sound.run {Acc : (ι → Γ) → σ → Prop} {Q : ι → Except ε α → Γ → Prop}
    (hviews : Views h C Acc fun _ _ _ => True)
    (henter : ∀ γ s i b, Acc γ s → Acc (Function.update γ i (enter b (γ i))) s)
    (hprogram : ∀ i b γ, (program b).wp (C i) (Q i) (enter b γ)) {c : Pool S ι ε α σ Γ}
    (hc : c.Sound C Acc Q) (turns : List (Turn ι β)) :
    (Framework.run (Pool.turn h C program enter) c turns).Sound C Acc Q :=
  run_invariant (fun _ t hsound => hsound.turn enter hviews henter hprogram t) hc turns

end Pool

/-- **Shared invariants.**  If every program that can be begun respects a contract without views,
and operations the contract allows keep `I`, then `I` holds however the programs are begun and
interleaved. -/
theorem Threads.invariant_of_contract [Subsingleton Γ] {γ₀ : Γ} {h : Handler S σ}
    {C : Contract S Γ} {I : σ → Prop} (hsound : Prog.SoundOn h C (fun _ => γ₀) I)
    {program : β → Prog S ε α} (hprogram : ∀ b, (program b).wp C (fun _ _ => True) γ₀) {s : σ}
    (hs : I s) (a : α) (turns : List (Turn ι β)) :
    I (run (Threads.turn h program) (Threads.idle s a) turns).shared := by
  have hviews : Views h (fun _ : ι => C) (fun _ s => I s) fun _ _ _ => True := by
    intro γ s i o hI hpre _
    rw [Subsingleton.elim (γ i) γ₀] at hpre ⊢
    obtain ⟨hallows, -, hI'⟩ := hsound o s hI hpre
    exact ⟨hallows, hI'⟩
  let c : Pool S ι ε α σ Γ := ⟨Threads.idle s a, fun _ => γ₀⟩
  have hc : c.Sound (fun _ => C) (fun _ s => I s) fun _ _ _ => True := ⟨hs, fun _ => trivial⟩
  have hrun := hc.run (fun _ _ => γ₀) hviews (fun _ _ _ _ => id) (fun _ b _ => hprogram b) turns
  rw [← Pool.toThreads_run (C := fun _ => C) (fun _ _ => γ₀) c turns]
  exact hrun.accurate

end Turns

end Framework
