import TicketGenius.Framework.Silent

/-!
# Sweeping a shared store with a cursor

A sweep deletes the keys that a scan finds: it asks for a batch of keys and the next cursor, deletes
the batch, and goes on until the cursor is zero again.  Meanwhile others use the store
(`Environment.others`).  A scan promises little: a key that is there from the beginning of a full
iteration to its end is in one of the batches (`Complete`).

That is enough.  A key nobody else sets can only disappear, so if it is there in the end it has been
there all the time, hence is in a batch, hence has been deleted (`sweep_clears`).
-/

namespace Framework

/-! ## The loop -/

/-- The operations of a sweep, over keys `κ`. -/
inductive SweepOp (κ : Type)
  /-- Asks for the batch at a cursor. -/
  | scan (cursor : ℕ)
  | delete (keys : List κ)

/-- The reply to a scan is the next cursor and a batch. -/
@[reducible]
def SweepOp.Reply {κ : Type} : SweepOp κ → Type
  | .scan _ => ℕ × List κ
  | .delete _ => Unit

@[reducible]
def sweeping (κ : Type) : Signature := ⟨SweepOp κ, SweepOp.Reply⟩

variable {κ σ ε : Type}

/-- Deletes a batch, if there is anything in it, and goes on. -/
def deleteBatch (keys : List κ) (next : Prog (sweeping κ) ε Bool) : Prog (sweeping κ) ε Bool :=
  if keys ≠ [] then .op (.delete keys) fun _ => next else next

/-- The sweep from a cursor on, in at most so many rounds; whether it has come to its end. -/
def sweep : ℕ → ℕ → Prog (sweeping κ) ε Bool
  | 0, _ => .pure false
  | rounds + 1, cursor => .op (.scan cursor) fun batch =>
      deleteBatch batch.2 (if batch.1 = 0 then .pure true else sweep rounds batch.1)

/-! ## Others at work -/

/-- What a sweep meets: what others do to the store just before its operation at a time, and the
replies to its scans. -/
structure Environment (κ σ : Type) where
  others : ℕ → σ → σ
  scan : ℕ → σ → ℕ → ℕ × List κ

/-- A store that keys can be in and be deleted from. -/
structure Deletes (has : σ → κ → Prop) (delete : List κ → σ → σ) : Prop where
  has_delete : ∀ keys s k, has (delete keys s) k ↔ has s k ∧ k ∉ keys

/-- What an operation of the sweep does to the store, and to the time. -/
def Environment.handle (env : Environment κ σ) (delete : List κ → σ → σ) :
    Handler (sweeping κ) (σ × ℕ)
  | .scan cursor, (s, n) => (env.scan n (env.others n s) cursor, (env.others n s, n + 1))
  | .delete keys, (s, n) => ((), (delete keys (env.others n s), n + 1))

/-- Others never set the key. -/
def Environment.Spares (env : Environment κ σ) (has : σ → κ → Prop) (k : κ) : Prop :=
  ∀ n s, has (env.others n s) k → has s k

/-- The batch of an operation that has been performed. -/
def batchOf : ((o : SweepOp κ) × o.Reply) → List κ
  | ⟨.scan _, batch⟩ => batch.2
  | ⟨.delete _, _⟩ => []

/-- The promise of a scan, for a full iteration: only keys that match are in the batches, and one
that is never set meanwhile and is there all the time is in a batch. -/
structure Complete (env : Environment κ σ) (has : σ → κ → Prop) (delete : List κ → σ → σ)
    (Matches : κ → Prop) (p : Prog (sweeping κ) ε Bool) (start : σ × ℕ) : Prop where
  sound : ∀ e ∈ p.trace (env.handle delete) start, ∀ k ∈ batchOf e, Matches k
  full : p.result (env.handle delete) start = .ok true → ∀ k, Matches k → env.Spares has k →
    (∀ n, has (p.cut (env.handle delete) n start).1 k) →
    ∃ e ∈ p.trace (env.handle delete) start, k ∈ batchOf e

section Sweep

variable {env : Environment κ σ} {has : σ → κ → Prop} {delete : List κ → σ → σ} {k : κ}

/-- A key that nobody sets and that is not there does not come back. -/
lemma handle_absent (hdelete : Deletes has delete) (hspares : env.Spares has k) (o : SweepOp κ)
    {s : σ × ℕ} (h : has (env.handle delete o s).2.1 k) : has s.1 k := by
  obtain ⟨s, n⟩ := s
  cases o with
  | scan cursor => exact hspares n s h
  | delete keys => exact hspares n s ((hdelete.has_delete keys _ k).mp h).1

/-- If it is there in the end, it was there in the beginning. -/
lemma has_of_after (hdelete : Deletes has delete) (hspares : env.Spares has k)
    {p : Prog (sweeping κ) ε Bool} {s : σ × ℕ} (h : has (p.after (env.handle delete) s).1 k) :
    has s.1 k := by
  induction p generalizing s with
  | pure a => exact h
  | raise e => exact h
  | op o f ih => exact handle_absent hdelete hspares o (ih _ h)

/-- It has been there all the time. -/
lemma has_cut_of_after (hdelete : Deletes has delete) (hspares : env.Spares has k)
    {p : Prog (sweeping κ) ε Bool} {s : σ × ℕ} (h : has (p.after (env.handle delete) s).1 k)
    (n : ℕ) : has (p.cut (env.handle delete) n s).1 k := by
  induction n generalizing p s with
  | zero => exact has_of_after hdelete hspares h
  | succ n ih =>
    cases p with
    | pure a => exact h
    | raise e => exact h
    | op o f => exact ih h

/-- **Frame rule.**  What others leave alone, and every deletion of keys in `P`, a run leaves alone
that deletes keys in `P` only. -/
lemma after_unchanged {γ : Type} {f : σ → γ} {P : List κ → Prop}
    (hothers : ∀ n s, f (env.others n s) = f s)
    (hdelete : ∀ keys s, P keys → f (delete keys s) = f s)
    {p : Prog (sweeping κ) ε Bool} {s : σ × ℕ}
    (htrace : ∀ keys, ⟨.delete keys, ()⟩ ∈ p.trace (env.handle delete) s → P keys) :
    f (p.after (env.handle delete) s).1 = f s.1 := by
  induction p generalizing s with
  | pure a => rfl
  | raise e => rfl
  | op o k ih =>
    obtain ⟨s, n⟩ := s
    have hop : f (env.handle delete o (s, n)).2.1 = f s := by
      cases o with
      | scan cursor => exact hothers n s
      | delete keys => exact (hdelete keys _ (htrace keys List.mem_cons_self)).trans (hothers n s)
    exact (ih _ fun keys hkeys => htrace keys (List.mem_cons_of_mem _ hkeys)).trans hop

/-- What comes after a round, given its batch. -/
def nextRound (rounds : ℕ) (batch : ℕ × List κ) : Prog (sweeping κ) ε Bool :=
  if batch.1 = 0 then .pure true else sweep rounds batch.1

/-- **One round**: its batch is gone when the rest of the sweep begins. -/
lemma sweep_round (env : Environment κ σ) (hdelete : Deletes has delete) (rounds cursor : ℕ)
    (s : σ × ℕ) :
    ∃ s' deletions, (∀ e ∈ deletions, e = ⟨.delete (env.handle delete (.scan cursor) s).1.2, ()⟩) ∧
      (∀ k ∈ (env.handle delete (.scan cursor) s).1.2, ¬ has s'.1 k) ∧
      (sweep (rounds + 1) cursor : Prog (sweeping κ) ε Bool).trace (env.handle delete) s =
        ⟨.scan cursor, (env.handle delete (.scan cursor) s).1⟩ :: (deletions ++
          (nextRound rounds (env.handle delete (.scan cursor) s).1 :
            Prog (sweeping κ) ε Bool).trace (env.handle delete) s') ∧
      (sweep (rounds + 1) cursor : Prog (sweeping κ) ε Bool).after (env.handle delete) s =
        (nextRound rounds (env.handle delete (.scan cursor) s).1 :
          Prog (sweeping κ) ε Bool).after (env.handle delete) s' := by
  let batch := (env.handle delete (.scan cursor) s).1
  let s₁ := (env.handle delete (.scan cursor) s).2
  by_cases hbatch : batch.2 = []
  · have hnext : (deleteBatch batch.2 (nextRound rounds batch) : Prog (sweeping κ) ε Bool) =
        nextRound rounds batch := if_neg (not_not.mpr hbatch)
    refine ⟨s₁, [], fun e he => (List.not_mem_nil he).elim, fun k hk => ?_, ?_, ?_⟩
    · rw [hbatch] at hk
      cases hk
    · exact congrArg (fun p => _ :: Prog.trace (env.handle delete) p s₁) hnext
    · exact congrArg (fun p => Prog.after (env.handle delete) p s₁) hnext
  · have hnext : (deleteBatch batch.2 (nextRound rounds batch) : Prog (sweeping κ) ε Bool) =
        .op (.delete batch.2) fun _ => nextRound rounds batch := if_pos hbatch
    refine ⟨(env.handle delete (.delete batch.2) s₁).2, [⟨.delete batch.2, ()⟩], fun e he => ?_,
      fun k hk hhas => ?_, ?_, ?_⟩
    · exact List.mem_singleton.mp he
    · exact ((hdelete.has_delete batch.2 _ k).mp hhas).2 hk
    · exact congrArg (fun p => _ :: Prog.trace (env.handle delete) p s₁) hnext
    · exact congrArg (fun p => Prog.after (env.handle delete) p s₁) hnext

/-- **A key of a batch** is not there in the end. -/
lemma not_has_of_batch (hdelete : Deletes has delete) (hspares : env.Spares has k)
    {rounds cursor : ℕ} {s : σ × ℕ} {e : (o : SweepOp κ) × o.Reply}
    (he : e ∈ (sweep rounds cursor : Prog (sweeping κ) ε Bool).trace (env.handle delete) s)
    (hk : k ∈ batchOf e) :
    ¬ has ((sweep rounds cursor : Prog (sweeping κ) ε Bool).after (env.handle delete) s).1 k := by
  induction rounds generalizing cursor s with
  | zero => cases he
  | succ rounds ih =>
    obtain ⟨s', deletions, hdeletions, hgone, htrace, hafter⟩ :=
      sweep_round (ε := ε) env hdelete rounds cursor s
    rw [htrace, List.mem_cons, List.mem_append] at he
    rw [hafter]
    rcases he with rfl | he | he
    · exact fun hthere => hgone k hk (has_of_after hdelete hspares hthere)
    · rw [hdeletions e he] at hk
      cases hk
    · unfold nextRound at he ⊢
      split at he
      · cases he
      · next hlast =>
        rw [if_neg hlast]
        exact ih he

/-- What is deleted has been in a batch. -/
lemma mem_batch_of_delete (hdelete : Deletes has delete) {rounds cursor : ℕ} {s : σ × ℕ}
    {keys : List κ}
    (he : ⟨.delete keys, ()⟩ ∈
      (sweep rounds cursor : Prog (sweeping κ) ε Bool).trace (env.handle delete) s) :
    ∃ e ∈ (sweep rounds cursor : Prog (sweeping κ) ε Bool).trace (env.handle delete) s,
      batchOf e = keys := by
  induction rounds generalizing cursor s with
  | zero => cases he
  | succ rounds ih =>
    obtain ⟨s', deletions, hdeletions, -, htrace, -⟩ :=
      sweep_round (ε := ε) env hdelete rounds cursor s
    rw [htrace, List.mem_cons, List.mem_append] at he
    rw [htrace]
    rcases he with he | he | he
    · cases he
    · have hkeys := hdeletions _ he
      simp only [Sigma.mk.injEq, SweepOp.delete.injEq, heq_eq_eq, and_true] at hkeys
      exact ⟨_, List.mem_cons_self, hkeys.symm⟩
    · unfold nextRound at he ⊢
      split at he
      · cases he
      · next hlast =>
        obtain ⟨e, hmem, hbatch⟩ := ih he
        rw [if_neg hlast]
        exact ⟨e, List.mem_cons_of_mem _ (List.mem_append_right _ hmem), hbatch⟩

/-- **A sweep that has come to its end** has deleted every key that matches, except what others have
set meanwhile. -/
theorem sweep_clears {Matches : κ → Prop} {rounds : ℕ} {start : σ × ℕ}
    (hdelete : Deletes has delete)
    (hcomplete : Complete env has delete Matches (sweep rounds 0 : Prog (sweeping κ) ε Bool) start)
    (hended : (sweep rounds 0 : Prog (sweeping κ) ε Bool).result (env.handle delete) start =
      .ok true) (hk : Matches k) (hspares : env.Spares has k) :
    ¬ has ((sweep rounds 0 : Prog (sweeping κ) ε Bool).after (env.handle delete) start).1 k := by
  intro hafter
  obtain ⟨e, he, hbatch⟩ := hcomplete.full hended k hk hspares
    fun n => has_cut_of_after hdelete hspares hafter n
  exact not_has_of_batch hdelete hspares he hbatch hafter

/-- **It deletes no other key**, whether it has come to its end or not. -/
theorem sweep_deletes_matching {Matches : κ → Prop} {rounds : ℕ} {start : σ × ℕ}
    (hdelete : Deletes has delete)
    (hcomplete : Complete env has delete Matches (sweep rounds 0 : Prog (sweeping κ) ε Bool) start)
    {keys : List κ}
    (he : ⟨.delete keys, ()⟩ ∈
      (sweep rounds 0 : Prog (sweeping κ) ε Bool).trace (env.handle delete) start) :
    ∀ k ∈ keys, Matches k := by
  obtain ⟨e, hmem, rfl⟩ := mem_batch_of_delete hdelete he
  exact hcomplete.sound e hmem

end Sweep

end Framework
