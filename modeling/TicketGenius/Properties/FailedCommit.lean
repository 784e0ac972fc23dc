import TicketGenius.Adapters.Session
import TicketGenius.Domain.Events
import TicketGenius.Framework.Run

/-!
# What a failed exit leaves behind

One unit of work serves one transaction after the other.  When the normal branch of `__exit__`
raises, neither `rollback` nor `close` is called, and the next transaction finds the session as it
was left: with the pending objects and outbox rows of the failed one, or with a deactivated
transaction.  The list `_domain_events` is not emptied either, after a failed exit no more than
after a successful one.

`AsFresh` compares a transaction with the same transaction of a new unit of work on the same
database: it must end in the same way and send the same statements.  Every transaction does so
exactly if the last exit has not failed and no event has been collected so far
(`all_asFresh_iff`); the transaction that does nothing shows the difference otherwise.
-/

namespace TicketGenius.FailedCommit

open Framework SqlAlchemyUnitOfWork

variable {κ ν ε ρ : Type} [DecidableEq κ]

/-! ## Runs of transactions -/

/-- A unit of work, and whether the exit of its last transaction has raised. -/
structure Served (κ ν ε ρ : Type) where
  uow : SqlAlchemyUnitOfWork κ ν ε ρ
  exitFailed : Bool

/-- A new unit of work. -/
def Served.start (database : List (Statement κ ν ρ)) : Served κ ν ε ρ := ⟨.create database, false⟩

/-- One transaction. -/
def Served.step (row : ε → ρ) (s : Served κ ν ε ρ) (t : Transaction κ ν ε) : Served κ ν ε ρ :=
  ⟨(s.uow.transact row t).1, (s.uow.transact row t).2 == .exitRaised⟩

/-- The transaction behaves as on a new unit of work: it ends in the same way, and leaves the same
database. -/
def AsFresh (row : ε → ρ) (uow : SqlAlchemyUnitOfWork κ ν ε ρ) (t : Transaction κ ν ε) : Prop :=
  (uow.transact row t).2 = ((create uow.database).transact row t).2 ∧
    (uow.transact row t).1.database = ((create uow.database).transact row t).1.database

/-! ## Collecting -/

omit [DecidableEq κ] in
lemma length_collectFrom (n : ℕ) (os : List (Instance κ ν ε)) :
    (collectFrom n os).2.length = os.length := by
  induction os generalizing n with
  | nil => simp [collectFrom]
  | cons o os ih =>
    rcases n with _ | n
    · simp [collectFrom]
    · simp [collectFrom, ih n]

section Exit

variable {row : ε → ρ} {uow : SqlAlchemyUnitOfWork κ ν ε ρ}

/-- **What an exit can do.**  It stops at an object, or at an event, or it comes to
`session.commit()`. -/
lemma exit_cases (row : ε → ρ) (uow : SqlAlchemyUnitOfWork κ ν ε ρ) (fault : Option Fault) :
    (∃ n < uow.session.new.length + uow.session.dirty.length,
      uow.exit row fault = (uow.collectDomainEvents n, false)) ∨
    (∃ collected : SqlAlchemyUnitOfWork κ ν ε ρ, ∃ n < collected.domainEvents.length,
      uow.exit row fault = (collected.writeOutboxEvents row n, false)) ∨
    ∃ fault', uow.exit row fault = (uow.collectAndWrite row).commitAndClose fault' := by
  let objects := uow.session.new.length + uow.session.dirty.length
  rcases fault with _ | (n | n | _ | _)
  · exact .inr (.inr ⟨none, rfl⟩)
  · by_cases hn : n < objects
    · exact .inl ⟨n, hn, if_pos hn⟩
    · exact .inr (.inr ⟨none, if_neg hn⟩)
  · by_cases hn : n < (uow.collectDomainEvents objects).domainEvents.length
    · exact .inr (.inl ⟨_, n, hn, if_pos hn⟩)
    · exact .inr (.inr ⟨none, if_neg hn⟩)
  · exact .inr (.inr ⟨some .flushing, rfl⟩)
  · exact .inr (.inr ⟨some .committing, rfl⟩)

/-- An exit nothing interferes with. -/
lemma exit_none (row : ε → ρ) (uow : SqlAlchemyUnitOfWork κ ν ε ρ) :
    uow.exit row none =
      if uow.session.deactivated then (uow.collectAndWrite row, false)
      else
        ({ database :=
             uow.database ++ (uow.session.flushed ++ (uow.collectAndWrite row).session.unflushed)
           session := .empty
           domainEvents := (uow.collectAndWrite row).domainEvents }, true) := by
  cases hdeactivated : uow.session.deactivated <;>
    simp [exit, commitAndClose, sessionCommit, collectAndWrite, collectDomainEvents,
      writeOutboxEvents, hdeactivated, OrmSession.close, OrmSession.flush]

/-- A `session.commit()` that raises leaves a deactivated transaction. -/
lemma deactivated_of_sessionCommit {fault : Option Fault}
    (h : (uow.sessionCommit fault).2 = false) :
    (uow.sessionCommit fault).1.session.deactivated = true := by
  unfold sessionCommit at h ⊢
  split
  · assumption
  · next hactive =>
    rw [if_neg hactive] at h
    split
    · split
      · next hnothing => simp [hnothing] at h
      · rfl
    · rfl
    · simp at h

lemma commitAndClose_returns {fault : Option Fault} (h : (uow.commitAndClose fault).2 = true) :
    (uow.commitAndClose fault).1.session = .empty := by
  unfold commitAndClose at h ⊢
  split
  · rfl
  · next heq =>
    rw [heq] at h
    cases h

lemma commitAndClose_raises {fault : Option Fault} (h : (uow.commitAndClose fault).2 = false) :
    (uow.commitAndClose fault).1.session.deactivated = true := by
  unfold commitAndClose at h ⊢
  split
  · next heq =>
    rw [heq] at h
    cases h
  · next failed heq =>
    have hraised : (uow.sessionCommit fault).2 = false := by rw [heq]
    have hdeactivated := deactivated_of_sessionCommit hraised
    rwa [heq] at hdeactivated

/-- What makes a unit of work unlike a new one: a transaction that is to be rolled back, pending or
changed objects, or events in its list. -/
def Residue (uow : SqlAlchemyUnitOfWork κ ν ε ρ) : Prop :=
  uow.session.deactivated = true ∨ uow.session.new.length + uow.session.dirty.length ≠ 0 ∨
    uow.domainEvents ≠ []

omit [DecidableEq κ] in
/-- Collecting takes no object out of the session. -/
lemma length_collectDomainEvents (n : ℕ) (uow : SqlAlchemyUnitOfWork κ ν ε ρ) :
    (uow.collectDomainEvents n).session.new.length +
      (uow.collectDomainEvents n).session.dirty.length =
        uow.session.new.length + uow.session.dirty.length := by
  have hnew := length_collectFrom n uow.session.new
  have hdirty := length_collectFrom (n - uow.session.new.length) uow.session.dirty
  simp only [collectDomainEvents, hnew, hdirty]

/-- **A failed exit leaves residue**, wherever it failed. -/
theorem residue_of_exit {fault : Option Fault} (h : (uow.exit row fault).2 = false) :
    Residue (uow.exit row fault).1 := by
  rcases exit_cases row uow fault with ⟨n, hn, hexit⟩ | ⟨collected, n, hn, hexit⟩ | ⟨fault', hexit⟩
  · rw [hexit]
    refine .inr (.inl ?_)
    rw [length_collectDomainEvents]
    omega
  · rw [hexit]
    exact .inr (.inr (List.ne_nil_of_length_pos (Nat.zero_lt_of_lt hn)))
  · rw [hexit] at h ⊢
    exact .inl (commitAndClose_raises h)

/-- An exit that returns leaves a closed session. -/
lemma session_of_exit {fault : Option Fault} (h : (uow.exit row fault).2 = true) :
    (uow.exit row fault).1.session = .empty := by
  rcases exit_cases row uow fault with ⟨n, -, hexit⟩ | ⟨collected, n, -, hexit⟩ | ⟨fault', hexit⟩
  · rw [hexit] at h
    cases h
  · rw [hexit] at h
    cases h
  · rw [hexit] at h ⊢
    exact commitAndClose_returns h

end Exit

/-! ## Runs -/

section Runs

variable {row : ε → ρ}

/-- Between transactions: after an exit that failed there is residue, and after any other end the
session is closed. -/
structure Served.Sound (s : Served κ ν ε ρ) : Prop where
  closed : s.exitFailed = false → s.uow.session = .empty
  residue : s.exitFailed = true → Residue s.uow

omit [DecidableEq κ] in
lemma Served.sound_start (database : List (Statement κ ν ρ)) :
    (Served.start (ε := ε) database).Sound where
  closed := fun _ => rfl
  residue := nofun

/-- **Step lemma.**  It asks nothing of the state before. -/
theorem Served.sound_step (row : ε → ρ) (s : Served κ ν ε ρ) (t : Transaction κ ν ε) :
    (s.step row t).Sound := by
  unfold Served.step transact
  split
  · exact ⟨fun _ => rfl, nofun⟩
  · next session _ =>
    split
    · exact ⟨fun _ => rfl, nofun⟩
    · split
      · next uow' hexit =>
        refine ⟨fun _ => ?_, nofun⟩
        have hreturns : (exit row { s.uow with session := session } t.fault).2 = true := by
          rw [hexit]
        have hsession := session_of_exit hreturns
        rwa [hexit] at hsession
      · next uow' hexit =>
        refine ⟨nofun, fun _ => ?_⟩
        have hraises : (exit row { s.uow with session := session } t.fault).2 = false := by
          rw [hexit]
        have hresidue := residue_of_exit hraises
        rwa [hexit] at hresidue

/-- The transaction that does nothing. -/
def idle : Transaction κ ν ε := ⟨[], false, none⟩

omit [DecidableEq κ] in
/-- A session with nothing to flush holds no pending object, changed object or outbox row. -/
lemma eq_nil_of_unflushed {s : OrmSession κ ν ε ρ} (h : s.unflushed = []) :
    s.new.length + s.dirty.length = 0 ∧ s.newOutbox = [] := by
  simp only [OrmSession.unflushed, List.append_eq_nil_iff, List.map_eq_nil_iff] at h
  obtain ⟨hnew, hdirty, houtbox⟩ := h
  simp [hnew, hdirty, houtbox]

/-- Residue shows in the transaction that does nothing. -/
lemma not_asFresh_idle {uow : SqlAlchemyUnitOfWork κ ν ε ρ} (hresidue : Residue uow) :
    ¬ AsFresh row uow idle := by
  rintro ⟨hending, hdatabase⟩
  have hidle : ∀ uow' : SqlAlchemyUnitOfWork κ ν ε ρ, uow'.transact row idle =
      ((uow'.exit row none).1, if (uow'.exit row none).2 then .committed else .exitRaised) := by
    intro uow'
    have hduring : uow'.during idle.body = some uow'.session := rfl
    rw [transact, hduring]
    dsimp only [idle]
    rcases uow'.exit row none with ⟨uow'', _ | _⟩
    · rfl
    · rfl
  have hfresh : (create (ε := ε) uow.database).transact row idle =
      (create uow.database, .committed) := by
    simp [hidle, exit_none, create, OrmSession.empty, collectAndWrite, collectDomainEvents,
      collectFrom, writeOutboxEvents, OrmSession.unflushed]
  rw [hidle, exit_none, hfresh] at hending hdatabase
  by_cases hdeactivated : uow.session.deactivated = true
  · simp [hdeactivated] at hending
  · simp only [hdeactivated, Bool.false_eq_true, if_false, create, List.append_right_eq_self,
      List.append_eq_nil_iff] at hdatabase
    obtain ⟨hobjects, houtbox⟩ := eq_nil_of_unflushed hdatabase.2
    have hnone : uow.session.new.length + uow.session.dirty.length = 0 := by
      rw [← length_collectDomainEvents (uow.session.new.length + uow.session.dirty.length) uow]
      exact hobjects
    have hevents : uow.domainEvents = [] := by
      simp only [collectAndWrite, writeOutboxEvents, List.take_length, List.append_eq_nil_iff,
        List.map_eq_nil_iff, collectDomainEvents] at houtbox
      exact houtbox.2.1
    rcases hresidue with h | h | h
    · exact hdeactivated h
    · exact h hnone
    · exact h hevents

/-- **When every transaction behaves as on a new unit of work.**  At the end of every run of
transactions: exactly if the last exit has not failed and no event has been collected. -/
theorem all_asFresh_iff (row : ε → ρ) (database : List (Statement κ ν ρ))
    (ts : List (Transaction κ ν ε)) :
    let s := run (Served.step row) (.start database) ts
    (∀ t, AsFresh row s.uow t) ↔ s.exitFailed = false ∧ s.uow.domainEvents = [] := by
  intro s
  have hs : s.Sound := run_invariant (fun s t _ => s.sound_step row t) (Served.sound_start _) ts
  constructor
  · intro h
    by_contra hnot
    refine not_asFresh_idle ?_ (h idle)
    by_cases hfailed : s.exitFailed = true
    · exact hs.residue hfailed
    · exact .inr (.inr fun hnil => hnot ⟨Bool.eq_false_iff.mpr hfailed, hnil⟩)
  · rintro ⟨hfailed, hevents⟩ t
    have hfresh : s.uow = create s.uow.database := by
      rw [create, ← hs.closed hfailed, ← hevents]
    rw [AsFresh, ← hfresh]
    exact ⟨rfl, rfl⟩

end Runs

/-! ### A failed flush -/

/-- An order is added with its event, but the flush of the commit fails. -/
def failing : Transaction UUID String DomainEvent :=
  ⟨[.add .nil "PENDING",
      .emit .nil
        (.orderCreated ⟨.max, ⟨0⟩⟩ .nil .nil 1 (Money.euros 10) "Ada" "ada@example.com" none)],
    false, some .flushing⟩

/-- Another order is looked up. -/
def lookup : Transaction UUID String DomainEvent := ⟨[.get .max], false, none⟩

/-- After a failed exit, a transaction that would commit on a new unit of work raises. -/
theorem failed_exit_breaks_next :
    ¬ ∀ (database : List (Statement UUID String DomainEvent)) (before later : List _) (t t' : _),
      (run (Served.step fun h => h) (.start database) (before ++ [t])).exitFailed = true →
        AsFresh (fun h => h)
          (run (Served.step fun h => h) (.start database) (before ++ [t] ++ later)).uow t' := by
  intro h
  obtain ⟨hending, -⟩ := h [] [] [] failing lookup rfl
  cases hending

end TicketGenius.FailedCommit
