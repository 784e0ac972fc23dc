import TicketGenius.Adapters.UnitOfWork
import TicketGenius.Domain.Events
import TicketGenius.Framework.Run

/-!
# Exactly once to the outbox

A transaction that commits should add to the outbox one row for each event raised on its aggregates
and no other row, and an event of a transaction that was rolled back should never be written.  Next
to the unit of work, `Audit` keeps what that asks for: the events raised on each object in the
present transaction, and the events of the transactions that have committed.  Then the demand is
that the outbox consists of the rows of the latter, in some order (`ExactlyOnce`).

The unit of work falls short of it in three ways.  It collects from objects that are new or dirty,
and a flush makes them neither; it never empties the list it collects into, so a later commit writes
the same events again; and a rollback leaves the events in the lists of the aggregates, from where a
later transaction takes them.  A run in which none of this is provoked is `Careful`.
-/

namespace TicketGenius.Outbox

open Framework

variable {ι ε κ π : Type} [DecidableEq ι]

/-! ## Runs of transactions -/

/-- What happens to a unit of work.  `exit` and `fail` are `__exit__` without and with an
exception. -/
inductive Act (ι ε : Type)
  | add (o : ι)
  | load (o : ι)
  | change (o : ι)
  | raise (o : ι) (event : ε)
  | flush
  | commit
  | rollback
  | exit
  | fail

/-- A unit of work, the events raised in the present transaction, and those of the transactions that
have committed. -/
structure Audit (ι ε κ π : Type) where
  uow : UnitOfWork ι ε (OutboxEvent κ π)
  raisedOn : ι → List ε
  committed : List ε

namespace Audit

/-- A transaction ends.  If it has committed, the events raised on the objects of its session were
to be written. -/
def settle (a : Audit ι ε κ π) (result : UnitOfWork ι ε (OutboxEvent κ π) × Bool) :
    Audit ι ε κ π where
  uow := result.1
  raisedOn := fun _ => []
  committed := if result.2 then a.committed ++ a.uow.objects.flatMap a.raisedOn else a.committed

/-- One act. -/
def step (d : EventDescription ε κ π) (a : Audit ι ε κ π) : Act ι ε → Audit ι ε κ π
  | .add o => { a with uow := a.uow.add o }
  | .load o => { a with uow := a.uow.load o }
  | .change o => { a with uow := a.uow.change o }
  | .raise o event =>
    { a with
      uow := a.uow.raise o event
      raisedOn := if (a.uow.aggregateEvents o).isSome then
        Function.update a.raisedOn o (a.raisedOn o ++ [event]) else a.raisedOn }
  | .flush => { a with uow := a.uow.flush }
  | .commit => a.settle (a.uow.commit d)
  | .rollback => a.settle (a.uow.rollback, false)
  | .exit => a.settle (a.uow.exit d)
  | .fail => a.settle (a.uow.fail, false)

/-- A new unit of work. -/
def start (aggregateEvents : ι → Option (List ε)) (stored : ι → Bool)
    (outbox : List (OutboxEvent κ π)) : Audit ι ε κ π :=
  ⟨.create aggregateEvents stored outbox, fun _ => [], []⟩

end Audit

/-- Beyond the rows that were there at first, the outbox consists of one row for each event of the
committed transactions. -/
def ExactlyOnce (d : EventDescription ε κ π) (outbox : List (OutboxEvent κ π))
    (a : Audit ι ε κ π) : Prop :=
  a.uow.outbox.Perm (outbox ++ a.committed.map d.row)

/-- An object is added without events of an earlier transaction; at a commit nothing has been
collected before, and of the persistent objects only dirty ones have events; a rollback that leaves
the session open leaves no events in it. -/
def Careful (a : Audit ι ε κ π) : Act ι ε → Prop
  | .add o => a.uow.pending o = a.raisedOn o
  | .commit | .exit => a.uow.domainEvents = [] ∧
      ∀ o ∈ a.uow.persistent, a.uow.modified o = false → a.uow.pending o = []
  | .rollback => ∀ o ∈ a.uow.persistent, o ∉ a.uow.inserted → a.uow.pending o = []
  | .load _ | .change _ | .raise _ _ | .flush | .fail => True

/-! ## Collecting events -/

section Collect

variable {ρ : Type} (uow : UnitOfWork ι ε ρ) (os : List ι)

/-- Collecting touches event lists only. -/
lemma collectFrom_session :
    (uow.collectFrom os).new = uow.new ∧ (uow.collectFrom os).persistent = uow.persistent ∧
      (uow.collectFrom os).inserted = uow.inserted ∧
      (uow.collectFrom os).modified = uow.modified ∧ (uow.collectFrom os).outbox = uow.outbox := by
  induction os generalizing uow with
  | nil => exact ⟨rfl, rfl, rfl, rfl, rfl⟩
  | cons o os ih =>
    rw [UnitOfWork.collectFrom]
    split
    · exact ih uow
    · exact ih _

/-- An object that was collected from has no events left. -/
lemma pending_collectFrom (o : ι) :
    (uow.collectFrom os).pending o = if o ∈ os then [] else uow.pending o := by
  induction os generalizing uow with
  | nil => rfl
  | cons o' os ih =>
    rw [UnitOfWork.collectFrom]
    split
    · next hnone =>
      rw [ih]
      rcases eq_or_ne o o' with rfl | ho
      · simp [UnitOfWork.pending, hnone]
      · simp [ho]
    · next events hevents =>
      rw [ih]
      rcases eq_or_ne o o' with rfl | ho
      · simp [UnitOfWork.pending]
      · simp [UnitOfWork.pending, ho]

/-- What is collected from distinct objects. -/
lemma domainEvents_collectFrom (hos : os.Nodup) :
    (uow.collectFrom os).domainEvents = uow.domainEvents ++ os.flatMap uow.pending := by
  induction os generalizing uow with
  | nil => simp [UnitOfWork.collectFrom]
  | cons o os ih =>
    obtain ⟨ho, hos⟩ := List.nodup_cons.mp hos
    rw [UnitOfWork.collectFrom, List.flatMap_cons]
    split
    · next hnone =>
      rw [ih uow hos]
      simp [UnitOfWork.pending, hnone]
    · next events hevents =>
      rw [ih _ hos]
      have hrest : ∀ o' ∈ os, UnitOfWork.pending { uow with
          domainEvents := uow.domainEvents ++ events
          aggregateEvents := Function.update uow.aggregateEvents o (some []) } o' =
            uow.pending o' := by
        intro o' ho'
        have hne : o' ≠ o := fun h => ho (h ▸ ho')
        simp [UnitOfWork.pending, hne]
      have hfirst : uow.pending o = events := by simp [UnitOfWork.pending, hevents]
      rw [List.flatMap_congr hrest, hfirst, List.append_assoc]

omit [DecidableEq ι] in
/-- Objects without events can be left out. -/
lemma flatMap_filter_of_nil {β : Type} {p : ι → Bool} {f : ι → List β} {l : List ι}
    (h : ∀ o ∈ l, p o = false → f o = []) : (l.filter p).flatMap f = l.flatMap f := by
  induction l with
  | nil => rfl
  | cons o l ih =>
    have hrest := ih fun o' ho' => h o' (List.mem_cons_of_mem o ho')
    cases hp : p o with
    | true => rw [List.filter_cons_of_pos hp, List.flatMap_cons, List.flatMap_cons, hrest]
    | false =>
      have hnil := h o List.mem_cons_self hp
      rw [List.filter_cons_of_neg (by simp [hp]), List.flatMap_cons, hnil, hrest, List.nil_append]

end Collect

/-! ### A commit -/

section Commit

variable {uow : UnitOfWork ι ε (OutboxEvent κ π)}

/-- What a commit collects from a session of distinct objects. -/
lemma domainEvents_collect (hnodup : uow.objects.Nodup) :
    uow.collectDomainEvents.domainEvents =
      uow.domainEvents ++ (uow.new.flatMap uow.pending ++ uow.dirty.flatMap uow.pending) := by
  obtain ⟨hnew, hpersistent, hdisjoint⟩ := List.nodup_append.mp hnodup
  obtain ⟨-, hp, -, hm, -⟩ := collectFrom_session uow uow.new
  have hdirty : (uow.collectFrom uow.new).dirty = uow.dirty := by
    rw [UnitOfWork.dirty, UnitOfWork.dirty, hp, hm]
  -- the first loop has left the events of persistent objects where they were
  have hrest : ∀ o ∈ uow.dirty, (uow.collectFrom uow.new).pending o = uow.pending o := by
    intro o ho
    have hne : o ∉ uow.new := fun hmem => hdisjoint o hmem o (List.mem_of_mem_filter ho) rfl
    rw [pending_collectFrom, if_neg hne]
  have hdirtyNodup : uow.dirty.Nodup := hpersistent.filter _
  rw [UnitOfWork.collectDomainEvents, hdirty,
    domainEvents_collectFrom _ _ hdirtyNodup, domainEvents_collectFrom _ _ hnew,
    List.flatMap_congr hrest, List.append_assoc]

/-- The session is the same after collecting. -/
lemma collect_session (uow : UnitOfWork ι ε (OutboxEvent κ π)) :
    uow.collectDomainEvents.new = uow.new ∧
      uow.collectDomainEvents.persistent = uow.persistent ∧
      uow.collectDomainEvents.outbox = uow.outbox := by
  obtain ⟨hn, hp, -, -, ho⟩ := collectFrom_session uow uow.new
  obtain ⟨hn', hp', -, -, ho'⟩ :=
    collectFrom_session (uow.collectFrom uow.new) (uow.collectFrom uow.new).dirty
  exact ⟨hn'.trans hn, hp'.trans hp, ho'.trans ho⟩

/-- Where only new and dirty objects had events, none has any after collecting. -/
lemma pending_collect
    (hclean : ∀ o ∈ uow.persistent, uow.modified o = false → uow.pending o = []) :
    ∀ o ∈ uow.objects, uow.collectDomainEvents.pending o = [] := by
  intro o ho
  obtain ⟨-, hp, -, hm, -⟩ := collectFrom_session uow uow.new
  rw [UnitOfWork.collectDomainEvents, pending_collectFrom]
  split
  · rfl
  · next hdirty =>
    rw [pending_collectFrom]
    split
    · rfl
    · next hnew =>
      have hpersistent : o ∈ uow.persistent := (List.mem_append.mp ho).resolve_left hnew
      refine hclean o hpersistent ?_
      rw [UnitOfWork.dirty, hp, hm, List.mem_filter, not_and] at hdirty
      simpa using hdirty hpersistent

/-- **A careful commit** writes the pending events of the objects of its session, or fails. -/
lemma commit_careful (d : EventDescription ε κ π) (hnodup : uow.objects.Nodup)
    (hbuffer : uow.domainEvents = [])
    (hclean : ∀ o ∈ uow.persistent, uow.modified o = false → uow.pending o = []) :
    ((uow.commit d).2 = true ∧
      (uow.commit d).1.outbox = uow.outbox ++ (uow.objects.flatMap uow.pending).map d.row ∧
      (uow.commit d).1.objects = uow.persistent ++ uow.new ∧
      ∀ o ∈ uow.objects, (uow.commit d).1.pending o = []) ∨
    ((uow.commit d).2 = false ∧ (uow.commit d).1.outbox = uow.outbox ∧
      (uow.commit d).1.objects.Nodup ∧ (uow.commit d).1.domainEvents ≠ []) := by
  obtain ⟨hnew, hpersistent, houtbox⟩ := collect_session uow
  have hcollected : uow.collectDomainEvents.domainEvents = uow.objects.flatMap uow.pending := by
    rw [domainEvents_collect hnodup, hbuffer, List.nil_append, UnitOfWork.dirty,
      flatMap_filter_of_nil hclean, ← List.flatMap_append]
    rfl
  unfold UnitOfWork.commit
  dsimp only
  split
  · refine .inl ⟨rfl, ?_, ?_, ?_⟩
    · dsimp only
      rw [houtbox, hcollected]
    · rw [← hnew, ← hpersistent]
      rfl
    · exact pending_collect hclean
  · next hnull =>
    refine .inr ⟨rfl, houtbox, ?_, ?_⟩
    · have hnodup' : uow.collectDomainEvents.persistent.Nodup := by
        rw [hpersistent]
        exact (List.nodup_append.mp hnodup).2.1
      exact hnodup'.filter _
    · intro hnil
      change uow.collectDomainEvents.domainEvents = [] at hnil
      rw [hnil] at hnull
      exact hnull rfl

end Commit

/-! ## The invariant -/

/-- The outbox is what it should be, and as long as nothing has been collected, the objects of the
session have the events of the present transaction in their lists and no others. -/
structure Sound (d : EventDescription ε κ π) (outbox : List (OutboxEvent κ π))
    (a : Audit ι ε κ π) : Prop where
  exact : ExactlyOnce d outbox a
  nodup : a.uow.objects.Nodup
  current : a.uow.domainEvents = [] → ∀ o ∈ a.uow.objects, a.uow.pending o = a.raisedOn o
  listed : ∀ o, a.uow.aggregateEvents o = none → a.raisedOn o = []

namespace Sound

variable {d : EventDescription ε κ π} {outbox : List (OutboxEvent κ π)} {a : Audit ι ε κ π}

lemma add (h : Sound d outbox a) (o : ι) (ho : a.uow.pending o = a.raisedOn o) :
    Sound d outbox (a.step d (.add o)) := by
  by_cases hmem : o ∈ a.uow.objects
  · simpa only [Audit.step, UnitOfWork.add, if_pos hmem] using h
  · -- the session gains `o`, at one end or the other of its objects
    have hobjects : (a.uow.add o).objects.Perm (o :: a.uow.objects) := by
      simp only [UnitOfWork.add, if_neg hmem]
      split
      · simp only [UnitOfWork.objects, ← List.append_assoc]
        exact List.perm_append_singleton ..
      · simp only [UnitOfWork.objects, List.append_assoc]
        exact List.perm_middle
    have hfields : (a.uow.add o).outbox = a.uow.outbox ∧
        (a.uow.add o).domainEvents = a.uow.domainEvents ∧
        (a.uow.add o).aggregateEvents = a.uow.aggregateEvents := by
      simp only [UnitOfWork.add, if_neg hmem]
      split <;> exact ⟨rfl, rfl, rfl⟩
    obtain ⟨houtbox, hbuffer, hevents⟩ := hfields
    refine ⟨?_, ?_, ?_, ?_⟩
    · rw [ExactlyOnce, Audit.step, houtbox]
      exact h.exact
    · exact hobjects.nodup_iff.mpr (List.nodup_cons.mpr ⟨hmem, h.nodup⟩)
    · intro hnil o' ho'
      simp only [Audit.step] at hnil ho' ⊢
      rw [hbuffer] at hnil
      rw [UnitOfWork.pending, hevents]
      rcases List.mem_cons.mp (hobjects.mem_iff.mp ho') with rfl | hold
      · exact ho
      · exact h.current hnil o' hold
    · intro o' hnone
      simp only [Audit.step] at hnone ⊢
      rw [hevents] at hnone
      exact h.listed o' hnone

lemma load (h : Sound d outbox a) (o : ι) : Sound d outbox (a.step d (.load o)) := by
  by_cases hskip : o ∈ a.uow.objects ∨ a.uow.aggregateEvents o ≠ none
  · simpa only [Audit.step, UnitOfWork.load, if_pos hskip] using h
  · simp only [Audit.step, UnitOfWork.load, if_neg hskip]
    rw [not_or, not_not] at hskip
    obtain ⟨hmem, hnone⟩ := hskip
    have hobjects : (a.uow.new ++ (a.uow.persistent ++ [o])).Perm (o :: a.uow.objects) := by
      rw [← List.append_assoc]
      exact List.perm_append_singleton ..
    refine ⟨h.exact, ?_, ?_, h.listed⟩
    · exact hobjects.nodup_iff.mpr (List.nodup_cons.mpr ⟨hmem, h.nodup⟩)
    · intro hnil o' ho'
      rcases List.mem_cons.mp (hobjects.mem_iff.mp ho') with rfl | hold
      · change (a.uow.aggregateEvents o').getD [] = a.raisedOn o'
        rw [hnone, h.listed o' hnone, Option.getD_none]
      · exact h.current hnil o' hold

lemma raise (h : Sound d outbox a) (o : ι) (event : ε) :
    Sound d outbox (a.step d (.raise o event)) := by
  cases hevents : a.uow.aggregateEvents o with
  | none => simpa [Audit.step, UnitOfWork.raise, hevents] using h
  | some events =>
    simp only [Audit.step, UnitOfWork.raise, hevents, Option.isSome_some, if_true]
    refine ⟨h.exact, h.nodup, ?_, ?_⟩
    · intro hnil o' ho'
      have hcurrent := h.current hnil o' ho'
      rcases eq_or_ne o' o with rfl | hne
      · simp only [UnitOfWork.pending, hevents, Option.getD_some] at hcurrent
        simp only [UnitOfWork.pending, Function.update_self, Option.getD_some, hcurrent]
      · simpa only [UnitOfWork.pending, Function.update_of_ne hne] using hcurrent
    · intro o' hnone
      rcases eq_or_ne o' o with rfl | hne
      · simp at hnone
      · simp only [Function.update_of_ne hne] at hnone ⊢
        exact h.listed o' hnone

lemma flush (h : Sound d outbox a) : Sound d outbox (a.step d .flush) := by
  have hobjects : (a.uow.persistent ++ a.uow.new).Perm a.uow.objects := List.perm_append_comm
  exact ⟨h.exact, hobjects.nodup_iff.mpr h.nodup,
    fun hnil o ho => h.current hnil o (hobjects.mem_iff.mp ho), h.listed⟩

lemma commit (h : Sound d outbox a) (hbuffer : a.uow.domainEvents = [])
    (hclean : ∀ o ∈ a.uow.persistent, a.uow.modified o = false → a.uow.pending o = []) :
    Sound d outbox (a.settle (a.uow.commit d)) := by
  have hraised : a.uow.objects.flatMap a.uow.pending = a.uow.objects.flatMap a.raisedOn :=
    List.flatMap_congr fun o ho => h.current hbuffer o ho
  have hexact := h.exact
  rcases commit_careful d h.nodup hbuffer hclean with
    ⟨hdone, houtbox, hobjects, hpending⟩ | ⟨hdone, houtbox, hnodup, hcollected⟩
  · have hperm : (a.uow.commit d).1.objects.Perm a.uow.objects := by
      rw [hobjects]
      exact List.perm_append_comm
    refine ⟨?_, hperm.nodup_iff.mpr h.nodup, ?_, fun _ _ => rfl⟩
    · simp only [ExactlyOnce, Audit.settle, hdone, if_true, houtbox, hraised, List.map_append]
      rw [← List.append_assoc]
      exact hexact.append_right _
    · exact fun _ o ho => hpending o (hperm.mem_iff.mp ho)
  · refine ⟨?_, hnodup, fun hnil => absurd hnil hcollected, fun _ _ => rfl⟩
    simpa only [ExactlyOnce, Audit.settle, hdone, houtbox, Bool.false_eq_true, if_false] using
      hexact

lemma exit (h : Sound d outbox a) (hbuffer : a.uow.domainEvents = [])
    (hclean : ∀ o ∈ a.uow.persistent, a.uow.modified o = false → a.uow.pending o = []) :
    Sound d outbox (a.settle (a.uow.exit d)) := by
  have hcommit := h.commit hbuffer hclean
  unfold UnitOfWork.exit
  split
  · next committed heq =>
    rw [heq] at hcommit
    exact ⟨hcommit.exact, List.nodup_nil, fun _ _ ho => absurd ho List.not_mem_nil,
      fun _ _ => rfl⟩
  · next failed heq => rwa [heq] at hcommit

lemma rollback (h : Sound d outbox a)
    (hclean : ∀ o ∈ a.uow.persistent, o ∉ a.uow.inserted → a.uow.pending o = []) :
    Sound d outbox (a.step d .rollback) := by
  refine ⟨h.exact, (List.nodup_append.mp h.nodup).2.1.filter _, ?_, fun _ _ => rfl⟩
  intro _ o ho
  obtain ⟨hpersistent, hinserted⟩ := List.mem_filter.mp ho
  exact hclean o hpersistent (by simpa using hinserted)

lemma fail (h : Sound d outbox a) : Sound d outbox (a.step d .fail) :=
  ⟨h.exact, List.nodup_nil, fun _ _ ho => absurd ho List.not_mem_nil, fun _ _ => rfl⟩

/-- **Step lemma.**  Careful acts keep the invariant. -/
theorem step (h : Sound d outbox a) (act : Act ι ε) (hcareful : Careful a act) :
    Sound d outbox (a.step d act) := by
  cases act with
  | add o => exact h.add o hcareful
  | load o => exact h.load o
  | change o => exact ⟨h.exact, h.nodup, h.current, h.listed⟩
  | raise o event => exact h.raise o event
  | flush => exact h.flush
  | commit => exact h.commit hcareful.1 hcareful.2
  | rollback => exact h.rollback hcareful
  | exit => exact h.exit hcareful.1 hcareful.2
  | fail => exact h.fail

end Sound

/-! ## Runs -/

/-- **Exactly once in careful runs.**  In every state of a run of careful acts of a new unit of
work, the outbox has one row for each event of the committed transactions, and no other new row. -/
theorem exactly_once (d : EventDescription ε κ π) (aggregateEvents : ι → Option (List ε))
    (stored : ι → Bool) (outbox : List (OutboxEvent κ π)) (acts : List (Act ι ε))
    (hacts : Guarded (Audit.step d) Careful (.start aggregateEvents stored outbox) acts) :
    ExactlyOnce d outbox (run (Audit.step d) (.start aggregateEvents stored outbox) acts) := by
  have hstart : Sound d outbox (Audit.start aggregateEvents stored outbox) := by
    refine ⟨?_, List.nodup_nil, fun _ _ ho => absurd ho List.not_mem_nil, fun _ _ => rfl⟩
    simp only [ExactlyOnce, Audit.start, UnitOfWork.create, List.map_nil, List.append_nil]
    exact List.Perm.refl outbox
  exact (hacts.invariant (fun a act h hcareful => h.step act hcareful) hstart).exact

/-! ### An order and its event -/

/-- A description of cancellations, with and without an `aggregate_id`. -/
def describe (aggregateId : Option UUID) : EventDescription DomainEvent UUID Unit where
  aggregateId := fun _ => aggregateId
  typeName := fun _ => "OrderCancelled"
  serializeEvent := fun _ => ()

/-- The event of a cancelled order. -/
def cancellation : DomainEvent := .orderCancelled ⟨.max, ⟨0⟩⟩ .nil "changed my mind"

/-- A new unit of work over objects with empty event lists. -/
def newUnit : Audit ℕ DomainEvent UUID Unit := .start (fun _ => some []) (fun _ => false) []

/-- An event raised on an added order is written at the exit, if its row gets the `id` that the
program leaves out. -/
theorem added_event_written :
    ExactlyOnce (describe (some .nil)) []
      (run (Audit.step (describe (some .nil))) newUnit [.add 0, .raise 0 cancellation, .exit]) :=
  exactly_once (describe (some .nil)) _ _ _ _
    ⟨rfl, trivial, ⟨rfl, fun _ ho => absurd ho List.not_mem_nil⟩, trivial⟩

/-- If a query flushes the session in between, the event is lost.  This needs no id, which the
events of the source do not have. -/
theorem flushed_event_lost :
    ¬ ∀ acts : List (Act ℕ DomainEvent),
      ExactlyOnce (describe none) [] (run (Audit.step (describe none)) newUnit acts) := by
  intro h
  have hlost := h [.add 0, .raise 0 cancellation, .flush, .exit]
  have hlength := hlost.length_eq
  revert hlength
  decide

end TicketGenius.Outbox
