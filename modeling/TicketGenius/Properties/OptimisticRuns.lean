import TicketGenius.Adapters.Repositories
import TicketGenius.Properties.OptimisticUpdate

/-!
# Runs of optimistic updates

`SqlAlchemyOrderRepository.update` and `SqlAlchemyPaymentRepository.update` are called by any number
of clients, in any order, on whatever instances these have.  The calls that return form a chain for
each row (`updates_chained`): each has found the version the one before it has left, so none of them
is lost and no version is written twice.  The exception is a call whose flush has just written the
version it looks for; nothing stands in its way.

The methods of the aggregates make every call one or the other.  They count the version of the
instance up before `update` looks for it in the database.  Clients that have left their session by
then change nothing, whatever the others do; clients that have not overwrite whatever the others
have done (`guard_decides_nothing`).
-/

namespace TicketGenius.OptimisticRuns

open Framework OrderLifecycle

/-! ## The mappings -/

section Mapping

variable {ρ α : Type} {key : ρ → UUID}

/-- What the mappings of orders and payments have in common. -/
structure Lawful (m : VersionedMapping ρ α key) : Prop where
  version_values : ∀ a row, m.rowVersion (m.values a row) = m.version a + 1
  version_columns : ∀ a, m.rowVersion (m.columns a) = m.version a
  patch_same : ∀ old row, m.patch old old row = row
  version_patch : ∀ old new row, m.rowVersion (m.patch old new row) =
    if m.rowVersion new = m.rowVersion old then m.rowVersion row else m.rowVersion new

/-- A repository's mapping, as one of rows with versions. -/
def mapping (m : VersionedMapping ρ α key) (h : Lawful m) : Mapping UUID ρ α key where
  target := m.id
  expected := m.version
  version := m.rowVersion
  columns := m.columns
  patch := m.patch
  change := m.values
  version_columns := h.version_columns
  key_patch := m.key_patch
  version_patch := h.version_patch
  key_change := m.key_values
  version_change := h.version_values

variable {m : VersionedMapping ρ α key} (h : Lawful m) {table : Table UUID ρ key} {held : Held ρ α}
  {row : ρ} [DecidableEq ρ]

/-- What the session knows after a flush. -/
def known (m : VersionedMapping ρ α key) (held : Held ρ α) : Option ρ :=
  held.known.map fun _ => m.columns held.current

include h

lemma run_flush_found (hrow : table.find (m.id held.current) = some row) :
    m.flush.run (table, held) = .ok ()
      (table.put ((mapping m h).flushRow held row), ⟨held.current, known m held⟩) := by
  obtain ⟨a, session⟩ := held
  have hkey : table.put row = table := by
    rw [Table.put_eq_self_iff, table.keyed _ _ hrow, hrow]
  cases session with
  | none => simp [VersionedMapping.flush, Mapping.flushRow, known, hkey]
  | some old =>
    by_cases hsame : m.columns a = old
    · simp [VersionedMapping.flush, Mapping.flushRow, mapping, known, hsame, h.patch_same, hkey]
    · have hwrite := table.modify_eq_put hrow (m.key_patch old (m.columns a)) rfl
      have hfound : table.find (m.id a) = some row := hrow
      simp [VersionedMapping.flush, Mapping.flushRow, mapping, known, hsame, hfound, hwrite]

omit h in
/-- Without a row, a flush writes nothing. -/
lemma run_flush_missing (hrow : table.find (m.id held.current) = none) :
    m.flush.run (table, held) = .ok () (table, held) ∨
      m.flush.run (table, held) = .error .staleDataError (table, held) := by
  obtain ⟨a, session⟩ := held
  cases session with
  | none => exact .inl rfl
  | some old =>
    by_cases hsame : m.columns a = old
    · exact .inl (by simp [VersionedMapping.flush, hsame])
    · have hmissing : table.find (m.id a) = none := hrow
      exact .inr (by simp [VersionedMapping.flush, hsame, hmissing])

omit h in
/-- After a flush, the method is what it is where there is nothing to flush. -/
lemma run_updateInSession_of_flush {table' : Table UUID ρ key} {held' : Held ρ α}
    (hflush : m.flush.run (table, held) = .ok () (table', held')) :
    m.updateInSession.run (table, held) =
      match m.update.run (table', held'.current) with
      | .ok _ (table'', a) => .ok () (table'', ⟨a, held'.known⟩)
      | .error e _ => .error e (table', held') := by
  rw [VersionedMapping.updateInSession, EStateM.run_bind, hflush]
  simp only [EStateM.run_bind, EStateM.run_get]
  cases m.update.run (table', held'.current) <;> rfl

omit [DecidableEq ρ] in
lemma attempt_eq_put (hrow : table.find (m.id held.current) = some row)
    (hcurrent : (mapping m h).saving.Current table held) :
    (mapping m h).saving.attempt table held =
      table.put (m.values held.current ((mapping m h).flushRow held row)) := by
  rw [Versioning.attempt_of_current hcurrent]
  exact table.modify_eq_put hrow _ rfl

/-- **A call of `update`** is an attempt to save the instance, -/
lemma run_updateInSession_of_current (hcurrent : (mapping m h).saving.Current table held) :
    m.updateInSession.run (table, held) = .ok ()
      ((mapping m h).saving.attempt table held, ⟨m.counted held.current, known m held⟩) := by
  obtain ⟨row, hrow, hversion⟩ := id hcurrent
  let prepared := (mapping m h).flushRow held row
  have hkey : key prepared = m.id held.current :=
    ((mapping m h).key_flushRow held row).trans (table.keyed _ _ hrow)
  have hfind : (table.put prepared).find (m.id held.current) = some prepared :=
    table.find_put_of_key hkey
  have hupdate := VersionedMapping.run_update_of_find (m := m) hfind hversion
  have hwritten : key prepared = key (m.values held.current prepared) :=
    (m.key_values held.current prepared).symm
  rw [run_updateInSession_of_flush (run_flush_found h hrow), hupdate,
    attempt_eq_put h hrow hcurrent, table.put_put hwritten]

/-- which raises if it is refused. -/
lemma run_updateInSession_of_not (hnot : ¬ (mapping m h).saving.Current table held) :
    ∃ e s, m.updateInSession.run (table, held) = .error e s := by
  cases hrow : table.find (m.id held.current) with
  | none =>
    rcases run_flush_missing hrow with hflush | hflush
    · have hstale : ¬ m.IsAt table (m.id held.current) (m.version held.current) := by
        rintro ⟨row, hfind, -⟩
        rw [hrow] at hfind
        cases hfind
      rw [run_updateInSession_of_flush hflush, VersionedMapping.run_update_of_not hstale]
      exact ⟨_, _, rfl⟩
    · rw [VersionedMapping.updateInSession, EStateM.run_bind, hflush]
      exact ⟨_, _, rfl⟩
  | some row =>
    have hstale : ¬ m.IsAt (table.put ((mapping m h).flushRow held row)) (m.id held.current)
        (m.version held.current) := by
      rintro ⟨row', hrow', hversion⟩
      have hkey : key ((mapping m h).flushRow held row) = m.id held.current :=
        ((mapping m h).key_flushRow held row).trans (table.keyed _ _ hrow)
      rw [table.find_put_of_key hkey, Option.some.injEq] at hrow'
      subst hrow'
      exact hnot ⟨row, hrow, hversion⟩
    rw [run_updateInSession_of_flush (run_flush_found h hrow),
      VersionedMapping.run_update_of_not hstale]
    exact ⟨_, _, rfl⟩

end Mapping

/-! ## Calls of `update` -/

section Calls

variable {ρ α : Type} {key : ρ → UUID} [DecidableEq ρ] (m : VersionedMapping ρ α key)

/-- Calls one after the other, each on an instance of whoever calls and in a transaction of its own,
which is rolled back if the call raises: the table they leave, and the instances whose call has
returned. -/
def updateAll : Table UUID ρ key → List (Held ρ α) → Table UUID ρ key × List (Held ρ α)
  | table, [] => (table, [])
  | table, held :: calls =>
    match m.updateInSession.run (table, held) with
    | .ok _ (table', _) => ((updateAll table' calls).1, held :: (updateAll table' calls).2)
    | .error .. => updateAll table calls

/-- The instances of one row whose call has returned. -/
def returned (table : Table UUID ρ key) (calls : List (Held ρ α)) (id : UUID) : List (Held ρ α) :=
  (updateAll m table calls).2.filter (m.id ·.current = id)

/-- What a call that returns writes: the flush, and then the statement. -/
def write (row : ρ) (held : Held ρ α) : ρ :=
  match held.known with
  | none => m.values held.current row
  | some old => m.values held.current (m.patch old (m.columns held.current) row)

/-- The flush writes the version. -/
def FlushesVersion (held : Held ρ α) : Prop :=
  ∃ old, held.known = some old ∧ m.rowVersion old ≠ m.version held.current

/-- The version that calls leave which have returned. -/
def versionLeft (start : ℤ) (calls : List (Held ρ α)) : ℤ :=
  calls.foldl (fun _ held => m.version held.current + 1) start

/-- **The calls that return are a chain** for each row. -/
structure Chained (table : Table UUID ρ key) (calls : List (Held ρ α)) : Prop where
  /-- The row has what all of them have written, one after the other. -/
  row : ∀ id, (updateAll m table calls).1.find id =
    (table.find id).map fun row => (returned m table calls id).foldl (write m) row
  /-- Each has found the version those before it have left, or has flushed its own. -/
  found : ∀ id row, table.find id = some row → ∀ before held after,
    returned m table calls id = before ++ held :: after → ¬ FlushesVersion m held →
      m.version held.current = versionLeft m (m.rowVersion row) before
  /-- The last has left its version. -/
  version : ∀ id row row', table.find id = some row →
    (updateAll m table calls).1.find id = some row' →
      m.rowVersion row' = versionLeft m (m.rowVersion row) (returned m table calls id)
  /-- Where no call flushes its version, they have found one version after the other, -/
  inOrder : (∀ held ∈ calls, ¬ FlushesVersion m held) → ∀ id row, table.find id = some row →
    ∀ (i : ℕ) held, (returned m table calls id)[i]? = some held →
      m.version held.current = m.rowVersion row + i
  /-- and the version of the row has counted them. -/
  counted : (∀ held ∈ calls, ¬ FlushesVersion m held) → ∀ id row row', table.find id = some row →
    (updateAll m table calls).1.find id = some row' →
      m.rowVersion row' = m.rowVersion row + (returned m table calls id).length
  missing : ∀ id, table.find id = none → returned m table calls id = []

variable {m} (h : Lawful m)

include h

lemma updateAll_eq (table : Table UUID ρ key) (calls : List (Held ρ α)) :
    updateAll m table calls = (run (mapping m h).saving.attempt table calls,
      (mapping m h).saving.accepted table calls) := by
  induction calls generalizing table with
  | nil => rfl
  | cons held calls ih =>
    rw [updateAll, run_cons, Versioning.accepted]
    by_cases hcurrent : (mapping m h).saving.Current table held
    · simp only [run_updateInSession_of_current h hcurrent, if_pos hcurrent, ih]
    · obtain ⟨e, s, hraise⟩ := run_updateInSession_of_not h hcurrent
      simp only [hraise, if_neg hcurrent, ih, Versioning.attempt_of_not hcurrent]

lemma returned_eq (table : Table UUID ρ key) (calls : List (Held ρ α)) (id : UUID) :
    returned m table calls id = (mapping m h).saving.acceptedOn table calls id := by
  rw [returned, updateAll_eq h]
  rfl

omit [DecidableEq ρ] in
lemma writes_eq (calls : List (Held ρ α)) (row : ρ) :
    (mapping m h).saving.writes calls row = calls.foldl (write m) row := by
  have hwrite : ∀ row held, (mapping m h).saving.write held row = write m row held := by
    intro row held
    obtain ⟨a, session⟩ := held
    cases session <;> rfl
  induction calls generalizing row with
  | nil => rfl
  | cons held calls ih =>
    rw [Versioning.writes, List.foldl_cons, ← Versioning.writes, ih, hwrite, List.foldl_cons]

lemma chained (table : Table UUID ρ key) (calls : List (Held ρ α)) : Chained m table calls := by
  have hrow : ∀ id, (updateAll m table calls).1.find id =
      (table.find id).map ((mapping m h).saving.writes (returned m table calls id)) := by
    intro id
    rw [updateAll_eq h, returned_eq h]
    exact Versioning.find_run table calls id
  have hlast : ∀ id row row', table.find id = some row →
      (updateAll m table calls).1.find id = some row' →
      (mapping m h).saving.writes (returned m table calls id) row = row' := by
    intro id row row' hfind hfind'
    rw [hrow, hfind] at hfind'
    exact Option.some.inj hfind'
  constructor
  · intro id
    rw [hrow]
    exact congrArg (fun f => (table.find id).map f) (funext (writes_eq h _))
  · intro id row hfind before held after hsplit hnot
    rw [returned_eq h] at hsplit
    exact Versioning.expected_of_split hfind hsplit hnot
  · intro id row row' hfind hfind'
    rw [← hlast id row row' hfind hfind']
    exact Versioning.version_writes (v := (mapping m h).saving) _ row
  · intro hplain id row hfind i held hheld
    rw [returned_eq h] at hheld
    exact Versioning.expected_acceptedOn hfind hplain hheld
  · intro hplain id row row' hfind hfind'
    rw [← hlast id row row' hfind hfind', returned_eq h]
    exact Versioning.version_of_plain (v := (mapping m h).saving) hfind hplain
  · intro id hnone
    rw [returned_eq h]
    exact Versioning.acceptedOn_of_none hnone calls

end Calls

lemma lawful_order : Lawful orderMapping where
  version_values _ _ := rfl
  version_columns _ := rfl
  patch_same := OrderRow.patch_same
  version_patch _ _ _ := rfl

lemma lawful_payment : Lawful paymentMapping where
  version_values _ _ := rfl
  version_columns _ := rfl
  patch_same := PaymentRow.patch_same
  version_patch _ _ _ := rfl

/-- **No update of an order or a payment is lost** that has returned, but to one that flushes its
own version. -/
theorem updates_chained (orders : OrderTable) (orderCalls : List (Held OrderRow Order))
    (payments : PaymentTable) (paymentCalls : List (Held PaymentRow Payment)) :
    Chained orderMapping orders orderCalls ∧ Chained paymentMapping payments paymentCalls :=
  ⟨chained lawful_order orders orderCalls, chained lawful_payment payments paymentCalls⟩

/-! ## Clients -/

/-- A repository with the instances it hands out and the methods called on them. -/
structure Repository (ρ α β : Type) (key : ρ → UUID) extends VersionedMapping ρ α key where
  /-- The instance a session builds of a row, if it can load it. -/
  get : ρ → Option α
  method : β → EStateM PyError α Unit

/-- The clients before they do anything. -/
def start {ρ α : Type} {key : ρ → UUID} (table : Table UUID ρ key) : Editing.State UUID ρ α key :=
  ⟨table, fun _ => none⟩

namespace Repository

variable {ρ α β : Type} {key : ρ → UUID} (r : Repository ρ α β key)

/-- The instance after a call, whether it has returned or raised. -/
def called (b : β) (a : α) : α :=
  match (r.method b).run a with
  | .ok _ a' => a'
  | .error _ a' => a'

variable {r} in
lemma called_of_ok {b : β} {a a' : α} (h : (r.method b).run a = .ok () a') :
    r.called b a = a' := by
  rw [called, h]

variable {r} in
lemma called_of_error {b : β} {a a' : α} {e : PyError} (h : (r.method b).run a = .error e a') :
    r.called b a = a' := by
  rw [called, h]

/-- The version of the instance has changed since the client read it, or since `update` returned
last. -/
def Changed (o : Editing.Copy ρ α) : Prop := o.base < r.version o.current

instance (o : Editing.Copy ρ α) : Decidable (r.Changed o) :=
  inferInstanceAs (Decidable (_ < _))

section Steps

variable [DecidableEq ρ]

/-- One step of a client: `get` in a new session, a method of the instance it has, a commit, the end
of the session without one, or `update`. -/
def step (s : Editing.State UUID ρ α key) : Editing.Step UUID β → Editing.State UUID ρ α key
  | .load client id => s.give client
      ((s.table.find id).bind fun row =>
        (r.get row).map fun a => ⟨⟨a, some row⟩, r.rowVersion row⟩)
  | .edit client b => s.give client
      ((s.copies client).map fun o => ⟨⟨r.called b o.current, o.known⟩, o.base⟩)
  | .commit client =>
    match s.copies client with
    | none => s
    | some o =>
      match r.flush.run (s.table, o.toHeld) with
      | .ok _ (table, held) => ⟨table, Function.update s.copies client (some ⟨held, o.base⟩)⟩
      | .error .. => s.give client (Editing.rolledBack o)
  | .close client => s.give client
      ((s.copies client).map fun o => ⟨⟨o.current, none⟩, o.base⟩)
  | .save client =>
    match s.copies client with
    | none => s
    | some o =>
      match r.updateInSession.run (s.table, o.toHeld) with
      | .ok _ (table, held) =>
        ⟨table, Function.update s.copies client (some ⟨held, r.version held.current⟩)⟩
      | .error .. => s.give client (Editing.rolledBack o)

/-- `update` is called on instances that have changed and whose session has been left, and no commit
writes a change. -/
def UpdatesLeft (s : Editing.State UUID ρ α key) : Editing.Step UUID β → Prop
  | .save client => ∀ o, s.copies client = some o → o.known = none ∧ r.Changed o
  | .commit client => ∀ o, s.copies client = some o →
      ∀ old, o.known = some old → r.columns o.current = old
  | _ => True

/-- Nothing has been written, and nothing that changes after its session will be. -/
structure Untouched (table : Table UUID ρ key) (s : Editing.State UUID ρ α key) : Prop where
  table : s.table = table
  refused : ∀ client o, s.copies client = some o → o.known = none → r.Changed o →
    r.updateInSession.run (s.table, o.toHeld) =
      .error (.domain (optimisticLockError r.entityType (r.id o.current).str)) (s.table, o.toHeld)

/-- What changes inside its session is written, whatever the row is now. -/
def Overwrites (s : Editing.State UUID ρ α key) : Prop :=
  ∀ client o old, s.copies client = some o → o.known = some old →
    r.rowVersion old ≠ r.version o.current →
    ∃ row, s.table.find (r.id o.current) = some row ∧
      r.updateInSession.run (s.table, o.toHeld) =
        .ok () (s.table.put (r.values o.current (r.patch old (r.columns o.current) row)),
          ⟨r.counted o.current, some (r.columns o.current)⟩)

/-- **The version in the statement decides nothing.**  Clients that update what they have changed
are always refused if they have left the session, and never if they have not. -/
structure GuardDecidesNothing (table : Table UUID ρ key) : Prop where
  left : ∀ steps, Guarded r.step r.UpdatesLeft (start table) steps →
    r.Untouched table (run r.step (start table) steps)
  held : ∀ steps, r.Overwrites (run r.step (start table) steps)

end Steps

/-- The methods keep the key of the instance, and never count its version down. -/
structure Counts : Prop where
  lawful : Lawful r.toVersionedMapping
  id_get : ∀ row a, r.get row = some a → r.id a = key row
  version_get : ∀ row a, r.get row = some a → r.version a = r.rowVersion row
  id_called : ∀ b a, r.id (r.called b a) = r.id a
  version_called : ∀ b a, r.version a ≤ r.version (r.called b a)
  id_counted : ∀ a, r.id (r.counted a) = r.id a
  version_counted : ∀ a, r.version (r.counted a) = r.version a + 1

variable {r}

def editing (h : r.Counts) : Editing UUID ρ α β key where
  toMapping := mapping r.toVersionedMapping h.lawful
  load := r.get
  edit := r.called
  counted := r.counted
  target_load := h.id_get
  expected_load := h.version_get
  target_edit := h.id_called
  expected_edit := h.version_called
  target_counted := h.id_counted

variable [DecidableEq ρ]

/-- A commit writes what has moved away from the row the session knows. -/
lemma commit_eq (h : r.Counts) {s : Editing.State UUID ρ α key} {client : ℕ} {o : Editing.Copy ρ α}
    (ho : s.copies client = some o) :
    r.step s (.commit client) = (editing h).commitCopy s client o := by
  have hsame : Function.update s.copies client (some o) = s.copies := by
    rw [← ho, Function.update_eq_self]
  obtain ⟨⟨a, session⟩, base⟩ := o
  rw [step, ho, Editing.commitCopy]
  cases session with
  | none =>
    have hflush : r.flush.run (s.table, (⟨a, none⟩ : Held ρ α)) = .ok () (s.table, ⟨a, none⟩) := rfl
    simp only [hflush]
    exact congrArg (Editing.State.mk s.table) hsame
  | some old =>
    dsimp only
    by_cases hcolumns : r.columns a = old
    · have hflush : r.flush.run (s.table, (⟨a, some old⟩ : Held ρ α)) =
          .ok () (s.table, ⟨a, some old⟩) := by
        simp [VersionedMapping.flush, hcolumns]
      rw [hflush, if_pos (show (editing h).columns a = old from hcolumns)]
      exact congrArg (Editing.State.mk s.table) hsame
    · rw [if_neg (show ¬ (editing h).columns a = old from hcolumns)]
      cases hrow : s.table.find (r.id a) with
      | none =>
        have hflush : r.flush.run (s.table, (⟨a, some old⟩ : Held ρ α)) =
            .error .staleDataError (s.table, ⟨a, some old⟩) := by
          simp [VersionedMapping.flush, hcolumns, hrow]
        have hmissing : s.table.find ((editing h).target a) = none := hrow
        rw [hflush, hmissing]
        rfl
      | some row =>
        have hflush : r.flush.run (s.table, (⟨a, some old⟩ : Held ρ α)) = _ :=
          run_flush_found h.lawful hrow
        have hfound : s.table.find ((editing h).target a) = some row := hrow
        rw [hflush, hfound]
        dsimp only
        rw [s.table.modify_eq_put hfound ((editing h).key_flushRow ⟨a, some old⟩) rfl]
        rfl

/-- The clients are parties that work on copies. -/
lemma step_eq (h : r.Counts) (s : Editing.State UUID ρ α key) (a : Editing.Step UUID β) :
    r.step s a = (editing h).step s a := by
  cases a with
  | load client id => rfl
  | edit client b => rfl
  | close client => rfl
  | commit client =>
    cases ho : s.copies client with
    | none => rw [step, Editing.step, ho]
    | some o =>
      rw [commit_eq h ho, Editing.step, ho]
  | save client =>
    rw [step, Editing.step]
    cases ho : s.copies client with
    | none => rfl
    | some o =>
      dsimp only
      rw [Editing.saveCopy]
      by_cases hcurrent : (editing h).saving.Current s.table o.toHeld
      · rw [run_updateInSession_of_current h.lawful hcurrent, if_pos hcurrent]
        dsimp only
        rw [h.version_counted]
        rfl
      · obtain ⟨e, left, hraise⟩ := run_updateInSession_of_not h.lawful hcurrent
        rw [hraise, if_neg hcurrent]

lemma guardDecidesNothing (h : r.Counts) (table : Table UUID ρ key) :
    r.GuardDecidesNothing table := by
  have hstep : r.step = (editing h).step := by
    funext s a
    exact step_eq h s a
  have hsaves : r.UpdatesLeft = (editing h).SavesChanged := by
    funext s a
    cases a <;> rfl
  constructor
  · intro steps hsteps
    rw [hstep, hsaves] at hsteps
    rw [hstep]
    have hunsaved := (editing h).never_saved (s := start table) (fun _ => rfl) hsteps
    refine ⟨hunsaved.table, fun client o ho hknown hchanged => ?_⟩
    have hrefused := hunsaved.refused ho hknown hchanged
    generalize run (editing h).step (start table) steps = s at ho hrefused ⊢
    obtain ⟨⟨a, session⟩, base⟩ := o
    obtain rfl : session = none := hknown
    have hflush : r.flush.run (s.table, (⟨a, none⟩ : Held ρ α)) = .ok () (s.table, ⟨a, none⟩) := rfl
    have hstale : ¬ r.IsAt s.table (r.id a) (r.version a) := fun hat => hrefused hat
    rw [run_updateInSession_of_flush hflush, VersionedMapping.run_update_of_not hstale]
  · intro steps client o old ho hold hmoved
    rw [hstep] at ho ⊢
    have hcurrent := (editing h).current_of_known (s := start table) (fun _ => rfl) steps ho
      ⟨old, hold, hmoved⟩
    obtain ⟨row, hrow, -⟩ := id hcurrent
    refine ⟨row, hrow, ?_⟩
    generalize run (editing h).step (start table) steps = s at ho hcurrent hrow ⊢
    obtain ⟨⟨a, session⟩, base⟩ := o
    obtain rfl : session = some old := hold
    rw [run_updateInSession_of_current h.lawful hcurrent, attempt_eq_put h.lawful hrow hcurrent]
    rfl

end Repository

/-! ## Orders and payments -/

/-- `SqlAlchemyOrderRepository`, with the sessions of the clients. -/
def orderRepository (session : Session) : Repository OrderRow Order Call OrderRow.orderId where
  toVersionedMapping := orderMapping
  get row := if session.Loads row then some (session.instanceOfOrder row) else none
  method := Call.method

/-- A call of a method of `Payment`. -/
inductive PaymentCall
  | authorize
  | capture (providerRef : String)
  | fail (reason : String)
  | refund (amount : Option Money)

def PaymentCall.method : PaymentCall → PaymentM Unit
  | .authorize => Payment.authorize
  | .capture providerRef => Payment.capture providerRef
  | .fail reason => Payment.fail reason
  | .refund amount => Payment.refund amount

/-- `SqlAlchemyPaymentRepository`, with the sessions of the clients. -/
def paymentRepository (session : Session) :
    Repository PaymentRow Payment PaymentCall PaymentRow.paymentId where
  toVersionedMapping := paymentMapping
  get row := some (session.instanceOfPayment row)
  method := PaymentCall.method

lemma called_order_eq (session : Session) (c : Call) (order : Order) :
    (orderRepository session).called c order = StoredOrder.after order c := by
  cases hrun : c.method.run order with
  | ok _ order' =>
    rw [Repository.called_of_ok (r := orderRepository session) hrun, StoredOrder.after, hrun,
      StoredOrder.leftBy]
  | error e order' =>
    rw [Repository.called_of_error (r := orderRepository session) hrun, StoredOrder.after, hrun,
      StoredOrder.leftBy]

/-- **An accepted call has its whole effect** on the row, also when it raises in the end because the
instance has no event list. -/
lemma after_of_accepted {c : Call} {order : Order} (hc : c.Accepted order) :
    StoredOrder.after order c = c.effect order := by
  by_cases hloaded : c.Emits ∧ order.domainEvents = none
  · obtain ⟨hemits, hevents⟩ := hloaded
    cases c with
    | fulfill tickets stamp =>
      have hstatus : order.status = .paid := hc
      simp [StoredOrder.after, StoredOrder.leftBy, Call.method, Order.fulfill,
        Order.run_requireStatus, Order.run_addDomainEvent_none, hstatus, hevents, Call.effect]
    | cancel reason stamp =>
      have hstatus : order.status = .pending ∨ order.status = .seatsReserved ∨
        order.status = .paymentInitiated := hc
      simp [StoredOrder.after, StoredOrder.leftBy, Call.method, Order.cancel,
        Order.run_requireStatus, Order.run_addDomainEvent_none, hstatus, hevents, Call.effect]
    | _ => exact hemits.elim
  · have hrun : c.method.run order = .ok () (c.effect order) := by
      by_cases hemits : c.Emits
      · have hevents : order.domainEvents ≠ none := fun hnone => hloaded ⟨hemits, hnone⟩
        exact ((c.run_cases hevents).resolve_right fun hrefused => hrefused.1 hc).2
      · exact Call.run_quiet hc hemits
    rw [StoredOrder.after, hrun, StoredOrder.leftBy]

lemma called_order (session : Session) (c : Call) (order : Order) :
    (orderRepository session).called c order = order ∨
      (orderRepository session).called c order = c.effect order := by
  rw [called_order_eq]
  by_cases hc : c.Accepted order
  · exact .inr (after_of_accepted hc)
  · obtain ⟨message, hrun⟩ := c.run_refused hc
    refine .inl ?_
    rw [StoredOrder.after, hrun, StoredOrder.leftBy]

lemma get_order {session : Session} {row : OrderRow} {order : Order}
    (h : (orderRepository session).get row = some order) :
    order = session.instanceOfOrder row := by
  by_cases hloads : session.Loads row
  · have hget : (orderRepository session).get row = some (session.instanceOfOrder row) :=
      if_pos hloads
    exact Option.some.inj (h.symm.trans hget)
  · have hget : (orderRepository session).get row = none := if_neg hloads
    rw [hget] at h
    cases h

lemma counts_order (session : Session) : (orderRepository session).Counts where
  lawful := lawful_order
  id_get _ _ h := by
    rw [get_order h]
    rfl
  version_get _ _ h := by
    rw [get_order h]
    rfl
  id_called c order := by
    rcases called_order session c order with hsame | heffect
    · rw [hsame]
    · rw [heffect]
      exact (OptimisticUpdate.effect_version c order).2
  version_called c order := by
    rcases called_order session c order with hsame | heffect
    · rw [hsame]
    · rw [heffect]
      have hversion := (OptimisticUpdate.effect_version c order).1
      show order.version ≤ (c.effect order).version
      omega
  id_counted _ := rfl
  version_counted _ := rfl

/-- A call on a payment leaves it alone, or counts its version up. -/
lemma called_payment (session : Session) (c : PaymentCall) (payment : Payment) :
    (paymentRepository session).called c payment = payment ∨
      ((paymentRepository session).called c payment).version = payment.version + 1 ∧
        ((paymentRepository session).called c payment).paymentId = payment.paymentId := by
  have hcalled : ∀ {p : Prop} [Decidable p] {left : Payment} {e : PyError},
      c.method.run payment = (if p then .ok () left else .error e payment) →
      left.version = payment.version + 1 → left.paymentId = payment.paymentId →
      (paymentRepository session).called c payment = payment ∨
        ((paymentRepository session).called c payment).version = payment.version + 1 ∧
          ((paymentRepository session).called c payment).paymentId = payment.paymentId := by
    intro p _ left e hrun hversion hid
    split at hrun
    · rw [Repository.called_of_ok (r := paymentRepository session) hrun]
      exact .inr ⟨hversion, hid⟩
    · rw [Repository.called_of_error (r := paymentRepository session) hrun]
      exact .inl rfl
  cases c with
  | authorize => exact hcalled (Payment.run_authorize payment) rfl rfl
  | capture providerRef => exact hcalled (Payment.run_capture payment providerRef) rfl rfl
  | fail reason => exact hcalled (Payment.run_fail payment reason) rfl rfl
  | refund amount => exact hcalled (Payment.run_refund payment amount) rfl rfl

lemma counts_payment (session : Session) : (paymentRepository session).Counts where
  lawful := lawful_payment
  id_get _ _ h := by
    obtain rfl := Option.some.inj h
    rfl
  version_get _ _ h := by
    obtain rfl := Option.some.inj h
    rfl
  id_called c payment := by
    rcases called_payment session c payment with hsame | ⟨-, hid⟩
    · rw [hsame]
    · exact hid
  version_called c payment := by
    rcases called_payment session c payment with hsame | ⟨hversion, -⟩
    · rw [hsame]
    · show payment.version ≤ ((paymentRepository session).called c payment).version
      omega
  id_counted _ := rfl
  version_counted _ := rfl

/-- Both read the order, leave their sessions, confirm its payment and update; one has tried to
refund it before. -/
def confirmTwice : List (Editing.Step UUID Call) :=
  [.load 0 .nil, .load 1 .nil, .close 0, .close 1, .edit 0 .confirmPayment, .edit 1 .refund,
    .edit 1 .confirmPayment, .save 0, .save 1, .save 0]

/-- Both read a payment; one authorizes it and updates, and the other declares it failed. -/
def authorizeAndFail : List (Editing.Step UUID PaymentCall) :=
  [.load 0 .nil, .load 1 .nil, .edit 0 .authorize, .edit 1 (.fail "declined"), .save 0]

end TicketGenius.OptimisticRuns
