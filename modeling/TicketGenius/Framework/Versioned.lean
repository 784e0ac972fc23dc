import TicketGenius.Framework.Run
import TicketGenius.Framework.Table
import Mathlib.Algebra.Order.Group.Int
import Mathlib.Data.List.Induction

/-!
# Rows with versions

An attempt on a row names the version it expects.  It changes the row if it finds it at that
version, and leaves it one version higher; otherwise it changes nothing.  Before it looks it writes
to the row without a condition (`prepare`), which is undone if it is refused; an attempt that writes
the version that way forces itself upon the row.  Whatever attempts are made, and in whatever order,
the row is what those accepted on it make of it one after the other (`find_run`), and each of them
that has not forced itself upon the row has found the version the one before it has left
(`expected_of_split`).

`Mapping` is where such attempts come from: a session knows a row and has a copy of it, and before
it saves the copy it writes the columns in which the copy has moved away from the row it knows.
`Editing` is about the parties that have these sessions.  Copies that count their version up are
never saved if the session has been left before (`never_saved`), and always if it has not
(`current_of_known`).
-/

namespace Framework

/-- Attempts `α` on rows `ρ`. -/
structure Versioning (κ ρ α : Type*) (key : ρ → κ) where
  target : α → κ
  expected : α → ℤ
  version : ρ → ℤ
  /-- What an attempt writes before it looks at the version. -/
  prepare : α → ρ → ρ
  change : α → ρ → ρ
  /-- The version is part of it. -/
  Forces : α → Prop
  key_prepare : ∀ a r, key (prepare a r) = key r
  key_change : ∀ a r, key (change a r) = key r
  version_of_forces : ∀ a r, Forces a → version (prepare a r) = expected a
  version_of_not_forces : ∀ a r, ¬ Forces a → version (prepare a r) = version r
  version_change : ∀ a r, version (change a r) = expected a + 1

namespace Versioning

variable {κ ρ α : Type*} {key : ρ → κ} (v : Versioning κ ρ α key)

/-- The row after an attempt that is accepted. -/
def write (a : α) (r : ρ) : ρ := v.change a (v.prepare a r)

lemma key_write (a : α) (r : ρ) : key (v.write a r) = key r := by
  rw [write, v.key_change, v.key_prepare]

/-- The row after several. -/
def writes (as : List α) (r : ρ) : ρ := as.foldl (fun r a => v.write a r) r

/-- The version that accepted attempts leave. -/
def left (start : ℤ) (as : List α) : ℤ := as.foldl (fun _ a => v.expected a + 1) start

variable [DecidableEq κ]

/-- The row is there, and once prepared it is at the version expected. -/
def Current (t : Table κ ρ key) (a : α) : Prop :=
  ∃ r, t.find (v.target a) = some r ∧ v.version (v.prepare a r) = v.expected a

instance (t : Table κ ρ key) (a : α) : Decidable (v.Current t a) :=
  decidable_of_iff
    ((t.find (v.target a)).any (fun r => decide (v.version (v.prepare a r) = v.expected a)) = true)
    (by simp [Current, Option.any_eq_true])

/-- The table after an attempt. -/
def attempt (t : Table κ ρ key) (a : α) : Table κ ρ key :=
  if v.Current t a then t.modify (v.target a) (v.write a) (v.key_write a) else t

/-- The attempts that are accepted. -/
def accepted : Table κ ρ key → List α → List α
  | _, [] => []
  | t, a :: as =>
    if v.Current t a then a :: accepted (v.attempt t a) as else accepted (v.attempt t a) as

/-- Those on one row. -/
def acceptedOn (t : Table κ ρ key) (as : List α) (k : κ) : List α :=
  (v.accepted t as).filter (v.target · = k)

/-! ## One attempt -/

section Attempt

variable {v} {t : Table κ ρ key} {a : α} {k : κ} {r : ρ}

omit [DecidableEq κ] in
/-- **What forces itself upon a row** is accepted. -/
lemma current_of_forces (h : t.find (v.target a) = some r) (hforces : v.Forces a) :
    v.Current t a :=
  ⟨r, h, v.version_of_forces a r hforces⟩

omit [DecidableEq κ] in
/-- Otherwise the row has to be at the version expected. -/
lemma version_of_current (h : t.find (v.target a) = some r) (hcurrent : v.Current t a)
    (hnot : ¬ v.Forces a) : v.version r = v.expected a := by
  obtain ⟨r', hr', hversion⟩ := hcurrent
  obtain rfl : r = r' := Option.some.inj (h.symm.trans hr')
  rw [← hversion, v.version_of_not_forces a r hnot]

lemma attempt_of_current (h : v.Current t a) :
    v.attempt t a = t.modify (v.target a) (v.write a) (v.key_write a) := if_pos h

lemma attempt_of_not (h : ¬ v.Current t a) : v.attempt t a = t := if_neg h

lemma find_attempt_of_ne (hk : v.target a ≠ k) : (v.attempt t a).find k = t.find k := by
  unfold attempt
  split
  · rw [t.find_modify, if_neg (Ne.symm hk)]
  · rfl

lemma find_attempt_of_current (h : v.Current t a) :
    (v.attempt t a).find (v.target a) = (t.find (v.target a)).map (v.write a) := by
  rw [attempt_of_current h, t.find_modify, if_pos rfl]

/-- What an attempt does to the attempts accepted on a row. -/
lemma acceptedOn_cons (t : Table κ ρ key) (a : α) (as : List α) (k : κ) :
    v.acceptedOn t (a :: as) k = if v.Current t a ∧ v.target a = k
      then a :: v.acceptedOn (v.attempt t a) as k else v.acceptedOn (v.attempt t a) as k := by
  rw [acceptedOn, accepted]
  by_cases hcurrent : v.Current t a
  · by_cases htarget : v.target a = k
    · simp [hcurrent, htarget, acceptedOn]
    · simp [hcurrent, htarget, acceptedOn]
  · simp [hcurrent, acceptedOn]

/-- An attempt that is not accepted on a row leaves it alone. -/
lemma find_attempt_of_not (h : ¬ (v.Current t a ∧ v.target a = k)) :
    (v.attempt t a).find k = t.find k := by
  by_cases htarget : v.target a = k
  · rw [attempt_of_not fun hcurrent => h ⟨hcurrent, htarget⟩]
  · exact find_attempt_of_ne htarget

end Attempt

/-! ## Any number of attempts -/

section Attempts

variable {v} {k : κ} {t : Table κ ρ key} {r : ρ}

/-- **The row is made by the attempts accepted on it**, one after the other. -/
theorem find_run (t : Table κ ρ key) (as : List α) (k : κ) :
    (run v.attempt t as).find k = (t.find k).map (v.writes (v.acceptedOn t as k)) := by
  induction as generalizing t with
  | nil =>
    rw [run_nil]
    cases t.find k <;> rfl
  | cons a as ih =>
    rw [run_cons, ih, acceptedOn_cons]
    by_cases haccepted : v.Current t a ∧ v.target a = k
    · obtain ⟨hcurrent, rfl⟩ := haccepted
      rw [find_attempt_of_current hcurrent, if_pos ⟨hcurrent, rfl⟩, Option.map_map]
      rfl
    · rw [find_attempt_of_not haccepted, if_neg haccepted]

/-- Where there is no row, nothing is accepted. -/
theorem acceptedOn_of_none (h : t.find k = none) (as : List α) : v.acceptedOn t as k = [] := by
  induction as generalizing t with
  | nil => rfl
  | cons a as ih =>
    have hnot : ¬ (v.Current t a ∧ v.target a = k) := by
      rintro ⟨hcurrent, rfl⟩
      obtain ⟨r, hr, -⟩ := hcurrent
      rw [h] at hr
      cases hr
    rw [acceptedOn_cons, if_neg hnot]
    exact ih (by rw [find_attempt_of_not hnot, h])

/-- **Who is accepted.**  An accepted attempt on a row has forced itself upon it, or has found the
version the accepted ones before it have left. -/
theorem expected_of_split (h : t.find k = some r) {as before after : List α} {a : α}
    (hsplit : v.acceptedOn t as k = before ++ a :: after) (hnot : ¬ v.Forces a) :
    v.expected a = v.left (v.version r) before := by
  induction as generalizing t r before with
  | nil => exact absurd hsplit.symm (by simp [acceptedOn, accepted])
  | cons b as ih =>
    rw [acceptedOn_cons] at hsplit
    by_cases haccepted : v.Current t b ∧ v.target b = k
    · obtain ⟨hcurrent, rfl⟩ := haccepted
      have hnext : (v.attempt t b).find (v.target b) = some (v.write b r) := by
        rw [find_attempt_of_current hcurrent, h, Option.map_some]
      rw [if_pos ⟨hcurrent, rfl⟩] at hsplit
      cases before with
      | nil =>
        obtain ⟨rfl, -⟩ := List.cons.inj hsplit
        exact (version_of_current h hcurrent hnot).symm
      | cons c before =>
        obtain ⟨rfl, hrest⟩ := List.cons.inj hsplit
        rw [ih hnext hrest, write, v.version_change]
        rfl
    · rw [if_neg haccepted] at hsplit
      exact ih ((find_attempt_of_not haccepted).trans h) hsplit

omit [DecidableEq κ] in
/-- **The version of a row** is what the attempts that have written it have left. -/
theorem version_writes (as : List α) (r : ρ) :
    v.version (v.writes as r) = v.left (v.version r) as := by
  induction as generalizing r with
  | nil => rfl
  | cons a as ih =>
    rw [writes, List.foldl_cons, ← writes, ih, write, v.version_change]
    rfl

end Attempts

/-! ## Attempts that force nothing -/

section Plain

variable {v} {k : κ} {t : Table κ ρ key} {r : ρ} {as : List α}

omit [DecidableEq κ] in
/-- Attempts that expect one version after the other leave as many. -/
lemma left_eq_add {start : ℤ} {as : List α}
    (h : ∀ before a after, as = before ++ a :: after → v.expected a = v.left start before) :
    v.left start as = start + as.length := by
  induction as using List.reverseRecOn with
  | nil => simp [left]
  | append_singleton as a ih =>
    have hbefore : v.left start as = start + as.length := by
      refine ih fun before b after hsplit => h before b (after ++ [a]) ?_
      rw [hsplit, List.append_assoc, List.cons_append]
    have hlast := h as a [] rfl
    rw [left, List.foldl_append, List.foldl_cons, List.foldl_nil, hlast, hbefore,
      List.length_append, List.length_singleton]
    push_cast
    omega

lemma mem_of_mem_acceptedOn {a : α} (ha : a ∈ v.acceptedOn t as k) : a ∈ as := by
  have hmem : a ∈ v.accepted t as := (List.mem_filter.mp ha).1
  clear ha
  induction as generalizing t with
  | nil => cases hmem
  | cons b as ih =>
    rw [accepted] at hmem
    split at hmem
    · rcases List.mem_cons.mp hmem with rfl | hlater
      · exact List.mem_cons_self
      · exact List.mem_cons_of_mem b (ih hlater)
    · exact List.mem_cons_of_mem b (ih hmem)

/-- They are accepted one version after the other. -/
lemma expected_of_plain (h : t.find k = some r) (hplain : ∀ a ∈ as, ¬ v.Forces a) :
    ∀ before a after, v.acceptedOn t as k = before ++ a :: after →
      v.expected a = v.left (v.version r) before := by
  intro before a after hsplit
  have ha : a ∈ v.acceptedOn t as k := by simp [hsplit]
  exact expected_of_split h hsplit (hplain a (mem_of_mem_acceptedOn ha))

/-- **A chain**: the attempts accepted on a row expect its version, the next one, and so on. -/
theorem expected_acceptedOn (h : t.find k = some r) (hplain : ∀ a ∈ as, ¬ v.Forces a) {i : ℕ}
    {a : α} (ha : (v.acceptedOn t as k)[i]? = some a) : v.expected a = v.version r + i := by
  have hchain := expected_of_plain h hplain
  obtain ⟨hi, rfl⟩ := List.getElem?_eq_some_iff.mp ha
  have hsplit : v.acceptedOn t as k = (v.acceptedOn t as k).take i ++
      (v.acceptedOn t as k)[i] :: (v.acceptedOn t as k).drop (i + 1) := by
    rw [← List.drop_eq_getElem_cons hi, List.take_append_drop]
  rw [hchain _ _ _ hsplit, left_eq_add]
  · rw [List.length_take_of_le hi.le]
  · intro before b after hbefore
    refine hchain before b (after ++ (v.acceptedOn t as k).drop i) ?_
    rw [← List.cons_append, ← List.append_assoc, ← hbefore, List.take_append_drop]

/-- **The version of a row counts** the attempts accepted on it. -/
theorem version_of_plain (h : t.find k = some r) (hplain : ∀ a ∈ as, ¬ v.Forces a) :
    v.version (v.writes (v.acceptedOn t as k) r) =
      v.version r + (v.acceptedOn t as k).length := by
  rw [version_writes, left_eq_add (expected_of_plain h hplain)]

end Plain

end Versioning

/-! ## Copies -/

/-- Copies `α` of rows `ρ`. -/
structure Mapping (κ ρ α : Type*) (key : ρ → κ) where
  target : α → κ
  expected : α → ℤ
  version : ρ → ℤ
  /-- The row that a copy stands for. -/
  columns : α → ρ
  /-- `patch old new r` is `r` with the columns of `new` in which it differs from `old`. -/
  patch : ρ → ρ → ρ → ρ
  change : α → ρ → ρ
  version_columns : ∀ a, version (columns a) = expected a
  key_patch : ∀ old new r, key (patch old new r) = key r
  version_patch : ∀ old new r,
    version (patch old new r) = if version new = version old then version r else version new
  key_change : ∀ a r, key (change a r) = key r
  version_change : ∀ a r, version (change a r) = expected a + 1

/-- A copy, and the row the session knows: the one it was loaded from, or what it has written last.
A session that has been left knows none. -/
structure Held (ρ α : Type*) where
  current : α
  known : Option ρ

namespace Mapping

variable {κ ρ α : Type*} {key : ρ → κ} (m : Mapping κ ρ α key)

/-- The columns that have moved away are written, whatever the row is now. -/
def flushRow (o : Held ρ α) (r : ρ) : ρ :=
  match o.known with
  | none => r
  | some old => m.patch old (m.columns o.current) r

/-- The version has moved away. -/
def Moved (o : Held ρ α) : Prop := ∃ old, o.known = some old ∧ m.version old ≠ m.expected o.current

lemma key_flushRow (o : Held ρ α) (r : ρ) : key (m.flushRow o r) = key r := by
  unfold flushRow
  split
  · rfl
  · exact m.key_patch ..

/-- **To save a copy** is an attempt that flushes first. -/
def saving : Versioning κ ρ (Held ρ α) key where
  target o := m.target o.current
  expected o := m.expected o.current
  version := m.version
  prepare := m.flushRow
  change o := m.change o.current
  Forces := m.Moved
  key_prepare := m.key_flushRow
  key_change o := m.key_change o.current
  version_of_forces := by
    rintro o r ⟨old, hold, hmoved⟩
    rw [flushRow, hold]
    rw [← m.version_columns] at hmoved ⊢
    rw [m.version_patch, if_neg (Ne.symm hmoved)]
  version_of_not_forces := by
    intro o r hnot
    unfold flushRow
    split
    · rfl
    · next old hold =>
      have hsame : m.version old = m.expected o.current := by
        by_contra hmoved
        exact hnot ⟨old, hold, hmoved⟩
      rw [m.version_patch, m.version_columns, if_pos hsame.symm]
  version_change o := m.version_change o.current

end Mapping

/-! ## Parties -/

/-- Parties load copies, change them by `β`, and save them. -/
structure Editing (κ ρ α β : Type*) (key : ρ → κ) extends Mapping κ ρ α key where
  /-- Not every row can be loaded. -/
  load : ρ → Option α
  edit : β → α → α
  /-- A copy that has been saved. -/
  counted : α → α
  target_load : ∀ r a, load r = some a → target a = key r
  expected_load : ∀ r a, load r = some a → expected a = version r
  target_edit : ∀ b a, target (edit b a) = target a
  expected_edit : ∀ b a, expected a ≤ expected (edit b a)
  target_counted : ∀ a, target (counted a) = target a

namespace Editing

variable {κ ρ α β : Type*} {key : ρ → κ} [DecidableEq κ] [DecidableEq ρ]

/-- What a party does, each in a transaction of its own.  It loads in a new session; a commit
flushes; to close the session is to leave it without a commit. -/
inductive Step (κ β : Type*)
  | load (party : ℕ) (k : κ)
  | edit (party : ℕ) (b : β)
  | commit (party : ℕ)
  | close (party : ℕ)
  | save (party : ℕ)

/-- What a party has: a copy, with the version at which it was loaded or saved. -/
structure Copy (ρ α : Type*) extends Held ρ α where
  base : ℤ

/-- The table, and the copies of the parties. -/
structure State (κ ρ α : Type*) (key : ρ → κ) where
  table : Table κ ρ key
  copies : ℕ → Option (Copy ρ α)

/-- A party gets a copy, or loses it. -/
def State.give (s : State κ ρ α key) (party : ℕ) (copy : Option (Copy ρ α)) : State κ ρ α key :=
  ⟨s.table, Function.update s.copies party copy⟩

variable (w : Editing κ ρ α β key)

/-- The copy was changed since, in a way that counts. -/
def Changed (c : Copy ρ α) : Prop := c.base < w.expected c.current

/-- What a rollback leaves of a copy: nothing, if the session has it. -/
def rolledBack (c : Copy ρ α) : Option (Copy ρ α) :=
  match c.known with
  | none => some c
  | some _ => none

/-- A commit. -/
def commitCopy (s : State κ ρ α key) (party : ℕ) (c : Copy ρ α) : State κ ρ α key :=
  match c.known with
  | none => s
  | some old =>
    if w.columns c.current = old then s
    else match s.table.find (w.target c.current) with
      | none => s.give party none
      | some _ =>
        ⟨s.table.modify (w.target c.current) (w.flushRow c.toHeld) (w.key_flushRow c.toHeld),
          Function.update s.copies party
            (some ⟨⟨c.current, some (w.columns c.current)⟩, c.base⟩)⟩

/-- An attempt to save a copy. -/
def saveCopy (s : State κ ρ α key) (party : ℕ) (c : Copy ρ α) : State κ ρ α key :=
  if w.saving.Current s.table c.toHeld then
    ⟨w.saving.attempt s.table c.toHeld, Function.update s.copies party (some
      ⟨⟨w.counted c.current, c.known.map fun _ => w.columns c.current⟩, w.expected c.current + 1⟩)⟩
  else s.give party (rolledBack c)

/-- One step. -/
def step (s : State κ ρ α key) : Step κ β → State κ ρ α key
  | .load party k => s.give party
      ((s.table.find k).bind fun r => (w.load r).map fun a => ⟨⟨a, some r⟩, w.version r⟩)
  | .edit party b => s.give party
      ((s.copies party).map fun c => ⟨⟨w.edit b c.current, c.known⟩, c.base⟩)
  | .commit party =>
    match s.copies party with
    | none => s
    | some c => w.commitCopy s party c
  | .close party => s.give party
      ((s.copies party).map fun c => ⟨⟨c.current, none⟩, c.base⟩)
  | .save party =>
    match s.copies party with
    | none => s
    | some c => w.saveCopy s party c

/-! ### Inside a session -/

/-- Every copy has its row. -/
def Present (s : State κ ρ α key) : Prop :=
  ∀ party c, s.copies party = some c → ∃ r, s.table.find (w.target c.current) = some r

namespace Present

variable {w} {s : State κ ρ α key}

omit [DecidableEq κ] [DecidableEq ρ] in
/-- A copy with a row is handed out, and no row disappears. -/
lemma update (h : w.Present s) {t : Table κ ρ key}
    (ht : ∀ k r, s.table.find k = some r → ∃ r', t.find k = some r') (party : ℕ)
    (copy : Option (Copy ρ α))
    (hcopy : ∀ c, copy = some c → ∃ r, s.table.find (w.target c.current) = some r) :
    w.Present ⟨t, Function.update s.copies party copy⟩ := by
  intro party' c hc
  have hrow : ∃ r, s.table.find (w.target c.current) = some r := by
    by_cases hparty : party' = party
    · subst hparty
      simp only [Function.update_self] at hc
      exact hcopy c hc
    · simp only [Function.update_of_ne hparty] at hc
      exact h party' c hc
  obtain ⟨r, hr⟩ := hrow
  exact ht _ r hr

omit [DecidableEq κ] [DecidableEq ρ] in
/-- The case in which the table stays as it is. -/
lemma give (h : w.Present s) (party : ℕ) {copy : Option (Copy ρ α)}
    (hcopy : ∀ c, copy = some c → ∃ r, s.table.find (w.target c.current) = some r) :
    w.Present (s.give party copy) :=
  h.update (fun _ r hr => ⟨r, hr⟩) party copy hcopy

omit [DecidableEq ρ] in
lemma find_modify {t : Table κ ρ key} {k : κ} {f : ρ → ρ} (hf : ∀ r, key (f r) = key r) :
    ∀ k' r, t.find k' = some r → ∃ r', (t.modify k f hf).find k' = some r' := by
  intro k' r hr
  rw [t.find_modify]
  split
  · next hk =>
    rw [← hk, hr]
    exact ⟨f r, rfl⟩
  · exact ⟨r, hr⟩

lemma commit (h : w.Present s) {party : ℕ} {c : Copy ρ α} (hc : s.copies party = some c) :
    w.Present (w.commitCopy s party c) := by
  unfold commitCopy
  split
  · exact h
  · split
    · exact h
    · split
      · exact h.give party nofun
      · refine h.update (find_modify _) party _ fun c' hc' => ?_
        obtain rfl := Option.some.inj hc'
        exact h party c hc

omit [DecidableEq ρ] in
lemma save (h : w.Present s) {party : ℕ} {c : Copy ρ α} (hc : s.copies party = some c) :
    w.Present (w.saveCopy s party c) := by
  unfold saveCopy
  split
  · next hcurrent =>
    rw [Versioning.attempt_of_current hcurrent]
    refine h.update (find_modify _) party _ fun c' hc' => ?_
    obtain rfl := Option.some.inj hc'
    rw [w.target_counted]
    exact h party c hc
  · refine h.give party fun c' hc' => ?_
    unfold rolledBack at hc'
    split at hc'
    · obtain rfl := Option.some.inj hc'
      exact h party c hc
    · cases hc'

/-- **One step.** -/
lemma step (h : w.Present s) (a : Step κ β) : w.Present (w.step s a) := by
  cases a with
  | load party k =>
    refine h.give party fun c hc => ?_
    obtain ⟨r, hr, hc⟩ := Option.bind_eq_some_iff.mp hc
    obtain ⟨a, ha, rfl⟩ := Option.map_eq_some_iff.mp hc
    refine ⟨r, ?_⟩
    rw [w.target_load r a ha, s.table.keyed k r hr]
    exact hr
  | edit party b =>
    refine h.give party fun c hc => ?_
    obtain ⟨c', hc', rfl⟩ := Option.map_eq_some_iff.mp hc
    rw [w.target_edit]
    exact h party c' hc'
  | close party =>
    refine h.give party fun c hc => ?_
    obtain ⟨c', hc', rfl⟩ := Option.map_eq_some_iff.mp hc
    exact h party c' hc'
  | commit party =>
    cases hcopy : s.copies party with
    | none =>
      rw [Editing.step, hcopy]
      exact h
    | some c =>
      rw [Editing.step, hcopy]
      exact h.commit hcopy
  | save party =>
    cases hcopy : s.copies party with
    | none =>
      rw [Editing.step, hcopy]
      exact h
    | some c =>
      rw [Editing.step, hcopy]
      exact h.save hcopy

end Present

/-- **A copy whose session has not been left is always saved**, if its version has moved: whatever
the row has become, the flush has put it at the version the attempt expects. -/
theorem current_of_known {s : State κ ρ α key} (hcopies : ∀ party, s.copies party = none)
    (as : List (Step κ β)) {party : ℕ} {c : Copy ρ α}
    (hc : (run w.step s as).copies party = some c) (hmoved : w.Moved c.toHeld) :
    w.saving.Current (run w.step s as).table c.toHeld := by
  have hstart : w.Present s := by
    intro party c hc
    rw [hcopies] at hc
    cases hc
  have hpresent : w.Present (run w.step s as) :=
    run_invariant (I := w.Present) (fun _ a h => h.step a) hstart as
  obtain ⟨r, hr⟩ := hpresent party c hc
  exact Versioning.current_of_forces (v := w.saving) hr hmoved

/-! ### After the session -/

/-- What is saved has been changed, and its session left; and commits have nothing to write. -/
def SavesChanged (s : State κ ρ α key) : Step κ β → Prop
  | .save party => ∀ c, s.copies party = some c → c.known = none ∧ w.Changed c
  | .commit party => ∀ c, s.copies party = some c →
      ∀ old, c.known = some old → w.columns c.current = old
  | _ => True

/-- The table is still the first one, and no copy is behind it. -/
structure Unsaved (t : Table κ ρ key) (s : State κ ρ α key) : Prop where
  table : s.table = t
  copies : ∀ party c, s.copies party = some c →
    ∃ r, t.find (w.target c.current) = some r ∧ w.version r = c.base ∧
      c.base ≤ w.expected c.current

namespace Unsaved

variable {w} {t : Table κ ρ key} {s : State κ ρ α key}

omit [DecidableEq κ] [DecidableEq ρ] in
/-- A copy that has been changed, and whose session was left, is refused. -/
lemma refused (h : w.Unsaved t s) {party : ℕ} {c : Copy ρ α} (hc : s.copies party = some c)
    (hknown : c.known = none) (hchanged : w.Changed c) :
    ¬ w.saving.Current s.table c.toHeld := by
  rw [h.table]
  intro hcurrent
  obtain ⟨r, hr, hbase, -⟩ := h.copies party c hc
  have hplain : ¬ w.saving.Forces c.toHeld := by
    rintro ⟨old, hold, -⟩
    rw [hknown] at hold
    cases hold
  have hversion : w.version r = w.expected c.current :=
    Versioning.version_of_current (v := w.saving) hr hcurrent hplain
  have hlt : c.base < w.expected c.current := hchanged
  omega

omit [DecidableEq κ] [DecidableEq ρ] in
/-- A party gets a copy that is as it should be. -/
lemma give (h : w.Unsaved t s) (party : ℕ) {copy : Option (Copy ρ α)}
    (hcopy : ∀ c, copy = some c → ∃ r, t.find (w.target c.current) = some r ∧
      w.version r = c.base ∧ c.base ≤ w.expected c.current) :
    w.Unsaved t (s.give party copy) := by
  refine ⟨h.table, fun party' c hc => ?_⟩
  rw [State.give] at hc
  by_cases hparty : party' = party
  · subst hparty
    simp only [Function.update_self] at hc
    exact hcopy c hc
  · simp only [Function.update_of_ne hparty] at hc
    exact h.copies party' c hc

/-- **One step** of parties that save only what they have changed, after they have left the
session. -/
lemma step (h : w.Unsaved t s) {a : Step κ β} (hsaves : w.SavesChanged s a) :
    w.Unsaved t (w.step s a) := by
  cases a with
  | load party k =>
    refine h.give party fun c hc => ?_
    obtain ⟨r, hr, hc⟩ := Option.bind_eq_some_iff.mp hc
    obtain ⟨a, ha, rfl⟩ := Option.map_eq_some_iff.mp hc
    refine ⟨r, ?_, rfl, (w.expected_load r a ha).ge⟩
    rw [w.target_load r a ha, s.table.keyed k r hr, ← h.table, hr]
  | edit party b =>
    refine h.give party fun c hc => ?_
    obtain ⟨c', hc', rfl⟩ := Option.map_eq_some_iff.mp hc
    obtain ⟨r, hr, hbase, hle⟩ := h.copies party c' hc'
    refine ⟨r, ?_, hbase, hle.trans (w.expected_edit b c'.current)⟩
    rw [w.target_edit, hr]
  | close party =>
    refine h.give party fun c hc => ?_
    obtain ⟨c', hc', rfl⟩ := Option.map_eq_some_iff.mp hc
    exact h.copies party c' hc'
  | commit party =>
    cases hcopy : s.copies party with
    | none =>
      rw [Editing.step, hcopy]
      exact h
    | some c =>
      rw [Editing.step, hcopy]
      dsimp only
      unfold commitCopy
      split
      · exact h
      · next old hold =>
        rw [if_pos (hsaves c hcopy old hold)]
        exact h
  | save party =>
    cases hcopy : s.copies party with
    | none =>
      rw [Editing.step, hcopy]
      exact h
    | some c =>
      obtain ⟨hknown, hchanged⟩ := hsaves c hcopy
      have hkept : rolledBack c = some c := by
        rw [rolledBack, hknown]
      rw [Editing.step, hcopy]
      dsimp only
      rw [saveCopy, if_neg (h.refused hcopy hknown hchanged), hkept]
      refine h.give party fun c' hc' => ?_
      obtain rfl := Option.some.inj hc'
      exact h.copies party c hcopy

end Unsaved

/-- **Nothing is ever saved** by parties that save what they have changed, after they have left the
session: the table stays what it was, and every attempt is refused. -/
theorem never_saved {s : State κ ρ α key} (hcopies : ∀ party, s.copies party = none)
    {as : List (Step κ β)} (has : Guarded w.step w.SavesChanged s as) :
    w.Unsaved s.table (run w.step s as) := by
  have hstart : w.Unsaved s.table s := by
    refine ⟨rfl, fun party c hc => ?_⟩
    rw [hcopies] at hc
    cases hc
  exact has.invariant (fun _ _ h hsaves => h.step hsaves) hstart

end Editing

end Framework
