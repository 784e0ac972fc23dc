import Mathlib.Data.Int.Notation
import Mathlib.Data.List.Basic
import TicketGenius.Framework.Table

/-!
# Journals of a table

A writing says what a write makes of the row under its key, whether there is one or not.  Replaying
a journal of writes is a fold over the table, and it decomposes by keys: the row under a key depends
on the writes to that key only, and is their fold over the row that was there (`find_replay`).

What a fold of writes leaves in a row is then read off three kinds of fields: those every write sets
(`rowAfter_getLast`), those a write keeps (`rowAfter_kept`), and counters (`rowAfter_count`).
-/

namespace Framework

/-- Writes `ω` to the rows `ρ` of a table with the key `key`. -/
structure Writing (ω : Type*) {κ ρ : Type*} (key : ρ → κ) where
  /-- The key of the row a write is for. -/
  target : ω → κ
  /-- The row a write leaves, given the row that was there. -/
  apply : ω → Option ρ → ρ
  key_apply : ∀ w row, (∀ r, row = some r → key r = target w) → key (apply w row) = target w

namespace Writing

variable {ω κ ρ : Type*} {key : ρ → κ} (W : Writing ω key)

/-- The row under a key after writes to that key. -/
def rowAfter (journal : List ω) (row : Option ρ) : Option ρ :=
  journal.foldl (fun row w => some (W.apply w row)) row

@[simp] lemma rowAfter_nil (row : Option ρ) : W.rowAfter [] row = row := rfl

@[simp] lemma rowAfter_cons (w : ω) (journal : List ω) (row : Option ρ) :
    W.rowAfter (w :: journal) row = W.rowAfter journal (some (W.apply w row)) := rfl

variable {W} {journal : List ω} {row : Option ρ}

/-- What every write establishes holds after the last one. -/
lemma rowAfter_getLast {P : ω → ρ → Prop} (hP : ∀ w row, P w (W.apply w row)) {last : ω}
    (hlast : journal.getLast? = some last) : ∃ r, W.rowAfter journal row = some r ∧ P last r := by
  induction journal generalizing row with
  | nil => simp at hlast
  | cons w rest ih =>
    rw [rowAfter_cons]
    cases rest with
    | nil =>
      have hw : w = last := by simpa using hlast
      exact ⟨W.apply w row, rfl, hw ▸ hP w row⟩
    | cons w' rest =>
      rw [List.getLast?_cons_cons] at hlast
      exact ih hlast

/-- What a write does to a row that is there leaves some fields alone. -/
lemma rowAfter_kept {α : Type*} {f : ρ → α} (hf : ∀ w r, f (W.apply w (some r)) = f r) {r r' : ρ}
    (hr' : W.rowAfter journal (some r) = some r') : f r' = f r := by
  induction journal generalizing r with
  | nil =>
    cases hr'
    rfl
  | cons w rest ih =>
    rw [rowAfter_cons] at hr'
    rw [ih hr', hf]

/-- A field that writes count up has counted them. -/
lemma rowAfter_count {f : ρ → ℤ} (hf : ∀ w r, f (W.apply w (some r)) = f r + 1) {r r' : ρ}
    (hr' : W.rowAfter journal (some r) = some r') : f r' = f r + journal.length := by
  induction journal generalizing r with
  | nil =>
    cases hr'
    simp
  | cons w rest ih =>
    rw [rowAfter_cons] at hr'
    have hrest := ih hr'
    rw [hf] at hrest
    rw [hrest, List.length_cons]
    omega

/-! ## Tables -/

variable (W) [DecidableEq κ] (t : Table κ ρ key)

omit [DecidableEq κ] in
lemma key_apply_find (w : ω) : key (W.apply w (t.find (W.target w))) = W.target w :=
  W.key_apply w _ fun _ hr => t.keyed _ _ hr

/-- The table after one write. -/
def write (w : ω) : Table κ ρ key := t.put (W.apply w (t.find (W.target w)))

lemma find_write_self (w : ω) :
    (W.write t w).find (W.target w) = some (W.apply w (t.find (W.target w))) :=
  t.find_put_of_key (W.key_apply_find t w)

lemma find_write_of_ne {w : ω} {k : κ} (h : k ≠ W.target w) : (W.write t w).find k = t.find k :=
  t.find_put_of_ne (by rwa [W.key_apply_find])

/-- The table after a journal. -/
def replay (journal : List ω) : Table κ ρ key := journal.foldl W.write t

@[simp] lemma replay_nil : W.replay t [] = t := rfl

@[simp] lemma replay_cons (w : ω) (journal : List ω) :
    W.replay t (w :: journal) = W.replay (W.write t w) journal := rfl

lemma replay_append (first second : List ω) :
    W.replay t (first ++ second) = W.replay (W.replay t first) second :=
  List.foldl_append

/-- **A journal decomposes by keys.** -/
theorem find_replay (journal : List ω) (k : κ) :
    (W.replay t journal).find k =
      W.rowAfter (journal.filter fun w => W.target w = k) (t.find k) := by
  induction journal generalizing t with
  | nil => rfl
  | cons w rest ih =>
    rw [replay_cons, ih]
    by_cases hk : W.target w = k
    · subst hk
      rw [List.filter_cons_of_pos (by simp), rowAfter_cons, find_write_self]
    · rw [List.filter_cons_of_neg (by simpa using hk), W.find_write_of_ne t (Ne.symm hk)]

end Writing

end Framework
