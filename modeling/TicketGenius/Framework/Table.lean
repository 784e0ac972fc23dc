import Mathlib.Data.List.Nodup
import Mathlib.Logic.Function.Basic
import Mathlib.Tactic.Common

/-!
# Keyed tables

A table with a key is a partial map in which every row lies under its own key, and the map carries
that fact.  Rows enter by `put`, which files a row under the key it has, and change by `modify`
with an update that keeps the key.

`Lists` relates a table to a list of its rows: appending a row with a new key and replacing the row
with an old one are both `put`.
-/

namespace Framework

/-- Rows `ρ`, each under its `key`. -/
@[ext]
structure Table (κ ρ : Type*) (key : ρ → κ) where
  find : κ → Option ρ
  keyed : ∀ k r, find k = some r → key r = k

namespace Table

variable {κ ρ : Type*} {key : ρ → κ} [DecidableEq κ]

/-- The table without rows. -/
def empty : Table κ ρ key := ⟨fun _ => none, fun _ _ h => nomatch h⟩

/-- Inserts a row, or replaces the row with its key. -/
def put (t : Table κ ρ key) (r : ρ) : Table κ ρ key where
  find := Function.update t.find (key r) (some r)
  keyed := by
    intro k r' hr'
    rcases eq_or_ne k (key r) with rfl | hk
    · rw [Function.update_self, Option.some.injEq] at hr'
      rw [hr']
    · rw [Function.update_of_ne hk] at hr'
      exact t.keyed k r' hr'

/-- Updates the row under `k`, if there is one. -/
def modify (t : Table κ ρ key) (k : κ) (f : ρ → ρ) (hf : ∀ r, key (f r) = key r) :
    Table κ ρ key where
  find := Function.update t.find k ((t.find k).map f)
  keyed := by
    intro k' r' hr'
    rcases eq_or_ne k' k with rfl | hk
    · rw [Function.update_self, Option.map_eq_some_iff] at hr'
      obtain ⟨r, hr, rfl⟩ := hr'
      rw [hf, t.keyed _ _ hr]
    · rw [Function.update_of_ne hk] at hr'
      exact t.keyed k' r' hr'

variable (t : Table κ ρ key)

@[simp] lemma find_put_self (r : ρ) : (t.put r).find (key r) = some r :=
  Function.update_self ..

/-- The form of `find_put_self` for a row whose key is known. -/
lemma find_put_of_key {r : ρ} {k : κ} (h : key r = k) : (t.put r).find k = some r := by
  rw [← h, find_put_self]

lemma find_put_of_ne {r : ρ} {k : κ} (h : k ≠ key r) : (t.put r).find k = t.find k :=
  Function.update_of_ne h ..

/-- Putting a row that is there changes nothing, and nothing else does. -/
lemma put_eq_self_iff {r : ρ} : t.put r = t ↔ t.find (key r) = some r := by
  constructor
  · intro h
    rw [← h, find_put_self]
  · intro h
    ext1
    funext k
    by_cases hk : k = key r
    · rw [hk, find_put_self, h]
    · rw [find_put_of_ne t hk]

/-- The last row put under a key stays. -/
lemma put_put {r r' : ρ} (h : key r = key r') : (t.put r).put r' = t.put r' := by
  ext1
  change Function.update (Function.update t.find (key r) (some r)) (key r') (some r') =
    Function.update t.find (key r') (some r')
  rw [h, Function.update_idem]

/-- An update finds a row or does nothing. -/
lemma find_modify (k k' : κ) (f : ρ → ρ) (hf : ∀ r, key (f r) = key r) :
    (t.modify k f hf).find k' = if k' = k then (t.find k).map f else t.find k' :=
  Function.update_apply ..

/-- Updating a row that is there is putting the updated row. -/
lemma modify_eq_put {k : κ} {r r' : ρ} (h : t.find k = some r) {f : ρ → ρ}
    (hf : ∀ r, key (f r) = key r) (hr' : f r = r') : t.modify k f hf = t.put r' := by
  have hk : key r' = k := by rw [← hr', hf, t.keyed k r h]
  ext1
  change Function.update t.find k ((t.find k).map f) = Function.update t.find (key r') (some r')
  rw [h, hk, Option.map_some, hr']

/-- `UPDATE … WHERE` on the row under `k`, with the number of rows it has changed. -/
def updateWhere (t : Table κ ρ key) (k : κ) (p : ρ → Bool) (f : ρ → ρ)
    (hf : ∀ r, key (f r) = key r) : Table κ ρ key × ℕ :=
  if (t.find k).any p then (t.modify k f hf, 1) else (t, 0)

section UpdateWhere

variable {k : κ} {p : ρ → Bool} {f : ρ → ρ} (hf : ∀ r, key (f r) = key r)

lemma updateWhere_of_pos {r : ρ} (hfind : t.find k = some r) (hp : p r = true) :
    t.updateWhere k p f hf = (t.put (f r), 1) := by
  have hany : (t.find k).any p = true := by rw [hfind, Option.any_some, hp]
  rw [updateWhere, if_pos hany, t.modify_eq_put hfind hf rfl]

lemma updateWhere_of_neg (hp : ∀ r, t.find k = some r → p r = false) :
    t.updateWhere k p f hf = (t, 0) := by
  have hany : (t.find k).any p = false := by
    rcases hfind : t.find k with _ | r
    · rfl
    · rw [Option.any_some, hp r hfind]
  rw [updateWhere, hany]
  rfl

end UpdateWhere

/-! ## Lists of rows -/

variable {t} {rows : List ρ}

/-- The rows of a list; of several with one key, the first. -/
def ofList (key : ρ → κ) (rows : List ρ) : Table κ ρ key where
  find k := rows.find? (key · = k)
  keyed := by
    intro k r hr
    simpa using List.find?_some hr

/-- The list has the rows of the table, each once. -/
structure Lists (rows : List ρ) (t : Table κ ρ key) : Prop where
  nodup : (rows.map key).Nodup
  mem : ∀ r, r ∈ rows ↔ t.find (key r) = some r

omit [DecidableEq κ] in
/-- Two rows of a list with distinct keys are not under one key. -/
lemma Lists.eq_of_key_eq (h : Lists rows t) {r r' : ρ} (hr : r ∈ rows) (hr' : r' ∈ rows)
    (hkey : key r = key r') : r = r' := by
  have hfind := (h.mem r).mp hr
  rw [hkey, (h.mem r').mp hr'] at hfind
  exact (Option.some.inj hfind).symm

/-- Searching the list is reading the table. -/
lemma Lists.find?_eq (h : Lists rows t) (k : κ) : rows.find? (key · = k) = t.find k := by
  cases hfound : rows.find? (key · = k) with
  | some r =>
    have hkey : key r = k := by simpa using List.find?_some hfound
    rw [← hkey]
    exact ((h.mem r).mp (List.mem_of_find?_eq_some hfound)).symm
  | none =>
    cases hrow : t.find k with
    | none => rfl
    | some r =>
      have hkey := t.keyed k r hrow
      have hmem : r ∈ rows := (h.mem r).mpr (by rw [hkey, hrow])
      have hother := List.find?_eq_none.mp hfound r hmem
      simp [hkey] at hother

omit [DecidableEq κ] in
lemma Lists.find_eq_some_iff (h : Lists rows t) {k : κ} {r : ρ} :
    t.find k = some r ↔ r ∈ rows ∧ key r = k := by
  constructor
  · intro hfound
    have hkey := t.keyed k r hfound
    exact ⟨(h.mem r).mpr (by rw [hkey, hfound]), hkey⟩
  · rintro ⟨hr, rfl⟩
    exact (h.mem r).mp hr

omit [DecidableEq κ] in
lemma Lists.find_ne_none_iff (h : Lists rows t) {k : κ} : t.find k ≠ none ↔ k ∈ rows.map key := by
  rw [Option.ne_none_iff_exists', List.mem_map]
  exact exists_congr fun r => h.find_eq_some_iff

lemma Lists.forall_ne_iff (h : Lists rows t) (k : κ) :
    (∀ r ∈ rows, key r ≠ k) ↔ t.find k = none := by
  rw [← h.find?_eq, List.find?_eq_none]
  simp

lemma lists_ofList (hnodup : (rows.map key).Nodup) : Lists rows (ofList key rows) := by
  refine ⟨hnodup, fun r => ?_⟩
  constructor
  · intro hr
    cases hfound : rows.find? (key · = key r) with
    | none => simpa using List.find?_eq_none.mp hfound r hr
    | some r' =>
      have hkey : key r' = key r := by simpa using List.find?_some hfound
      have hmem := List.mem_of_find?_eq_some hfound
      rw [List.inj_on_of_nodup_map hnodup hmem hr hkey] at hfound
      exact hfound
  · intro hfound
    exact List.mem_of_find?_eq_some hfound

omit [DecidableEq κ] in
lemma Lists.perm (h : Lists rows t) {rows' : List ρ} (hperm : rows'.Perm rows) : Lists rows' t where
  nodup := (hperm.map key).nodup_iff.mpr h.nodup
  mem := fun r => hperm.mem_iff.trans (h.mem r)

/-- A row with a new key. -/
lemma Lists.append (h : Lists rows t) {r : ρ} (hnew : t.find (key r) = none) :
    Lists (rows ++ [r]) (t.put r) := by
  have hothers := (h.forall_ne_iff (key r)).mpr hnew
  constructor
  · rw [List.map_append, List.nodup_append]
    refine ⟨h.nodup, List.nodup_singleton _, ?_⟩
    rintro k hk k' hk' rfl
    obtain ⟨r', hr', rfl⟩ := List.mem_map.mp hk
    exact hothers r' hr' (by simpa using hk')
  · intro r'
    rw [List.mem_append, List.mem_singleton]
    by_cases hkey : key r' = key r
    · rw [find_put_of_key t hkey.symm, Option.some.injEq]
      constructor
      · rintro (hr' | rfl)
        · exact absurd hkey (hothers r' hr')
        · rfl
      · exact fun hr => .inr hr.symm
    · rw [find_put_of_ne t hkey, h.mem]
      constructor
      · rintro (hr' | rfl)
        · exact hr'
        · exact absurd rfl hkey
      · exact .inl

/-- A new row for the one with its key. -/
lemma Lists.map (h : Lists rows t) {f : ρ → ρ} {r r₀ : ρ} (hold : t.find (key r) = some r₀)
    (hnew : f r₀ = r) (hothers : ∀ r', key r' ≠ key r → f r' = r') :
    Lists (rows.map f) (t.put r) := by
  have hkey₀ : key r₀ = key r := t.keyed _ _ hold
  have hmem₀ : r₀ ∈ rows := (h.mem r₀).mpr (by rw [hkey₀, hold])
  have hf : ∀ r' ∈ rows, key r' = key r → f r' = r := fun r' hr' hkey => by
    rw [h.eq_of_key_eq hr' hmem₀ (hkey.trans hkey₀.symm), hnew]
  constructor
  · have hkeys : (rows.map f).map key = rows.map key := by
      rw [List.map_map]
      refine List.map_congr_left fun r' hr' => ?_
      by_cases hkey : key r' = key r
      · rw [Function.comp_apply, hf r' hr' hkey, hkey]
      · rw [Function.comp_apply, hothers r' hkey]
    rw [hkeys]
    exact h.nodup
  · intro r'
    rw [List.mem_map]
    by_cases hkey : key r' = key r
    · rw [find_put_of_key t hkey.symm, Option.some.injEq]
      constructor
      · rintro ⟨r'', hr'', rfl⟩
        by_cases hkey'' : key r'' = key r
        · exact (hf r'' hr'' hkey'').symm
        · rw [hothers r'' hkey''] at hkey
          exact absurd hkey hkey''
      · rintro rfl
        exact ⟨r₀, hmem₀, hnew⟩
    · rw [find_put_of_ne t hkey, ← h.mem]
      constructor
      · rintro ⟨r'', hr'', rfl⟩
        by_cases hkey'' : key r'' = key r
        · rw [hf r'' hr'' hkey''] at hkey
          exact absurd rfl hkey
        · rwa [hothers r'' hkey'']
      · exact fun hr' => ⟨r', hr', hothers r' hkey⟩

end Table

end Framework
