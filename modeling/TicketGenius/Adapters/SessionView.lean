import TicketGenius.Adapters.Session
import TicketGenius.Framework.Table

/-!
# What a session shows

An instance that a session holds stands for its row, whatever the database says; the other rows are
those its transaction sees.  `Shows` takes both together as one map from keys to values.  A query
reads that map and leaves it as it is, although it flushes and may load an instance; adding and
assigning change it at one key.

`Pending` is what a rollback would undo.
-/

namespace TicketGenius

open Framework

variable {κ ν ε ρ : Type} [DecidableEq κ]

/-! ## Rows -/

lemma rowOf_append (key : κ) (first second : List (Statement κ ν ρ)) :
    rowOf key (first ++ second) = second.foldl (Statement.rowAfter key) (rowOf key first) :=
  List.foldl_append

/-- Statements about other keys do not change a row. -/
lemma foldl_rowAfter {key : κ} {statements : List (Statement κ ν ρ)}
    (h : ∀ st ∈ statements, ∀ row, Statement.rowAfter key row st = row) (row : Option ν) :
    statements.foldl (Statement.rowAfter key) row = row := by
  induction statements with
  | nil => rfl
  | cons st statements ih =>
    rw [List.foldl_cons, h st List.mem_cons_self]
    exact ih fun st hst => h st (List.mem_cons_of_mem _ hst)

namespace OrmSession

variable {database : List (Statement κ ν ρ)} {session : OrmSession κ ν ε ρ} {key : κ}

/-- A flush changes no row but those of its instances. -/
lemma rowOf_unflushed (h : ∀ o ∈ session.instances, o.key ≠ key)
    (statements : List (Statement κ ν ρ)) :
    rowOf key (statements ++ session.unflushed) = rowOf key statements := by
  rw [rowOf_append]
  apply foldl_rowAfter
  intro st hst row
  simp only [unflushed, List.mem_append, List.mem_map] at hst
  rcases hst with ⟨o, ho, rfl⟩ | ⟨o, ho, rfl⟩ | ⟨_, -, rfl⟩
  · have hmem : o ∈ session.instances := List.mem_append_left _ ho
    exact if_neg (h o hmem)
  · have hmem : o ∈ session.instances := List.mem_append_right _ (List.mem_append_left _ ho)
    exact if_neg (h o hmem)
  · rfl

/-! ## The map of a session -/

/-- Instances before rows. -/
def overlay (loaded : Table κ (Instance κ ν ε) Instance.key) (rows : κ → Option ν) (key : κ) :
    Option ν :=
  match loaded.find key with
  | some o => some o.value
  | none => rows key

/-- The session and the database behind it show `view`. -/
structure Shows (database : List (Statement κ ν ρ)) (session : OrmSession κ ν ε ρ)
    (view : κ → Option ν) : Prop where
  active : session.deactivated = false
  loaded : ∃ loaded, Table.Lists session.instances loaded ∧
    view = overlay loaded fun key => rowOf key (database ++ session.flushed)

variable {view : κ → Option ν}

/-- What a session shows under a key. -/
def shown (database : List (Statement κ ν ρ)) (session : OrmSession κ ν ε ρ) (key : κ) : Option ν :=
  match session.instances.find? (·.key = key) with
  | some o => some o.value
  | none => rowOf key (database ++ session.flushed)

lemma Shows.shown_eq (h : Shows database session view) (key : κ) :
    shown database session key = view key := by
  obtain ⟨-, loaded, hlists, rfl⟩ := h
  rw [shown, hlists.find?_eq, overlay]

lemma shows_empty (database : List (Statement κ ν ρ)) :
    Shows database (empty : OrmSession κ ν ε ρ) fun key => rowOf key database := by
  refine ⟨rfl, .empty, ⟨List.nodup_nil, fun o => ?_⟩, ?_⟩
  · constructor
    · intro ho
      cases ho
    · intro ho
      cases ho
  · funext key
    show rowOf key database = rowOf key (database ++ [])
    rw [List.append_nil]

lemma Shows.flush (h : Shows database session view) : Shows database session.flush view := by
  obtain ⟨hactive, loaded, hlists, rfl⟩ := h
  have hperm : session.flush.instances.Perm session.instances := by
    show (session.clean ++ (session.new ++ session.dirty)).Perm _
    rw [instances, ← List.append_assoc session.new]
    exact List.perm_append_comm
  refine ⟨hactive, loaded, hlists.perm hperm, ?_⟩
  funext key
  unfold overlay
  cases hfound : loaded.find key with
  | some o => rfl
  | none =>
    have hothers := (hlists.forall_ne_iff key).mpr hfound
    show rowOf key (database ++ session.flushed) =
      rowOf key (database ++ (session.flushed ++ session.unflushed))
    rw [← List.append_assoc, rowOf_unflushed hothers]

/-- Loading an instance. -/
lemma Shows.get (h : Shows database session view) (key : κ) :
    ∃ session', session.get database key = some session' ∧ Shows database session' view ∧
      (session'.instances.find? (·.key = key)).map Instance.value = view key := by
  obtain ⟨hactive, loaded, hlists, rfl⟩ := h
  have hfind := hlists.find?_eq key
  unfold OrmSession.get
  cases hfound : loaded.find key with
  | some o =>
    have hany : session.instances.any (·.key = key) = true := by
      rw [List.any_eq_true, ← List.find?_isSome, hfind, hfound]
      rfl
    rw [if_pos hany]
    refine ⟨session, rfl, ⟨hactive, loaded, hlists, rfl⟩, ?_⟩
    rw [hfind, hfound, overlay, hfound, Option.map_some]
  | none =>
    have hnone : ¬ session.instances.any (·.key = key) = true := by
      rw [List.any_eq_true, ← List.find?_isSome, hfind, hfound]
      simp
    rw [if_neg hnone, if_neg (by simp [hactive])]
    cases hrow : rowOf key (database ++ session.flushed) with
    | none =>
      refine ⟨session, rfl, ⟨hactive, loaded, hlists, rfl⟩, ?_⟩
      rw [hfind, hfound, overlay, hfound, hrow, Option.map_none]
    | some value =>
      let o : Instance κ ν ε := ⟨key, value, none⟩
      let session' : OrmSession κ ν ε ρ := { session with clean := session.clean ++ [o] }
      have hlists' : Table.Lists session'.instances (loaded.put o) := by
        have happend : session'.instances = session.instances ++ [o] := by
          simp [session', instances]
        rw [happend]
        exact hlists.append hfound
      refine ⟨session', rfl, ⟨hactive, loaded.put o, hlists', ?_⟩, ?_⟩
      · funext key'
        unfold overlay
        by_cases hkey : key' = key
        · rw [hkey, hfound, loaded.find_put_of_key rfl]
          exact hrow
        · rw [loaded.find_put_of_ne hkey]
      · rw [hlists'.find?_eq, loaded.find_put_of_key rfl, overlay, hfound, hrow, Option.map_some]

/-- **Querying** finds the value and leaves the map as it is. -/
theorem Shows.query (h : Shows database session view) (key : κ) :
    ∃ session', session.query database key = some session' ∧ Shows database session' view ∧
      (session'.instances.find? (·.key = key)).map Instance.value = view key := by
  rw [OrmSession.query, if_neg (by simp [h.active])]
  exact h.flush.get key

/-- **Adding** an instance under a new key. -/
theorem Shows.add (h : Shows database session view) (hnew : view key = none) (value : ν) :
    Shows database (session.add key value) (Function.update view key (some value)) := by
  obtain ⟨hactive, loaded, hlists, rfl⟩ := h
  let o : Instance κ ν ε := ⟨key, value, some []⟩
  have hfound : loaded.find key = none := by
    cases hfound : loaded.find key with
    | none => rfl
    | some o =>
      rw [overlay, hfound] at hnew
      cases hnew
  have hperm : (session.add key value).instances.Perm (session.instances ++ [o]) := by
    show (session.new ++ [o] ++ (session.dirty ++ session.clean)).Perm _
    rw [instances, List.append_assoc, List.append_assoc]
    exact List.Perm.append_left _ List.perm_append_comm
  refine ⟨hactive, loaded.put o, (hlists.append hfound).perm hperm, ?_⟩
  funext key'
  unfold overlay
  by_cases hkey : key' = key
  · rw [hkey, Function.update_self, loaded.find_put_of_key rfl]
  · rw [Function.update_of_ne hkey, loaded.find_put_of_ne hkey]
    rfl

/-- What an assignment to the instance with a key makes of an instance. -/
def assigned (key : κ) (value : ν) (o : Instance κ ν ε) : Instance κ ν ε :=
  if o.key = key then { o with value := value } else o

/-- The instances after an assignment. -/
lemma instances_assign (session : OrmSession κ ν ε ρ) (key : κ) (value : ν) :
    (session.assign key value).instances.Perm (session.instances.map (assigned key value)) := by
  let here : Instance κ ν ε → Bool := fun o => decide (o.key = key)
  let elsewhere : Instance κ ν ε → Bool := fun o => decide (o.key ≠ key)
  have hkept : session.clean.filter elsewhere =
      (session.clean.filter elsewhere).map (assigned key value) := by
    conv_lhs => rw [← List.map_id (session.clean.filter elsewhere)]
    refine List.map_congr_left fun o ho => ?_
    have hne : o.key ≠ key := of_decide_eq_true (List.mem_filter.mp ho).2
    exact (if_neg hne).symm
  have hsplit : (session.clean.filter here ++ session.clean.filter elsewhere).Perm
      session.clean := by
    have hnot : elsewhere = fun o => !here o := by
      funext o
      simp [elsewhere, here]
    rw [hnot]
    exact List.filter_append_perm _ _
  show (session.new.map (assigned key value) ++
    ((session.dirty ++ session.clean.filter here).map (assigned key value) ++
      session.clean.filter elsewhere)).Perm _
  rw [hkept, ← List.map_append, ← List.map_append]
  refine List.Perm.map _ (List.Perm.append_left _ ?_)
  rw [List.append_assoc]
  exact List.Perm.append_left _ hsplit

/-- **Assigning** to an instance that has been loaded. -/
theorem Shows.assign (h : Shows database session view) {o : Instance κ ν ε}
    (hfind : session.instances.find? (·.key = key) = some o) (value : ν) :
    Shows database (session.assign key value) (Function.update view key (some value)) := by
  obtain ⟨hactive, loaded, hlists, rfl⟩ := h
  have hkey : o.key = key := by simpa using List.find?_some hfind
  let o' : Instance κ ν ε := { o with value := value }
  have hold : loaded.find o'.key = some o := by
    rw [← hlists.find?_eq, ← hfind, ← hkey]
  have hkey₀ : o'.key = key := hkey
  have hnew : assigned key value o = o' := if_pos hkey
  have hothers : ∀ other : Instance κ ν ε, other.key ≠ o'.key → assigned key value other = other :=
    fun other hother => if_neg fun h => hother (h.trans hkey.symm)
  have hlists' := hlists.map hold hnew hothers
  refine ⟨hactive, loaded.put o', hlists'.perm (instances_assign session key value), ?_⟩
  funext key'
  unfold overlay
  by_cases hkey' : key' = key
  · rw [hkey', Function.update_self, loaded.find_put_of_key hkey₀]
  · rw [Function.update_of_ne hkey', loaded.find_put_of_ne fun h => hkey' (h.trans hkey₀)]
    rfl

/-! ## What a rollback would undo -/

/-- The session has a new or a changed instance or a new outbox row, or its transaction has sent a
statement. -/
def Pending (session : OrmSession κ ν ε ρ) : Prop :=
  session.new ≠ [] ∨ session.dirty ≠ [] ∨ session.newOutbox ≠ [] ∨ session.flushed ≠ []

omit [DecidableEq κ] in
lemma pending_flush : session.flush.Pending ↔ session.Pending := by
  simp [Pending, OrmSession.flush, unflushed]
  tauto

lemma pending_get {session' : OrmSession κ ν ε ρ} (h : session.get database key = some session') :
    session'.Pending ↔ session.Pending := by
  unfold OrmSession.get at h
  split at h
  · cases h
    rfl
  · split at h
    · cases h
    · split at h
      · cases h
        rfl
      · cases h
        rfl

lemma pending_query {session' : OrmSession κ ν ε ρ}
    (h : session.query database key = some session') : session'.Pending ↔ session.Pending := by
  unfold OrmSession.query at h
  split at h
  · cases h
  · rw [pending_get h, pending_flush]

omit [DecidableEq κ] in
lemma pending_add (session : OrmSession κ ν ε ρ) (key : κ) (value : ν) :
    (session.add key value).Pending := by
  left
  simp [OrmSession.add]

/-- An instance that is assigned to is new or changed. -/
lemma pending_assign {o : Instance κ ν ε} (ho : o ∈ session.instances) (value : ν) :
    (session.assign o.key value).Pending := by
  rcases List.mem_append.mp ho with hnew | hother
  · left
    simpa [OrmSession.assign] using List.ne_nil_of_mem hnew
  · right
    left
    have hmem : o ∈ session.dirty ++ session.clean.filter (·.key = o.key) := by
      rcases List.mem_append.mp hother with hdirty | hclean
      · exact List.mem_append_left _ hdirty
      · exact List.mem_append_right _ (List.mem_filter.mpr ⟨hclean, by simp⟩)
    simpa [OrmSession.assign] using List.ne_nil_of_mem hmem

end OrmSession

end TicketGenius
