import TicketGenius.Domain.Exceptions
import Mathlib.Logic.Function.Basic

/-!
# Redis

The store behind the Redis client, and the four commands the modelled code sends, each atomic.  A
value is text.  Because the code stores two kinds of text, plain strings and what `json.dumps`
returns, a value is kept here as one of the two: a text that is a JSON document is kept as the
document, any other text as it is.  The code never compares a document with a plain string that is
a document too, so nothing it does can tell this apart from text alone.

Every key the code writes gets a lifetime.  `Store.expire` is the end of a lifetime, which may come
between any two commands.
-/

namespace TicketGenius.Redis

/-- The text under a key. -/
inductive Value
  | text (s : String)
  | json (document : Json)

/-- `value == s`, for a string `s` that is no JSON document. -/
def Value.eqText (s : String) : Value → Bool
  | .text t => t == s
  | .json _ => false

/-- `bool(value)`: the empty text is false. -/
def Value.truthy : Value → Bool
  | .text s => s != ""
  | .json _ => true

/-- A value with its lifetime in seconds, if it has one. -/
structure Entry where
  value : Value
  ttl : Option ℕ

/-- A Redis database. -/
abbrev Store := String → Option Entry

/-- The commands the code sends. -/
inductive Command
  /-- `set(key, value, nx=True, ex=ttl)` -/
  | setNx (key : String) (value : Value) (ttl : ℕ)
  /-- `get(key)` -/
  | get (key : String)
  /-- `delete(key)` -/
  | delete (key : String)
  /-- `setex(key, ttl, value)` -/
  | setex (key : String) (ttl : ℕ) (value : Value)

/-- What the client returns; of `set` with `nx`, whether it returned `True` or `None`. -/
@[reducible]
def Command.Reply : Command → Type
  | .setNx .. => Bool
  | .get _ => Option Value
  | .delete _ => Unit
  | .setex .. => Unit

/-- One atomic command. -/
def execute : (c : Command) → Store → c.Reply × Store
  | .setNx key value ttl, s =>
    match s key with
    | none => (true, Function.update s key (some ⟨value, some ttl⟩))
    | some _ => (false, s)
  | .get key, s => ((s key).map Entry.value, s)
  | .delete key, s => ((), Function.update s key none)
  | .setex key ttl value, s => ((), Function.update s key (some ⟨value, some ttl⟩))

section Execute

variable {s : Store} {key : String}

lemma execute_setNx_free (h : s key = none) (value : Value) (ttl : ℕ) :
    execute (.setNx key value ttl) s =
      (true, Function.update s key (some ⟨value, some ttl⟩)) := by
  simp only [execute, h]

lemma execute_setNx_taken (h : s key ≠ none) (value : Value) (ttl : ℕ) :
    execute (.setNx key value ttl) s = (false, s) := by
  obtain ⟨entry, h⟩ := Option.ne_none_iff_exists'.mp h
  simp only [execute, h]

end Execute

/-- The lifetime of a key ends; a key without lifetime stays. -/
def Store.expire (s : Store) (key : String) : Store :=
  match s key with
  | some ⟨_, some _⟩ => Function.update s key none
  | _ => s

/-- The key holds exactly the text `t`. -/
def Store.Holds (s : Store) (key t : String) : Prop :=
  ∃ ttl, s key = some ⟨.text t, ttl⟩

/-- A key holds one text. -/
lemma Store.Holds.unique {s : Store} {key t t' : String} (h : s.Holds key t)
    (h' : s.Holds key t') : t = t' := by
  obtain ⟨ttl, h⟩ := h
  obtain ⟨ttl', h'⟩ := h'
  rw [h, Option.some.injEq, Entry.mk.injEq, Value.text.injEq] at h'
  exact h'.1

/-- `s.Holds key t` is what comparing the value under the key with `t` finds out. -/
lemma Store.holds_iff {s : Store} {key t : String} :
    s.Holds key t ↔ ((s key).map Entry.value).any (Value.eqText t) = true := by
  rcases hkey : s key with _ | ⟨value, ttl⟩
  · simp [Store.Holds, hkey]
  · cases value with
    | text t' => simp [Store.Holds, hkey, Value.eqText]
    | json document => simp [Store.Holds, hkey, Value.eqText]

instance (s : Store) (key t : String) : Decidable (s.Holds key t) :=
  decidable_of_iff _ Store.holds_iff.symm

/-! ## Many keys at once -/

/-- The same entry under each of some keys. -/
def Store.putAll (s : Store) (keys : List String) (entry : Entry) : Store :=
  fun key => if key ∈ keys then some entry else s key

/-- Without some keys. -/
def Store.dropAll (s : Store) (keys : List String) : Store :=
  fun key => if key ∈ keys then none else s key

/-- Without those of some keys that hold exactly the text `t`. -/
def Store.release (s : Store) (keys : List String) (t : String) : Store :=
  fun key => if key ∈ keys ∧ s.Holds key t then none else s key

namespace Store

variable (s : Store)

@[simp] lemma putAll_nil (entry : Entry) : s.putAll [] entry = s := by
  funext k
  simp [putAll]

@[simp] lemma dropAll_nil : s.dropAll [] = s := by
  funext k
  simp [dropAll]

@[simp] lemma release_nil (t : String) : s.release [] t = s := by
  funext k
  simp [release]

lemma putAll_concat (keys : List String) (entry : Entry) (key : String) :
    Function.update (s.putAll keys entry) key (some entry) = s.putAll (keys ++ [key]) entry := by
  funext k
  rcases eq_or_ne k key with rfl | hk
  · simp [putAll]
  · simp [putAll, hk]

lemma dropAll_cons (key : String) (keys : List String) :
    Store.dropAll (Function.update s key none) keys = s.dropAll (key :: keys) := by
  funext k
  rcases eq_or_ne k key with rfl | hk
  · simp [dropAll]
  · simp [dropAll, hk]

lemma release_cons_of_holds {key t : String} (h : s.Holds key t) (keys : List String) :
    Store.release (Function.update s key none) keys t = s.release (key :: keys) t := by
  funext k
  rcases eq_or_ne k key with rfl | hk
  · simp [release, h]
  · have hsame : Store.Holds (Function.update s key none) k t ↔ s.Holds k t := by
      simp [Holds, hk]
    simp [release, hsame, hk]

lemma release_cons_of_not_holds {key t : String} (h : ¬ s.Holds key t) (keys : List String) :
    s.release keys t = s.release (key :: keys) t := by
  funext k
  rcases eq_or_ne k key with rfl | hk
  · simp [release, h]
  · simp [release, hk]

variable {s}

/-- Keys that were free are free again when they are dropped. -/
lemma dropAll_putAll {keys : List String} (hfree : ∀ key ∈ keys, s key = none) (entry : Entry) :
    (s.putAll keys entry).dropAll keys = s := by
  funext k
  by_cases hk : k ∈ keys
  · simp [dropAll, hk, hfree k hk]
  · simp [dropAll, putAll, hk]

/-- Keys that were free are free again when their holder releases them. -/
lemma release_putAll {keys : List String} (hfree : ∀ key ∈ keys, s key = none) (t : String)
    (ttl : Option ℕ) : (s.putAll keys ⟨.text t, ttl⟩).release keys t = s := by
  funext k
  by_cases hk : k ∈ keys
  · have hholds : (s.putAll keys ⟨.text t, ttl⟩).Holds k t := ⟨ttl, if_pos hk⟩
    simp [release, hholds, hk, hfree k hk]
  · simp [release, putAll, hk]

/-- Releasing changes nothing exactly if there is nothing to release. -/
lemma release_eq_self_iff {keys : List String} {t : String} :
    s.release keys t = s ↔ ∀ key ∈ keys, ¬ s.Holds key t := by
  constructor
  · intro hsame key hkey hholds
    have hgone : s.release keys t key = none := if_pos ⟨hkey, hholds⟩
    obtain ⟨ttl, hthere⟩ := hholds
    rw [hsame, hthere] at hgone
    cases hgone
  · intro hnone
    funext k
    exact if_neg fun h => hnone k h.1 h.2

/-- Released keys do not hold the text any more. -/
lemma not_holds_release {keys : List String} {key t : String} (hkey : key ∈ keys) :
    ¬ (s.release keys t).Holds key t := by
  rintro ⟨ttl, hthere⟩
  by_cases hholds : s.Holds key t
  · have hgone : s.release keys t key = none := if_pos ⟨hkey, hholds⟩
    rw [hthere] at hgone
    cases hgone
  · have hsame : s.release keys t key = s key := if_neg fun h => hholds h.2
    exact hholds ⟨ttl, hsame ▸ hthere⟩

end Store

end TicketGenius.Redis

namespace TicketGenius

/-- `json.loads(value)`; the value of a `text` is no JSON document. -/
def jsonLoads : Redis.Value → Except PyError Json
  | .text _ => .error .jsonDecodeError
  | .json document => .ok document

end TicketGenius
