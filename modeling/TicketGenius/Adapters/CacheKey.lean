import TicketGenius.Adapters.MakeRequest
import Mathlib.Data.List.Nodup

/-!
# What a cache key stands for

The text that `_cache_key` hashes determines the method, if this has no colon, the path and, up to
their order and the api key, the parameters with their values as texts (`keyText_eq_iff`).
-/

namespace TicketGenius

/-! ## Parameters -/

namespace Params

/-- The text of the value of a parameter. -/
def rendered (self : Params) (name : String) : Option String :=
  (self.items.lookup name).map Json.format

/-- The same parameters, whatever their order is and whatever the api key is. -/
def Same (self other : Params) : Prop :=
  ∀ name ≠ "apikey", self.rendered name = other.rendered name

variable {self other : Params}

lemma lookup_eq_some_iff {d : Dict Json} (hnodup : (d.map Prod.fst).Nodup) {name : String}
    {value : Json} : d.lookup name = some value ↔ (name, value) ∈ d := by
  induction d with
  | nil => simp
  | cons kv d ih =>
    obtain ⟨key, value'⟩ := kv
    rw [List.map_cons, List.nodup_cons] at hnodup
    rw [List.lookup_cons, List.mem_cons, Prod.mk.injEq]
    by_cases hkey : name = key
    · subst hkey
      have hother : (name, value) ∉ d := fun hmem => hnodup.1 (List.mem_map.mpr ⟨_, hmem, rfl⟩)
      simp [hother, eq_comm]
    · rw [beq_eq_false_iff_ne.mpr hkey, ih hnodup.2]
      simp [hkey]

lemma mem_normalized {name text : String} :
    (name, text) ∈ self.normalized ↔ name ≠ "apikey" ∧ self.rendered name = some text := by
  simp only [normalized, rendered, List.mem_map, List.mem_filter, List.mem_mergeSort,
    bne_iff_ne, Option.map_eq_some_iff, lookup_eq_some_iff self.nodup]
  constructor
  · rintro ⟨⟨name', value⟩, ⟨hmem, hname⟩, hpair⟩
    obtain ⟨rfl, rfl⟩ := Prod.mk.inj hpair
    exact ⟨hname, value, hmem, rfl⟩
  · rintro ⟨hname, value, hmem, rfl⟩
    exact ⟨(name, value), ⟨hmem, hname⟩, rfl⟩

/-- Equal names have equal values. -/
lemma nodup_normalized (self : Params) : (self.normalized.map Prod.fst).Nodup := by
  have hnames : self.normalized.map Prod.fst =
      ((self.items.mergeSort fun a b => a.1 ≤ b.1).filter (·.1 != "apikey")).map Prod.fst := by
    rw [normalized, List.map_map]
    rfl
  have hperm := (List.mergeSort_perm self.items fun a b => a.1 ≤ b.1).map Prod.fst
  rw [hnames]
  exact ((hperm.nodup_iff).mpr self.nodup).sublist (List.filter_sublist.map _)

lemma sorted_normalized (self : Params) : self.normalized.Pairwise fun a b => a.1 ≤ b.1 := by
  have hsorted : (self.items.mergeSort fun a b => a.1 ≤ b.1).Pairwise fun a b => a.1 ≤ b.1 := by
    have htrans : ∀ a b c : String × Json, decide (a.1 ≤ b.1) = true → decide (b.1 ≤ c.1) = true →
        decide (a.1 ≤ c.1) = true := by
      intro a b c hab hbc
      rw [decide_eq_true_eq] at hab hbc ⊢
      exact hab.trans hbc
    have htotal : ∀ a b : String × Json, (decide (a.1 ≤ b.1) || decide (b.1 ≤ a.1)) = true := by
      intro a b
      rw [Bool.or_eq_true, decide_eq_true_eq, decide_eq_true_eq]
      exact le_total a.1 b.1
    simpa using List.pairwise_mergeSort htrans htotal self.items
  exact (hsorted.filter _).map _ fun _ _ h => h

/-- The api key makes no difference. -/
lemma rendered_set_apikey {name : String} (hname : name ≠ "apikey") (value : Json) :
    (self.set "apikey" value).rendered name = self.rendered name := by
  rw [rendered, set, Dict.lookup_set_of_ne hname, rendered]

/-- Two calls are sent with the same parameters exactly if they are called with the same. -/
lemma same_set_apikey (value : Json) :
    (self.set "apikey" value).Same (other.set "apikey" value) ↔ self.Same other := by
  refine forall_congr' fun name => forall_congr' fun hname => ?_
  rw [rendered_set_apikey hname, rendered_set_apikey hname]

/-- The same parameters have the same members. -/
lemma Same.mem_iff (h : self.Same other) (pair : String × String) :
    pair ∈ self.normalized ↔ pair ∈ other.normalized := by
  obtain ⟨name, text⟩ := pair
  rw [mem_normalized, mem_normalized]
  refine and_congr_right fun hname => ?_
  rw [h name hname]

/-- Two members of a normalized list with one name are the same. -/
lemma eq_of_mem_normalized {a b : String × String} (ha : a ∈ self.normalized)
    (hb : b ∈ self.normalized) (hname : a.1 = b.1) : a = b :=
  List.inj_on_of_nodup_map self.nodup_normalized ha hb hname

/-- **The normalized parameters** are the same list exactly for the same parameters. -/
theorem normalized_eq_iff : self.normalized = other.normalized ↔ self.Same other := by
  constructor
  · intro h name hname
    have hiff : ∀ text, self.rendered name = some text ↔ other.rendered name = some text := by
      intro text
      have hmem : (name, text) ∈ self.normalized ↔ (name, text) ∈ other.normalized := by rw [h]
      rw [mem_normalized, mem_normalized] at hmem
      simpa [hname] using hmem
    exact Option.ext hiff
  · intro h
    have hnodup : ∀ params : Params, params.normalized.Nodup := fun params =>
      .of_map _ params.nodup_normalized
    have hperm : self.normalized.Perm other.normalized :=
      (List.perm_ext_iff_of_nodup (hnodup self) (hnodup other)).mpr h.mem_iff
    refine hperm.eq_of_pairwise ?_ self.sorted_normalized other.sorted_normalized
    intro a b ha hb hab hba
    exact eq_of_mem_normalized ha ((h.mem_iff b).mpr hb) (le_antisymm hab hba)

end Params

/-! ## The text that is hashed -/

/-- The parts of the text, which are joined by colons. -/
lemma keyText_eq_joinText (method path : String) (params : Params) :
    keyText method path params =
      joinText ':' (method :: splitText ':' path ++ [urlencode params.normalized]) := by
  have hcolon : String.singleton ':' = ":" := rfl
  rw [joinText_concat (List.cons_ne_nil _ _), joinText_cons (splitText_ne_nil _ _),
    joinText_splitText, hcolon, keyText]

/-- **What a key stands for.** -/
theorem keyText_eq_iff {method method' path path' : String} {params params' : Params}
    (hmethod : ':' ∉ method.toList) (hmethod' : ':' ∉ method'.toList) :
    keyText method path params = keyText method' path' params' ↔
      method = method' ∧ path = path' ∧ params.Same params' := by
  have hparts : ∀ (m p : String) (ps : Params), ':' ∉ m.toList →
      ∀ part ∈ m :: splitText ':' p ++ [urlencode ps.normalized], ':' ∉ part.toList := by
    intro m p ps hm part hpart
    rcases List.mem_append.mp hpart with hpart | hpart
    · rcases List.mem_cons.mp hpart with rfl | hpart
      · exact hm
      · exact notMem_of_mem_splitText hpart
    · rw [List.mem_singleton.mp hpart]
      exact notMem_urlencode _
  rw [keyText_eq_joinText, keyText_eq_joinText, joinText_inj (hparts _ _ _ hmethod)
    (hparts _ _ _ hmethod') (by simp) (by simp)]
  constructor
  · intro h
    obtain ⟨hfront, hback⟩ := List.append_inj' h rfl
    obtain ⟨rfl, hpath⟩ := List.cons.inj hfront
    have hjoined : joinText ':' (splitText ':' path) = joinText ':' (splitText ':' path') := by
      rw [hpath]
    rw [joinText_splitText, joinText_splitText] at hjoined
    exact ⟨rfl, hjoined,
      Params.normalized_eq_iff.mp (urlencode_inj.mp (List.cons.inj hback).1)⟩
  · rintro ⟨rfl, rfl, hsame⟩
    rw [Params.normalized_eq_iff.mpr hsame]

end TicketGenius
