import Mathlib.Tactic.Common

/-!
# Values of the Python standard library

The source computes with `uuid.UUID`, `datetime` and `str`.  This file fixes what the model keeps
of them: a UUID is its canonical text, because every use in the source goes through `str(u)` or
`==`; an instant is a number of microseconds, because the source only stores and compares it.
-/

namespace TicketGenius

/-! ## `uuid.UUID` -/

/-- The canonical form `str(UUID)` returns: 36 characters, lower-case hexadecimal digits in
groups of 8, 4, 4, 4 and 12. -/
def isCanonicalUuid (s : String) : Bool :=
  s.toList.length == 36 && s.toList.zipIdx.all fun (c, i) =>
    if i = 8 ∨ i = 13 ∨ i = 18 ∨ i = 23 then c == '-'
    else ('0' ≤ c && c ≤ '9') || ('a' ≤ c && c ≤ 'f')

/-- A UUID, given by its canonical text. -/
structure UUID where
  str : String
  canonical : isCanonicalUuid str = true
deriving DecidableEq

lemma UUID.str_injective : Function.Injective UUID.str := by
  rintro ⟨s, hs⟩ ⟨t, ht⟩ h
  simp only at h
  subst h
  rfl

@[simp] lemma UUID.str_inj {u v : UUID} : u.str = v.str ↔ u = v := UUID.str_injective.eq_iff

/-- A text that is not canonical is no UUID's. -/
lemma UUID.str_ne {s : String} (hs : isCanonicalUuid s = false) (u : UUID) : s ≠ u.str := by
  rintro rfl
  simp [u.canonical] at hs

/-- `uuid.NIL`. -/
def UUID.nil : UUID := ⟨"00000000-0000-0000-0000-000000000000", by decide⟩

/-- `uuid.MAX`. -/
def UUID.max : UUID := ⟨"ffffffff-ffff-ffff-ffff-ffffffffffff", by decide⟩

lemma UUID.nil_ne_max : UUID.nil ≠ UUID.max := by decide

/-- `u.hex`: the digits without the dashes. -/
def UUID.hex (u : UUID) : String := String.ofList (u.str.toList.filter (· != '-'))

/-! ## `datetime` -/

/-- An aware instant such as `datetime.now(UTC)` returns it, in microseconds since 1970. -/
structure DateTime where
  micros : Int
deriving DecidableEq

/-- A `datetime` read from a text, with a time zone or without one. -/
inductive PyDateTime
  | aware (t : DateTime)
  | naive (t : DateTime)
deriving DecidableEq

/-- `int(time.time())`. -/
def DateTime.timestamp (t : DateTime) : Int := t.micros / 1000000

/-! ## `str` and `dict` -/

/-- `s[:n]`. -/
def slice (n : Nat) (s : String) : String := String.ofList (s.toList.take n)

/-- Texts that start with different texts are different. -/
lemma append_ne_append (n : Nat) {s t x y : String} {c d : Char} (hs : s.toList[n]? = some c)
    (ht : t.toList[n]? = some d) (hcd : c ≠ d) : s ++ x ≠ t ++ y := by
  intro h
  have hlist := congrArg (fun u : String => u.toList[n]?) h
  obtain ⟨hsn, -⟩ := List.getElem?_eq_some_iff.mp hs
  obtain ⟨htn, -⟩ := List.getElem?_eq_some_iff.mp ht
  simp only [String.toList_append, List.getElem?_append_left hsn, List.getElem?_append_left htn, hs,
    ht, Option.some.injEq] at hlist
  exact hcd hlist

/-- A dict with string keys, in insertion order. -/
abbrev Dict (α : Type) := List (String × α)

/-- `d[key] = value`: a new key goes to the end, an old one stays where it is. -/
def Dict.set {α : Type} (d : Dict α) (key : String) (value : α) : Dict α :=
  if d.any (·.1 == key) then d.map fun kv => if kv.1 == key then (key, value) else kv
  else d ++ [(key, value)]

/-- An assignment leaves the other keys alone. -/
lemma Dict.lookup_set_of_ne {α : Type} {name key : String} (h : name ≠ key) (d : Dict α)
    (value : α) : (d.set key value).lookup name = d.lookup name := by
  have hname : (name == key) = false := beq_eq_false_iff_ne.mpr h
  have hmap : (d.map fun kv => if kv.1 == key then (key, value) else kv).lookup name =
      d.lookup name := by
    induction d with
    | nil => rfl
    | cons kv d ih =>
      rw [List.map_cons, List.lookup_cons, List.lookup_cons, ih]
      by_cases hkey : kv.1 = key
      · simp [hkey, hname]
      · simp [hkey]
  have hconcat : (d ++ [(key, value)]).lookup name = d.lookup name := by
    rw [List.lookup_append, List.lookup_cons, hname]
    exact Option.or_none
  unfold Dict.set
  split
  · exact hmap
  · exact hconcat

/-- `d.get(key, default)`. -/
def Dict.getD {α : Type} (d : Dict α) (key : String) (default : α) : α :=
  (d.lookup key).getD default

/-- The characters `str.isspace` accepts, which are those `str.strip()` removes. -/
def isPySpace (c : Char) : Bool :=
  let n := c.toNat
  (9 ≤ n && n ≤ 13) || (28 ≤ n && n ≤ 32) || n == 0x85 || n == 0xA0 || n == 0x1680 ||
    (0x2000 ≤ n && n ≤ 0x200A) || n == 0x2028 || n == 0x2029 || n == 0x202F || n == 0x205F ||
    n == 0x3000

/-- `not s or not s.strip()`: nothing is left of `s` without its spaces. -/
def isBlank (s : String) : Bool := s.toList.all isPySpace

end TicketGenius
