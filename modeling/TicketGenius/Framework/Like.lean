import Mathlib.Data.List.Infix
import Mathlib.Tactic.Common

/-!
# Patterns with wildcards

The patterns of `LIKE`: a piece of a pattern is a character, any one character, or any text.
`accepts_append` takes a pattern apart, and `accepts_anywhere` is what the pattern `%p%` is for:
some part of the text is accepted by `p`.

In the notation of a pattern, `%` and `_` are the wildcards and a backslash makes the next character
stand for itself (`parse`); a text without these three is the pattern of itself.
-/

namespace Framework.Like

/-! ## Matching -/

/-- A piece of a pattern over characters `α`. -/
inductive Piece (α : Type*)
  | any
  | one
  | char (a : α)

section Accepts

variable {α : Type*} [DecidableEq α]

/-- A pattern accepts a text. -/
def accepts : List (Piece α) → List α → Bool
  | [], s => s.isEmpty
  | .any :: p, s => s.tails.any (accepts p)
  | .one :: _, [] => false
  | .one :: p, _ :: s => accepts p s
  | .char _ :: _, [] => false
  | .char a :: p, b :: s => a == b && accepts p s

variable {p q : List (Piece α)} {s : List α}

lemma accepts_nil : accepts ([] : List (Piece α)) s = true ↔ s = [] := List.isEmpty_iff

lemma accepts_any : accepts (.any :: p) s = true ↔ ∃ t u, s = t ++ u ∧ accepts p u = true := by
  rw [accepts, List.any_eq_true]
  constructor
  · rintro ⟨u, hu, haccepts⟩
    obtain ⟨t, rfl⟩ := (List.mem_tails _ _).mp hu
    exact ⟨t, u, rfl, haccepts⟩
  · rintro ⟨t, u, rfl, haccepts⟩
    exact ⟨u, (List.mem_tails _ _).mpr (List.suffix_append _ _), haccepts⟩

lemma accepts_one : accepts (.one :: p) s = true ↔ ∃ b u, s = b :: u ∧ accepts p u = true := by
  cases s with
  | nil => simp [accepts]
  | cons b u => simp [accepts]

lemma accepts_char {a : α} :
    accepts (.char a :: p) s = true ↔ ∃ u, s = a :: u ∧ accepts p u = true := by
  cases s with
  | nil => simp [accepts]
  | cons b u =>
    rw [accepts, Bool.and_eq_true, beq_iff_eq]
    constructor
    · rintro ⟨rfl, haccepts⟩
      exact ⟨u, rfl, haccepts⟩
    · rintro ⟨u', hcons, haccepts⟩
      obtain ⟨rfl, rfl⟩ := List.cons.inj hcons
      exact ⟨rfl, haccepts⟩

/-- **A pattern in two parts** accepts a text in two parts. -/
theorem accepts_append : accepts (p ++ q) s = true ↔
    ∃ t u, s = t ++ u ∧ accepts p t = true ∧ accepts q u = true := by
  induction p generalizing s with
  | nil => simp [accepts_nil]
  | cons piece p ih =>
    rw [List.cons_append]
    cases piece with
    | any =>
      simp only [accepts_any, ih]
      constructor
      · rintro ⟨t, u, rfl, v, w, rfl, hp, hq⟩
        exact ⟨t ++ v, w, (List.append_assoc ..).symm, ⟨t, v, rfl, hp⟩, hq⟩
      · rintro ⟨t, u, rfl, ⟨v, w, rfl, hp⟩, hq⟩
        exact ⟨v, w ++ u, List.append_assoc .., w, u, rfl, hp, hq⟩
    | one =>
      simp only [accepts_one, ih]
      constructor
      · rintro ⟨b, u, rfl, v, w, rfl, hp, hq⟩
        exact ⟨b :: v, w, rfl, ⟨b, v, rfl, hp⟩, hq⟩
      · rintro ⟨t, u, rfl, ⟨b, v, rfl, hp⟩, hq⟩
        exact ⟨b, v ++ u, rfl, v, u, rfl, hp, hq⟩
    | char a =>
      simp only [accepts_char, ih]
      constructor
      · rintro ⟨u, rfl, v, w, rfl, hp, hq⟩
        exact ⟨a :: v, w, rfl, ⟨v, rfl, hp⟩, hq⟩
      · rintro ⟨t, u, rfl, ⟨v, rfl, hp⟩, hq⟩
        exact ⟨v ++ u, rfl, v, u, rfl, hp, hq⟩

/-- A pattern without wildcards accepts one text. -/
lemma accepts_map_char {w : List α} : accepts (w.map .char) s = true ↔ s = w := by
  induction w generalizing s with
  | nil => exact accepts_nil
  | cons a w ih => simp [accepts_char, ih]

lemma accepts_any_nil (s : List α) : accepts [.any] s = true :=
  accepts_any.mpr ⟨s, [], (List.append_nil s).symm, rfl⟩

/-- **Between two wildcards** a pattern accepts the texts of which it accepts a part. -/
theorem accepts_anywhere : accepts (.any :: (p ++ [.any])) s = true ↔
    ∃ t, t <:+: s ∧ accepts p t = true := by
  rw [accepts_any]
  simp only [accepts_append]
  constructor
  · rintro ⟨before, _, rfl, t, after, rfl, hp, -⟩
    exact ⟨t, ⟨before, after, List.append_assoc ..⟩, hp⟩
  · rintro ⟨t, ⟨before, after, rfl⟩, hp⟩
    exact ⟨before, t ++ after, List.append_assoc .., t, after, rfl, hp, accepts_any_nil after⟩

end Accepts

/-! ## Notation -/

/-- A pattern in its notation; a backslash at the end stands for itself. -/
def parse : List Char → List (Piece Char)
  | [] => []
  | '\\' :: c :: s => .char c :: parse s
  | '%' :: s => .any :: parse s
  | '_' :: s => .one :: parse s
  | c :: s => .char c :: parse s

/-- A character that stands for itself. -/
def Plain (c : Char) : Prop := c ≠ '\\' ∧ c ≠ '%' ∧ c ≠ '_'

instance (c : Char) : Decidable (Plain c) := inferInstanceAs (Decidable (_ ∧ _))

lemma parse_plain_cons {c : Char} (hc : Plain c) (s : List Char) :
    parse (c :: s) = .char c :: parse s := by
  obtain ⟨hescape, hany, hone⟩ := hc
  rw [parse.eq_def]
  split
  · next hcons => cases hcons
  · next hcons => exact absurd (List.cons.inj hcons).1 hescape
  · next hcons => exact absurd (List.cons.inj hcons).1 hany
  · next hcons => exact absurd (List.cons.inj hcons).1 hone
  · next hcons =>
    obtain ⟨rfl, rfl⟩ := List.cons.inj hcons
    rfl

/-- **A plain text** is the pattern of itself, whatever comes after it. -/
lemma parse_plain_append {w : List Char} (hw : ∀ c ∈ w, Plain c) (s : List Char) :
    parse (w ++ s) = w.map .char ++ parse s := by
  induction w with
  | nil => rfl
  | cons c w ih =>
    obtain ⟨hc, hrest⟩ := List.forall_mem_cons.mp hw
    rw [List.cons_append, parse_plain_cons hc, ih hrest]
    rfl

/-- `%w%` accepts the texts that contain `w`. -/
theorem accepts_parse_anywhere {w : List Char} (hw : ∀ c ∈ w, Plain c) {s : List Char} :
    accepts (parse ('%' :: (w ++ ['%']))) s = true ↔ w <:+: s := by
  have hparse : parse ('%' :: (w ++ ['%'])) = .any :: (w.map .char ++ [.any]) := by
    rw [parse, parse_plain_append hw]
    rfl
  rw [hparse, accepts_anywhere]
  simp only [accepts_map_char, exists_eq_right]

end Framework.Like
