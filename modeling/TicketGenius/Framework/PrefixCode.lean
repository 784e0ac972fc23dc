import Mathlib.Logic.Function.Basic
import Mathlib.Tactic.Common

/-!
# Prefix codes

A code writes each symbol as a word.  When the symbol can be read off the front of any text that
starts with its word, words can be written one after the other, and the text still determines the
symbols.
-/

namespace Framework

variable {α β : Type*}

/-- A text that starts with a word starts with no other. -/
def PrefixFree (code : α → List β) : Prop :=
  ∀ a b x y, code a ++ x = code b ++ y → a = b

namespace PrefixFree

variable {code : α → List β}

/-- A code with a reader for the first symbol. -/
lemma of_read {read : List β → Option α} (h : ∀ a x, read (code a ++ x) = some a) :
    PrefixFree code := by
  intro a b x y htext
  have hread : some a = some b := by rw [← h a x, htext, h b y]
  exact Option.some.inj hread

/-- **A text determines its symbols.** -/
theorem flatMap_injective (h : PrefixFree code) (hne : ∀ a, code a ≠ []) :
    Function.Injective (List.flatMap code) := by
  intro as
  induction as with
  | nil =>
    intro bs htext
    cases bs with
    | nil => rfl
    | cons b bs => simp [hne b] at htext
  | cons a as ih =>
    intro bs htext
    cases bs with
    | nil => simp [hne a] at htext
    | cons b bs =>
      rw [List.flatMap_cons, List.flatMap_cons] at htext
      obtain rfl := h a b _ _ htext
      rw [ih (List.append_cancel_left htext)]

end PrefixFree

end Framework
