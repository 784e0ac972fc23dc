import Mathlib.Data.List.Nodup
import Mathlib.Logic.Function.Basic
import Mathlib.Tactic.Common

/-!
# Claims

Parties claim tokens, each of which can be claimed while it is free and is taken from then on.  Then
no token is claimed twice, by one party or by two (`Claims`), whatever the order of the claims is:
a claim of a free token keeps this (`Claims.claim`), and so does forgetting some (`Claims.drop`).
-/

namespace Framework

variable {ι κ : Type*} {held : ι → List κ} {taken taken' : κ → Prop}

/-- What the parties hold is taken, and nothing is held twice. -/
structure Claims (held : ι → List κ) (taken : κ → Prop) : Prop where
  taken : ∀ i, ∀ k ∈ held i, taken k
  once : ∀ i, (held i).Nodup
  apart : ∀ i j, i ≠ j → (held i).Disjoint (held j)

namespace Claims

lemma nil : Claims (fun _ : ι => ([] : List κ)) taken where
  taken _ _ h := (List.not_mem_nil h).elim
  once _ := List.nodup_nil
  apart _ _ _ _ h := (List.not_mem_nil h).elim

/-- Tokens stay taken. -/
lemma mono (h : Claims held taken) (htaken : ∀ k, taken k → taken' k) : Claims held taken' :=
  ⟨fun i k hk => htaken k (h.taken i k hk), h.once, h.apart⟩

variable [DecidableEq ι]

/-- **A claim** of a free token. -/
theorem claim (h : Claims held taken) {i : ι} {k : κ} (hfree : ¬ taken k)
    (htaken : ∀ k, taken k → taken' k) (hk : taken' k) :
    Claims (Function.update held i (k :: held i)) taken' := by
  have hnew : ∀ j, k ∉ held j := fun j hmem => hfree (h.taken j k hmem)
  refine ⟨fun j k' hmem => ?_, fun j => ?_, fun j l hjl => ?_⟩
  · rcases eq_or_ne j i with rfl | hji
    · rw [Function.update_self] at hmem
      rcases List.mem_cons.mp hmem with rfl | hmem
      · exact hk
      · exact htaken k' (h.taken j k' hmem)
    · rw [Function.update_of_ne hji] at hmem
      exact htaken k' (h.taken j k' hmem)
  · rcases eq_or_ne j i with rfl | hji
    · rw [Function.update_self]
      exact List.nodup_cons.mpr ⟨hnew j, h.once j⟩
    · rw [Function.update_of_ne hji]
      exact h.once j
  · rcases eq_or_ne j i with rfl | hji
    · rw [Function.update_self, Function.update_of_ne hjl.symm]
      exact List.disjoint_cons_left.mpr ⟨hnew l, h.apart j l hjl⟩
    · rcases eq_or_ne l i with rfl | hli
      · rw [Function.update_self, Function.update_of_ne hji]
        exact List.disjoint_cons_right.mpr ⟨hnew j, h.apart j l hjl⟩
      · rw [Function.update_of_ne hji, Function.update_of_ne hli]
        exact h.apart j l hjl

/-- A party goes on with some of its claims. -/
lemma drop (h : Claims held taken) {i : ι} {l : List κ} (hl : l.Sublist (held i)) :
    Claims (Function.update held i l) taken := by
  have hsub : ∀ j, (Function.update held i l j).Sublist (held j) := by
    intro j
    rcases eq_or_ne j i with rfl | hji
    · rwa [Function.update_self]
    · rw [Function.update_of_ne hji]
  refine ⟨fun j k hk => h.taken j k ((hsub j).subset hk), fun j => (h.once j).sublist (hsub j), ?_⟩
  intro j m hjm k hj hm
  exact h.apart j m hjm ((hsub j).subset hj) ((hsub m).subset hm)

end Claims

end Framework
