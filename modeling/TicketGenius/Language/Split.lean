import Mathlib.Tactic.Common

/-!
# `str.split` and `str.join`

`s.split(sep)` and `sep.join(parts)` for a separator of one character.  Splitting undoes joining
where no part has the separator, and joining always undoes splitting.
-/

namespace TicketGenius

/-- `sep.join(parts)` -/
def joinText (sep : Char) (parts : List String) : String :=
  String.ofList ([sep].intercalate (parts.map String.toList))

/-- `s.split(sep)` -/
def splitText (sep : Char) (s : String) : List String :=
  (s.toList.splitOn sep).map String.ofList

section Split

variable {sep : Char} {parts parts' : List String}

lemma joinText_splitText (sep : Char) (s : String) : joinText sep (splitText sep s) = s := by
  have hlists : ((s.toList.splitOn sep).map String.ofList).map String.toList =
      s.toList.splitOn sep := by
    simp [Function.comp_def]
  rw [joinText, splitText, hlists, List.intercalate_splitOn, String.ofList_toList]

lemma splitText_joinText (hsep : ∀ part ∈ parts, sep ∉ part.toList) (hne : parts ≠ []) :
    splitText sep (joinText sep parts) = parts := by
  have hlists : ∀ l ∈ parts.map String.toList, sep ∉ l := by
    intro l hl
    obtain ⟨part, hpart, rfl⟩ := List.mem_map.mp hl
    exact hsep part hpart
  have hne' : parts.map String.toList ≠ [] := by simpa using hne
  rw [splitText, joinText, String.toList_ofList, List.splitOn_intercalate sep hlists hne']
  simp [Function.comp_def]

/-- Texts that are joined of parts without the separator have the same parts. -/
lemma joinText_inj (hsep : ∀ part ∈ parts, sep ∉ part.toList)
    (hsep' : ∀ part ∈ parts', sep ∉ part.toList) (hne : parts ≠ []) (hne' : parts' ≠ []) :
    joinText sep parts = joinText sep parts' ↔ parts = parts' := by
  constructor
  · intro h
    rw [← splitText_joinText hsep hne, h, splitText_joinText hsep' hne']
  · rintro rfl
    rfl

lemma splitText_ne_nil (sep : Char) (s : String) : splitText sep s ≠ [] := by
  rw [splitText, Ne, List.map_eq_nil_iff]
  exact List.splitOn_ne_nil sep s.toList

lemma joinText_cons (hne : parts ≠ []) (part : String) :
    joinText sep (part :: parts) = part ++ String.singleton sep ++ joinText sep parts := by
  obtain ⟨next, parts, rfl⟩ := List.exists_cons_of_ne_nil hne
  rw [← String.toList_inj, joinText, joinText, List.map_cons, List.map_cons,
    List.intercalate_cons_cons]
  simp

lemma joinText_concat (hne : parts ≠ []) (part : String) :
    joinText sep (parts ++ [part]) = joinText sep parts ++ String.singleton sep ++ part := by
  induction parts with
  | nil => exact absurd rfl hne
  | cons first parts ih =>
    by_cases hparts : parts = []
    · subst hparts
      rw [← String.toList_inj]
      simp [joinText, List.intercalate]
    · rw [List.cons_append, joinText_cons (by simp), ih hparts, joinText_cons hparts]
      simp only [String.append_assoc]

/-- A joined text has no characters but those of its parts and the separator. -/
lemma notMem_joinText {c : Char} (hc : c ≠ sep) (h : ∀ part ∈ parts, c ∉ part.toList) :
    c ∉ (joinText sep parts).toList := by
  rw [joinText, String.toList_ofList]
  induction parts with
  | nil => simp [List.intercalate]
  | cons part parts ih =>
    have hrest := ih fun p hp => h p (List.mem_cons_of_mem _ hp)
    have hpart := h part List.mem_cons_self
    cases parts with
    | nil => simpa [List.intercalate] using hpart
    | cons next parts =>
      rw [List.map_cons] at hrest
      rw [List.map_cons, List.map_cons, List.intercalate_cons_cons]
      simp only [List.mem_append, List.mem_singleton, not_or]
      exact ⟨⟨hpart, hc⟩, hrest⟩

lemma notMem_of_mem_splitOn {cs l : List Char} (h : l ∈ cs.splitOn sep) : sep ∉ l := by
  induction cs generalizing l with
  | nil =>
    rw [List.splitOn_nil, List.mem_singleton] at h
    rw [h]
    exact List.not_mem_nil
  | cons c cs ih =>
    rw [List.splitOn_cons_eq_if_modifyHead] at h
    obtain ⟨first, rest, hsplit⟩ := List.exists_cons_of_ne_nil (List.splitOn_ne_nil sep cs)
    by_cases hc : (c == sep) = true
    · rw [if_pos hc] at h
      rcases List.mem_cons.mp h with rfl | h
      · exact List.not_mem_nil
      · exact ih h
    · rw [if_neg hc, hsplit, List.modifyHead_cons] at h
      rcases List.mem_cons.mp h with rfl | h
      · have hfirst : sep ∉ first := ih (hsplit ▸ List.mem_cons_self)
        have hne : sep ≠ c := fun heq => hc (beq_iff_eq.mpr heq.symm)
        exact fun hmem => hfirst ((List.mem_cons.mp hmem).resolve_left hne)
      · exact ih (hsplit ▸ List.mem_cons_of_mem _ h)

/-- No part of a split text has the separator. -/
lemma notMem_of_mem_splitText {s part : String} (h : part ∈ splitText sep s) :
    sep ∉ part.toList := by
  obtain ⟨l, hl, rfl⟩ := List.mem_map.mp h
  rw [String.toList_ofList]
  exact notMem_of_mem_splitOn hl

end Split

end TicketGenius
