import TicketGenius.Framework.PrefixCode
import TicketGenius.Language.Split

/-!
# `urllib.parse.urlencode`

`quote_plus` writes a text byte by byte in UTF-8: unreserved characters as they are, a space as
`+`, and every other byte as `%` with two hexadecimal digits.  `urlencode` joins names and values
by `=` and the pairs by `&`, which `quote_plus` never writes.

Nothing is lost: `urlencode_inj`.
-/

namespace TicketGenius

open Framework

/-! ## Bytes -/

/-- `s.encode()` -/
def utf8 (s : String) : List UInt8 := s.toByteArray.data.toList

lemma utf8_injective : Function.Injective utf8 := by
  intro s t h
  exact String.toByteArray_inj.mp (ByteArray.ext (Array.toList_inj.mp h))

/-- A hexadecimal digit, in upper case. -/
def hexDigit (n : ℕ) : Char := Char.ofNat (if n < 10 then 48 + n else 55 + n)

/-- Letters, digits and `_.-~`. -/
def isUnreserved (b : UInt8) : Bool :=
  let n := b.toNat
  (48 ≤ n && n ≤ 57) || (65 ≤ n && n ≤ 90) || (97 ≤ n && n ≤ 122) || n == 95 || n == 46 ||
    n == 45 || n == 126

/-- What `quote_plus` writes for a byte. -/
def quoteByte (b : UInt8) : List Char :=
  if b = 32 then ['+']
  else if isUnreserved b then [Char.ofNat b.toNat]
  else ['%', hexDigit (b.toNat / 16), hexDigit (b.toNat % 16)]

/-- `quote_plus(s)` -/
def quotePlus (s : String) : String := String.ofList ((utf8 s).flatMap quoteByte)

/-- `k + "=" + v`, both quoted. -/
def quotePair (pair : String × String) : String := quotePlus pair.1 ++ "=" ++ quotePlus pair.2

/-- `urlencode(query)`, for names and values that are texts. -/
def urlencode (query : List (String × String)) : String := joinText '&' (query.map quotePair)

/-! ## Reading a byte back -/

/-- The value of a hexadecimal digit. -/
def hexValue (c : Char) : ℕ := if c.toNat < 58 then c.toNat - 48 else c.toNat - 55

/-- The first byte of a quoted text. -/
def readByte : List Char → Option UInt8
  | '+' :: _ => some 32
  | '%' :: high :: low :: _ => some (UInt8.ofNat (hexValue high * 16 + hexValue low))
  | c :: _ => some (UInt8.ofNat c.toNat)
  | [] => none

lemma hexValue_hexDigit {n : ℕ} (hn : n < 16) : hexValue (hexDigit n) = n := by
  revert n
  decide

/-- A byte is the code of a character. -/
lemma toNat_ofNat_byte (b : UInt8) : (Char.ofNat b.toNat).toNat = b.toNat := by
  have hvalid : b.toNat.isValidChar := .inl (by have hlt := b.toNat_lt; omega)
  rw [Char.ofNat, dif_pos hvalid]
  rfl

/-- An unreserved byte is written as none of the other characters. -/
lemma unreserved_ne {b : UInt8} (h : isUnreserved b = true) {c : Char}
    (hc : isUnreserved (UInt8.ofNat c.toNat) = false) : Char.ofNat b.toNat ≠ c := by
  rintro rfl
  rw [toNat_ofNat_byte, UInt8.ofNat_toNat, h] at hc
  cases hc

lemma readByte_quoteByte (b : UInt8) (x : List Char) : readByte (quoteByte b ++ x) = some b := by
  unfold quoteByte
  split
  · next hspace =>
    rw [hspace]
    rfl
  · split
    · next hunreserved =>
      unfold readByte
      split
      · next heq => exact absurd (List.cons.inj heq).1 (unreserved_ne hunreserved (by decide))
      · next heq => exact absurd (List.cons.inj heq).1 (unreserved_ne hunreserved (by decide))
      · next heq => rw [← (List.cons.inj heq).1, toNat_ofNat_byte, UInt8.ofNat_toNat]
      · next heq => cases heq
    · have hhigh : b.toNat / 16 < 16 := by
        have hlt := b.toNat_lt
        omega
      have hlow : b.toNat % 16 < 16 := by omega
      show some (UInt8.ofNat (hexValue (hexDigit (b.toNat / 16)) * 16 +
        hexValue (hexDigit (b.toNat % 16)))) = some b
      have hsum : b.toNat / 16 * 16 + b.toNat % 16 = b.toNat := by omega
      rw [hexValue_hexDigit hhigh, hexValue_hexDigit hlow, hsum, UInt8.ofNat_toNat]

lemma quoteByte_ne_nil (b : UInt8) : quoteByte b ≠ [] := by
  intro hnil
  have hread := readByte_quoteByte b []
  rw [hnil] at hread
  cases hread

lemma quotePlus_injective : Function.Injective quotePlus := by
  intro s t h
  have hcode : PrefixFree quoteByte := .of_read readByte_quoteByte
  exact utf8_injective (hcode.flatMap_injective quoteByte_ne_nil (String.ofList_injective h))

/-! ## Separators -/

/-- The characters with a meaning between quoted texts. -/
def separators : List Char := ['&', '=', ':']

lemma hexDigit_notMem {n : ℕ} (hn : n < 16) : hexDigit n ∉ separators := by
  revert n
  decide

lemma unreserved_notMem {b : UInt8} (h : isUnreserved b = true) :
    Char.ofNat b.toNat ∉ separators := by
  intro hmem
  simp only [separators, List.mem_cons, List.not_mem_nil, or_false] at hmem
  rcases hmem with hc | hc | hc
  · exact unreserved_ne h (by decide) hc
  · exact unreserved_ne h (by decide) hc
  · exact unreserved_ne h (by decide) hc

lemma notMem_quoteByte (b : UInt8) : ∀ c ∈ quoteByte b, c ∉ separators := by
  unfold quoteByte
  split
  · rw [List.forall_mem_singleton]
    decide
  · split
    · next hunreserved =>
      rw [List.forall_mem_singleton]
      exact unreserved_notMem hunreserved
    · have hlt := b.toNat_lt
      simp only [List.forall_mem_cons]
      exact ⟨by decide, hexDigit_notMem (by omega), hexDigit_notMem (by omega), by simp⟩

/-- `quote_plus` writes no separator. -/
lemma notMem_quotePlus {s : String} {c : Char} (hc : c ∈ separators) :
    c ∉ (quotePlus s).toList := by
  rw [quotePlus, String.toList_ofList, List.mem_flatMap]
  rintro ⟨b, -, hmem⟩
  exact notMem_quoteByte b c hmem hc

/-! ## Pairs -/

lemma quotePair_eq_joinText (pair : String × String) :
    quotePair pair = joinText '=' [quotePlus pair.1, quotePlus pair.2] := by
  rw [← String.toList_inj]
  simp [quotePair, joinText, List.intercalate]

lemma quotePair_injective : Function.Injective quotePair := by
  have hfree : ∀ pair : String × String, ∀ part ∈ [quotePlus pair.1, quotePlus pair.2],
      '=' ∉ part.toList := by
    intro pair part hpart
    simp only [List.mem_cons, List.not_mem_nil, or_false] at hpart
    rcases hpart with rfl | rfl
    · exact notMem_quotePlus (by decide)
    · exact notMem_quotePlus (by decide)
  intro pair pair' h
  rw [quotePair_eq_joinText, quotePair_eq_joinText, joinText_inj (hfree _) (hfree _)
    (List.cons_ne_nil _ _) (List.cons_ne_nil _ _), List.cons.injEq, List.cons.injEq] at h
  obtain ⟨hname, hvalue, -⟩ := h
  exact Prod.ext (quotePlus_injective hname) (quotePlus_injective hvalue)

/-- A quoted pair has no separator but its own. -/
lemma notMem_quotePair {pair : String × String} {c : Char} (hc : c ∈ separators) (hne : c ≠ '=') :
    c ∉ (quotePair pair).toList := by
  have hsign : "=".toList = ['='] := rfl
  simp [quotePair, hsign, notMem_quotePlus hc, hne]

lemma notMem_urlencode (query : List (String × String)) : ':' ∉ (urlencode query).toList := by
  have hparts : ∀ part ∈ query.map quotePair, ':' ∉ part.toList := by
    intro part hpart
    obtain ⟨pair, -, rfl⟩ := List.mem_map.mp hpart
    exact notMem_quotePair (by decide) (by decide)
  exact notMem_joinText (by decide) hparts

/-- **An encoded query determines the query.** -/
theorem urlencode_inj {query query' : List (String × String)} :
    urlencode query = urlencode query' ↔ query = query' := by
  have hparts : ∀ q : List (String × String), ∀ part ∈ q.map quotePair, '&' ∉ part.toList := by
    intro q part hpart
    obtain ⟨pair, -, rfl⟩ := List.mem_map.mp hpart
    exact notMem_quotePair (by decide) (by decide)
  have hempty : ∀ pair (q : List (String × String)), urlencode [] ≠ urlencode (pair :: q) := by
    intro pair q h
    have hsplit : splitText '&' (urlencode []) = (pair :: q).map quotePair := by
      rw [h, urlencode]
      exact splitText_joinText (hparts _) (List.cons_ne_nil _ _)
    have hsign : '=' ∈ (quotePair pair).toList := by simp [quotePair]
    have hpart : quotePair pair ∈ splitText '&' (urlencode []) := by
      rw [hsplit]
      exact List.mem_cons_self
    have hnone : splitText '&' (urlencode []) = [""] := by decide
    rw [hnone, List.mem_singleton] at hpart
    rw [hpart] at hsign
    revert hsign
    decide
  constructor
  · intro h
    cases query with
    | nil =>
      cases query' with
      | nil => rfl
      | cons pair' query' => exact absurd h (hempty pair' query')
    | cons pair query =>
      cases query' with
      | nil => exact absurd h.symm (hempty pair query)
      | cons pair' query' =>
        rw [urlencode, urlencode, joinText_inj (hparts _) (hparts _) (by simp) (by simp)] at h
        exact (List.map_inj_right fun _ _ hpair => quotePair_injective hpair).mp h
  · rintro rfl
    rfl

example : urlencode [("keyword", "rock & roll"), ("page", "0")] =
    "keyword=rock+%26+roll&page=0" := by decide +kernel

end TicketGenius
