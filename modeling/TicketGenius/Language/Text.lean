import TicketGenius.Language.Python
import Mathlib.Data.List.TakeWhile

/-!
# Texts of the standard library

Conversions between values and texts: `datetime.isoformat()`, `int(text, 16)`, and the constructor
of `uuid.UUID`, which reads the text `str` makes of a UUID back (`UUID.parse_str`).
-/

namespace TicketGenius

/-! ## `datetime.isoformat` -/

/-- A number with leading zeros. -/
def padded (width : ℕ) (n : Int) : String :=
  let digits := toString n.toNat
  "".pushn '0' (width - digits.length) ++ digits

/-- `t.isoformat()`, of an instant in UTC. -/
def DateTime.isoformat (t : DateTime) : String :=
  let seconds := t.micros / 1000000
  let second := seconds % 86400
  let micros := t.micros % 1000000
  -- days since the 1st of March of the year 0, when a cycle of 400 years begins
  let day := seconds / 86400 + 719468
  let dayOfEra := day % 146097
  let yearOfEra := (dayOfEra - dayOfEra / 1460 + dayOfEra / 36524 - dayOfEra / 146096) / 365
  let dayOfYear := dayOfEra - (365 * yearOfEra + yearOfEra / 4 - yearOfEra / 100)
  let month := (5 * dayOfYear + 2) / 153
  let year := yearOfEra + day / 146097 * 400 + (if month < 10 then 0 else 1)
  padded 4 year ++ "-" ++ padded 2 (if month < 10 then month + 3 else month - 9) ++ "-" ++
    padded 2 (dayOfYear - (153 * month + 2) / 5 + 1) ++ "T" ++
    padded 2 (second / 3600) ++ ":" ++ padded 2 (second / 60 % 60) ++ ":" ++
    padded 2 (second % 60) ++ (if micros = 0 then "" else "." ++ padded 6 micros) ++ "+00:00"

/-! ## `int` -/

/-- The zeros of Unicode's decimal digits; each is followed by the other nine. -/
def decimalZeros : List ℕ :=
  [0x30, 0x660, 0x6F0, 0x7C0, 0x966, 0x9E6, 0xA66, 0xAE6, 0xB66, 0xBE6, 0xC66, 0xCE6, 0xD66, 0xDE6,
    0xE50, 0xED0, 0xF20, 0x1040, 0x1090, 0x17E0, 0x1810, 0x1946, 0x19D0, 0x1A80, 0x1A90, 0x1B50,
    0x1BB0, 0x1C40, 0x1C50, 0xA620, 0xA8D0, 0xA900, 0xA9D0, 0xA9F0, 0xAA50, 0xABF0, 0xFF10, 0x104A0,
    0x10D30, 0x10D40, 0x11066, 0x110F0, 0x11136, 0x111D0, 0x112F0, 0x11450, 0x114D0, 0x11650,
    0x116C0, 0x116D0, 0x116DA, 0x11730, 0x118E0, 0x11950, 0x11BF0, 0x11C50, 0x11D50, 0x11DA0,
    0x11F50, 0x16130, 0x16A60, 0x16AC0, 0x16B50, 0x16D70, 0x1CCF0, 0x1D7CE, 0x1D7D8, 0x1D7E2,
    0x1D7EC, 0x1D7F6, 0x1E140, 0x1E2F0, 0x1E4F0, 0x1E5F1, 0x1E950, 0x1FBF0]

/-- The ASCII character `int` reads in place of another one: a digit for a decimal digit, a space
for white space, and one that it refuses for the rest. -/
def asciiOf (c : Char) : Char :=
  if c.toNat < 127 then c
  else if isPySpace c then ' '
  else
    match decimalZeros.find? fun first => first ≤ c.toNat && c.toNat < first + 10 with
    | some first => Char.ofNat (c.toNat - first + 48)
    | none => '?'

/-- C's `isspace`. -/
def isAsciiSpace (c : Char) : Bool := c == ' ' || (9 ≤ c.toNat && c.toNat ≤ 13)

/-- The character is a digit to the base 16. -/
def isBase16 (c : Char) : Bool :=
  ('0' ≤ c && c ≤ '9') || ('a' ≤ c && c ≤ 'f') || ('A' ≤ c && c ≤ 'F')

/-- The text behind an optional sign. -/
def afterSign : List Char → List Char
  | '+' :: cs => cs
  | cs => cs

/-- The text behind an optional `0x`, which one underscore may follow. -/
def afterPrefix : List Char → List Char
  | '0' :: x :: '_' :: cs => if x = 'x' ∨ x = 'X' then cs else '0' :: x :: '_' :: cs
  | '0' :: x :: cs => if x = 'x' ∨ x = 'X' then cs else '0' :: x :: cs
  | cs => cs

/-- `int(text, 16)` for a text without a minus, given by its digits; `none` if it raises.  Single
underscores may stand between digits, and white space around the number. -/
def intHex (text : List Char) : Option (List Char) :=
  let text := (text.map asciiOf).dropWhile isAsciiSpace
  let text := afterPrefix (afterSign text)
  let number := text.takeWhile fun c => isBase16 c || c == '_'
  let rest := text.dropWhile fun c => isBase16 c || c == '_'
  if rest.all isAsciiSpace && (number.splitOn '_').all (· ≠ []) then
    some ((number.filter (· != '_')).map Char.toLower)
  else none

/-! ## `uuid.UUID` -/

/-- `s.replace(old, "")`; the number counts the characters of an occurrence still to be skipped. -/
def removeText (old : List Char) : ℕ → List Char → List Char
  | _, [] => []
  | n + 1, _ :: cs => removeText old n cs
  | 0, c :: cs =>
    if old.isPrefixOf (c :: cs) then removeText old (old.length - 1) cs
    else c :: removeText old 0 cs

/-- Digits in groups of 8, 4, 4, 4 and the rest. -/
def groupDigits (digits : List Char) : List Char :=
  digits.take 8 ++ '-' :: ((digits.drop 8).take 4 ++ '-' :: ((digits.drop 12).take 4 ++
    '-' :: ((digits.drop 16).take 4 ++ '-' :: digits.drop 20)))

/-- The character is a brace. -/
def isBrace (c : Char) : Bool := c == '\x7b' || c == '\x7d'

/-- What `UUID(hex)` keeps of a text: no `urn:` and `uuid:`, braces around or dashes. -/
def uuidText (text : List Char) : List Char :=
  let text := removeText ['u', 'u', 'i', 'd', ':'] 0 (removeText ['u', 'r', 'n', ':'] 0 text)
  (((text.dropWhile isBrace).reverse.dropWhile isBrace).reverse).filter (· != '-')

/-- `UUID(hex)`; `none` if it raises. -/
def UUID.parse (hex : String) : Option UUID :=
  let text := uuidText hex.toList
  if text.length = 32 then
    match intHex text with
    | none => none
    | some digits =>
      let digits := List.replicate (32 - digits.length) '0' ++ digits
      if h : isCanonicalUuid (String.ofList (groupDigits digits)) = true then some ⟨_, h⟩ else none
  else none

/-- A digit of a canonical text. -/
def IsHexDigit (c : Char) : Prop := ('0' ≤ c ∧ c ≤ '9') ∨ ('a' ≤ c ∧ c ≤ 'f')

instance (c : Char) : Decidable (IsHexDigit c) :=
  inferInstanceAs (Decidable (_ ∨ _))

section Digits

variable {c : Char}

lemma IsHexDigit.ne {d : Char} (h : IsHexDigit c) (hd : ¬ IsHexDigit d) : c ≠ d := by
  rintro rfl
  exact hd h

lemma IsHexDigit.ne_dash (h : IsHexDigit c) : c ≠ '-' := h.ne (by decide)

lemma IsHexDigit.not_brace (h : IsHexDigit c) : isBrace c = false := by
  rw [isBrace, Bool.or_eq_false_iff, beq_eq_false_iff_ne, beq_eq_false_iff_ne]
  exact ⟨h.ne (by decide), h.ne (by decide)⟩

lemma IsHexDigit.toNat_bounds (h : IsHexDigit c) : 48 ≤ c.toNat ∧ c.toNat ≤ 102 := by
  simp only [IsHexDigit, Char.le_def, UInt32.le_iff_toNat_le] at h
  rcases h with ⟨h0, h9⟩ | ⟨ha, hf⟩
  · exact ⟨h0, Nat.le_trans h9 (by decide)⟩
  · exact ⟨Nat.le_trans (by decide) ha, hf⟩

lemma IsHexDigit.asciiOf (h : IsHexDigit c) : asciiOf c = c :=
  if_pos (by have := h.toNat_bounds; omega)

lemma IsHexDigit.not_space (h : IsHexDigit c) : isAsciiSpace c = false := by
  have hbounds := h.toNat_bounds
  have hspace : (c == ' ') = false := beq_eq_false_iff_ne.mpr (h.ne (by decide))
  rw [isAsciiSpace, hspace, Bool.false_or, Bool.and_eq_false_iff, decide_eq_false_iff_not,
    decide_eq_false_iff_not]
  omega

lemma IsHexDigit.isBase16 (h : IsHexDigit c) : isBase16 c = true := by
  rw [TicketGenius.isBase16, Bool.or_eq_true, Bool.or_eq_true]
  refine .inl ?_
  simpa [IsHexDigit] using h

lemma IsHexDigit.toLower (h : IsHexDigit c) : c.toLower = c := by
  unfold Char.toLower
  refine dif_neg ?_
  rintro ⟨hA, hZ⟩
  simp only [IsHexDigit, Char.le_def, UInt32.le_iff_toNat_le, ge_iff_le] at h hA hZ
  rcases h with ⟨-, h9⟩ | ⟨ha, -⟩
  · exact absurd (Nat.le_trans hA h9) (by decide)
  · exact absurd (Nat.le_trans ha hZ) (by decide)

end Digits

/-! ### Reading a canonical text -/

section Canonical

variable {l : List Char}

lemma removeText_eq_self {a : Char} {old : List Char} (h : a ∉ l) :
    removeText (a :: old) 0 l = l := by
  induction l with
  | nil => simp [removeText]
  | cons c cs ih =>
    rw [List.mem_cons, not_or] at h
    have hne : (a == c) = false := by simpa using h.1
    simp [removeText, List.isPrefixOf, hne, ih h.2]

lemma dropWhile_eq_self {p : Char → Bool} (h : ∀ c ∈ l, p c = false) : l.dropWhile p = l := by
  cases l with
  | nil => rfl
  | cons c cs => rw [List.dropWhile_cons_of_neg (by simp [h c List.mem_cons_self])]

lemma afterPrefix_eq_self (h : ∀ c ∈ l, IsHexDigit c) : afterPrefix l = l := by
  have hx : ∀ c ∈ l, ¬ (c = 'x' ∨ c = 'X') := by
    intro c hc
    exact not_or.mpr ⟨(h c hc).ne (by decide), (h c hc).ne (by decide)⟩
  unfold afterPrefix
  split
  · exact if_neg (hx _ (by simp))
  · exact if_neg (hx _ (by simp))
  · rfl

/-- Digits are read as they stand. -/
lemma intHex_eq_some (h : ∀ c ∈ l, IsHexDigit c) (hne : l ≠ []) : intHex l = some l := by
  have hascii : l.map asciiOf = l :=
    (List.map_congr_left fun c hc => (h c hc).asciiOf).trans (List.map_id _)
  have hspace : l.dropWhile isAsciiSpace = l := dropWhile_eq_self fun c hc => (h c hc).not_space
  have hsign : afterSign l = l := by
    unfold afterSign
    split
    · next cs hcons => exact absurd rfl ((h '+' List.mem_cons_self).ne (by decide))
    · rfl
  have hnumber : ∀ c ∈ l, (isBase16 c || c == '_') = true := fun c hc => by simp [(h c hc).isBase16]
  have hunderscore : ∀ c ∈ l, (c == '_') = false := fun c hc =>
    beq_eq_false_iff_ne.mpr ((h c hc).ne (by decide))
  have hsplit : l.splitOn '_' = [l] := List.splitOnP_eq_singleton hunderscore
  have hfilter : l.filter (· != '_') = l :=
    List.filter_eq_self.mpr fun c hc => by rw [bne, hunderscore c hc]; rfl
  have hlower : l.map Char.toLower = l :=
    (List.map_congr_left fun c hc => (h c hc).toLower).trans (List.map_id _)
  simp only [intHex, hascii, hspace, hsign, afterPrefix_eq_self h,
    List.takeWhile_eq_self_iff.mpr hnumber, List.dropWhile_eq_nil_iff.mpr hnumber, hsplit, hfilter,
    hlower]
  simp [hne]

/-- The text of digits and dashes without its dashes. -/
lemma uuidText_eq_filter (h : ∀ c ∈ l, c = '-' ∨ IsHexDigit c) :
    uuidText l = l.filter (· != '-') := by
  have hu : 'u' ∉ l := by
    intro hmem
    rcases h 'u' hmem with hdash | hdigit
    · exact absurd hdash (by decide)
    · exact hdigit.ne (by decide) rfl
  have hbrace : ∀ c ∈ l, isBrace c = false := by
    intro c hc
    rcases h c hc with rfl | hdigit
    · decide
    · exact hdigit.not_brace
  have hreverse : ∀ c ∈ l.reverse, isBrace c = false := fun c hc =>
    hbrace c (List.mem_reverse.mp hc)
  rw [uuidText, removeText_eq_self hu, removeText_eq_self hu, dropWhile_eq_self hbrace,
    dropWhile_eq_self hreverse, List.reverse_reverse]

lemma groupDigits_append {a b c d e : List Char} (ha : a.length = 8) (hb : b.length = 4)
    (hc : c.length = 4) (hd : d.length = 4) :
    groupDigits (a ++ (b ++ (c ++ (d ++ e)))) =
      a ++ '-' :: (b ++ '-' :: (c ++ '-' :: (d ++ '-' :: e))) := by
  simp [groupDigits, List.drop_append, List.drop_of_length_le, ha, hb, hc, hd]

/-- What the check of a canonical text says of one character. -/
lemma canonical_at (h : isCanonicalUuid (String.ofList l) = true) {i : ℕ} {c : Char}
    (hc : l[i]? = some c) :
    if i = 8 ∨ i = 13 ∨ i = 18 ∨ i = 23 then c = '-' else IsHexDigit c := by
  rw [isCanonicalUuid, String.toList_ofList, Bool.and_eq_true] at h
  have hi := List.all_eq_true.mp h.2 (c, i) (List.mem_zipIdx_iff_getElem?.mpr hc)
  simp only at hi
  split at hi
  · next hdash => rw [if_pos hdash]; simpa using hi
  · next hdash => rw [if_neg hdash]; simpa [IsHexDigit] using hi

lemma canonical_length (h : isCanonicalUuid (String.ofList l) = true) : l.length = 36 := by
  rw [isCanonicalUuid, String.toList_ofList, Bool.and_eq_true] at h
  simpa using h.1

/-- The places of the dashes. -/
lemma canonical_dash (h : isCanonicalUuid (String.ofList l) = true) {i : ℕ}
    (hi : i = 8 ∨ i = 13 ∨ i = 18 ∨ i = 23) : l.drop i = '-' :: l.drop (i + 1) := by
  have hlength := canonical_length h
  have hlt : i < l.length := by omega
  have hat := canonical_at h (List.getElem?_eq_getElem hlt)
  rw [if_pos hi] at hat
  rw [List.drop_eq_getElem_cons hlt, hat]

/-- Between them there are digits. -/
lemma canonical_digits (h : isCanonicalUuid (String.ofList l) = true) (i n : ℕ)
    (hfree : ∀ k < n, ¬ (i + k = 8 ∨ i + k = 13 ∨ i + k = 18 ∨ i + k = 23)) :
    ∀ c ∈ (l.drop i).take n, IsHexDigit c := by
  intro c hc
  obtain ⟨k, hk⟩ := List.mem_iff_getElem?.mp hc
  rw [List.getElem?_take] at hk
  split at hk
  · next hlt =>
    rw [List.getElem?_drop] at hk
    simpa [hfree k hlt] using canonical_at h hk
  · cases hk

/-- A canonical text is its five groups with dashes between them. -/
lemma canonical_split (h : isCanonicalUuid (String.ofList l) = true) :
    l = l.take 8 ++ '-' :: ((l.drop 9).take 4 ++ '-' :: ((l.drop 14).take 4 ++
      '-' :: ((l.drop 19).take 4 ++ '-' :: l.drop 24))) := by
  have hgroup : ∀ i, l.drop i = (l.drop i).take 4 ++ l.drop (i + 4) := by
    intro i
    rw [← List.drop_drop, List.take_append_drop]
  rw [← canonical_dash h (i := 23) (by omega), ← hgroup 19,
    ← canonical_dash h (i := 18) (by omega), ← hgroup 14,
    ← canonical_dash h (i := 13) (by omega), ← hgroup 9,
    ← canonical_dash h (i := 8) (by omega), List.take_append_drop]

/-- A canonical text is five groups of digits with dashes between them. -/
lemma canonical_groups (h : isCanonicalUuid (String.ofList l) = true) :
    (∀ c ∈ l, c = '-' ∨ IsHexDigit c) ∧ (l.filter (· != '-')).length = 32 ∧
      groupDigits (l.filter (· != '-')) = l := by
  have hlength := canonical_length h
  have hsplit := canonical_split h
  have ha : ∀ c ∈ l.take 8, IsHexDigit c := canonical_digits h 0 8 (by omega)
  have hb := canonical_digits h 9 4 (by omega)
  have hc := canonical_digits h 14 4 (by omega)
  have hd := canonical_digits h 19 4 (by omega)
  have he : ∀ c ∈ l.drop 24, IsHexDigit c := by
    have hrest := canonical_digits h 24 12 (by omega)
    rwa [List.take_of_length_le (by simp [hlength])] at hrest
  have hfilter : l.filter (· != '-') = l.take 8 ++ ((l.drop 9).take 4 ++ ((l.drop 14).take 4 ++
      ((l.drop 19).take 4 ++ l.drop 24))) := by
    have hself : ∀ {g : List Char}, (∀ c ∈ g, IsHexDigit c) → g.filter (· != '-') = g := by
      intro g hg
      exact List.filter_eq_self.mpr fun c hc => by simpa using (hg c hc).ne_dash
    conv_lhs => rw [hsplit]
    simp [List.filter_append, hself ha, hself hb, hself hc, hself hd, hself he]
  refine ⟨fun c hc => ?_, ?_, ?_⟩
  · obtain ⟨i, hi⟩ := List.mem_iff_getElem?.mp hc
    have hat := canonical_at h hi
    split at hat
    · exact .inl hat
    · exact .inr hat
  · simp [hfilter, hlength]
  · rw [hfilter, groupDigits_append (by simp [hlength]) (by simp [hlength]) (by simp [hlength])
      (by simp [hlength]), ← hsplit]

/-- **`UUID(str(u)) == u`.** -/
lemma UUID.parse_str (u : UUID) : UUID.parse u.str = some u := by
  obtain ⟨s, hs⟩ := u
  obtain ⟨l, rfl⟩ : ∃ l, s = String.ofList l := ⟨s.toList, String.ofList_toList.symm⟩
  obtain ⟨hchars, hlength, hgroups⟩ := canonical_groups hs
  have hdigits : ∀ c ∈ l.filter (· != '-'), IsHexDigit c := by
    intro c hc
    obtain ⟨hmem, hdash⟩ := List.mem_filter.mp hc
    exact (hchars c hmem).resolve_left (by simpa using hdash)
  have hne : l.filter (· != '-') ≠ [] := List.ne_nil_of_length_eq_add_one hlength
  simp only [parse, String.toList_ofList, uuidText_eq_filter hchars, hlength, if_true,
    intHex_eq_some hdigits hne, Nat.sub_self, List.replicate_zero, List.nil_append, hgroups, hs,
    dif_pos]

end Canonical

end TicketGenius
