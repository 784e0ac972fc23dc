import Mathlib.Tactic.Common

/-!
# URL-safe base64

`base64.urlsafe_b64encode` and `base64.urlsafe_b64decode`.  The decoder is as lenient as Python's:
it takes the characters of both alphabets, skips any other, and stops at a padding that completes a
group.  It reads what the encoder has written (`decode_encode`).
-/

namespace TicketGenius.Base64

/-! ## The alphabet -/

/-- The character of a six-bit number. -/
def symbol (n : ℕ) : Char :=
  if n < 26 then Char.ofNat (n + 65)
  else if n < 52 then Char.ofNat (n + 71)
  else if n < 62 then Char.ofNat (n - 4)
  else if n = 62 then '-' else '_'

/-- The number of a character; `+` and `/` stand for `-` and `_`. -/
def value (c : Char) : Option ℕ :=
  if 'A' ≤ c ∧ c ≤ 'Z' then some (c.toNat - 65)
  else if 'a' ≤ c ∧ c ≤ 'z' then some (c.toNat - 71)
  else if '0' ≤ c ∧ c ≤ '9' then some (c.toNat + 4)
  else if c = '-' ∨ c = '+' then some 62
  else if c = '_' ∨ c = '/' then some 63
  else none

lemma value_symbol : ∀ n < 64, value (symbol n) = some n := by decide

lemma symbol_ne_pad : ∀ n < 64, symbol n ≠ '=' := by decide

/-! ## The codec -/

/-- `urlsafe_b64encode` -/
def encode : List UInt8 → List Char
  | [] => []
  | [a] => [symbol (a.toNat / 4), symbol (a.toNat % 4 * 16), '=', '=']
  | [a, b] =>
    [symbol (a.toNat / 4), symbol (a.toNat % 4 * 16 + b.toNat / 16), symbol (b.toNat % 16 * 4), '=']
  | a :: b :: c :: rest =>
    symbol (a.toNat / 4) :: symbol (a.toNat % 4 * 16 + b.toNat / 16) ::
      symbol (b.toNat % 16 * 4 + c.toNat / 64) :: symbol (c.toNat % 64) :: encode rest

/-- The loop of the decoder: its place in a group of four, the bits of the last character that are
still to be used, and the padding seen since. -/
def decodeLoop : ℕ → ℕ → ℕ → List Char → Option (List UInt8)
  | quad, _, _, [] => if quad = 0 then some [] else none
  | quad, left, pads, c :: cs =>
    if c = '=' then
      if quad < 2 then decodeLoop quad left pads cs
      else if 4 ≤ quad + (pads + 1) then some []
      else decodeLoop quad left (pads + 1) cs
    else match value c with
      | none => decodeLoop quad left pads cs
      | some v =>
        match quad with
        | 0 => decodeLoop 1 v 0 cs
        | 1 => (decodeLoop 2 (v % 16) 0 cs).map (UInt8.ofNat (left * 4 + v / 16) :: ·)
        | 2 => (decodeLoop 3 (v % 4) 0 cs).map (UInt8.ofNat (left * 16 + v / 4) :: ·)
        | _ => (decodeLoop 0 0 0 cs).map (UInt8.ofNat (left * 64 + v) :: ·)

/-- `urlsafe_b64decode`; `none` if it raises. -/
def decode (cs : List Char) : Option (List UInt8) := decodeLoop 0 0 0 cs

section Decode

variable {left pads n : ℕ} {cs : List Char}

lemma decodeLoop_zero (hn : n < 64) :
    decodeLoop 0 left pads (symbol n :: cs) = decodeLoop 1 n 0 cs := by
  rw [decodeLoop, if_neg (symbol_ne_pad n hn), value_symbol n hn]
  rfl

lemma decodeLoop_one (hn : n < 64) : decodeLoop 1 left pads (symbol n :: cs) =
    (decodeLoop 2 (n % 16) 0 cs).map (UInt8.ofNat (left * 4 + n / 16) :: ·) := by
  rw [decodeLoop, if_neg (symbol_ne_pad n hn), value_symbol n hn]
  rfl

lemma decodeLoop_two (hn : n < 64) : decodeLoop 2 left pads (symbol n :: cs) =
    (decodeLoop 3 (n % 4) 0 cs).map (UInt8.ofNat (left * 16 + n / 4) :: ·) := by
  rw [decodeLoop, if_neg (symbol_ne_pad n hn), value_symbol n hn]
  rfl

lemma decodeLoop_three (hn : n < 64) : decodeLoop 3 left pads (symbol n :: cs) =
    (decodeLoop 0 0 0 cs).map (UInt8.ofNat (left * 64 + n) :: ·) := by
  rw [decodeLoop, if_neg (symbol_ne_pad n hn), value_symbol n hn]
  rfl

end Decode

/-- A byte is put together from the parts it was taken apart into. -/
lemma ofNat_eq {a : UInt8} {n : ℕ} (h : n = a.toNat) : UInt8.ofNat n = a := by
  rw [h, UInt8.ofNat_toNat]

/-- **What was encoded is decoded.** -/
theorem decode_encode (bytes : List UInt8) : decode (encode bytes) = some bytes := by
  unfold decode
  induction bytes using encode.induct with
  | case1 => rfl
  | case2 a =>
    have ha := a.toNat_lt
    have hfirst : UInt8.ofNat (a.toNat / 4 * 4 + a.toNat % 4 * 16 / 16) = a := ofNat_eq (by omega)
    rw [encode, decodeLoop_zero (by omega), decodeLoop_one (by omega), hfirst]
    rfl
  | case3 a b =>
    have ha := a.toNat_lt
    have hb := b.toNat_lt
    have hfirst : UInt8.ofNat (a.toNat / 4 * 4 + (a.toNat % 4 * 16 + b.toNat / 16) / 16) = a :=
      ofNat_eq (by omega)
    have hsecond : UInt8.ofNat
        ((a.toNat % 4 * 16 + b.toNat / 16) % 16 * 16 + b.toNat % 16 * 4 / 4) = b :=
      ofNat_eq (by omega)
    rw [encode, decodeLoop_zero (by omega), decodeLoop_one (by omega), decodeLoop_two (by omega),
      hfirst, hsecond]
    rfl
  | case4 a b c rest ih =>
    have ha := a.toNat_lt
    have hb := b.toNat_lt
    have hc := c.toNat_lt
    have hfirst : UInt8.ofNat (a.toNat / 4 * 4 + (a.toNat % 4 * 16 + b.toNat / 16) / 16) = a :=
      ofNat_eq (by omega)
    have hsecond : UInt8.ofNat ((a.toNat % 4 * 16 + b.toNat / 16) % 16 * 16 +
        (b.toNat % 16 * 4 + c.toNat / 64) / 4) = b := ofNat_eq (by omega)
    have hthird : UInt8.ofNat ((b.toNat % 16 * 4 + c.toNat / 64) % 4 * 64 + c.toNat % 64) = c :=
      ofNat_eq (by omega)
    rw [encode, decodeLoop_zero (by omega), decodeLoop_one (by omega), decodeLoop_two (by omega),
      decodeLoop_three (by omega), hfirst, hsecond, hthird, ih]
    rfl

lemma encode_ne_nil {bytes : List UInt8} (h : bytes ≠ []) : encode bytes ≠ [] := by
  rcases bytes with _ | ⟨a, _ | ⟨b, _ | ⟨c, rest⟩⟩⟩ <;> simp_all [encode]

/-! ## Texts -/

/-- `urlsafe_b64encode(text.encode()).decode()` -/
def encodeText (text : String) : String := String.ofList (encode text.toByteArray.data.toList)

/-- `urlsafe_b64decode(text.encode()).decode()`; `none` if it raises. -/
def decodeText (text : String) : Option String :=
  (decode text.toList).bind fun bytes => String.fromUTF8? ⟨bytes.toArray⟩

theorem decodeText_encodeText (text : String) : decodeText (encodeText text) = some text := by
  rw [decodeText, encodeText, String.toList_ofList, decode_encode, Option.bind_some]
  exact dif_pos text.isValidUTF8

lemma encodeText_ne_empty {text : String} (h : text ≠ "") : encodeText text ≠ "" := by
  have hbytes : text.toByteArray.data.toList ≠ [] := by
    intro hnil
    refine h (String.toByteArray_inj.mp (ByteArray.ext ?_))
    rw [Array.toList_eq_nil_iff.mp hnil]
    rfl
  intro hempty
  refine encode_ne_nil hbytes ?_
  have hlist := congrArg String.toList hempty
  rwa [encodeText, String.toList_ofList, String.toList_empty] at hlist

end TicketGenius.Base64
