import Centaeris.Foundation.Text

namespace Foundation.Base64

open Option

/-!
# URL-safe Base64 without padding
-/

/-- The URL-safe alphabet. -/
def alphabet : List Char :=
  "ABCDEFGHIJKLMNOPQRSTUVWXYZabcdefghijklmnopqrstuvwxyz0123456789-_".toList

/-- The character of a six-bit value. -/
def digit (n : Nat) : Char := alphabet.getD n 'A'

/-- The six-bit value of a character of the alphabet. -/
def digitValue? (c : Char) : Option Nat :=
  let n := alphabet.idxOf c
  if n < 64 then some n else none

/-- Three bytes become four characters; one or two last bytes become two or three. -/
def encode : List UInt8 → List Char
  | a :: b :: c :: rest =>
    digit (a.toNat / 4) :: digit (a.toNat % 4 * 16 + b.toNat / 16) ::
      digit (b.toNat % 16 * 4 + c.toNat / 64) :: digit (c.toNat % 64) :: encode rest
  | [a, b] =>
    [digit (a.toNat / 4), digit (a.toNat % 4 * 16 + b.toNat / 16), digit (b.toNat % 16 * 4)]
  | [a] => [digit (a.toNat / 4), digit (a.toNat % 4 * 16)]
  | [] => []

/-- The bytes of a text; the unused bits of its last character must be zero. -/
def decode : List Char → Option (List UInt8)
  | w :: x :: y :: z :: rest => do
    let w ← digitValue? w
    let x ← digitValue? x
    let y ← digitValue? y
    let z ← digitValue? z
    let tail ← decode rest
    pure (UInt8.ofNat (w * 4 + x / 16) :: UInt8.ofNat (x % 16 * 16 + y / 4) ::
      UInt8.ofNat (y % 4 * 64 + z) :: tail)
  | [w, x, y] => do
    let w ← digitValue? w
    let x ← digitValue? x
    let y ← digitValue? y
    if y % 4 = 0 then
      pure [UInt8.ofNat (w * 4 + x / 16), UInt8.ofNat (x % 16 * 16 + y / 4)]
    else none
  | [w, x] => do
    let w ← digitValue? w
    let x ← digitValue? x
    if x % 16 = 0 then pure [UInt8.ofNat (w * 4 + x / 16)] else none
  | [_] => none
  | [] => some []

/-- Every character of the alphabet reads back as its value and is not white space. -/
theorem digit_facts : ∀ n, n < 64 → digitValue? (digit n) = some n ∧ isSpace (digit n) = false := by
  decide +kernel

theorem digitValue?_digit {n : Nat} (h : n < 64) : digitValue? (digit n) = some n :=
  (digit_facts n h).1

/-- A byte is rebuilt from its value. -/
private theorem ofNat_eq {a : UInt8} {n : Nat} (h : n = a.toNat) : UInt8.ofNat n = a := by
  rw [h, UInt8.ofNat_toNat]

/-- Decoding inverts encoding. -/
theorem decode_encode (bytes : List UInt8) : decode (encode bytes) = some bytes := by
  induction bytes using encode.induct with
  | case1 a b c rest ih =>
    have ha := a.toNat_lt
    have hb := b.toNat_lt
    have hc := c.toNat_lt
    rw [encode, decode, digitValue?_digit (by omega), digitValue?_digit (by omega),
      digitValue?_digit (by omega), digitValue?_digit (by omega), ih]
    have h₁ : UInt8.ofNat (a.toNat / 4 * 4 + (a.toNat % 4 * 16 + b.toNat / 16) / 16) = a :=
      ofNat_eq (by omega)
    have h₂ : UInt8.ofNat ((a.toNat % 4 * 16 + b.toNat / 16) % 16 * 16 +
        (b.toNat % 16 * 4 + c.toNat / 64) / 4) = b := ofNat_eq (by omega)
    have h₃ : UInt8.ofNat ((b.toNat % 16 * 4 + c.toNat / 64) % 4 * 64 + c.toNat % 64) = c :=
      ofNat_eq (by omega)
    simp only [bind_eq_bind, bind_some, pure_def, h₁, h₂, h₃]
  | case2 a b =>
    have ha := a.toNat_lt
    have hb := b.toNat_lt
    rw [encode, decode, digitValue?_digit (by omega), digitValue?_digit (by omega),
      digitValue?_digit (by omega)]
    have h₁ : UInt8.ofNat (a.toNat / 4 * 4 + (a.toNat % 4 * 16 + b.toNat / 16) / 16) = a :=
      ofNat_eq (by omega)
    have h₂ : UInt8.ofNat ((a.toNat % 4 * 16 + b.toNat / 16) % 16 * 16 +
        b.toNat % 16 * 4 / 4) = b := ofNat_eq (by omega)
    have hbits : b.toNat % 16 * 4 % 4 = 0 := by omega
    simp only [bind_eq_bind, bind_some, pure_def, if_pos hbits, h₁, h₂]
  | case3 a =>
    have ha := a.toNat_lt
    rw [encode, decode, digitValue?_digit (by omega), digitValue?_digit (by omega)]
    have h₁ : UInt8.ofNat (a.toNat / 4 * 4 + a.toNat % 4 * 16 / 16) = a := ofNat_eq (by omega)
    have hbits : a.toNat % 4 * 16 % 16 = 0 := by omega
    simp only [bind_eq_bind, bind_some, pure_def, if_pos hbits, h₁]
  | case4 => rfl

/-- The text of at least one byte starts with a character that is not white space. -/
theorem encode_not_blank {bytes : List UInt8} (h : bytes ≠ []) :
    isBlank (String.ofList (encode bytes)) = false := by
  have hfst : ∃ a rest, encode bytes = digit (UInt8.toNat a / 4) :: rest := by
    match bytes with
    | a :: b :: c :: tail => exact ⟨a, _, by rw [encode]⟩
    | [a, b] => exact ⟨a, _, by rw [encode]⟩
    | [a] => exact ⟨a, _, by rw [encode]⟩
    | [] => exact absurd rfl h
  obtain ⟨a, rest, heq⟩ := hfst
  have hlt : a.toNat / 4 < 64 := by
    have := a.toNat_lt
    omega
  simp [isBlank, heq, (digit_facts _ hlt).2]

end Foundation.Base64
