import Centaeris.Foundation.Json

namespace Foundation.Json

open List

/-!
# Reading canonical JSON text

Readers for the pieces of a compact JSON text, each with the law that it reads back what
was written, whatever follows.
-/

/-- Reads a fixed text. -/
def readLiteral (literal input : List Char) : Option (List Char) :=
  if literal.isPrefixOf input then some (input.drop literal.length) else none

theorem readLiteral_append (literal rest : List Char) :
    readLiteral literal (literal ++ rest) = some rest := by
  simp [readLiteral]

/-- The value of a hexadecimal digit in lower case. -/
def hexValue? (c : Char) : Option Nat :=
  if c.isDigit then some (c.toNat - 48)
  else if 97 ≤ c.toNat ∧ c.toNat ≤ 102 then some (c.toNat - 87)
  else none

/-- The character that stands after a backslash for a code. -/
def shortEscape? (c : Char) : Option Nat :=
  if c = '"' then some 34 else if c = '\\' then some 92 else if c = 'b' then some 8
  else if c = 'f' then some 12 else if c = 'n' then some 10 else if c = 'r' then some 13
  else if c = 't' then some 9 else none

/-- Puts a character before what was read. -/
def prepend (c : Char) (read : Option (List Char × List Char)) : Option (List Char × List Char) :=
  read.map fun (body, rest) => (c :: body, rest)

/-- Reads the rest of a string literal after its opening quotation mark. -/
def readStringBody : List Char → Option (List Char × List Char)
  | [] => none
  | '"' :: rest => some ([], rest)
  | '\\' :: 'u' :: '0' :: '0' :: high :: low :: rest =>
    match hexValue? high, hexValue? low with
    | some high, some low => prepend (Char.ofNat (16 * high + low)) (readStringBody rest)
    | _, _ => none
  | '\\' :: c :: rest =>
    match shortEscape? c with
    | some code => prepend (Char.ofNat code) (readStringBody rest)
    | none => none
  | c :: rest => prepend c (readStringBody rest)

/-- A string literal (`readString_renderString`). -/
def readString : List Char → Option (String × List Char)
  | '"' :: rest => (readStringBody rest).map fun (body, rest) => (String.ofList body, rest)
  | _ => none

private theorem hexValue?_hexDigit : ∀ n, n < 16 → hexValue? (hexDigit n) = some n := by
  decide

variable {c : Char}

private theorem readStringBody_short {code : Nat} (h : shortEscape? c = some code)
    (rest : List Char) :
    readStringBody ('\\' :: c :: rest) = prepend (Char.ofNat code) (readStringBody rest) := by
  have hu : c ≠ 'u' := by
    rintro rfl
    simp [shortEscape?] at h
  rw [readStringBody.eq_def]
  simp_all

theorem readStringBody_escapeChar (c : Char) (rest : List Char) :
    readStringBody (escapeChar c ++ rest) = prepend c (readStringBody rest) := by
  have hcode : ∀ n, c.toNat = n → Char.ofNat n = c := by
    rintro _ rfl
    exact Char.ofNat_toNat c
  unfold escapeChar
  split_ifs with hquote hback hb hf hn hr ht hctl
  · rw [← hcode 34 (by rw [hquote]; rfl)]
    exact readStringBody_short rfl rest
  · rw [← hcode 92 (by rw [hback]; rfl)]
    exact readStringBody_short rfl rest
  · rw [← hcode 8 hb]
    exact readStringBody_short rfl rest
  · rw [← hcode 12 hf]
    exact readStringBody_short rfl rest
  · rw [← hcode 10 hn]
    exact readStringBody_short rfl rest
  · rw [← hcode 13 hr]
    exact readStringBody_short rfl rest
  · rw [← hcode 9 ht]
    exact readStringBody_short rfl rest
  · have hhigh := hexValue?_hexDigit (c.toNat / 16) (by omega)
    have hlow := hexValue?_hexDigit (c.toNat % 16) (by omega)
    have hsum := hcode (16 * (c.toNat / 16) + c.toNat % 16) (by omega)
    simp only [cons_append, nil_append, readStringBody, hhigh, hlow, hsum]
  · -- Neither a quotation mark nor a backslash: the last case of the reader.
    rw [singleton_append, readStringBody.eq_def]
    split <;> simp_all

theorem readString_renderString (s : String) (rest : List Char) :
    readString ((renderString s).toList ++ rest) = some (s, rest) := by
  have hbody : ∀ cs : List Char, readStringBody (cs.flatMap escapeChar ++ '"' :: rest) =
      some (cs, rest) := by
    intro cs
    induction cs with
    | nil => rfl
    | cons c cs ih =>
      rw [flatMap_cons, append_assoc, readStringBody_escapeChar, ih, prepend, Option.map_some]
  have htext : (renderString s).toList ++ rest =
      '"' :: (s.toList.flatMap escapeChar ++ '"' :: rest) := by
    simp [renderString]
  rw [htext, readString, hbody s.toList]
  simp

/-- A natural number (`readNat_repr`). -/
def readNat (input : List Char) : Option (Nat × List Char) :=
  let digits := input.takeWhile Char.isDigit
  if isCanonicalDecimal digits then
    some (Nat.ofDigitChars 10 digits 0, input.dropWhile Char.isDigit)
  else none

theorem readNat_repr (n : Nat) (hc : c.isDigit = false) (rest : List Char) :
    readNat (n.repr.toList ++ c :: rest) = some (n, c :: rest) := by
  have hdigits : ∀ d ∈ n.repr.toList, d.isDigit = true := by
    intro d hd
    rw [Nat.toList_repr] at hd
    exact Nat.isDigit_of_mem_toDigits (by decide) (by decide) hd
  have htake : (n.repr.toList ++ c :: rest).takeWhile Char.isDigit = n.repr.toList := by
    rw [takeWhile_append_of_pos hdigits]
    simp [hc]
  have hdrop : (n.repr.toList ++ c :: rest).dropWhile Char.isDigit = c :: rest := by
    rw [dropWhile_append_of_pos hdigits]
    simp [hc]
  have hvl := decimalValue?_repr n
  unfold decimalValue? at hvl
  unfold readNat
  simp only [htake, hdrop]
  split at hvl
  · rename_i hcanon
    rw [if_pos hcanon, Option.some.inj hvl]
  · cases hvl

end Foundation.Json
