import Centaeris.Foundation.Outcome

namespace Foundation

open List

/-!
# Text: white space, UTF-8, canonical decimals
-/

/-! ### White space -/

/-- The Unicode `White_Space` property and what trimming by it means. -/
def isSpace (c : Char) : Bool :=
  let n := c.toNat
  (9 ≤ n && n ≤ 13) || n == 0x20 || n == 0x85 || n == 0xA0 || n == 0x1680 ||
    (0x2000 ≤ n && n ≤ 0x200A) || n == 0x2028 || n == 0x2029 || n == 0x202F ||
    n == 0x205F || n == 0x3000

/-- A text that is empty once trimmed. -/
def isBlank (s : String) : Bool := s.toList.all isSpace

/-- The text without the white space at its two ends. -/
def trim (s : String) : String :=
  String.ofList (((s.toList.dropWhile isSpace).reverse.dropWhile isSpace).reverse)

/-- Trimming leaves nothing exactly of a blank text. -/
theorem trim_eq_empty_iff (s : String) : trim s = "" ↔ isBlank s = true := by
  rw [← String.toList_inj, trim, String.toList_ofList, isBlank, all_eq_true]
  refine (rdropWhile_eq_nil_iff (p := isSpace)).trans ⟨fun h c hc => ?_, fun h c hc => ?_⟩
  · rw [← takeWhile_append_dropWhile (p := isSpace) (l := s.toList), mem_append] at hc
    exact hc.elim mem_takeWhile_imp (h c)
  · exact h c ((dropWhile_suffix isSpace).subset hc)

/-- Removing at the end does not undo a removal at the start. -/
private theorem dropWhile_rdropWhile {α : Type} (p : α → Bool) (l : List α) :
    ((l.dropWhile p).rdropWhile p).dropWhile p = (l.dropWhile p).rdropWhile p := by
  rw [dropWhile_eq_self_iff]
  intro hlong
  rw [( rdropWhile_prefix p _).getElem hlong]
  exact dropWhile_get_zero_not p l _

theorem trim_trim (s : String) : trim (trim s) = trim s := by
  have hlist : (trim s).toList =
      ((s.toList.dropWhile isSpace).reverse.dropWhile isSpace).reverse := String.toList_ofList
  have hstart : (trim s).toList.dropWhile isSpace = (trim s).toList := by
    rw [hlist]
    exact dropWhile_rdropWhile _ _
  have hend : (trim s).toList.reverse.dropWhile isSpace = (trim s).toList.reverse := by
    rw [hlist, reverse_reverse, dropWhile_idempotent]
  rw [trim, hstart, hend, reverse_reverse, String.ofList_toList]

/-- What is left of a text is trimmed and not blank. -/
theorem isBlank_trim (s : String) : isBlank (trim s) = isBlank s := by
  rw [Bool.eq_iff_iff, ← trim_eq_empty_iff, ← trim_eq_empty_iff, trim_trim]

/-! ### UTF-8 -/

/-- The UTF-8 bytes of a text, and which of them are ASCII. -/
def utf8Bytes (s : String) : List UInt8 := s.toByteArray.data.toList

theorem utf8Bytes_length (s : String) : (utf8Bytes s).length = s.utf8ByteSize := by
  rw [utf8Bytes, Array.length_toList]
  rfl

/-- The bytes of a text are those of its characters. -/
theorem utf8Bytes_eq_flatMap (s : String) :
    utf8Bytes s = s.toList.flatMap String.utf8EncodeChar := by
  have hbytes : s.toByteArray = s.toList.utf8Encode := by
    rw [← String.toByteArray_ofList, String.ofList_toList]
  rw [utf8Bytes, hbytes, List.utf8Encode, toList_data_toByteArray]

variable {c : Char}

/-- The bytes of a character beyond ASCII are all at least 128. -/
theorem le_of_mem_utf8EncodeChar (hc : 128 ≤ c.toNat) {b : UInt8} (hb : b ∈ String.utf8EncodeChar c) :
    128 ≤ b.toNat := by
  have hval : c.val.toNat = c.toNat := rfl
  unfold String.utf8EncodeChar at hb
  simp only [hval] at hb
  rw [if_neg (by omega)] at hb
  split_ifs at hb <;> simp only [mem_cons, not_mem_nil, or_false] at hb
  · rcases hb with rfl | rfl <;> rw [UInt8.toNat_ofNat'] <;> omega
  · rcases hb with rfl | rfl | rfl <;> rw [UInt8.toNat_ofNat'] <;> omega
  · rcases hb with rfl | rfl | rfl | rfl <;> rw [UInt8.toNat_ofNat'] <;> omega

theorem utf8EncodeChar_ascii (hc : c.toNat < 128) :
    String.utf8EncodeChar c = [UInt8.ofNat c.toNat] := by
  have hval : c.val.toNat = c.toNat := rfl
  unfold String.utf8EncodeChar
  simp only [hval]
  rw [if_pos (by omega)]

/-- The characters of a text.  Those of an ASCII text are its bytes, which are found faster. -/
def charsOf (s : String) : List Char :=
  if (utf8Bytes s).all (· < 128) then (utf8Bytes s).map fun b => Char.ofNat b.toNat else s.toList

theorem charsOf_eq (s : String) : charsOf s = s.toList := by
  rw [charsOf]
  split
  · rename_i hascii
    rw [utf8Bytes_eq_flatMap, all_flatMap, all_eq_true] at hascii
    rw [utf8Bytes_eq_flatMap, map_flatMap]
    conv_rhs => rw [← flatMap_singleton' s.toList]
    apply flatMap_congr
    intro c hc
    have hlt : c.toNat < 128 := by
      by_contra hge
      have hne : String.utf8EncodeChar c ≠ [] := by
        rw [← length_pos_iff, String.length_utf8EncodeChar]
        exact c.utf8Size_pos
      obtain ⟨b, hb⟩ := exists_mem_of_ne_nil _ hne
      have hsmall : b < 128 := decide_eq_true_eq.mp (all_eq_true.mp (hascii c hc) b hb)
      have hlarge := le_of_mem_utf8EncodeChar (Nat.not_lt.mp hge) hb
      have : b.toNat < 128 := hsmall
      omega
    have hbyte : (UInt8.ofNat c.toNat).toNat = c.toNat := by
      rw [UInt8.toNat_ofNat']
      omega
    rw [utf8EncodeChar_ascii hlt, map_singleton, hbyte, Char.ofNat_toNat]
  · rfl

/-! ### Canonical decimals -/

/-- No sign, no leading zero, at least one digit. -/
def isCanonicalDecimal (cs : List Char) : Bool :=
  !cs.isEmpty && !(1 < cs.length && cs.head? == some '0') && cs.all Char.isDigit

/-- The value of a decimal text without sign or leading zeros. -/
def decimalValue? (s : String) : Option Nat :=
  if isCanonicalDecimal s.toList then some (Nat.ofDigitChars 10 s.toList 0) else none

private theorem digitChar_digit (h : c.isDigit = true) :
    c.toNat - 48 < 10 ∧ Nat.digitChar (c.toNat - 48) = c := by
  have hc : 48 ≤ c.toNat ∧ c.toNat ≤ 57 := by
    simp only [Char.isDigit, bool_rules, UInt32.le_iff_toNat_le] at h
    exact h
  refine ⟨by omega, ?_⟩
  apply Char.toNat_inj.mp
  rw [Nat.toNat_digitChar_of_lt_ten (by omega)]
  omega

private theorem toDigits_append_ofDigitChars (cs : List Char) (hcs : cs.all Char.isDigit = true)
    (n : Nat) (hn : 0 < n) :
    Nat.toDigits 10 n ++ cs = Nat.toDigits 10 (Nat.ofDigitChars 10 cs n) := by
  induction cs generalizing n with
  | nil => simp
  | cons c cs ih =>
    rw [all_cons, Bool.and_eq_true] at hcs
    obtain ⟨hlt, hchar⟩ := digitChar_digit hcs.1
    have hstep := Nat.toDigits_append_toDigits (b := 10) (n := n) (d := c.toNat - 48)
      (by decide) hn hlt
    rw [Nat.toDigits_of_lt_base hlt, hchar] at hstep
    rw [Nat.ofDigitChars_cons]
    have hzero : '0'.toNat = 48 := rfl
    rw [hzero, ← ih hcs.2 (10 * n + (c.toNat - 48)) (by omega), ← hstep]
    simp

variable {s : String} {n : Nat}

theorem repr_of_decimalValue? (h : decimalValue? s = some n) :
    s = n.repr := by
  unfold decimalValue? at h
  split at h
  · rename_i hcanon
    rw [Option.some.injEq] at h
    apply String.toList_injective
    rw [Nat.toList_repr, ← h]
    unfold isCanonicalDecimal at hcanon
    cases hcs : s.toList with
    | nil => simp [hcs] at hcanon
    | cons c cs =>
      rw [hcs] at hcanon
      simp only [isEmpty_cons, Bool.not_false, Bool.true_and, head?_cons,
        Bool.and_eq_true, all_cons] at hcanon
      obtain ⟨hzero, hdigit, hdigits⟩ := hcanon
      obtain ⟨hlt, hchar⟩ := digitChar_digit hdigit
      have hval : Nat.ofDigitChars 10 (c :: cs) 0 = Nat.ofDigitChars 10 cs (c.toNat - 48) := by
        rw [Nat.ofDigitChars_cons]
        simp
      rw [hval]
      by_cases hpos : 0 < c.toNat - 48
      · rw [← toDigits_append_ofDigitChars cs hdigits _ hpos, Nat.toDigits_of_lt_base hlt, hchar]
        rfl
      · -- A leading zero stands alone.
        have hc : c = '0' := by
          rw [← hchar, Nat.eq_zero_of_not_pos hpos]
          rfl
        have : cs = [] := by
          cases cs with
          | nil => rfl
          | cons d ds => simp [hc] at hzero
        subst this hc
        rfl
  · cases h

private theorem head_toDigits_ne_zero (n : Nat) (h : 1 < (Nat.toDigits 10 n).length) :
    (Nat.toDigits 10 n).head? ≠ some '0' := by
  induction n using Nat.strong_induction_on with
  | _ n ih =>
    by_cases hlt : n < 10
    · rw [Nat.toDigits_of_lt_base hlt] at h
      simp at h
    · have hdiv : 0 < n / 10 := by omega
      rw [Nat.toDigits_of_base_le (by decide) (by omega)]
      by_cases hsmall : n / 10 < 10
      · rw [Nat.toDigits_of_lt_base hsmall]
        intro hhead
        simp only [cons_append, nil_append, head?_cons, Option.some.injEq] at hhead
        have hnum := congrArg Char.toNat hhead
        rw [Nat.toNat_digitChar_of_lt_ten hsmall] at hnum
        have hzero : '0'.toNat = 48 := rfl
        omega
      · have hlong : 1 < (Nat.toDigits 10 (n / 10)).length := by
          by_contra hshort
          have := (Nat.length_toDigits_le_iff (b := 10) (n := n / 10) (k := 1)
            (by decide) (by decide)).mp (by omega)
          omega
        have hrec := ih (n / 10) (by omega) hlong
        cases hd : Nat.toDigits 10 (n / 10) with
        | nil => simp [hd] at hlong
        | cons c cs =>
          rw [hd] at hrec
          simpa using hrec

/-- Decimal texts and numbers determine each other. -/
@[simp] theorem decimalValue?_repr (n : Nat) : decimalValue? n.repr = some n := by
  have hcanon : isCanonicalDecimal (Nat.toDigits 10 n) = true := by
    unfold isCanonicalDecimal
    have hdigits : (Nat.toDigits 10 n).all Char.isDigit = true :=
      all_eq_true.mpr fun c hc => Nat.isDigit_of_mem_toDigits (by decide) (by decide) hc
    have hne : (Nat.toDigits 10 n).isEmpty = false := by
      simp [isEmpty_eq_false_iff, Nat.toDigits_ne_nil]
    rw [hdigits, hne]
    by_cases hlong : 1 < (Nat.toDigits 10 n).length
    · simp [hlong, head_toDigits_ne_zero n hlong]
    · simp [hlong]
  unfold decimalValue?
  rw [Nat.toList_repr, if_pos hcanon, Nat.ofDigitChars_ten_toDigits]

theorem decimalValue?_injective {t : String} (hs : decimalValue? s = some n)
    (ht : decimalValue? t = some n) : s = t :=
  (repr_of_decimalValue? hs).trans (repr_of_decimalValue? ht).symm

/-! ### Parts of texts -/

/-- The place of a text in another one. -/
def findText? (needle : List Char) : List Char → Option Nat
  | [] => if needle.isEmpty then some 0 else none
  | c :: rest =>
    if needle.isPrefixOf (c :: rest) then some 0 else (findText? needle rest).map (· + 1)

theorem subset_of_findText? {needle text : List Char} {place : Nat}
    (h : findText? needle text = some place) : needle ⊆ text := by
  induction text generalizing place with
  | nil =>
    have hemp : needle = [] := by
      by_contra hne
      simp [findText?, hne] at h
    simp [hemp]
  | cons c rest ih =>
    rw [findText?] at h
    split at h
    · rename_i hfront
      exact ( isPrefixOf_iff_prefix.mp hfront).subset
    · obtain ⟨place', hrest, -⟩ := Option.map_eq_some_iff.mp h
      exact subset_cons_of_subset c (ih hrest)

/-- Texts that differ in a place that both beginnings have are different, whatever follows. -/
theorem append_ne_append {a b : String}
    (h : (a.toList.zip b.toList).any (fun pair => pair.1 != pair.2) = true) (x y : String) :
    a ++ x ≠ b ++ y := by
  intro heq
  have hlist : a.toList ++ x.toList = b.toList ++ y.toList := by
    rw [← String.toList_append, heq, String.toList_append]
  generalize a.toList = as, b.toList = bs at h hlist
  induction as generalizing bs with
  | nil => simp at h
  | cons c as ih =>
    cases bs with
    | nil => simp at h
    | cons d bs =>
      obtain ⟨rfl, hrest⟩ := cons_eq_cons.mp hlist
      exact ih bs (by simpa using h) hrest

/-- A text that ends in a colon and a number determines the number. -/
theorem eq_of_append_colon_repr {x y : String} {m : Nat}
    (h : x ++ ":" ++ m.repr = y ++ ":" ++ n.repr) : m = n := by
  have htail : ∀ (x : String) (n : Nat),
      ((x ++ ":" ++ n.repr).toList.reverse.takeWhile Char.isDigit).reverse = n.repr.toList := by
    intro x n
    have hdigits : ∀ c ∈ n.repr.toList.reverse, c.isDigit = true := by
      intro c hc
      rw [mem_reverse, Nat.toList_repr] at hc
      exact Nat.isDigit_of_mem_toDigits (by decide) (by decide) hc
    rw [String.toList_append, String.toList_append, reverse_append, reverse_append,
      takeWhile_append_of_pos hdigits]
    simp
  have hrepr : m.repr = n.repr := by
    rw [← String.toList_inj, ← htail x m, ← htail y n, h]
  have hvl := decimalValue?_repr m
  rw [hrepr, decimalValue?_repr] at hvl
  exact (Option.some.inj hvl).symm

end Foundation
