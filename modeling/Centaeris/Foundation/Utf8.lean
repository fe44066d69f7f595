import Centaeris.Foundation.Json

namespace Foundation

open List

/-!
# Texts by byte offsets
-/

/-- The number of bytes of characters. -/
def byteSize (cs : List Char) : Nat := (cs.map Char.utf8Size).sum

@[simp, grind =] theorem byteSize_nil : byteSize [] = 0 := rfl

@[simp, grind =] theorem byteSize_cons (c : Char) (cs : List Char) :
    byteSize (c :: cs) = c.utf8Size + byteSize cs := by
  simp [byteSize]

@[simp, grind =] theorem byteSize_append (as bs : List Char) :
    byteSize (as ++ bs) = byteSize as + byteSize bs := by
  simp [byteSize]

theorem byteSize_toList (s : String) : byteSize s.toList = s.utf8ByteSize :=
  (Json.utf8ByteSize_eq_sum s).symm

variable {cs as bs : List Char} {c : Char} {n k : Nat}

/-! ### Boundaries -/

/-- The parts before and after a byte offset that is a boundary of characters. -/
def splitAtByte : List Char → Nat → Option (List Char × List Char)
  | cs, 0 => some ([], cs)
  | [], _ + 1 => none
  | c :: cs, n + 1 =>
    if c.utf8Size ≤ n + 1 then
      (splitAtByte cs (n + 1 - c.utf8Size)).map fun parts => (c :: parts.1, parts.2)
    else none

theorem splitAtByte_eq_some :
    splitAtByte cs n = some (as, bs) ↔ cs = as ++ bs ∧ n = byteSize as := by
  -- the characters before the offset are taken off one by one
  induction as generalizing cs n with
  | nil => cases cs <;> cases n <;> simp [splitAtByte]
  | cons a as ih =>
    have hpos := a.utf8Size_pos
    cases cs <;> cases n <;> simp [splitAtByte] <;> grind

/-! ### What fits -/

/-- The longest part from the start that has at most so many bytes. -/
def fitting : Nat → List Char → List Char
  | _, [] => []
  | budget, c :: cs =>
    if c.utf8Size ≤ budget then c :: fitting (budget - c.utf8Size) cs else []

/-- What fits is a part from the start within the budget; all is taken, or the next character
    exceeds the budget. -/
theorem fitting_spec (budget : Nat) (cs : List Char) :
    ∃ rest, cs = fitting budget cs ++ rest ∧ byteSize (fitting budget cs) ≤ budget ∧
      ∀ c more, rest = c :: more → budget < byteSize (fitting budget cs) + c.utf8Size := by
  induction cs generalizing budget with
  | nil => exact ⟨[], rfl, Nat.zero_le _, fun _ _ h => by cases h⟩
  | cons c cs ih =>
    by_cases hfits : c.utf8Size ≤ budget
    · obtain ⟨rest, hrest, hsize, hnext⟩ := ih (budget - c.utf8Size)
      rw [fitting, if_pos hfits]
      refine ⟨rest, ?_, ?_, ?_⟩
      · rw [cons_append, ← hrest]
      · rw [byteSize_cons]
        omega
      · intro d more hd
        have := hnext d more hd
        rw [byteSize_cons]
        omega
    · rw [fitting, if_neg hfits]
      refine ⟨c :: cs, rfl, Nat.zero_le _, ?_⟩
      rintro d more ⟨⟩
      rw [byteSize_nil]
      omega

/-! ### Bytes -/

/-- What stops the bytes of a text: their end, a character that is cut off, or a byte that no
    character has there. -/
inductive Utf8End where
  | complete
  | cut
  | invalid
deriving DecidableEq

/-- The width of a character with this first byte, and the range of its second byte. -/
def utf8Lead (b : Nat) : Option (Nat × Nat × Nat) :=
  if b < 0x80 then some (1, 0x80, 0xBF)
  else if b < 0xC2 then none
  else if b < 0xE0 then some (2, 0x80, 0xBF)
  else if b < 0xF0 then
    some (3, if b = 0xE0 then 0xA0 else 0x80, if b = 0xED then 0x9F else 0xBF)
  else if b < 0xF5 then
    some (4, if b = 0xF0 then 0x90 else 0x80, if b = 0xF4 then 0x8F else 0xBF)
  else none

/-- The bytes may follow a first byte, as far as they are there. -/
def utf8Tail (low high : Nat) : List UInt8 → Bool
  | [] => true
  | second :: more => decide (low ≤ second.toNat) && decide (second.toNat ≤ high) &&
      more.all fun b => decide (0x80 ≤ b.toNat) && decide (b.toNat ≤ 0xBF)

/-- The width of the character that the bytes start, which may be cut off. -/
def utf8Width? (first : UInt8) (rest : List UInt8) : Option Nat :=
  match utf8Lead first.toNat with
  | none => none
  | some (width, low, high) =>
    if utf8Tail low high (rest.take (width - 1)) then some width else none

/-- The number of bytes that are whole characters, and what follows them. -/
def fromUtf8 : Nat → List UInt8 → Nat × Utf8End
  | _, [] => (0, .complete)
  | 0, _ :: _ => (0, .invalid)
  | fuel + 1, first :: rest =>
    match utf8Width? first rest with
    | none => (0, .invalid)
    | some width =>
      if rest.length + 1 < width then (0, .cut)
      else
        let more := fromUtf8 fuel (rest.drop (width - 1))
        (width + more.1, more.2)

/-- The bytes of a character are those that its first byte announces. -/
theorem utf8Width?_utf8EncodeChar (c : Char) : ∃ first rest,
    String.utf8EncodeChar c = first :: rest ∧ utf8Width? first rest = some (rest.length + 1) := by
  have hval : c.val.toNat < 0xD800 ∨ 0xDFFF < c.val.toNat ∧ c.val.toNat < 0x110000 := c.valid
  unfold String.utf8EncodeChar
  generalize c.val.toNat = v at hval
  dsimp only
  split_ifs with h1 h2 h3
  · refine ⟨_, _, rfl, ?_⟩
    rw [utf8Width?, UInt8.toNat_ofNat', utf8Lead, if_pos (by omega)]
    rfl
  · refine ⟨_, _, rfl, ?_⟩
    rw [utf8Width?, UInt8.toNat_ofNat', utf8Lead, if_neg (by omega), if_neg (by omega),
      if_pos (by omega)]
    simp [utf8Tail]
    omega
  · refine ⟨_, _, rfl, ?_⟩
    rw [utf8Width?, UInt8.toNat_ofNat', utf8Lead, if_neg (by omega), if_neg (by omega),
      if_neg (by omega), if_pos (by omega)]
    simp [utf8Tail]
    split_ifs <;> omega
  · refine ⟨_, _, rfl, ?_⟩
    rw [utf8Width?, UInt8.toNat_ofNat', utf8Lead, if_neg (by omega), if_neg (by omega),
      if_neg (by omega), if_neg (by omega), if_pos (by omega)]
    simp [utf8Tail]
    split_ifs <;> omega

theorem utf8Tail_take {low high : Nat} {rest : List UInt8} (h : utf8Tail low high rest = true)
    (k : Nat) : utf8Tail low high (rest.take k) = true := by
  cases rest <;> cases k <;> grind [utf8Tail, mem_of_mem_take]

/-- The bytes of a cut character announce it too, and so do those with more behind it. -/
theorem utf8Width?_take {first : UInt8} {rest more : List UInt8}
    (h : utf8Width? first rest = some (rest.length + 1)) (k : Nat) :
    utf8Width? first ((rest ++ more).take k) = some (rest.length + 1) := by
  unfold utf8Width? at h ⊢
  split at h
  · cases h
  · rename_i width low high hlead
    split at h
    · rename_i htail
      obtain rfl := Option.some.inj h
      rw [Nat.add_sub_cancel, take_length] at htail
      rw [Nat.add_sub_cancel, take_take, take_append_of_le_length (Nat.min_le_left _ _)]
      exact if_pos (utf8Tail_take htail _)
    · cases h

/-- **Cuts.** The first bytes of a text are good up to the last character that fits, and only
    a cut character may follow. -/
theorem fromUtf8_take {fuel : Nat} (hfuel : min k (byteSize cs) ≤ fuel) :
    fromUtf8 fuel ((cs.flatMap String.utf8EncodeChar).take k) =
      (byteSize (fitting k cs),
        if byteSize (fitting k cs) = min k (byteSize cs) then .complete else .cut) := by
  induction cs generalizing k fuel with
  | nil => simp [fromUtf8, fitting]
  | cons c cs ih =>
    have hpos := c.utf8Size_pos
    obtain ⟨first, rest, hencode, hwidth⟩ := utf8Width?_utf8EncodeChar c
    have hlen : rest.length + 1 = c.utf8Size := by
      rw [← String.length_utf8EncodeChar, hencode, length_cons]
    rw [flatMap_cons, hencode, cons_append, byteSize_cons]
    rw [byteSize_cons] at hfuel
    cases k with
    | zero =>
      rw [fitting, if_neg (by omega)]
      simp [fromUtf8]
    | succ k =>
      cases fuel with
      | zero => omega
      | succ fuel =>
        rw [take_succ_cons, fromUtf8, utf8Width?_take hwidth]
        dsimp only
        rw [length_take, length_append, Nat.add_sub_cancel]
        by_cases hfits : c.utf8Size ≤ k + 1
        · have hlong : ¬min k (rest.length + (cs.flatMap String.utf8EncodeChar).length) + 1 <
              rest.length + 1 := by omega
          rw [if_neg hlong, drop_take, drop_left, @ih (k - rest.length) fuel (by omega),
            fitting, if_pos hfits, byteSize_cons, hlen,
            show k + 1 - c.utf8Size = k - rest.length by omega]
          refine Prod.ext rfl ?_
          dsimp only
          congr 1
          rw [eq_iff_iff]
          omega
        · -- the first character is cut
          rw [fitting, if_neg hfits, if_pos (by omega), byteSize_nil, if_neg (by omega)]

theorem length_flatMap_utf8EncodeChar (cs : List Char) :
    (cs.flatMap String.utf8EncodeChar).length = byteSize cs := by
  simp [byteSize, length_flatMap]

/-- The bytes of characters are read back as their text. -/
theorem fromUTF8?_utf8EncodeChar (cs : List Char) :
    String.fromUTF8? ⟨(cs.flatMap String.utf8EncodeChar).toArray⟩ = some (String.ofList cs) := by
  have hbytes : (⟨(cs.flatMap String.utf8EncodeChar).toArray⟩ : ByteArray) =
      (String.ofList cs).toByteArray := by
    rw [String.toByteArray_ofList, List.utf8Encode, ← data_toByteArray]
  rw [hbytes, String.fromUTF8?, dif_pos (String.ofList cs).isValidUTF8]
  rfl

/-! ### Reading to the end -/

/-- Repeated reads from an offset reach the end of a text; each of them advances, and
    together they return this text. -/
inductive ReadsAll (read : Nat → Outcome (Nat × String)) (size : Nat) : Nat → String → Prop
  | done : ReadsAll read size size ""
  | more {offset next : Nat} {piece rest : String} : offset < size →
      read offset = .ok (next, piece) → offset < next → ReadsAll read size next rest →
      ReadsAll read size offset (piece ++ rest)

theorem fitting_eq_nil_iff : fitting n (c :: cs) = [] ↔ n < c.utf8Size := by
  rw [fitting]
  split <;> grind

theorem utf8Size_le_byteSize (h : c ∈ cs) : c.utf8Size ≤ byteSize cs := by
  obtain ⟨before, after, rfl⟩ := append_of_mem h
  rw [byteSize_append, byteSize_cons]
  omega

section ReadsAll

variable {read : Nat → Outcome (Nat × String)} {text : List Char} {budget : Nat}

/-- A reader that returns what fits into its budget, if anything does. -/
def ReadsFitting (read : Nat → Outcome (Nat × String)) (text : List Char) (budget : Nat) : Prop :=
  ∀ as c bs, text = as ++ c :: bs →
    (c.utf8Size ≤ budget → read (byteSize as) =
      .ok (byteSize as + byteSize (fitting budget (c :: bs)),
        String.ofList (fitting budget (c :: bs)))) ∧
    (budget < c.utf8Size → ∀ next piece, read (byteSize as) = .ok (next, piece) →
      next = byteSize as)

theorem ReadsFitting.readsAll (hread : ReadsFitting read text budget) (bs : List Char) :
    ∀ as, text = as ++ bs → (∀ c ∈ bs, c.utf8Size ≤ budget) →
      ReadsAll read (byteSize text) (byteSize as) (String.ofList bs) := by
  -- what is left gets shorter with every read
  induction hlen : bs.length using Nat.strong_induction_on generalizing bs with
  | _ length ih =>
    rintro as rfl hwide
    cases bs with
    | nil =>
      rw [append_nil]
      exact .done
    | cons c bs =>
      have hfst := hwide c mem_cons_self
      obtain ⟨rest, hrest, -, -⟩ := fitting_spec budget (c :: bs)
      have hne : fitting budget (c :: bs) ≠ [] := fun h => by
        rw [fitting_eq_nil_iff] at h
        omega
      have hpos : 0 < byteSize (fitting budget (c :: bs)) := by
        obtain ⟨d, ds, hd⟩ := exists_cons_of_ne_nil hne
        rw [hd, byteSize_cons]
        have := d.utf8Size_pos
        omega
      have hnext := ih rest.length (by
        have := congrArg List.length hrest
        have := length_pos_iff.mpr hne
        grind) rest rfl (as ++ fitting budget (c :: bs)) (by rw [append_assoc, ← hrest])
        (fun d hd => hwide d (hrest ▸ mem_append_right _ hd))
      have hwhole : String.ofList (c :: bs) =
          String.ofList (fitting budget (c :: bs)) ++ String.ofList rest := by
        rw [← String.ofList_append, ← hrest]
      rw [byteSize_append as (fitting budget (c :: bs))] at hnext
      rw [hwhole]
      refine .more ?_ ((hread as c bs rfl).1 hfst) (by omega) hnext
      rw [byteSize_append, byteSize_cons]
      have := c.utf8Size_pos
      omega

theorem ReadsFitting.utf8Size_le (hread : ReadsFitting read text budget) {offset : Nat}
    {content : String} (h : ReadsAll read (byteSize text) offset content) :
    ∀ as bs, text = as ++ bs → offset = byteSize as → ∀ c ∈ bs, c.utf8Size ≤ budget := by
  induction h with
  | done =>
    rintro as bs rfl hsize c hc
    have := utf8Size_le_byteSize hc
    have := c.utf8Size_pos
    rw [byteSize_append] at hsize
    omega
  | @more offset next piece rest hlt hok hadv _ ih =>
    rintro as bs htext rfl c hc
    cases bs with
    | nil => cases hc
    | cons d bs =>
      obtain ⟨hfits, hstays⟩ := hread as d bs htext
      by_cases hd : d.utf8Size ≤ budget
      · rw [hfits hd] at hok
        obtain ⟨rfl, -⟩ := Prod.mk.inj (Except.ok.inj hok)
        obtain ⟨after, haft, hsize, -⟩ := fitting_spec budget (d :: bs)
        rw [haft] at hc
        rcases mem_append.mp hc with hc | hc
        · exact (utf8Size_le_byteSize hc).trans hsize
        · refine ih (as ++ fitting budget (d :: bs)) after ?_ (byteSize_append _ _).symm c hc
          rw [append_assoc, ← haft, htext]
      · -- a reader that stays where it is has not advanced
        have := hstays (by omega) next piece hok
        omega

/-- **Reading to the end.** Such a reader returns the whole text in advancing pieces exactly
    when each character fits into its budget. -/
theorem ReadsFitting.readsAll_iff (hread : ReadsFitting read text budget) :
    ReadsAll read (byteSize text) 0 (String.ofList text) ↔ ∀ c ∈ text, c.utf8Size ≤ budget :=
  ⟨fun h => hread.utf8Size_le h [] text rfl rfl, hread.readsAll text [] rfl⟩

end ReadsAll

end Foundation
