import Centaeris.Foundation.Utf8
import Centaeris.Transcript.Contract

namespace Centaeris

open Foundation Outcome List

/-!
# Content by ranges

Texts too long for a page are read piece by piece.
-/

def transcriptContentRangeMaxBytes : Nat := 64 * 1024

/-- The size of a piece, as the check of a request has it. -/
def validMaxBytes (maxBytes : UInt32) : Bool :=
  maxBytes != 0 && decide (maxBytes.toNat ≤ transcriptContentRangeMaxBytes)

/-! ### Pieces of a text -/

def isCharBoundary (content : String) (offset : Nat) : Bool :=
  (splitAtByte content.toList offset).isSome

/-- The loop that moves the end of a piece back to a boundary. -/
def boundaryBefore (content : String) (offset : Nat) : Nat → Nat
  | 0 => 0
  | stop + 1 =>
    if offset < stop + 1 ∧ isCharBoundary content (stop + 1) = false then
      boundaryBefore content offset stop
    else stop + 1

/-- The text between two offsets, which have to be boundaries. -/
def slice? (content : String) (start stop : Nat) : Option String := do
  let (_, rest) ← splitAtByte content.toList start
  let (piece, _) ← splitAtByte rest (stop - start)
  pure (String.ofList piece)

/-- A piece of a text in memory or in a file (`readsAll_contentRange_iff`: repeated reads return the
    whole text exactly when every character fits into a piece). -/
def transcriptUtf8Range (content : String) (offset maxBytes : Nat) : Outcome (Nat × String) := do
  ensure (maxBytes != 0 && decide (maxBytes ≤ transcriptContentRangeMaxBytes))
    "transcript content range maxBytes is invalid"
  ensure (decide (offset ≤ content.utf8ByteSize) && isCharBoundary content offset)
    "transcript content range offset is not a UTF-8 boundary"
  let stop := boundaryBefore content offset (min (offset + maxBytes) content.utf8ByteSize)
  let piece ← orPanic (slice? content offset stop) "byte index is not a char boundary"
  pure (stop, piece)

/-- The length of the whole characters of a read, of which there has to be one. -/
def validLenOf (bytes : List UInt8) : Outcome Nat :=
  match fromUtf8 bytes.length bytes with
  | (_, .complete) => pure bytes.length
  | (valid + 1, .cut) => pure (valid + 1)
  | _ => fail "transcript tool output offset is not a UTF-8 boundary"

/-- A piece of a text that stands in a file from a start on; the sum of offsets stays at the
    largest `u64`. -/
def readUtf8FileRange (file : List UInt8) (contentStart expectedByteLength offset maxBytes : Nat) :
    Outcome (Nat × String) := do
  let left ← orPanic (if offset ≤ expectedByteLength then some (expectedByteLength - offset)
    else none) "attempt to subtract with overflow"
  let requested := min left maxBytes
  ensure (decide (min (contentStart + expectedByteLength) (u64Size - 1) ≤ file.length))
    "transcript tool output ended before byteLength"
  let bytes := (file.drop (min (contentStart + offset) (u64Size - 1))).take requested
  ensure (bytes.length == requested)
    "read transcript tool output failed: failed to fill whole buffer"
  let validLen ← validLenOf bytes
  let content ← orFail (String.fromUTF8? ⟨(bytes.take validLen).toArray⟩)
    "transcript tool output range is not UTF-8"
  let stop ← orFail (if offset + validLen < u64Size then some (offset + validLen) else none)
    "transcript tool output range overflow"
  pure (stop, content)

variable {text : String} {maxBytes : Nat} {as bs : List Char}

theorem isCharBoundary_iff {offset : Nat} : isCharBoundary text offset = true ↔
    ∃ as bs, text.toList = as ++ bs ∧ offset = byteSize as := by
  simp [isCharBoundary, Option.isSome_iff_exists, splitAtByte_eq_some]

theorem boundaryBefore_eq {offset last stop : Nat} (hoffset : offset ≤ last)
    (hlast : isCharBoundary text last = true) (hstop : last ≤ stop)
    (hnone : ∀ n, last < n → n ≤ stop → isCharBoundary text n = false) :
    boundaryBefore text offset stop = last := by
  induction stop with
  | zero => rw [boundaryBefore, Nat.le_zero.mp hstop]
  | succ stop ih =>
    rw [boundaryBefore]
    rcases Nat.lt_or_ge last (stop + 1) with hlt | hge
    · rw [if_pos ⟨by omega, hnone _ hlt (Nat.le_refl _)⟩]
      exact ih (by omega) fun n hn hle => hnone n hn (by omega)
    · obtain rfl : last = stop + 1 := by omega
      rw [if_neg (by simp [hlast])]

/-- **Pieces.** A read at a boundary returns the characters that fit. -/
theorem transcriptUtf8Range_eq (hpos : 0 < maxBytes)
    (hmax : maxBytes ≤ transcriptContentRangeMaxBytes) (htext : text.toList = as ++ bs) :
    transcriptUtf8Range text (byteSize as) maxBytes =
      .ok (byteSize as + byteSize (fitting maxBytes bs), String.ofList (fitting maxBytes bs)) := by
  obtain ⟨rest, hrest, hsize, hnext⟩ := fitting_spec maxBytes bs
  generalize fitting maxBytes bs = piece at hrest hsize hnext ⊢
  subst hrest
  have hlen : text.utf8ByteSize = byteSize as + (byteSize piece + byteSize rest) := by
    rw [← byteSize_toList, htext, byteSize_append, byteSize_append]
  have hstop : boundaryBefore text (byteSize as)
      (min (byteSize as + maxBytes) text.utf8ByteSize) = byteSize as + byteSize piece := by
    refine boundaryBefore_eq (by omega)
      (isCharBoundary_iff.mpr ⟨as ++ piece, rest, by rw [htext, append_assoc], by simp⟩)
      (by omega) ?_
    intro n hn hle
    refine Bool.eq_false_iff.mpr fun hboundary => ?_
    -- a later boundary has the next character before it, which exceeds the budget
    obtain ⟨xs, ys, hxs, rfl⟩ := isCharBoundary_iff.mp hboundary
    rw [htext, ← append_assoc] at hxs
    rcases append_eq_append_iff.mp hxs.symm with ⟨zs, hzs, -⟩ | ⟨zs, rfl, hrest⟩
    · have := congrArg byteSize hzs
      rw [byteSize_append, byteSize_append] at this
      omega
    · cases zs with
      | nil => simp at hn
      | cons c zs =>
        have := hnext c (zs ++ ys) (by rw [← cons_append, hrest])
        simp only [byteSize_append, byteSize_cons] at hle
        omega
  have hslice : slice? text (byteSize as) (byteSize as + byteSize piece) =
      some (String.ofList piece) := by
    simp only [slice?, Option.bind_eq_bind, splitAtByte_eq_some.mpr ⟨htext, rfl⟩, Option.bind_some,
      Nat.add_sub_cancel_left, splitAtByte_eq_some.mpr ⟨rfl, rfl⟩, Option.pure_def]
  have hboundary := isCharBoundary_iff.mpr ⟨as, piece ++ rest, htext, rfl⟩
  have hle : byteSize as ≤ text.utf8ByteSize := by omega
  simp [transcriptUtf8Range, hstop, hslice, hboundary, hle, hmax, hpos.ne', ensure, orPanic]

section File

variable {c : Char} {pre after : List UInt8}

/-- The bytes read at a boundary are the first ones of the rest of the text. -/
theorem fileBytes_eq (htext : text.toList = as ++ bs)
    (hfile : (pre ++ utf8Bytes text ++ after).length < u64Size) :
    ((pre ++ utf8Bytes text ++ after).drop
      (min (pre.length + byteSize as) (u64Size - 1))).take (min (byteSize bs) maxBytes) =
      (bs.flatMap String.utf8EncodeChar).take maxBytes := by
  have has := length_flatMap_utf8EncodeChar as
  have hbs := length_flatMap_utf8EncodeChar bs
  rw [utf8Bytes_eq_flatMap, htext, flatMap_append] at hfile ⊢
  simp only [length_append, has, hbs] at hfile
  have hplc : min (pre.length + byteSize as) (u64Size - 1) =
      (pre ++ as.flatMap String.utf8EncodeChar).length := by
    rw [length_append, has]
    omega
  rw [hplc, ← append_assoc, append_assoc, drop_left,
    take_append_of_le_length (by omega), Nat.min_comm, ← hbs, ← take_eq_take_min]

theorem validLenOf_take (hpos : 0 < maxBytes) :
    validLenOf (((c :: bs).flatMap String.utf8EncodeChar).take maxBytes) =
      if c.utf8Size ≤ maxBytes then .ok (byteSize (fitting maxBytes (c :: bs)))
      else fail "transcript tool output offset is not a UTF-8 boundary" := by
  have hwidth := c.utf8Size_pos
  rw [validLenOf, length_take, length_flatMap_utf8EncodeChar, fromUtf8_take (Nat.le_refl _)]
  by_cases hfits : c.utf8Size ≤ maxBytes
  · obtain ⟨valid, hsize⟩ : ∃ valid, byteSize (fitting maxBytes (c :: bs)) = valid + 1 := by
      rw [fitting, if_pos hfits, byteSize_cons]
      exact ⟨c.utf8Size + byteSize (fitting (maxBytes - c.utf8Size) bs) - 1, by omega⟩
    rw [if_pos hfits, hsize]
    split_ifs with hall
    · exact congrArg _ hall.symm
    · rfl
  · rw [fitting, if_neg hfits, byteSize_nil, byteSize_cons, if_neg (by omega), if_neg hfits]

/-- **Pieces of a file.** A read at a boundary returns the characters that fit, and fails if
    the next one does not. -/
theorem readUtf8FileRange_eq (hpos : 0 < maxBytes) (htext : text.toList = as ++ c :: bs)
    (hfile : (pre ++ utf8Bytes text ++ after).length < u64Size) :
    readUtf8FileRange (pre ++ utf8Bytes text ++ after) pre.length text.utf8ByteSize
      (byteSize as) maxBytes =
      if c.utf8Size ≤ maxBytes then
        .ok (byteSize as + byteSize (fitting maxBytes (c :: bs)),
          String.ofList (fitting maxBytes (c :: bs)))
      else fail "transcript tool output offset is not a UTF-8 boundary" := by
  have hlen : text.utf8ByteSize = byteSize as + byteSize (c :: bs) := by
    rw [← byteSize_toList, htext, byteSize_append]
  have hfits : (pre ++ utf8Bytes text ++ after).length =
      pre.length + text.utf8ByteSize + after.length := by
    rw [length_append, length_append, utf8Bytes_length]
  obtain ⟨rest, hrest, hsize, -⟩ := fitting_spec maxBytes (c :: bs)
  have htaken : (((c :: bs).flatMap String.utf8EncodeChar).take maxBytes).take
      (byteSize (fitting maxBytes (c :: bs))) =
      (fitting maxBytes (c :: bs)).flatMap String.utf8EncodeChar := by
    rw [take_take, Nat.min_eq_left hsize, ← length_flatMap_utf8EncodeChar]
    nth_rewrite 2 [hrest]
    rw [flatMap_append, take_left]
  have hsum : byteSize as + byteSize (fitting maxBytes (c :: bs)) < u64Size := by
    have := congrArg byteSize hrest
    rw [byteSize_append] at this
    omega
  have hread : (((c :: bs).flatMap String.utf8EncodeChar).take maxBytes).length =
      min (byteSize (c :: bs)) maxBytes := by
    rw [length_take, length_flatMap_utf8EncodeChar, Nat.min_comm]
  have hend : min (pre.length + text.utf8ByteSize) (u64Size - 1) ≤
      (pre ++ utf8Bytes text ++ after).length := by omega
  simp only [readUtf8FileRange, hlen, Nat.le_add_right, if_true, Nat.add_sub_cancel_left,
    fileBytes_eq htext hfile, hread, validLenOf_take hpos, orPanic, ok_bind]
  rw [← hlen, ensure, if_pos (decide_eq_true hend), ensure, if_pos (beq_self_eq_true _)]
  split_ifs
  · simp only [ok_bind, htaken, fromUTF8?_utf8EncodeChar, orFail, hsum, if_true]
    rfl
  · rfl

/-- **Reading by ranges.** For a size that a request may ask for, repeated reads of a text,
    in memory or in a file, advance to its end and return it exactly when each of its
    characters fits into one piece. -/
theorem readsAll_contentRange_iff (text : String) (maxBytes : UInt32)
    (hval : validMaxBytes maxBytes = true) (pre after : List UInt8)
    (hfile : (pre ++ utf8Bytes text ++ after).length < u64Size) :
    (ReadsAll (fun offset => transcriptUtf8Range text offset maxBytes.toNat)
        text.utf8ByteSize 0 text ∧
      ReadsAll (fun offset => readUtf8FileRange (pre ++ utf8Bytes text ++ after) pre.length
        text.utf8ByteSize offset maxBytes.toNat) text.utf8ByteSize 0 text) ↔
      ∀ c ∈ text.toList, c.utf8Size ≤ maxBytes.toNat := by
  simp only [validMaxBytes, bool_rules] at hval
  obtain ⟨hzero, hmax⟩ := hval
  have hpos : 0 < maxBytes.toNat :=
    Nat.pos_of_ne_zero fun h => hzero (UInt32.toNat_inj.mp h)
  generalize maxBytes.toNat = maxBytes at hmax hpos ⊢
  have hmemory : ReadsFitting (fun offset => transcriptUtf8Range text offset maxBytes) text.toList
      maxBytes := by
    intro as c bs htext
    have hread := transcriptUtf8Range_eq hpos hmax htext
    refine ⟨fun _ => hread, fun hwide next piece hok => ?_⟩
    have hstays := hread.symm.trans hok
    rw [fitting_eq_nil_iff.mpr hwide] at hstays
    exact (congrArg Prod.fst (Except.ok.inj hstays)).symm
  have hdisk : ReadsFitting (fun offset => readUtf8FileRange (pre ++ utf8Bytes text ++ after)
      pre.length text.utf8ByteSize offset maxBytes) text.toList maxBytes := by
    intro as c bs htext
    have hread := readUtf8FileRange_eq hpos htext hfile
    refine ⟨fun hfits => hread.trans (if_pos hfits), fun hwide next piece hok => ?_⟩
    have hfails := hread.symm.trans hok
    rw [if_neg (by omega)] at hfails
    cases hfails
  have hmemory := hmemory.readsAll_iff
  have hdisk := hdisk.readsAll_iff
  rw [byteSize_toList, String.ofList_toList] at hmemory hdisk
  rw [hmemory, hdisk, and_self]

/-- The first piece ends before a character that it would cut. -/
theorem readsAll_contentRange_four : transcriptUtf8Range "é€x😀" 0 4 = .ok (2, "é") ∧
    ReadsAll (fun offset => transcriptUtf8Range "é€x😀" offset 4) 10 0 "é€x😀" ∧
      ReadsAll (fun offset => readUtf8FileRange ([34] ++ utf8Bytes "é€x😀" ++ [34, 10]) 1 10 offset 4)
        10 0 "é€x😀" :=
  ⟨by decide +kernel,
    (readsAll_contentRange_iff "é€x😀" 4 (by decide) [34] [34, 10] (by decide +kernel)).mpr
      fun c _ => c.utf8Size_le_four⟩

/-- A character of two bytes is never read in pieces of one byte: in memory the read stays
    where it is, and from a file it fails. -/
theorem contentRange_stalls : validMaxBytes 1 = true ∧
    transcriptUtf8Range "é" 0 1 = .ok (0, "") ∧
    readUtf8FileRange (utf8Bytes "é") 0 2 0 1 =
      fail "transcript tool output offset is not a UTF-8 boundary" ∧
    ¬ReadsAll (fun offset => transcriptUtf8Range "é" offset 1) 2 0 "é" := by
  refine ⟨by decide +kernel, by decide +kernel, by decide +kernel, fun h => ?_⟩
  generalize hcon : "é" = content at h
  cases h with
  | more _ hread hadv _ =>
    rw [← hcon, show transcriptUtf8Range "é" 0 1 = .ok (0, "") by decide +kernel] at hread
    obtain ⟨rfl, -⟩ := Prod.mk.inj (Except.ok.inj hread)
    exact absurd hadv (Nat.lt_irrefl 0)

end File

end Centaeris
