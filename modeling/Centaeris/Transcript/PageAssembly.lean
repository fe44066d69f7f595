import Centaeris.Transcript.PageWalk
import Centaeris.Transcript.Projector

namespace Centaeris

open Foundation Outcome TranscriptBlockIndexV1

/-!
# Pages from a store

A store hands over its blocks from the newest on, each of which may fail to load.
-/

variable (codec : CursorCodec) (request : TranscriptPageReadRequestV1) (high : Nat)

/-- The position that a request continues before. -/
def transcriptPageBeforeOrder : Outcome (Option OrderPosition) := do
  request.validate
  match request.olderCursor with
  | none => pure none
  | some cursor => do
    let high ← parseDecimalU64 request.sourceHighWater
      "transcript page request sourceHighWater"
    let key ← decodeBoundCursor codec cursor request.sessionId request.projectionGeneration
      high
    let sequence ← key.sourceSequenceValue
    pure (some ⟨sequence, key.ordinal⟩)

def buildBoundPage (newestFirst : List TranscriptBlockV1) (hasOlder : Bool)
    (resumeCursors : List TranscriptResumeCursorV1) : TranscriptPageV1 where
  schema := transcriptPageSchemaV1
  sessionId := request.sessionId
  projectionVersion := transcriptProjectionVersionV1
  projectionGeneration := request.projectionGeneration
  sourceHighWater := request.sourceHighWater
  blocks := newestFirst.reverse
  olderCursor :=
    if hasOlder then
      newestFirst.getLast?.map fun block =>
        encodeBoundCursor codec request.sessionId request.projectionGeneration high
          block.orderKey
    else none
  hasOlder := hasOlder
  resumeCursors := resumeCursors

/-- The serialized size of such a page. -/
def boundPageSize (resumeCursors : List TranscriptResumeCursorV1)
    (newestFirst : List TranscriptBlockV1) (hasOlder : Bool) : Nat :=
  (buildBoundPage codec request high newestFirst hasOlder resumeCursors).toJson.size

/-- Whether there is another candidate; one that failed to load is an error. -/
def peekCandidate : List (Outcome TranscriptBlockV1) → Outcome Bool
  | [] => pure false
  | candidate :: _ => do
    let _ ← candidate
    pure true

/-- The loop over the candidates; `taken` of them were taken before.  Returns the blocks of
    the page, newest first, whether older ones are left, and how many candidates were read. -/
def assembleLoop (resumeCursors : List TranscriptResumeCursorV1) :
    List (Outcome TranscriptBlockV1) → List TranscriptBlockV1 → Nat → Nat →
      Outcome (List TranscriptBlockV1 × Bool × Nat)
  | candidates, newestFirst, inlineBytes, taken =>
    if request.policy.maxBlocks ≤ newestFirst.length then do
      let more ← peekCandidate candidates
      pure (newestFirst, more, taken + more.toNat)
    else
      match candidates with
      | [] => pure (newestFirst, false, taken)
      | candidate :: rest => do
        let block ← candidate
        block.validate
        let sequence ← block.orderKey.sourceSequenceValue
        ensure (sequence ≤ high) "transcript page candidate is after sourceHighWater"
        let nextInlineBytes := inlineBytes + block.body.inlineContentBytes
        if request.policy.maxInlineContentBytes < nextInlineBytes then
          pure (newestFirst, true, taken + 1)
        else
          let moreBlocks ← peekCandidate rest
          if request.policy.maxSerializedBytes < boundPageSize codec request high
              resumeCursors (newestFirst ++ [block]) moreBlocks then
            pure (newestFirst, true, taken + 1 + moreBlocks.toNat)
          else if moreBlocks then
            assembleLoop resumeCursors rest (newestFirst ++ [block]) nextInlineBytes (taken + 1)
          else pure (newestFirst ++ [block], false, taken + 1)

/-- The page of a request from these candidates. -/
def assembleTranscriptPageFromNewest (candidates : List (Outcome TranscriptBlockV1))
    (resumeCursors : List TranscriptResumeCursorV1) : Outcome (TranscriptPageV1 × Nat) := do
  request.validate
  let _ ← transcriptPageBeforeOrder codec request
  let high ← parseDecimalU64 request.sourceHighWater
    "transcript page request sourceHighWater"
  let (newestFirst, hasOlder, count) ← assembleLoop codec request high resumeCursors
    candidates [] 0 0
  ensure (!(newestFirst.isEmpty && hasOlder)) "transcript page policy cannot fit one valid block"
  let page := buildBoundPage codec request high newestFirst hasOlder resumeCursors
  page.validate request.policy
  pure (page, count)

/-! ### Agreement -/

variable {codec request high}

theorem peekCandidate_map_ok (blocks : List TranscriptBlockV1) :
    peekCandidate (blocks.map .ok) = .ok !blocks.isEmpty := by
  cases blocks <;> rfl

/-- **Loops.** Over valid blocks up to the waterline the loop keeps what `pageLoop` keeps. -/
theorem assembleLoop_map_ok {resumeCursors : List TranscriptResumeCursorV1}
    {eligible : List TranscriptBlockV1} (heligible : ∀ block ∈ eligible,
      block.validate = .ok () ∧ block.position.sequence ≤ high)
    (newestFirst : List TranscriptBlockV1) (inlineBytes taken : Nat) :
    let kept := pageLoop request.policy (boundPageSize codec request high resumeCursors)
      eligible newestFirst inlineBytes
    ∃ count, assembleLoop codec request high resumeCursors (eligible.map .ok)
      newestFirst inlineBytes taken = .ok (kept.1, kept.2, count) := by
  induction eligible generalizing newestFirst inlineBytes taken with
  | nil =>
    unfold assembleLoop pageLoop
    by_cases hfull : request.policy.maxBlocks ≤ newestFirst.length
    · rw [if_pos hfull, if_pos hfull]
      exact ⟨_, rfl⟩
    · rw [if_neg hfull, if_neg hfull]
      exact ⟨_, rfl⟩
  | cons block rest ih =>
    obtain ⟨hval, hle⟩ := heligible block List.mem_cons_self
    have hseq := TranscriptBlockV1.sourceSequence_of_validate hval
    unfold assembleLoop pageLoop
    by_cases hfull : request.policy.maxBlocks ≤ newestFirst.length
    · rw [if_pos hfull, if_pos hfull]
      exact ⟨_, rfl⟩
    rw [if_neg hfull, if_neg hfull]
    simp only [List.map_cons, ok_bind, hval, hseq, ensure, hle, decide_true, if_true,
      peekCandidate_map_ok]
    -- too many inline bytes, too long a page, another round, the last block
    split_ifs
    · exact ⟨_, rfl⟩
    · exact ⟨_, rfl⟩
    · exact ih (fun b hb => heligible b (List.mem_cons_of_mem _ hb)) _ _ _
    · exact ⟨_, rfl⟩

/-- **Agreement.** For a valid request at a waterline of a reachable index, the page that is
    assembled from the blocks of the index is the page of the index, or both fail. -/
theorem assembleTranscriptPageFromNewest_eq_pageAt (codec : CursorCodec)
    (index : TranscriptBlockIndexV1) (hreachable : Reachable index) (high : Nat)
    (hwat : high ≤ index.sourceHighWater) (request : TranscriptPageReadRequestV1)
    (hval : request.validate = .ok ()) (hses : request.sessionId = index.sessionId)
    (hgen : request.projectionGeneration = index.projectionGeneration)
    (hreq : decimalValue? request.sourceHighWater = some high)
    (candidates : List (Outcome TranscriptBlockV1))
    (hcandidates : ∀ before, index.beforeOrder codec high request.olderCursor =
      .ok before → candidates = (index.eligible high before).map .ok) :
    (assembleTranscriptPageFromNewest codec request candidates
        (index.resumeCursorsAt high)).toOption.map Prod.fst =
      (index.pageAt codec high request.olderCursor request.policy).toOption := by
  have hchecks := hval
  simp only [TranscriptPageReadRequestV1.validate, ok_rules, parseDecimalU64_eq_ok,
    TranscriptPagePolicyV1.validate_eq_ok_iff] at hchecks
  obtain ⟨-, -, -, _, ⟨hsame, hlt⟩, -, _, ⟨hpolicy, -⟩, -⟩ := hchecks
  obtain rfl := Option.mem_unique hreq hsame
  have hparse : parseDecimalU64 request.sourceHighWater
      "transcript page request sourceHighWater" = .ok high :=
    parseDecimalU64_eq_ok.mpr ⟨hreq, hlt⟩
  have hpage : ∀ blocks hasOlder, buildBoundPage codec request high blocks hasOlder
      (index.resumeCursorsAt high) =
        index.buildPage codec high blocks hasOlder := by
    intro blocks hasOlder
    rw [buildBoundPage, buildPage, hses, hgen, repr_of_decimalValue? hreq]
  have hpre : transcriptPageBeforeOrder codec request =
      index.beforeOrder codec high request.olderCursor := by
    rw [transcriptPageBeforeOrder, hval, ok_bind]
    cases request.olderCursor with
    | none => rfl
    | some cursor =>
      simp only [hparse, ok_bind, hses, hgen, beforeOrder,
        TranscriptOrderKeyV1.orderValue, bind_assoc, pure_bind]
  have hwithin : decide (high ≤ index.sourceHighWater) = true := decide_eq_true hwat
  simp only [assembleTranscriptPageFromNewest, pageAt, hval, hpre, hparse, ok_bind,
    TranscriptPagePolicyV1.validate_eq_ok_iff.mpr ⟨hpolicy, rfl⟩, ensure, hwithin, if_true]
  cases hpos : index.beforeOrder codec high request.olderCursor with
  | error e => rfl
  | ok before =>
    have hwf := hreachable.wellFormed
    obtain ⟨count, hloop⟩ := @assembleLoop_map_ok codec request high
      (index.resumeCursorsAt high) (index.eligible high before) (by
        intro block hbl
        obtain ⟨hval, -, -, hle⟩ := hwf.blockAt_facts (hwf.mem_eligible_iff.mp hbl).1
        exact ⟨hval, hle⟩) [] 0 0
    have hsize : boundPageSize codec request high
        (index.resumeCursorsAt high) = index.pageSize codec high := by
      funext blocks hasOlder
      rw [boundPageSize, hpage]
      rfl
    rw [hsize] at hloop
    simp only [hcandidates before hpos, hloop, ok_bind, hpage]
    generalize pageLoop request.policy (index.pageSize codec high)
      (index.eligible high before) [] 0 = result
    -- the same checks follow
    split
    · rw [ok_bind, ok_bind]
      cases (index.buildPage codec high result.1 result.2).validate request.policy
      · rfl
      · rfl
    · rfl

/-- The request for the second page of `revisedIndex` at waterline 3. -/
def revisedRequest : TranscriptPageReadRequestV1 :=
  ⟨"s", transcriptProjectionVersionV1, "g", "3", some secondCursor, onePolicy⟩

theorem assembleTranscriptPageFromNewest_revisedIndex : ∃ index, revisedIndex = .ok index ∧
    (index.eligible 3 (some ⟨2, 0⟩)).map (·.blockId) = ["a"] ∧
    (assembleTranscriptPageFromNewest jsonCursorCodec revisedRequest
        ((index.eligible 3 (some ⟨2, 0⟩)).map .ok) (index.resumeCursorsAt 3)).toOption.map Prod.fst =
      (index.pageAt jsonCursorCodec 3 (some secondCursor) onePolicy).toOption := by
  have hfacts : revisedIndex.toOption.map (fun index =>
      (index.sessionId, index.projectionGeneration, index.sourceHighWater,
        (index.eligible 3 (some ⟨2, 0⟩)).map (·.blockId))) = some ("s", "g", 3, ["a"]) := by
    decide
  obtain ⟨index, hidx, hfacts⟩ := Outcome.exists_ok_of_map hfacts
  simp only [Prod.mk.injEq] at hfacts
  obtain ⟨hses, hgen, hwat, heligible⟩ := hfacts
  refine ⟨index, hidx, heligible, assembleTranscriptPageFromNewest_eq_pageAt jsonCursorCodec
    index (reachable_of_revisedIndex hidx) 3 hwat.ge revisedRequest (by decide +kernel)
    hses.symm hgen.symm (by decide +kernel) _ ?_⟩
  intro before hpre
  cases (beforeOrder_secondCursor hses hgen).symm.trans hpre
  rfl

end Centaeris
