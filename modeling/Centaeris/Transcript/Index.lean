import Centaeris.Foundation.History
import Centaeris.Foundation.Letters
import Centaeris.Foundation.Table
import Centaeris.Transcript.Contract

namespace Centaeris

open Foundation Outcome List

/-!
# The transcript block index

The index keeps every version of every block with the sequence that applied it, and
serves pages of the transcript as it was at any earlier sequence.
-/

variable {block : TranscriptBlockV1}

/-! ### State -/

structure VersionedBlock where
  appliedSequence : Nat
  block : TranscriptBlockV1
deriving DecidableEq

structure VersionedResumeCursor where
  sourceHighWater : Nat
  cursor : String
deriving DecidableEq

structure TranscriptBlockIndexV1 where
  sessionId : String
  projectionGeneration : String
  sourceHighWater : Nat
  blockOrder : Table OrderPosition String
  orderByBlockId : Table String OrderPosition
  versionsByBlockId : Table String (List VersionedBlock)
  resumeCursorsByStream : Table String (List VersionedResumeCursor)

/-- What a page cursor is bound to, and the key of the last block already delivered. -/
structure TranscriptPageCursorV1 where
  schema : String
  sessionId : String
  projectionVersion : String
  projectionGeneration : String
  sourceHighWater : String
  before : TranscriptOrderKeyV1
deriving DecidableEq

def TranscriptPageCursorV1.toJson (cursor : TranscriptPageCursorV1) : Json :=
  .object [("schema", .string cursor.schema), ("sessionId", .string cursor.sessionId),
    ("projectionVersion", .string cursor.projectionVersion),
    ("projectionGeneration", .string cursor.projectionGeneration),
    ("sourceHighWater", .string cursor.sourceHighWater), ("before", cursor.before.toJson)]

/-- The encoding of page cursors: JSON text in URL-safe Base64 without padding.  Both
    are library code; what the index relies on is that decoding inverts encoding and
    that an encoded cursor is not blank. -/
structure CursorCodec where
  encode : TranscriptPageCursorV1 → String
  decode : String → Option TranscriptPageCursorV1
  decode_encode : ∀ cursor, decode (encode cursor) = some cursor
  encode_nonblank : ∀ cursor, isBlank (encode cursor) = false

variable (codec : CursorCodec)

def boundCursor (sessionId projectionGeneration : String) (sourceHighWater : Nat)
    (before : TranscriptOrderKeyV1) : TranscriptPageCursorV1 where
  schema := transcriptPageSchemaV1
  sessionId := sessionId
  projectionVersion := transcriptProjectionVersionV1
  projectionGeneration := projectionGeneration
  sourceHighWater := sourceHighWater.repr
  before := before

def encodeBoundCursor (sessionId projectionGeneration : String) (sourceHighWater : Nat)
    (before : TranscriptOrderKeyV1) : String :=
  codec.encode (boundCursor sessionId projectionGeneration sourceHighWater before)

def decodeBoundCursor (cursor sessionId projectionGeneration : String) (sourceHighWater : Nat) :
    Outcome TranscriptOrderKeyV1 :=
  match codec.decode cursor with
  | none => fail "transcript page cursor is invalid"
  | some decoded => do
    ensure (decoded.schema == transcriptPageSchemaV1 && decoded.sessionId == sessionId &&
        decoded.projectionVersion == transcriptProjectionVersionV1 &&
        decoded.projectionGeneration == projectionGeneration &&
        decoded.sourceHighWater == sourceHighWater.repr)
      "transcript page cursor binding mismatch"
    let _ ← decoded.before.sourceSequenceValue
    pure decoded.before

namespace TranscriptBlockIndexV1

/-! ### Updates -/

/-- An empty index. -/
def new (sessionId projectionGeneration : String) : Outcome TranscriptBlockIndexV1 := do
  requireIdentifier sessionId "transcript index sessionId"
  requireIdentifier projectionGeneration "transcript index projectionGeneration"
  pure ⟨sessionId, projectionGeneration, 0, ∅, ∅, ∅, ∅⟩

/-- The versions of a block, oldest first. -/
def versions (index : TranscriptBlockIndexV1) (blockId : String) : List VersionedBlock :=
  index.versionsByBlockId[blockId]?.getD []

/-- Whether the order of a block is new; it must not contradict what is recorded. -/
def orderIsNew (index : TranscriptBlockIndexV1) (blockId : String) (order : OrderPosition) :
    Outcome Bool :=
  match index.orderByBlockId[blockId]? with
  | some existing => do
    ensure (existing == order) "transcript block orderKey changed across revisions"
    pure false
  | none =>
    match index.blockOrder[order]? with
    | some _ => fail "transcript orderKey is already bound to another block"
    | none => pure true

/-- A version must be newer than the last one; the first one is applied at its own
    order sequence. -/
def checkSuccessor (previous : Option VersionedBlock)
    (appliedSequence sourceSequence blockRevision : Nat) : Outcome Unit :=
  match previous with
  | some previous => do
    ensure (previous.appliedSequence < appliedSequence)
      "transcript block applied sequence is not increasing"
    let previousRevision ←
      parseDecimalU64 previous.block.blockRevision "transcript previous blockRevision"
    ensure (previousRevision < blockRevision) "transcript blockRevision is not increasing"
  | none =>
    ensure (appliedSequence == sourceSequence)
      "transcript block first revision must be applied at its order sourceSequence"

def pushVersion (index : TranscriptBlockIndexV1) (isNew : Bool) (order : OrderPosition)
    (appliedSequence : Nat) (block : TranscriptBlockV1) : TranscriptBlockIndexV1 :=
  { index with
    blockOrder := if isNew then index.blockOrder.insert order block.blockId else index.blockOrder
    orderByBlockId :=
      if isNew then index.orderByBlockId.insert block.blockId order else index.orderByBlockId
    versionsByBlockId := index.versionsByBlockId.insert block.blockId
      (index.versions block.blockId ++ [⟨appliedSequence, block⟩])
    sourceHighWater := appliedSequence }

def applyCommitted (index : TranscriptBlockIndexV1) (appliedSequence : Nat)
    (block : TranscriptBlockV1) : Outcome TranscriptBlockIndexV1 := do
  block.validate
  match (index.versions block.blockId).find? (fun item => item.appliedSequence == appliedSequence)
      with
  | some existing =>
    -- The same commit again changes nothing.
    ensure (existing.block == block)
      "transcript block applied sequence is already bound to another revision"
    pure index
  | none =>
    ensure (appliedSequence != 0 && index.sourceHighWater ≤ appliedSequence)
      "transcript committed sequence is not monotonic"
    let sourceSequence ← block.orderKey.sourceSequenceValue
    ensure (sourceSequence ≤ appliedSequence)
      "transcript block orderKey is after its applied sequence"
    let order : OrderPosition := ⟨sourceSequence, block.orderKey.ordinal⟩
    let isNew ← index.orderIsNew block.blockId order
    let blockRevision ← parseDecimalU64 block.blockRevision "transcript blockRevision"
    checkSuccessor (index.versions block.blockId).getLast? appliedSequence sourceSequence
      blockRevision
    pure (index.pushVersion isNew order appliedSequence block)

def advanceSourceHighWater (index : TranscriptBlockIndexV1) (sourceHighWater : Nat) :
    Outcome TranscriptBlockIndexV1 := do
  ensure (index.sourceHighWater ≤ sourceHighWater)
    "transcript sourceHighWater cannot move backward"
  pure { index with sourceHighWater := sourceHighWater }

/-- The recorded cursors of a stream, oldest first. -/
def cursorVersions (index : TranscriptBlockIndexV1) (streamId : String) :
    List VersionedResumeCursor :=
  index.resumeCursorsByStream[streamId]?.getD []

/-- The index with one more recorded cursor. -/
def pushCursor (index : TranscriptBlockIndexV1) (sourceHighWater : Nat)
    (streamId cursor : String) : TranscriptBlockIndexV1 :=
  { index with
    resumeCursorsByStream := index.resumeCursorsByStream.insert streamId
      (index.cursorVersions streamId ++ [⟨sourceHighWater, cursor⟩]) }

def recordResumeCursor (index : TranscriptBlockIndexV1) (sourceHighWater : Nat)
    (streamId cursor : String) : Outcome TranscriptBlockIndexV1 := do
  requireIdentifier streamId "transcript resume streamId"
  requireIdentifier cursor "transcript resume cursor"
  ensure (sourceHighWater != 0 && sourceHighWater ≤ index.sourceHighWater)
    "transcript resume cursor waterline is not projected"
  ensure (index.resumeCursorsByStream.contains streamId ||
      index.resumeCursorsByStream.size < transcriptPageResumeCursorMaxCount)
    "transcript index exceeds maximum resume stream count"
  match (index.cursorVersions streamId).getLast? with
  | some previous =>
    if previous.sourceHighWater = sourceHighWater ∧ previous.cursor = cursor then
      pure index
    else do
      ensure (previous.sourceHighWater < sourceHighWater)
        "transcript resume cursor waterline is not increasing"
      pure (index.pushCursor sourceHighWater streamId cursor)
  | none => pure (index.pushCursor sourceHighWater streamId cursor)

/-! ### Pages -/

/-- The newest version applied at most at a waterline, in a list of versions in
    applied order. -/
def versionAt (versions : List VersionedBlock) (sourceHighWater : Nat) : Option VersionedBlock :=
  latestAt (·.appliedSequence) versions sourceHighWater

def blockAt (index : TranscriptBlockIndexV1) (sourceHighWater : Nat) (blockId : String) :
    Option TranscriptBlockV1 :=
  (versionAt (index.versions blockId) sourceHighWater).map (·.block)

/-- Whether an order position is in the range a page is taken from. -/
def inRange (sourceHighWater : Nat) (beforeOrder : Option OrderPosition)
    (order : OrderPosition) : Bool :=
  match beforeOrder with
  | some before => order < before
  | none => order ≤ ⟨sourceHighWater, 0xFFFFFFFF⟩

/-- The blocks a page is taken from, newest first. -/
def eligible (index : TranscriptBlockIndexV1) (sourceHighWater : Nat)
    (beforeOrder : Option OrderPosition) : List TranscriptBlockV1 :=
  ((index.blockOrder.toList.filter
    (fun entry => inRange sourceHighWater beforeOrder entry.1)).reverse).filterMap
      (fun entry => index.blockAt sourceHighWater entry.2)

def resumeCursorsAt (index : TranscriptBlockIndexV1) (sourceHighWater : Nat) :
    List TranscriptResumeCursorV1 :=
  index.resumeCursorsByStream.toList.filterMap fun entry =>
    (lastRecorded (·.sourceHighWater) entry.2 sourceHighWater).map
      (fun item => ⟨entry.1, item.cursor⟩)

def buildPage (index : TranscriptBlockIndexV1) (sourceHighWater : Nat)
    (newestFirst : List TranscriptBlockV1) (hasOlder : Bool) : TranscriptPageV1 where
  schema := transcriptPageSchemaV1
  sessionId := index.sessionId
  projectionVersion := transcriptProjectionVersionV1
  projectionGeneration := index.projectionGeneration
  sourceHighWater := sourceHighWater.repr
  blocks := newestFirst.reverse
  olderCursor :=
    if hasOlder then
      newestFirst.getLast?.map fun block =>
        encodeBoundCursor codec index.sessionId index.projectionGeneration sourceHighWater
          block.orderKey
    else none
  hasOlder := hasOlder
  resumeCursors := index.resumeCursorsAt sourceHighWater

end TranscriptBlockIndexV1

/-- The page loop: takes blocks from `eligible` while the count, the inline bytes and
    the serialized size of the page built so far stay within the policy.  Returns the
    blocks taken, newest first, and whether older ones are left. -/
def pageLoop (policy : TranscriptPagePolicyV1) (size : List TranscriptBlockV1 → Bool → Nat) :
    List TranscriptBlockV1 → List TranscriptBlockV1 → Nat → List TranscriptBlockV1 × Bool
  | eligible, newestFirst, inlineBytes =>
    if policy.maxBlocks ≤ newestFirst.length then (newestFirst, !eligible.isEmpty)
    else
      match eligible with
      | [] => (newestFirst, false)
      | block :: rest =>
        let nextInlineBytes := inlineBytes + block.body.inlineContentBytes
        if policy.maxInlineContentBytes < nextInlineBytes then (newestFirst, true)
        else
          let moreBlocks := !rest.isEmpty
          -- The block is pushed, measured, and popped again when the page is too large.
          if policy.maxSerializedBytes < size (newestFirst ++ [block]) moreBlocks then
            (newestFirst, true)
          else if moreBlocks then
            pageLoop policy size rest (newestFirst ++ [block]) nextInlineBytes
          else (newestFirst ++ [block], false)

namespace TranscriptBlockIndexV1

/-- The serialized size of the page built from some blocks. -/
def pageSize (index : TranscriptBlockIndexV1) (sourceHighWater : Nat)
    (newestFirst : List TranscriptBlockV1) (hasOlder : Bool) : Nat :=
  (index.buildPage codec sourceHighWater newestFirst hasOlder).toJson.size

/-- The position a page continues before, if a cursor is given. -/
def beforeOrder (index : TranscriptBlockIndexV1) (sourceHighWater : Nat) :
    Option String → Outcome (Option OrderPosition)
  | none => pure none
  | some cursor => do
    let key ← decodeBoundCursor codec cursor index.sessionId index.projectionGeneration
      sourceHighWater
    let order ← key.orderValue
    pure (some order)

/-- One page of the transcript at a waterline, by `pageLoop` under the three budgets of a policy. -/
def pageAt (index : TranscriptBlockIndexV1) (sourceHighWater : Nat) (olderCursor : Option String)
    (policy : TranscriptPagePolicyV1) : Outcome TranscriptPageV1 := do
  let policy ← policy.validate
  ensure (sourceHighWater ≤ index.sourceHighWater)
    "transcript page sourceHighWater is not fully projected"
  let before ← index.beforeOrder codec sourceHighWater olderCursor
  let (newestFirst, hasOlder) := pageLoop policy (index.pageSize codec sourceHighWater)
    (index.eligible sourceHighWater before) [] 0
  ensure (!(newestFirst.isEmpty && hasOlder)) "transcript page policy cannot fit one valid block"
  let page := index.buildPage codec sourceHighWater newestFirst hasOlder
  page.validate policy
  pure page

/-! ### What a successful update does -/

/-- The conditions under which `applyCommitted` adds a version. -/
structure Pushable (index : TranscriptBlockIndexV1) (appliedSequence : Nat)
    (block : TranscriptBlockV1) (isNew : Bool) : Prop where
  fresh : ∀ item ∈ index.versions block.blockId, item.appliedSequence ≠ appliedSequence
  positive : 0 < appliedSequence
  monotone : index.sourceHighWater ≤ appliedSequence
  orderBound : block.position.sequence ≤ appliedSequence
  order : (isNew = true ∧ index.orderByBlockId[block.blockId]? = none ∧
      index.blockOrder[block.position]? = none) ∨
    (isNew = false ∧ index.orderByBlockId[block.blockId]? = some block.position)
  successor : ∀ last ∈ (index.versions block.blockId).getLast?,
    last.appliedSequence < appliedSequence ∧ ∃ revision,
      (decimalValue? last.block.blockRevision = some revision ∧ revision < u64Size) ∧
      revision < block.revision
  first : index.versions block.blockId = [] → appliedSequence = block.position.sequence

variable {index : TranscriptBlockIndexV1}

theorem orderIsNew_eq_ok_iff {blockId : String} {order : OrderPosition} {isNew : Bool} :
    index.orderIsNew blockId order = .ok isNew ↔
      (isNew = true ∧ index.orderByBlockId[blockId]? = none ∧ index.blockOrder[order]? = none) ∨
      (isNew = false ∧ index.orderByBlockId[blockId]? = some order) := by
  unfold orderIsNew
  cases hid : index.orderByBlockId[blockId]? with
  | some existing =>
    simp only [ok_rules, beq_iff_eq, reduceCtorEq, false_and, and_false, Option.some.injEq,
      false_or]
    exact ⟨fun h => ⟨h.2.symm, h.1⟩, fun h => ⟨h.2, h.1.symm⟩⟩
  | none =>
    cases hord : index.blockOrder[order]? with
    | some other => simp
    | none =>
      simp only [pure_eq_ok, and_self, and_true, reduceCtorEq, and_false, or_false]
      exact eq_comm

variable {appliedSequence : Nat}

theorem checkSuccessor_eq_ok_iff {versions : List VersionedBlock}
    {sourceSequence blockRevision : Nat} {u : Unit} :
    checkSuccessor versions.getLast? appliedSequence sourceSequence blockRevision = .ok u ↔
      (∀ last ∈ versions.getLast?, last.appliedSequence < appliedSequence ∧ ∃ revision,
        (decimalValue? last.block.blockRevision = some revision ∧ revision < u64Size) ∧
        revision < blockRevision) ∧
      (versions = [] → appliedSequence = sourceSequence) := by
  cases hlast : versions.getLast? with
  | none =>
    rw [getLast?_eq_none_iff] at hlast
    simp [checkSuccessor, hlast]
  | some last =>
    have hne : versions ≠ [] := by
      rintro rfl
      simp at hlast
    simp [checkSuccessor, hne]

variable {index' : TranscriptBlockIndexV1}

/-- **One update.** A commit is accepted exactly when it repeats a version or adds a
    pushable one. -/
theorem applyCommitted_eq_ok_iff :
    index.applyCommitted appliedSequence block = .ok index' ↔
      block.validate = .ok () ∧
      ((index' = index ∧ ∃ item, (index.versions block.blockId).find?
          (fun item => item.appliedSequence == appliedSequence) = some item ∧
          item.block = block) ∨
        ∃ isNew, index.Pushable appliedSequence block isNew ∧
          index' = index.pushVersion isNew block.position appliedSequence block) := by
  unfold applyCommitted
  rw [bind_eq_ok, exists_unit]
  refine and_congr_right fun hval => ?_
  cases hfind : (index.versions block.blockId).find?
      (fun item => item.appliedSequence == appliedSequence) with
  | some existing =>
    have hm := mem_of_find?_eq_some hfind
    have heq : existing.appliedSequence = appliedSequence := by
      simpa using find?_some hfind
    simp only [ok_rules, beq_iff_eq, Option.some.injEq]
    constructor
    · rintro ⟨hbl, rfl⟩
      exact .inl ⟨rfl, existing, rfl, hbl⟩
    · rintro (⟨rfl, item, rfl, hbl⟩ | ⟨isNew, hpush, -⟩)
      · exact ⟨hbl, rfl⟩
      · exact absurd heq (hpush.fresh existing hm)
  | none =>
    have hfr : ∀ item ∈ index.versions block.blockId,
        item.appliedSequence ≠ appliedSequence := by
      simpa using hfind
    have hrev := TranscriptBlockV1.revision_of_validate hval
    simp only [ok_rules, bool_rules, ne_eq, TranscriptBlockV1.sourceSequence_of_validate hval,
      Except.ok.injEq, exists_eq_left', orderIsNew_eq_ok_iff, parseDecimalU64_eq_ok, hrev.1,
      Option.some.injEq, checkSuccessor_eq_ok_iff, reduceCtorEq, false_and, exists_false, and_false,
      false_or]
    constructor
    · rintro ⟨⟨hpos, hmono⟩, hbd, isNew, hord, revision, ⟨rfl, -⟩, ⟨hlast, hfst⟩, rfl⟩
      exact ⟨isNew, ⟨hfr, Nat.pos_of_ne_zero hpos, hmono, hbd, hord, hlast, hfst⟩, rfl⟩
    · rintro ⟨isNew, hpush, rfl⟩
      exact ⟨⟨hpush.positive.ne', hpush.monotone⟩, hpush.orderBound, isNew, hpush.order,
        block.revision, ⟨rfl, hrev.2⟩, ⟨hpush.successor, hpush.first⟩, rfl⟩

variable {sourceHighWater : Nat}

theorem advanceSourceHighWater_eq_ok_iff :
    index.advanceSourceHighWater sourceHighWater = .ok index' ↔
      index.sourceHighWater ≤ sourceHighWater ∧
        index' = { index with sourceHighWater := sourceHighWater } := by
  simp only [advanceSourceHighWater, ok_rules, decide_eq_true_eq]
  exact and_congr_right fun _ => eq_comm

/-- The conditions under which `recordResumeCursor` accepts a cursor. -/
structure Recordable (index : TranscriptBlockIndexV1) (sourceHighWater : Nat)
    (streamId cursor : String) : Prop where
  stream : isBlank streamId = false
  value : isBlank cursor = false
  positive : 0 < sourceHighWater
  projected : sourceHighWater ≤ index.sourceHighWater
  room : index.resumeCursorsByStream.contains streamId = true ∨
    index.resumeCursorsByStream.size < transcriptPageResumeCursorMaxCount

theorem recordResumeCursor_eq_ok_iff {streamId cursor : String} :
    index.recordResumeCursor sourceHighWater streamId cursor = .ok index' ↔
      index.Recordable sourceHighWater streamId cursor ∧
      ((index' = index ∧
          (index.cursorVersions streamId).getLast? = some ⟨sourceHighWater, cursor⟩) ∨
        ((∀ last ∈ (index.cursorVersions streamId).getLast?,
            last.sourceHighWater < sourceHighWater) ∧
          index' = index.pushCursor sourceHighWater streamId cursor)) := by
  have hrecordable : index.Recordable sourceHighWater streamId cursor ↔
      isBlank streamId = false ∧ isBlank cursor = false ∧
      (0 < sourceHighWater ∧ sourceHighWater ≤ index.sourceHighWater) ∧
      (index.resumeCursorsByStream.contains streamId = true ∨
        index.resumeCursorsByStream.size < transcriptPageResumeCursorMaxCount) :=
    ⟨fun h => ⟨h.stream, h.value, ⟨h.positive, h.projected⟩, h.room⟩,
      fun h => ⟨h.1, h.2.1, h.2.2.1.1, h.2.2.1.2, h.2.2.2⟩⟩
  unfold recordResumeCursor
  rw [hrecordable]
  simp only [ok_rules, requireIdentifier_eq_ok, bool_rules, ne_eq, and_assoc, Nat.pos_iff_ne_zero]
  refine and_congr_right fun _ => and_congr_right fun _ => and_congr_right fun _ =>
    and_congr_right fun _ => and_congr_right fun _ => ?_
  cases hlast : (index.cursorVersions streamId).getLast? with
  | none =>
    simp only [pure_eq_ok, reduceCtorEq, and_false, false_or, Option.mem_def, false_imp_iff,
      implies_true, true_and]
    exact eq_comm
  | some previous =>
    obtain ⟨water, old⟩ := previous
    simp only [Option.mem_def, Option.some.injEq, forall_eq', VersionedResumeCursor.mk.injEq]
    by_cases hsame : water = sourceHighWater ∧ old = cursor
    · rw [if_pos hsame]
      obtain ⟨rfl, rfl⟩ := hsame
      simp only [pure_eq_ok, and_self, and_true, lt_irrefl, false_and, or_false]
      exact eq_comm
    · rw [if_neg hsame]
      simp only [ok_rules, decide_eq_true_eq]
      constructor
      · rintro ⟨hlt, rfl⟩
        exact .inr ⟨hlt, rfl⟩
      · rintro (⟨_, hwat, hold⟩ | ⟨hlt, rfl⟩)
        · exact absurd ⟨hwat, hold⟩ hsame
        · exact ⟨hlt, rfl⟩

end TranscriptBlockIndexV1

/-! ### What the page loop keeps -/

def inlineBytesOf (blocks : List TranscriptBlockV1) : Nat :=
  (blocks.map (·.body.inlineContentBytes)).sum

/-- What the loop keeps is a front part of the eligible blocks, and the page built from it was
    already measured. -/
theorem pageLoop_spec (policy : TranscriptPagePolicyV1)
    (size : List TranscriptBlockV1 → Bool → Nat) (eligible newestFirst : List TranscriptBlockV1)
    (inlineBytes : Nat) (hcnt : newestFirst.length ≤ policy.maxBlocks)
    (hinline : inlineBytes ≤ policy.maxInlineContentBytes) :
    ∃ taken rest, eligible = taken ++ rest ∧
      pageLoop policy size eligible newestFirst inlineBytes =
        (newestFirst ++ taken, !rest.isEmpty) ∧
      (newestFirst ++ taken).length ≤ policy.maxBlocks ∧
      inlineBytes + inlineBytesOf taken ≤ policy.maxInlineContentBytes ∧
      ∀ front block back, taken = front ++ block :: back →
        size (newestFirst ++ front ++ [block]) (!(back ++ rest).isEmpty) ≤
          policy.maxSerializedBytes := by
  induction eligible generalizing newestFirst inlineBytes with
  | nil =>
    refine ⟨[], [], rfl, ?_, by simpa using hcnt, by simpa [inlineBytesOf] using hinline,
      by simp⟩
    unfold pageLoop
    by_cases hfull : policy.maxBlocks ≤ newestFirst.length <;> simp [hfull]
  | cons block rest ih =>
    unfold pageLoop
    by_cases hgo : newestFirst.length < policy.maxBlocks ∧
      inlineBytes + block.body.inlineContentBytes ≤ policy.maxInlineContentBytes ∧
      size (newestFirst ++ [block]) (!rest.isEmpty) ≤ policy.maxSerializedBytes
    swap
    · -- the loop stops before the block
      refine ⟨[], block :: rest, rfl, ?_, by simpa using hcnt,
        by simpa [inlineBytesOf] using hinline, by simp⟩
      simp only [not_and_or, not_lt, not_le] at hgo
      rcases hgo with hfull | hbytes | hsize
      · simp [hfull]
      · simp [hbytes]
      · simp [hsize]
    obtain ⟨hfull, hbytes, hsize⟩ := hgo
    simp only [if_neg hfull.not_ge, if_neg hbytes.not_gt, if_neg hsize.not_gt]
    have hpush : (newestFirst ++ [block]).length ≤ policy.maxBlocks := by
      rw [length_append, length_singleton]
      omega
    obtain ⟨taken, left, hsp, hloop, hlen, hin, hmeasured⟩ :=
      ih (newestFirst ++ [block]) (inlineBytes + block.body.inlineContentBytes) hpush hbytes
    refine ⟨block :: taken, left, by rw [hsp]; rfl, ?_, by simpa using hlen, ?_, ?_⟩
    · cases rest with
      | nil =>
        obtain ⟨rfl, rfl⟩ := append_eq_nil_iff.mp hsp.symm
        rfl
      | cons next rest => simpa using hloop
    · simp only [inlineBytesOf, map_cons, sum_cons] at hin ⊢
      omega
    · rw [forall_split_cons]
      refine ⟨?_, ?_⟩
      · rw [append_nil, ← hsp]
        exact hsize
      · intro front other back htaken
        simpa using hmeasured front other back htaken

variable {policy : TranscriptPagePolicyV1} {size : List TranscriptBlockV1 → Bool → Nat}
  {rest : List TranscriptBlockV1}

theorem pageLoop_nonempty (hcnt : 0 < policy.maxBlocks)
    (hinline : block.body.inlineContentBytes ≤ policy.maxInlineContentBytes)
    (hsize : size [block] (!rest.isEmpty) ≤ policy.maxSerializedBytes) :
    (pageLoop policy size (block :: rest) [] 0).1 ≠ [] := by
  unfold pageLoop
  rw [if_neg (by simp; omega)]
  simp only [Nat.zero_add, nil_append]
  rw [if_neg (by omega), if_neg (by omega)]
  cases rest with
  | nil => simp
  | cons next rest =>
    obtain ⟨taken, left, _, hloop, _⟩ := pageLoop_spec policy size (next :: rest) [block]
      block.body.inlineContentBytes hcnt hinline
    simp [hloop]

namespace TranscriptBlockIndexV1

/-- When a page is served, and which one. -/
theorem pageAt_eq_ok_iff {index : TranscriptBlockIndexV1} {sourceHighWater : Nat}
    {olderCursor : Option String} {page : TranscriptPageV1} :
    index.pageAt codec sourceHighWater olderCursor policy = .ok page ↔
      policy.Valid ∧ sourceHighWater ≤ index.sourceHighWater ∧
      ∃ before, index.beforeOrder codec sourceHighWater olderCursor = .ok before ∧
      ∃ newestFirst hasOlder, pageLoop policy (index.pageSize codec sourceHighWater)
          (index.eligible sourceHighWater before) [] 0 = (newestFirst, hasOlder) ∧
        (newestFirst = [] → hasOlder = false) ∧
        page = index.buildPage codec sourceHighWater newestFirst hasOlder ∧
        page.validate policy = .ok () := by
  unfold pageAt
  simp only [ok_rules, decide_eq_true_eq, TranscriptPagePolicyV1.validate_eq_ok_iff]
  constructor
  · rintro ⟨_, ⟨hpolicy, rfl⟩, hwat, before, hpre, h⟩
    refine ⟨hpolicy, hwat, before, hpre, _, _, rfl, ?_, h.2.2.symm, ?_⟩
    · simpa [imp_iff_not_or] using h.1
    · rw [← h.2.2]
      exact h.2.1
  · rintro ⟨hpolicy, hwat, before, hpre, newestFirst, hasOlder, hloop, hemp, rfl, hval⟩
    refine ⟨policy, ⟨hpolicy, rfl⟩, hwat, before, hpre, ?_⟩
    rw [hloop]
    refine ⟨?_, hval, rfl⟩
    simpa [imp_iff_not_or] using hemp

end TranscriptBlockIndexV1

end Centaeris
