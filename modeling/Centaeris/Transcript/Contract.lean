import Centaeris.Foundation.JsonMembers

namespace Centaeris

open Foundation List Outcome Json

/-!
# The transcript contract

The values that the transcript projection exchanges with its readers, their JSON
form, and the checks each of them must pass.
-/

/-! ### Limits and schema names -/

def transcriptPageSchemaV1 : String := "transcript.page.v1"
def transcriptPatchSchemaV1 : String := "transcript.patch.v1"
def transcriptCheckpointSchemaV1 : String := "transcript.checkpoint.v1"
def transcriptProjectionVersionV1 : String := "transcript.projection.v1"

def transcriptPageInlineContentMaxBytes : Nat := 64 * 1024
def transcriptPageBlockMaxCount : Nat := 128
def transcriptPageResumeCursorMaxCount : Nat := transcriptPageBlockMaxCount
def transcriptPageSerializedMaxBytes : Nat := 4 * transcriptPageInlineContentMaxBytes
def transcriptPatchMaxChanges : Nat := transcriptPageBlockMaxCount
def transcriptPatchSerializedMaxBytes : Nat := transcriptPageSerializedMaxBytes
def transcriptCheckpointMaxBytes : Nat := transcriptPageSerializedMaxBytes
def transcriptPresentationMaxBytes : Nat := 16 * 1024

/-! ### Decimals, identifiers, order positions -/

/-- The number of `u64` values. -/
def u64Size : Nat := 2 ^ 64

/-- A canonical decimal in the range of `u64`. -/
def parseDecimalU64 (value name : String) : Outcome Nat :=
  match decimalValue? value with
  | none => fail (name ++ " must be a canonical decimal string")
  | some n => if n < u64Size then .ok n else fail (name ++ " exceeds the u64 range")

/-- An identifier has a character that is not white space. -/
def requireIdentifier (value name : String) : Outcome Unit :=
  ensure (!isBlank value) (name ++ " must not be empty")

/-- The place of a block in the transcript: source sequence, then ordinal. -/
structure OrderPosition where
  sequence : Nat
  ordinal : UInt32
deriving DecidableEq

namespace OrderPosition

def key (p : OrderPosition) : Nat ×ₗ Nat := toLex (p.sequence, p.ordinal.toNat)

theorem key_injective : Function.Injective key := by
  rintro ⟨s, o⟩ ⟨s', o'⟩ h
  simp only [key, EmbeddingLike.apply_eq_iff_eq, Prod.mk.injEq] at h
  rw [h.1, UInt32.toNat_inj.mp h.2]

instance : LinearOrder OrderPosition := LinearOrder.lift' key key_injective

instance : Std.TransOrd OrderPosition := inferInstance

theorem le_iff (p q : OrderPosition) :
    p ≤ q ↔ p.sequence < q.sequence ∨
      p.sequence = q.sequence ∧ p.ordinal.toNat ≤ q.ordinal.toNat := by
  show toLex (p.sequence, p.ordinal.toNat) ≤ toLex (q.sequence, q.ordinal.toNat) ↔ _
  rw [Prod.Lex.toLex_le_toLex]

/-- The order of positions is that of their sequences first. -/
theorem sequence_le_of_le {p q : OrderPosition} (h : p ≤ q) : p.sequence ≤ q.sequence := by
  rw [le_iff] at h
  omega

end OrderPosition

/-! ### Blocks -/

/-- Order key of a block as it is serialized. -/
structure TranscriptOrderKeyV1 where
  sourceSequence : String
  ordinal : UInt32
deriving DecidableEq

/-- A reference to content that is not inline. -/
structure TranscriptContentRefV1 where
  refId : String
  revision : String
  byteLength : String
deriving DecidableEq

/-- Text, inline or by reference. -/
structure TranscriptTextContentV1 where
  inlineContent : Option String
  sourceRef : Option TranscriptContentRefV1
deriving DecidableEq

inductive TranscriptBlockStatusV1 where
  | queued
  | running
  | completed
  | failed
  | interrupted
deriving DecidableEq

inductive TranscriptBlockBodyV1 where
  | userText (content : TranscriptTextContentV1)
  | assistantText (content : TranscriptTextContentV1) (status : TranscriptBlockStatusV1)
  | reasoning (requestId : String) (content : TranscriptTextContentV1)
      (status : TranscriptBlockStatusV1)
  | tool (callId toolName : String) (status : TranscriptBlockStatusV1)
      (summary : Option String) (summaryRef outputRef : Option TranscriptContentRefV1)
  | notice (noticeType : String) (content : TranscriptTextContentV1)
      (status : TranscriptBlockStatusV1)
deriving DecidableEq

/-- Optional display facts of a block. -/
structure TranscriptPresentationV1 where
  agentRunId : Option String
  sourceType : String
  observedAtMs : Int
  displayTarget : Option String
  durationMs : Option Nat
  operation : Option Json
  reasonType : Option String
deriving DecidableEq

structure TranscriptBlockV1 where
  blockId : String
  blockRevision : String
  presentation : Option TranscriptPresentationV1
  orderKey : TranscriptOrderKeyV1
  body : TranscriptBlockBodyV1
deriving DecidableEq

/-! ### Pages, patches, policies -/

structure TranscriptResumeCursorV1 where
  streamId : String
  cursor : String
deriving DecidableEq

structure TranscriptPageV1 where
  schema : String
  sessionId : String
  projectionVersion : String
  projectionGeneration : String
  sourceHighWater : String
  blocks : List TranscriptBlockV1
  olderCursor : Option String
  hasOlder : Bool
  resumeCursors : List TranscriptResumeCursorV1
deriving DecidableEq

structure TranscriptBlockRemovalV1 where
  blockId : String
  blockRevision : String
  presentation : Option TranscriptPresentationV1
deriving DecidableEq

structure TranscriptPatchV1 where
  schema : String
  sessionId : String
  projectionVersion : String
  projectionGeneration : String
  sourceHighWater : String
  streamId : String
  appliedCursor : String
  upserts : List TranscriptBlockV1
  removals : List TranscriptBlockRemovalV1
deriving DecidableEq

structure TranscriptPagePolicyV1 where
  maxBlocks : Nat
  maxInlineContentBytes : Nat
  maxSerializedBytes : Nat
deriving DecidableEq

/-- The default policy allows every limit in full. -/
def TranscriptPagePolicyV1.default : TranscriptPagePolicyV1 where
  maxBlocks := transcriptPageBlockMaxCount
  maxInlineContentBytes := transcriptPageInlineContentMaxBytes
  maxSerializedBytes := transcriptPageSerializedMaxBytes

/-! ### Serialized form -/

/-- A member that is left out when the value is absent. -/
def memberIfSome {α : Type} (key : String) (encode : α → Json) : Option α → List (String × Json)
  | none => []
  | some a => [(key, encode a)]

/-- The serialized form; byte budgets are counted on it with `Json.size`. -/
def TranscriptOrderKeyV1.toJson (key : TranscriptOrderKeyV1) : Json :=
  .object [("sourceSequence", .string key.sourceSequence),
    ("ordinal", .number (.posInt key.ordinal.toNat))]

def TranscriptContentRefV1.toJson (reference : TranscriptContentRefV1) : Json :=
  .object [("refId", .string reference.refId), ("revision", .string reference.revision),
    ("byteLength", .string reference.byteLength)]

def TranscriptTextContentV1.toJson (content : TranscriptTextContentV1) : Json :=
  .object [("inlineContent", jsonOption .string content.inlineContent),
    ("sourceRef", jsonOption TranscriptContentRefV1.toJson content.sourceRef)]

def TranscriptBlockStatusV1.name : TranscriptBlockStatusV1 → String
  | .queued => "queued"
  | .running => "running"
  | .completed => "completed"
  | .failed => "failed"
  | .interrupted => "interrupted"

def TranscriptBlockStatusV1.toJson (status : TranscriptBlockStatusV1) : Json :=
  .string status.name

def TranscriptBlockBodyV1.toJson : TranscriptBlockBodyV1 → Json
  | .userText content =>
    .object [("kind", .string "userText"), ("content", content.toJson)]
  | .assistantText content status =>
    .object [("kind", .string "assistantText"), ("content", content.toJson),
      ("status", status.toJson)]
  | .reasoning requestId content status =>
    .object [("kind", .string "reasoning"), ("requestId", .string requestId),
      ("content", content.toJson), ("status", status.toJson)]
  | .tool callId toolName status summary summaryRef outputRef =>
    .object [("kind", .string "tool"), ("callId", .string callId),
      ("toolName", .string toolName), ("status", status.toJson),
      ("summary", jsonOption .string summary),
      ("summaryRef", jsonOption TranscriptContentRefV1.toJson summaryRef),
      ("outputRef", jsonOption TranscriptContentRefV1.toJson outputRef)]
  | .notice noticeType content status =>
    .object [("kind", .string "notice"), ("noticeType", .string noticeType),
      ("content", content.toJson), ("status", status.toJson)]

def TranscriptPresentationV1.toJson (presentation : TranscriptPresentationV1) : Json :=
  .object ([("agentRunId", jsonOption .string presentation.agentRunId),
    ("sourceType", .string presentation.sourceType),
    ("observedAtMs", jsonInt presentation.observedAtMs),
    ("displayTarget", jsonOption .string presentation.displayTarget),
    ("durationMs", jsonOption (fun n => .number (.posInt n)) presentation.durationMs),
    ("operation", jsonOption id presentation.operation)] ++
    memberIfSome "reasonType" .string presentation.reasonType)

def TranscriptBlockV1.toJson (block : TranscriptBlockV1) : Json :=
  .object ([("blockId", .string block.blockId),
    ("blockRevision", .string block.blockRevision)] ++
    memberIfSome "presentation" TranscriptPresentationV1.toJson block.presentation ++
    [("orderKey", block.orderKey.toJson), ("body", block.body.toJson)])

def TranscriptResumeCursorV1.toJson (cursor : TranscriptResumeCursorV1) : Json :=
  .object [("streamId", .string cursor.streamId), ("cursor", .string cursor.cursor)]

def TranscriptPageV1.toJson (page : TranscriptPageV1) : Json :=
  .object [("schema", .string page.schema), ("sessionId", .string page.sessionId),
    ("projectionVersion", .string page.projectionVersion),
    ("projectionGeneration", .string page.projectionGeneration),
    ("sourceHighWater", .string page.sourceHighWater),
    ("blocks", .array (page.blocks.map TranscriptBlockV1.toJson)),
    ("olderCursor", jsonOption .string page.olderCursor),
    ("hasOlder", .bool page.hasOlder),
    ("resumeCursors", .array (page.resumeCursors.map TranscriptResumeCursorV1.toJson))]

def TranscriptBlockRemovalV1.toJson (removal : TranscriptBlockRemovalV1) : Json :=
  .object ([("blockId", .string removal.blockId),
    ("blockRevision", .string removal.blockRevision)] ++
    memberIfSome "presentation" TranscriptPresentationV1.toJson removal.presentation)

def TranscriptPatchV1.toJson (patch : TranscriptPatchV1) : Json :=
  .object [("schema", .string patch.schema), ("sessionId", .string patch.sessionId),
    ("projectionVersion", .string patch.projectionVersion),
    ("projectionGeneration", .string patch.projectionGeneration),
    ("sourceHighWater", .string patch.sourceHighWater),
    ("streamId", .string patch.streamId), ("appliedCursor", .string patch.appliedCursor),
    ("upserts", .array (patch.upserts.map TranscriptBlockV1.toJson)),
    ("removals", .array (patch.removals.map TranscriptBlockRemovalV1.toJson))]

/-- A page without its blocks. -/
def TranscriptPageV1.frame (page : TranscriptPageV1) : TranscriptPageV1 :=
  { page with blocks := [] }

/-- The size of a page, from the sizes of its blocks. -/
theorem TranscriptPageV1.toJson_size (page : TranscriptPageV1) :
    page.toJson.size = page.frame.toJson.size +
      sizeItems (page.blocks.map TranscriptBlockV1.toJson) := by
  simp only [TranscriptPageV1.toJson, TranscriptPageV1.frame, size_object, sizeMembers_eq_sum, size_array,
    map_cons, map_nil, List.sum_cons, sum_nil, length_cons, length_nil,
    sizeItems]
  omega

/-- A patch without its upserts. -/
def TranscriptPatchV1.frame (patch : TranscriptPatchV1) : TranscriptPatchV1 :=
  { patch with upserts := [] }

theorem TranscriptPatchV1.toJson_size (patch : TranscriptPatchV1) :
    patch.toJson.size = patch.frame.toJson.size +
      sizeItems (patch.upserts.map TranscriptBlockV1.toJson) := by
  simp only [TranscriptPatchV1.toJson, TranscriptPatchV1.frame, size_object,
    sizeMembers_eq_sum, size_array, map_cons, map_nil, List.sum_cons,
    sum_nil, length_cons, length_nil, sizeItems]
  omega

/-! ### Checks -/

/-- The checks, in the order the source makes them. -/
def TranscriptPagePolicyV1.validate (policy : TranscriptPagePolicyV1) :
    Outcome TranscriptPagePolicyV1 := do
  ensure (policy.maxBlocks != 0 && policy.maxBlocks ≤ transcriptPageBlockMaxCount)
    "transcript page maxBlocks is invalid"
  ensure (policy.maxInlineContentBytes != 0 &&
      policy.maxInlineContentBytes ≤ transcriptPageInlineContentMaxBytes)
    "transcript page maxInlineContentBytes is invalid"
  ensure (policy.maxSerializedBytes != 0 &&
      policy.maxSerializedBytes ≤ transcriptPageSerializedMaxBytes)
    "transcript page maxSerializedBytes is invalid"
  pure policy

def validateProjectionIdentity (schema expectedSchema sessionId projectionVersion
    projectionGeneration : String) : Outcome Unit := do
  ensure (schema == expectedSchema)
    ("transcript schema mismatch: expected " ++ expectedSchema ++ ", got " ++ schema)
  requireIdentifier sessionId "transcript sessionId"
  ensure (projectionVersion == transcriptProjectionVersionV1)
    "transcript projectionVersion is unsupported"
  requireIdentifier projectionGeneration "transcript projectionGeneration"

def TranscriptOrderKeyV1.sourceSequenceValue (key : TranscriptOrderKeyV1) : Outcome Nat :=
  parseDecimalU64 key.sourceSequence "transcript block sourceSequence"

def TranscriptOrderKeyV1.orderValue (key : TranscriptOrderKeyV1) : Outcome OrderPosition := do
  let sequence ← key.sourceSequenceValue
  pure ⟨sequence, key.ordinal⟩

def TranscriptContentRefV1.validate (reference : TranscriptContentRefV1) : Outcome Unit := do
  requireIdentifier reference.refId "transcript content refId"
  let _ ← parseDecimalU64 reference.revision "transcript content revision"
  let _ ← parseDecimalU64 reference.byteLength "transcript content byteLength"
  pure ()

def TranscriptTextContentV1.validate (content : TranscriptTextContentV1) : Outcome Unit :=
  match content.inlineContent, content.sourceRef with
  | some text, none =>
    ensure (text.utf8ByteSize ≤ transcriptPageInlineContentMaxBytes)
      "transcript inline content exceeds page budget"
  | none, some reference => reference.validate
  | _, _ =>
    fail "transcript text content must contain exactly one of inlineContent or sourceRef"

def TranscriptTextContentV1.inlineContentBytes (content : TranscriptTextContentV1) : Nat :=
  (content.inlineContent.map String.utf8ByteSize).getD 0

def TranscriptBlockBodyV1.inlineContentBytes : TranscriptBlockBodyV1 → Nat
  | .userText content => content.inlineContentBytes
  | .assistantText content _ => content.inlineContentBytes
  | .reasoning _ content _ => content.inlineContentBytes
  | .notice _ content _ => content.inlineContentBytes
  | .tool _ _ _ summary _ _ => (summary.map String.utf8ByteSize).getD 0

/-- The checks of a block's display facts. -/
def TranscriptPresentationV1.validate (presentation : TranscriptPresentationV1) :
    Outcome Unit := do
  requireIdentifier presentation.sourceType "transcript presentation sourceType"
  presentation.agentRunId.forM (requireIdentifier · "transcript presentation agentRunId")
  presentation.reasonType.forM (requireIdentifier · "transcript presentation reasonType")
  ensure (0 ≤ presentation.observedAtMs && presentation.operation.all Json.isObject)
    "invalid transcript presentation facts"
  ensure (presentation.toJson.size ≤ transcriptPresentationMaxBytes)
    "transcript presentation exceeds display budget"

/-- The summary of a tool block is inline or by reference. -/
def validateToolSummary (summary : Option String) (summaryRef : Option TranscriptContentRefV1) :
    Outcome Unit :=
  match summary, summaryRef with
  | some value, none =>
    ensure (value.utf8ByteSize ≤ transcriptPageInlineContentMaxBytes)
      "transcript tool summary exceeds page budget"
  | none, some reference => reference.validate
  | _, _ =>
    fail "transcript tool summary must contain exactly one inline value or summaryRef"

def TranscriptBlockBodyV1.validate : TranscriptBlockBodyV1 → Outcome Unit
  | .reasoning requestId content _ => do
    requireIdentifier requestId "transcript reasoning requestId"
    content.validate
  | .tool callId toolName _ summary summaryRef outputRef => do
    requireIdentifier callId "transcript tool callId"
    requireIdentifier toolName "transcript toolName"
    validateToolSummary summary summaryRef
    outputRef.forM TranscriptContentRefV1.validate
  | .notice noticeType content _ => do
    requireIdentifier noticeType "transcript noticeType"
    content.validate
  | .userText content => content.validate
  | .assistantText content _ => content.validate

def TranscriptBlockV1.validate (block : TranscriptBlockV1) : Outcome Unit := do
  requireIdentifier block.blockId "transcript blockId"
  let _ ← parseDecimalU64 block.blockRevision "transcript blockRevision"
  let _ ← block.orderKey.sourceSequenceValue
  block.presentation.forM TranscriptPresentationV1.validate
  block.body.validate

def TranscriptResumeCursorV1.validate (cursor : TranscriptResumeCursorV1) : Outcome Unit := do
  requireIdentifier cursor.streamId "transcript resume streamId"
  requireIdentifier cursor.cursor "transcript resume cursor"

/-- What the page check carries from block to block. -/
structure PageScan where
  previousOrder : Option OrderPosition
  blockIds : List String
  inlineBytes : Nat

def scanPageBlock (sourceHighWater : Nat) (scan : PageScan) (block : TranscriptBlockV1) :
    Outcome PageScan := do
  block.validate
  ensure (!scan.blockIds.contains block.blockId) "transcript page contains duplicate blockId"
  let order ← block.orderKey.orderValue
  ensure (order.sequence ≤ sourceHighWater) "transcript page block is after sourceHighWater"
  ensure (scan.previousOrder.all (· < order)) "transcript page blocks are not strictly ordered"
  pure ⟨some order, block.blockId :: scan.blockIds,
    scan.inlineBytes + block.body.inlineContentBytes⟩

/-- One resume cursor of the page check; the state is the streams seen so far. -/
def scanResumeCursor : List String → TranscriptResumeCursorV1 → Outcome (List String) :=
  scanFresh TranscriptResumeCursorV1.validate (·.streamId)
    "transcript page contains duplicate resume streamId"

def TranscriptPageV1.validate (page : TranscriptPageV1) (policy : TranscriptPagePolicyV1) :
    Outcome Unit := do
  let policy ← policy.validate
  validateProjectionIdentity page.schema transcriptPageSchemaV1 page.sessionId
    page.projectionVersion page.projectionGeneration
  let sourceHighWater ← parseDecimalU64 page.sourceHighWater "transcript page sourceHighWater"
  ensure (page.blocks.length ≤ policy.maxBlocks) "transcript page exceeds maxBlocks"
  let scan ← page.blocks.foldlM (scanPageBlock sourceHighWater) ⟨none, [], 0⟩
  ensure (scan.inlineBytes ≤ policy.maxInlineContentBytes)
    "transcript page exceeds maxInlineContentBytes"
  ensure (page.hasOlder == page.olderCursor.isSome)
    "transcript page hasOlder and olderCursor disagree"
  ensure (page.olderCursor.all (fun cursor => !isBlank cursor))
    "transcript page olderCursor must not be empty"
  ensure (page.resumeCursors.length ≤ transcriptPageResumeCursorMaxCount)
    "transcript page exceeds maximum resume cursor count"
  let _ ← page.resumeCursors.foldlM scanResumeCursor []
  ensure (page.toJson.size ≤ policy.maxSerializedBytes)
    "transcript page exceeds maxSerializedBytes"

def TranscriptBlockRemovalV1.validate (removal : TranscriptBlockRemovalV1) : Outcome Unit := do
  requireIdentifier removal.blockId "transcript removal blockId"
  let _ ← parseDecimalU64 removal.blockRevision "transcript removal blockRevision"
  pure ()

def validateUpsert (sourceHighWater : Nat) (block : TranscriptBlockV1) : Outcome Unit := do
  block.validate
  let sequence ← block.orderKey.sourceSequenceValue
  ensure (sequence ≤ sourceHighWater) "transcript patch block is after sourceHighWater"

/-- One upsert of the patch check; the state is the block ids seen so far. -/
def scanPatchUpsert (sourceHighWater : Nat) :
    List String → TranscriptBlockV1 → Outcome (List String) :=
  scanFresh (validateUpsert sourceHighWater) (·.blockId)
    "transcript patch contains duplicate block change"

def scanPatchRemoval : List String → TranscriptBlockRemovalV1 → Outcome (List String) :=
  scanFresh TranscriptBlockRemovalV1.validate (·.blockId)
    "transcript patch contains duplicate block change"

def TranscriptPatchV1.validate (patch : TranscriptPatchV1) : Outcome Unit := do
  validateProjectionIdentity patch.schema transcriptPatchSchemaV1 patch.sessionId
    patch.projectionVersion patch.projectionGeneration
  let sourceHighWater ← parseDecimalU64 patch.sourceHighWater "transcript patch sourceHighWater"
  requireIdentifier patch.streamId "transcript patch streamId"
  requireIdentifier patch.appliedCursor "transcript patch appliedCursor"
  ensure (patch.upserts.length + patch.removals.length ≤ transcriptPatchMaxChanges)
    "transcript patch exceeds maximum change count"
  let blockIds ← patch.upserts.foldlM (scanPatchUpsert sourceHighWater) []
  let _ ← patch.removals.foldlM scanPatchRemoval blockIds
  ensure (patch.toJson.size ≤ transcriptPatchSerializedMaxBytes)
    "transcript patch exceeds maximum serialized bytes"

/-! ### What an accepted value satisfies -/

variable {value name : String}

/-- A decimal text below the limit of the type. -/
@[simp] theorem parseDecimalU64_eq_ok {n : Nat} :
    parseDecimalU64 value name = .ok n ↔ decimalValue? value = some n ∧ n < u64Size := by
  unfold parseDecimalU64
  cases h : decimalValue? value with
  | none => simp
  | some m =>
    by_cases hm : m < u64Size
    · simp only [if_pos hm, Except.ok.injEq, Option.some.injEq]
      constructor
      · rintro rfl
        exact ⟨rfl, hm⟩
      · exact fun h => h.1
    · simp only [if_neg hm, fail_ne_ok, Option.some.injEq, false_iff, not_and]
      rintro rfl
      exact hm

variable {u : Unit}

@[simp] theorem requireIdentifier_eq_ok :
    requireIdentifier value name = .ok u ↔ isBlank value = false := by
  simp [requireIdentifier]

/-- A policy whose limits are positive and within the contract's maxima. -/
structure TranscriptPagePolicyV1.Valid (policy : TranscriptPagePolicyV1) : Prop where
  maxBlocks : 0 < policy.maxBlocks ∧ policy.maxBlocks ≤ transcriptPageBlockMaxCount
  maxInlineContentBytes : 0 < policy.maxInlineContentBytes ∧
    policy.maxInlineContentBytes ≤ transcriptPageInlineContentMaxBytes
  maxSerializedBytes : 0 < policy.maxSerializedBytes ∧
    policy.maxSerializedBytes ≤ transcriptPageSerializedMaxBytes

variable {policy : TranscriptPagePolicyV1}

/-- What an accepted value satisfies, as one predicate each. -/
theorem TranscriptPagePolicyV1.validate_eq_ok_iff {policy' : TranscriptPagePolicyV1} :
    policy.validate = .ok policy' ↔ policy.Valid ∧ policy' = policy := by
  unfold TranscriptPagePolicyV1.validate
  simp only [ok_rules, bool_rules, ne_eq]
  constructor
  · rintro ⟨hb, hi, hs, rfl⟩
    exact ⟨⟨⟨Nat.pos_of_ne_zero hb.1, hb.2⟩, ⟨Nat.pos_of_ne_zero hi.1, hi.2⟩,
      ⟨Nat.pos_of_ne_zero hs.1, hs.2⟩⟩, rfl⟩
  · rintro ⟨⟨hb, hi, hs⟩, rfl⟩
    exact ⟨⟨hb.1.ne', hb.2⟩, ⟨hi.1.ne', hi.2⟩, ⟨hs.1.ne', hs.2⟩, rfl⟩

/-- The default policy passes its own check. -/
theorem TranscriptPagePolicyV1.default_valid : TranscriptPagePolicyV1.default.Valid where
  maxBlocks := by decide
  maxInlineContentBytes := by decide
  maxSerializedBytes := by decide

/-- Schema, session, version and generation are as the contract wants them. -/
def ProjectionIdentity (schema expectedSchema sessionId projectionVersion
    projectionGeneration : String) : Prop :=
  schema = expectedSchema ∧ isBlank sessionId = false ∧
    projectionVersion = transcriptProjectionVersionV1 ∧ isBlank projectionGeneration = false

theorem validateProjectionIdentity_eq_ok_iff {schema expected session version generation : String} :
    validateProjectionIdentity schema expected session version generation = .ok u ↔
      ProjectionIdentity schema expected session version generation := by
  simp [validateProjectionIdentity, ProjectionIdentity]

/-- The position of a block; meaningful for a block whose key is a canonical decimal. -/
def TranscriptBlockV1.position (block : TranscriptBlockV1) : OrderPosition :=
  ⟨(decimalValue? block.orderKey.sourceSequence).getD 0, block.orderKey.ordinal⟩

def TranscriptBlockV1.revision (block : TranscriptBlockV1) : Nat :=
  (decimalValue? block.blockRevision).getD 0

namespace TranscriptBlockV1

variable {block : TranscriptBlockV1}

/-- A valid block has a revision. -/
theorem revision_of_validate (h : block.validate = .ok ()) :
    decimalValue? block.blockRevision = some block.revision ∧ block.revision < u64Size := by
  simp only [validate, ok_rules, parseDecimalU64_eq_ok] at h
  obtain ⟨_, n, ⟨hn, hlt⟩, _⟩ := h
  simp [revision, hn, hlt]

/-- A valid block has a sequence. -/
theorem sourceSequence_of_validate (h : block.validate = .ok ()) :
    block.orderKey.sourceSequenceValue = .ok block.position.sequence := by
  simp only [validate, ok_rules] at h
  obtain ⟨_, _, _, n, hn, _⟩ := h
  rw [TranscriptOrderKeyV1.sourceSequenceValue, parseDecimalU64_eq_ok] at hn ⊢
  simp [position, hn.1, hn.2]

theorem orderValue_of_validate (h : block.validate = .ok ()) :
    block.orderKey.orderValue = .ok block.position := by
  rw [TranscriptOrderKeyV1.orderValue, sourceSequence_of_validate h]
  rfl

end TranscriptBlockV1

variable {sourceHighWater : Nat}

/-- The scan accepts blocks in strictly rising order with new ids. -/
theorem scanPageBlock_foldlM_eq_ok_iff {blocks : List TranscriptBlockV1} {scan scan' : PageScan} :
    blocks.foldlM (scanPageBlock sourceHighWater) scan = .ok scan' ↔
      (∀ block ∈ blocks, block.validate = .ok () ∧
        block.position.sequence ≤ sourceHighWater ∧ block.blockId ∉ scan.blockIds ∧
        ∀ previous ∈ scan.previousOrder, previous < block.position) ∧
      (blocks.map (·.blockId)).Nodup ∧
      blocks.Pairwise (fun a b => a.position < b.position) ∧
      scan' = ⟨(blocks.getLast?.map (·.position)).or scan.previousOrder,
        (blocks.map (·.blockId)).reverse ++ scan.blockIds,
        scan.inlineBytes + (blocks.map (·.body.inlineContentBytes)).sum⟩ := by
  induction blocks generalizing scan with
  | nil =>
    rw [foldlM_nil, pure_eq_ok]
    simp [eq_comm]
  | cons block blocks ih =>
    rw [foldlM_cons, bind_eq_ok]
    simp only [ih, scanPageBlock, ok_rules]
    constructor
    · rintro ⟨_, ⟨hv, hid, order, hord, hseq, hprev, rfl⟩, hrest, hnodup, hsort, rfl⟩
      rw [TranscriptBlockV1.orderValue_of_validate hv, Except.ok.injEq] at hord
      subst hord
      simp only [bool_rules, contains_eq_mem] at hid
      simp only [decide_eq_true_eq] at hseq
      simp only [Option.all_eq_true, decide_eq_true_eq] at hprev
      simp only [Option.mem_def, Option.some.injEq, forall_eq', mem_cons, not_or] at hrest
      refine ⟨?_, ?_, ?_, ?_⟩
      · intro b hb
        rcases mem_cons.mp hb with rfl | hb
        · exact ⟨hv, hseq, hid, hprev⟩
        · obtain ⟨hbv, hbs, hbid, hbo⟩ := hrest b hb
          exact ⟨hbv, hbs, hbid.2, fun previous hp => lt_trans (hprev previous hp) hbo⟩
      · rw [map_cons, nodup_cons]
        refine ⟨?_, hnodup⟩
        intro hmem
        obtain ⟨b, hb, heq⟩ := mem_map.mp hmem
        exact (hrest b hb).2.2.1.1 heq
      · exact pairwise_cons.mpr ⟨fun b hb => (hrest b hb).2.2.2, hsort⟩
      · cases hlast : blocks.getLast? <;> simp [getLast?_cons, hlast, Nat.add_assoc]
    · rintro ⟨hall, hnodup, hsort, rfl⟩
      obtain ⟨hv, hseq, hid, hprev⟩ := hall block mem_cons_self
      rw [map_cons, nodup_cons] at hnodup
      rw [pairwise_cons] at hsort
      refine ⟨_, ⟨hv, by simpa using hid, block.position,
        TranscriptBlockV1.orderValue_of_validate hv, by simpa using hseq, ?_, rfl⟩, ?_,
        hnodup.2, hsort.2, ?_⟩
      · simpa [Option.all_eq_true] using hprev
      · intro b hb
        obtain ⟨hbv, hbs, hbid, _⟩ := hall b (mem_cons_of_mem _ hb)
        refine ⟨hbv, hbs, ?_, ?_⟩
        · rw [mem_cons, not_or]
          refine ⟨fun heq => hnodup.1 (mem_map.mpr ⟨b, hb, heq⟩), hbid⟩
        · intro previous hp
          rw [Option.mem_def, Option.some.injEq] at hp
          exact hp ▸ hsort.1 b hb
      · cases hlast : blocks.getLast? <;> simp [getLast?_cons, hlast, Nat.add_assoc]

/-- A page that passes its check under a policy. -/
structure TranscriptPageV1.Valid (page : TranscriptPageV1) (policy : TranscriptPagePolicyV1)
    (sourceHighWater : Nat) : Prop where
  policyValid : policy.Valid
  identity : ProjectionIdentity page.schema transcriptPageSchemaV1 page.sessionId
    page.projectionVersion page.projectionGeneration
  highWater : decimalValue? page.sourceHighWater = some sourceHighWater ∧
    sourceHighWater < u64Size
  count : page.blocks.length ≤ policy.maxBlocks
  blocks : ∀ block ∈ page.blocks, block.validate = .ok () ∧
    block.position.sequence ≤ sourceHighWater
  distinct : (page.blocks.map (·.blockId)).Nodup
  ordered : page.blocks.Pairwise (fun a b => a.position < b.position)
  inline : (page.blocks.map (·.body.inlineContentBytes)).sum ≤ policy.maxInlineContentBytes
  older : page.hasOlder = page.olderCursor.isSome
  olderCursor : ∀ cursor ∈ page.olderCursor, isBlank cursor = false
  resumeCount : page.resumeCursors.length ≤ transcriptPageResumeCursorMaxCount
  resumeCursors : ∀ cursor ∈ page.resumeCursors, cursor.validate = .ok ()
  resumeDistinct : (page.resumeCursors.map (·.streamId)).Nodup
  serialized : page.toJson.size ≤ policy.maxSerializedBytes

theorem TranscriptPageV1.validate_eq_ok_iff {page : TranscriptPageV1} :
    page.validate policy = .ok () ↔ ∃ sourceHighWater, page.Valid policy sourceHighWater := by
  simp only [TranscriptPageV1.validate, ok_rules, TranscriptPagePolicyV1.validate_eq_ok_iff,
    validateProjectionIdentity_eq_ok_iff, parseDecimalU64_eq_ok, scanPageBlock_foldlM_eq_ok_iff,
    scanResumeCursor, scanFresh_foldlM_eq_ok_iff, bool_rules]
  constructor
  · rintro ⟨_, ⟨hpolicy, rfl⟩, hident, n, hn, hcnt, scan, ⟨hall, hnodup, hsort, rfl⟩,
      hinline, holder, hcursor, hresume, _, ⟨hcursors, hdist, -⟩, hsize⟩
    refine ⟨n, hpolicy, hident, hn, hcnt, fun b hb => ⟨(hall b hb).1, (hall b hb).2.1⟩,
      hnodup, hsort, by simpa using hinline, holder, ?_, hresume,
      fun c hc => (hcursors c hc).1, hdist, hsize⟩
    simpa [Option.all_eq_true] using hcursor
  · rintro ⟨n, hval⟩
    refine ⟨policy, ⟨hval.policyValid, rfl⟩, hval.identity, n, hval.highWater, hval.count, _,
      ⟨?_, hval.distinct, hval.ordered, rfl⟩, by simpa using hval.inline, hval.older,
      by simpa [Option.all_eq_true] using hval.olderCursor, hval.resumeCount, _,
      ⟨fun c hc => ⟨hval.resumeCursors c hc, by simp⟩, hval.resumeDistinct, rfl⟩,
      hval.serialized⟩
    intro b hb
    obtain ⟨hbv, hbs⟩ := hval.blocks b hb
    exact ⟨hbv, hbs, by simp, by simp⟩

/-- A patch that passes its check. -/
structure TranscriptPatchV1.Valid (patch : TranscriptPatchV1) (sourceHighWater : Nat) :
    Prop where
  identity : ProjectionIdentity patch.schema transcriptPatchSchemaV1 patch.sessionId
    patch.projectionVersion patch.projectionGeneration
  highWater : decimalValue? patch.sourceHighWater = some sourceHighWater ∧
    sourceHighWater < u64Size
  streamId : isBlank patch.streamId = false
  appliedCursor : isBlank patch.appliedCursor = false
  count : patch.upserts.length + patch.removals.length ≤ transcriptPatchMaxChanges
  upserts : ∀ block ∈ patch.upserts, block.validate = .ok () ∧
    block.position.sequence ≤ sourceHighWater
  removals : ∀ removal ∈ patch.removals, removal.validate = .ok ()
  distinct : (patch.upserts.map (·.blockId) ++ patch.removals.map (·.blockId)).Nodup
  serialized : patch.toJson.size ≤ transcriptPatchSerializedMaxBytes

theorem validateUpsert_eq_ok_iff {block : TranscriptBlockV1} :
    validateUpsert sourceHighWater block = .ok u ↔
      block.validate = .ok () ∧ block.position.sequence ≤ sourceHighWater := by
  simp only [validateUpsert, ok_rules, decide_eq_true_eq]
  constructor
  · rintro ⟨hv, n, hn, hle⟩
    rw [TranscriptBlockV1.sourceSequence_of_validate hv, Except.ok.injEq] at hn
    exact ⟨hv, hn ▸ hle⟩
  · rintro ⟨hv, hle⟩
    exact ⟨hv, _, TranscriptBlockV1.sourceSequence_of_validate hv, hle⟩

theorem TranscriptPatchV1.validate_eq_ok_iff {patch : TranscriptPatchV1} :
    patch.validate = .ok () ↔ ∃ sourceHighWater, patch.Valid sourceHighWater := by
  simp only [TranscriptPatchV1.validate, ok_rules, validateProjectionIdentity_eq_ok_iff,
    parseDecimalU64_eq_ok, requireIdentifier_eq_ok, scanPatchUpsert, scanPatchRemoval,
    scanFresh_foldlM_eq_ok_iff, validateUpsert_eq_ok_iff, decide_eq_true_eq]
  constructor
  · rintro ⟨hident, n, hn, hstream, hcursor, hcnt, _, ⟨hups, hupsNodup, rfl⟩, _,
      ⟨hrem, hremNodup, -⟩, hsize⟩
    refine ⟨n, hident, hn, hstream, hcursor, hcnt, fun b hb => (hups b hb).1,
      fun r hr => (hrem r hr).1, ?_, hsize⟩
    rw [nodup_append]
    refine ⟨hupsNodup, hremNodup, ?_⟩
    intro a ha b hb hab
    obtain ⟨r, hr, rfl⟩ := mem_map.mp hb
    exact (hrem r hr).2 (by simpa [hab] using ha)
  · rintro ⟨n, hval⟩
    have hdist := hval.distinct
    rw [nodup_append] at hdist
    obtain ⟨hupsNodup, hremNodup, hdisjoint⟩ := hdist
    refine ⟨hval.identity, n, hval.highWater, hval.streamId, hval.appliedCursor,
      hval.count, _, ⟨fun b hb => ⟨hval.upserts b hb, by simp⟩, hupsNodup, rfl⟩, _,
      ⟨?_, hremNodup, rfl⟩, hval.serialized⟩
    intro r hr
    refine ⟨hval.removals r hr, ?_⟩
    intro hmem
    rw [append_nil, mem_reverse] at hmem
    exact hdisjoint _ hmem _ (mem_map_of_mem hr) rfl

end Centaeris
