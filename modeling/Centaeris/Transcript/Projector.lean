import Centaeris.Session.Log
import Centaeris.Transcript.Index

namespace Centaeris

open Foundation Outcome

/-!
# The transcript projector

The projector turns the records of a session, one at a time, into transcript blocks.

What the source writes as an unreachable branch or an `expect` is a panic here.
-/

/-! ### Source envelopes -/

/-- The part of a record that the projector may read without its payload. -/
structure TranscriptProjectionSourceEnvelopeV1 where
  sequence : UInt64
  schemaVersion : String
  eventVersion : UInt32
  eventType : SessionRecordType
  eventId : String
  sessionId : String
deriving DecidableEq

inductive TranscriptProjectionPayloadRequirementV1 where
  | envelopeOnly
  | fullRecord
  | tombstoneRebuild
deriving DecidableEq

def transcriptEventTypeIsPayloadFree : SessionRecordType → Bool
  | .sessionMeta | .agentRunRecoveryAttempted | .agentRunExecutionStarted
  | .agentRunExecutionEnded | .modelRequestStarted | .providerUsage | .externalEvidenceRef
  | .citationRecorded | .artifactPublished | .compaction | .checkpointRef | .fileFact => true
  | _ => false

namespace TranscriptProjectionSourceEnvelopeV1

def validate (envelope : TranscriptProjectionSourceEnvelopeV1) : Outcome Unit := do
  ensure (envelope.sequence != 0) "transcript source envelope sequence must be positive"
  ensure (envelope.schemaVersion == sessionEventSchemaVersion)
    ("transcript source envelope schemaVersion mismatch: expected session.event.v1, got " ++
      envelope.schemaVersion)
  ensure (envelope.eventVersion == envelope.eventType.eventVersion)
    ("transcript source envelope eventVersion is unsupported for " ++ envelope.eventType.asStr)
  requireIdentifier envelope.eventId "transcript source envelope eventId"
  ensure (decide (envelope.eventId.utf8ByteSize ≤ sessionEventIdMaxBytes))
    "transcript source envelope eventId exceeds 160 bytes"
  requireIdentifier envelope.sessionId "transcript source envelope sessionId"

def transcriptPayloadRequirement (envelope : TranscriptProjectionSourceEnvelopeV1) :
    Outcome TranscriptProjectionPayloadRequirementV1 := do
  envelope.validate
  pure (if envelope.eventType = .tombstone then .tombstoneRebuild
    else if transcriptEventTypeIsPayloadFree envelope.eventType then .envelopeOnly
    else .fullRecord)

end TranscriptProjectionSourceEnvelopeV1

/-! ### Blocks of records -/

/-- A tool call without a result yet. -/
structure ProjectedTool where
  orderKey : TranscriptOrderKeyV1
  toolName : String
  revision : Nat
  block : TranscriptBlockV1
deriving DecidableEq

abbrev OpenTools := Table String ProjectedTool

/-- A required text of a payload, as it stands there. -/
def payloadString (payload : Payload) (field : String) : Outcome String :=
  orFail ((payloadText? payload field).filter fun value => !isBlank value)
    s!"transcript source payload {field} is required"

def payloadStringAllowEmpty (payload : Payload) (field : String) : Outcome String :=
  orFail (payloadText? payload field) s!"transcript source payload {field} must be a string"

/-- A text inline, or by reference when it exceeds the page budget. -/
def boundedText (event : SessionLogRecord) (field text : String) (revision : Nat) :
    Option String × Option TranscriptContentRefV1 :=
  if text.utf8ByteSize ≤ transcriptPageInlineContentMaxBytes then (some text, none)
  else
    (none, some
      { refId := "session-event:" ++ event.eventId ++ ":" ++ field
        revision := revision.repr
        byteLength := text.utf8ByteSize.repr })

def textContent (event : SessionLogRecord) (field text : String) (revision : Nat) :
    TranscriptTextContentV1 :=
  let (inline, reference) := boundedText event field text revision
  ⟨inline, reference⟩

def inlineText (text : String) : TranscriptTextContentV1 := ⟨some text, none⟩

/-- The first operation of a tool result without its previews and error. -/
def displayOperation (payload : Payload) : Option Json :=
  (((payload.lookup "operations").bind Json.asArray?).bind List.head?).map fun operation =>
    match operation with
    | .object members =>
      .object (members.filter fun member =>
        !(["outputPreview", "diffPreview", "error"].contains member.1))
    | other => other

/-- What a record displays: its own target, or the one of the tool call it names. -/
def displayTargetOf (tools : OpenTools) (payload : Payload) : Option String :=
  (payloadText? payload "displayTarget").or
    ((payloadText? payload "callId").bind fun callId => (tools[callId]?).bind fun tool =>
      tool.block.presentation.bind (·.displayTarget))

def reasonTypeOf (event : SessionLogRecord) (payload : Payload) : Option String :=
  match event.eventType with
  | .agentRunFailed | .agentRunInterrupted => payloadText? payload "reasonType"
  | _ => none

/-- The display facts of a record. -/
def presentationOf (tools : OpenTools) (event : SessionLogRecord) (payload : Payload) :
    TranscriptPresentationV1 where
  agentRunId := event.agentRunId
  sourceType := event.eventType.asStr
  observedAtMs := event.createdAtMs
  displayTarget := displayTargetOf tools payload
  durationMs := (payload.lookup "latencyMs").bind Json.asU64?
  operation := displayOperation payload
  reasonType := reasonTypeOf event payload

def resultStatus : ToolResultState → TranscriptBlockStatusV1
  | .successWithOutput | .successNoOutput | .successNoMatches => .completed
  | .failed | .denied => .failed
  | .aborted => .interrupted

/-- The output of a tool result by reference; a closure has no tool result row, so its
    text is found through its record. -/
def outputRefOf (event : SessionLogRecord) (callId : String) (revision outputByteLength : Nat) :
    Option TranscriptContentRefV1 :=
  if 0 < outputByteLength then
    some (if event.eventType = .toolCallClosure then
      { refId := "session-event:" ++ event.eventId ++ ":modelContent"
        revision := "1"
        byteLength := outputByteLength.repr }
    else
      { refId := "tool-output:" ++ callId
        revision := revision.repr
        byteLength := outputByteLength.repr })
  else none

variable (contracts : PayloadContracts)

def recordBlock (sequence : UInt64) (presentation : TranscriptPresentationV1) (blockId : String)
    (body : TranscriptBlockBodyV1) : TranscriptBlockV1 where
  blockId := blockId
  blockRevision := "1"
  presentation := some presentation
  orderKey := ⟨sequence.toNat.repr, 0⟩
  body := body

def projectUserMessage (record : SequencedSessionRecord) (payload : Payload)
    (presentation : TranscriptPresentationV1) : Outcome TranscriptBlockV1 := do
  let blockId ← payloadString payload "messageId"
  let text ← payloadStringAllowEmpty payload "text"
  pure (recordBlock record.sequence presentation blockId
    (.userText (textContent record.event "text" text 1)))

def projectAssistantMessage (record : SequencedSessionRecord) (payload : Payload)
    (presentation : TranscriptPresentationV1) : Outcome TranscriptBlockV1 := do
  let blockId ← payloadString payload "messageId"
  let text ← payloadStringAllowEmpty payload "modelMarkdown"
  let statusText ← payloadString payload "status"
  let status ← orPanic
    ([("done", TranscriptBlockStatusV1.completed), ("error", .failed)].lookup statusText)
    "validated assistant status"
  pure (recordBlock record.sequence presentation blockId
    (.assistantText (textContent record.event "modelMarkdown" text 1) status))

def projectReasoningBlock (record : SequencedSessionRecord) (payload : Payload)
    (presentation : TranscriptPresentationV1) : Outcome TranscriptBlockV1 := do
  let blockId ← payloadString payload "blockId"
  let requestId ← payloadString payload "requestId"
  let text ← payloadString payload "text"
  let statusText ← payloadString payload "status"
  let status ← orPanic
    ([("done", TranscriptBlockStatusV1.completed), ("interrupted", .interrupted)].lookup statusText)
    "validated reasoning status"
  pure (recordBlock record.sequence presentation blockId
    (.reasoning requestId (textContent record.event "text" text 1) status))

def projectToolCall (tools : OpenTools) (record : SequencedSessionRecord) (payload : Payload)
    (presentation : TranscriptPresentationV1) : Outcome (OpenTools × TranscriptBlockV1) := do
  let callId ← payloadString payload "callId"
  let toolName ← payloadString payload "toolName"
  let displayTarget ← payloadString payload "displayTarget"
  let (summary, summaryRef) := boundedText record.event "displayTarget" displayTarget 1
  ensure (tools[callId]?.isNone) "transcript projection duplicates tool callId"
  let block := recordBlock record.sequence presentation ("tool:" ++ callId)
    (.tool callId toolName .running summary summaryRef none)
  pure (tools.insert callId ⟨block.orderKey, toolName, 1, block⟩, block)

def projectToolResult (tools : OpenTools) (record : SequencedSessionRecord) (payload : Payload)
    (presentation : TranscriptPresentationV1) : Outcome (OpenTools × TranscriptBlockV1) := do
  let callId ← payloadString payload "callId"
  let toolName ← payloadString payload "toolName"
  let tool ← orFail tools[callId]? "transcript tool result has no projected tool call"
  ensure (tool.toolName == toolName) "transcript tool result toolName mismatch"
  ensure (decide (tool.revision + 1 < u64Size)) "transcript tool block revision overflow"
  let revision := tool.revision + 1
  let stateValue ← orPanic (payload.lookup "resultState") "validated tool resultState"
  let resultState ← orPanic (contracts.resultState stateValue).toOption
    "validated tool resultState enum"
  let outputByteLength ← orPanic ((payload.lookup "outputByteLength").bind Json.asU64?)
    "validated outputByteLength"
  let summaryText ← payloadString payload "summary"
  let (summary, summaryRef) := boundedText record.event "summary" summaryText revision
  pure (tools.erase callId,
    { blockId := "tool:" ++ callId
      blockRevision := revision.repr
      presentation := some presentation
      orderKey := tool.orderKey
      body := .tool callId toolName (resultStatus resultState) summary summaryRef
        (outputRefOf record.event callId revision outputByteLength) })

def projectPhaseEvent (record : SequencedSessionRecord) (payload : Payload)
    (presentation : TranscriptPresentationV1) : Outcome (Option TranscriptBlockV1) := do
  let stage ← orPanic (payload.lookup "stage") "no entry found for key"
  if stage = .string "model_process_state" then pure none
  else do
    let noticeType ← payloadString payload "stage"
    let message ← payloadString payload "message"
    pure (some (recordBlock record.sequence presentation ("notice:" ++ record.event.eventId)
      (.notice noticeType (textContent record.event "message" message 1) .running)))

def projectTurnSupplement (record : SequencedSessionRecord) (payload : Payload)
    (presentation : TranscriptPresentationV1) : Outcome TranscriptBlockV1 := do
  let blockId ← payloadString payload "messageId"
  let message ← payloadString payload "message"
  pure (recordBlock record.sequence presentation blockId
    (.notice "turn_supplement" (textContent record.event "message" message 1) .completed))

/-- The text of a run boundary: the record's message, except for a cancelled run. -/
def runBoundaryContent (event : SessionLogRecord) (payload : Payload) :
    TranscriptTextContentV1 :=
  if event.eventType = .agentRunInterrupted ∧
      payloadText? payload "reasonType" = some "cancelled" then inlineText ""
  else
    match payloadText? payload "message" with
    | some message => textContent event "message" message 1
    | none => inlineText ""

def projectRunBoundary (record : SequencedSessionRecord) (payload : Payload)
    (presentation : TranscriptPresentationV1) : TranscriptBlockV1 :=
  recordBlock record.sequence presentation ("run-boundary:" ++ record.event.eventId)
    (.notice "run_boundary" (runBoundaryContent record.event payload) .completed)

/-- The block that a record displays, by record type, with the open tool calls as the only
    memory. -/
def projectBlock (tools : OpenTools) (record : SequencedSessionRecord) :
    Outcome (OpenTools × Option TranscriptBlockV1) := do
  let payload ← orPanic record.event.payload.asObject?
    "session event shape validation requires an object payload"
  let presentation := presentationOf tools record.event payload
  match record.event.eventType with
  | .userMessage => do
    let block ← projectUserMessage record payload presentation
    pure (tools, some block)
  | .assistantMessage => do
    let block ← projectAssistantMessage record payload presentation
    pure (tools, some block)
  | .reasoningBlock => do
    let block ← projectReasoningBlock record payload presentation
    pure (tools, some block)
  | .toolCall => do
    let (tools, block) ← projectToolCall tools record payload presentation
    pure (tools, some block)
  | .toolResult | .toolCallClosure => do
    let (tools, block) ← projectToolResult contracts tools record payload presentation
    pure (tools, some block)
  | .phaseEvent => do
    let block ← projectPhaseEvent record payload presentation
    pure (tools, block)
  | .turnSupplement => do
    let block ← projectTurnSupplement record payload presentation
    pure (tools, some block)
  | .agentRunStarted | .agentRunCompleted | .agentRunFailed | .agentRunInterrupted =>
    pure (tools, some (projectRunBoundary record payload presentation))
  | .sessionMeta | .agentRunRecoveryAttempted | .agentRunExecutionStarted
  | .agentRunExecutionEnded | .modelRequestStarted | .providerUsage | .externalEvidenceRef
  | .citationRecorded | .artifactPublished | .compaction | .checkpointRef | .fileFact
  | .hostEventInput => pure (tools, none)
  | .tombstone => .error (.panicked "tombstone handled before projection")

/-! ### What a record can display -/

inductive Display (tools : OpenTools) (sequence : Nat) : OpenTools → Option TranscriptBlockV1 → Prop
  | nothing : Display tools sequence tools none
  | own {block : TranscriptBlockV1} : block.position = ⟨sequence, 0⟩ →
      Display tools sequence tools (some block)
  | call {callId toolName : String} {summary : Option String}
      {summaryRef : Option TranscriptContentRefV1} {block : TranscriptBlockV1} :
      tools[callId]? = none → block.position = ⟨sequence, 0⟩ → block.blockRevision = "1" →
      block.blockId = "tool:" ++ callId →
      block.body = .tool callId toolName .running summary summaryRef none →
      Display tools sequence (tools.insert callId ⟨block.orderKey, toolName, 1, block⟩)
        (some block)
  | result {callId : String} {tool : ProjectedTool} {block : TranscriptBlockV1} :
      tools[callId]? = some tool → block.orderKey = tool.orderKey →
      block.blockRevision = (tool.revision + 1).repr → block.blockId = "tool:" ++ callId →
      Display tools sequence (tools.erase callId) (some block)

section Display

variable {contracts} {tools tools' : OpenTools} {record : SequencedSessionRecord}
  {payload : Payload} {presentation : TranscriptPresentationV1}

theorem recordBlock_position (sequence : UInt64) (presentation : TranscriptPresentationV1)
    (blockId : String) (body : TranscriptBlockBodyV1) :
    (recordBlock sequence presentation blockId body).position = ⟨sequence.toNat, 0⟩ := by
  simp [recordBlock, TranscriptBlockV1.position]

variable {block : TranscriptBlockV1}

theorem display_of_projectToolCall
    (h : projectToolCall tools record payload presentation = .ok (tools', block)) :
    Display tools record.sequence.toNat tools' (some block) := by
  simp only [projectToolCall, ok_rules, Prod.mk.injEq, Option.isNone_iff_eq_none] at h
  obtain ⟨callId, -, toolName, -, _, -, hcl, rfl, rfl⟩ := h
  exact .call hcl (recordBlock_position _ _ _ _) rfl rfl rfl

theorem display_of_projectToolResult
    (h : projectToolResult contracts tools record payload presentation = .ok (tools', block)) :
    Display tools record.sequence.toNat tools' (some block) := by
  simp only [projectToolResult, ok_rules, Prod.mk.injEq] at h
  obtain ⟨callId, -, _, -, tool, hopen, -, -, _, -, _, -, _, -, _, -, rfl, rfl⟩ := h
  exact .result hopen rfl rfl rfl

/-- **Display.** Everything that an accepted record can display. -/
theorem display_of_projectBlock {block : Option TranscriptBlockV1}
    (h : projectBlock contracts tools record = .ok (tools', block)) :
    Display tools record.sequence.toNat tools' block := by
  have hown : ∀ blockId body presentation,
      Display tools record.sequence.toNat tools
        (some (recordBlock record.sequence presentation blockId body)) := fun _ _ _ =>
    .own (recordBlock_position _ _ _ _)
  rw [projectBlock, bind_eq_ok] at h
  obtain ⟨payload, -, h⟩ := h
  cases hkind : record.event.eventType <;>
    simp only [hkind, ok_rules, Prod.mk.injEq, Prod.exists, reduceCtorEq] at h
  case toolCall =>
    obtain ⟨_, _, hcall, rfl, rfl⟩ := h
    exact display_of_projectToolCall hcall
  case toolResult | toolCallClosure =>
    obtain ⟨_, _, hres, rfl, rfl⟩ := h
    exact display_of_projectToolResult hres
  case userMessage =>
    obtain ⟨_, hbl, rfl, rfl⟩ := h
    simp only [projectUserMessage, ok_rules] at hbl
    obtain ⟨_, -, _, -, rfl⟩ := hbl
    exact hown _ _ _
  case assistantMessage =>
    obtain ⟨_, hbl, rfl, rfl⟩ := h
    simp only [projectAssistantMessage, ok_rules] at hbl
    obtain ⟨_, -, _, -, _, -, _, -, rfl⟩ := hbl
    exact hown _ _ _
  case reasoningBlock =>
    obtain ⟨_, hbl, rfl, rfl⟩ := h
    simp only [projectReasoningBlock, ok_rules] at hbl
    obtain ⟨_, -, _, -, _, -, _, -, _, -, rfl⟩ := hbl
    exact hown _ _ _
  case turnSupplement =>
    obtain ⟨_, hbl, rfl, rfl⟩ := h
    simp only [projectTurnSupplement, ok_rules] at hbl
    obtain ⟨_, -, _, -, rfl⟩ := hbl
    exact hown _ _ _
  case phaseEvent =>
    obtain ⟨_, hbl, rfl, rfl⟩ := h
    simp only [projectPhaseEvent, bind_eq_ok] at hbl
    obtain ⟨stage, -, hbl⟩ := hbl
    split at hbl
    · cases hbl
      exact .nothing
    · simp only [ok_rules] at hbl
      obtain ⟨_, -, _, -, rfl⟩ := hbl
      exact hown _ _ _
  case agentRunStarted | agentRunCompleted | agentRunFailed | agentRunInterrupted =>
    obtain ⟨rfl, rfl⟩ := h
    exact hown _ _ _
  all_goals
    obtain ⟨rfl, rfl⟩ := h
    exact .nothing

end Display

/-! ### The projector -/

inductive TranscriptProjectionUpdateV1 where
  | patch (patch : TranscriptPatchV1)
  | noDisplayChange (sourceHighWater streamId appliedCursor : String)
  | viewInvalidated (sourceHighWater reason : String)
deriving DecidableEq

structure TranscriptProjectorV1 where
  sessionId : String
  index : TranscriptBlockIndexV1
  tools : OpenTools
  lastSequence : Nat
  invalidated : Bool

namespace TranscriptProjectorV1

def new (sessionId projectionGeneration : String) : Outcome TranscriptProjectorV1 := do
  let index ← TranscriptBlockIndexV1.new sessionId projectionGeneration
  pure ⟨sessionId, index, ∅, 0, false⟩

def requireLive (projector : TranscriptProjectorV1) : Outcome Unit :=
  ensure (!projector.invalidated) "transcript projection view is invalidated"

def requireIncreasing (projector : TranscriptProjectorV1) (sequence : Nat) : Outcome Unit :=
  ensure (decide (projector.lastSequence < sequence))
    "transcript projection sequence is not increasing"

def patchOf (projector : TranscriptProjectorV1) (sequence : Nat)
    (streamId appliedCursor : String) (block : TranscriptBlockV1) : TranscriptPatchV1 where
  schema := transcriptPatchSchemaV1
  sessionId := projector.sessionId
  projectionVersion := transcriptProjectionVersionV1
  projectionGeneration := projector.index.projectionGeneration
  sourceHighWater := sequence.repr
  streamId := streamId
  appliedCursor := appliedCursor
  upserts := [block]
  removals := []

/-- The index after a displayed block, or after nothing. -/
def indexBlock (index : TranscriptBlockIndexV1) (sequence : Nat) :
    Option TranscriptBlockV1 → Outcome TranscriptBlockIndexV1
  | some block => index.applyCommitted sequence block
  | none => index.advanceSourceHighWater sequence

/-- The index after one record: what it displays, and the position of its stream. -/
def commitIndex (index : TranscriptBlockIndexV1) (sequence : Nat)
    (streamId appliedCursor : String) (block : Option TranscriptBlockV1) :
    Outcome TranscriptBlockIndexV1 := do
  let index ← indexBlock index sequence block
  index.recordResumeCursor sequence streamId appliedCursor

/-- The projector after a tombstone, which ends its view. -/
def invalidate (projector : TranscriptProjectorV1) (sequence : Nat)
    (streamId appliedCursor : String) : Outcome TranscriptProjectorV1 := do
  let index ← commitIndex projector.index sequence streamId appliedCursor none
  pure { projector with index := index, lastSequence := sequence, invalidated := true }

/-- One record that is no tombstone: the projector after it, and what it displays. -/
def project (projector : TranscriptProjectorV1) (record : SequencedSessionRecord)
    (streamId appliedCursor : String) :
    Outcome (TranscriptProjectorV1 × Option TranscriptBlockV1) := do
  let (tools, block) ← projectBlock contracts projector.tools record
  let index ← commitIndex projector.index record.sequence.toNat streamId appliedCursor block
  pure ({ projector with index := index, tools := tools, lastSequence := record.sequence.toNat },
    block)

def announce (projector : TranscriptProjectorV1) (sequence : Nat)
    (streamId appliedCursor : String) :
    Option TranscriptBlockV1 → Outcome TranscriptProjectionUpdateV1
  | none => pure (.noDisplayChange sequence.repr streamId appliedCursor)
  | some block => do
    let patch := projector.patchOf sequence streamId appliedCursor block
    patch.validate
    pure (.patch patch)

/-- One record: the block goes into the index, the position of its stream is recorded, and a patch
    is emitted. -/
def apply (projector : TranscriptProjectorV1) (record : SequencedSessionRecord)
    (streamId appliedCursor : String) :
    Outcome (TranscriptProjectorV1 × TranscriptProjectionUpdateV1) := do
  projector.requireLive
  validateEventShape contracts record.event
  ensure (record.event.sessionId == projector.sessionId)
    "transcript projection received a cross-session event"
  projector.requireIncreasing record.sequence.toNat
  if record.event.eventType = .tombstone then do
    let projector ← projector.invalidate record.sequence.toNat streamId appliedCursor
    pure (projector, .viewInvalidated record.sequence.toNat.repr "tombstone")
  else do
    let (projector, block) ← projector.project contracts record streamId appliedCursor
    let update ← projector.announce record.sequence.toNat streamId appliedCursor block
    pure (projector, update)

def advanceWithoutDisplay (projector : TranscriptProjectorV1) (sequence : Nat)
    (streamId appliedCursor : String) : Outcome TranscriptProjectorV1 := do
  projector.requireLive
  projector.requireIncreasing sequence
  requireIdentifier streamId "transcript source streamId"
  requireIdentifier appliedCursor "transcript source appliedCursor"
  let index ← commitIndex projector.index sequence streamId appliedCursor none
  pure { projector with index := index, lastSequence := sequence }

/-- A record that displays nothing. -/
def applyEnvelope (projector : TranscriptProjectorV1)
    (envelope : TranscriptProjectionSourceEnvelopeV1) (streamId appliedCursor : String) :
    Outcome (TranscriptProjectorV1 × TranscriptProjectionUpdateV1) := do
  projector.requireLive
  envelope.validate
  ensure (envelope.sessionId == projector.sessionId)
    "transcript projection received a cross-session event envelope"
  projector.requireIncreasing envelope.sequence.toNat
  let requirement ← envelope.transcriptPayloadRequirement
  ensure (requirement == .envelopeOnly)
    ("transcript source type " ++ envelope.eventType.asStr ++ " requires its full payload")
  let projector ← projector.advanceWithoutDisplay envelope.sequence.toNat streamId appliedCursor
  pure (projector, .noDisplayChange envelope.sequence.toNat.repr streamId appliedCursor)

/-! ### What a successful call does -/

variable {contracts} {projector projector' : TranscriptProjectorV1} {sequence : Nat}
  {streamId appliedCursor : String} {record : SequencedSessionRecord}
  {update : TranscriptProjectionUpdateV1}

theorem requireLive_eq_ok_iff {u : Unit} :
    projector.requireLive = .ok u ↔ projector.invalidated = false := by
  simp [requireLive]

theorem project_eq_ok_iff {block : Option TranscriptBlockV1} :
    projector.project contracts record streamId appliedCursor = .ok (projector', block) ↔
      ∃ tools index, projectBlock contracts projector.tools record = .ok (tools, block) ∧
        commitIndex projector.index record.sequence.toNat streamId appliedCursor block =
          .ok index ∧
        projector' = { projector with
          index := index, tools := tools, lastSequence := record.sequence.toNat } := by
  simp only [project, ok_rules, Prod.mk.injEq, Prod.exists]
  constructor
  · rintro ⟨tools, block, hbl, index, hidx, rfl, rfl⟩
    exact ⟨tools, index, hbl, hidx, rfl⟩
  · rintro ⟨tools, index, hbl, hidx, rfl⟩
    exact ⟨tools, block, hbl, index, hidx, rfl, rfl⟩

/-- **One record.** A live projector accepts a record of valid shape, of its session and
    above its last sequence: a tombstone ends the view, any other record is projected
    and announced. -/
theorem apply_eq_ok_iff :
    projector.apply contracts record streamId appliedCursor = .ok (projector', update) ↔
      projector.invalidated = false ∧ validateEventShape contracts record.event = .ok () ∧
      record.event.sessionId = projector.sessionId ∧
      projector.lastSequence < record.sequence.toNat ∧
      ((record.event.eventType = .tombstone ∧
          projector.invalidate record.sequence.toNat streamId appliedCursor = .ok projector' ∧
          update = .viewInvalidated record.sequence.toNat.repr "tombstone") ∨
        (record.event.eventType ≠ .tombstone ∧ ∃ block,
          projector.project contracts record streamId appliedCursor = .ok (projector', block) ∧
          projector'.announce record.sequence.toNat streamId appliedCursor block =
            .ok update)) := by
  simp only [apply, ok_rules, requireLive_eq_ok_iff, requireIncreasing, bool_rules]
  refine and_congr_right fun _ => and_congr_right fun _ => and_congr_right fun _ =>
    and_congr_right fun _ => ?_
  by_cases htombstone : record.event.eventType = .tombstone
  · simp only [htombstone, if_true, ok_rules, Prod.mk.injEq, true_and, ne_eq, not_true_eq_false,
    false_and, or_false]
    constructor
    · rintro ⟨_, h, rfl, rfl⟩
      exact ⟨h, rfl⟩
    · rintro ⟨h, rfl⟩
      exact ⟨projector', h, rfl, rfl⟩
  · simp only [htombstone, if_false, ok_rules, Prod.mk.injEq, false_and, ne_eq, not_false_eq_true,
    true_and, false_or, Prod.exists]
    constructor
    · rintro ⟨_, block, h, _, hupdate, rfl, rfl⟩
      exact ⟨block, h, hupdate⟩
    · rintro ⟨block, h, hupdate⟩
      exact ⟨projector', block, h, update, hupdate, rfl, rfl⟩

theorem advanceWithoutDisplay_eq_ok_iff :
    projector.advanceWithoutDisplay sequence streamId appliedCursor = .ok projector' ↔
      projector.invalidated = false ∧ projector.lastSequence < sequence ∧
      isBlank streamId = false ∧ isBlank appliedCursor = false ∧
      ∃ index, commitIndex projector.index sequence streamId appliedCursor none = .ok index ∧
        projector' = { projector with index := index, lastSequence := sequence } := by
  simp only [advanceWithoutDisplay, ok_rules, requireLive_eq_ok_iff, requireIncreasing,
    requireIdentifier_eq_ok, decide_eq_true_eq]
  refine and_congr_right fun _ => and_congr_right fun _ => and_congr_right fun _ =>
    and_congr_right fun _ => exists_congr fun _ => and_congr_right fun _ => eq_comm

theorem applyEnvelope_eq_ok_iff {envelope : TranscriptProjectionSourceEnvelopeV1} :
    projector.applyEnvelope envelope streamId appliedCursor = .ok (projector', update) ↔
      envelope.validate = .ok () ∧ envelope.sessionId = projector.sessionId ∧
      transcriptEventTypeIsPayloadFree envelope.eventType = true ∧
      projector.advanceWithoutDisplay envelope.sequence.toNat streamId appliedCursor =
        .ok projector' ∧
      update = .noDisplayChange envelope.sequence.toNat.repr streamId appliedCursor := by
  have hrequirement : envelope.validate = .ok () →
      ((∃ requirement, envelope.transcriptPayloadRequirement = .ok requirement ∧
        requirement = .envelopeOnly) ↔
        transcriptEventTypeIsPayloadFree envelope.eventType = true) := by
    intro hval
    simp only [TranscriptProjectionSourceEnvelopeV1.transcriptPayloadRequirement, hval,
      ok_bind, pure_eq_ok, exists_eq_left']
    cases envelope.eventType <;> simp [transcriptEventTypeIsPayloadFree]
  simp only [applyEnvelope, ok_rules, requireLive_eq_ok_iff, requireIncreasing, bool_rules,
    Prod.mk.injEq]
  constructor
  · rintro ⟨-, hval, hses, -, requirement, hrequires, honly, _, hadv, rfl, rfl⟩
    exact ⟨hval, hses, (hrequirement hval).mp ⟨requirement, hrequires, honly⟩, hadv,
      rfl⟩
  · rintro ⟨hval, hses, hfree, hadv, rfl⟩
    obtain ⟨requirement, hrequires, honly⟩ := (hrequirement hval).mpr hfree
    obtain ⟨hlive, hlast, -⟩ := advanceWithoutDisplay_eq_ok_iff.mp hadv
    exact ⟨hlive, hval, hses, hlast, requirement, hrequires, honly, projector', hadv,
      rfl, rfl⟩

variable (codec : CursorCodec)

def pageAt (projector : TranscriptProjectorV1) (sourceHighWater : Nat)
    (olderCursor : Option String) (policy : TranscriptPagePolicyV1) :
    Outcome TranscriptPageV1 := do
  projector.requireLive
  projector.index.pageAt codec sourceHighWater olderCursor policy

end TranscriptProjectorV1

/-! ### A page of a whole log -/

structure TranscriptPageReadRequestV1 where
  sessionId : String
  projectionVersion : String
  projectionGeneration : String
  sourceHighWater : String
  olderCursor : Option String
  policy : TranscriptPagePolicyV1
deriving DecidableEq

def TranscriptPageReadRequestV1.validate (request : TranscriptPageReadRequestV1) :
    Outcome Unit := do
  requireIdentifier request.sessionId "transcript page request sessionId"
  ensure (request.projectionVersion == transcriptProjectionVersionV1)
    "transcript projectionVersion is unsupported"
  requireIdentifier request.projectionGeneration "transcript page request projectionGeneration"
  let _ ← parseDecimalU64 request.sourceHighWater "transcript page request sourceHighWater"
  ensure (request.olderCursor.all fun cursor => !isBlank cursor)
    "transcript page request olderCursor must not be empty"
  let _ ← request.policy.validate
  pure ()

end Centaeris
