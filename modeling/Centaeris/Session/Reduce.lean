import Centaeris.Session.Log

namespace Centaeris

open Foundation

/-!
# The session reducer

`reduceEvents` folds the active records of a log into a `SessionProjection`; a log that
it refuses is not a session log.
-/

variable (contracts : PayloadContracts)

/-! ### Reasoning -/

/-- Model requests, sealed reasoning blocks and sealed runs. -/
structure ReasoningLedger where
  /-- The run, turn and purpose of each model request. -/
  requests : Table String (String × String × String)
  /-- The run, turn and payload of each sealed block. -/
  blocks : Table String (String × String × Json)
  sealedRuns : Finset String

namespace ReasoningLedger

def empty : ReasoningLedger := ⟨∅, ∅, ∅⟩

def applyModelRequest (ledger : ReasoningLedger) (event : SessionLogRecord) :
    Outcome ReasoningLedger := do
  let payload ← payloadObject event
  let requestId ← requiredPayloadString payload "requestId" event
  let agentRunId ← requiredEventAgentRunId event
  let turnId ← requiredEventTurnId event
  let purpose ← requiredPayloadString payload "purpose" event
  match ledger.requests[requestId]? with
  | some existing => do
    ensure (existing == (agentRunId, turnId, purpose)) "model request identity conflict"
    pure ledger
  | none =>
    pure { ledger with requests := ledger.requests.insert requestId (agentRunId, turnId, purpose) }

def applyReasoningBlock (ledger : ReasoningLedger) (event : SessionLogRecord) :
    Outcome ReasoningLedger := do
  let run ← requiredEventAgentRunId event
  let turn ← requiredEventTurnId event
  let payload ← payloadObject event
  let request ← requiredPayloadString payload "requestId" event
  ensure (ledger.requests[request]? == some (run, turn, "main"))
    ("reasoning block must reference a prior main request in the same turn and AgentRun")
  ensure (decide (run ∉ ledger.sealedRuns)) "reasoning block follows AgentRun terminal"
  let block ← requiredPayloadString payload "blockId" event
  ensure (ledger.blocks[block]?.isNone) "reasoning block is already sealed"
  pure { ledger with blocks := ledger.blocks.insert block (run, turn, event.payload) }

def apply (ledger : ReasoningLedger) (event : SessionLogRecord) : Outcome ReasoningLedger :=
  match event.eventType with
  | .modelRequestStarted => ledger.applyModelRequest event
  | .reasoningBlock => ledger.applyReasoningBlock event
  | .agentRunCompleted | .agentRunFailed | .agentRunInterrupted => do
    let run ← requiredEventAgentRunId event
    pure { ledger with sealedRuns := insert run ledger.sealedRuns }
  | _ => pure ledger

end ReasoningLedger

/-! ### The projection -/

inductive ReducedMessageRole where
  | user
  | assistant
deriving DecidableEq

/-- What the projection keeps for each identity. -/
structure ReducedMessage where
  messageId : String
  role : ReducedMessageRole
  turnId : Option String
  agentRunId : Option String
  text : String
  artifactRefs : List String
  status : Option String
  updatedAtMs : Int
deriving DecidableEq

structure ReducedToolCall where
  callId : String
  toolName : String
  turnId : String
  agentRunId : String
  normalizedInput : Json
  resultState : Option ToolResultState
  summary : Option String
deriving DecidableEq

inductive ReducedAgentRunState where
  | running
  | completed
  | failed
  | interrupted
deriving DecidableEq

structure ReducedAgentRun where
  agentRunId : String
  initialTurnId : String
  state : ReducedAgentRunState
  reasonType : Option String
deriving DecidableEq

structure ReducedAgentRunExecution where
  executionId : String
  agentRunId : String
  authorizationDigest : String
  recoveredFromCheckpointId : Option String
  outcome : Option String
  reasonCode : Option String
  retryable : Option Bool
  lastCheckpointId : Option String
  indeterminateToolCallIds : List String
deriving DecidableEq

structure ReducedCitation where
  citationId : String
  inputRef : String
  ownerRef : String
  ownerKind : String
  displayName : String
  evidenceKind : String
  ownerSha256 : String
  locator : Json
  sourceToolCallId : String
deriving DecidableEq

structure ReducedArtifact where
  publicationId : String
  artifactRef : String
  toolCallId : String
  filename : String
  sizeBytes : Nat
  sha256 : String
deriving DecidableEq

/-- The reduced session.  The token breakdown of the latest main request is kept as the
    value that the record carries; its decoder has accepted it. -/
structure SessionProjection where
  reasoning : ReasoningLedger
  hostEventInputs : Table String HostEventInput
  hostEventOwningRuns : Table String String
  messages : Table String ReducedMessage
  toolCalls : Table String ReducedToolCall
  agentRuns : Table String ReducedAgentRun
  agentRunExecutions : Table String ReducedAgentRunExecution
  recoveryAttempts : Table String ExecutionRecoveryAttempt
  citations : Table String ReducedCitation
  artifacts : Table String ReducedArtifact
  artifactOrder : List String
  tombstonedEventIds : Finset String
  agentCompositionByAgentRun : Table String String
  providerUsageByTurn : Table (String ×ₗ String) ProviderTokenUsageV1
  latestProviderUsageTurnId : Option String
  latestProviderUsage : Option ProviderTokenUsageV1
  latestProviderUsageUpdatedAtMs : Option Int
  latestProviderUsageContextTokenEstimate : Option Nat
  sessionProviderUsage : ProviderTokenUsageV1
  latestModelRequestPurpose : Option String
  latestModelRequestAgentRunId : Option String
  latestMainContextTokenEstimate : Option Nat
  latestMainContextTokenBreakdown : Option Json
  contextTokenEstimateUpdatedAtMs : Option Int

namespace SessionProjection

/-- The projection before the first record. -/
def empty : SessionProjection where
  reasoning := .empty
  hostEventInputs := ∅
  hostEventOwningRuns := ∅
  messages := ∅
  toolCalls := ∅
  agentRuns := ∅
  agentRunExecutions := ∅
  recoveryAttempts := ∅
  citations := ∅
  artifacts := ∅
  artifactOrder := []
  tombstonedEventIds := ∅
  agentCompositionByAgentRun := ∅
  providerUsageByTurn := ∅
  latestProviderUsageTurnId := none
  latestProviderUsage := none
  latestProviderUsageUpdatedAtMs := none
  latestProviderUsageContextTokenEstimate := none
  sessionProviderUsage := ⟨none, none, none, none, none⟩
  latestModelRequestPurpose := none
  latestModelRequestAgentRunId := none
  latestMainContextTokenEstimate := none
  latestMainContextTokenBreakdown := none
  contextTokenEstimateUpdatedAtMs := none

/-- Whether an Execution of the run has no outcome yet. -/
def hasOpenExecution (projection : SessionProjection) (agentRunId : String) : Bool :=
  projection.agentRunExecutions.toList.any fun entry =>
    entry.2.agentRunId == agentRunId && entry.2.outcome.isNone

def executionsOf (projection : SessionProjection) (agentRunId : String) :
    List ReducedAgentRunExecution :=
  (projection.agentRunExecutions.toList.map (·.2)).filter (·.agentRunId == agentRunId)

/-- The artifacts that tool calls of the run published, in the order of the session. -/
def artifactRefsOf (projection : SessionProjection) (agentRunId : String) : List String :=
  projection.artifactOrder.filter fun reference =>
    projection.artifacts.toList.any fun entry =>
      entry.2.artifactRef == reference &&
        (projection.toolCalls[entry.2.toolCallId]?).any (·.agentRunId == agentRunId)

end SessionProjection

/-- A tool call that has no result yet. -/
structure OpenToolCall where
  toolName : String
  turnId : String
  agentRunId : String
deriving DecidableEq

/-- The projection with the event ids seen and the open tool calls. -/
structure SessionReduction where
  projection : SessionProjection
  seenEventIds : Finset String
  openToolCallIds : Table String OpenToolCall

/-! ### Runs and Executions -/

/-- One reducer for each record type that changes the projection. -/
def reduceAgentRunStarted (projection : SessionProjection) (event : SessionLogRecord) :
    Outcome SessionProjection := do
  let turnId ← requiredEventTurnId event
  let agentRunId ← requiredEventAgentRunId event
  pure { projection with
    agentRuns := projection.agentRuns.insert agentRunId ⟨agentRunId, turnId, .running, none⟩ }

def reduceRecoveryAttempt (projection : SessionProjection) (event : SessionLogRecord) :
    Outcome SessionProjection := do
  let runId ← requiredEventAgentRunId event
  let attempt ← executionRecoveryAttempt event
  ensure ((projection.agentRuns[runId]?).any (·.state == .running) &&
      !projection.hasOpenExecution runId)
    "execution recovery attempt is out of sequence"
  let previous := ((projection.recoveryAttempts[runId]?).map (·.number)).getD 0
  ensure (decide (previous + 1 < 2 ^ 64)) "execution recovery attempt overflow"
  ensure (attempt.number == previous + 1) "execution recovery attempt is out of sequence"
  pure { projection with
    recoveryAttempts := projection.recoveryAttempts.insert runId attempt }

def reduceAgentRunExecutionStarted (projection : SessionProjection) (event : SessionLogRecord) :
    Outcome SessionProjection := do
  let agentRunId ← requiredEventAgentRunId event
  let agentRun ← orFail projection.agentRuns[agentRunId]?
    (recordError event "Execution precedes AgentRun start")
  ensure (agentRun.state == .running)
    (recordError event "cannot start Execution for terminal AgentRun")
  ensure (!projection.hasOpenExecution agentRunId)
    (recordError event "AgentRun already has an active Execution")
  let payload ← payloadObject event
  let executionId ← requiredPayloadString payload "executionId" event
  ensure (projection.agentRunExecutions[executionId]?.isNone)
    (recordError event ("duplicates executionId " ++ executionId))
  let recoveredFromCheckpointId ← optionalPayloadString payload "recoveredFromCheckpointId" event
  let priorExecutions := projection.executionsOf agentRunId
  ensure (priorExecutions.isEmpty == recoveredFromCheckpointId.isNone)
    (recordError event "Execution recovery lineage is invalid")
  ensure (!recoveredFromCheckpointId.any fun checkpointId =>
      priorExecutions.any (·.recoveredFromCheckpointId == some checkpointId))
    (recordError event "recovery checkpoint already started a replacement Execution")
  let authorizationDigest ← requiredPayloadString payload "authorizationDigest" event
  pure { projection with
    agentRunExecutions := projection.agentRunExecutions.insert executionId
      ⟨executionId, agentRunId, authorizationDigest, recoveredFromCheckpointId, none, none, none,
        none, []⟩ }

def reduceAgentRunExecutionEnded (projection : SessionProjection) (event : SessionLogRecord) :
    Outcome SessionProjection := do
  let agentRunId ← requiredEventAgentRunId event
  let payload ← payloadObject event
  let executionId ← requiredPayloadString payload "executionId" event
  let execution ← orFail projection.agentRunExecutions[executionId]?
    (recordError event ("ends unknown Execution " ++ executionId))
  ensure (execution.agentRunId == agentRunId && execution.outcome.isNone)
    (recordError event "Execution terminal identity is invalid")
  let outcome ← requiredPayloadString payload "outcome" event
  let reasonCode ← requiredPayloadString payload "reasonCode" event
  let retryable ← requiredPayloadBool payload "retryable" event
  let lastCheckpointId ← optionalPayloadString payload "lastCheckpointId" event
  let toolCallIds ← requiredPayloadArray payload "indeterminateToolCallIds" event
  let indeterminate ← toolCallIds.mapM fun value =>
    orPanic value.asString? "validated tool call id"
  pure { projection with
    agentRunExecutions := projection.agentRunExecutions.insert executionId
      { execution with
        outcome := some outcome
        reasonCode := some reasonCode
        retryable := some retryable
        lastCheckpointId := lastCheckpointId
        indeterminateToolCallIds := indeterminate } }

/-- Whether a run may end in a state with the given status of its assistant message. -/
def checkTerminalAssistant (event : SessionLogRecord) (state : ReducedAgentRunState)
    (status : Option String) : Outcome Unit :=
  match state with
  | .completed => ensure (status == some "done")
      (recordError event "completed AgentRun requires one done assistant message")
  | .failed | .interrupted => ensure (status.all fun text => text == "done" || text == "error")
      (recordError event "terminal AgentRun assistant state is invalid")
  | .running => .error (.panicked "terminal reducer received running state")

def reduceTerminalAgentRun (projection : SessionProjection) (event : SessionLogRecord)
    (state : ReducedAgentRunState) : Outcome SessionProjection := do
  let turnId ← requiredEventTurnId event
  let agentRunId ← requiredEventAgentRunId event
  let payload ← payloadObject event
  ensure (!projection.hasOpenExecution agentRunId)
    (recordError event "terminal AgentRun has an active Execution")
  let reasonType := ((payload.lookup "reasonType").or (payload.lookup "doneReason")).bind
    Json.asString?
  let assistant := (projection.messages.toList.map (·.2)).find? fun message =>
    message.role == .assistant && message.agentRunId == some agentRunId
  checkTerminalAssistant event state (assistant.bind (·.status))
  pure { projection with
    agentRuns := projection.agentRuns.insert agentRunId ⟨agentRunId, turnId, state, reasonType⟩ }

/-! ### Messages -/

def userMessageOf (event : SessionLogRecord) (messageId text : String) : ReducedMessage :=
  ⟨messageId, .user, event.turnId, event.agentRunId, text, [], some "done", event.createdAtMs⟩

def reduceUserMessage (projection : SessionProjection) (event : SessionLogRecord) :
    Outcome SessionProjection := do
  let payload ← payloadObject event
  let messageId ← requiredPayloadString payload "messageId" event
  let text ← requiredPayloadString payload "text" event
  pure { projection with
    messages := projection.messages.insert messageId (userMessageOf event messageId text) }

def reduceTurnSupplement (projection : SessionProjection) (event : SessionLogRecord) :
    Outcome SessionProjection := do
  let payload ← payloadObject event
  let messageId ← requiredPayloadString payload "messageId" event
  let text ← requiredPayloadStringAllowEmpty payload "message" event
  ensure (projection.messages[messageId]?.isNone)
    (recordError event "turn supplement messageId is duplicated")
  pure { projection with
    messages := projection.messages.insert messageId (userMessageOf event messageId text) }

def reduceHostEventInput (projection : SessionProjection) (event : SessionLogRecord) :
    Outcome SessionProjection := do
  let input ← decodeHostEventInput contracts event
  let agentRunId ← requiredEventAgentRunId event
  ensure (projection.hostEventInputs[input.messageId]?.isNone)
    "host_event_input_identity_duplicated"
  pure { projection with
    hostEventOwningRuns := projection.hostEventOwningRuns.insert input.messageId agentRunId
    hostEventInputs := projection.hostEventInputs.insert input.messageId input }

/-- The checks of a final message against an earlier message of the same id. -/
def checkExistingAssistant (event : SessionLogRecord) (existing : ReducedMessage) :
    Outcome Unit := do
  ensure (existing.role == .assistant)
    (recordError event "assistant messageId collides with a user message")
  ensure (existing.turnId == event.turnId)
    (recordError event "assistant message turn identity mismatch")
  ensure (existing.agentRunId == event.agentRunId)
    (recordError event "assistant message AgentRun identity mismatch")
  ensure (!existing.status.any fun committed => committed == "done" || committed == "error")
    (recordError event "assistant message written after final")

def reduceAssistantMessage (projection : SessionProjection) (event : SessionLogRecord) :
    Outcome SessionProjection := do
  let payload ← payloadObject event
  let messageId ← requiredPayloadString payload "messageId" event
  let agentRunId ← requiredEventAgentRunId event
  ensure (!projection.messages.toList.any fun entry =>
      entry.2.role == .assistant && entry.2.agentRunId == some agentRunId &&
        entry.2.messageId != messageId)
    (recordError event "task has multiple sealed assistant messages")
  let text ← requiredPayloadStringAllowEmpty payload "modelMarkdown" event
  let references ← orPanic ((payload.lookup "artifactRefs").bind Json.asArray?)
    "validated artifactRefs"
  let artifactRefs ← references.mapM fun value =>
    orPanic value.asString? "validated artifact ref"
  ensure (artifactRefs == projection.artifactRefsOf agentRunId)
    (recordError event "assistant artifactRefs do not match published order")
  let status ← requiredPayloadString payload "status" event
  projection.messages[messageId]?.forM (checkExistingAssistant event)
  pure { projection with
    messages := projection.messages.insert messageId
      ⟨messageId, .assistant, event.turnId, event.agentRunId, text, artifactRefs, some status,
        event.createdAtMs⟩ }

/-! ### Tool calls -/

/-- The projection and the open tool calls, as the reducers of tool records change them. -/
abbrev ToolReduction := SessionProjection × Table String OpenToolCall

def reduceToolCall (projection : SessionProjection) (openToolCallIds : Table String OpenToolCall)
    (event : SessionLogRecord) : Outcome ToolReduction := do
  let payload ← payloadObject event
  let callId ← requiredPayloadString payload "callId" event
  let toolName ← requiredPayloadString payload "toolName" event
  let turnId ← requiredEventTurnId event
  let agentRunId ← requiredEventAgentRunId event
  let normalizedInput ← orPanic (payload.lookup "normalizedInput") "validated normalizedInput"
  pure ({ projection with
      toolCalls := projection.toolCalls.insert callId
        ⟨callId, toolName, turnId, agentRunId, normalizedInput, none, none⟩ },
    openToolCallIds.insert callId ⟨toolName, turnId, agentRunId⟩)

/-- The result of a tool call, or its closure after a recovery. -/
def reduceToolResult (projection : SessionProjection) (openToolCallIds : Table String OpenToolCall)
    (event : SessionLogRecord) : Outcome ToolReduction := do
  let payload ← payloadObject event
  let callId ← requiredPayloadString payload "callId" event
  let toolName ← requiredPayloadString payload "toolName" event
  let resultState ← parseResultState contracts payload event
  let summary ← requiredPayloadString payload "summary" event
  let expected ← orFail openToolCallIds[callId]?
    (recordError event ("tool_result has no matching tool_call for callId " ++ callId))
  ensure (expected.toolName == toolName)
    (recordError event ("tool_result toolName " ++ toolName ++ " does not match tool_call " ++
      expected.toolName))
  let call ← orPanic projection.toolCalls[callId]? "matching tool_call projection"
  pure ({ projection with
      toolCalls := projection.toolCalls.insert callId
        ⟨callId, toolName, expected.turnId, expected.agentRunId, call.normalizedInput,
          some resultState, some summary⟩ },
    openToolCallIds.erase callId)

def reduceCitationRecorded (projection : SessionProjection) (event : SessionLogRecord) :
    Outcome SessionProjection := do
  let payload ← payloadObject event
  let citationId ← requiredPayloadString payload "citationId" event
  let sourceToolCallId ← requiredPayloadString payload "sourceToolCallId" event
  let call ← orFail projection.toolCalls[sourceToolCallId]?
    (recordError event "citation has no source tool call")
  let turnId ← requiredEventTurnId event
  let agentRunId ← requiredEventAgentRunId event
  ensure (call.turnId == turnId && call.agentRunId == agentRunId)
    (recordError event "citation source tool belongs to another turn/task")
  let toolName ← requiredPayloadString payload "sourceToolName" event
  ensure (call.toolName == toolName && call.resultState.any (·.isSuccess))
    (recordError event "citation source must be a successful knowledge result")
  ensure (projection.citations[citationId]?.isNone)
    (recordError event ("duplicates citationId " ++ citationId))
  let inputRef ← requiredPayloadString payload "inputRef" event
  let ownerRef ← requiredPayloadString payload "ownerRef" event
  let ownerKind ← requiredPayloadString payload "ownerKind" event
  let displayName ← requiredPayloadString payload "displayName" event
  let evidenceKind ← requiredPayloadString payload "evidenceKind" event
  let ownerSha256 ← requiredPayloadString payload "ownerSha256" event
  let locator ← orFail (payload.lookup "locator") (recordError event "citation locator missing")
  pure { projection with
    citations := projection.citations.insert citationId
      ⟨citationId, inputRef, ownerRef, ownerKind, displayName, evidenceKind, ownerSha256, locator,
        sourceToolCallId⟩ }

/-- The publication that a record describes. -/
def readArtifact (payload : Payload) (event : SessionLogRecord) (toolCallId : String) :
    Outcome ReducedArtifact := do
  let publicationId ← requiredPayloadString payload "publicationId" event
  let artifactRef ← requiredPayloadString payload "artifactRef" event
  let filename ← requiredPayloadString payload "filename" event
  let sizeBytes ← orPanic ((payload.lookup "sizeBytes").bind Json.asU64?)
    "validated artifact sizeBytes"
  let sha256 ← requiredPayloadString payload "sha256" event
  pure ⟨publicationId, artifactRef, toolCallId, filename, sizeBytes, sha256⟩

def reduceArtifactPublished (projection : SessionProjection) (event : SessionLogRecord) :
    Outcome SessionProjection := do
  let payload ← payloadObject event
  let toolCallId ← requiredPayloadString payload "toolCallId" event
  let call ← orFail projection.toolCalls[toolCallId]?
    (recordError event "artifact publication has no tool call")
  let turnId ← requiredEventTurnId event
  let agentRunId ← requiredEventAgentRunId event
  ensure (call.turnId == turnId && call.agentRunId == agentRunId)
    (recordError event "artifact publication tool belongs to another turn/task")
  ensure (call.resultState.any (·.isSuccess))
    (recordError event "artifact publication tool result is not successful")
  let publication ← readArtifact payload event toolCallId
  match projection.artifacts[publication.publicationId]? with
  | some existing => do
    ensure (existing == publication)
      (recordError event "artifact publication identity conflict")
    pure projection
  | none =>
    pure { projection with
      artifactOrder :=
        if projection.artifactOrder.contains publication.artifactRef then projection.artifactOrder
        else projection.artifactOrder ++ [publication.artifactRef]
      artifacts := projection.artifacts.insert publication.publicationId publication }

/-! ### Model requests and usage -/

def reduceModelRequestStarted (projection : SessionProjection) (event : SessionLogRecord) :
    Outcome SessionProjection := do
  let purpose ← orPanic ((event.payload.get? "purpose").bind Json.asString?)
    "validated model request purpose"
  let agentRunId ← requiredEventAgentRunId event
  let projection := { projection with
    latestModelRequestPurpose := some purpose
    latestModelRequestAgentRunId := some agentRunId }
  if purpose ≠ "main" then pure projection
  else do
    let estimate ← orPanic ((event.payload.get? "contextTokenEstimate").bind Json.asU64?)
      "validated context token estimate"
    let breakdown ← orPanic (event.payload.get? "contextTokenBreakdown")
      "validated context token breakdown"
    let digest ← orPanic (((event.payload.get? "agentComposition").bind
      (·.get? "compositionDigest")).bind Json.asString?) "validated agent composition digest"
    let projection := { projection with
      latestMainContextTokenEstimate := some estimate
      latestMainContextTokenBreakdown := some breakdown
      contextTokenEstimateUpdatedAtMs := some event.createdAtMs }
    match projection.agentCompositionByAgentRun[agentRunId]? with
    | some existing => do
      ensure (existing == digest)
        (recordError event ("changes immutable agent composition for AgentRun " ++ agentRunId))
      pure projection
    | none =>
      pure { projection with
        agentCompositionByAgentRun :=
          projection.agentCompositionByAgentRun.insert agentRunId digest }

/-- The sum of two token counts, of which one may be missing. -/
def addTokens (left right : Option Nat) (field : String) : Outcome (Option Nat) :=
  match left, right with
  | none, none => pure none
  | _, _ => do
    let sum := left.getD 0 + right.getD 0
    ensure (decide (sum < 2 ^ 64)) ("provider_usage_" ++ field ++ "_overflow")
    pure (some sum)

def ProviderTokenUsageV1.checkedAdd (usage other : ProviderTokenUsageV1) :
    Outcome ProviderTokenUsageV1 := do
  let inputTokens ← addTokens usage.inputTokens other.inputTokens "input_tokens"
  let outputTokens ← addTokens usage.outputTokens other.outputTokens "output_tokens"
  let totalTokens ← addTokens usage.totalTokens other.totalTokens "total_tokens"
  let hitTokens ← addTokens usage.promptCacheHitTokens other.promptCacheHitTokens
    "prompt_cache_hit_tokens"
  let missTokens ← addTokens usage.promptCacheMissTokens other.promptCacheMissTokens
    "prompt_cache_miss_tokens"
  pure ⟨inputTokens, outputTokens, totalTokens, hitTokens, missTokens⟩

def reduceProviderUsage (projection : SessionProjection) (event : SessionLogRecord) :
    Outcome SessionProjection := do
  let turnId ← requiredEventTurnId event
  let agentRunId ← requiredEventAgentRunId event
  let usage ← orPanic (contracts.providerUsage event.payload).toOption "validated provider usage"
  ensure (projection.providerUsageByTurn[toLex (agentRunId, turnId)]?.isNone)
    (recordError event ("duplicates provider_usage for turn " ++ turnId))
  let total ← projection.sessionProviderUsage.checkedAdd usage
  pure { projection with
    providerUsageByTurn := projection.providerUsageByTurn.insert (toLex (agentRunId, turnId)) usage
    sessionProviderUsage := total
    latestProviderUsageTurnId := some turnId
    latestProviderUsage := some usage
    latestProviderUsageUpdatedAtMs := some event.createdAtMs
    latestProviderUsageContextTokenEstimate := projection.latestMainContextTokenEstimate }

/-! ### The reducer -/

def reduceTombstoneTarget (event : SessionLogRecord) (targets : Finset String) (target : Json) :
    Outcome (Finset String) := do
  let targetId ← orFail (target.asString?.bind trimmedText?)
    (recordError event "payload.targetEventIds must contain strings")
  pure (insert targetId targets)

def reduceTombstone (projection : SessionProjection) (event : SessionLogRecord) :
    Outcome SessionProjection := do
  let payload ← payloadObject event
  let targetEventIds ← requiredPayloadArray payload "targetEventIds" event
  let targets ← targetEventIds.foldlM (reduceTombstoneTarget event) projection.tombstonedEventIds
  pure { projection with tombstonedEventIds := targets }

def reduceRecord (projection : SessionProjection) (openToolCallIds : Table String OpenToolCall)
    (event : SessionLogRecord) : Outcome ToolReduction :=
  let keep (result : Outcome SessionProjection) : Outcome ToolReduction := do
    let projection ← result
    pure (projection, openToolCallIds)
  match event.eventType with
  | .reasoningBlock => keep (pure projection)
  | .agentRunStarted => keep (reduceAgentRunStarted projection event)
  | .agentRunRecoveryAttempted => keep (reduceRecoveryAttempt projection event)
  | .agentRunExecutionStarted => keep (reduceAgentRunExecutionStarted projection event)
  | .agentRunExecutionEnded => keep (reduceAgentRunExecutionEnded projection event)
  | .userMessage => keep (reduceUserMessage projection event)
  | .hostEventInput => keep (reduceHostEventInput contracts projection event)
  | .turnSupplement => keep (reduceTurnSupplement projection event)
  | .assistantMessage => keep (reduceAssistantMessage projection event)
  | .toolCallClosure => reduceToolResult contracts projection openToolCallIds event
  | .toolCall => reduceToolCall projection openToolCallIds event
  | .toolResult => reduceToolResult contracts projection openToolCallIds event
  | .modelRequestStarted => keep (reduceModelRequestStarted projection event)
  | .providerUsage => keep (reduceProviderUsage contracts projection event)
  | .citationRecorded => keep (reduceCitationRecorded projection event)
  | .artifactPublished => keep (reduceArtifactPublished projection event)
  | .tombstone => keep (reduceTombstone projection event)
  | .agentRunCompleted => keep (reduceTerminalAgentRun projection event .completed)
  | .agentRunFailed => keep (reduceTerminalAgentRun projection event .failed)
  | .agentRunInterrupted => keep (reduceTerminalAgentRun projection event .interrupted)
  | .sessionMeta | .phaseEvent | .externalEvidenceRef | .fileFact | .compaction
  | .checkpointRef => keep (pure projection)

def reduceEvent (expectedSessionId : String) (state : SessionReduction)
    (event : SessionLogRecord) : Outcome SessionReduction := do
  let expectedSessionId := trim expectedSessionId
  validateEventShape contracts event
  ensure (event.sessionId == expectedSessionId)
    ("session.event.v1 cross-session event " ++ event.eventId ++ " belongs to " ++
      event.sessionId ++ " but expected " ++ expectedSessionId)
  ensure (decide (event.eventId ∉ state.seenEventIds))
    ("session.event.v1 duplicate eventId: " ++ event.eventId)
  let reasoning ← state.projection.reasoning.apply event
  let (projection, openToolCallIds) ← reduceRecord contracts
    { state.projection with reasoning := reasoning } state.openToolCallIds event
  pure ⟨projection, insert event.eventId state.seenEventIds, openToolCallIds⟩

def reduceActive (expectedSessionId : String) (targets : Finset String)
    (events : List SessionLogRecord) : Outcome SessionReduction :=
  events.foldlM (reduceEvent contracts expectedSessionId)
    ⟨{ SessionProjection.empty with tombstonedEventIds := targets }, ∅, ∅⟩

def reduceEvents (expectedSessionId : String) (events : List SessionLogRecord) :
    Outcome SessionProjection := do
  let expectedSessionId := trim expectedSessionId
  ensure (expectedSessionId != "") "expected sessionId is required"
  let targets ← activeTombstoneTargets contracts expectedSessionId events
  let state ← reduceActive contracts expectedSessionId targets (events.filter (isActive targets))
  pure state.projection

end Centaeris
