import Centaeris.Session.Ledger

namespace Centaeris

open Foundation

/-!
# The recording methods of a ledger

A recording method builds one or more records from its arguments and from the identity of
the ledger, and hands them to `AgentRunSessionState.record`.
-/

variable (contracts : PayloadContracts)

/-! ### Builders -/

/-- Records with their event ids and payloads; the members of a built object stand in the order of
    their keys. -/
def canonicalSessionRecord (eventId : String) (eventType : SessionRecordType)
    (sessionId turnId agentRunId : String) (createdAtMs : Int) (payload : Json) :
    Outcome SessionLogRecord := do
  let event : SessionLogRecord :=
    { schemaVersion := sessionEventSchemaVersion
      eventVersion := eventType.eventVersion
      eventType := eventType
      eventId := eventId
      sessionId := sessionId
      turnId := some turnId
      agentRunId := some agentRunId
      createdAtMs := createdAtMs
      payload := payload }
  validateEventShape contracts event
  pure event

def timedEventId (kind sessionId turnId : String) (createdAtMs : Int) : String :=
  "evt:" ++ kind ++ ":" ++ sessionId ++ ":" ++ turnId ++ ":" ++ toString createdAtMs

/-- A text that may be missing. -/
def optionalText (text : Option String) : Json := (text.map Json.string).getD .null

def optionalNumber (number : Option Nat) : Json :=
  (number.map fun n => Json.number (.posInt n)).getD .null

def startedAgentRunRecord (sessionId turnId agentRunId userObjective : String)
    (createdAtMs : Int) : Outcome SessionLogRecord :=
  canonicalSessionRecord contracts (timedEventId "agent_run_started" sessionId turnId createdAtMs)
    .agentRunStarted sessionId turnId agentRunId createdAtMs
    (.object [("userObjective", .string userObjective)])

def startedUserMessageRecord (sessionId turnId agentRunId userObjective : String)
    (attachments : List Json) (createdAtMs : Int) : Outcome SessionLogRecord :=
  canonicalSessionRecord contracts (timedEventId "user_message" sessionId turnId createdAtMs)
    .userMessage sessionId turnId agentRunId createdAtMs
    (.object [("attachments", .array attachments),
      ("messageId", .string ("message:" ++ turnId ++ ":user")), ("text", .string userObjective)])

def startedAgentRunRecordsWithAttachments (sessionId turnId agentRunId userObjective : String)
    (attachments : List Json) (createdAtMs : Int) :
    Outcome (SessionLogRecord × SessionLogRecord) := do
  let turn ← startedAgentRunRecord contracts sessionId turnId agentRunId userObjective createdAtMs
  let message ← startedUserMessageRecord contracts sessionId turnId agentRunId userObjective
    attachments createdAtMs
  pure (turn, message)

def UserInputAttachment.toJson (attachment : UserInputAttachment) : Json :=
  .object [("contentType", .string attachment.contentType),
    ("displayName", .string attachment.displayName), ("inputRef", .string attachment.inputRef)]

def turnSupplementRecordWithAttachments (sessionId turnId agentRunId supplementId message : String)
    (attachments : List UserInputAttachment) (createdAtMs : Int) : Outcome SessionLogRecord := do
  validateTurnSupplementId supplementId
  validateUserInput message attachments
  let attached := if attachments.isEmpty then []
    else [("attachments", Json.array (attachments.map UserInputAttachment.toJson))]
  let nul := String.singleton (Char.ofNat 0)
  canonicalSessionRecord contracts
    ("evt:turn_supplement:" ++ contracts.sha256Hex
      (utf8Bytes (sessionId ++ nul ++ turnId ++ nul ++ supplementId)))
    .turnSupplement sessionId turnId agentRunId createdAtMs
    (.object (attached ++ [("message", .string message),
      ("messageId", .string ("message:" ++ turnId ++ ":supplement:" ++ supplementId)),
      ("supplementId", .string supplementId)]))

def assistantMessageId (turnId : String) : String := "message:" ++ turnId ++ ":assistant"

def sealedAssistantMessageRecordWithArtifactRefs (sessionId turnId agentRunId modelMarkdown : String)
    (artifactRefs : List String) (status : String) (createdAtMs : Int) :
    Outcome SessionLogRecord :=
  canonicalSessionRecord contracts (timedEventId "assistant_message" sessionId turnId createdAtMs)
    .assistantMessage sessionId turnId agentRunId createdAtMs
    (.object [("artifactRefs", .array (artifactRefs.map .string)),
      ("messageId", .string (assistantMessageId turnId)),
      ("modelMarkdown", .string modelMarkdown), ("status", .string status)])

def ProviderTokenUsageV1.toJson (usage : ProviderTokenUsageV1) : Json :=
  .object [("inputTokens", optionalNumber usage.inputTokens),
    ("outputTokens", optionalNumber usage.outputTokens),
    ("promptCacheHitTokens", optionalNumber usage.promptCacheHitTokens),
    ("promptCacheMissTokens", optionalNumber usage.promptCacheMissTokens),
    ("totalTokens", optionalNumber usage.totalTokens)]

def providerUsageRecord (sessionId turnId agentRunId : String) (usage : ProviderTokenUsageV1)
    (createdAtMs : Int) : Outcome SessionLogRecord := do
  usage.validate
  canonicalSessionRecord contracts ("evt:provider_usage:" ++ sessionId ++ ":" ++ turnId)
    .providerUsage sessionId turnId agentRunId createdAtMs usage.toJson

def HostEventInput.toJson (input : HostEventInput) : Json :=
  .object [("content", .string input.content), ("inputId", .string input.inputId),
    ("messageId", .string input.messageId), ("source", .string input.source)]

def hostEventInputRecord (sessionId turnId agentRunId : String) (input : HostEventInput)
    (createdAtMs : Int) : Outcome SessionLogRecord := do
  input.validate contracts sessionId
  canonicalSessionRecord contracts
    (stableSessionEventId contracts "host_event_input" [sessionId, input.inputId])
    .hostEventInput sessionId turnId agentRunId createdAtMs input.toJson

def completedAgentRunRecord (sessionId turnId agentRunId doneReason : String)
    (createdAtMs : Int) : Outcome SessionLogRecord :=
  canonicalSessionRecord contracts (timedEventId "agent_run_completed" sessionId turnId createdAtMs)
    .agentRunCompleted sessionId turnId agentRunId createdAtMs
    (.object [("doneReason", .string doneReason)])

def failedAgentRunRecord (sessionId turnId agentRunId reasonType message : String)
    (createdAtMs : Int) : Outcome SessionLogRecord :=
  canonicalSessionRecord contracts (timedEventId "agent_run_failed" sessionId turnId createdAtMs)
    .agentRunFailed sessionId turnId agentRunId createdAtMs
    (.object [("message", .string message), ("reasonType", .string reasonType)])

def interruptedAgentRunRecord (sessionId turnId agentRunId reasonType message : String)
    (retryable : Bool) (createdAtMs : Int) : Outcome SessionLogRecord :=
  canonicalSessionRecord contracts
    (timedEventId "agent_run_interrupted" sessionId turnId createdAtMs)
    .agentRunInterrupted sessionId turnId agentRunId createdAtMs
    (.object [("message", .string message), ("reasonType", .string reasonType),
      ("retryable", .bool retryable)])

inductive CheckpointKindV1 where
  | wait
  | recovery
deriving DecidableEq

def CheckpointKindV1.asStr : CheckpointKindV1 → String
  | .wait => "wait"
  | .recovery => "recovery"

/-- A committed checkpoint, by its content identity. -/
structure TurnCheckpointRef where
  checkpointId : String
  kind : CheckpointKindV1
  sessionId : String
  turnId : String
  status : String
  updatedAtMs : Int
  payloadSha256 : String
  payloadByteLength : Nat

def checkpointRefRecord (sessionId agentRunId : String) (checkpoint : TurnCheckpointRef) :
    Outcome SessionLogRecord :=
  canonicalSessionRecord contracts
    ("evt:checkpoint_ref:" ++ sessionId ++ ":" ++ checkpoint.checkpointId)
    .checkpointRef sessionId checkpoint.turnId agentRunId checkpoint.updatedAtMs
    (.object [("checkpointId", .string checkpoint.checkpointId),
      ("kind", .string checkpoint.kind.asStr),
      ("objectRef", .string ("checkpoint-object:" ++ checkpoint.payloadSha256)),
      ("payloadByteLength", .number (.posInt checkpoint.payloadByteLength)),
      ("payloadSha256", .string checkpoint.payloadSha256),
      ("status", .string checkpoint.status), ("updatedAtMs", intNumber checkpoint.updatedAtMs)])

def fileFactRecord (sessionId turnId agentRunId : String) (next : UInt64) (payload : Json)
    (createdAtMs : Int) : Outcome SessionLogRecord :=
  let digest := sessionPayloadDigest contracts payload
  canonicalSessionRecord contracts
    ("evt:file_fact:" ++ agentRunId ++ ":" ++ next.toNat.repr ++ ":" ++
      String.ofList (digest.toList.take 16))
    .fileFact sessionId turnId agentRunId createdAtMs payload

namespace AgentRunSessionState

/-! ### Methods of a run -/

def recordBuilt (build : AgentRunSessionState → Outcome SessionLogRecord) :
    Call SequencedSessionRecord := do
  let event ← Mutation.query build
  record contracts event

/-- The same for a record that may be there already. -/
def recordUnlessKnown (build : AgentRunSessionState → Outcome (Option SessionLogRecord)) :
    Call (Option SequencedSessionRecord) := do
  match ← Mutation.query build with
  | some event => do
    let sequenced ← record contracts event
    pure (some sequenced)
  | none => pure none

def turnEvent (turnId : String) (eventType : SessionRecordType) (payload : Json)
    (createdAtMs : Int) (ledger : AgentRunSessionState) : Outcome SessionLogRecord := do
  ensure (!isBlank turnId) "session record turnId is required"
  let sequence ← ledger.nextSequence
  canonicalSessionRecord contracts
    ("event:" ++ ledger.agentRunId ++ ":" ++ sequence.toNat.repr) eventType ledger.sessionId
    turnId ledger.agentRunId createdAtMs payload

/-- The methods of a run. -/
def eventForTurn (turnId : String) (eventType : SessionRecordType) (payload : Json)
    (createdAtMs : Int) : Call SequencedSessionRecord :=
  recordBuilt contracts (turnEvent contracts turnId eventType payload createdAtMs)

def start (turnId userObjective : String) (attachments : List Json) (createdAtMs : Int) :
    Call (List SequencedSessionRecord) := do
  let (turn, message) ← Mutation.query fun ledger =>
    startedAgentRunRecordsWithAttachments contracts ledger.sessionId turnId ledger.agentRunId
      userObjective attachments createdAtMs
  let first ← record contracts turn
  let second ← record contracts message
  pure [first, second]

def executionStartPayload (executionId authorizationDigest : String)
    (recoveredFromCheckpointId : Option String) : Json :=
  .object [("authorizationDigest", .string authorizationDigest),
    ("executionId", .string executionId),
    ("recoveredFromCheckpointId", optionalText recoveredFromCheckpointId)]

def startExecution (turnId executionId authorizationDigest : String)
    (recoveredFromCheckpointId : Option String) (createdAtMs : Int) :
    Call SequencedSessionRecord :=
  eventForTurn contracts turnId .agentRunExecutionStarted
    (executionStartPayload executionId authorizationDigest recoveredFromCheckpointId) createdAtMs

def executionEndPayload (executionId outcome reasonCode : String) (retryable : Bool)
    (lastCheckpointId : Option String) (indeterminateToolCallIds : List String) : Json :=
  .object [("executionId", .string executionId),
    ("indeterminateToolCallIds", .array (indeterminateToolCallIds.map .string)),
    ("lastCheckpointId", optionalText lastCheckpointId), ("outcome", .string outcome),
    ("reasonCode", .string reasonCode), ("retryable", .bool retryable)]

def endExecution (turnId executionId outcome reasonCode : String) (retryable : Bool)
    (lastCheckpointId : Option String) (indeterminateToolCallIds : List String)
    (createdAtMs : Int) : Call SequencedSessionRecord :=
  eventForTurn contracts turnId .agentRunExecutionEnded
    (executionEndPayload executionId outcome reasonCode retryable lastCheckpointId
      indeterminateToolCallIds) createdAtMs

/-- The record of a supplement that is not committed yet. -/
def supplementOffer (turnId supplementId message : String)
    (attachments : List UserInputAttachment) (createdAtMs : Int)
    (ledger : AgentRunSessionState) : Outcome (Option SessionLogRecord) :=
  if supplementId ∈ ledger.committedSupplementIds then pure none
  else do
    let event ← turnSupplementRecordWithAttachments contracts ledger.sessionId turnId
      ledger.agentRunId supplementId message attachments createdAtMs
    pure (some event)

def supplementWithAttachments (turnId supplementId message : String)
    (attachments : List UserInputAttachment) (createdAtMs : Int) :
    Call (Option SequencedSessionRecord) :=
  recordUnlessKnown contracts
    (supplementOffer contracts turnId supplementId message attachments createdAtMs)

/-- The record of a final message that is not committed yet. -/
def assistantOffer (turnId modelMarkdown : String) (artifactRefs : List String) (status : String)
    (createdAtMs : Int) (ledger : AgentRunSessionState) : Outcome (Option SessionLogRecord) :=
  if ledger.assistantIsFinal (assistantMessageId turnId) then pure none
  else do
    let event ← sealedAssistantMessageRecordWithArtifactRefs contracts ledger.sessionId turnId
      ledger.agentRunId modelMarkdown artifactRefs status createdAtMs
    pure (some event)

def assistant (turnId modelMarkdown : String) (artifactRefs : List String) (status : String)
    (createdAtMs : Int) : Call (Option SequencedSessionRecord) :=
  recordUnlessKnown contracts
    (assistantOffer contracts turnId modelMarkdown artifactRefs status createdAtMs)

/-- The record of a usage that is not committed yet. -/
def providerUsageOffer (turnId : String) (usage : ProviderTokenUsageV1) (createdAtMs : Int)
    (ledger : AgentRunSessionState) : Outcome (Option SessionLogRecord) := do
  let event ← Centaeris.providerUsageRecord contracts ledger.sessionId turnId ledger.agentRunId
    usage createdAtMs
  match ledger.providerUsages[turnId]? with
  | some committed => do
    ensure (committed == event.payload) ("provider usage turn idempotency conflict: " ++ turnId)
    pure none
  | none => pure (some event)

def providerUsageRecord (turnId : String) (usage : ProviderTokenUsageV1) (createdAtMs : Int) :
    Call (Option SequencedSessionRecord) :=
  recordUnlessKnown contracts (providerUsageOffer contracts turnId usage createdAtMs)

/-- The record of a notification that is not accepted yet. -/
def hostEventInputOffer (turnId : String) (input : HostEventInput) (createdAtMs : Int)
    (ledger : AgentRunSessionState) : Outcome (Option SessionLogRecord) := do
  input.validate contracts ledger.sessionId
  match ledger.hostEventInputs[input.messageId]? with
  | some accepted => do
    ensure (accepted == (turnId, input)) "host_event_input_identity_conflict"
    pure none
  | none => do
    let event ← Centaeris.hostEventInputRecord contracts ledger.sessionId turnId
      ledger.agentRunId input createdAtMs
    pure (some event)

def hostEventInputRecord (turnId : String) (input : HostEventInput) (createdAtMs : Int) :
    Call (Option SequencedSessionRecord) :=
  recordUnlessKnown contracts (hostEventInputOffer contracts turnId input createdAtMs)

def complete (turnId completionReason : String) (createdAtMs : Int) :
    Call SequencedSessionRecord :=
  recordBuilt contracts fun ledger => completedAgentRunRecord contracts ledger.sessionId turnId
    ledger.agentRunId completionReason createdAtMs

def failRun (turnId failureKind error : String) (createdAtMs : Int) :
    Call SequencedSessionRecord :=
  recordBuilt contracts fun ledger => failedAgentRunRecord contracts ledger.sessionId turnId
    ledger.agentRunId failureKind error createdAtMs

def interrupt (turnId reason message : String) (retryable : Bool) (createdAtMs : Int) :
    Call SequencedSessionRecord :=
  recordBuilt contracts fun ledger => interruptedAgentRunRecord contracts ledger.sessionId turnId
    ledger.agentRunId reason message retryable createdAtMs

def checkpointOffer (checkpoint : TurnCheckpointRef) (ledger : AgentRunSessionState) :
    Outcome SessionLogRecord := do
  ensure (checkpoint.sessionId == ledger.sessionId) "checkpoint Session identity mismatch"
  ensure (checkpoint.payloadByteLength != 0) "checkpoint payload_json is required"
  checkpointRefRecord contracts ledger.sessionId ledger.agentRunId checkpoint

def committedCheckpointRef (checkpoint : TurnCheckpointRef) : Call SequencedSessionRecord :=
  recordBuilt contracts (checkpointOffer contracts checkpoint)

def fileFact (turnId : String) (payload : Json) (createdAtMs : Int) :
    Call SequencedSessionRecord :=
  recordBuilt contracts fun ledger => fileFactRecord contracts ledger.sessionId turnId
    ledger.agentRunId ledger.next payload createdAtMs

/-! ### Methods of the runtime -/

def runtimeEventOffer (convert : String → Outcome (Option SessionLogRecord))
    (ledger : AgentRunSessionState) : Outcome (Option SessionLogRecord) := do
  match ← convert ledger.agentRunId with
  | none => pure none
  | some event =>
    if event.eventType = .phaseEvent ∧
        event.turnId.any (fun turnId => decide (turnId ∈ ledger.committedPhaseTurnIds)) then
      pure none
    else if event.eventType = .assistantMessage ∧
        ((event.payload.get? "messageId").bind Json.asString?).any ledger.assistantIsFinal then
      pure none
    else pure (some event)

/-- The methods of the runtime, which convert its own events; the conversions are parameters. -/
def recordRuntimeEvent (convert : String → Outcome (Option SessionLogRecord)) :
    Call (Option SequencedSessionRecord) :=
  recordUnlessKnown contracts (runtimeEventOffer convert)

/-- The request that a compaction comes from. -/
structure CompactionSource where
  agentRunId : String
  requestId : String
  requestTurnId : String
  promptSha256 : String

def compactionSourceMatches (ledger : AgentRunSessionState) (source : CompactionSource) : Bool :=
  ledger.agentRunId == source.agentRunId &&
    (ledger.compactionRequestIdentities[source.requestId]?).any fun identity =>
      identity.1 == source.requestTurnId && identity.2 == source.promptSha256

def hasIdenticalCompactionRecord (ledger : AgentRunSessionState) (event : SessionLogRecord) :
    Outcome Bool :=
  match ledger.compactionRecordDigests[event.eventId]? with
  | none => pure false
  | some existing => do
    ensure (existing == compactionRecordDigest contracts event)
      "committed compaction event identity conflict"
    pure true

/-- The records of a model request, without the compaction record that is there already. -/
def recordRequest : List SessionLogRecord → Call (List SequencedSessionRecord)
  | [] => pure []
  | event :: events => do
    let known ← Mutation.query fun ledger =>
      if event.eventType = .compaction then hasIdenticalCompactionRecord contracts ledger event
      else pure false
    if known then recordRequest events
    else do
      let sequenced ← record contracts event
      let others ← recordRequest events
      pure (sequenced :: others)

def recordModelRequestStarted (compaction : Option CompactionSource)
    (convert : String → Outcome (List SessionLogRecord)) : Call (List SequencedSessionRecord) :=
  Mutation.onCopy do
    require (fun ledger => compaction.all ledger.compactionSourceMatches)
      "compaction source request is not durably bound to this AgentRun"
    let events ← Mutation.query fun ledger => convert ledger.agentRunId
    recordRequest contracts events

/-- The record of a tool call that is not committed yet; `convert` gives it for a given
    session and run. -/
def toolCallOffer (callId : String) (convert : String → String → Outcome SessionLogRecord)
    (ledger : AgentRunSessionState) : Outcome (Option SessionLogRecord) :=
  if ledger.hasToolCall callId then pure none
  else do
    let event ← convert ledger.sessionId ledger.agentRunId
    pure (some event)

def recordToolCall (callId : String) (convert : String → String → Outcome SessionLogRecord) :
    Call (Option SequencedSessionRecord) :=
  recordUnlessKnown contracts (toolCallOffer callId convert)

inductive ToolExecutionFact where
  | artifactPublished (payload : Json)
  | citationRecorded (payload : Json)
  | externalEvidenceRef (payload : Json)
  | fileFact (payload : Json)

structure ToolExecutionResult where
  toolCallId : String
  toolName : String
  resultState : ToolResultState
  facts : List ToolExecutionFact

def requireToolFactIdentity (payload : Json) (result : ToolExecutionResult)
    (callIdField : String) (toolNameField : Option String) : Outcome Unit :=
  let text (key : String) := (payload.get? key).bind Json.asString?
  ensure (text callIdField == some result.toolCallId &&
      toolNameField.all fun field => text field == some result.toolName)
    ("tool fact identity mismatch: " ++ result.toolCallId)

def artifactFactMatches (ledger : AgentRunSessionState) (payload : Json) : Outcome Bool :=
  payloadIdentityMatches ledger.artifactPublicationIdentities "publicationId" payload

def citationFactMatches (ledger : AgentRunSessionState) (payload : Json) : Outcome Bool := do
  let citationId ← statePayloadString payload "citationId"
  let identity ← citationIdentity payload
  match ledger.citationIdentities[citationId]? with
  | some existing => do
    ensure (existing == identity) ("citation identity conflict for citationId " ++ citationId)
    pure true
  | none => pure false

def externalEvidenceFactMatches (ledger : AgentRunSessionState) (payload : Json) : Outcome Bool :=
  payloadIdentityMatches ledger.externalEvidenceIdentities "objectRef" payload

/-- The record that a fact becomes, unless it is recorded already. -/
def factRecord (result : ToolExecutionResult) (fact : ToolExecutionFact)
    (ledger : AgentRunSessionState) : Outcome (Option (SessionRecordType × Json)) := do
  let unlessKnown (eventType : SessionRecordType) (payload : Json) (known : Bool) :=
    if known then none else some (eventType, payload)
  match fact with
  | .artifactPublished payload => do
    requireToolFactIdentity payload result "toolCallId" none
    let known ← ledger.artifactFactMatches payload
    pure (unlessKnown .artifactPublished payload known)
  | .citationRecorded payload => do
    requireToolFactIdentity payload result "sourceToolCallId" (some "sourceToolName")
    let known ← ledger.citationFactMatches payload
    pure (unlessKnown .citationRecorded payload known)
  | .externalEvidenceRef payload => do
    let known ← ledger.externalEvidenceFactMatches payload
    pure (unlessKnown .externalEvidenceRef payload known)
  | .fileFact payload => do
    requireToolFactIdentity payload result "toolCallId" (some "toolName")
    ensure (decide (sessionPayloadDigest contracts payload ∈ ledger.fileFactIdentities))
      ("file mutation fact must be committed before tool execution: " ++ result.toolCallId)
    pure none

def recordFacts (turnId : String) (result : ToolExecutionResult) (createdAtMs : Int) :
    List ToolExecutionFact → Call (List SequencedSessionRecord)
  | [] => pure []
  | fact :: facts => do
    match ← Mutation.query (factRecord contracts result fact) with
    | none => recordFacts turnId result createdAtMs facts
    | some (eventType, payload) => do
      let sequenced ← eventForTurn contracts turnId eventType payload createdAtMs
      let others ← recordFacts turnId result createdAtMs facts
      pure (sequenced :: others)

def recordToolFactsInner (turnId : String) (result : ToolExecutionResult) (createdAtMs : Int) :
    Call (List SequencedSessionRecord) :=
  if result.facts.isEmpty then pure []
  else do
    require (fun ledger => ledger.hasToolResult result.toolCallId)
      ("Session tool facts have no durable tool_result: " ++ result.toolCallId)
    require (fun _ => result.resultState.isSuccess)
      ("failed tool result cannot produce Session facts: " ++ result.toolCallId)
    recordFacts contracts turnId result createdAtMs result.facts

def recordToolResult (turnId callId : String) (result : ToolExecutionResult)
    (convert : String → String → Outcome SessionLogRecord) (createdAtMs : Int) :
    Call (List SequencedSessionRecord) := do
  require (fun ledger => ledger.hasToolCall callId)
    ("Session tool_result has no durable tool_call: " ++ result.toolCallId)
  Mutation.onCopy do
    let known ← Mutation.query fun ledger => pure (ledger.hasToolResult result.toolCallId)
    let records ←
      if known then pure []
      else do
        let sequenced ← recordBuilt contracts fun ledger =>
          convert ledger.sessionId ledger.agentRunId
        pure [sequenced]
    let facts ← recordToolFactsInner contracts turnId result createdAtMs
    pure (records ++ facts)

def recordToolFacts (turnId : String) (result : ToolExecutionResult) (createdAtMs : Int) :
    Call (List SequencedSessionRecord) :=
  Mutation.onCopy (recordToolFactsInner contracts turnId result createdAtMs)

end AgentRunSessionState

end Centaeris
