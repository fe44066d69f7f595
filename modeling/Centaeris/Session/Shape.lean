import Centaeris.Session.Record

namespace Centaeris

open Foundation

/-!
# The shape of a session record

`validateEventShape` checks one record on its own: its envelope, and its payload by one
check for each record type.  The checks run in the order of the source and stop at the
first failure, so the error text is the source's too.
-/

def preparedPromptSchema : String := "prepared_prompt.v1"
def maxPublishedArtifactBytes : Nat := 64 * 1024 * 1024
def modelToolResultMaxBytes : Nat := 50 * 1024
def maxTurnSupplementBytes : Nat := 64 * 1024
def maxTurnSupplementIdBytes : Nat := 64
def hostEventInputMaxContentChars : Nat := 72000

/-! ### Texts -/

/-- The control characters of Unicode: category `Cc`. -/
def isControl (c : Char) : Bool := c.toNat < 32 || (127 ≤ c.toNat && c.toNat < 160)

/-- The number of places where a pattern occurs, counted from the left without overlap.
    The fuel is one more than the number of characters left. -/
def occurrences (pattern : List Char) : Nat → List Char → Nat
  | 0, _ => 0
  | _ + 1, [] => if pattern.isEmpty then 1 else 0
  | fuel + 1, c :: rest =>
    if pattern.isPrefixOf (c :: rest) then
      1 + occurrences pattern fuel ((c :: rest).drop (max 1 pattern.length))
    else occurrences pattern fuel rest

def countOccurrences (pattern text : String) : Nat :=
  occurrences pattern.toList (text.length + 1) text.toList

def startsWith (leading text : String) : Bool := leading.toList.isPrefixOf text.toList

/-- The parts of a text between separators. -/
def splitOn (separator : Char) : List Char → List (List Char)
  | [] => [[]]
  | c :: rest =>
    if c = separator then [] :: splitOn separator rest
    else match splitOn separator rest with
      | [] => [[c]]
      | part :: parts => (c :: part) :: parts

/-- A file of captured tool output: `tool-result-<32 hex>.log` below a directory for such
    files. -/
def isTemporaryToolResultPath (path : String) : Bool :=
  let normalized := path.toList.map fun c => if c = '\\' then '/' else c
  let parts := splitOn '/' normalized
  let fileName := parts.getLastD []
  let leading := "tool-result-".toList
  let trailing := ".log".toList
  let digest := (fileName.drop leading.length).take
    (fileName.length - leading.length - trailing.length)
  parts.any (fun part =>
      part == "agent-tool-results".toList || part == ".agent-tool-results".toList) &&
    leading.isPrefixOf fileName && fileName == leading ++ digest ++ trailing &&
    isLowerHex 32 (String.ofList digest)

variable (contracts : PayloadContracts)

/-! ### Session and run records -/

def SessionMetadataV1.validate (metadata : SessionMetadataV1) : Outcome Unit := do
  ensure (!isBlank metadata.recordId) "session_meta recordId is required"
  ensure (!isBlank metadata.title) "session_meta title is required"
  ensure (!isBlank metadata.cwd) "session_meta cwd is required"
  if metadata.sessionKind = "main" then do
    ensure (metadata.parentSessionId.isNone && metadata.runtimeJobId.isNone)
      "session_meta main Session cannot carry subagent identity"
    ensure metadata.sortOrder.isSome "session_meta main Session sortOrder is required"
  else if metadata.sessionKind = "subagent" then do
    ensure ((metadata.parentSessionId.any fun value => !isBlank value) &&
        metadata.runtimeJobId.any fun value => !isBlank value)
      "session_meta subagent Session parentSessionId and runtimeJobId are required"
    ensure metadata.sortOrder.isNone "session_meta subagent Session cannot carry sortOrder"
  else fail ("unsupported session_meta sessionKind: " ++ metadata.sessionKind)

def validateSessionMeta (event : SessionLogRecord) : Outcome Unit := do
  let metadata ← mapError (contracts.sessionMetadata event.payload) fun error =>
    recordError event ("session_meta payload is invalid: " ++ error)
  metadata.validate

/-- The payload checks. -/
def validateAgentRunStarted (event : SessionLogRecord) : Outcome Unit := do
  let _ ← requiredEventTurnId event
  let _ ← requiredEventAgentRunId event
  let payload ← payloadObject event
  requireExactPayloadFields payload ["userObjective"] event
  let _ ← requiredPayloadString payload "userObjective" event
  pure ()

structure ExecutionRecoveryAttempt where
  number : Nat
  checkpointId : String
  startedAtMs : Int
deriving DecidableEq

def executionRecoveryAttempt (event : SessionLogRecord) : Outcome ExecutionRecoveryAttempt := do
  let _ ← requiredEventTurnId event
  let _ ← requiredEventAgentRunId event
  let payload ← payloadObject event
  requireExactPayloadFields payload ["attempt", "checkpointId"] event
  let number ← orFail (((payload.lookup "attempt").bind Json.asU64?).filter (0 < ·))
    "execution recovery attempt must be a positive integer"
  let checkpointId ← requiredPayloadString payload "checkpointId" event
  pure ⟨number, checkpointId, event.createdAtMs⟩

def validateAgentRunExecutionStarted (event : SessionLogRecord) : Outcome Unit := do
  let _ ← requiredEventTurnId event
  let _ ← requiredEventAgentRunId event
  let payload ← payloadObject event
  requireExactPayloadFields payload
    ["executionId", "authorizationDigest", "recoveredFromCheckpointId"] event
  let _ ← requiredPayloadString payload "executionId" event
  let _ ← optionalPayloadString payload "recoveredFromCheckpointId" event
  let digest ← requiredPayloadString payload "authorizationDigest" event
  validateSha256Value digest "authorizationDigest" event

/-- The scan of the indeterminate calls: each a non-empty text, none twice. -/
def scanIndeterminateToolCall (event : SessionLogRecord) (seen : List String) (value : Json) :
    Outcome (List String) := do
  let id ← orFail (value.asString?.bind trimmedText?)
    (recordError event "payload.indeterminateToolCallIds must contain non-empty strings")
  ensure (!seen.contains id)
    (recordError event "payload.indeterminateToolCallIds contains duplicates")
  pure (seen ++ [id])

def validateAgentRunExecutionEnded (event : SessionLogRecord) : Outcome Unit := do
  let _ ← requiredEventTurnId event
  let _ ← requiredEventAgentRunId event
  let payload ← payloadObject event
  requireExactPayloadFields payload
    ["executionId", "outcome", "reasonCode", "retryable", "lastCheckpointId",
      "indeterminateToolCallIds"] event
  let _ ← requiredPayloadString payload "executionId" event
  let outcome ← requiredPayloadString payload "outcome" event
  ensure (["completed", "failed", "lost", "cancelled"].contains outcome)
    (recordError event ("payload.outcome is unsupported: " ++ outcome))
  let _ ← requiredPayloadString payload "reasonCode" event
  let _ ← requiredPayloadBool payload "retryable" event
  let _ ← optionalPayloadString payload "lastCheckpointId" event
  let toolCallIds ← requiredPayloadArray payload "indeterminateToolCallIds" event
  let _ ← toolCallIds.foldlM (scanIndeterminateToolCall event) []
  pure ()

def validateAgentRunTerminal (event : SessionLogRecord) : Outcome Unit := do
  let _ ← requiredEventTurnId event
  let payload ← payloadObject event
  requireExactPayloadFields payload ["doneReason"] event
  let _ ← requiredPayloadString payload "doneReason" event
  pure ()

def validateAgentRunFailed (event : SessionLogRecord) : Outcome Unit := do
  let _ ← requiredEventTurnId event
  let payload ← payloadObject event
  requireExactPayloadFields payload ["reasonType", "message"] event
  let _ ← requiredPayloadString payload "reasonType" event
  let _ ← requiredPayloadString payload "message" event
  pure ()

def validateAgentRunInterrupted (event : SessionLogRecord) : Outcome Unit := do
  let _ ← requiredEventTurnId event
  let payload ← payloadObject event
  requireExactPayloadFields payload ["reasonType", "message", "retryable"] event
  let reasonType ← requiredPayloadString payload "reasonType" event
  ensure (["cancelled", "stopped", "shutdown", "provider_interrupted"].contains reasonType)
    (recordError event ("agent_run_interrupted reasonType is unsupported: " ++ reasonType))
  let _ ← requiredPayloadString payload "message" event
  let _ ← requiredPayloadBool payload "retryable" event
  pure ()

/-! ### Message records -/

def scanMessageAttachment (messageText : String) (event : SessionLogRecord)
    (imagePlaceholders : List String) (item : Json) : Outcome (List String) := do
  let reference ← mapError (contracts.messageAttachment item) fun error =>
    recordError event ("payload.attachments item is invalid: " ++ error)
  ensure (!isBlank reference.inputRef && !isBlank reference.displayName &&
      !isBlank reference.contentType)
    (recordError event "payload.attachments item has an empty field")
  match reference.placeholder with
  | some placeholder => do
    ensure (!isBlank placeholder && startsWith "image/" reference.contentType &&
        countOccurrences placeholder messageText == 1 && !imagePlaceholders.contains placeholder)
      (recordError event "payload.attachments image placeholder is invalid")
    pure (imagePlaceholders ++ [placeholder])
  | none => pure imagePlaceholders

def validateMessageAttachmentArray (value : Option Json) (messageText : String)
    (event : SessionLogRecord) : Outcome Unit :=
  match value with
  | none => pure ()
  | some value => do
    let items ← orFail value.asArray? (recordError event "payload.attachments must be an array")
    let _ ← items.foldlM (scanMessageAttachment contracts messageText event) []
    pure ()

def validateUserMessage (event : SessionLogRecord) : Outcome Unit := do
  let _ ← requiredEventTurnId event
  let payload ← payloadObject event
  requireExactPayloadFields payload ["messageId", "text", "attachments"] event
  let _ ← requiredPayloadString payload "messageId" event
  let text ← requiredPayloadString payload "text" event
  validateMessageAttachmentArray contracts (payload.lookup "attachments") text event

def HostEventInput.validate (input : HostEventInput) (sessionId : String) : Outcome Unit := do
  let plain (value : String) (limit : Nat) : Bool :=
    value != "" && value == trim value && decide (value.utf8ByteSize ≤ limit) &&
      !value.toList.any isControl
  ensure (plain input.inputId 160) "host_event_input_inputId_invalid"
  ensure (plain input.source 128) "host_event_input_source_invalid"
  ensure (!isBlank sessionId && input.messageId ==
      stableSessionEventId contracts "host_event_message" [sessionId, input.inputId])
    "host_event_input_message_id_invalid"
  ensure (!isBlank input.content && decide (input.content.length ≤ hostEventInputMaxContentChars))
    "host_event_input_content_invalid"

def decodeHostEventInput (event : SessionLogRecord) : Outcome HostEventInput :=
  mapError (contracts.hostEventInput event.payload) fun error =>
    "decode host event input failed: " ++ error

def validateHostEventInput (event : SessionLogRecord) : Outcome Unit := do
  let _ ← requiredEventTurnId event
  let _ ← requiredEventAgentRunId event
  let input ← decodeHostEventInput contracts event
  input.validate contracts event.sessionId

def validateTurnSupplementId (value : String) : Outcome Unit :=
  ensure (!isBlank value && decide ((trim value).utf8ByteSize ≤ maxTurnSupplementIdBytes) &&
      !(trim value).toList.any isControl && value == trim value)
    "turn_supplement_id_invalid"

/-- The scan of a supplement's attachments; the state is the references seen. -/
def scanUserInputAttachment (refs : List String) (attachment : UserInputAttachment) :
    Outcome (List String) := do
  ensure (!isBlank attachment.inputRef && !isBlank attachment.displayName &&
      !isBlank attachment.contentType && !refs.contains attachment.inputRef &&
      (!startsWith "image/" attachment.contentType ||
        ["image/png", "image/jpeg", "image/webp"].contains attachment.contentType))
    "user_input_attachment_invalid"
  pure (refs ++ [attachment.inputRef])

/-- A message of attachments alone may be empty. -/
def validateUserInput (message : String) (attachments : List UserInputAttachment) :
    Outcome Unit := do
  ensure (decide (attachments.length ≤ 50) &&
      decide (message.utf8ByteSize ≤ maxTurnSupplementBytes) &&
      !message.toList.contains (Char.ofNat 0) && !(isBlank message && attachments.isEmpty))
    "user_input_content_invalid"
  let _ ← attachments.foldlM scanUserInputAttachment []
  pure ()

def validateTurnSupplement (event : SessionLogRecord) : Outcome Unit := do
  let turnId ← requiredEventTurnId event
  let _ ← requiredEventAgentRunId event
  let payload ← payloadObject event
  if (payload.lookup "attachments").isSome then
    requireExactPayloadFields payload ["supplementId", "messageId", "message", "attachments"] event
  else requireExactPayloadFields payload ["supplementId", "messageId", "message"] event
  let supplementId ← requiredPayloadString payload "supplementId" event
  validateTurnSupplementId supplementId
  let message ← requiredPayloadStringAllowEmpty payload "message" event
  let attachments ← match payload.lookup "attachments" with
    | some value => mapError (contracts.userInputAttachments value) id
    | none => pure []
  validateUserInput message attachments
  let messageId ← requiredPayloadString payload "messageId" event
  ensure (messageId == "message:" ++ turnId ++ ":supplement:" ++ supplementId)
    (recordError event "turn supplement messageId mismatch")

/-- The scan of an assistant message's artifacts: `artifact:` references, none twice. -/
def scanArtifactRef (event : SessionLogRecord) (seen : List String) (value : Json) :
    Outcome (List String) := do
  let reference := value.asString?.getD ""
  ensure (stripLeading "artifact:" reference != "" && !seen.contains reference)
    (recordError event "payload.artifactRefs is invalid")
  pure (seen ++ [reference])

def validateAssistantMessage (event : SessionLogRecord) : Outcome Unit := do
  let turnId ← requiredEventTurnId event
  let _ ← requiredEventAgentRunId event
  let payload ← payloadObject event
  requireExactPayloadFields payload ["messageId", "modelMarkdown", "artifactRefs", "status"] event
  let messageId ← requiredPayloadString payload "messageId" event
  ensure (messageId == "message:" ++ turnId ++ ":assistant")
    (recordError event "assistant messageId does not match turnId")
  let _ ← requiredPayloadStringAllowEmpty payload "modelMarkdown" event
  let artifactRefs ← requiredPayloadArray payload "artifactRefs" event
  ensure (decide (artifactRefs.length ≤ 64))
    (recordError event "payload.artifactRefs exceeds 64 items")
  let _ ← artifactRefs.foldlM (scanArtifactRef event) []
  let status ← requiredPayloadString payload "status" event
  ensure (["done", "error"].contains status)
    (recordError event ("payload.status is unsupported: " ++ status))

def validateReasoningBlock (event : SessionLogRecord) : Outcome Unit := do
  let _ ← requiredEventTurnId event
  let _ ← requiredEventAgentRunId event
  let payload ← payloadObject event
  requireExactPayloadFields payload ["blockId", "requestId", "text", "status"] event
  let request ← requiredPayloadString payload "requestId" event
  let block ← requiredPayloadString payload "blockId" event
  ensure (block == "reasoning:" ++ request) "reasoning blockId does not match requestId"
  let _ ← requiredPayloadString payload "text" event
  let status ← requiredPayloadString payload "status" event
  ensure (["done", "interrupted"].contains status) "reasoning block must be sealed"

def validatePhaseEvent (event : SessionLogRecord) : Outcome Unit := do
  let _ ← requiredEventTurnId event
  let _ ← requiredEventAgentRunId event
  let payload ← payloadObject event
  let stage ← requiredPayloadString payload "stage" event
  if stage = "model_process_summary" then do
    requireExactPayloadFields payload ["stage", "message"] event
    let _ ← requiredPayloadString payload "message" event
    pure ()
  else if stage = "model_process_state" then do
    requireExactPayloadFields payload ["stage", "processState"] event
    let state ← orPanic (payload.lookup "processState") "no entry found for key"
    mapError (contracts.processState state) fun error =>
      "invalid model process state: " ++ error
  else fail (recordError event ("payload.stage is unsupported: " ++ stage))

/-! ### Tool records -/

def validateToolCall (event : SessionLogRecord) : Outcome Unit := do
  let _ ← requiredEventTurnId event
  let _ ← requiredEventAgentRunId event
  let payload ← payloadObject event
  requireExactPayloadFields payload
    ["callId", "toolName", "toolContractDigest", "providerId", "normalizedInput",
      "displayTarget"] event
  let _ ← requiredPayloadString payload "callId" event
  let _ ← requiredPayloadString payload "toolName" event
  let _ ← requireSha256Payload payload "toolContractDigest" event
  let _ ← requiredPayloadString payload "providerId" event
  let displayTarget ← requiredPayloadString payload "displayTarget" event
  ensure (decide (displayTarget.length ≤ 256))
    (recordError event "payload.displayTarget is too long")
  ensure ((payload.lookup "normalizedInput").any Json.isObject)
    (recordError event "payload.normalizedInput must be an object")

def parseResultState (payload : Payload) (event : SessionLogRecord) : Outcome ToolResultState := do
  let value ← orFail (payload.lookup "resultState")
    (recordError event "payload.resultState is required")
  mapError (contracts.resultState value) fun error =>
    recordError event ("payload.resultState is invalid: " ++ error)

/-- Whether the capture facts of a tool result fit together: all of the output inline,
    the output in a file, or an output that was cut off. -/
def captureConsistent (modelContent : String) (fullOutputPath : Option String)
    (outputStartByte : Option Nat) (outputByteLength : Nat) (outputComplete : Bool) : Bool :=
  match fullOutputPath, outputStartByte, outputComplete with
  | none, none, true => outputByteLength == modelContent.utf8ByteSize
  | some path, some start, true =>
    decide (0 < start) && decide (modelToolResultMaxBytes < outputByteLength) &&
      isTemporaryToolResultPath path
  | none, none, false => true
  | _, _, _ => false

def validateToolResultPayload (payload : Payload) (event : SessionLogRecord) :
    Outcome Unit := do
  let _ ← requiredPayloadString payload "callId" event
  let _ ← requiredPayloadString payload "toolName" event
  let modelContent ← requiredPayloadStringAllowEmpty payload "modelContent" event
  let fullOutputPath ← optionalPayloadString payload "fullOutputPath" event
  let outputStartByte ← optionalPayloadU64 payload "outputStartByte" event
  let outputByteLength ← requiredPayloadU64 payload "outputByteLength" event
  let outputComplete ← requiredPayloadBool payload "outputComplete" event
  ensure (captureConsistent modelContent fullOutputPath outputStartByte outputByteLength
      outputComplete)
    (recordError event "tool result capture metadata is inconsistent")
  let _ ← requiredPayloadString payload "summary" event
  let _ ← parseResultState contracts payload event
  let _ ← requiredPayloadArray payload "operations" event
  let images ← orFail (payload.lookup "modelInputImages")
    (recordError event "payload.modelInputImages is required")
  contracts.modelInputImages event images
  let _ ← requiredPayloadU64 payload "latencyMs" event
  pure ()

def toolResultFields : List String :=
  ["callId", "toolName", "resultState", "modelContent", "fullOutputPath", "outputStartByte",
    "outputByteLength", "outputComplete", "summary", "operations", "modelInputImages",
    "latencyMs"]

def validateToolResult (event : SessionLogRecord) : Outcome Unit := do
  let _ ← requiredEventTurnId event
  let _ ← requiredEventAgentRunId event
  let payload ← payloadObject event
  requireExactPayloadFields payload toolResultFields event
  validateToolResultPayload contracts payload event

def validateToolCallClosure (event : SessionLogRecord) : Outcome Unit := do
  let _ ← requiredEventTurnId event
  let _ ← requiredEventAgentRunId event
  let payload ← payloadObject event
  requireExactPayloadFields payload
    (toolResultFields ++ ["recovery", "callEventId", "triggerAgentRunId", "triggerTurnId"]) event
  validateToolResultPayload contracts payload event
  let recovery ← requiredPayloadString payload "recovery" event
  ensure (["receipt", "not_executed", "indeterminate"].contains recovery)
    (recordError event ("tool_call_closure recovery " ++ recovery ++ " is invalid"))
  let _ ← optionalPayloadString payload "callEventId" event
  let _ ← requiredPayloadString payload "triggerAgentRunId" event
  let _ ← requiredPayloadString payload "triggerTurnId" event
  pure ()

/-! ### Model requests and usage -/

def validateModelRequestStarted (event : SessionLogRecord) : Outcome Unit := do
  let _ ← requiredEventTurnId event
  let _ ← requiredEventAgentRunId event
  let payload ← payloadObject event
  requireExactPayloadFields payload
    ["requestId", "purpose", "loopIndex", "toolChoice", "maxOutputTokens", "promptCacheKey",
      "promptCacheRetention", "preparedPromptSchema", "contextTokenEstimate",
      "contextTokenBreakdown", "agentComposition", "observations"] event
  let _ ← requiredPayloadString payload "requestId" event
  let purpose ← requiredPayloadString payload "purpose" event
  ensure (["main", "compaction"].contains purpose)
    (recordError event "payload.purpose is unsupported")
  let observations ← orFail (payload.lookup "observations")
    (recordError event "payload.observations is required")
  contracts.modelObservations event purpose observations
  let _ ← requiredPayloadU64 payload "loopIndex" event
  let toolChoice ← orFail (payload.lookup "toolChoice")
    (recordError event "payload.toolChoice is required")
  contracts.modelToolChoice event purpose toolChoice
  let maxOutputTokens ← requiredPayloadU64 payload "maxOutputTokens" event
  ensure (maxOutputTokens != 0) (recordError event "payload.maxOutputTokens must be positive")
  validateNullableString payload "promptCacheKey" event
  validateNullableString payload "promptCacheRetention" event
  let schema ← requiredPayloadString payload "preparedPromptSchema" event
  ensure (schema == preparedPromptSchema)
    (recordError event "payload.preparedPromptSchema is unsupported")
  let estimate ← requiredPayloadU64 payload "contextTokenEstimate" event
  let breakdown ← orFail (payload.lookup "contextTokenBreakdown")
    (recordError event "payload.contextTokenBreakdown is required")
  contracts.contextTokenBreakdown event estimate breakdown
  let composition ← orFail (payload.lookup "agentComposition")
    (recordError event "payload.agentComposition is required")
  contracts.agentComposition event composition

def ProviderTokenUsageV1.validate (usage : ProviderTokenUsageV1) : Outcome Unit :=
  match usage.inputTokens, usage.totalTokens with
  | some input, some total =>
    ensure (decide (input ≤ total)) "provider_usage_total_tokens_less_than_input_tokens"
  | _, _ => pure ()

def validateProviderUsage (event : SessionLogRecord) : Outcome Unit := do
  let _ ← requiredEventTurnId event
  let _ ← requiredEventAgentRunId event
  let payload ← payloadObject event
  requireExactPayloadFields payload
    ["inputTokens", "outputTokens", "totalTokens", "promptCacheHitTokens",
      "promptCacheMissTokens"] event
  let usage ← mapError (contracts.providerUsage event.payload) fun error =>
    recordError event ("provider_usage payload is invalid: " ++ error)
  usage.validate

/-! ### Evidence, files and checkpoints -/

def validateExternalEvidenceRef (event : SessionLogRecord) : Outcome Unit := do
  let _ ← requiredEventTurnId event
  let _ ← requiredEventAgentRunId event
  let payload ← payloadObject event
  requireExactPayloadFields payload
    ["objectRef", "contentType", "sha256", "byteLength", "sourceKind", "locator"] event
  let _ ← requiredPayloadString payload "objectRef" event
  let _ ← requiredPayloadString payload "contentType" event
  let _ ← requireSha256Payload payload "sha256" event
  let _ ← requiredPayloadU64 payload "byteLength" event
  let _ ← requiredPayloadString payload "sourceKind" event
  let _ ← requiredPayloadString payload "locator" event
  pure ()

def validateArtifactPublished (event : SessionLogRecord) : Outcome Unit := do
  let _ ← requiredEventTurnId event
  let _ ← requiredEventAgentRunId event
  let payload ← payloadObject event
  requireExactPayloadFields payload
    ["publicationId", "artifactRef", "toolCallId", "filename", "sizeBytes", "sha256"] event
  let publicationId ← requiredPayloadString payload "publicationId" event
  let artifactRef ← requiredPayloadString payload "artifactRef" event
  let _ ← requiredPayloadString payload "toolCallId" event
  let filename ← requiredPayloadString payload "filename" event
  let sha256 ← requiredPayloadString payload "sha256" event
  let sizeBytes ← orFail ((payload.lookup "sizeBytes").bind Json.asU64?)
    (recordError event "artifact sizeBytes is invalid")
  ensure (isLowerHex 64 (stripLeading "pub_" publicationId) &&
      isLowerHex 64 (stripLeading "sha256:" sha256) &&
      stripLeading "artifact:" artifactRef != "" && decide (filename.utf8ByteSize ≤ 255) &&
      !filename.toList.contains '/' && !filename.toList.contains '\\' &&
      decide (sizeBytes ≤ maxPublishedArtifactBytes))
    (recordError event "artifact publication payload is invalid")

/-- A line or page range. -/
def validateDirectCitationLocator (locator : Json) (event : SessionLogRecord) :
    Outcome Unit := do
  let members ← orFail locator.asObject? (recordError event "citation locator is required")
  let has (key : String) : Bool := (members.lookup key).isSome
  let (start, finish) ←
    if members.length = 2 ∧ has "startLine" ∧ has "endLine" then
      pure ((members.lookup "startLine").bind Json.asU64?,
        (members.lookup "endLine").bind Json.asU64?)
    else if members.length = 2 ∧ has "pageStart" ∧ has "pageEnd" then
      pure ((members.lookup "pageStart").bind Json.asU64?,
        (members.lookup "pageEnd").bind Json.asU64?)
    else
      fail (recordError event "citation locator must contain exactly one line/page range")
  ensure (start.any fun first => finish.any fun last => decide (0 < first ∧ first ≤ last))
    (recordError event "citation locator range is invalid")

/-- A digest of a knowledge citation with its leading part. -/
def validateKnowledgeDigest (payload : Payload) (event : SessionLogRecord)
    (name leading : String) : Outcome Unit := do
  let value ← requiredPayloadString payload name event
  ensure (isLowerHex 64 (stripLeading leading value))
    (recordError event s!"knowledge citation {name} is invalid")

def validateCitationRecorded (event : SessionLogRecord) : Outcome Unit := do
  let _ ← requiredEventTurnId event
  let payload ← payloadObject event
  let _ ← ["citationId", "inputRef", "ownerRef", "ownerKind", "displayName", "evidenceKind",
    "ownerSha256", "sourceToolCallId", "sourceToolName"].mapM
      fun name => requiredPayloadString payload name event
  let ownerKind ← requiredPayloadString payload "ownerKind" event
  ensure (["sourceObject", "userLibraryObject", "artifact"].contains ownerKind)
    (recordError event ("citation ownerKind is unsupported: " ++ ownerKind))
  let evidenceKind ← requiredPayloadString payload "evidenceKind" event
  ensure (["workspaceSource", "userProvided", "generatedArtifact"].contains evidenceKind)
    (recordError event ("citation evidenceKind is unsupported: " ++ evidenceKind))
  let citationId ← requiredPayloadString payload "citationId" event
  let ownerSha256 ← requiredPayloadString payload "ownerSha256" event
  ensure (isLowerHex 64 (stripLeading "citation:" citationId) &&
      isLowerHex 64 (stripLeading "sha256:" ownerSha256))
    (recordError event "citation hashes are invalid")
  let locator ← orFail (payload.lookup "locator")
    (recordError event "citation locator is required")
  let hasKnowledgeLocator := (locator.get? "kind").isSome
  if hasKnowledgeLocator then contracts.knowledgeLocator event locator
  else validateDirectCitationLocator locator event
  let derived := ["ownerGeneration", "representationId", "specDigest", "evidenceSha256"]
  if hasKnowledgeLocator || derived.any fun name => (payload.lookup name).isSome then do
    ensure (derived.all fun name => (payload.lookup name).isSome)
      (recordError event "knowledge citation identity is incomplete")
    ensure (((payload.lookup "ownerGeneration").bind Json.asU64?).any (0 < ·))
      (recordError event "knowledge citation ownerGeneration is invalid")
    validateKnowledgeDigest payload event "representationId" "representation:sha256:"
    validateKnowledgeDigest payload event "specDigest" "sha256:"
    validateKnowledgeDigest payload event "evidenceSha256" "sha256:"
  else pure ()

def validateCompaction (event : SessionLogRecord) : Outcome Unit := do
  let _ ← requiredEventTurnId event
  let payload ← payloadObject event
  requireExactPayloadFields payload
    ["compactionId", "summaryMessageId", "summaryMarkdown", "firstKeptMessageId",
      "createdReason"] event
  let _ ← requiredPayloadString payload "compactionId" event
  let _ ← requiredPayloadString payload "summaryMessageId" event
  let _ ← requiredPayloadString payload "summaryMarkdown" event
  let _ ← requiredPayloadString payload "createdReason" event
  let _ ← optionalPayloadString payload "firstKeptMessageId" event
  pure ()

def validateCheckpointRef (event : SessionLogRecord) : Outcome Unit := do
  let _ ← requiredEventTurnId event
  let payload ← payloadObject event
  requireExactPayloadFields payload
    ["checkpointId", "kind", "objectRef", "status", "payloadSha256", "payloadByteLength",
      "updatedAtMs"] event
  -- the fields of an inlined checkpoint
  let inlined := ["checkpointPayload", "checkpoint", "snapshot", "sessionSnapshot", "messages",
    "state"].find? fun key => (payload.lookup key).isSome
  ensure inlined.isNone (recordError event
    ("checkpoint_ref must not inline checkpoint payload field " ++ inlined.getD ""))
  let _ ← requiredPayloadString payload "checkpointId" event
  let kind ← requiredPayloadString payload "kind" event
  ensure (["wait", "recovery"].contains kind) ("unsupported_checkpoint_kind:" ++ kind)
  let _ ← requiredPayloadString payload "objectRef" event
  let status ← requiredPayloadString payload "status" event
  ensure (["paused_question", "waiting", "committed"].contains status)
    (recordError event ("checkpoint status is unsupported: " ++ status))
  let _ ← requireSha256Payload payload "payloadSha256" event
  let _ ← requiredPayloadU64 payload "payloadByteLength" event
  let _ ← requiredPayloadU64 payload "updatedAtMs" event
  pure ()

/-- An optional digest of a file fact. -/
def validateOptionalSha256 (payload : Payload) (key : String) (event : SessionLogRecord) :
    Outcome Unit := do
  match ← optionalPayloadString payload key event with
  | some value => validateSha256Value value key event
  | none => pure ()

def validateFileFact (event : SessionLogRecord) : Outcome Unit := do
  let _ ← requiredEventTurnId event
  let _ ← requiredEventAgentRunId event
  let payload ← payloadObject event
  requireExactPayloadFields payload
    ["schema", "toolName", "toolCallId", "operation", "path", "targetPath", "previousFileHash",
      "readSnapshotHash", "fileHash", "bytesWritten", "addedLines", "removedLines", "sessionId",
      "executionOwner"] event
  let schema ← requiredPayloadString payload "schema" event
  ensure (schema == "file_mutation_pre_apply_fact_v1")
    (recordError event "file_fact schema is unsupported")
  let _ ← requiredPayloadString payload "toolName" event
  let _ ← requiredPayloadString payload "toolCallId" event
  let operation ← requiredPayloadString payload "operation" event
  ensure (["create", "overwrite", "update"].contains operation)
    (recordError event ("file_fact operation is unsupported: " ++ operation))
  let _ ← requiredPayloadString payload "path" event
  let _ ← optionalPayloadString payload "targetPath" event
  validateOptionalSha256 payload "previousFileHash" event
  validateOptionalSha256 payload "readSnapshotHash" event
  validateOptionalSha256 payload "fileHash" event
  let _ ← optionalPayloadU64 payload "bytesWritten" event
  let _ ← optionalPayloadU64 payload "addedLines" event
  let _ ← optionalPayloadU64 payload "removedLines" event
  let sessionId ← requiredPayloadString payload "sessionId" event
  ensure (sessionId == event.sessionId) (recordError event "file_fact sessionId mismatch")
  let _ ← requiredPayloadString payload "executionOwner" event
  pure ()

def validateTombstone (event : SessionLogRecord) : Outcome Unit := do
  let payload ← payloadObject event
  requireExactPayloadFields payload ["tombstoneId", "targetEventIds", "reasonType"] event
  let _ ← requiredPayloadString payload "tombstoneId" event
  validateNonEmptyStringArray payload "targetEventIds" event
  let _ ← requiredPayloadString payload "reasonType" event
  pure ()

/-! ### The whole record -/

def validateEventPayload (event : SessionLogRecord) : Outcome Unit :=
  match event.eventType with
  | .sessionMeta => validateSessionMeta contracts event
  | .agentRunStarted => validateAgentRunStarted event
  | .agentRunRecoveryAttempted => do
    let _ ← executionRecoveryAttempt event
    pure ()
  | .agentRunExecutionStarted => validateAgentRunExecutionStarted event
  | .agentRunExecutionEnded => validateAgentRunExecutionEnded event
  | .userMessage => validateUserMessage contracts event
  | .hostEventInput => validateHostEventInput contracts event
  | .turnSupplement => validateTurnSupplement contracts event
  | .assistantMessage => validateAssistantMessage event
  | .toolCall => validateToolCall event
  | .toolResult => validateToolResult contracts event
  | .toolCallClosure => validateToolCallClosure contracts event
  | .modelRequestStarted => validateModelRequestStarted contracts event
  | .reasoningBlock => validateReasoningBlock event
  | .providerUsage => validateProviderUsage contracts event
  | .phaseEvent => validatePhaseEvent contracts event
  | .externalEvidenceRef => validateExternalEvidenceRef event
  | .fileFact => validateFileFact event
  | .citationRecorded => validateCitationRecorded contracts event
  | .artifactPublished => validateArtifactPublished event
  | .compaction => validateCompaction event
  | .checkpointRef => validateCheckpointRef event
  | .tombstone => validateTombstone event
  | .agentRunCompleted => validateAgentRunTerminal event
  | .agentRunFailed => validateAgentRunFailed event
  | .agentRunInterrupted => validateAgentRunInterrupted event

/-- Envelope and payload. -/
def validateEventShape (event : SessionLogRecord) : Outcome Unit := do
  ensure (event.eventVersion == event.eventType.eventVersion)
    ("unsupported " ++ event.eventType.asStr ++ " eventVersion: " ++
      event.eventVersion.toNat.repr)
  ensure (event.schemaVersion == sessionEventSchemaVersion)
    ("session.event.v1 schemaVersion mismatch: expected session.event.v1, got " ++
      event.schemaVersion)
  ensure (!isBlank event.eventId) "session.event.v1 eventId is required"
  ensure (decide (event.eventId.utf8ByteSize ≤ sessionEventIdMaxBytes))
    "session.event.v1 eventId exceeds 160 bytes"
  ensure (!isBlank event.sessionId) "session.event.v1 sessionId is required"
  let _ ← payloadObject event
  validateEventPayload contracts event

/-- A record of valid shape has an object as its payload. -/
theorem payload_isObject_of_shape {event : SessionLogRecord}
    (h : validateEventShape contracts event = .ok ()) :
    ∃ payload, event.payload = .object payload := by
  simp only [validateEventShape, Outcome.ok_rules, payloadObject] at h
  obtain ⟨-, -, -, -, -, payload, hpay, -⟩ := h
  cases hvl : event.payload with
  | object members => exact ⟨members, rfl⟩
  | _ => simp [hvl, Json.asObject?] at hpay

end Centaeris
