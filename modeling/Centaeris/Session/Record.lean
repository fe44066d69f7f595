import Centaeris.Foundation.Json

namespace Centaeris

open Foundation

/-!
# Session records

The records of a session log and the readers of their payloads.
-/

/-! ### Records -/

def sessionEventSchemaVersion : String := "session.event.v1"
def sessionEventVersion : UInt32 := 1
def sessionEventIdMaxBytes : Nat := 160

inductive SessionRecordType where
  | sessionMeta
  | agentRunStarted
  | agentRunRecoveryAttempted
  | agentRunExecutionStarted
  | agentRunExecutionEnded
  | userMessage
  | hostEventInput
  | turnSupplement
  | assistantMessage
  | toolCall
  | toolResult
  | toolCallClosure
  | modelRequestStarted
  | reasoningBlock
  | providerUsage
  | phaseEvent
  | externalEvidenceRef
  | citationRecorded
  | artifactPublished
  | compaction
  | checkpointRef
  | tombstone
  | fileFact
  | agentRunCompleted
  | agentRunFailed
  | agentRunInterrupted
deriving DecidableEq

namespace SessionRecordType

def eventVersion (_ : SessionRecordType) : UInt32 := sessionEventVersion

def asStr : SessionRecordType → String
  | sessionMeta => "session_meta"
  | agentRunStarted => "agent_run_started"
  | agentRunRecoveryAttempted => "agent_run_recovery_attempted"
  | agentRunExecutionStarted => "agent_run_execution_started"
  | agentRunExecutionEnded => "agent_run_execution_ended"
  | userMessage => "user_message"
  | hostEventInput => "host_event_input"
  | turnSupplement => "turn_supplement"
  | assistantMessage => "assistant_message"
  | toolCall => "tool_call"
  | toolResult => "tool_result"
  | toolCallClosure => "tool_call_closure"
  | modelRequestStarted => "model_request_started"
  | reasoningBlock => "reasoning_block"
  | providerUsage => "provider_usage"
  | phaseEvent => "phase_event"
  | externalEvidenceRef => "external_evidence_ref"
  | citationRecorded => "citation_recorded"
  | artifactPublished => "artifact_published"
  | compaction => "compaction"
  | checkpointRef => "checkpoint_ref"
  | tombstone => "tombstone"
  | fileFact => "file_fact"
  | agentRunCompleted => "agent_run_completed"
  | agentRunFailed => "agent_run_failed"
  | agentRunInterrupted => "agent_run_interrupted"

end SessionRecordType

structure SessionLogRecord where
  schemaVersion : String
  eventVersion : UInt32
  eventType : SessionRecordType
  eventId : String
  sessionId : String
  turnId : Option String
  agentRunId : Option String
  createdAtMs : Int
  payload : Json
deriving DecidableEq

structure SequencedSessionRecord where
  sequence : UInt64
  event : SessionLogRecord
deriving DecidableEq

/-! ### Typed payload parts -/

inductive ToolResultState where
  | successWithOutput
  | successNoOutput
  | successNoMatches
  | failed
  | denied
  | aborted
deriving DecidableEq

def ToolResultState.isSuccess : ToolResultState → Bool
  | successWithOutput | successNoOutput | successNoMatches => true
  | failed | denied | aborted => false

structure SessionMetadataV1 where
  recordId : String
  title : String
  cwd : String
  sessionKind : String
  parentSessionId : Option String
  runtimeJobId : Option String
  sortOrder : Option Int
  isPinned : Bool
  isUnread : Bool
deriving DecidableEq

structure MessageAttachmentRef where
  inputRef : String
  displayName : String
  contentType : String
  placeholder : Option String
deriving DecidableEq

/-- An attachment of a turn supplement. -/
structure UserInputAttachment where
  inputRef : String
  displayName : String
  contentType : String
deriving DecidableEq

structure HostEventInput where
  inputId : String
  messageId : String
  source : String
  content : String
deriving DecidableEq

structure ProviderTokenUsageV1 where
  inputTokens : Option Nat
  outputTokens : Option Nat
  totalTokens : Option Nat
  promptCacheHitTokens : Option Nat
  promptCacheMissTokens : Option Nat
deriving DecidableEq

/-- What the log defers to: the decoders derived for the typed payload parts, the checks
    of model requests, citation locators and input images, and the digest of the stable
    event identity. -/
structure PayloadContracts where
  sessionMetadata : Json → Except String SessionMetadataV1
  messageAttachment : Json → Except String MessageAttachmentRef
  userInputAttachments : Json → Except String (List UserInputAttachment)
  hostEventInput : Json → Except String HostEventInput
  resultState : Json → Except String ToolResultState
  processState : Json → Except String Unit
  providerUsage : Json → Except String ProviderTokenUsageV1
  /-- The observations of a model request with the given purpose. -/
  modelObservations : SessionLogRecord → String → Json → Outcome Unit
  /-- The tool choice of a model request with the given purpose. -/
  modelToolChoice : SessionLogRecord → String → Json → Outcome Unit
  /-- The token breakdown of a model request with the given estimate. -/
  contextTokenBreakdown : SessionLogRecord → Nat → Json → Outcome Unit
  agentComposition : SessionLogRecord → Json → Outcome Unit
  knowledgeLocator : SessionLogRecord → Json → Outcome Unit
  modelInputImages : SessionLogRecord → Json → Outcome Unit
  sha256Hex : List UInt8 → String

/-! ### Payload readers -/

abbrev Payload := List (String × Json)

def recordError (event : SessionLogRecord) (text : String) : String :=
  "session.event.v1 " ++ event.eventId ++ " " ++ text

def payloadObject (event : SessionLogRecord) : Outcome Payload :=
  orFail event.payload.asObject? (recordError event "payload must be a JSON object")

def requireExactPayloadFields (payload : Payload) (expected : List String)
    (event : SessionLogRecord) : Outcome Unit :=
  ensure (payload.length == expected.length &&
      expected.all fun name => (payload.lookup name).isSome)
    (recordError event "payload fields mismatch")

/-- A text with the white space at its ends removed, if something is left. -/
def trimmedText? (text : String) : Option String :=
  if isBlank text then none else some (trim text)

def requiredEventTurnId (event : SessionLogRecord) : Outcome String :=
  orFail (event.turnId.bind trimmedText?) (recordError event "turnId is required")

def requiredEventAgentRunId (event : SessionLogRecord) : Outcome String :=
  orFail (event.agentRunId.bind trimmedText?) (recordError event "agentRunId is required")

def payloadText? (payload : Payload) (key : String) : Option String :=
  (payload.lookup key).bind Json.asString?

/-- One reader for each kind of payload field, with the error text that names the field. -/
def requiredPayloadString (payload : Payload) (key : String) (event : SessionLogRecord) :
    Outcome String :=
  orFail ((payloadText? payload key).bind trimmedText?)
    (recordError event s!"payload.{key} is required")

def requiredPayloadStringAllowEmpty (payload : Payload) (key : String)
    (event : SessionLogRecord) : Outcome String :=
  orFail (payloadText? payload key) (recordError event s!"payload.{key} must be a string")

def optionalPayloadString (payload : Payload) (key : String) (event : SessionLogRecord) :
    Outcome (Option String) :=
  match payload.lookup key with
  | some .null => pure none
  | some (.string value) =>
    if isBlank value then
      fail (recordError event s!"payload.{key} must be a non-empty string or null")
    else pure (some value)
  | _ => fail (recordError event s!"payload.{key} must be a non-empty string or null")

def optionalPayloadU64 (payload : Payload) (key : String) (event : SessionLogRecord) :
    Outcome (Option Nat) :=
  match payload.lookup key with
  | some .null => pure none
  | some value => do
    let number ← orFail value.asU64? (recordError event s!"payload.{key} must be a u64 or null")
    pure (some number)
  | none => fail (recordError event s!"payload.{key} is required")

def validateNullableString (payload : Payload) (key : String) (event : SessionLogRecord) :
    Outcome Unit :=
  match payload.lookup key with
  | some .null => pure ()
  | some (.string value) =>
    ensure (!isBlank value) (recordError event s!"payload.{key} must be a string or null")
  | _ => fail (recordError event s!"payload.{key} must be a string or null")

def requiredPayloadU64 (payload : Payload) (key : String) (event : SessionLogRecord) :
    Outcome Nat :=
  orFail ((payload.lookup key).bind Json.asU64?)
    (recordError event s!"payload.{key} must be a u64")

def requiredPayloadBool (payload : Payload) (key : String) (event : SessionLogRecord) :
    Outcome Bool :=
  orFail ((payload.lookup key).bind Json.asBool?)
    (recordError event s!"payload.{key} must be a bool")

def requiredPayloadArray (payload : Payload) (key : String) (event : SessionLogRecord) :
    Outcome (List Json) :=
  orFail ((payload.lookup key).bind Json.asArray?)
    (recordError event s!"payload.{key} must be an array")

def validateStringArray (payload : Payload) (key : String) (event : SessionLogRecord) :
    Outcome Unit := do
  let values ← requiredPayloadArray payload key event
  ensure (values.all fun value => value.asString?.isSome)
    (recordError event s!"payload.{key} must contain only strings")

def validateNonEmptyStringArray (payload : Payload) (key : String) (event : SessionLogRecord) :
    Outcome Unit := do
  validateStringArray payload key event
  let values ← requiredPayloadArray payload key event
  ensure (!values.isEmpty) (recordError event s!"payload.{key} must not be empty")

/-! ### Digests -/

/-- The rest of a text after a leading part; nothing of another text. -/
def stripLeading (leading text : String) : String :=
  if leading.toList.isPrefixOf text.toList then
    String.ofList (text.toList.drop leading.length)
  else ""

/-- A given number of lower-case hexadecimal digits. -/
def isLowerHex (length : Nat) (text : String) : Bool :=
  text.utf8ByteSize == length &&
    (utf8Bytes text).all fun byte => (48 ≤ byte && byte ≤ 57) || (97 ≤ byte && byte ≤ 102)

/-- Sixty-four digits of a number, from the lowest. -/
def hexDigits (n : Nat) : String :=
  String.ofList ((List.range 64).map fun i => Nat.digitChar (n / 16 ^ i % 16))

theorem utf8EncodeChar_digitChar : ∀ k < 16, ∃ byte,
    String.utf8EncodeChar (Nat.digitChar k) = [byte] ∧
      ((48 ≤ byte && byte ≤ 57) || (97 ≤ byte && byte ≤ 102)) = true := by decide

theorem isLowerHex_hexDigits (n : Nat) : isLowerHex 64 (hexDigits n) = true := by
  have hdigit : ∀ i, ∃ byte, String.utf8EncodeChar (Nat.digitChar (n / 16 ^ i % 16)) = [byte] ∧
      ((48 ≤ byte && byte ≤ 57) || (97 ≤ byte && byte ≤ 102)) = true :=
    fun i => utf8EncodeChar_digitChar _ (Nat.mod_lt _ (by decide))
  choose byte hbyte hhex using hdigit
  have hbytes : utf8Bytes (hexDigits n) = (List.range 64).map byte := by
    simp only [utf8Bytes_eq_flatMap, hexDigits, String.toList_ofList, List.flatMap_map, hbyte]
    exact List.flatMap_pure_eq_map byte _
  rw [isLowerHex, ← utf8Bytes_length, hbytes, List.length_map, List.length_range]
  simp [hhex]

/-- A stand-in for the hash in samples: the bytes are the digits of a number, whose lowest 256
    bits count. -/
def sampleSha256Hex (bytes : List UInt8) : String :=
  hexDigits (bytes.foldl (fun n byte => n * 257 + (byte.toNat + 1)) 0)

def validateSha256Value (value key : String) (event : SessionLogRecord) : Outcome Unit :=
  ensure (isLowerHex 64 (stripLeading "sha256:" value))
    (recordError event s!"payload.{key} must be sha256:<64 lowercase hex>")

def requireSha256Payload (payload : Payload) (key : String) (event : SessionLogRecord) :
    Outcome String := do
  let value ← requiredPayloadString payload key event
  validateSha256Value value key event
  pure value

/-- The identity of an event that a component derives from texts. -/
def stableSessionEventId (contracts : PayloadContracts) (kind : String)
    (components : List String) : String :=
  let preimage := Json.array [.string kind, .array (components.map .string)]
  "evt_v1_" ++ kind ++ ":sha256:" ++ contracts.sha256Hex (utf8Bytes preimage.render)

end Centaeris
