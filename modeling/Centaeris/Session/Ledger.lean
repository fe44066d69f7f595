import Centaeris.Foundation.Mutation
import Centaeris.Session.Reduce

namespace Centaeris

open Foundation

/-!
# The ledger of an AgentRun

`AgentRunSessionState` follows the records of one run while they are appended.  Its
methods write to the ledger as they go, so they are `Mutation`s.
-/

variable (contracts : PayloadContracts)

structure ActiveAgentRunExecution where
  executionId : String
  authorizationDigest : String
deriving DecidableEq

/-- What the ledger remembers of the records of its run. -/
structure AgentRunSessionState where
  reasoning : ReasoningLedger
  sessionId : String
  agentRunId : String
  next : UInt64
  committedSessionSequence : UInt64
  finalAssistantMessageIds : Finset String
  assistantTurnIds : Table String String
  committedToolCallIds : Finset String
  committedToolResultIds : Finset String
  committedPhaseTurnIds : Finset String
  /-- The last process state of each turn, as its record encodes it. -/
  modelProcessStates : Table String Json
  agentCompositionDigest : Option String
  compactionRequestIdentities : Table String (String × String)
  compactionRecordDigests : Table String String
  providerUsages : Table String Json
  committedSupplementIds : Finset String
  hostEventInputs : Table String (String × HostEventInput)
  committedCheckpointIds : Finset String
  toolLedgerCheckpointed : Bool
  citationIdentities : Table String Json
  citationProducts : List (UInt64 × Json)
  externalEvidenceIdentities : Table String Json
  fileFactIdentities : Finset String
  artifactPublicationIdentities : Table String Json
  /-- The published artifacts with their file names, in the order of first publication. -/
  artifactLinks : List (String × String)
  activeExecution : Option ActiveAgentRunExecution
  endedExecutionIds : Finset String
  usedRecoveryCheckpointIds : Finset String
  recoveryAttempt : Option ExecutionRecoveryAttempt
  lastExecutionEndedAtMs : Option Int
  latestRecoveryCheckpointId : Option String

/-! ### Payloads as the ledger reads them -/

/-- A field that is a non-empty text; unlike the reducer, the ledger does not trim it. -/
def statePayloadText? (payload : Json) (key : String) : Option String :=
  ((payload.get? key).bind Json.asString?).filter (· ≠ "")

def statePayloadString (payload : Json) (key : String) : Outcome String :=
  orFail (statePayloadText? payload key)
    ("session record payload field " ++ key ++ " must be a non-empty string")

/-- Registers the payload under the identity in its field `key`, unless it is there. -/
def registerPayloadIdentity (seen : Table String Json) (key : String) (payload : Json) :
    Outcome (Table String Json) := do
  let identity ← statePayloadString payload key
  match seen[identity]? with
  | some existing => do
    ensure (existing == payload)
      ("session fact identity conflict for " ++ key ++ " " ++ identity)
    pure seen
  | none => pure (seen.insert identity payload)

def payloadIdentityMatches (seen : Table String Json) (key : String) (payload : Json) :
    Outcome Bool := do
  let identity ← statePayloadString payload key
  match seen[identity]? with
  | some existing => do
    ensure (existing == payload)
      ("session fact identity conflict for " ++ key ++ " " ++ identity)
    pure true
  | none => pure false

/-- The payload of a citation without the call that it came from. -/
def citationIdentity (payload : Json) : Outcome Json := do
  let members ← orFail payload.asObject? "citation payload must be an object"
  pure (.object (members.filter fun member => member.1 ≠ "sourceToolCallId"))

def registerCitationIdentity (seen : Table String Json) (payload : Json) :
    Outcome (Table String Json) := do
  let citationId ← orFail ((payload.get? "citationId").bind Json.asString?)
    "citation payload is missing citationId"
  let identity ← citationIdentity payload
  match seen[citationId]? with
  | some existing => do
    ensure (existing == identity) ("citation identity conflict for citationId " ++ citationId)
    pure seen
  | none => pure (seen.insert citationId identity)

def sessionPayloadDigest (payload : Json) : String :=
  contracts.sha256Hex (utf8Bytes payload.render)

mutual

/-- A value with the members of every object in the order of their keys. -/
def sortValue : Json → Json
  | .array items => .array (sortItems items)
  | .object members => .object ((sortMembers members).mergeSort fun a b => decide (a.1 ≤ b.1))
  | .null => .null
  | .bool b => .bool b
  | .number n => .number n
  | .string s => .string s

def sortItems : List Json → List Json
  | [] => []
  | item :: items => sortValue item :: sortItems items

def sortMembers : List (String × Json) → List (String × Json)
  | [] => []
  | (key, value) :: members => (key, sortValue value) :: sortMembers members

end

/-- The digest of a value in its canonical encoding, under a domain. -/
def canonicalSha256 (domain : String) (value : Json) : String :=
  "sha256:" ++ contracts.sha256Hex
    (utf8Bytes domain ++ [0] ++ utf8Bytes (sortValue value).render)

def intNumber (n : Int) : Json :=
  match n with
  | .ofNat n => .number (.posInt n)
  | .negSucc n => .number (.negInt n)

def SessionLogRecord.toJson (event : SessionLogRecord) : Json :=
  .object ([("schemaVersion", .string event.schemaVersion),
      ("eventVersion", .number (.posInt event.eventVersion.toNat)),
      ("type", .string event.eventType.asStr), ("eventId", .string event.eventId),
      ("sessionId", .string event.sessionId)] ++
    (event.turnId.map fun turnId => ("turnId", Json.string turnId)).toList ++
    (event.agentRunId.map fun agentRunId => ("agentRunId", Json.string agentRunId)).toList ++
    [("createdAtMs", intNumber event.createdAtMs), ("payload", event.payload)])

def compactionRecordDigest (event : SessionLogRecord) : String :=
  canonicalSha256 contracts "centaeris.compaction_record.v1" event.toJson

/-- The successor of a 64-bit counter, if it has one. -/
def checkedSucc (n : UInt64) : Option UInt64 :=
  if n.toNat + 1 < 2 ^ 64 then some (n + 1) else none

namespace AgentRunSessionState

def new (sessionId agentRunId : String) : Outcome AgentRunSessionState := do
  ensure (!isBlank sessionId) "AgentRun Session state sessionId is required"
  ensure (!isBlank agentRunId) "AgentRun Session state agentRunId is required"
  pure
    { reasoning := ReasoningLedger.empty, sessionId := sessionId, agentRunId := agentRunId
      next := 0, committedSessionSequence := 0, finalAssistantMessageIds := ∅
      assistantTurnIds := ∅, committedToolCallIds := ∅, committedToolResultIds := ∅
      committedPhaseTurnIds := ∅, modelProcessStates := ∅, agentCompositionDigest := none
      compactionRequestIdentities := ∅, compactionRecordDigests := ∅, providerUsages := ∅
      committedSupplementIds := ∅, hostEventInputs := ∅, committedCheckpointIds := ∅
      toolLedgerCheckpointed := false, citationIdentities := ∅, citationProducts := []
      externalEvidenceIdentities := ∅, fileFactIdentities := ∅
      artifactPublicationIdentities := ∅, artifactLinks := [], activeExecution := none
      endedExecutionIds := ∅, usedRecoveryCheckpointIds := ∅, recoveryAttempt := none
      lastExecutionEndedAtMs := none, latestRecoveryCheckpointId := none }

def hasToolCall (ledger : AgentRunSessionState) (toolCallId : String) : Bool :=
  decide (toolCallId ∈ ledger.committedToolCallIds)

def hasToolResult (ledger : AgentRunSessionState) (toolCallId : String) : Bool :=
  decide (toolCallId ∈ ledger.committedToolResultIds)

instance : IsTrans String (· ≤ ·) := inferInstance

instance : Std.Antisymm (fun a b : String => a ≤ b) := inferInstance

def openToolCallIds (ledger : AgentRunSessionState) : List String :=
  (ledger.committedToolCallIds \ ledger.committedToolResultIds).sort (· ≤ ·)

def assistantIsFinal (ledger : AgentRunSessionState) (messageId : String) : Bool :=
  decide (messageId ∈ ledger.finalAssistantMessageIds)

def artifactRefs (ledger : AgentRunSessionState) : List String :=
  ledger.artifactLinks.map Prod.fst

/-! ### One record -/

/-- The ledger as a state on which calls run. -/
abbrev Call (α : Type) := Mutation AgentRunSessionState α

/-- A check that reads the ledger. -/
def require (condition : AgentRunSessionState → Bool) (message : String) : Call Unit :=
  Mutation.query fun ledger => ensure (condition ledger) message

def read {α : Type} (outcome : Outcome α) : Call α := Mutation.query fun _ => outcome

def applyReasoning (event : SessionLogRecord) : Call Unit := do
  let reasoning ← Mutation.query fun ledger => ledger.reasoning.apply event
  Mutation.update fun ledger => { ledger with reasoning := reasoning }

def trackRecoveryAttempt (event : SessionLogRecord) : Call Unit := do
  let attempt ← read (executionRecoveryAttempt event)
  let expected ← Mutation.query fun ledger =>
    let previous := (ledger.recoveryAttempt.map (·.number)).getD 0
    -- the operands of the disjunction before the overflow are decided first
    if ledger.activeExecution.isSome || ledger.lastExecutionEndedAtMs.isNone ||
        decide (attempt.checkpointId ∉ ledger.committedCheckpointIds) then
      fail "execution recovery attempt binding mismatch"
    else orFail (if previous + 1 < 2 ^ 64 then some (previous + 1) else none)
      "execution recovery attempt overflow"
  require (fun _ => attempt.number == expected) "execution recovery attempt binding mismatch"
  Mutation.update fun ledger => { ledger with recoveryAttempt := some attempt }

def recoveredFromCheckpointId (payload : Json) : Outcome (Option String) :=
  match payload.get? "recoveredFromCheckpointId" with
  | some .null => pure none
  | some (.string value) => pure (some value)
  | _ => fail "AgentRun Execution recovery identity is invalid"

def checkExecutionStart (payload : Json) (ledger : AgentRunSessionState) :
    Outcome (String × Option String) := do
  let executionId ← statePayloadString payload "executionId"
  ensure ledger.activeExecution.isNone "AgentRun already has an active Execution"
  ensure (decide (executionId ∉ ledger.endedExecutionIds))
    ("AgentRun Execution cannot restart: " ++ executionId)
  let recovered ← recoveredFromCheckpointId payload
  ensure (decide (ledger.endedExecutionIds = ∅) == recovered.isNone)
    "AgentRun Execution recovery lineage is invalid"
  ensure (recovered.all fun checkpointId => decide (checkpointId ∈ ledger.committedCheckpointIds))
    "AgentRun Execution recovery checkpoint is missing"
  ensure
    (recovered.all fun checkpointId => decide (checkpointId ∉ ledger.usedRecoveryCheckpointIds))
    "AgentRun recovery checkpoint already started a replacement Execution"
  pure (executionId, recovered)

def trackExecutionStarted (event : SessionLogRecord) : Call Unit := do
  let (executionId, recovered) ← Mutation.query (checkExecutionStart event.payload)
  -- the checkpoint is marked as used before the digest is read
  Mutation.update fun ledger => { ledger with
    usedRecoveryCheckpointIds := recovered.toFinset ∪ ledger.usedRecoveryCheckpointIds }
  let digest ← read (statePayloadString event.payload "authorizationDigest")
  Mutation.update fun ledger => { ledger with activeExecution := some ⟨executionId, digest⟩ }

def trackExecutionEnded (event : SessionLogRecord) : Call Unit := do
  let executionId ← read (statePayloadString event.payload "executionId")
  require (fun ledger => ledger.activeExecution.map (·.executionId) == some executionId)
    ("AgentRun Execution is not active: " ++ executionId)
  Mutation.update fun ledger => { ledger with
    activeExecution := none
    lastExecutionEndedAtMs := some event.createdAtMs
    endedExecutionIds := insert executionId ledger.endedExecutionIds }

def trackTerminal : Call Unit :=
  require (fun ledger => ledger.activeExecution.isNone)
    "AgentRun terminal requires the active Execution to end"

def trackAssistantMessage (event : SessionLogRecord) : Call Unit := do
  let messageId ← read (statePayloadString event.payload "messageId")
  let status ← read (statePayloadString event.payload "status")
  require (fun _ => status == "done" || status == "error")
    ("assistant status is unsupported: " ++ status)
  let turnId ← read (orFail event.turnId "assistant message turn is missing")
  require (fun ledger => ledger.assistantTurnIds[messageId]?.all (· == turnId))
    ("assistant message turn mismatch: " ++ messageId)
  require (fun ledger => !ledger.assistantIsFinal messageId)
    ("assistant message written after final: " ++ messageId)
  Mutation.update fun ledger => { ledger with
    assistantTurnIds := ledger.assistantTurnIds.insert messageId turnId
    finalAssistantMessageIds := insert messageId ledger.finalAssistantMessageIds }

/-- A tool record makes the last checkpoint stale, whether it is accepted or not. -/
def staleCheckpoint : Call Unit :=
  Mutation.update fun ledger => { ledger with toolLedgerCheckpointed := false }

def trackToolCall (event : SessionLogRecord) : Call Unit := do
  staleCheckpoint
  let callId ← read (statePayloadString event.payload "callId")
  require (fun ledger => !ledger.hasToolCall callId) ("duplicate committed tool call: " ++ callId)
  Mutation.update fun ledger => { ledger with
    committedToolCallIds := insert callId ledger.committedToolCallIds }

def trackToolResult (event : SessionLogRecord) : Call Unit := do
  staleCheckpoint
  let callId ← read (statePayloadString event.payload "callId")
  require (fun ledger => ledger.hasToolCall callId) ("tool result precedes tool call: " ++ callId)
  require (fun ledger => !ledger.hasToolResult callId)
    ("duplicate committed tool result: " ++ callId)
  Mutation.update fun ledger => { ledger with
    committedToolResultIds := insert callId ledger.committedToolResultIds }

def trackPhaseEvent (event : SessionLogRecord) : Call Unit := do
  let turnId ← read (orFail event.turnId "phase event turn is missing")
  if event.payload.get? "stage" == some (.string "model_process_state") then do
    let state := (event.payload.get? "processState").getD .null
    read (mapError (contracts.processState state) fun error =>
      "invalid model process state: " ++ error)
    Mutation.update fun ledger => { ledger with
      modelProcessStates := ledger.modelProcessStates.insert turnId state }
  else do
    require (fun ledger => decide (turnId ∉ ledger.committedPhaseTurnIds))
      ("duplicate committed phase event: " ++ turnId)
    Mutation.update fun ledger => { ledger with
      committedPhaseTurnIds := insert turnId ledger.committedPhaseTurnIds }

/-- A compaction record replaces the digest under its event id, and fails after that when
    the digest was another one. -/
def trackCompaction (event : SessionLogRecord) : Call Unit := do
  let digest := compactionRecordDigest contracts event
  let existing ← Mutation.query fun ledger => pure (ledger.compactionRecordDigests[event.eventId]?)
  Mutation.update fun ledger => { ledger with
    compactionRecordDigests := ledger.compactionRecordDigests.insert event.eventId digest }
  require (fun _ => existing.all (· == digest)) "committed compaction event identity conflict"

/-- The identity of a compaction request: its turn and the digest of its prompt. -/
def compactionRequestIdentity (event : SessionLogRecord) : Outcome (String × String × String) := do
  let requestId ← statePayloadString event.payload "requestId"
  let observations ← orFail ((event.payload.get? "observations").bind Json.asArray?)
    "compaction observations missing"
  let prompts := observations.filter fun observation =>
    observation.get? "kind" == some (.string "compaction_prompt")
  let prompt ← orFail (if prompts.length = 1 then prompts.head? else none)
    "compaction request prompt identity missing"
  let text ← orFail (((prompt.get? "message").bind (·.get? "content")).bind Json.asString?)
    "compaction prompt content missing"
  let turnId ← orFail event.turnId "compaction request turn missing"
  pure (requestId, turnId,
    canonicalSha256 contracts "centaeris.compaction_prompt.v1" (.string text))

def trackCompactionRequest (event : SessionLogRecord) : Call Unit := do
  let (requestId, identity) ← read (compactionRequestIdentity contracts event)
  let existing ← Mutation.query fun ledger => pure (ledger.compactionRequestIdentities[requestId]?)
  Mutation.update fun ledger => { ledger with
    compactionRequestIdentities := ledger.compactionRequestIdentities.insert requestId identity }
  require (fun _ => existing.all (· == identity)) "compaction request identity conflict"

def trackMainRequest (event : SessionLogRecord) : Call Unit := do
  let digest ← read (orFail
    (((event.payload.get? "agentComposition").bind (·.get? "compositionDigest")).bind
      Json.asString?)
    "model request agent composition digest is missing")
  require (fun ledger => ledger.agentCompositionDigest.all (· == digest))
    "model request changes immutable AgentRun composition"
  Mutation.update fun ledger => { ledger with agentCompositionDigest := some digest }

def trackModelRequestStarted (event : SessionLogRecord) : Call Unit := do
  let purpose ← read (statePayloadString event.payload "purpose")
  if purpose = "compaction" then trackCompactionRequest contracts event
  else if purpose = "main" then trackMainRequest event
  else pure ()

/-- A provider usage replaces the usage of its turn, and fails after that when there was
    one. -/
def trackProviderUsage (event : SessionLogRecord) : Call Unit := do
  let turnId ← read (orFail event.turnId "provider usage turn is missing")
  let existing ← Mutation.query fun ledger => pure (ledger.providerUsages[turnId]?)
  Mutation.update fun ledger => { ledger with
    providerUsages := ledger.providerUsages.insert turnId event.payload }
  require (fun _ => existing.isNone) ("duplicate committed provider usage: " ++ turnId)

/-- A checkpoint is committed before its kind is read. -/
def trackCheckpointRef (event : SessionLogRecord) : Call Unit := do
  let checkpointId ← read (statePayloadString event.payload "checkpointId")
  require (fun ledger => decide (checkpointId ∉ ledger.committedCheckpointIds))
    ("duplicate committed checkpoint ref: " ++ checkpointId)
  Mutation.update fun ledger => { ledger with
    committedCheckpointIds := insert checkpointId ledger.committedCheckpointIds }
  let kind ← read (statePayloadString event.payload "kind")
  if kind = "recovery" then
    Mutation.update fun ledger => { ledger with
      latestRecoveryCheckpointId := some checkpointId
      toolLedgerCheckpointed := ledger.openToolCallIds.isEmpty }
  else pure ()

def trackTurnSupplement (event : SessionLogRecord) : Call Unit := do
  let supplementId ← read (statePayloadString event.payload "supplementId")
  require (fun ledger => decide (supplementId ∉ ledger.committedSupplementIds))
    ("duplicate committed turn supplement: " ++ supplementId)
  Mutation.update fun ledger => { ledger with
    committedSupplementIds := insert supplementId ledger.committedSupplementIds }

def trackHostEventInput (event : SessionLogRecord) : Call Unit := do
  let input ← read (mapError (contracts.hostEventInput event.payload) fun error =>
    "decode host event input failed: " ++ error)
  Mutation.query fun ledger => input.validate contracts ledger.sessionId
  let turnId ← read (requiredEventTurnId event)
  require (fun ledger => ledger.hostEventInputs[input.messageId]?.isNone)
    "host_event_input_identity_duplicated"
  Mutation.update fun ledger => { ledger with
    hostEventInputs := ledger.hostEventInputs.insert input.messageId (turnId, input) }

def trackCitationRecorded (event : SessionLogRecord) (sequence : UInt64) : Call Unit := do
  let identities ← Mutation.query fun ledger =>
    registerCitationIdentity ledger.citationIdentities event.payload
  Mutation.update fun ledger => { ledger with
    citationIdentities := identities
    citationProducts := ledger.citationProducts ++ [(sequence, event.payload)] }

def trackExternalEvidenceRef (event : SessionLogRecord) : Call Unit := do
  let identities ← Mutation.query fun ledger =>
    registerPayloadIdentity ledger.externalEvidenceIdentities "objectRef" event.payload
  Mutation.update fun ledger => { ledger with externalEvidenceIdentities := identities }

def trackFileFact (event : SessionLogRecord) : Call Unit :=
  Mutation.update fun ledger => { ledger with
    fileFactIdentities := insert (sessionPayloadDigest contracts event.payload)
      ledger.fileFactIdentities }

/-- The artifacts with one more publication; a known artifact keeps its place. -/
def linkArtifact (links : List (String × String)) (artifactRef filename : String) :
    Outcome (List (String × String)) :=
  match links.find? (·.1 == artifactRef) with
  | some link => do
    ensure (link.2 == filename) ("artifact filename conflict for artifactRef " ++ artifactRef)
    pure links
  | none => pure (links ++ [(artifactRef, filename)])

/-- A publication is registered before its artifact is read and linked. -/
def trackArtifactPublished (event : SessionLogRecord) : Call Unit := do
  let identities ← Mutation.query fun ledger =>
    registerPayloadIdentity ledger.artifactPublicationIdentities "publicationId" event.payload
  Mutation.update fun ledger => { ledger with artifactPublicationIdentities := identities }
  let artifactRef ← read (statePayloadString event.payload "artifactRef")
  let filename ← read (statePayloadString event.payload "filename")
  let links ← Mutation.query fun ledger => linkArtifact ledger.artifactLinks artifactRef filename
  Mutation.update fun ledger => { ledger with artifactLinks := links }

def trackRecord (event : SessionLogRecord) (sequence : UInt64) : Call Unit :=
  match event.eventType with
  | .agentRunRecoveryAttempted => trackRecoveryAttempt event
  | .agentRunExecutionStarted => trackExecutionStarted event
  | .agentRunExecutionEnded => trackExecutionEnded event
  | .agentRunCompleted | .agentRunFailed | .agentRunInterrupted => trackTerminal
  | .assistantMessage => trackAssistantMessage event
  | .toolCall => trackToolCall event
  | .toolResult => trackToolResult event
  | .phaseEvent => trackPhaseEvent contracts event
  | .compaction => trackCompaction contracts event
  | .modelRequestStarted => trackModelRequestStarted contracts event
  | .providerUsage => trackProviderUsage event
  | .checkpointRef => trackCheckpointRef event
  | .turnSupplement => trackTurnSupplement event
  | .hostEventInput => trackHostEventInput contracts event
  | .citationRecorded => trackCitationRecorded event sequence
  | .externalEvidenceRef => trackExternalEvidenceRef event
  | .fileFact => trackFileFact contracts event
  | .artifactPublished => trackArtifactPublished event
  | .reasoningBlock | .sessionMeta | .agentRunStarted | .userMessage | .toolCallClosure
  | .tombstone => pure ()

/-- One record, with one function for each record type that the ledger follows. -/
def track (event : SessionLogRecord) (sequence : UInt64) : Call Unit := do
  applyReasoning event
  trackRecord contracts event sequence

/-! ### Records that reach the ledger -/

def validateIdentity (ledger : AgentRunSessionState) (event : SessionLogRecord) : Outcome Unit :=
  ensure (event.sessionId == ledger.sessionId && event.agentRunId == some ledger.agentRunId)
    "canonical Session record AgentRun identity mismatch"

/-- The place of the next record. -/
def nextSequence (ledger : AgentRunSessionState) : Outcome UInt64 :=
  orFail (checkedSucc ledger.next) "AgentRun Session sequence exhausted"

/-- A record that is known to be of this run, at its place. -/
def advance (event : SessionLogRecord) (sequence : UInt64) : Call Unit := do
  track contracts event sequence
  Mutation.update fun ledger => { ledger with next := sequence }

/-- A record of the log and a new record reach the ledger. -/
def restore (sequenced : SequencedSessionRecord) : Call Unit := do
  let expected ← Mutation.query nextSequence
  require (fun _ => sequenced.sequence == expected)
    "existing AgentRun Session sequence is not contiguous"
  Mutation.query (validateIdentity · sequenced.event)
  advance contracts sequenced.event sequenced.sequence

def record (event : SessionLogRecord) : Call SequencedSessionRecord := do
  Mutation.query (validateIdentity · event)
  let sequence ← Mutation.query nextSequence
  advance contracts event sequence
  pure ⟨sequence, event⟩

end AgentRunSessionState

/-! ### Restoring a run -/

/-- The records that carry the id of a run. -/
def recordsOf (run : String) (events : List SessionLogRecord) : List SessionLogRecord :=
  events.filter fun event => event.agentRunId == some run

/-- One record restored at the next place; a failure ends the restoration. -/
def AgentRunSessionState.restoreNext (ledger : AgentRunSessionState) (event : SessionLogRecord) :
    Outcome AgentRunSessionState :=
  match AgentRunSessionState.restore contracts ⟨ledger.next + 1, event⟩ ledger with
  | (.ok _, ledger') => .ok ledger'
  | (.error e, _) => .error e

/-- A fresh ledger with the records that a log has for its run. -/
def restoreRun (sessionId run : String) (events : List SessionLogRecord) :
    Outcome AgentRunSessionState := do
  let ledger ← AgentRunSessionState.new sessionId run
  (recordsOf run events).foldlM (AgentRunSessionState.restoreNext contracts) ledger

end Centaeris
