import Centaeris.Foundation.Table
import Centaeris.Session.Shape

namespace Centaeris

open Foundation

/-!
# Session logs

A log is a list of sequenced records.  A tombstone record makes earlier records of its
log inactive.
-/

variable (contracts : PayloadContracts)

/-! ### Tombstones -/

/-- The types of the records read so far and the inactive ones; `applyFact` is the step from
    payload-free facts, `apply` the step from a record. -/
structure ActiveTombstoneLedger where
  priorTypes : Table String SessionRecordType
  targets : Finset String

namespace ActiveTombstoneLedger

def empty : ActiveTombstoneLedger := ⟨∅, ∅⟩

/-- One target of a tombstone: an earlier record that is active and no tombstone. -/
def applyTarget (eventId : String) (ledger : ActiveTombstoneLedger) (target : String) :
    Outcome ActiveTombstoneLedger := do
  let targetType ← orFail ledger.priorTypes[target]?
    ("session.event.v1 " ++ eventId ++
      " tombstone target must reference a prior event: " ++ target)
  ensure (targetType != .tombstone)
    ("session.event.v1 " ++ eventId ++ " must not tombstone another tombstone")
  ensure (decide (target ∉ ledger.targets))
    ("session.event.v1 " ++ eventId ++ " tombstone target is already inactive: " ++ target)
  pure { ledger with targets := insert target ledger.targets }

def applyFact (ledger : ActiveTombstoneLedger) (expectedSessionId eventId sessionId : String)
    (eventType : SessionRecordType) (tombstoneTargets : List String) :
    Outcome ActiveTombstoneLedger := do
  ensure (sessionId == expectedSessionId)
    ("session.event.v1 cross-session event " ++ eventId ++ " belongs to " ++ sessionId ++
      " but expected " ++ expectedSessionId)
  ensure (ledger.priorTypes[eventId]?.isNone)
    ("session.event.v1 duplicate eventId: " ++ eventId)
  let ledger ←
    if eventType = .tombstone then do
      ensure (!tombstoneTargets.isEmpty)
        ("session.event.v1 " ++ eventId ++ " tombstone targets are required")
      tombstoneTargets.foldlM (applyTarget eventId) ledger
    else do
      ensure tombstoneTargets.isEmpty
        ("session.event.v1 " ++ eventId ++ " non-tombstone must not carry tombstone targets")
      pure ledger
  pure { ledger with priorTypes := ledger.priorTypes.insert eventId eventType }

def targetsOf (event : SessionLogRecord) : Outcome (List String) :=
  if event.eventType = .tombstone then do
    let payload ← payloadObject event
    let targets ← requiredPayloadArray payload "targetEventIds" event
    targets.mapM fun target =>
      orFail target.asString? (recordError event "payload.targetEventIds must contain strings")
  else pure []

def apply (ledger : ActiveTombstoneLedger) (expectedSessionId : String)
    (event : SessionLogRecord) : Outcome ActiveTombstoneLedger := do
  validateEventShape contracts event
  let tombstoneTargets ← targetsOf event
  ledger.applyFact expectedSessionId event.eventId event.sessionId event.eventType
    tombstoneTargets

def isInactive (ledger : ActiveTombstoneLedger) (eventId : String) : Bool :=
  decide (eventId ∈ ledger.targets)

end ActiveTombstoneLedger

/-- The inactive records of a log. -/
def activeTombstoneTargets (expectedSessionId : String) (events : List SessionLogRecord) :
    Outcome (Finset String) := do
  let ledger ← events.foldlM
    (fun ledger event => ActiveTombstoneLedger.apply contracts ledger expectedSessionId event)
    ActiveTombstoneLedger.empty
  pure ledger.targets

/-- Whether a record of a log with the given inactive ids is active. -/
def isActive (targets : Finset String) (event : SessionLogRecord) : Bool :=
  event.eventType != .tombstone && decide (event.eventId ∉ targets)

/-! ### Sample records -/

/-- Contracts that decode the states of tool results and accept an empty image list. -/
def toolContracts : PayloadContracts where
  sessionMetadata := fun _ => .error "unsupported"
  messageAttachment := fun _ => .error "unsupported"
  userInputAttachments := fun _ => .error "unsupported"
  hostEventInput := fun _ => .error "unsupported"
  resultState
    | .string "successWithOutput" => .ok .successWithOutput
    | .string "successNoOutput" => .ok .successNoOutput
    | .string "successNoMatches" => .ok .successNoMatches
    | .string "failed" => .ok .failed
    | .string "denied" => .ok .denied
    | .string "aborted" => .ok .aborted
    | _ => .error "unknown variant"
  processState := fun _ => .error "unsupported"
  providerUsage := fun _ => .error "unsupported"
  modelObservations := fun _ _ _ => fail "unsupported"
  modelToolChoice := fun _ _ _ => fail "unsupported"
  contextTokenBreakdown := fun _ _ _ => fail "unsupported"
  agentComposition := fun _ _ => fail "unsupported"
  knowledgeLocator := fun _ _ => fail "unsupported"
  modelInputImages := fun _ images => ensure (images == .array []) "unsupported"
  sha256Hex := fun _ => ""

/-- A record of one session, turn and run. -/
def sampleRecord (sequence : UInt64) (eventType : SessionRecordType) (payload : Json) :
    SequencedSessionRecord where
  sequence := sequence
  event :=
    { schemaVersion := sessionEventSchemaVersion
      eventVersion := eventType.eventVersion
      eventType := eventType
      eventId := "e" ++ sequence.toNat.repr
      sessionId := "s"
      turnId := some "t"
      agentRunId := some "r"
      createdAtMs := 0
      payload := payload }

def userMessageRecord (sequence : UInt64) (messageId text : String) : SequencedSessionRecord :=
  sampleRecord sequence .userMessage (.object [("messageId", .string messageId),
    ("text", .string text), ("attachments", .array [])])

def toolCallRecord (sequence : UInt64) (callId : String) : SequencedSessionRecord :=
  sampleRecord sequence .toolCall (.object [("callId", .string callId),
    ("toolName", .string "ls"),
    ("toolContractDigest", .string
      "sha256:0000000000000000000000000000000000000000000000000000000000000000"),
    ("providerId", .string "p"), ("normalizedInput", .object []),
    ("displayTarget", .string "d")])

def toolResultRecord (sequence : UInt64) (callId : String) : SequencedSessionRecord :=
  sampleRecord sequence .toolResult (.object [("callId", .string callId),
    ("toolName", .string "ls"), ("resultState", .string "successNoOutput"),
    ("modelContent", .string ""), ("fullOutputPath", .null), ("outputStartByte", .null),
    ("outputByteLength", .number (.posInt 0)), ("outputComplete", .bool true),
    ("summary", .string "ok"), ("operations", .array []), ("modelInputImages", .array []),
    ("latencyMs", .number (.posInt 7))])

end Centaeris
