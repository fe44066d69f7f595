import Centaeris.Foundation.JsonRead
import Centaeris.Jobs.Fencing

namespace Centaeris

open Foundation

/-!
# Polling a provider

A tool whose answer is not ready leaves a job that asks the provider again.  A worker claims
the job, asks once, and requeues it, completes it or gives it up.  What the job has been
through is kept as a text in its `lastError`.

The readers of the JSON texts are parameters, as are the readings of the clock, in the order
in which they are taken.  Of a report of the tool only what the worker reads is kept.
-/

inductive ToolFailureKind where
  | commandFailed
  | timedOut
  | sandboxUnavailable
  | hostUnavailable
  | providerError
  | permissionDenied
  | invalidInput
  | cancelled
  | unknown
deriving DecidableEq

def ToolFailureKind.asStr : ToolFailureKind → String
  | .commandFailed => "command_failed"
  | .timedOut => "timed_out"
  | .sandboxUnavailable => "sandbox_unavailable"
  | .hostUnavailable => "host_unavailable"
  | .providerError => "provider_error"
  | .permissionDenied => "permission_denied"
  | .invalidInput => "invalid_input"
  | .cancelled => "cancelled"
  | .unknown => "unknown"

structure ToolErrorInfo where
  kind : ToolFailureKind
  modelMessage : String
  retryable : Bool
deriving DecidableEq

/-! ### Payloads -/

def providerPollPayloadRefLeading : String := "provider-polling-json:"

structure ProviderPollingRuntimePayload where
  providerId : String
  toolName : String
  pollKey : String
  pollArgs : Json
  sourceAgentRunId : String
  sourceTurnId : String
  sourceToolCallId : String
  leaseMs : Nat

def ProviderPollingRuntimePayload.validate (payload : ProviderPollingRuntimePayload) :
    Except String Unit := do
  [("providerId", payload.providerId), ("toolName", payload.toolName),
    ("pollKey", payload.pollKey), ("sourceAgentRunId", payload.sourceAgentRunId),
    ("sourceTurnId", payload.sourceTurnId),
    ("sourceToolCallId", payload.sourceToolCallId)].forM fun field =>
      if isBlank field.2 then
        Except.error ("provider poll payload " ++ field.1 ++ " is required")
      else pure ()
  if payload.leaseMs = 0 then .error "provider poll payload leaseMs must be positive" else pure ()

/-! ### Progress -/

def providerPollProgressLeading : String := "provider-polling-progress-json:"
def providerPollMaxConsecutiveErrorAttempts : Nat := 3

/-- The pending answers and the errors in a row, with its text. -/
structure ProviderPollingProgress where
  pendingAttempts : Nat
  consecutiveErrorAttempts : Nat
  lastTransition : String
deriving DecidableEq

namespace ProviderPollingProgress

def default : ProviderPollingProgress := ⟨0, 0, ""⟩

def toJson (progress : ProviderPollingProgress) : Json :=
  .object [("pendingAttempts", .number (.posInt progress.pendingAttempts)),
    ("consecutiveErrorAttempts", .number (.posInt progress.consecutiveErrorAttempts)),
    ("lastTransition", .string progress.lastTransition)]

/-- The numbers are of the type `u32`. -/
def Fits (progress : ProviderPollingProgress) : Prop :=
  progress.pendingAttempts ≤ u32Limit ∧ progress.consecutiveErrorAttempts ≤ u32Limit

end ProviderPollingProgress

/-- How payloads and progress are read; written progress is read back. -/
structure PollReaders where
  payload : String → Except String ProviderPollingRuntimePayload
  progress : String → Except String ProviderPollingProgress
  progress_written : ∀ p : ProviderPollingProgress, p.Fits → progress p.toJson.render = .ok p

def strippedOf? (leading text : String) : Option String :=
  if leading.toList.isPrefixOf (charsOf text) then
    some (String.ofList ((charsOf text).drop leading.toList.length))
  else none

@[simp] theorem strippedOf?_append (leading text : String) :
    strippedOf? leading (leading ++ text) = some text := by
  simp [strippedOf?, charsOf_eq]

section

variable (readers : PollReaders)

def parseProviderPollPayloadRef (payloadRef : Option String) :
    Except String ProviderPollingRuntimePayload :=
  match (payloadRef.map trim).filter (· ≠ "") with
  | none => .error "provider poll payload_ref is required"
  | some raw => match strippedOf? providerPollPayloadRefLeading raw with
    | none => .error "provider poll payload_ref prefix is invalid"
    | some json => match readers.payload json with
      | .error error => .error ("decode provider poll payload_ref failed: " ++ error)
      | .ok payload => do
        payload.validate
        pure payload

/-- The progress of a job: none yet, or what its last error tells. -/
def providerPollingProgress (jobId : String) (job : RuntimeJob) :
    Except String ProviderPollingProgress :=
  match job.lastError with
  | none => .ok .default
  | some raw => match strippedOf? providerPollProgressLeading raw with
    | none => .error ("provider poll job has unsupported progress state: job_id=" ++ jobId)
    | some encoded => match readers.progress encoded with
      | .ok progress => .ok progress
      | .error error => .error ("decode provider poll progress failed: " ++ error)

def encodeProviderPollingProgress (progress : ProviderPollingProgress) : String :=
  providerPollProgressLeading ++ progress.toJson.render

inductive ProviderPollingFailureAction where
  | retry (progress : ProviderPollingProgress)
  | deadLetter (reason : String)
deriving DecidableEq

/-- What an error and a pending answer make of it. -/
def providerPollingFailureAction (jobId : String) (job : RuntimeJob) (error : ToolErrorInfo) :
    Except String ProviderPollingFailureAction :=
  if error.retryable = false then .ok (.deadLetter "provider_poll_permanent_error")
  else do
    let progress ← providerPollingProgress readers jobId job
    let next : ProviderPollingProgress := { progress with
      consecutiveErrorAttempts := satAdd32 progress.consecutiveErrorAttempts 1
      lastTransition := "retryable_error:" ++ error.kind.asStr }
    if providerPollMaxConsecutiveErrorAttempts ≤ next.consecutiveErrorAttempts then
      pure (.deadLetter "provider_poll_retry_exhausted")
    else pure (.retry next)

def providerPollingPendingProgress (jobId : String) (job : RuntimeJob) (pollKey : String) :
    Except String ProviderPollingProgress := do
  let progress ← providerPollingProgress readers jobId job
  pure ⟨satAdd32 progress.pendingAttempts 1, 0, "pending:" ++ pollKey⟩

end

/-! ### The store -/

/-- A row of the dead letters, without the id of its job. -/
structure DeadLetterRecord where
  jobKind : String
  sessionId : Option String
  payloadRef : Option String
  idempotencyKey : String
  failureReason : String
  lastError : String
  attempts : Nat
  failedAtMs : Int
deriving DecidableEq

/-- The jobs, and the dead letters by the id of their job. -/
structure PollingStore where
  jobs : JobStore
  deadLetters : Table String DeadLetterRecord

/-- A dead letter that is there already stays as it is. -/
def createDeadLetterAndFailJob (store : PollingStore) (record : DeadLetterRecord)
    (req : FailRuntimeJobRequest) : Outcome PollingStore := do
  let jobs ← failRuntimeJob store.jobs req
  pure ⟨jobs, if store.deadLetters[req.jobId]?.isSome then store.deadLetters
    else store.deadLetters.insert req.jobId record⟩

/-- What the limits of a job are; no call changes them. -/
structure PollLimits where
  maxRetries : Nat
  backoff : RuntimeBackoffPolicy
  fits : maxRetries ≤ u32Limit

/-! ### One visit -/

inductive ProviderPollingJobOutcome where
  | completed
  | requeued
  | deadLettered
  | cancelled
deriving DecidableEq

structure DynamicToolPollingSpec where
  pollKey : String
  nextPollAtMs : Option Int

structure ReportedObject where
  objectId : String
  metadata : Json

/-- What the tool reports. -/
inductive PollReport where
  | failed (error : ToolErrorInfo)
  | pending (spec : Except String DynamicToolPollingSpec)
  /-- The object of the answer, whether facts were reported, and whether the tables of external
      objects accept the object. -/
  | finished (object : Option (Except String ReportedObject)) (hasFacts : Bool)
      (accepted : Except String Unit)

/-- How the worker finds the tool for a job. -/
inductive PollVisit where
  | ready (report : PollReport)
  | failed (error : ToolErrorInfo)
  | stopped (reason : String)

def requiredProviderPollJobField (jobId fieldName : String) (value : Option String)
    (action : String) : Outcome String :=
  orFail ((value.map trim).filter (· ≠ ""))
    (action ++ " requires runtime job " ++ fieldName ++ ": job_id=" ++ jobId)

def providerPollJobLeaseOwner (jobId : String) (job : RuntimeJob) (action : String) :
    Outcome String :=
  requiredProviderPollJobField jobId "lease_owner" job.leaseOwner action

/-- A sum of times, at most the largest one. -/
def satAddMs (atMs : Int) (delayMs : Nat) : Int := min (atMs + delayMs) i64Max

section

variable (store : PollingStore) (jobId : String) (job : RuntimeJob)

def deadLetterProviderPollJob (failureReason lastError : String) (nowMs : Int) :
    Outcome (PollingStore × ProviderPollingJobOutcome) := do
  let leaseOwner ← providerPollJobLeaseOwner jobId job "dead letter provider poll job"
  let store ← createDeadLetterAndFailJob store
    ⟨job.jobKind, job.sessionId, job.payloadRef, job.idempotencyKey, failureReason, lastError,
      satAdd32 job.retryCount 1, nowMs⟩
    ⟨jobId, leaseOwner, nowMs, lastError, none, .deadLettered⟩
  pure (store, .deadLettered)

/-- The job goes back to the queue with its progress. -/
def requeueProviderPollJob (leaseOwner : String) (progress : ProviderPollingProgress)
    (failedAtMs nextRunAtMs : Int) : Outcome (PollingStore × ProviderPollingJobOutcome) := do
  let jobs ← failRuntimeJob store.jobs ⟨jobId, leaseOwner, failedAtMs,
    encodeProviderPollingProgress progress, some nextRunAtMs, .retryScheduled⟩
  pure ({ store with jobs }, .requeued)

variable (readers : PollReaders) (limits : PollLimits) (clock : Nat → Int)

def handleProviderPollFailure (error : ToolErrorInfo) :
    Outcome (PollingStore × ProviderPollingJobOutcome) :=
  match providerPollingFailureAction readers jobId job error with
  | .ok (.deadLetter reason) =>
    deadLetterProviderPollJob store jobId job reason error.modelMessage (clock 0)
  | .error progressError =>
    deadLetterProviderPollJob store jobId job "provider_poll_progress_invalid" progressError
      (clock 0)
  | .ok (.retry progress) => do
    let leaseOwner ← providerPollJobLeaseOwner jobId job "fail provider poll job"
    requeueProviderPollJob store jobId leaseOwner progress (clock 0)
      (satAddMs (clock 0) (runtimeJobRetryDelayMs limits.backoff
        progress.consecutiveErrorAttempts jobId (clock 0)))

def handleProviderPollPending (leaseOwner : String) (spec : DynamicToolPollingSpec) :
    Outcome (PollingStore × ProviderPollingJobOutcome) :=
  match providerPollingPendingProgress readers jobId job spec.pollKey with
  | .error error =>
    deadLetterProviderPollJob store jobId job "provider_poll_progress_invalid" error (clock 0)
  | .ok progress =>
    if max limits.maxRetries 1 ≤ progress.pendingAttempts then
      deadLetterProviderPollJob store jobId job "provider_poll_pending_exhausted"
        (s!"provider poll remained pending after {progress.pendingAttempts} attempts poll_key=" ++
          spec.pollKey) (clock 0)
    else
      requeueProviderPollJob store jobId leaseOwner progress (clock 2)
        (spec.nextPollAtMs.getD (satAddMs (clock 0) (runtimeJobRetryDelayMs limits.backoff
          progress.pendingAttempts jobId (clock 1))))

/-- The references of an answer: the object that it brings. -/
def finishedOutputRefs (object : Option (Except String ReportedObject)) (hasFacts : Bool) :
    Outcome (List String) :=
  match object with
  | some (.error error) => fail error
  | some (.ok object) => do
    ensure (!hasFacts || object.metadata.isObject)
      "provider poll external object metadata must be an object"
    let _ ← requiredProviderPollJobField jobId "session_id" job.sessionId
      "link provider poll external context"
    pure [object.objectId]
  | none => do
    ensure (!hasFacts) "provider poll facts require a durable external object"
    pure []

def completeProviderPollJob (leaseOwner : String) (outputRefs : List String)
    (accepted : Except String Unit) : Outcome (PollingStore × ProviderPollingJobOutcome) := do
  mapError accepted id
  let jobs ← completeRuntimeJob store.jobs ⟨jobId, leaseOwner, outputRefs, clock 0⟩
  pure ({ store with jobs }, .completed)

/-- One visit of a worker to a claimed job. -/
def runProviderPollJob (report : PollReport) :
    Outcome (PollingStore × ProviderPollingJobOutcome) :=
  match parseProviderPollPayloadRef readers job.payloadRef with
  | .error error =>
    deadLetterProviderPollJob store jobId job "provider_poll_payload_invalid" error (clock 0)
  | .ok _ => do
    let leaseOwner ← providerPollJobLeaseOwner jobId job "run provider poll job"
    match report with
    | .failed error => handleProviderPollFailure store jobId job readers limits clock error
    | .pending (.error error) => fail error
    | .pending (.ok spec) =>
      handleProviderPollPending store jobId job readers limits clock leaseOwner spec
    | .finished object hasFacts accepted => do
      let outputRefs ← finishedOutputRefs jobId job object hasFacts
      completeProviderPollJob store jobId clock leaseOwner outputRefs accepted

def cancelProviderPollJob (reason : String) :
    Outcome (PollingStore × ProviderPollingJobOutcome) := do
  ensure (!isBlank reason) "stop provider poll job requires a reason"
  let jobs ← cancelRuntimeJob store.jobs
    ⟨jobId, trim reason, clock 0, some job.status, job.leaseOwner⟩
  pure ({ store with jobs }, .cancelled)

def visitProviderPollJob : PollVisit → Outcome (PollingStore × ProviderPollingJobOutcome)
  | .ready report => runProviderPollJob store jobId job readers limits clock report
  | .failed error => handleProviderPollFailure store jobId job readers limits clock error
  | .stopped reason => cancelProviderPollJob store jobId job clock reason

end

end Centaeris
