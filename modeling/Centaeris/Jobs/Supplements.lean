import Centaeris.Jobs.Fencing
import Centaeris.Session.Shape

namespace Centaeris

open Foundation

/-!
# The queue of turn supplements

While an agent run is under way, messages for it are kept in a queue of the run.  The worker
that holds the run's job claims messages, acknowledges those that it has recorded, and closes
the queue.  One row holds a whole queue; every call reads it, checks it and writes it back.
-/

def agentRunLifecycleJobKind : String := "agent_run.lifecycle"
def maxPendingTurnSupplements : Nat := 8

def agentRunLifecycleJobId (agentRunId : String) : Outcome String := do
  let agentRunId := trim agentRunId
  ensure (agentRunId != "" && decide (agentRunId.utf8ByteSize ≤ 128) &&
      agentRunId.toList.all fun c => c.isAlphanum || ['_', '-', '.'].contains c)
    "agent_run_lifecycle_agent_run_id_invalid"
  pure ("agent_run.lifecycle:" ++ agentRunId)

/-! ### Rows -/

/-- The rows. -/
structure DurableTurnSupplement where
  supplementId : String
  sequence : Nat
  message : String
  createdAtMs : Int
  claimToken : Option String
  claimLeaseOwner : Option String
deriving DecidableEq

/-- What every request says about its run. -/
structure RunIdentity where
  agentRunId : String
  lifecycleJobId : String
  sessionId : String
  authorizationDigest : String
deriving DecidableEq

structure StoredQueue where
  lifecycleJobId : String
  sessionId : String
  authorizationDigest : String
  revision : Nat
  nextSequence : Nat
  accepting : Bool
  entries : List DurableTurnSupplement
  dedupe : Table String String
  closedReason : Option String

/-- The jobs, the queues by run, the runs with a request to cancel them, and the sessions that
    a checkpoint keeps waiting for an answer or for a job. -/
structure SupplementStore where
  jobs : JobStore
  queues : Table String StoredQueue
  cancelRequested : List String
  parked : List String

def SupplementStore.empty : SupplementStore := ⟨.empty, ∅, [], []⟩

/-- An integer that is stored must fit. -/
def storable (value : Nat) : Bool := decide ((value : Int) ≤ i64Max)

def storeQueue (store : SupplementStore) (agentRunId : String) (queue : StoredQueue)
    (failed : String) : Outcome SupplementStore := do
  ensure (storable queue.revision && storable queue.nextSequence)
    (failed ++ ": out of range integral type conversion attempted")
  pure { store with queues := store.queues.insert agentRunId queue }

/-- A queue for a run that has none; a job has one queue. -/
def insertQueue (store : SupplementStore) (agentRunId : String) (queue : StoredQueue)
    (failed : String) : Outcome SupplementStore := do
  ensure (store.queues.toList.all fun entry => entry.2.lifecycleJobId != queue.lifecycleJobId)
    (failed ++
      ": UNIQUE constraint failed: runtime_turn_supplement_queues.lifecycle_job_id")
  storeQueue store agentRunId queue failed

/-- The queue is written back with the next revision. -/
def updateQueue (store : SupplementStore) (agentRunId : String) (queue : StoredQueue) :
    Outcome SupplementStore :=
  storeQueue store agentRunId { queue with revision := queue.revision + 1 }
    "CAS turn supplement queue failed"

/-- The queue of a run that had none, when it is closed at once. -/
def closedQueue (identity : RunIdentity) (reason : String) : StoredQueue :=
  ⟨identity.lifecycleJobId, identity.sessionId, identity.authorizationDigest, 1, 1, false, [], ∅,
    some reason⟩

/-! ### Checks -/

def validateTurnSupplementMessage (message : String) : Outcome String := do
  let message := trim message
  ensure (message != "") "turn_supplement_message_required"
  ensure (decide (message.utf8ByteSize ≤ maxTurnSupplementBytes))
    s!"turn_supplement_message_too_large:maxBytes={maxTurnSupplementBytes}"
  pure message

def validateCommonIdentity (identity : RunIdentity) : Outcome Unit := do
  ensure ([identity.agentRunId, identity.lifecycleJobId, identity.sessionId,
    identity.authorizationDigest].all fun value => !isBlank value)
    "turn_supplement_identity_required"
  let jobId ← agentRunLifecycleJobId identity.agentRunId
  ensure (identity.lifecycleJobId == jobId) "turn_supplement_job_id_mismatch"

def isAgentRunJob (identity : RunIdentity) (job : RuntimeJob) : Bool :=
  job.jobKind == agentRunLifecycleJobKind && !job.status.isTerminal &&
    job.sessionId == some identity.sessionId &&
    job.payloadRef == some ("record:agent_run:" ++ identity.agentRunId) &&
    job.idempotencyKey == "agent_run.lifecycle:" ++ identity.agentRunId ++ ":" ++
      identity.authorizationDigest

/-- The job of a run is under way and, where a lease is given, held under it. -/
def validateActiveJob (store : SupplementStore) (identity : RunIdentity)
    (lease : Option (String × Int)) (rejectCancelled : Bool) : Outcome Unit := do
  ensure (!(rejectCancelled && store.cancelRequested.contains identity.agentRunId))
    "turn_supplement_admission_closed"
  let job ← orFail store.jobs.jobs[identity.lifecycleJobId]? "turn_supplement_agent_run_not_active"
  ensure (isAgentRunJob identity job) "turn_supplement_identity_mismatch"
  ensure (lease.all fun held => job.status == .running && holdsLease held.1 held.2 job)
    "turn_supplement_lease_fence_rejected"

def isQueueOf (identity : RunIdentity) (queue : StoredQueue) : Bool :=
  queue.lifecycleJobId == identity.lifecycleJobId && queue.sessionId == identity.sessionId &&
    queue.authorizationDigest == identity.authorizationDigest

/-! ### Enqueueing -/

structure EnqueueTurnSupplementRequest extends RunIdentity where
  supplementId : String
  message : String
  createdAtMs : Int

inductive EnqueueTurnSupplementDisposition where
  | accepted
  | duplicate
deriving DecidableEq

structure EnqueueTurnSupplementResult where
  disposition : EnqueueTurnSupplementDisposition
  queuedCount : Nat
  revision : Nat

/-- A queue with one more entry. -/
def StoredQueue.push (queue : StoredQueue) (supplementId message digest : String)
    (createdAtMs : Int) : StoredQueue :=
  { queue with
    revision := queue.revision + 1
    nextSequence := queue.nextSequence + 1
    entries := queue.entries ++
      [⟨supplementId, queue.nextSequence, message, createdAtMs, none, none⟩]
    dedupe := queue.dedupe.insert supplementId digest }

/-- Writes a queue with one more entry. -/
def writePushed (store : SupplementStore) (agentRunId : String) (isNew : Bool)
    (pushed : StoredQueue) : Outcome SupplementStore :=
  if isNew then insertQueue store agentRunId pushed "insert turn supplement queue failed"
  else storeQueue store agentRunId pushed "update turn supplement queue failed"

/-- The queue of a run that has none yet. -/
def emptyQueue (identity : RunIdentity) : StoredQueue :=
  ⟨identity.lifecycleJobId, identity.sessionId, identity.authorizationDigest, 0, 1, true, [], ∅,
    none⟩

/-- A queued job becomes due, unless its session waits for something else. -/
def wakeLifecycleJob (store : SupplementStore) (req : EnqueueTurnSupplementRequest) :
    SupplementStore :=
  match store.jobs.jobs[req.lifecycleJobId]? with
  | some job =>
    if job.status = .queued ∧ req.sessionId ∉ store.parked then
      { store with
        jobs := { store.jobs with
          jobs := store.jobs.jobs.insert req.lifecycleJobId
            { job with
              runAtMs := min job.runAtMs req.createdAtMs
              updatedAtMs := req.createdAtMs } } }
    else store
  | none => store

/-- The calls, each one transaction. -/
def enqueueTurnSupplement (digest : String → String) (store : SupplementStore)
    (req : EnqueueTurnSupplementRequest) :
    Outcome (SupplementStore × EnqueueTurnSupplementResult) := do
  let message ← validateTurnSupplementMessage req.message
  validateTurnSupplementId req.supplementId
  validateCommonIdentity req.toRunIdentity
  validateActiveJob store req.toRunIdentity none true
  let stored := store.queues[req.agentRunId]?
  ensure (stored.all (isQueueOf req.toRunIdentity)) "turn_supplement_queue_identity_mismatch"
  let queue := stored.getD (emptyQueue req.toRunIdentity)
  match queue.dedupe[req.supplementId]? with
  | some existing => do
    ensure (existing == digest message) "turn_supplement_idempotency_conflict"
    pure (store, ⟨.duplicate, queue.entries.length, queue.revision⟩)
  | none => do
    ensure queue.accepting "turn_supplement_admission_closed"
    ensure (decide (queue.entries.length < maxPendingTurnSupplements)) "turn_supplement_queue_full"
    let pushed := queue.push req.supplementId message (digest message) req.createdAtMs
    let store ← writePushed store req.agentRunId stored.isNone pushed
    pure (wakeLifecycleJob store req, ⟨.accepted, pushed.entries.length, pushed.revision⟩)

/-! ### Claiming -/

structure ClaimTurnSupplementsRequest extends RunIdentity where
  leaseOwner : String
  claimToken : String
  nowMs : Int
  closeIfEmpty : Bool
  limit : Nat

def DurableTurnSupplement.claimedBy (entry : DurableTurnSupplement) (token owner : String) :
    DurableTurnSupplement :=
  { entry with claimToken := some token, claimLeaseOwner := some owner }

/-- The loop over the entries: those that have the token already are skipped, and it stops when
    as many are claimed as may be. -/
def claimEntries (token owner : String) :
    Nat → List DurableTurnSupplement →
      Outcome (List DurableTurnSupplement × List DurableTurnSupplement)
  | _, [] => pure ([], [])
  | limit, entry :: rest =>
    if entry.claimToken = some token then do
      let (rest, claimed) ← claimEntries token owner limit rest
      pure (entry :: rest, claimed)
    else if entry.claimLeaseOwner = some owner then fail "turn_supplement_claim_in_progress"
    else if limit = 1 then
      pure (entry.claimedBy token owner :: rest, [entry.claimedBy token owner])
    else do
      let (rest, claimed) ← claimEntries token owner (limit - 1) rest
      pure (entry.claimedBy token owner :: rest, entry.claimedBy token owner :: claimed)

def validateClaimIdentity (req : ClaimTurnSupplementsRequest) : Outcome Unit := do
  validateCommonIdentity req.toRunIdentity
  ensure (!isBlank req.leaseOwner && !isBlank req.claimToken && req.limit != 0 &&
    decide (req.limit ≤ maxPendingTurnSupplements)) "turn_supplement_claim_identity_invalid"

def claimTurnSupplements (store : SupplementStore) (req : ClaimTurnSupplementsRequest) :
    Outcome (SupplementStore × List DurableTurnSupplement) := do
  validateClaimIdentity req
  validateActiveJob store req.toRunIdentity (some (req.leaseOwner, req.nowMs)) true
  match store.queues[req.agentRunId]? with
  | none =>
    if req.closeIfEmpty then do
      let store ← insertQueue store req.agentRunId
        (closedQueue req.toRunIdentity "safe_point_closed")
        "insert empty closed turn supplement queue failed"
      pure (store, [])
    else pure (store, [])
  | some queue => do
    ensure (isQueueOf req.toRunIdentity queue) "turn_supplement_queue_identity_mismatch"
    let (entries, claimed) ← claimEntries req.claimToken req.leaseOwner req.limit queue.entries
    let close := req.closeIfEmpty && entries.isEmpty
    if !claimed.isEmpty || close then do
      let store ← updateQueue store req.agentRunId
        { queue with
          entries := entries
          accepting := !close && queue.accepting
          closedReason := if close then some "safe_point_closed" else none }
      pure (store, claimed)
    else pure (store, claimed)

/-! ### Acknowledging and closing -/

structure AcknowledgeTurnSupplementsRequest extends RunIdentity where
  leaseOwner : String
  claimToken : String
  supplementIds : List String
  acknowledgedAtMs : Int

def validateAckIdentity (req : AcknowledgeTurnSupplementsRequest) : Outcome Unit := do
  validateCommonIdentity req.toRunIdentity
  ensure (!isBlank req.leaseOwner && !isBlank req.claimToken && !req.supplementIds.isEmpty)
    "turn_supplement_ack_identity_invalid"

def acknowledgeTurnSupplements (store : SupplementStore)
    (req : AcknowledgeTurnSupplementsRequest) : Outcome SupplementStore := do
  validateAckIdentity req
  validateActiveJob store req.toRunIdentity (some (req.leaseOwner, req.acknowledgedAtMs)) true
  let queue ← orFail store.queues[req.agentRunId]? "turn_supplement_queue_missing"
  let matched := queue.entries.filter fun entry => req.supplementIds.contains entry.supplementId
  if matched.isEmpty then pure store
  else do
    ensure (matched.length == req.supplementIds.dedup.length &&
        matched.all fun entry => entry.claimToken == some req.claimToken &&
          entry.claimLeaseOwner == some req.leaseOwner)
      "turn_supplement_ack_identity_mismatch"
    updateQueue store req.agentRunId
      { queue with
        entries := queue.entries.filter fun entry =>
          !req.supplementIds.contains entry.supplementId }

structure CloseTurnSupplementQueueRequest extends RunIdentity where
  leaseOwner : Option String
  reason : String
  closedAtMs : Int

def validateCloseIdentity (req : CloseTurnSupplementQueueRequest) : Outcome Unit := do
  validateCommonIdentity req.toRunIdentity
  ensure (!isBlank req.reason) "turn_supplement_close_reason_required"

def closeTurnSupplementQueue (store : SupplementStore) (req : CloseTurnSupplementQueueRequest) :
    Outcome SupplementStore := do
  validateCloseIdentity req
  validateActiveJob store req.toRunIdentity
    (req.leaseOwner.map fun owner => (owner, req.closedAtMs)) false
  match store.queues[req.agentRunId]? with
  | some queue => do
    ensure (isQueueOf req.toRunIdentity queue) "turn_supplement_queue_identity_mismatch"
    updateQueue store req.agentRunId
      { queue with accepting := false, entries := [], closedReason := some req.reason }
  | none =>
    insertQueue store req.agentRunId (closedQueue req.toRunIdentity req.reason)
      "insert closed turn supplement queue failed"

/-! ### Runs -/

/-- A call to the store: one of the four, a call to the jobs, or what other parts of the
    program write. -/
inductive SupplementCall where
  | enqueue (req : EnqueueTurnSupplementRequest)
  | claim (req : ClaimTurnSupplementsRequest)
  | acknowledge (req : AcknowledgeTurnSupplementsRequest)
  | close (req : CloseTurnSupplementQueueRequest)
  | job (call : JobCall)
  | requestCancel (agentRunId : String)
  | park (sessions : List String)

/-- How tokens and digests are made. -/
structure SupplementHost where
  tokens : LeaseTokens
  digest : String → String

def SupplementStore.perform (host : SupplementHost) (store : SupplementStore) :
    SupplementCall → Outcome SupplementStore
  | .enqueue req => (·.1) <$> enqueueTurnSupplement host.digest store req
  | .claim req => (·.1) <$> claimTurnSupplements store req
  | .acknowledge req => acknowledgeTurnSupplements store req
  | .close req => closeTurnSupplementQueue store req
  | .job call => pure { store with jobs := store.jobs.step host.tokens call }
  | .requestCancel agentRunId =>
    pure { store with cancelRequested := agentRunId :: store.cancelRequested }
  | .park sessions => pure { store with parked := sessions }

/-- The store after a call; a call that fails is rolled back. -/
def SupplementStore.step (host : SupplementHost) (store : SupplementStore)
    (call : SupplementCall) : SupplementStore :=
  match store.perform host call with
  | .ok store' => store'
  | .error _ => store

def SupplementStore.after (host : SupplementHost) (calls : List SupplementCall) :
    SupplementStore :=
  calls.foldl (SupplementStore.step host) .empty

end Centaeris
