import Centaeris.Foundation.Integers
import Centaeris.Foundation.Json
import Centaeris.Foundation.Table

namespace Centaeris

open Foundation

/-!
# The store of runtime jobs

Jobs are rows of a database that several workers share.  A worker claims a job and gets a
lease token; until the lease expires it may start the job, renew the lease, give the job back
for later (`yieldRuntimeJob`), complete it or fail it.

Times are the callers'.  Lease tokens are taken from a source that never repeats one.
-/

/-- The rows, the events and the outbox. -/
inductive RuntimeJobStatus where
  | queued
  | leased
  | running
  | succeeded
  | failed
  | deadLettered
  | cancelled
deriving DecidableEq

namespace RuntimeJobStatus

def isTerminal : RuntimeJobStatus → Bool
  | .succeeded | .failed | .deadLettered | .cancelled => true
  | _ => false

/-- Whether a worker holds the job. -/
def isActive : RuntimeJobStatus → Bool
  | .leased | .running => true
  | _ => false

def canTransitionTo (status next : RuntimeJobStatus) : Bool :=
  (match status, next with
    | .queued, .leased | .queued, .cancelled | .leased, .running | .leased, .queued
    | .leased, .succeeded | .leased, .failed | .leased, .deadLettered | .leased, .cancelled
    | .running, .queued | .running, .succeeded | .running, .failed | .running, .deadLettered
    | .running, .cancelled => true
    | _, _ => false) || status == next

end RuntimeJobStatus

/-! ### Rows -/

structure RuntimeJob where
  jobKind : String
  idempotencyKey : String
  sessionId : Option String
  payloadRef : Option String
  status : RuntimeJobStatus
  runAtMs : Int
  leaseOwner : Option String
  leaseExpiresAtMs : Option Int
  heartbeatAtMs : Option Int
  retryCount : Nat
  outputRefs : List String
  lastError : Option String
  createdAtMs : Int
  updatedAtMs : Int
  leaseReclaimCount : Nat
  leaseReclaimNotBeforeMs : Option Int
deriving DecidableEq

inductive JobEventType where
  | wakeRequested
  | wakeConsumed
  | yielded
  | leaseReclaimed
deriving DecidableEq

/-- A row of the runtime events, without its id. -/
structure JobEvent where
  sessionId : String
  taskId : String
  eventType : JobEventType
  atMs : Int
  payloadJson : String
deriving DecidableEq

/-- A row of the outbox for the terminal event of a job. -/
structure OutboxRow where
  publishedAtMs : Option Int
  generation : Nat
deriving DecidableEq

/-- The tables, and the number of lease tokens that were generated. -/
structure JobStore where
  jobs : Table String RuntimeJob
  events : Table String JobEvent
  outbox : Table String OutboxRow
  issued : Nat

def JobStore.empty : JobStore := ⟨∅, ∅, ∅, 0⟩

/-- The token of a claim: the worker's id and a random part. -/
def leaseToken (workerId nonce : String) : String := workerId ++ ":" ++ nonce

/-- The random parts in the order in which they are generated; no token is generated twice. -/
structure LeaseTokens where
  nonce : Nat → String
  never_repeats : ∀ i j worker worker',
    leaseToken worker (nonce i) = leaseToken worker' (nonce j) → i = j

/-- Random parts of growing length: what follows the last colon of a token tells them apart. -/
def countingTokens : LeaseTokens where
  nonce i := String.ofList (List.replicate i 'a')
  never_repeats i j worker worker' h := by
    have hcounted : ∀ (worker : String) (k : Nat),
        ((leaseToken worker (String.ofList (List.replicate k 'a'))).toList.reverse.takeWhile
          (· == 'a')).length = k := by
      intro worker k
      simp [leaseToken]
    rw [← hcounted worker i, h, hcounted]

instance : Inhabited LeaseTokens := ⟨countingTokens⟩

/-- The rows of one job are changed where a condition holds; at least one must be. -/
def updateJob (store : JobStore) (jobId : String) (condition : RuntimeJob → Bool)
    (change : RuntimeJob → RuntimeJob) (message : String) : Outcome JobStore := do
  let job ← orFail store.jobs[jobId]? message
  ensure (condition job) message
  pure { store with jobs := store.jobs.insert jobId (change job) }

/-- A new event; its id must be new. -/
def insertEvent (store : JobStore) (eventId : String) (event : JobEvent) (failed : String) :
    Outcome JobStore := do
  ensure store.events[eventId]?.isNone
    (failed ++ ": UNIQUE constraint failed: runtime_events.event_id")
  pure { store with events := store.events.insert eventId event }

def upsertRuntimeJobOutboxEvent (store : JobStore) (jobId : String) : JobStore :=
  { store with
    outbox := store.outbox.insert jobId
      ⟨none, match store.outbox[jobId]? with | some row => row.generation + 1 | none => 0⟩ }

def eventSession (jobId : String) (sessionId : Option String) : String :=
  sessionId.getD ("runtime_job:" ++ jobId)

/-- An integer in a payload. -/
def intJson : Int → Json
  | .ofNat n => .number (.posInt n)
  | .negSucc n => .number (.negInt n)

/-! ### Scheduling and claiming -/

inductive ScheduleRuntimeJobDisposition where
  | inserted
  | existing
deriving DecidableEq

/-- A job as it is scheduled: queued, and held by nobody. -/
structure QueuedJob where
  jobId : String
  jobKind : String
  idempotencyKey : String
  sessionId : Option String
  payloadRef : Option String
  runAtMs : Int
  retryCount : Nat
  outputRefs : List String
  lastError : Option String
  createdAtMs : Int
  updatedAtMs : Int
  heartbeatAtMs : Option Int

def QueuedJob.row (job : QueuedJob) : RuntimeJob :=
  ⟨job.jobKind, job.idempotencyKey, job.sessionId, job.payloadRef, .queued, job.runAtMs, none, none,
    job.heartbeatAtMs, job.retryCount, job.outputRefs, job.lastError, job.createdAtMs,
    job.updatedAtMs, 0, none⟩

def scheduleRuntimeJob (store : JobStore) (job : QueuedJob) :
    Outcome (JobStore × ScheduleRuntimeJobDisposition) :=
  let sameKey := store.jobs.toList.any fun entry =>
    entry.2.jobKind == job.jobKind && entry.2.idempotencyKey == job.idempotencyKey
  if store.jobs[job.jobId]?.isNone && !sameKey then
    pure ({ store with jobs := store.jobs.insert job.jobId job.row }, .inserted)
  else do
    ensure sameKey ("schedule_runtime_job existing row missing job_kind=" ++ job.jobKind ++
      " idempotency_key=" ++ job.idempotencyKey)
    pure (store, .existing)

structure ClaimDueRuntimeJobsRequest where
  nowMs : Int
  workerId : String
  jobId : Option String
  jobKind : Option String
  sessionId : Option String
  limit : Nat
  leaseMs : Nat

/-- Whether a filter that is given and not blank admits a value. -/
def filterAdmits (filter : Option String) (value : Option String) : Bool :=
  ((filter.map trim).filter (· != "")).all fun wanted => value == some wanted

def isDue (req : ClaimDueRuntimeJobsRequest) (jobId : String) (job : RuntimeJob) : Bool :=
  job.status == .queued && decide (job.runAtMs ≤ req.nowMs) &&
    decide (job.leaseReclaimNotBeforeMs.getD job.runAtMs ≤ req.nowMs) &&
    filterAdmits req.jobId (some jobId) && filterAdmits req.jobKind (some job.jobKind) &&
    filterAdmits req.sessionId job.sessionId

/-- The order in which jobs are listed: by time, then by creation, then by id. -/
def listedBefore (a b : String × RuntimeJob) : Prop :=
  a.2.runAtMs < b.2.runAtMs ∨ (a.2.runAtMs = b.2.runAtMs ∧
    (a.2.createdAtMs < b.2.createdAtMs ∨ (a.2.createdAtMs = b.2.createdAtMs ∧ a.1 ≤ b.1)))

instance : DecidableRel listedBefore := fun a b => by unfold listedBefore; infer_instance

def dueJobIds (req : ClaimDueRuntimeJobsRequest) (store : JobStore) : List String :=
  (((store.jobs.toList.filter fun entry => isDue req entry.1 entry.2).insertionSort
    listedBefore).take req.limit).map (·.1)

/-- A job that is due gets a new token. -/
def claimJob (tokens : LeaseTokens) (req : ClaimDueRuntimeJobsRequest) (expiresAtMs : Int)
    (store : JobStore) (jobId : String) : JobStore :=
  match store.jobs[jobId]? with
  | some job =>
    if job.status == .queued then
      { store with
        jobs := store.jobs.insert jobId
          { job with
            status := .leased
            leaseOwner := some (leaseToken req.workerId (tokens.nonce store.issued))
            leaseExpiresAtMs := some expiresAtMs
            updatedAtMs := req.nowMs
            heartbeatAtMs := some req.nowMs }
        issued := store.issued + 1 }
    else store
  | none => store

/-- The calls, each one transaction: an error leaves the store as it was. -/
def claimDueRuntimeJobs (tokens : LeaseTokens) (store : JobStore)
    (req : ClaimDueRuntimeJobsRequest) : Outcome (JobStore × List (String × RuntimeJob)) := do
  ensure (decide ((req.limit : Int) ≤ i64Max)) s!"usize to i64 overflow: {req.limit}"
  ensure (decide ((req.leaseMs : Int) ≤ i64Max)) s!"lease_ms overflow: {req.leaseMs}"
  let expiresAtMs := min (req.nowMs + req.leaseMs) i64Max
  let ids := dueJobIds req store
  let claimed := ids.foldl (claimJob tokens req expiresAtMs) store
  pure (claimed, (claimed.jobs.toList.filter fun entry => ids.contains entry.1).insertionSort
    listedBefore)

/-! ### Calls of a worker that holds a lease -/

/-- The lease of a job is held under a token at a time. -/
def holdsLease (token : String) (atMs : Int) (job : RuntimeJob) : Bool :=
  job.status.isActive && job.leaseOwner == some token &&
    job.leaseExpiresAtMs.any fun expires => decide (atMs < expires)

structure StartRuntimeJobRequest where
  jobId : String
  leaseOwner : String
  startedAtMs : Int

def startRuntimeJob (store : JobStore) (req : StartRuntimeJobRequest) : Outcome JobStore :=
  updateJob store req.jobId
    (fun job => job.status == .leased && holdsLease req.leaseOwner req.startedAtMs job)
    (fun job => { job with
      status := .running
      updatedAtMs := req.startedAtMs
      heartbeatAtMs := some req.startedAtMs })
    ("start_runtime_job lease mismatch or job not found: " ++ req.jobId)

structure RenewRuntimeJobLeaseRequest where
  jobId : String
  leaseOwner : String
  heartbeatAtMs : Int
  leaseMs : Nat

def renewRuntimeJobLease (store : JobStore) (req : RenewRuntimeJobLeaseRequest) :
    Outcome JobStore := do
  ensure (decide ((req.leaseMs : Int) ≤ i64Max)) s!"lease_ms overflow: {req.leaseMs}"
  updateJob store req.jobId (holdsLease req.leaseOwner req.heartbeatAtMs)
    (fun job => { job with
      heartbeatAtMs := some req.heartbeatAtMs
      leaseExpiresAtMs := some (min (req.heartbeatAtMs + req.leaseMs) i64Max)
      updatedAtMs := req.heartbeatAtMs })
    ("renew_runtime_job_lease lease mismatch, expired lease, or job not found: " ++ req.jobId)

structure CompleteRuntimeJobRequest where
  jobId : String
  leaseOwner : String
  outputRefs : List String
  completedAtMs : Int

def completeRuntimeJob (store : JobStore) (req : CompleteRuntimeJobRequest) :
    Outcome JobStore := do
  let store ← updateJob store req.jobId (holdsLease req.leaseOwner req.completedAtMs)
    (fun job => { job with
      status := .succeeded
      outputRefs := req.outputRefs
      updatedAtMs := req.completedAtMs
      leaseOwner := none
      leaseExpiresAtMs := none
      lastError := none })
    ("complete_runtime_job lease mismatch or job not found: " ++ req.jobId)
  pure (upsertRuntimeJobOutboxEvent store req.jobId)

inductive RuntimeJobFailureDisposition where
  | retryScheduled
  | failed
  | deadLettered
deriving DecidableEq

structure FailRuntimeJobRequest where
  jobId : String
  leaseOwner : String
  failedAtMs : Int
  lastError : String
  nextRunAtMs : Option Int
  disposition : RuntimeJobFailureDisposition

/-- The status and the time that a failure leaves. -/
def failureTarget (req : FailRuntimeJobRequest) : Outcome (RuntimeJobStatus × Int) :=
  match req.disposition with
  | .retryScheduled => do
    let next ← orFail req.nextRunAtMs
      ("fail_runtime_job retry_scheduled requires next_run_at_ms job_id=" ++ req.jobId)
    pure (.queued, next)
  | .failed => pure (.failed, req.failedAtMs)
  | .deadLettered => pure (.deadLettered, req.failedAtMs)

def failRuntimeJob (store : JobStore) (req : FailRuntimeJobRequest) : Outcome JobStore := do
  let (nextStatus, nextRunAtMs) ← failureTarget req
  let store ← updateJob store req.jobId (holdsLease req.leaseOwner req.failedAtMs)
    (fun job => { job with
      status := nextStatus
      runAtMs := nextRunAtMs
      retryCount := job.retryCount + 1
      leaseOwner := none
      leaseExpiresAtMs := none
      lastError := some req.lastError
      updatedAtMs := req.failedAtMs })
    ("fail_runtime_job lease mismatch or job not found: " ++ req.jobId)
  pure (if req.disposition = .retryScheduled then store
    else upsertRuntimeJobOutboxEvent store req.jobId)

structure CancelRuntimeJobRequest where
  jobId : String
  reason : String
  cancelledAtMs : Int
  expectedStatus : Option RuntimeJobStatus
  expectedLeaseOwner : Option String

def cancelRuntimeJob (store : JobStore) (req : CancelRuntimeJobRequest) : Outcome JobStore := do
  let store ← updateJob store req.jobId
    (fun job => !job.status.isTerminal &&
      req.expectedStatus.all (fun expected => job.status == expected) &&
      req.expectedLeaseOwner.all fun token => holdsLease token req.cancelledAtMs job)
    (fun job => { job with
      status := .cancelled
      updatedAtMs := req.cancelledAtMs
      leaseOwner := none
      leaseExpiresAtMs := none
      lastError := if job.lastError.getD "" = "" then some req.reason else job.lastError })
    ("cancel_runtime_job not found or already terminal: " ++ req.jobId)
  pure (upsertRuntimeJobOutboxEvent store req.jobId)

/-! ### Giving a job back, and waking it -/

structure YieldRuntimeJobRequest where
  jobId : String
  leaseOwner : String
  yieldedAtMs : Int
  runAtMs : Int
  transitionReason : String

def yieldEventId (req : YieldRuntimeJobRequest) : String :=
  "runtime_job_yield:" ++ (req.jobId ++ ":" ++ req.leaseOwner ++ ":" ++ toString req.yieldedAtMs)

def yieldPayload (req : YieldRuntimeJobRequest) : String :=
  (Json.object [("jobId", .string req.jobId), ("leaseOwner", .string req.leaseOwner),
    ("runAtMs", intJson req.runAtMs), ("schema", .string "runtime.job.yielded.v1"),
    ("transitionReason", .string req.transitionReason),
    ("yieldedAtMs", intJson req.yieldedAtMs)]).render

def wakeLeading : String := "runtime_job_wake:"
def consumedLeading : String := "runtime_job_wake_consumed:"

/-- The marker of a wake event, as the query for pending wakes computes it. -/
def consumedEventId (wakeEventId : String) : String :=
  consumedLeading ++ String.ofList (wakeEventId.toList.drop wakeLeading.length)

/-- The first place where a text stands is replaced. -/
def replaceFirst (old new : List Char) : List Char → List Char
  | [] => if old = [] then new else []
  | c :: rest =>
    if old.isPrefixOf (c :: rest) then new ++ (c :: rest).drop old.length
    else c :: replaceFirst old new rest

/-- The marker of a wake event, as a yield writes it. -/
def writtenEventId (wakeEventId : String) : String :=
  String.ofList (replaceFirst wakeLeading.toList consumedLeading.toList wakeEventId.toList)

/-- The order in which wakes are listed: by time, then by id. -/
def wakeBefore (a b : String × JobEvent) : Prop :=
  a.2.atMs < b.2.atMs ∨ (a.2.atMs = b.2.atMs ∧ a.1 ≤ b.1)

instance : DecidableRel wakeBefore := fun a b => by unfold wakeBefore; infer_instance

/-- The wakes of a job that no yield has seen. -/
def pendingWakeIds (store : JobStore) (jobId : String) : List String :=
  ((store.events.toList.filter fun entry =>
    entry.2.taskId == jobId && entry.2.eventType == .wakeRequested &&
      store.events[consumedEventId entry.1]?.isNone).insertionSort wakeBefore).map (·.1)

def consumedPayload (req : YieldRuntimeJobRequest) (wakeEventId : String) : String :=
  (Json.object [("consumedAtMs", intJson req.yieldedAtMs), ("jobId", .string req.jobId),
    ("schema", .string "runtime.job.wake_consumed.v1"),
    ("transitionReason", .string "yield_observed_pending_wake"),
    ("wakeEventId", .string wakeEventId)]).render

def consumeWake (req : YieldRuntimeJobRequest) (sessionId : String) (store : JobStore)
    (wakeEventId : String) : Outcome JobStore :=
  insertEvent store (writtenEventId wakeEventId)
    ⟨sessionId, req.jobId, .wakeConsumed, req.yieldedAtMs, consumedPayload req wakeEventId⟩
    "consume pending runtime job wake failed"

/-- A yield of a job that is queued already: the same yield again, or an error. -/
def repeatedYield (store : JobStore) (req : YieldRuntimeJobRequest) : Outcome JobStore :=
  let existing := store.events.toList.find? fun entry =>
    entry.2.taskId == req.jobId && entry.2.eventType == .yielded &&
      entry.2.atMs == req.yieldedAtMs
  match existing with
  | some (eventId, event) => do
    ensure (eventId == yieldEventId req && event.payloadJson == yieldPayload req)
      ("yield_runtime_job idempotency conflict: " ++ req.jobId)
    pure store
  | none => fail ("yield_runtime_job lease mismatch or expired: " ++ req.jobId)

def yieldRuntimeJob (store : JobStore) (req : YieldRuntimeJobRequest) : Outcome JobStore := do
  ensure (decide (req.yieldedAtMs ≤ req.runAtMs) && trim req.transitionReason != "")
    "invalid runtime job yield"
  let job ← orFail store.jobs[req.jobId]? ("yield_runtime_job not found: " ++ req.jobId)
  if job.status = .queued ∧ job.leaseOwner = none then repeatedYield store req
  else do
    let pending := pendingWakeIds store req.jobId
    let store ← updateJob store req.jobId (holdsLease req.leaseOwner req.yieldedAtMs)
      (fun job => { job with
        status := .queued
        runAtMs := if pending.isEmpty then req.runAtMs else req.yieldedAtMs
        updatedAtMs := req.yieldedAtMs
        leaseOwner := none
        leaseExpiresAtMs := none
        heartbeatAtMs := none })
      ("yield_runtime_job lease mismatch or expired: " ++ req.jobId)
    let sessionId := eventSession req.jobId job.sessionId
    let store ← insertEvent store (yieldEventId req)
      ⟨sessionId, req.jobId, .yielded, req.yieldedAtMs, yieldPayload req⟩
      "append runtime job yield event failed"
    pending.foldlM (consumeWake req sessionId) store

structure WakeRuntimeJobRequest where
  jobId : String
  sourceJobId : String
  wokenAtMs : Int
  transitionReason : String

inductive WakeRuntimeJobDisposition where
  | woken
  | alreadyRunnable
  | active
  | terminal
deriving DecidableEq

def wakeEventId (req : WakeRuntimeJobRequest) : String :=
  wakeLeading ++ (req.jobId ++ ":" ++ req.sourceJobId)

def wakePayload (req : WakeRuntimeJobRequest) : String :=
  (Json.object [("jobId", .string req.jobId), ("schema", .string "runtime.job.wake.v1"),
    ("sourceJobId", .string req.sourceJobId),
    ("transitionReason", .string req.transitionReason),
    ("wokenAtMs", intJson req.wokenAtMs)]).render

/-- Records a wake, unless the same one is recorded already. -/
def recordWake (store : JobStore) (req : WakeRuntimeJobRequest) (sessionId : Option String) :
    Outcome JobStore :=
  match store.events[wakeEventId req]? with
  | some existing => do
    ensure (existing.payloadJson == wakePayload req)
      ("wake_runtime_job idempotency conflict: " ++ req.jobId)
    pure store
  | none =>
    insertEvent store (wakeEventId req)
      ⟨eventSession req.jobId sessionId, req.jobId, .wakeRequested, req.wokenAtMs, wakePayload req⟩
      "append runtime job wake event failed"

/-- When a wake of a queued job makes it due. -/
def wakeAtMs (req : WakeRuntimeJobRequest) (job : RuntimeJob) : Int :=
  max req.wokenAtMs (job.leaseReclaimNotBeforeMs.getD req.wokenAtMs)

def wakeRuntimeJob (store : JobStore) (req : WakeRuntimeJobRequest) :
    Outcome (JobStore × WakeRuntimeJobDisposition) := do
  ensure (trim req.jobId != "" && trim req.sourceJobId != "" && trim req.transitionReason != "")
    "invalid runtime job wake"
  let job ← orFail store.jobs[req.jobId]? ("wake_runtime_job not found: " ++ req.jobId)
  let store ← recordWake store req job.sessionId
  match job.status with
  | .queued =>
    if wakeAtMs req job < job.runAtMs then
      pure ({ store with
        jobs := store.jobs.insert req.jobId
          { job with runAtMs := wakeAtMs req job, updatedAtMs := req.wokenAtMs } }, .woken)
    else pure (store, .alreadyRunnable)
  | .leased | .running => pure (store, .active)
  | .succeeded | .failed | .deadLettered | .cancelled => pure (store, .terminal)

/-! ### Leases that expired -/

/-- How long to wait before a job that failed is tried again. -/
structure RuntimeBackoffPolicy where
  /-- The base delay times a power of the multiplier, as the doubles of the program give it, without
      its fraction; where it is not finite or negative, the largest delay. -/
  backoffMs : Nat → Nat
  maxDelayMs : Nat
  jitterMs : Nat

/-- A policy with a whole multiplier, where the doubles are exact up to the largest delay. -/
def RuntimeBackoffPolicy.whole (baseDelayMs maxDelayMs multiplier jitterMs : Nat) :
    RuntimeBackoffPolicy :=
  ⟨fun exponent => baseDelayMs * multiplier ^ exponent, maxDelayMs, jitterMs⟩

structure RuntimeJobLeaseReclaimPolicy where
  maxReclaims : Nat
  backoff : RuntimeBackoffPolicy

def RuntimeJobLeaseReclaimPolicy.default : RuntimeJobLeaseReclaimPolicy :=
  ⟨3, .whole 2000 60000 2 250⟩

def runtimeJobLeaseReclaimBatchLimit : Nat := 100

/-- A part of the delay that differs between jobs and times. -/
def retryJitter (policy : RuntimeBackoffPolicy) (attempt : Nat) (jobId : String) (nowMs : Int) :
    Nat :=
  if policy.jitterMs = 0 then 0
  else
    let hash := (utf8Bytes jobId).foldl
      (fun (hash : UInt64) byte => (hash ^^^ byte.toUInt64) * 1099511628211) 1469598103934665603
    ((hash ^^^ UInt64.ofNat attempt) ^^^ UInt64.ofInt nowMs).toNat % (policy.jitterMs + 1)

/-- The delay of an attempt. -/
def runtimeJobRetryDelayMs (policy : RuntimeBackoffPolicy) (attempt : Nat) (jobId : String)
    (nowMs : Int) : Nat :=
  let safeAttempt := max attempt 1
  min (policy.backoffMs (safeAttempt - 1)) policy.maxDelayMs +
    retryJitter policy safeAttempt jobId nowMs

structure RuntimeJobLeaseReclaimDecision where
  reclaimCount : Nat
  status : RuntimeJobStatus
  notBeforeMs : Int
  reason : String

def RuntimeJobLeaseReclaimPolicy.decide (policy : RuntimeJobLeaseReclaimPolicy) (jobId : String)
    (previousReclaimCount : Nat) (priorStatus : RuntimeJobStatus) (nowMs : Int) :
    Outcome RuntimeJobLeaseReclaimDecision := do
  ensure priorStatus.isActive
    "only leased or running jobs can consume the lease reclaim budget"
  ensure (previousReclaimCount < u32Limit) "lease reclaim count overflow"
  let reclaimCount := previousReclaimCount + 1
  let exhausted := policy.maxReclaims < reclaimCount
  let delayMs := if exhausted then 0
    else runtimeJobRetryDelayMs policy.backoff reclaimCount jobId nowMs
  ensure (nowMs + delayMs ≤ i64Max) "lease reclaim deadline overflow"
  pure ⟨reclaimCount, if exhausted then .deadLettered else .queued, nowMs + delayMs,
    if exhausted then "lease_reclaim_budget_exhausted"
    else if priorStatus = .running then "worker_crashed_reclaimed"
    else "lease_expired_reclaimed"⟩

def reclaimEventId (jobId : String) (reclaimCount : Nat) : String :=
  "runtime_job_lease_reclaimed:" ++ (jobId ++ ":" ++ toString reclaimCount)

def reclaimPayload (policy : RuntimeJobLeaseReclaimPolicy) (jobId : String) (job : RuntimeJob)
    (decision : RuntimeJobLeaseReclaimDecision) : String :=
  (Json.object [("jobId", .string jobId),
    ("leaseOwner", (job.leaseOwner.map Json.string).getD .null),
    ("maxReclaims", .number (.posInt policy.maxReclaims)),
    ("notBeforeMs", intJson decision.notBeforeMs),
    ("previousError", (job.lastError.map Json.string).getD .null),
    ("reclaimCount", .number (.posInt decision.reclaimCount)),
    ("schema", .string "runtime.job.lease_reclaimed.v1"),
    ("transitionReason", .string decision.reason)]).render

/-- The order in which expired leases are listed: by expiry, then by id. -/
def expiresBefore (a b : String × RuntimeJob) : Prop :=
  a.2.leaseExpiresAtMs.getD 0 < b.2.leaseExpiresAtMs.getD 0 ∨
    (a.2.leaseExpiresAtMs.getD 0 = b.2.leaseExpiresAtMs.getD 0 ∧ a.1 ≤ b.1)

instance : DecidableRel expiresBefore := fun a b => by unfold expiresBefore; infer_instance

/-- Whether a worker holds the job under a lease that has expired. -/
def isExpired (nowMs : Int) (job : RuntimeJob) : Bool :=
  job.status.isActive && job.leaseExpiresAtMs.any fun expires => decide (expires ≤ nowMs)

def expiredJobs (nowMs : Int) (store : JobStore) : List (String × RuntimeJob) :=
  ((store.jobs.toList.filter fun entry => isExpired nowMs entry.2).insertionSort
    expiresBefore).take runtimeJobLeaseReclaimBatchLimit

/-- Takes one job back; the row is the one that was listed, since every id is listed once. -/
def reclaimJob (nowMs : Int) (store : JobStore) (entry : String × RuntimeJob) :
    Outcome JobStore := do
  let decision ← RuntimeJobLeaseReclaimPolicy.default.decide entry.1 entry.2.leaseReclaimCount
    entry.2.status nowMs
  let store := { store with
    jobs := store.jobs.insert entry.1
      { entry.2 with
        status := decision.status
        runAtMs := decision.notBeforeMs
        updatedAtMs := nowMs
        leaseOwner := none
        leaseExpiresAtMs := none
        leaseReclaimCount := decision.reclaimCount
        leaseReclaimNotBeforeMs := some decision.notBeforeMs
        lastError := some decision.reason } }
  let store ← insertEvent store (reclaimEventId entry.1 decision.reclaimCount)
    ⟨eventSession entry.1 entry.2.sessionId, entry.1, .leaseReclaimed, nowMs,
      reclaimPayload .default entry.1 entry.2 decision⟩
    "append expired lease diagnostic failed"
  pure (if decision.status.isTerminal then upsertRuntimeJobOutboxEvent store entry.1 else store)

def reclaimExpiredRuntimeJobLeases (store : JobStore) (nowMs : Int) :
    Outcome (JobStore × Nat) := do
  let expired := expiredJobs nowMs store
  let store ← expired.foldlM (reclaimJob nowMs) store
  pure (store, expired.length)

/-! ### Runs -/

/-- A call to the store. -/
inductive JobCall where
  | schedule (job : QueuedJob)
  | claim (req : ClaimDueRuntimeJobsRequest)
  | start (req : StartRuntimeJobRequest)
  | renew (req : RenewRuntimeJobLeaseRequest)
  | yield (req : YieldRuntimeJobRequest)
  | wake (req : WakeRuntimeJobRequest)
  | complete (req : CompleteRuntimeJobRequest)
  | fail (req : FailRuntimeJobRequest)
  | cancel (req : CancelRuntimeJobRequest)
  | reclaim (nowMs : Int)

def JobStore.perform (tokens : LeaseTokens) (store : JobStore) : JobCall → Outcome JobStore
  | .schedule job => (·.1) <$> scheduleRuntimeJob store job
  | .claim req => (·.1) <$> claimDueRuntimeJobs tokens store req
  | .start req => startRuntimeJob store req
  | .renew req => renewRuntimeJobLease store req
  | .yield req => yieldRuntimeJob store req
  | .wake req => (·.1) <$> wakeRuntimeJob store req
  | .complete req => completeRuntimeJob store req
  | .fail req => failRuntimeJob store req
  | .cancel req => cancelRuntimeJob store req
  | .reclaim nowMs => (·.1) <$> reclaimExpiredRuntimeJobLeases store nowMs

/-- The store after a call; a call that fails is rolled back. -/
def JobStore.step (tokens : LeaseTokens) (store : JobStore) (call : JobCall) : JobStore :=
  match store.perform tokens call with
  | .ok store' => store'
  | .error _ => store

/-- The store after a list of calls. -/
def JobStore.run (tokens : LeaseTokens) (store : JobStore) (calls : List JobCall) : JobStore :=
  calls.foldl (JobStore.step tokens) store

abbrev JobStore.after (tokens : LeaseTokens) (calls : List JobCall) : JobStore :=
  JobStore.empty.run tokens calls

end Centaeris
