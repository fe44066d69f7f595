import Centaeris.Jobs.Fencing

namespace Centaeris

open Foundation

/-!
# The worker pool of subagents

A call of the pool claims the jobs that are due and runs them in batches: jobs that exclude
each other wait for a later batch.  All times that are sent to the store are derived from the
time of the call.

Calls of the store take no time and heartbeats come on time.  Durations are whole
milliseconds.
-/

/-! ### Batches -/

inductive SubagentResourceAccessMode where
  | shared
  | exclusive
deriving DecidableEq

structure SubagentResourceClaim where
  resourceKey : String
  accessMode : SubagentResourceAccessMode
deriving DecidableEq

def subagentResourceClaimCanJoin (activeClaims : List SubagentResourceClaim)
    (candidate : SubagentResourceClaim) : Bool :=
  activeClaims.all fun active => active.resourceKey != candidate.resourceKey ||
    (active.accessMode == .shared && candidate.accessMode == .shared)

/-- How a runner ends. -/
inductive SubagentWorkerRunOutcome where
  | succeeded (outputRefs : List String)
  | failed (error : String) (nextRunAtMs : Option Int)
  | cancelled (reason : String)

/-- A claimed job with the token that the worker sends and the durations of its hooks and of
    its runner. -/
structure PoolJob where
  jobId : String
  leaseOwner : String
  resourceClaim : SubagentResourceClaim
  startHookMs : Nat
  runMs : Nat
  stopHookMs : Nat
  outcome : SubagentWorkerRunOutcome

/-- The next pending job joins the batch, or stays. -/
def scanPending (maxParallelism : Nat) (state : List PoolJob × List PoolJob) (item : PoolJob) :
    List PoolJob × List PoolJob :=
  let (batch, kept) := state
  if max maxParallelism 1 ≤ batch.length then (batch, kept ++ [item])
  else if subagentResourceClaimCanJoin (batch.map (·.resourceClaim)) item.resourceClaim then
    (batch ++ [item], kept)
  else (batch, kept ++ [item])

/-- The next batch. -/
def nextSubagentWorkerBatch (maxParallelism : Nat) (pending : List PoolJob) :
    List PoolJob × List PoolJob :=
  match pending.foldl (scanPending maxParallelism) ([], []) with
  | ([], item :: kept) => ([item], kept)
  | result => result

def subagentWorkerBatches (maxParallelism : Nat) : Nat → List PoolJob → List (List PoolJob)
  | 0, _ => []
  | fuel + 1, pending =>
    if pending.isEmpty then []
    else
      let (batch, kept) := nextSubagentWorkerBatch maxParallelism pending
      batch :: subagentWorkerBatches maxParallelism fuel kept

/-- A pool for one job at a time runs the jobs one by one. -/
def poolBatches (maxParallelism : Nat) (jobs : List PoolJob) : List (List PoolJob) :=
  if maxParallelism = 1 then jobs.map ([·])
  else subagentWorkerBatches maxParallelism jobs.length jobs

/-! ### Runs -/

/-- A job and how long after the call its batch begins. -/
structure JobRun where
  job : PoolJob
  delayMs : Nat

def PoolJob.durationMs (job : PoolJob) : Nat := job.startHookMs + job.runMs + job.stopHookMs

/-- A batch lasts as long as its longest job. -/
def batchDurationMs (batch : List PoolJob) : Nat :=
  (batch.map (·.durationMs)).foldr max 0

def batchRuns (delayMs : Nat) : List (List PoolJob) → List JobRun
  | [] => []
  | batch :: rest =>
    batch.map (⟨·, delayMs⟩) ++ batchRuns (delayMs + batchDurationMs batch) rest

structure RunDueSubagentJobsRequest where
  nowMs : Int
  workerId : String
  sessionId : Option String
  limit : Nat
  leaseMs : Nat
  finishedAtMs : Int

structure SubagentWorkerPoolPolicy where
  maxParallelism : Nat

def poolRuns (req : RunDueSubagentJobsRequest) (policy : SubagentWorkerPoolPolicy)
    (jobs : List PoolJob) : List JobRun :=
  batchRuns 0 (poolBatches (min (max policy.maxParallelism 1) (max req.limit 1)) jobs)

/-- The time between two heartbeats. -/
def heartbeatMs (leaseMs : Nat) : Nat := max (leaseMs / 3) 1

namespace JobRun

variable (req : RunDueSubagentJobsRequest) (run : JobRun)

/-- How long after the call of the pool the runner begins. -/
def runnerDelayMs : Nat := run.delayMs + run.job.startHookMs

/-- When the runner begins and ends. -/
def runnerStartMs : Int := req.nowMs + run.runnerDelayMs
def runnerEndMs : Int := run.runnerStartMs req + run.job.runMs

/-- The job is started with the time of the call of the pool. -/
def startCall : Int × JobCall :=
  (req.nowMs + run.delayMs, .start ⟨run.job.jobId, run.job.leaseOwner, req.nowMs⟩)

/-- The heartbeat of number `k` while the runner runs, with the time since its begin. -/
def renewCall (k : Nat) : Int × JobCall :=
  (run.runnerStartMs req + (k * heartbeatMs req.leaseMs : Nat),
    .renew ⟨run.job.jobId, run.job.leaseOwner,
      req.nowMs + (k * heartbeatMs req.leaseMs : Nat), req.leaseMs⟩)

/-- The number of heartbeats before the runner ends. -/
def renewals : Nat := (run.job.runMs - 1) / heartbeatMs req.leaseMs

def finishCall : Int × JobCall :=
  let finishedAtMs := max req.finishedAtMs (req.nowMs + run.job.runMs)
  (run.runnerEndMs req, match run.job.outcome with
    | .succeeded outputRefs =>
      .complete ⟨run.job.jobId, run.job.leaseOwner, outputRefs, finishedAtMs⟩
    | .failed error nextRunAtMs =>
      .fail ⟨run.job.jobId, run.job.leaseOwner, finishedAtMs, error, nextRunAtMs,
        if nextRunAtMs.isSome then .retryScheduled else .failed⟩
    | .cancelled reason =>
      .cancel ⟨run.job.jobId, reason, finishedAtMs, none, some run.job.leaseOwner⟩)

/-- The calls of one run with the times at which they are made: the start, a renewal for every
    heartbeat, and the end. -/
def calls : List (Int × JobCall) :=
  run.startCall req ::
    ((List.range (run.renewals req)).map fun i => run.renewCall req (i + 1)) ++
    [run.finishCall req]

end JobRun

/-! ### Calls of the pool -/

/-- The job of which a call changes the row in a way of its own; claims, wakes and reclaims
    look for rows themselves. -/
def JobCall.target : JobCall → Option String
  | .start req => some req.jobId
  | .renew req => some req.jobId
  | .yield req => some req.jobId
  | .complete req => some req.jobId
  | .fail req => some req.jobId
  | .cancel req => some req.jobId
  | .schedule _ | .claim _ | .wake _ | .reclaim _ => none

def subagentRunJobKind : String := "subagent.run"

def RunDueSubagentJobsRequest.claimRequest (req : RunDueSubagentJobsRequest) :
    ClaimDueRuntimeJobsRequest :=
  ⟨req.nowMs, req.workerId, none, some subagentRunJobKind, req.sessionId, req.limit, req.leaseMs⟩

/-- A call of the pool: what it claimed, and the jobs that it runs. -/
structure PoolCall (tokens : LeaseTokens) where
  store : JobStore
  req : RunDueSubagentJobsRequest
  policy : SubagentWorkerPoolPolicy
  claimedStore : JobStore
  claimed : List (String × RuntimeJob)
  claim_eq : claimDueRuntimeJobs tokens store req.claimRequest = .ok (claimedStore, claimed)
  jobs : List PoolJob
  /-- The jobs are those that were claimed, under their tokens. -/
  jobs_eq : jobs.map (fun job => (job.jobId, some job.leaseOwner)) =
    claimed.map fun entry => (entry.1, entry.2.leaseOwner)
  /-- The lease is not empty, and the times are in the range of the clock. -/
  lease_pos : 0 < req.leaseMs
  fits : ∀ job ∈ jobs, req.nowMs + req.leaseMs + job.runMs ≤ i64Max

namespace PoolCall

variable {tokens : LeaseTokens} (pool : PoolCall tokens)

def runs : List JobRun := poolRuns pool.req pool.policy pool.jobs

end PoolCall

/-- The calls of all workers after the claim, in the order of their times: the pool makes the
    calls of its runs, other workers make any calls about other jobs, and reclaims are made
    with the current time. -/
structure Timeline {tokens : LeaseTokens} (pool : PoolCall tokens) where
  calls : List (Int × JobCall)
  ordered : calls.Pairwise fun a b => a.1 ≤ b.1
  own : ∀ run ∈ pool.runs,
    calls.filter (fun call => call.2.target == some run.job.jobId) = run.calls pool.req
  current : ∀ call ∈ calls, ∀ nowMs, call.2 = .reclaim nowMs → nowMs = call.1

def PoolCall.storeAfter {tokens : LeaseTokens} (pool : PoolCall tokens)
    (front : List (Int × JobCall)) : JobStore :=
  pool.claimedStore.run tokens (front.map (·.2))

/-- The job of a run is running under the token of its worker, with a lease that ends later. -/
def Leased (store : JobStore) (run : JobRun) (nowMs : Int) : Prop :=
  ∃ job expires, store.jobs[run.job.jobId]? = some job ∧ job.status = .running ∧
    job.leaseOwner = some run.job.leaseOwner ∧ job.leaseExpiresAtMs = some expires ∧
    nowMs < expires

/-- Whenever a runner runs, its job is leased: after any of the calls, until the next one. -/
def Timeline.AlwaysLeased {tokens : LeaseTokens} {pool : PoolCall tokens}
    (timeline : Timeline pool) : Prop :=
  ∀ run ∈ pool.runs, ∀ front back nowMs, timeline.calls = front ++ back →
    (∀ call ∈ front, call.1 ≤ nowMs) → (∀ call ∈ back, nowMs ≤ call.1) →
    run.startCall pool.req ∈ front →
    run.runnerStartMs pool.req ≤ nowMs → nowMs < run.runnerEndMs pool.req →
    Leased (pool.storeAfter front) run nowMs

end Centaeris
