import Centaeris.Jobs.Store

namespace Centaeris

open Foundation JobStore List Outcome

/-!
# What a call does to a job

Ten statements change the rows of jobs, each under a condition of its own.  This file says
once what a call can do to one job; everything else about runs is derived from that.
-/

variable {toks : LeaseTokens} {store store' : JobStore} {call : JobCall}

theorem step_of_perform (h : store.perform toks call = .ok store') :
    store.step toks call = store' := by
  rw [step, h]

theorem step_of_failure {failure : Failure} (h : store.perform toks call = .error failure) :
    store.step toks call = store := by
  rw [step, h]

/-- The changes of a row, one constructor for each statement, with its condition. -/
inductive RowChange (toks : LeaseTokens) (store : JobStore) (jobId : String) :
    JobCall → RuntimeJob → RuntimeJob → Prop
  | claimed {req : ClaimDueRuntimeJobsRequest} {job : RuntimeJob} {k : Nat} {expires : Int}
      (hlist : jobId ∈ dueJobIds req store) (hdue : isDue req jobId job = true)
      (hk : store.issued ≤ k)
      (hk' : k < (store.step toks (.claim req)).issued) :
      RowChange toks store jobId (.claim req) job
        { job with
          status := .leased
          leaseOwner := some (leaseToken req.workerId (toks.nonce k))
          leaseExpiresAtMs := some expires
          updatedAtMs := req.nowMs
          heartbeatAtMs := some req.nowMs }
  | started {req : StartRuntimeJobRequest} {job : RuntimeJob} (hid : req.jobId = jobId)
      (hstat : job.status = .leased)
      (hls : holdsLease req.leaseOwner req.startedAtMs job = true) :
      RowChange toks store jobId (.start req) job
        { job with
          status := .running
          updatedAtMs := req.startedAtMs
          heartbeatAtMs := some req.startedAtMs }
  | renewed {req : RenewRuntimeJobLeaseRequest} {job : RuntimeJob} (hid : req.jobId = jobId)
      (hls : holdsLease req.leaseOwner req.heartbeatAtMs job = true) :
      RowChange toks store jobId (.renew req) job
        { job with
          heartbeatAtMs := some req.heartbeatAtMs
          leaseExpiresAtMs := some (min (req.heartbeatAtMs + req.leaseMs) i64Max)
          updatedAtMs := req.heartbeatAtMs }
  | yielded {req : YieldRuntimeJobRequest} {job : RuntimeJob} (hid : req.jobId = jobId)
      (hls : holdsLease req.leaseOwner req.yieldedAtMs job = true) :
      RowChange toks store jobId (.yield req) job
        { job with
          status := .queued
          runAtMs := if (pendingWakeIds store jobId).isEmpty then req.runAtMs else req.yieldedAtMs
          updatedAtMs := req.yieldedAtMs
          leaseOwner := none
          leaseExpiresAtMs := none
          heartbeatAtMs := none }
  | woken {req : WakeRuntimeJobRequest} {job : RuntimeJob} (hid : req.jobId = jobId)
      (hstat : job.status = .queued) (hlat : wakeAtMs req job < job.runAtMs) :
      RowChange toks store jobId (.wake req) job
        { job with runAtMs := wakeAtMs req job, updatedAtMs := req.wokenAtMs }
  | completed {req : CompleteRuntimeJobRequest} {job : RuntimeJob} (hid : req.jobId = jobId)
      (hls : holdsLease req.leaseOwner req.completedAtMs job = true) :
      RowChange toks store jobId (.complete req) job
        { job with
          status := .succeeded
          outputRefs := req.outputRefs
          updatedAtMs := req.completedAtMs
          leaseOwner := none
          leaseExpiresAtMs := none
          lastError := none }
  | failed {req : FailRuntimeJobRequest} {job : RuntimeJob} {status : RuntimeJobStatus}
      {runAtMs : Int} (hid : req.jobId = jobId) (htgt : failureTarget req = .ok (status, runAtMs))
      (hls : holdsLease req.leaseOwner req.failedAtMs job = true) :
      RowChange toks store jobId (.fail req) job
        { job with
          status := status
          runAtMs := runAtMs
          retryCount := job.retryCount + 1
          leaseOwner := none
          leaseExpiresAtMs := none
          lastError := some req.lastError
          updatedAtMs := req.failedAtMs }
  | cancelled {req : CancelRuntimeJobRequest} {job : RuntimeJob} (hid : req.jobId = jobId)
      (hopen : job.status.isTerminal = false) :
      RowChange toks store jobId (.cancel req) job
        { job with
          status := .cancelled
          updatedAtMs := req.cancelledAtMs
          leaseOwner := none
          leaseExpiresAtMs := none
          lastError := if job.lastError.getD "" = "" then some req.reason else job.lastError }
  | reclaimed {nowMs : Int} {job : RuntimeJob} {decision : RuntimeJobLeaseReclaimDecision}
      (hexpired : isExpired nowMs job = true)
      (hdecide : RuntimeJobLeaseReclaimPolicy.default.decide jobId job.leaseReclaimCount job.status
        nowMs = .ok decision) :
      RowChange toks store jobId (.reclaim nowMs) job
        { job with
          status := decision.status
          runAtMs := decision.notBeforeMs
          updatedAtMs := nowMs
          leaseOwner := none
          leaseExpiresAtMs := none
          leaseReclaimCount := decision.reclaimCount
          leaseReclaimNotBeforeMs := some decision.notBeforeMs
          lastError := some decision.reason }

/-- What a call does to one job and to its place in the outbox. -/
inductive RowStep (toks : LeaseTokens) (store store' : JobStore) (jobId : String)
    (call : JobCall) : Prop
  | same (hjob : store'.jobs[jobId]? = store.jobs[jobId]?)
      (hout : store'.outbox[jobId]? = store.outbox[jobId]?)
  | scheduled {job : QueuedJob} (hcall : call = .schedule job) (hid : job.jobId = jobId)
      (hnone : store.jobs[jobId]? = none) (hjob : store'.jobs[jobId]? = some job.row)
      (hout : store'.outbox[jobId]? = store.outbox[jobId]?)
  | changed {job job' : RuntimeJob} (hjob : store.jobs[jobId]? = some job)
      (hjob' : store'.jobs[jobId]? = some job')
      (hchg : RowChange toks store jobId call job job')
      (hout : store'.outbox[jobId]?.isSome =
        (job'.status.isTerminal || store.outbox[jobId]?.isSome))

section Pieces

variable {toks : LeaseTokens} {store store' : JobStore} {jobId id : String}

/-- The rows that an update leaves. -/
theorem updateJob_eq_ok {condition : RuntimeJob → Bool} {change : RuntimeJob → RuntimeJob}
    {message : String} (h : updateJob store jobId condition change message = .ok store') :
    ∃ job, store.jobs[jobId]? = some job ∧ condition job = true ∧
      store' = { store with jobs := store.jobs.insert jobId (change job) } := by
  simp only [updateJob, ok_rules] at h
  obtain ⟨job, hjob, hcond, rfl⟩ := h
  exact ⟨job, hjob, hcond, rfl⟩

theorem insertEvent_eq_ok {eventId failed : String} {event : JobEvent}
    (h : insertEvent store eventId event failed = .ok store') :
    store.events[eventId]? = none ∧
      store' = { store with events := store.events.insert eventId event } := by
  simp only [insertEvent, ok_rules, Option.isNone_iff_eq_none] at h
  exact ⟨h.1, h.2.symm⟩

theorem getElem?_outbox_upsert :
    (upsertRuntimeJobOutboxEvent store jobId).outbox[id]?.isSome =
      (decide (jobId = id) || store.outbox[id]?.isSome) := by
  rw [upsertRuntimeJobOutboxEvent, Table.getElem?_insert]
  by_cases hid : jobId = id
  · simp [hid]
  · simp [hid]

variable {job : RuntimeJob}

theorem holdsLease_iff {token : String} {atMs : Int} :
    holdsLease token atMs job = true ↔ job.status.isActive = true ∧
      job.leaseOwner = some token ∧ ∃ expires, job.leaseExpiresAtMs = some expires ∧ atMs < expires := by
  simp only [holdsLease, bool_rules, Option.any_eq_true, and_assoc]

theorem nodup_keys (store : JobStore) : (store.jobs.toList.map (·.1)).Nodup := by
  rw [List.Nodup, pairwise_map]
  refine (Table.sorted_toList store.jobs).imp ?_
  intro a b hlt
  exact ne_of_lt hlt

theorem rowStep_of_change {job' : RuntimeJob} (hjob : store.jobs[jobId]? = some job)
    (hjobs : store'.jobs = store.jobs.insert jobId job')
    (hchg : RowChange toks store jobId call job job')
    (hout : store'.outbox = if job'.status.isTerminal then
      (upsertRuntimeJobOutboxEvent store jobId).outbox else store.outbox) (id : String) :
    RowStep toks store store' id call := by
  by_cases hid : jobId = id
  · subst hid
    refine .changed hjob (by rw [hjobs, Table.getElem?_insert, if_pos rfl]) hchg ?_
    rw [hout]
    by_cases hterm : job'.status.isTerminal = true
    · rw [if_pos hterm, getElem?_outbox_upsert, hterm]
      simp
    · rw [if_neg hterm]
      simp [hterm]
  · refine .same (by rw [hjobs, Table.getElem?_insert, if_neg hid]) ?_
    rw [hout]
    split
    · rw [upsertRuntimeJobOutboxEvent, Table.getElem?_insert, if_neg hid]
    · rfl

end Pieces

/-! ### Claims -/

section Claims

variable {toks : LeaseTokens} {store : JobStore} {req : ClaimDueRuntimeJobsRequest}
  {expires : Int}

def claimedRow (toks : LeaseTokens) (req : ClaimDueRuntimeJobsRequest) (expires : Int) (k : Nat)
    (job : RuntimeJob) : RuntimeJob :=
  { job with
    status := .leased
    leaseOwner := some (leaseToken req.workerId (toks.nonce k))
    leaseExpiresAtMs := some expires
    updatedAtMs := req.nowMs
    heartbeatAtMs := some req.nowMs }

theorem claimJob_cases (toks : LeaseTokens) (req : ClaimDueRuntimeJobsRequest) (expires : Int)
    (store : JobStore) (jobId : String) :
    (claimJob toks req expires store jobId = store ∧
      ∀ job ∈ store.jobs[jobId]?, job.status ≠ .queued) ∨
      ∃ job, store.jobs[jobId]? = some job ∧ job.status = .queued ∧
        claimJob toks req expires store jobId =
          { store with
            jobs := store.jobs.insert jobId (claimedRow toks req expires store.issued job)
            issued := store.issued + 1 } := by
  unfold claimJob
  split
  · rename_i job hjob
    split
    · rename_i hstat
      exact .inr ⟨job, hjob, by simpa using hstat, rfl⟩
    · rename_i hstat
      exact .inl ⟨rfl, by simpa [hjob] using hstat⟩
  · rename_i hnone
    exact .inl ⟨rfl, by simp [hnone]⟩

theorem claimJobs_tables (toks : LeaseTokens) (req : ClaimDueRuntimeJobsRequest)
    (expires : Int) (ids : List String) (store : JobStore) :
    (ids.foldl (claimJob toks req expires) store).outbox = store.outbox ∧
      (ids.foldl (claimJob toks req expires) store).events = store.events ∧
      store.issued ≤ (ids.foldl (claimJob toks req expires) store).issued := by
  induction ids generalizing store with
  | nil => exact ⟨rfl, rfl, le_rfl⟩
  | cons jobId ids ih =>
    obtain ⟨hout, hevs, hissued⟩ := ih (claimJob toks req expires store jobId)
    rw [foldl_cons]
    rcases claimJob_cases toks req expires store jobId with ⟨hsame, -⟩ | ⟨job, -, -, hclaimed⟩
    · rw [hsame] at hout hevs hissued ⊢
      exact ⟨hout, hevs, hissued⟩
    · rw [hclaimed] at hout hevs hissued ⊢
      exact ⟨hout, hevs, Nat.le_of_succ_le hissued⟩

variable {ids : List String} {id : String}

theorem claimJobs_of_not_mem (h : id ∉ ids) (store : JobStore) :
    (ids.foldl (claimJob toks req expires) store).jobs[id]? = store.jobs[id]? := by
  induction ids generalizing store with
  | nil => rfl
  | cons jobId ids ih =>
    rw [mem_cons, not_or] at h
    rw [foldl_cons, ih h.2]
    rcases claimJob_cases toks req expires store jobId with ⟨hsame, -⟩ | ⟨job, -, -, hclaimed⟩
    · rw [hsame]
    · rw [hclaimed, Table.getElem?_insert, if_neg (Ne.symm h.1)]

/-- A loop over different ids claims each job at most once. -/
theorem claimJobs_row (hnodup : ids.Nodup) (id : String) (store : JobStore) :
    ((ids.foldl (claimJob toks req expires) store).jobs[id]? = store.jobs[id]? ∧
      (id ∈ ids → ∀ job ∈ store.jobs[id]?, job.status ≠ .queued)) ∨
      ∃ job k, id ∈ ids ∧ store.jobs[id]? = some job ∧
        store.issued ≤ k ∧ k < (ids.foldl (claimJob toks req expires) store).issued ∧
        (ids.foldl (claimJob toks req expires) store).jobs[id]? =
          some (claimedRow toks req expires k job) := by
  by_cases hm : id ∈ ids
  · -- neither the ids before this one nor those after it touch the job
    obtain ⟨front, back, rfl⟩ := append_of_mem hm
    rw [nodup_middle, nodup_cons, mem_append, not_or] at hnodup
    obtain ⟨⟨hfront, hback⟩, -⟩ := hnodup
    have hrow := @claimJobs_of_not_mem toks req expires _ _ hfront store
    have hissued := (claimJobs_tables toks req expires front store).2.2
    rw [foldl_append, foldl_cons, claimJobs_of_not_mem hback]
    generalize front.foldl (claimJob toks req expires) store = middle at hrow hissued ⊢
    have hlast := (claimJobs_tables toks req expires back
      (claimJob toks req expires middle id)).2.2
    rcases claimJob_cases toks req expires middle id with
      ⟨hsame, hoth⟩ | ⟨job, hjob, -, hclaimed⟩
    · rw [hrow] at hoth
      exact .inl ⟨by rw [hsame, hrow], fun _ => hoth⟩
    · rw [hclaimed] at hlast ⊢
      rw [Table.getElem?_insert, if_pos rfl]
      exact .inr ⟨job, middle.issued, hm, hrow ▸ hjob, hissued, hlast, rfl⟩
  · exact .inl ⟨claimJobs_of_not_mem hm store, fun h => absurd h hm⟩

theorem isDue_of_mem {job : RuntimeJob} (h : id ∈ dueJobIds req store)
    (hjob : store.jobs[id]? = some job) : isDue req id job = true := by
  obtain ⟨⟨id', job'⟩, hent, rfl⟩ := mem_map.mp h
  have hlist := (mem_insertionSort listedBefore).mp (mem_of_mem_take hent)
  rw [mem_filter] at hlist
  have hsame := Table.mem_toList.mp hlist.1
  rw [hjob] at hsame
  cases hsame
  exact hlist.2

/-- No job is listed twice. -/
theorem nodup_dueJobIds (req : ClaimDueRuntimeJobsRequest) (store : JobStore) :
    (dueJobIds req store).Nodup := by
  have hfilter : ((store.jobs.toList.filter fun entry => isDue req entry.1 entry.2).map
      (·.1)).Nodup := (nodup_keys store).sublist (filter_sublist.map _)
  have hsort : (((store.jobs.toList.filter fun entry =>
      isDue req entry.1 entry.2).insertionSort listedBefore).map (·.1)).Nodup :=
    ((perm_insertionSort listedBefore _).map _).nodup_iff.mpr hfilter
  exact hsort.sublist ((take_sublist _ _).map _)

theorem claim_row (hstep : store.step toks (.claim req) = store')
    (h : store' = (dueJobIds req store).foldl
      (claimJob toks req (min (req.nowMs + req.leaseMs) i64Max)) store) (id : String) :
    RowStep toks store store' id (.claim req) := by
  subst h
  obtain ⟨hout, -, -⟩ := claimJobs_tables toks req
    (min (req.nowMs + req.leaseMs) i64Max) (dueJobIds req store) store
  rcases claimJobs_row (nodup_dueJobIds req store) id store with
    ⟨hkept, -⟩ | ⟨job, k, hm, hjob, hk, hk', hfinal⟩
  · exact .same hkept (by rw [hout])
  · refine .changed hjob hfinal (.claimed hm (isDue_of_mem hm hjob) hk ?_) ?_
    · rw [hstep]
      exact hk'
    · rw [hout]
      rfl

end Claims

/-! ### Expired leases -/

section Reclaims

variable {toks : LeaseTokens} {store store' : JobStore} {nowMs : Int}

/-- The row of a job that was taken back. -/
def reclaimedRow (nowMs : Int) (decision : RuntimeJobLeaseReclaimDecision) (job : RuntimeJob) :
    RuntimeJob :=
  { job with
    status := decision.status
    runAtMs := decision.notBeforeMs
    updatedAtMs := nowMs
    leaseOwner := none
    leaseExpiresAtMs := none
    leaseReclaimCount := decision.reclaimCount
    leaseReclaimNotBeforeMs := some decision.notBeforeMs
    lastError := some decision.reason }

/-- One job is taken back. -/
theorem reclaimJob_eq_ok {entry : String × RuntimeJob}
    (h : reclaimJob nowMs store entry = .ok store') :
    ∃ decision, RuntimeJobLeaseReclaimPolicy.default.decide entry.1 entry.2.leaseReclaimCount
        entry.2.status nowMs = .ok decision ∧
      store'.jobs = store.jobs.insert entry.1 (reclaimedRow nowMs decision entry.2) ∧
      store'.outbox = (if decision.status.isTerminal then
        (upsertRuntimeJobOutboxEvent store entry.1).outbox else store.outbox) ∧
      store'.issued = store.issued := by
  simp only [reclaimJob, ok_rules] at h
  obtain ⟨decision, hdecide, mid, hev, rfl⟩ := h
  obtain ⟨-, rfl⟩ := insertEvent_eq_ok hev
  refine ⟨decision, hdecide, ?_, ?_, ?_⟩
  · split <;> rfl
  · split <;> rfl
  · split <;> rfl

variable {entries : List (String × RuntimeJob)}

theorem reclaimJobs_issued (h : entries.foldlM (reclaimJob nowMs) store = .ok store') :
    store'.issued = store.issued := by
  refine foldlM_invariant (fun state => state.issued = store.issued) ?_ rfl h
  intro state state' entry _ hissued hstep
  obtain ⟨_, -, -, -, hsame⟩ := reclaimJob_eq_ok hstep
  rw [hsame, hissued]

/-- The jobs that are not listed stay. -/
theorem reclaimJobs_of_not_mem {id : String} (hid : id ∉ entries.map (·.1))
    (h : entries.foldlM (reclaimJob nowMs) store = .ok store') :
    store'.jobs[id]? = store.jobs[id]? ∧ store'.outbox[id]? = store.outbox[id]? := by
  refine foldlM_invariant
    (fun state => state.jobs[id]? = store.jobs[id]? ∧ state.outbox[id]? = store.outbox[id]?)
    ?_ ⟨rfl, rfl⟩ h
  rintro state state' entry hent ⟨hjobs, hout⟩ hstep
  have hne : entry.1 ≠ id := by
    rintro rfl
    exact hid (mem_map_of_mem hent)
  obtain ⟨decision, -, hjobs', hout', -⟩ := reclaimJob_eq_ok hstep
  constructor
  · rw [hjobs', Table.getElem?_insert, if_neg hne, hjobs]
  · rw [hout']
    split
    · rw [upsertRuntimeJobOutboxEvent, Table.getElem?_insert, if_neg hne, hout]
    · exact hout

/-- A listed job is taken back once. -/
theorem reclaimJobs_of_mem {id : String} {job : RuntimeJob} (hnodup : (entries.map (·.1)).Nodup)
    (hm : (id, job) ∈ entries) (h : entries.foldlM (reclaimJob nowMs) store = .ok store') :
    ∃ decision, RuntimeJobLeaseReclaimPolicy.default.decide id job.leaseReclaimCount job.status
        nowMs = .ok decision ∧
      store'.jobs[id]? = some (reclaimedRow nowMs decision job) ∧
      store'.outbox[id]?.isSome = (decision.status.isTerminal || store.outbox[id]?.isSome) := by
  obtain ⟨front, back, rfl⟩ := append_of_mem hm
  rw [map_append, map_cons, nodup_append, nodup_cons] at hnodup
  obtain ⟨-, ⟨hback, -⟩, hdisjoint⟩ := hnodup
  have hfront : id ∉ front.map (·.1) :=
    fun hin => hdisjoint id hin id mem_cons_self rfl
  rw [foldlM_append_eq_ok_iff] at h
  obtain ⟨before, hpre, h⟩ := h
  rw [foldlM_cons, bind_eq_ok] at h
  obtain ⟨after, hself, haft⟩ := h
  obtain ⟨-, hout⟩ := reclaimJobs_of_not_mem hfront hpre
  obtain ⟨decision, hdecide, hjobs', hout', -⟩ := reclaimJob_eq_ok hself
  obtain ⟨hjobsEnd, houtboxEnd⟩ := reclaimJobs_of_not_mem hback haft
  refine ⟨decision, hdecide, ?_, ?_⟩
  · rw [hjobsEnd, hjobs', Table.getElem?_insert, if_pos rfl]
  · rw [houtboxEnd, hout']
    by_cases hterm : decision.status.isTerminal = true
    · rw [if_pos hterm, getElem?_outbox_upsert, hterm]
      simp
    · rw [if_neg hterm, hout]
      simp [hterm]

theorem nodup_expiredJobs (nowMs : Int) (store : JobStore) :
    ((expiredJobs nowMs store).map (·.1)).Nodup := by
  have hfilter : ((store.jobs.toList.filter fun entry => isExpired nowMs entry.2).map
      (·.1)).Nodup := (nodup_keys store).sublist (filter_sublist.map _)
  have hsort : (((store.jobs.toList.filter fun entry =>
      isExpired nowMs entry.2).insertionSort expiresBefore).map (·.1)).Nodup :=
    ((perm_insertionSort expiresBefore _).map _).nodup_iff.mpr hfilter
  exact hsort.sublist ((take_sublist _ _).map _)

theorem mem_expiredJobs {id : String} {job : RuntimeJob} (h : (id, job) ∈ expiredJobs nowMs store) :
    store.jobs[id]? = some job ∧ isExpired nowMs job = true := by
  have hlist := (mem_insertionSort expiresBefore).mp (mem_of_mem_take h)
  rw [mem_filter] at hlist
  exact ⟨Table.mem_toList.mp hlist.1, hlist.2⟩

theorem reclaim_row (hloop : (expiredJobs nowMs store).foldlM (reclaimJob nowMs) store = .ok store')
    (id : String) : RowStep toks store store' id (.reclaim nowMs) := by
  by_cases hlist : id ∈ (expiredJobs nowMs store).map (·.1)
  · obtain ⟨⟨_, job⟩, hm, rfl⟩ := mem_map.mp hlist
    obtain ⟨hjob, hexpired⟩ := mem_expiredJobs hm
    obtain ⟨decision, hdecide, hjob', hout⟩ :=
      reclaimJobs_of_mem (nodup_expiredJobs nowMs store) hm hloop
    exact .changed hjob hjob' (.reclaimed hexpired hdecide) hout
  · obtain ⟨hjob, hout⟩ := reclaimJobs_of_not_mem hlist hloop
    exact .same hjob hout

end Reclaims

/-! ### All calls -/

section Calls

variable {toks : LeaseTokens} {store store' : JobStore}

variable {req : YieldRuntimeJobRequest}

/-- Marking wakes changes events only. -/
theorem consumeWakes_tables {sessionId : String} {pending : List String}
    (h : pending.foldlM (consumeWake req sessionId) store = .ok store') :
    store'.jobs = store.jobs ∧ store'.outbox = store.outbox ∧ store'.issued = store.issued := by
  refine foldlM_invariant (fun state => state.jobs = store.jobs ∧ state.outbox = store.outbox ∧
    state.issued = store.issued) ?_ ⟨rfl, rfl, rfl⟩ h
  intro state state' wakeId _ hsame hstep
  obtain ⟨-, rfl⟩ := insertEvent_eq_ok hstep
  exact hsame

theorem repeatedYield_eq_ok (h : repeatedYield store req = .ok store') : store' = store := by
  simp only [repeatedYield] at h
  split at h
  · simp only [ok_rules] at h
    exact h.2.symm
  · cases h

/-- What a yield does: nothing, or it gives the job back and marks the pending wakes. -/
theorem yieldRuntimeJob_cases (h : yieldRuntimeJob store req = .ok store') :
    store' = store ∨ ∃ job, store.jobs[req.jobId]? = some job ∧
      holdsLease req.leaseOwner req.yieldedAtMs job = true ∧
      store'.jobs = store.jobs.insert req.jobId
        { job with
          status := .queued
          runAtMs := if (pendingWakeIds store req.jobId).isEmpty then req.runAtMs
            else req.yieldedAtMs
          updatedAtMs := req.yieldedAtMs
          leaseOwner := none
          leaseExpiresAtMs := none
          heartbeatAtMs := none } ∧
      store'.outbox = store.outbox ∧ store'.issued = store.issued ∧
      ∃ mid, mid.events = store.events.insert (yieldEventId req)
          ⟨eventSession req.jobId job.sessionId, req.jobId, .yielded, req.yieldedAtMs,
            yieldPayload req⟩ ∧
        store.events[yieldEventId req]? = none ∧
        (pendingWakeIds store req.jobId).foldlM
          (consumeWake req (eventSession req.jobId job.sessionId)) mid = .ok store' := by
  simp only [yieldRuntimeJob, ok_rules] at h
  obtain ⟨-, job, hjob, h⟩ := h
  split at h
  · exact .inl (repeatedYield_eq_ok h)
  · simp only [bind_eq_ok] at h
    obtain ⟨updated, hupdate, mid, hev, hconsume⟩ := h
    obtain ⟨job', hjob', hls, rfl⟩ := updateJob_eq_ok hupdate
    rw [hjob] at hjob'
    cases hjob'
    obtain ⟨hnew, rfl⟩ := insertEvent_eq_ok hev
    obtain ⟨hjobs, hout, hissued⟩ := consumeWakes_tables hconsume
    exact .inr ⟨job, hjob, hls, hjobs, hout, hissued, _, rfl, hnew, hconsume⟩

theorem recordWake_tables {req : WakeRuntimeJobRequest} {sessionId : Option String}
    (h : recordWake store req sessionId = .ok store') :
    store'.jobs = store.jobs ∧ store'.outbox = store.outbox ∧ store'.issued = store.issued := by
  unfold recordWake at h
  split at h
  · simp only [ok_rules] at h
    rw [← h.2]
    exact ⟨rfl, rfl, rfl⟩
  · obtain ⟨-, rfl⟩ := insertEvent_eq_ok h
    exact ⟨rfl, rfl, rfl⟩

theorem wakeRuntimeJob_cases {req : WakeRuntimeJobRequest} {disposition : WakeRuntimeJobDisposition}
    (h : wakeRuntimeJob store req = .ok (store', disposition)) :
    ∃ job mid, store.jobs[req.jobId]? = some job ∧ recordWake store req job.sessionId = .ok mid ∧
      ((store' = mid ∧ (job.status = .queued → job.runAtMs ≤ wakeAtMs req job)) ∨
        (job.status = .queued ∧ wakeAtMs req job < job.runAtMs ∧
          store' = { mid with
            jobs := store.jobs.insert req.jobId
              { job with runAtMs := wakeAtMs req job, updatedAtMs := req.wokenAtMs } })) := by
  simp only [wakeRuntimeJob, ok_rules] at h
  obtain ⟨-, job, hjob, mid, hmid, h⟩ := h
  refine ⟨job, mid, hjob, hmid, ?_⟩
  have hjobs := (recordWake_tables hmid).1
  cases hstat : job.status with
  | queued =>
    simp only [hstat] at h
    split at h
    · rename_i hlat
      cases h
      rw [← hjobs]
      exact .inr ⟨rfl, hlat, rfl⟩
    · rename_i hearly
      cases h
      exact .inl ⟨rfl, fun _ => not_lt.mp hearly⟩
  | leased | running | succeeded | failed | deadLettered | cancelled =>
    simp only [hstat] at h
    cases h
    exact .inl ⟨rfl, by rintro ⟨⟩⟩

theorem failureTarget_cases {req : FailRuntimeJobRequest} {status : RuntimeJobStatus}
    {runAtMs : Int} (h : failureTarget req = .ok (status, runAtMs)) :
    (req.disposition = .retryScheduled ∧ status = .queued) ∨
      (req.disposition ≠ .retryScheduled ∧ (status = .failed ∨ status = .deadLettered)) := by
  unfold failureTarget at h
  cases hdisposition : req.disposition with
  | retryScheduled =>
    simp only [hdisposition, ok_rules, Prod.mk.injEq] at h
    obtain ⟨next, -, rfl, -⟩ := h
    exact .inl ⟨rfl, rfl⟩
  | failed =>
    simp only [hdisposition, pure_eq_ok, Prod.mk.injEq] at h
    exact .inr ⟨by rintro ⟨⟩, .inl h.1.symm⟩
  | deadLettered =>
    simp only [hdisposition, pure_eq_ok, Prod.mk.injEq] at h
    exact .inr ⟨by rintro ⟨⟩, .inr h.1.symm⟩

/-- What a call that succeeds does to the tables. -/
inductive CallEffect (toks : LeaseTokens) (store store' : JobStore) : JobCall → Prop
  | known {job : QueuedJob} (hsame : store' = store) : CallEffect toks store store' (.schedule job)
  | scheduled {job : QueuedJob} (hnone : store.jobs[job.jobId]? = none)
      (hstore : store' = { store with jobs := store.jobs.insert job.jobId job.row }) :
      CallEffect toks store store' (.schedule job)
  | claimed {req : ClaimDueRuntimeJobsRequest}
      (hstore : store' = (dueJobIds req store).foldl
        (claimJob toks req (min (req.nowMs + req.leaseMs) i64Max)) store) :
      CallEffect toks store store' (.claim req)
  | updated {call : JobCall} {jobId : String} {job job' : RuntimeJob}
      (hjob : store.jobs[jobId]? = some job) (hchg : RowChange toks store jobId call job job')
      (hjobs : store'.jobs = store.jobs.insert jobId job')
      (hout : store'.outbox = if job'.status.isTerminal then
        (upsertRuntimeJobOutboxEvent store jobId).outbox else store.outbox)
      (hevs : store'.events = store.events) (hissued : store'.issued = store.issued) :
      CallEffect toks store store' call
  | yielded {req : YieldRuntimeJobRequest} (hyield : yieldRuntimeJob store req = .ok store') :
      CallEffect toks store store' (.yield req)
  | woken {req : WakeRuntimeJobRequest} {disposition : WakeRuntimeJobDisposition}
      (hwake : wakeRuntimeJob store req = .ok (store', disposition)) :
      CallEffect toks store store' (.wake req)
  | reclaimed {nowMs : Int}
      (hloop : (expiredJobs nowMs store).foldlM (reclaimJob nowMs) store = .ok store') :
      CallEffect toks store store' (.reclaim nowMs)

theorem perform_effect (h : store.perform toks call = .ok store') :
    CallEffect toks store store' call := by
  cases call with
  | schedule job =>
    simp only [perform, map_eq_pure_bind, ok_rules, Prod.exists, scheduleRuntimeJob] at h
    obtain ⟨_, _, h, rfl⟩ := h
    split at h
    · rename_i hnew
      cases h
      rw [Bool.and_eq_true, Option.isNone_iff_eq_none] at hnew
      exact .scheduled hnew.1 rfl
    · simp only [ok_rules] at h
      cases h.2
      exact .known rfl
  | claim req =>
    simp only [perform, claimDueRuntimeJobs, map_eq_pure_bind, ok_rules, Prod.exists] at h
    obtain ⟨_, _, ⟨-, -, hres⟩, rfl⟩ := h
    cases hres
    exact .claimed rfl
  | start req =>
    obtain ⟨job, hjob, hcond, rfl⟩ := updateJob_eq_ok h
    rw [Bool.and_eq_true, beq_iff_eq] at hcond
    exact .updated hjob (.started rfl hcond.1 hcond.2) rfl rfl rfl rfl
  | renew req =>
    simp only [perform, renewRuntimeJobLease, ok_rules] at h
    obtain ⟨job, hjob, hls, rfl⟩ := updateJob_eq_ok h.2
    have hopen : job.status.isTerminal = false := by
      have hact := (holdsLease_iff.mp hls).1
      cases hstat : job.status <;> simp_all [RuntimeJobStatus.isActive, RuntimeJobStatus.isTerminal]
    exact .updated hjob (.renewed rfl hls) rfl (by rw [hopen]; rfl) rfl rfl
  | yield req => exact .yielded h
  | wake req =>
    simp only [perform, map_eq_pure_bind, ok_rules, Prod.exists] at h
    obtain ⟨_, disposition, h, rfl⟩ := h
    exact .woken h
  | complete req =>
    simp only [perform, completeRuntimeJob, ok_rules] at h
    obtain ⟨mid, hupdate, rfl⟩ := h
    obtain ⟨job, hjob, hls, rfl⟩ := updateJob_eq_ok hupdate
    exact .updated hjob (.completed rfl hls) rfl rfl rfl rfl
  | fail req =>
    simp only [perform, failRuntimeJob, ok_rules, Prod.exists] at h
    obtain ⟨status, runAtMs, htgt, mid, hupdate, rfl⟩ := h
    obtain ⟨job, hjob, hls, rfl⟩ := updateJob_eq_ok hupdate
    rcases failureTarget_cases htgt with ⟨hretry, rfl⟩ | ⟨hfinal, rfl | rfl⟩
    · rw [if_pos hretry]
      exact .updated hjob (.failed rfl htgt hls) rfl rfl rfl rfl
    all_goals
      rw [if_neg hfinal]
      exact .updated hjob (.failed rfl htgt hls) rfl rfl rfl rfl
  | cancel req =>
    simp only [perform, cancelRuntimeJob, ok_rules] at h
    obtain ⟨mid, hupdate, rfl⟩ := h
    obtain ⟨job, hjob, hcond, rfl⟩ := updateJob_eq_ok hupdate
    rw [Bool.and_eq_true, Bool.and_eq_true, Bool.not_eq_true'] at hcond
    exact .updated hjob (.cancelled rfl hcond.1.1) rfl rfl rfl rfl
  | reclaim nowMs =>
    simp only [perform, reclaimExpiredRuntimeJobLeases, map_eq_pure_bind, ok_rules, Prod.exists]
      at h
    obtain ⟨_, _, ⟨final, hloop, hres⟩, rfl⟩ := h
    cases hres
    exact .reclaimed hloop

/-- What a call that succeeds does to one job. -/
theorem perform_row (h : store.perform toks call = .ok store') (id : String) :
    RowStep toks store store' id call := by
  cases perform_effect h with
  | known hsame => exact .same (by rw [hsame]) (by rw [hsame])
  | @scheduled job hnone hstore =>
    subst hstore
    by_cases hid : job.jobId = id
    · subst hid
      exact .scheduled rfl rfl hnone (by rw [Table.getElem?_insert, if_pos rfl]) rfl
    · exact .same (by rw [Table.getElem?_insert, if_neg hid]) rfl
  | claimed hstore => exact claim_row (step_of_perform h) hstore id
  | updated hjob hchg hjobs hout => exact rowStep_of_change hjob hjobs hchg hout id
  | yielded hyield =>
    rcases yieldRuntimeJob_cases hyield with rfl | ⟨job, hjob, hls, hjobs, hout, -, -⟩
    · exact .same rfl rfl
    · exact rowStep_of_change hjob hjobs (.yielded rfl hls) hout id
  | woken hwake =>
    obtain ⟨job, mid, hjob, hmid, ⟨rfl, -⟩ | ⟨hqueued, hlat, rfl⟩⟩ := wakeRuntimeJob_cases hwake
    · obtain ⟨hjobs, hout, -⟩ := recordWake_tables hmid
      exact .same (by rw [hjobs]) (by rw [hout])
    · obtain ⟨-, hout, -⟩ := recordWake_tables hmid
      refine rowStep_of_change hjob rfl (.woken rfl hqueued hlat) ?_ id
      rw [hqueued]
      exact hout
  | reclaimed hloop => exact reclaim_row hloop id

/-- Every call is such a step for every job. -/
theorem step_row (toks : LeaseTokens) (store : JobStore) (call : JobCall) (id : String) :
    RowStep toks store (store.step toks call) id call := by
  cases h : store.perform toks call with
  | ok store' =>
    rw [step_of_perform h]
    exact perform_row h id
  | error failure =>
    rw [step_of_failure h]
    exact .same rfl rfl

/-- Tokens are only added. -/
theorem issued_le_step (toks : LeaseTokens) (store : JobStore) (call : JobCall) :
    store.issued ≤ (store.step toks call).issued := by
  cases h : store.perform toks call with
  | error failure => rw [step_of_failure h]
  | ok store' =>
    rw [step_of_perform h]
    cases perform_effect h with
    | known hstore | scheduled _ hstore => rw [hstore]
    | claimed hstore =>
      rw [hstore]
      exact (claimJobs_tables toks _ _ _ store).2.2
    | updated _ _ _ _ _ hissued => exact hissued.ge
    | yielded hyield =>
      rcases yieldRuntimeJob_cases hyield with rfl | ⟨_, -, -, -, -, hissued, -⟩
      · exact le_rfl
      · exact hissued.ge
    | woken hwake =>
      obtain ⟨_, _, -, hmid, ⟨rfl, -⟩ | ⟨-, -, rfl⟩⟩ := wakeRuntimeJob_cases hwake
      · exact (recordWake_tables hmid).2.2.ge
      · exact (recordWake_tables hmid).2.2.ge
    | reclaimed hloop => exact (reclaimJobs_issued hloop).ge

end Calls

end Centaeris
