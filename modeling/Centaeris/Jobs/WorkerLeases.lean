import Centaeris.Jobs.WorkerPool

namespace Centaeris

open Foundation List JobRun

/-!
# Leases of running subagents
-/

/-! ### Batches -/

section Batches

variable (maxParallelism : Nat)

theorem foldl_scanPending_perm (pending : List PoolJob) (state : List PoolJob × List PoolJob) :
    ((pending.foldl (scanPending maxParallelism) state).1 ++
      (pending.foldl (scanPending maxParallelism) state).2).Perm
        (state.1 ++ state.2 ++ pending) := by
  induction pending generalizing state with
  | nil => simp
  | cons item pending ih =>
    have hstep : ((scanPending maxParallelism state item).1 ++
        (scanPending maxParallelism state item).2).Perm (state.1 ++ state.2 ++ [item]) := by
      rcases state with ⟨batch, kept⟩
      simp only [scanPending]
      split
      · simp
      · split
        · simp only [append_assoc]
          exact perm_append_comm.append_left _
        · simp
    rw [foldl_cons, append_cons]
    exact (ih _).trans (hstep.append_right pending)

theorem nextSubagentWorkerBatch_perm (pending : List PoolJob) :
    ((nextSubagentWorkerBatch maxParallelism pending).1 ++
      (nextSubagentWorkerBatch maxParallelism pending).2).Perm pending := by
  have hscan := foldl_scanPending_perm maxParallelism pending ([], [])
  unfold nextSubagentWorkerBatch
  split
  · rename_i item kept heq
    rw [heq] at hscan
    exact hscan
  · exact hscan

theorem nextSubagentWorkerBatch_ne_nil {pending : List PoolJob} (h : pending ≠ []) :
    (nextSubagentWorkerBatch maxParallelism pending).1 ≠ [] := by
  have hscan := foldl_scanPending_perm maxParallelism pending ([], [])
  unfold nextSubagentWorkerBatch
  rcases hres : pending.foldl (scanPending maxParallelism) ([], []) with ⟨batch, kept⟩
  rw [hres] at hscan
  cases batch with
  | cons job batch => exact cons_ne_nil _ _
  | nil =>
    cases kept with
    | cons item kept => exact cons_ne_nil _ _
    | nil => exact absurd hscan.symm.eq_nil h

/-- Enough rounds run all jobs. -/
theorem subagentWorkerBatches_perm (fuel : Nat) (pending : List PoolJob)
    (h : pending.length ≤ fuel) :
    (subagentWorkerBatches maxParallelism fuel pending).flatten.Perm pending := by
  induction fuel generalizing pending with
  | zero =>
    obtain rfl : pending = [] := length_eq_zero_iff.mp (by omega)
    exact List.Perm.nil
  | succ fuel ih =>
    unfold subagentWorkerBatches
    by_cases hemp : pending = []
    · subst hemp
      exact List.Perm.nil
    · rw [if_neg (by simpa using hemp)]
      have hperm := nextSubagentWorkerBatch_perm maxParallelism pending
      have hpos := length_pos_iff.mpr (nextSubagentWorkerBatch_ne_nil maxParallelism hemp)
      generalize nextSubagentWorkerBatch maxParallelism pending = next at hperm hpos ⊢
      obtain ⟨batch, kept⟩ := next
      have hlen : batch.length + kept.length = pending.length := by
        rw [← length_append]
        exact hperm.length_eq
      have hjoined : 0 < batch.length := hpos
      rw [flatten_cons]
      exact ((ih kept (by omega)).append_left batch).trans hperm

theorem poolBatches_perm (jobs : List PoolJob) :
    (poolBatches maxParallelism jobs).flatten.Perm jobs := by
  unfold poolBatches
  split
  · rw [← flatMap_def, flatMap_singleton']
  · exact subagentWorkerBatches_perm maxParallelism _ jobs le_rfl

end Batches

theorem batchRuns_jobs (delayMs : Nat) (batches : List (List PoolJob)) :
    (batchRuns delayMs batches).map (·.job) = batches.flatten := by
  induction batches generalizing delayMs with
  | nil => rfl
  | cons batch rest ih =>
    rw [batchRuns, map_append, ih, flatten_cons, map_map]
    simp [Function.comp_def]

/-! ### Claimed jobs -/

section Claimed

variable {toks : LeaseTokens} {req : ClaimDueRuntimeJobsRequest}

variable {store : JobStore}

/-- What a claim leaves of a job. -/
theorem claimed_row {store' : JobStore} {claimed : List (String × RuntimeJob)}
    (h : claimDueRuntimeJobs toks store req = .ok (store', claimed)) {entry : String × RuntimeJob}
    (hent : entry ∈ claimed) :
    store'.jobs[entry.1]? = some entry.2 ∧ entry.2.status = .leased ∧
      entry.2.leaseExpiresAtMs = some (min (req.nowMs + req.leaseMs) i64Max) ∧
      ∀ token, entry.2.leaseOwner = some token → Generated toks store'.issued token := by
  simp only [claimDueRuntimeJobs, Outcome.ok_rules, Prod.mk.injEq] at h
  obtain ⟨-, -, rfl, rfl⟩ := h
  rw [mem_insertionSort, mem_filter, contains_eq_mem, decide_eq_true_eq] at hent
  obtain ⟨hrow, hlist⟩ := hent
  rw [Table.mem_toList] at hrow
  obtain ⟨⟨_, job⟩, hdue, hid⟩ := mem_map.mp hlist
  have hlist' := (mem_insertionSort listedBefore).mp (mem_of_mem_take hdue)
  have hjob : store.jobs[entry.1]? = some job := by
    rw [← hid]
    exact Table.mem_toList.mp (mem_filter.mp hlist').1
  have hqueued : job.status = .queued := by
    have hisDue := isDue_of_mem hlist hjob
    simp only [isDue, bool_rules] at hisDue
    exact hisDue.1.1.1.1.1
  rcases @claimJobs_row toks req (min (req.nowMs + req.leaseMs) i64Max) _
    (nodup_dueJobIds req store) entry.1 store with
    ⟨-, hnot⟩ | ⟨_, k, -, hjob', -, hk, hclaimed⟩
  · exact absurd hqueued (hnot hlist job hjob)
  obtain rfl := Option.mem_unique hjob hjob'
  have hent := Option.mem_unique hrow hclaimed
  refine ⟨hrow, ?_, ?_, ?_⟩
  · rw [hent]
    rfl
  · rw [hent]
    rfl
  · intro token htok
    rw [hent] at htok
    exact ⟨k, hk, req.workerId, (Option.some.inj htok).symm⟩

end Claimed

/-! ### Calls of other workers -/

section Rows

variable {toks : LeaseTokens} {store : JobStore} {call : JobCall} {id token : String}
  {job : RuntimeJob}

/-- Other workers do not touch a job whose lease has not expired. -/
theorem foreign_row (htgt : call.target ≠ some id) (hjob : store.jobs[id]? = some job)
    (hact : job.status.isActive = true)
    (halive : ∀ nowMs expires, call = .reclaim nowMs → job.leaseExpiresAtMs = some expires →
      nowMs < expires) :
    (store.step toks call).jobs[id]? = some job := by
  have hnotQueued : job.status ≠ .queued := by
    intro hqueued
    rw [hqueued] at hact
    cases hact
  cases step_row toks store call id with
  | same hsame _ => rw [hsame, hjob]
  | scheduled _ _ hnone _ _ =>
    rw [hjob] at hnone
    cases hnone
  | changed hold hnew hchg _ =>
    rw [hjob] at hold
    cases hold
    cases hchg with
    | claimed _ hdue _ _ =>
      simp only [isDue, bool_rules] at hdue
      exact absurd hdue.1.1.1.1.1 hnotQueued
    | woken _ hqueued _ => exact absurd hqueued hnotQueued
    | reclaimed hexpired _ =>
      simp only [isExpired, bool_rules, Option.any_eq_true] at hexpired
      obtain ⟨-, expires, hexpires, hle⟩ := hexpired
      have := halive _ expires rfl hexpires
      omega
    | started hid | renewed hid | yielded hid | completed hid | failed hid | cancelled hid =>
      exact absurd (congrArg some hid) htgt

/-- Other workers do not extend a lease. -/
theorem foreign_lease {expires : Option Int} (htgt : call.target ≠ some id)
    (hgenerated : Generated toks store.issued token)
    (h : ∀ job : RuntimeJob, store.jobs[id]? = some job → job.leaseOwner = some token →
      job.leaseExpiresAtMs = expires) (hjob : (store.step toks call).jobs[id]? = some job)
    (howner : job.leaseOwner = some token) : job.leaseExpiresAtMs = expires := by
  cases step_row toks store call id with
  | same hsame _ =>
    rw [hsame] at hjob
    exact h job hjob howner
  | scheduled _ _ _ hnew _ =>
    rw [hnew] at hjob
    cases hjob
    cases howner
  | changed hold hnew hchg _ =>
    rw [hnew] at hjob
    cases hjob
    cases hchg with
    | claimed _ _ hk _ =>
      -- a later claim has a token with a later number
      obtain ⟨k, hlt, worker, rfl⟩ := hgenerated
      have := toks.never_repeats _ _ _ _ (Option.some.inj howner)
      omega
    | woken =>
      have hsame := h _ hold howner
      exact hsame
    | reclaimed => cases howner
    | started hid | renewed hid | yielded hid | completed hid | failed hid | cancelled hid =>
      exact absurd (congrArg some hid) htgt

end Rows

/-! ### Calls of a run -/

/-- The runner begins so early after the call of the pool that the lease, which is counted from
    there, does not end before the next heartbeat or the end of the runner. -/
def JobRun.InTime (req : RunDueSubagentJobsRequest) (run : JobRun) : Prop :=
  run.job.runMs = 0 ∨
    run.runnerDelayMs + min (run.job.runMs - 1) (heartbeatMs req.leaseMs) < req.leaseMs

/-- The row of the job of a run after its first `n` calls. -/
structure RowAt (req : RunDueSubagentJobsRequest) (run : JobRun) (n : Nat) (job : RuntimeJob) :
    Prop where
  status : job.status = if n = 0 then .leased else .running
  owner : job.leaseOwner = some run.job.leaseOwner
  expires : job.leaseExpiresAtMs =
    some (req.nowMs + ((n - 1) * heartbeatMs req.leaseMs : Nat) + req.leaseMs)

section Calls

variable {req : RunDueSubagentJobsRequest} {run : JobRun}

theorem heartbeatMs_pos (leaseMs : Nat) : 0 < heartbeatMs leaseMs := by
  unfold heartbeatMs
  omega

theorem calls_start : (run.calls req)[0]? = some (run.startCall req) := rfl

variable {k : Nat}

theorem calls_renew (h : k < run.renewals req) :
    (run.calls req)[k + 1]? = some (run.renewCall req (k + 1)) := by
  rw [calls, cons_append, getElem?_cons_succ, getElem?_append_left (by simpa using h)]
  simp [h]

theorem calls_finish :
    (run.calls req)[run.renewals req + 1]? = some (run.finishCall req) := by
  rw [calls, cons_append, getElem?_cons_succ, getElem?_append_right (by simp)]
  simp

theorem mul_heartbeat_le (h : k ≤ run.renewals req) :
    k * heartbeatMs req.leaseMs ≤ run.job.runMs - 1 :=
  (Nat.le_div_iff_mul_le (heartbeatMs_pos _)).mp h

/-- A runner that has a heartbeat runs longer than the time between two. -/
theorem heartbeat_le_run (h : 0 < run.renewals req) :
    heartbeatMs req.leaseMs ≤ run.job.runMs - 1 := by
  have hone : 1 ≤ run.renewals req := h
  have := mul_heartbeat_le hone
  omega

variable {n : Nat}

/-- **Ahead.** Before the next call of its run and before the end of its runner, the lease of a
    job that is in time has not ended. -/
theorem RowAt.ahead {nowMs : Int} (hintime : run.InTime req) (hrun : 0 < run.job.runMs)
    (hn : n ≤ run.renewals req + 1)
    (hnext : ∀ call, (run.calls req)[n]? = some call → nowMs ≤ call.1)
    (hend : nowMs < run.runnerEndMs req) :
    nowMs < req.nowMs + ((n - 1) * heartbeatMs req.leaseMs : Nat) + req.leaseMs := by
  have hdelay : run.runnerDelayMs + min (run.job.runMs - 1) (heartbeatMs req.leaseMs) <
      req.leaseMs := by
    rcases hintime with hzero | hlt
    · omega
    · exact hlt
  cases n with
  | zero =>
    have hstart : nowMs ≤ req.nowMs + run.delayMs := hnext _ calls_start
    have hle : run.delayMs ≤ run.runnerDelayMs := Nat.le_add_right _ _
    omega
  | succ k =>
    rw [Nat.add_sub_cancel]
    by_cases hk : k < run.renewals req
    · -- the next call is a heartbeat
      have htick : nowMs ≤ req.nowMs + run.runnerDelayMs +
          ((k + 1) * heartbeatMs req.leaseMs : Nat) := hnext _ (calls_renew hk)
      have hshort := heartbeat_le_run (Nat.zero_lt_of_lt hk)
      rw [Nat.add_mul, Nat.one_mul] at htick
      omega
    · -- the next call is the end
      have hlast : k = run.renewals req := by omega
      have hend' : nowMs < req.nowMs + run.runnerDelayMs + run.job.runMs := hend
      have hmod := Nat.mod_lt (run.job.runMs - 1) (heartbeatMs_pos req.leaseMs)
      have hdiv := Nat.div_add_mod' (run.job.runMs - 1) (heartbeatMs req.leaseMs)
      rw [renewals] at hlast
      rw [← hlast] at hdiv
      omega

variable {toks : LeaseTokens} {store : JobStore} {job : RuntimeJob}

/-- The row of a job that was started, and of one whose lease was renewed. -/
def startedRow (startedAtMs : Int) (job : RuntimeJob) : RuntimeJob :=
  { job with status := .running, updatedAtMs := startedAtMs, heartbeatAtMs := some startedAtMs }

def renewedRow (heartbeatAtMs : Int) (leaseMs : Nat) (job : RuntimeJob) : RuntimeJob :=
  { job with
    heartbeatAtMs := some heartbeatAtMs
    leaseExpiresAtMs := some (min (heartbeatAtMs + leaseMs) i64Max)
    updatedAtMs := heartbeatAtMs }

theorem start_step (hpos : 0 < req.leaseMs) (hjob : store.jobs[run.job.jobId]? = some job)
    (h : RowAt req run 0 job) :
    ∃ job', (store.step toks (run.startCall req).2).jobs[run.job.jobId]? = some job' ∧
      RowAt req run 1 job' := by
  have hexpires : job.leaseExpiresAtMs = some (req.nowMs + req.leaseMs) := by
    simpa using h.expires
  have hls : holdsLease run.job.leaseOwner req.nowMs job = true := by
    rw [holdsLease_iff]
    exact ⟨by rw [h.status]; rfl, h.owner, _, hexpires, by omega⟩
  have hcond : (job.status == .leased && holdsLease run.job.leaseOwner req.nowMs job) =
      true := by
    rw [hls, h.status]
    rfl
  have hstep : store.step toks (run.startCall req).2 = { store with
      jobs := store.jobs.insert run.job.jobId (startedRow req.nowMs job) } := by
    apply step_of_perform
    show updateJob store run.job.jobId _ _ _ = _
    simp only [updateJob, hjob, orFail, Outcome.ok_bind, hcond, ensure]
    rfl
  refine ⟨startedRow req.nowMs job, ?_, rfl, h.owner, h.expires⟩
  rw [hstep, Table.getElem?_insert, if_pos rfl]

theorem renew_step (hfits : req.nowMs + req.leaseMs + run.job.runMs ≤ i64Max)
    (hls : (req.leaseMs : Int) ≤ i64Max) (hk : k < run.renewals req)
    (hshort : heartbeatMs req.leaseMs < req.leaseMs) (hjob : store.jobs[run.job.jobId]? = some job)
    (h : RowAt req run (k + 1) job) :
    ∃ job', (store.step toks (run.renewCall req (k + 1)).2).jobs[run.job.jobId]? = some job' ∧
      RowAt req run (k + 2) job' := by
  have hexpires : job.leaseExpiresAtMs =
      some (req.nowMs + (k * heartbeatMs req.leaseMs : Nat) + req.leaseMs) := h.expires
  have htick : ((k + 1) * heartbeatMs req.leaseMs : Nat) =
      k * heartbeatMs req.leaseMs + heartbeatMs req.leaseMs := by rw [Nat.add_mul, Nat.one_mul]
  have hin : (k + 1) * heartbeatMs req.leaseMs ≤ run.job.runMs - 1 := mul_heartbeat_le hk
  have hheld : holdsLease run.job.leaseOwner
      (req.nowMs + ((k + 1) * heartbeatMs req.leaseMs : Nat)) job = true := by
    rw [holdsLease_iff]
    refine ⟨by rw [h.status]; rfl, h.owner, _, hexpires, ?_⟩
    rw [htick]
    omega
  have hstep : store.step toks (run.renewCall req (k + 1)).2 = { store with
      jobs := store.jobs.insert run.job.jobId (renewedRow
        (req.nowMs + ((k + 1) * heartbeatMs req.leaseMs : Nat)) req.leaseMs job) } := by
    apply step_of_perform
    show renewRuntimeJobLease store _ = _
    simp only [renewRuntimeJobLease, updateJob, hjob, orFail, Outcome.ok_bind, hheld, ensure,
      hls, decide_true]
    rfl
  refine ⟨renewedRow (req.nowMs + ((k + 1) * heartbeatMs req.leaseMs : Nat)) req.leaseMs job,
    ?_, ?_⟩
  · rw [hstep, Table.getElem?_insert, if_pos rfl]
  · refine ⟨h.status, h.owner, ?_⟩
    show some (min _ i64Max) = some _
    rw [min_eq_left (by omega)]
    rfl

/-- What the calls of its run make of a job. -/
theorem own_step {call : Int × JobCall} (hpos : 0 < req.leaseMs)
    (hfits : req.nowMs + req.leaseMs + run.job.runMs ≤ i64Max)
    (hls : (req.leaseMs : Int) ≤ i64Max) (hintime : run.InTime req) (hrun : 0 < run.job.runMs)
    (hn : n ≤ run.renewals req) (hcall : (run.calls req)[n]? = some call)
    (hjob : store.jobs[run.job.jobId]? = some job) (h : RowAt req run n job) :
    ∃ job', (store.step toks call.2).jobs[run.job.jobId]? = some job' ∧
      RowAt req run (n + 1) job' := by
  cases n with
  | zero =>
    rw [calls_start] at hcall
    cases hcall
    exact start_step hpos hjob h
  | succ k =>
    rw [calls_renew hn] at hcall
    cases hcall
    have hshort : heartbeatMs req.leaseMs < req.leaseMs := by
      have hle := heartbeat_le_run (Nat.zero_lt_of_lt hn)
      rcases hintime with hzero | hlt
      · omega
      · omega
    exact renew_step hfits hls hn hshort hjob h

end Calls

/-! ### Timelines -/

section Timelines

variable {toks : LeaseTokens} {pool : PoolCall toks} {timeline : Timeline pool}
  {run : JobRun} {front back : List (Int × JobCall)}

theorem mem_jobs_of_run (hrun : run ∈ pool.runs) : run.job ∈ pool.jobs := by
  apply (poolBatches_perm _ pool.jobs).subset
  rw [← batchRuns_jobs]
  exact mem_map_of_mem hrun

theorem PoolCall.leaseMs_le (pool : PoolCall toks) : (pool.req.leaseMs : Int) ≤ i64Max := by
  have h := pool.claim_eq
  simp only [claimDueRuntimeJobs, Outcome.ok_rules, decide_eq_true_eq] at h
  exact h.2.1

theorem rowAt_claimed (hrun : run ∈ pool.runs) :
    (∃ job, pool.claimedStore.jobs[run.job.jobId]? = some job ∧ RowAt pool.req run 0 job) ∧
      Generated toks pool.claimedStore.issued run.job.leaseOwner := by
  have hm := mem_jobs_of_run hrun
  have hpair : (run.job.jobId, some run.job.leaseOwner) ∈
      pool.claimed.map fun entry => (entry.1, entry.2.leaseOwner) := by
    rw [← pool.jobs_eq]
    exact mem_map.mpr ⟨run.job, hm, rfl⟩
  obtain ⟨entry, hent, heq⟩ := mem_map.mp hpair
  obtain ⟨hid, howner⟩ := Prod.mk.inj heq
  obtain ⟨hrow, hstat, hexpires, hgenerated⟩ := claimed_row pool.claim_eq hent
  refine ⟨⟨entry.2, by rw [← hid]; exact hrow, hstat, howner, ?_⟩, hgenerated _ howner⟩
  have hfits := pool.fits run.job hm
  rw [hexpires]
  show some (min (pool.req.nowMs + pool.req.leaseMs) i64Max) = _
  rw [min_eq_left (by omega)]
  simp

/-- The calls that a run itself makes. -/
def ownCalls (run : JobRun) (calls : List (Int × JobCall)) : List (Int × JobCall) :=
  calls.filter fun call => call.2.target == some run.job.jobId

theorem ownCalls_append : ownCalls run (front ++ back) = ownCalls run front ++ ownCalls run back :=
  filter_append front back

theorem ownCalls_cons {call : Int × JobCall} (h : call.2.target = some run.job.jobId) :
    ownCalls run (call :: back) = call :: ownCalls run back :=
  filter_cons_of_pos (by simpa using h)

theorem own_split (hrun : run ∈ pool.runs) (hsp : timeline.calls = front ++ back) :
    run.calls pool.req = ownCalls run front ++ ownCalls run back := by
  rw [← timeline.own run hrun, hsp]
  exact ownCalls_append

theorem next_later (hrun : run ∈ pool.runs) (hsp : timeline.calls = front ++ back)
    {nowMs : Int} (hback : ∀ call ∈ back, nowMs ≤ call.1) (call : Int × JobCall)
    (hcall : (run.calls pool.req)[(ownCalls run front).length]? = some call) : nowMs ≤ call.1 := by
  rw [own_split hrun hsp, getElem?_append_right le_rfl, Nat.sub_self] at hcall
  exact hback call (mem_filter.mp (mem_of_getElem? hcall)).1

theorem own_count_le (hrun : run ∈ pool.runs) (hsp : timeline.calls = front ++ back)
    (hfront : ∀ call ∈ front, call.1 < run.runnerEndMs pool.req) :
    (ownCalls run front).length ≤
      run.renewals pool.req + 1 := by
  by_contra hmany
  -- the last call of the run would be in front, but it is made when the runner ends
  have hlt : run.renewals pool.req + 1 <
      (ownCalls run front).length := by omega
  have hlast : (run.calls pool.req)[run.renewals pool.req + 1]? =
      some (run.finishCall pool.req) := calls_finish
  rw [own_split hrun hsp, getElem?_append_left hlt] at hlast
  have hend := hfront _ (mem_filter.mp (mem_of_getElem? hlast)).1
  exact absurd hend (lt_irrefl _)

theorem storeAfter_concat (call : Int × JobCall) :
    pool.storeAfter (front ++ [call]) = (pool.storeAfter front).step toks call.2 := by
  rw [PoolCall.storeAfter, map_append, JobStore.run, foldl_append]
  rfl

/-- **All calls.** Until its runner ends, the row of a job that is in time is the one that the
    calls of its run have made. -/
theorem rowAt_front (hrun : run ∈ pool.runs) (hintime : run.InTime pool.req)
    (hpos : 0 < run.job.runMs) (hsp : timeline.calls = front ++ back)
    (hfront : ∀ call ∈ front, call.1 < run.runnerEndMs pool.req) :
    ∃ job, (pool.storeAfter front).jobs[run.job.jobId]? = some job ∧
      RowAt pool.req run (ownCalls run front).length job := by
  induction front using List.reverseRecOn generalizing back with
  | nil => exact (rowAt_claimed hrun).1
  | append_singleton front call ih =>
    have hsp' : timeline.calls = front ++ call :: back := by
      rw [hsp, append_assoc]
      rfl
    have hpre : ∀ c ∈ front, c.1 < run.runnerEndMs pool.req :=
      fun c hc => hfront c (mem_append_left _ hc)
    obtain ⟨job, hjob, hrow⟩ := ih hsp' hpre
    have hcnt := own_count_le hrun hsp' hpre
    have hlat : ∀ c ∈ call :: back, call.1 ≤ c.1 := by
      intro c hc
      have hordered := timeline.ordered
      rw [hsp', pairwise_append, pairwise_cons] at hordered
      rcases mem_cons.mp hc with rfl | hc
      · exact le_rfl
      · exact hordered.2.1.1 c hc
    have hnow := hfront call (mem_append_right _ mem_cons_self)
    rw [storeAfter_concat, ownCalls_append]
    by_cases hown : call.2.target = some run.job.jobId
    · -- the next call of the run itself
      have hnext : (run.calls pool.req)[(ownCalls run front).length]? = some call := by
        rw [own_split hrun hsp', getElem?_append_right le_rfl, Nat.sub_self,
          ownCalls_cons hown]
        rfl
      have hcnt' : (ownCalls run front).length ≤ run.renewals pool.req := by
        by_contra hlast
        have heq : (ownCalls run front).length = run.renewals pool.req + 1 := by omega
        rw [heq, calls_finish] at hnext
        rw [← Option.some.inj hnext] at hnow
        exact absurd hnow (lt_irrefl _)
      rw [ownCalls_cons hown, length_append]
      exact own_step pool.lease_pos (pool.fits run.job (mem_jobs_of_run hrun)) pool.leaseMs_le
        hintime hpos hcnt' hnext hjob hrow
    · -- a call of another worker, which comes before the next call of the run
      rw [show ownCalls run [call] = [] by simpa [ownCalls] using hown, append_nil]
      refine ⟨job, foreign_row hown hjob ?_ ?_, hrow⟩
      · rw [hrow.status]
        split <;> rfl
      · intro nowMs expires hreclaim hexpires
        have hcur := timeline.current call (by
          rw [hsp']
          exact mem_append_right _ mem_cons_self) nowMs hreclaim
        have hahead := RowAt.ahead hintime hpos hcnt
          (next_later hrun hsp' hlat) hnow
        rw [hrow.expires] at hexpires
        rw [hcur, ← Option.some.inj hexpires]
        exact hahead

/-- As long as a job has no heartbeat, its worker has no other lease than that of the claim. -/
theorem lease_front (hrun : run ∈ pool.runs) (hsp : timeline.calls = front ++ back)
    (hcnt : (ownCalls run front).length ≤ 1) :
    Generated toks (pool.storeAfter front).issued run.job.leaseOwner ∧
      ∀ job : RuntimeJob, (pool.storeAfter front).jobs[run.job.jobId]? = some job →
        job.leaseOwner = some run.job.leaseOwner →
        job.leaseExpiresAtMs = some (pool.req.nowMs + pool.req.leaseMs) := by
  induction front using List.reverseRecOn generalizing back with
  | nil =>
    obtain ⟨⟨job, hjob, hrow⟩, hgenerated⟩ := rowAt_claimed hrun
    refine ⟨hgenerated, ?_⟩
    intro other hoth _
    have hsame : some other = some job := hoth.symm.trans hjob
    cases hsame
    simpa using hrow.expires
  | append_singleton front call ih =>
    have hsp' : timeline.calls = front ++ call :: back := by
      rw [hsp, append_assoc]
      rfl
    rw [ownCalls_append, length_append] at hcnt
    obtain ⟨hgenerated, hls⟩ := ih hsp' (by omega)
    rw [storeAfter_concat]
    refine ⟨hgenerated.step call.2, ?_⟩
    intro job hjob howner
    by_cases hown : call.2.target = some run.job.jobId
    · -- the first call of the run is the start, which leaves the lease as it is
      rw [ownCalls_cons hown, length_cons] at hcnt
      have hnone : (ownCalls run front) = [] := by
        rw [← length_eq_zero_iff]
        omega
      have hstart : call = run.startCall pool.req := by
        have hsplitOwn := own_split hrun hsp'
        rw [hnone, nil_append, ownCalls_cons hown] at hsplitOwn
        exact (List.cons.inj hsplitOwn).1.symm
      subst hstart
      cases step_row toks (pool.storeAfter front) (run.startCall pool.req).2
          run.job.jobId with
      | same hsame _ =>
        rw [hsame] at hjob
        exact hls job hjob howner
      | scheduled hcall _ _ _ _ => cases hcall
      | changed hold hnew hchg _ =>
        rw [hnew] at hjob
        cases hjob
        cases hchg with
        | started =>
          have hsame := hls _ hold howner
          exact hsame
    · exact foreign_lease hown hgenerated hls hjob howner

theorem split_at_time {calls : List (Int × JobCall)} (h : calls.Pairwise fun a b => a.1 ≤ b.1)
    (nowMs : Int) :
    ∃ front back, calls = front ++ back ∧ (∀ call ∈ front, call.1 ≤ nowMs) ∧
      ∀ call ∈ back, nowMs < call.1 := by
  induction calls with
  | nil => exact ⟨[], [], rfl, nofun, nofun⟩
  | cons call calls ih =>
    rw [pairwise_cons] at h
    by_cases hle : call.1 ≤ nowMs
    · obtain ⟨front, back, rfl, hfront, hback⟩ := ih h.2
      refine ⟨call :: front, back, rfl, ?_, hback⟩
      intro other hoth
      rcases mem_cons.mp hoth with rfl | hoth
      · exact hle
      · exact hfront other hoth
    · refine ⟨[], call :: calls, rfl, nofun, ?_⟩
      intro other hoth
      rcases mem_cons.mp hoth with rfl | hoth
      · omega
      · have := h.1 other hoth
        omega

theorem startCall_mem (timeline : Timeline pool) (hrun : run ∈ pool.runs) :
    run.startCall pool.req ∈ timeline.calls := by
  have hm : run.startCall pool.req ∈ run.calls pool.req := mem_cons_self
  rw [← timeline.own run hrun] at hm
  exact (mem_filter.mp hm).1

theorem inTime_of_short (halways : timeline.AlwaysLeased) (hrun : run ∈ pool.runs)
    (hpos : 0 < run.job.runMs) (hshort : run.job.runMs - 1 < heartbeatMs pool.req.leaseMs) :
    run.runnerDelayMs + (run.job.runMs - 1) < pool.req.leaseMs := by
  obtain ⟨front, back, hsp, hfront, hback⟩ := split_at_time timeline.ordered
    (pool.req.nowMs + run.runnerDelayMs + (run.job.runMs - 1 : Nat))
  have hdelay : run.delayMs ≤ run.runnerDelayMs := Nat.le_add_right _ _
  have hstart : run.startCall pool.req ∈ front := by
    have hm := startCall_mem timeline hrun
    rw [hsp, mem_append] at hm
    refine hm.resolve_right fun hlat => ?_
    have hlt : _ < pool.req.nowMs + run.delayMs := hback _ hlat
    omega
  have hrenewals : run.renewals pool.req = 0 := Nat.div_eq_of_lt hshort
  have hcnt : (ownCalls run front).length ≤ 1 := by
    have := own_count_le hrun hsp fun call hcall => by
      have := hfront call hcall
      show _ < pool.req.nowMs + run.runnerDelayMs + run.job.runMs
      omega
    omega
  obtain ⟨job, expires, hjob, -, howner, hexpires, hlt⟩ := halways run hrun front back _ hsp
    hfront (fun call hcall => le_of_lt (hback call hcall)) hstart
    (by rw [runnerStartMs]; omega)
    (by rw [runnerEndMs, runnerStartMs]; omega)
  have hls := (lease_front hrun hsp hcnt).2 job hjob howner
  rw [hexpires] at hls
  have := Option.some.inj hls
  omega

theorem inTime_of_long (halways : timeline.AlwaysLeased) (hrun : run ∈ pool.runs)
    (hlong : heartbeatMs pool.req.leaseMs ≤ run.job.runMs - 1) :
    run.runnerDelayMs + heartbeatMs pool.req.leaseMs < pool.req.leaseMs := by
  have hh := heartbeatMs_pos pool.req.leaseMs
  have hrenewals : 0 < run.renewals pool.req := Nat.div_pos hlong hh
  obtain ⟨rest, hcalls⟩ : ∃ rest, run.calls pool.req =
      run.startCall pool.req :: run.renewCall pool.req 1 :: rest := by
    obtain ⟨n, hn⟩ := Nat.exists_eq_succ_of_ne_zero (Nat.pos_iff_ne_zero.mp hrenewals)
    rw [JobRun.calls, hn, range_succ_eq_map]
    exact ⟨_, rfl⟩
  have hown := timeline.own run hrun
  rw [hcalls, filter_eq_cons_iff] at hown
  obtain ⟨first, later, hsp, hfst, hstart, hlat⟩ := hown
  rw [filter_eq_cons_iff] at hlat
  obtain ⟨mid, back, rfl, hmid, hrenew, -⟩ := hlat
  -- the calls before the first heartbeat hold the start as the only call of the run
  have hsp' : timeline.calls = (first ++ run.startCall pool.req :: mid) ++
      run.renewCall pool.req 1 :: back := by
    rw [hsp, append_assoc]
    rfl
  have hcnt : (ownCalls run (first ++ run.startCall pool.req :: mid)).length ≤ 1 := by
    rw [ownCalls, filter_append, filter_eq_nil_iff.mpr hfst, nil_append, filter_cons,
      if_pos hstart, filter_eq_nil_iff.mpr hmid]
    rfl
  have hordered := timeline.ordered
  rw [hsp', pairwise_append, pairwise_cons] at hordered
  have htick : (run.renewCall pool.req 1).1 =
      pool.req.nowMs + run.runnerDelayMs + heartbeatMs pool.req.leaseMs := by
    simp [renewCall, runnerStartMs]
  obtain ⟨job, expires, hjob, -, howner, hexpires, hlt⟩ := halways run hrun _ _
    (run.renewCall pool.req 1).1 hsp'
    (fun call hcall => hordered.2.2 call hcall _ mem_cons_self)
    (fun call hcall => by
      rcases mem_cons.mp hcall with rfl | hcall
      · exact le_rfl
      · exact hordered.2.1.1 call hcall)
    (mem_append_right _ mem_cons_self)
    (by rw [htick, runnerStartMs]; omega)
    (by rw [htick, runnerEndMs, runnerStartMs]; omega)
  have hls := (lease_front hrun hsp' hcnt).2 job hjob howner
  rw [hexpires] at hls
  have := Option.some.inj hls
  omega

/-- **Leases of running jobs.** For every call of the pool and every order of the calls of all
    workers: whenever a runner runs, its job is running under the worker's token with a lease
    that ends later, exactly if every runner begins in time after the call of the pool. -/
theorem always_leased_iff (toks : LeaseTokens) (pool : PoolCall toks)
    (timeline : Timeline pool) :
    timeline.AlwaysLeased ↔ ∀ run ∈ pool.runs, run.InTime pool.req := by
  constructor
  · intro halways run hrun
    by_cases hpos : 0 < run.job.runMs
    · refine .inr ?_
      by_cases hshort : run.job.runMs - 1 < heartbeatMs pool.req.leaseMs
      · rw [min_eq_left (by omega)]
        exact inTime_of_short halways hrun hpos hshort
      · rw [min_eq_right (by omega)]
        exact inTime_of_long halways hrun (by omega)
    · exact .inl (by omega)
  · intro hintime run hrun front back nowMs hsp hfront hback hstart hbegin hend
    have hpos : 0 < run.job.runMs := by
      rw [runnerEndMs] at hend
      omega
    have hpre : ∀ call ∈ front, call.1 < run.runnerEndMs pool.req :=
      fun call hcall => lt_of_le_of_lt (hfront call hcall) hend
    obtain ⟨job, hjob, hrow⟩ := rowAt_front hrun (hintime run hrun) hpos hsp hpre
    have hahead := RowAt.ahead (hintime run hrun) hpos (own_count_le hrun hsp hpre)
      (next_later hrun hsp hback) hend
    have hstarted : (ownCalls run front).length ≠ 0 := by
      rw [Ne, length_eq_zero_iff, ownCalls, filter_eq_nil_iff]
      intro hnone
      exact hnone _ hstart (by simp [startCall, JobCall.target])
    refine ⟨job, _, hjob, ?_, hrow.owner, hrow.expires, hahead⟩
    rw [hrow.status, if_neg hstarted]

end Timelines

/-! ### A job that waits -/

namespace WaitingJob

/-- Two jobs that exclude each other, with a lease of thirty seconds. -/
def scheduled : JobStore :=
  JobStore.after countingTokens
    [.schedule ⟨"a", subagentRunJobKind, "a", none, none, 0, 0, [], none, 0, 0, none⟩,
      .schedule ⟨"b", subagentRunJobKind, "b", none, none, 0, 0, [], none, 0, 0, none⟩]

def req : RunDueSubagentJobsRequest := ⟨0, "w", none, 2, 30000, 0⟩

def claimResult : JobStore × List (String × RuntimeJob) :=
  let claimed := (dueJobIds req.claimRequest scheduled).foldl
    (claimJob countingTokens req.claimRequest 30000) scheduled
  (claimed, (claimed.jobs.toList.filter fun entry =>
    (dueJobIds req.claimRequest scheduled).contains entry.1).insertionSort listedBefore)

/-- The first job runs for thirty seconds, the second one for nine. -/
def jobs : List PoolJob :=
  [⟨"a", "w:", ⟨"k", .exclusive⟩, 0, 30000, 0, .succeeded []⟩,
    ⟨"b", "w:a", ⟨"k", .exclusive⟩, 0, 9000, 0, .succeeded []⟩]

theorem claim_eq_claimResult :
    claimDueRuntimeJobs countingTokens scheduled req.claimRequest = .ok claimResult := by
  simp [claimDueRuntimeJobs, ensure, req, RunDueSubagentJobsRequest.claimRequest, i64Max,
    claimResult, pure, Except.pure, bind, Except.bind]

theorem jobs_eq_claimed : jobs.map (fun job => (job.jobId, some job.leaseOwner)) =
    claimResult.2.map fun entry => (entry.1, entry.2.leaseOwner) := by
  decide +kernel

theorem jobs_fit : ∀ job ∈ jobs, req.nowMs + req.leaseMs + job.runMs ≤ i64Max := by
  decide +kernel

def pool : PoolCall countingTokens where
  store := scheduled
  req := req
  policy := ⟨2⟩
  claimedStore := claimResult.1
  claimed := claimResult.2
  claim_eq := claim_eq_claimResult
  jobs := jobs
  jobs_eq := jobs_eq_claimed
  lease_pos := by decide
  fits := jobs_fit

/-- The second job waits for the first one. -/
def runA : JobRun := ⟨⟨"a", "w:", ⟨"k", .exclusive⟩, 0, 30000, 0, .succeeded []⟩, 0⟩
def runB : JobRun := ⟨⟨"b", "w:a", ⟨"k", .exclusive⟩, 0, 9000, 0, .succeeded []⟩, 30000⟩

theorem runs_eq : pool.runs = [runA, runB] := rfl

/-- The calls until another worker takes expired leases back. -/
def front : List (Int × JobCall) :=
  runA.calls req ++ [runB.startCall req, (30000, .reclaim 30000)]

def timeline : Timeline pool where
  calls := front ++ [runB.finishCall req]
  ordered := by decide +kernel
  own run hrun := by
    rw [runs_eq, List.mem_cons, List.mem_singleton] at hrun
    rcases hrun with rfl | rfl
    · rfl
    · rfl
  current call hcall nowMs hreclaim := by
    have hcalls : front ++ [runB.finishCall req] = [runA.startCall req, runA.renewCall req 1,
        runA.renewCall req 2, runA.finishCall req, runB.startCall req, (30000, .reclaim 30000),
        runB.finishCall req] := rfl
    rw [hcalls] at hcall
    simp only [List.mem_cons, List.not_mem_nil, or_false] at hcall
    rcases hcall with rfl | rfl | rfl | rfl | rfl | rfl | rfl
    · cases hreclaim
    · cases hreclaim
    · cases hreclaim
    · cases hreclaim
    · cases hreclaim
    · cases hreclaim
      rfl
    · cases hreclaim

/-- Another worker claims the job and starts it. -/
def secondWorker : List JobCall :=
  [.claim ⟨33000, "v", none, some subagentRunJobKind, none, 1, 30000⟩,
    .start ⟨"b", "v:aa", 33000⟩]

end WaitingJob

/-- **A waiting job.** The second job is started after thirty seconds under a lease that ends
    then: another worker takes it back while its runner runs, and starts it a second time before
    the first runner ends. -/
theorem waiting_job_reclaimed :
    ¬ WaitingJob.timeline.AlwaysLeased ∧
    WaitingJob.runB.runnerStartMs WaitingJob.req = 30000 ∧
    WaitingJob.runB.runnerEndMs WaitingJob.req = 39000 ∧
    ((WaitingJob.pool.storeAfter WaitingJob.front).jobs["b"]?).map (·.status) = some .queued ∧
    (((WaitingJob.pool.storeAfter WaitingJob.front).run countingTokens
      WaitingJob.secondWorker).jobs["b"]?).map (fun job => (job.status, job.leaseOwner)) =
        some (.running, some "v:aa") := by
  have hqueued : ((WaitingJob.pool.storeAfter WaitingJob.front).jobs["b"]?).map (·.status) =
      some .queued := by
    decide +kernel
  refine ⟨?_, by decide +kernel, by decide +kernel, hqueued, by decide +kernel⟩
  intro halways
  -- the lease is looked at right after it was taken back
  obtain ⟨job, _, hjob, hrunning, -⟩ := halways WaitingJob.runB
    (mem_cons_of_mem _ mem_cons_self) WaitingJob.front
    [WaitingJob.runB.finishCall WaitingJob.req] 30000 rfl (by decide +kernel) (by decide +kernel)
    (mem_append_right _ mem_cons_self) (by decide +kernel) (by decide +kernel)
  have hjobB : (WaitingJob.pool.storeAfter WaitingJob.front).jobs["b"]? = some job := hjob
  rw [hjobB, Option.map_some, hrunning] at hqueued
  cases hqueued

end Centaeris
