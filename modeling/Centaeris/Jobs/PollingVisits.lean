import Centaeris.Jobs.ProviderPolling

namespace Centaeris

open Foundation Outcome

/-!
# Polling: the law and the visits

Workers claim jobs and visit them, and leases that expire are taken back.  A worker that
crashes never comes back to a job that it holds; one that is late finds another lease.
-/

/-- What is recorded about a job. -/
inductive PollEvent where
  | pending
  | retryable
  | permanent
  | finished
  | stopped
  | reclaimed
deriving DecidableEq

def errorEvent (error : ToolErrorInfo) : PollEvent :=
  if error.retryable then .retryable else .permanent

def PollVisit.event : PollVisit → PollEvent
  | .ready (.failed error) | .failed error => errorEvent error
  | .ready (.pending _) => .pending
  | .ready (.finished ..) => .finished
  | .stopped _ => .stopped

/-- The store, the jobs that workers hold, and what was recorded about each job. -/
structure PollWorld where
  store : PollingStore
  held : List (String × RuntimeJob)
  recorded : List (String × PollEvent)

def PollWorld.empty : PollWorld := ⟨⟨.empty, ∅⟩, [], []⟩

def PollWorld.events (world : PollWorld) (id : String) : List PollEvent :=
  (world.recorded.filter (·.1 == id)).map (·.2)

/-- Tokens whose random part stays when outer blanks are cut off. -/
structure PollTokens extends LeaseTokens where
  trims : ∀ worker k, ∃ worker',
    trim (leaseToken worker (nonce k)) = leaseToken worker' (nonce k)

inductive PollStep where
  | schedule (job : QueuedJob)
  | claim (req : ClaimDueRuntimeJobsRequest)
  | visit (entry : String × RuntimeJob) (visit : PollVisit) (clock : Nat → Int)
  | reclaim (nowMs : Int)

section

variable (toks : PollTokens) (readers : PollReaders) (limits : String → PollLimits)

/-- One step; a call that fails changes nothing.  A new job has no error. -/
def PollWorld.step (world : PollWorld) (step : PollStep) : PollWorld :=
  match step with
  | .schedule job =>
    let jobs := world.store.jobs.step toks.toLeaseTokens
      (.schedule { job with lastError := none })
    { world with store.jobs := jobs }
  | .claim req =>
    match claimDueRuntimeJobs toks.toLeaseTokens world.store.jobs req with
    | .ok (jobs, claimed) => { world with store.jobs := jobs, held := claimed ++ world.held }
    | .error _ => world
  | .visit entry visit clock =>
    if entry ∈ world.held then
      match visitProviderPollJob world.store entry.1 entry.2 readers (limits entry.1) clock
        visit with
      | .ok (store, _) =>
        { world with store, recorded := world.recorded ++ [(entry.1, visit.event)] }
      | .error _ => world
    else world
  | .reclaim nowMs =>
    match world.store.jobs.perform toks.toLeaseTokens (.reclaim nowMs) with
    | .ok jobs =>
      { world with
        store.jobs := jobs
        recorded := world.recorded ++
          (expiredJobs nowMs world.store.jobs).map fun entry => (entry.1, .reclaimed) }
    | .error _ => world

def PollWorld.after (steps : List PollStep) : PollWorld :=
  steps.foldl (PollWorld.step toks readers limits) .empty

end

/-! ### The law -/

/-- A job may be given up: after a permanent error, three retryable errors in a row, as many
    pending answers as it may have, or more than three leases taken back. -/
def GivenUpRightly (limits : PollLimits) (events : List PollEvent) : Prop :=
  events.getLast? = some .permanent ∨
    [.retryable, .retryable, .retryable] <:+ events.filter (· ≠ .reclaimed) ∨
    max limits.maxRetries 1 ≤ events.count .pending ∨ 3 < events.count .reclaimed

/-- When a job may be given up, and what is stored with it. -/
structure PollLaw (readers : PollReaders) (limits : PollLimits) (id : String)
    (events : List PollEvent) (job : RuntimeJob) : Prop where
  given_up : job.status = .deadLettered → GivenUpRightly limits events
  requeued : events.getLast? = some .pending ∨ events.getLast? = some .retryable →
    ¬ GivenUpRightly limits events → job.status.isTerminal = false
  counted : job.status.isTerminal = false → ∃ progress,
    providerPollingProgress readers id job = .ok progress ∧
      progress.pendingAttempts = events.count .pending

/-- The law for one job of a world. -/
def PollWorld.Lawful (readers : PollReaders) (limits : String → PollLimits) (world : PollWorld)
    (id : String) : Prop :=
  ∀ job : RuntimeJob, world.store.jobs.jobs[id]? = some job →
    PollLaw readers (limits id) id (world.events id) job

/-! ### Jobs that workers hold -/

/-- As long as the job is held under the token that the worker got, its error and its payload
    are those that the worker knows. -/
def SameClaim (toks : LeaseTokens) (store : JobStore) (entry : String × RuntimeJob) : Prop :=
  ∀ token, entry.2.leaseOwner = some token → ∃ k < store.issued, ∃ worker,
    token = leaseToken worker (toks.nonce k) ∧
    ∀ (job : RuntimeJob) (worker' : String), store.jobs[entry.1]? = some job →
      job.leaseOwner = some (leaseToken worker' (toks.nonce k)) →
      job.lastError = entry.2.lastError ∧ job.payloadRef = entry.2.payloadRef

variable {toks : LeaseTokens} {store : JobStore} {entry : String × RuntimeJob}

theorem SameClaim.step (h : SameClaim toks store entry) (call : JobCall) :
    SameClaim toks (store.step toks call) entry := by
  intro token htok
  obtain ⟨k, hk, worker, heq, hrow⟩ := h token htok
  have hissued := issued_le_step toks store call
  refine ⟨k, by omega, worker, heq, ?_⟩
  intro job worker' hjob hown
  cases step_row toks store call entry.1 with
  | same hsame _ =>
    rw [hsame] at hjob
    exact hrow job worker' hjob hown
  | scheduled _ _ _ hnew _ =>
    rw [hnew] at hjob
    cases hjob
    cases hown
  | changed hold hnew hchg _ =>
    rw [hnew] at hjob
    cases hjob
    cases hchg with
    | @claimed req _ k' _ _ _ hk' _ =>
      -- a later claim has a token with a later number
      have := toks.never_repeats _ _ _ _ (Option.some.inj hown)
      omega
    | started | renewed | woken =>
      have hkn := hrow _ worker' hold hown
      exact hkn
    | yielded | completed | failed | cancelled | reclaimed => cases hown

theorem sameClaim_of_claimed (hsnd : JobsSound toks store) (hent : entry ∈ store.jobs.toList) :
    SameClaim toks store entry := by
  intro token htok
  have hrow : store.jobs[entry.1]? = some entry.2 := Table.mem_toList.mp hent
  have hls : leaseOf store entry.1 = some token := by
    rw [leaseOf, hrow]
    exact htok
  obtain ⟨k, hk, worker, heq⟩ := hsnd.generated entry.1 token hls
  refine ⟨k, hk, worker, heq, ?_⟩
  intro job worker' hjob _
  rw [hrow] at hjob
  cases hjob
  exact ⟨rfl, rfl⟩

/-! ### What a visit does -/

/-- The token that a worker sends with a job. -/
def SentToken (job : RuntimeJob) (token : String) : Prop :=
  ∃ owner, job.leaseOwner = some owner ∧ token = trim owner

/-- A payload that the worker can read. -/
def PayloadValid (readers : PollReaders) (payloadRef : Option String) : Prop :=
  (parseProviderPollPayloadRef readers payloadRef).isOk = true

def Advances (readers : PollReaders) (limits : PollLimits) (id : String) (job : RuntimeJob)
    (event : PollEvent) (next : ProviderPollingProgress) : Prop :=
  ∃ progress, providerPollingProgress readers id job = .ok progress ∧
    ((event = .pending ∧ next.pendingAttempts = satAdd32 progress.pendingAttempts 1 ∧
        next.consecutiveErrorAttempts = 0 ∧ next.pendingAttempts < max limits.maxRetries 1) ∨
      (event = .retryable ∧ next.pendingAttempts = progress.pendingAttempts ∧
        next.consecutiveErrorAttempts = satAdd32 progress.consecutiveErrorAttempts 1 ∧
        next.consecutiveErrorAttempts < providerPollMaxConsecutiveErrorAttempts))

def GivesUp (readers : PollReaders) (limits : PollLimits) (id : String) (job : RuntimeJob)
    (event : PollEvent) : Prop :=
  ¬ PayloadValid readers job.payloadRef ∨ event = .permanent ∨
    (event = .pending ∧ ∀ progress, providerPollingProgress readers id job = .ok progress →
      max limits.maxRetries 1 ≤ satAdd32 progress.pendingAttempts 1) ∨
    (event = .retryable ∧ ∀ progress, providerPollingProgress readers id job = .ok progress →
      providerPollMaxConsecutiveErrorAttempts ≤ satAdd32 progress.consecutiveErrorAttempts 1)

/-- The call that a visit makes to the store. -/
inductive VisitCall (readers : PollReaders) (limits : PollLimits) (id : String)
    (job : RuntimeJob) : PollEvent → JobCall → Prop
  | requeued {event : PollEvent} {next : ProviderPollingProgress} {req : FailRuntimeJobRequest}
      (hid : req.jobId = id) (htok : SentToken job req.leaseOwner)
      (hretry : req.disposition = .retryScheduled)
      (herror : req.lastError = encodeProviderPollingProgress next)
      (hnext : Advances readers limits id job event next) :
      VisitCall readers limits id job event (.fail req)
  | gaveUp {event : PollEvent} {req : FailRuntimeJobRequest} (hid : req.jobId = id)
      (htok : SentToken job req.leaseOwner) (hdead : req.disposition = .deadLettered)
      (hrsn : GivesUp readers limits id job event) :
      VisitCall readers limits id job event (.fail req)
  | finished {req : CompleteRuntimeJobRequest} (hid : req.jobId = id) :
      VisitCall readers limits id job .finished (.complete req)
  | stopped {req : CancelRuntimeJobRequest} (hid : req.jobId = id) :
      VisitCall readers limits id job .stopped (.cancel req)

section Visits

variable {toks : LeaseTokens} {store store' : PollingStore} {id : String} {job : RuntimeJob}
  {readers : PollReaders} {limits : PollLimits} {clock : Nat → Int}
  {outcome : ProviderPollingJobOutcome}

variable {token : String}

theorem sentToken_of_leaseOwner {action : String}
    (h : providerPollJobLeaseOwner id job action = .ok token) : SentToken job token := by
  simp only [providerPollJobLeaseOwner, requiredProviderPollJobField, orFail_eq_ok,
    Option.filter_eq_some_iff, Option.map_eq_some_iff] at h
  obtain ⟨⟨owner, hown, rfl⟩, -⟩ := h
  exact ⟨owner, hown, rfl⟩

variable {event : PollEvent}

theorem deadLetter_call {reason lastError : String} {nowMs : Int}
    (hrsn : GivesUp readers limits id job event)
    (h : deadLetterProviderPollJob store id job reason lastError nowMs = .ok (store', outcome)) :
    ∃ call, VisitCall readers limits id job event call ∧
      store.jobs.perform toks call = .ok store'.jobs := by
  simp only [deadLetterProviderPollJob, createDeadLetterAndFailJob, ok_rules] at h
  obtain ⟨token, htok, _, ⟨jobs, hfail, rfl⟩, hres⟩ := h
  cases hres
  exact ⟨.fail _, .gaveUp rfl (sentToken_of_leaseOwner htok) rfl hrsn, hfail⟩

theorem requeue_call {next : ProviderPollingProgress} {failedAtMs nextRunAtMs : Int}
    (htok : SentToken job token) (hnext : Advances readers limits id job event next)
    (h : requeueProviderPollJob store id token next failedAtMs nextRunAtMs =
      .ok (store', outcome)) :
    ∃ call, VisitCall readers limits id job event call ∧
      store.jobs.perform toks call = .ok store'.jobs := by
  simp only [requeueProviderPollJob, ok_rules] at h
  obtain ⟨jobs, hfail, hres⟩ := h
  cases hres
  exact ⟨.fail _, .requeued rfl htok rfl rfl hnext, hfail⟩

variable {error : ToolErrorInfo}

/-- What an error makes of the progress. -/
theorem failureAction_cases {action : ProviderPollingFailureAction}
    (h : providerPollingFailureAction readers id job error = .ok action) :
    (∃ next, action = .retry next ∧ Advances readers limits id job (errorEvent error) next) ∨
      (∃ reason, action = .deadLetter reason) ∧
        GivesUp readers limits id job (errorEvent error) := by
  unfold providerPollingFailureAction at h
  by_cases hretryable : error.retryable = false
  · rw [if_pos hretryable] at h
    cases h
    exact .inr ⟨⟨_, rfl⟩, .inr (.inl (by simp [errorEvent, hretryable]))⟩
  · rw [if_neg hretryable, bind_eq_ok] at h
    rw [Bool.not_eq_false] at hretryable
    have hev : errorEvent error = .retryable := by simp [errorEvent, hretryable]
    obtain ⟨progress, hprogress, h⟩ := h
    simp only at h
    split at h
    · rename_i hmany
      cases h
      refine .inr ⟨⟨_, rfl⟩, .inr (.inr (.inr ⟨hev, ?_⟩))⟩
      intro other hoth
      rw [hprogress] at hoth
      cases hoth
      exact hmany
    · rename_i hfew
      cases h
      exact .inl ⟨_, rfl, progress, hprogress, .inr ⟨hev, rfl, rfl, not_le.mp hfew⟩⟩

theorem failure_call (h : handleProviderPollFailure store id job readers limits clock error =
      .ok (store', outcome)) :
    ∃ call, VisitCall readers limits id job (errorEvent error) call ∧
      store.jobs.perform toks call = .ok store'.jobs := by
  unfold handleProviderPollFailure at h
  cases haction : providerPollingFailureAction readers id job error with
  | error text =>
    -- the progress could not be read, so the error was a retryable one
    rw [haction] at h
    refine deadLetter_call (.inr (.inr (.inr ?_))) h
    unfold providerPollingFailureAction at haction
    by_cases hretryable : error.retryable = false
    · rw [if_pos hretryable] at haction
      cases haction
    · rw [if_neg hretryable] at haction
      rw [Bool.not_eq_false] at hretryable
      refine ⟨by simp [errorEvent, hretryable], ?_⟩
      intro progress hprogress
      rw [hprogress, ok_bind] at haction
      simp only at haction
      split at haction <;> cases haction
  | ok action =>
    rw [haction] at h
    rcases failureAction_cases haction with ⟨next, rfl, hnext⟩ | ⟨⟨reason, rfl⟩, hrsn⟩
    · simp only [bind_eq_ok] at h
      obtain ⟨token, htok, h⟩ := h
      exact requeue_call (sentToken_of_leaseOwner htok) hnext h
    · exact deadLetter_call hrsn h

theorem pending_call {spec : DynamicToolPollingSpec} (htok : SentToken job token)
    (h : handleProviderPollPending store id job readers limits clock token spec =
      .ok (store', outcome)) :
    ∃ call, VisitCall readers limits id job .pending call ∧
      store.jobs.perform toks call = .ok store'.jobs := by
  unfold handleProviderPollPending at h
  cases hprogress : providerPollingProgress readers id job with
  | error text =>
    simp only [providerPollingPendingProgress, hprogress, error_bind] at h
    exact deadLetter_call (.inr (.inr (.inl ⟨rfl, by simp [hprogress]⟩))) h
  | ok progress =>
    simp only [providerPollingPendingProgress, hprogress, ok_bind] at h
    change (if _ then _ else _) = _ at h
    split at h
    · rename_i hmany
      refine deadLetter_call (.inr (.inr (.inl ⟨rfl, ?_⟩))) h
      intro other hoth
      rw [hprogress] at hoth
      cases hoth
      exact hmany
    · rename_i hfew
      exact requeue_call htok ⟨progress, hprogress, .inl ⟨rfl, rfl, rfl, not_le.mp hfew⟩⟩ h

theorem visit_call (toks : LeaseTokens) {visit : PollVisit}
    (h : visitProviderPollJob store id job readers limits clock visit = .ok (store', outcome)) :
    ∃ call, VisitCall readers limits id job visit.event call ∧
      store.jobs.perform toks call = .ok store'.jobs := by
  cases visit with
  | failed error => exact failure_call h
  | stopped reason =>
    simp only [visitProviderPollJob, cancelProviderPollJob, ok_rules] at h
    obtain ⟨-, jobs, hcancel, hres⟩ := h
    cases hres
    exact ⟨.cancel _, .stopped rfl, hcancel⟩
  | ready report =>
    simp only [visitProviderPollJob, runProviderPollJob] at h
    cases hpay : parseProviderPollPayloadRef readers job.payloadRef with
    | error text =>
      rw [hpay] at h
      refine deadLetter_call (.inl ?_) h
      simp [PayloadValid, hpay, Except.isOk, Except.toBool]
    | ok payload =>
      simp only [hpay, bind_eq_ok] at h
      obtain ⟨token, htok, h⟩ := h
      cases report with
      | failed error => exact failure_call h
      | pending spec =>
        cases spec with
        | error text => cases h
        | ok spec => exact pending_call (sentToken_of_leaseOwner htok) h
      | finished object hasFacts accepted =>
        simp only [ok_rules, completeProviderPollJob] at h
        obtain ⟨refs, -, -, jobs, hcomplete, hres⟩ := h
        cases hres
        exact ⟨.complete _, .finished rfl, hcomplete⟩

end Visits

/-! ### One job -/

/-- What the progress of an open job says about its events. -/
structure Matches (limits : PollLimits) (events : List PollEvent)
    (progress : ProviderPollingProgress) : Prop where
  pending : progress.pendingAttempts = events.count .pending
  pending_lt : progress.pendingAttempts < max limits.maxRetries 1
  errors : List.replicate progress.consecutiveErrorAttempts .retryable <:+ events
  errors_lt : progress.consecutiveErrorAttempts < providerPollMaxConsecutiveErrorAttempts

def Ended (limits : PollLimits) (events : List PollEvent) (status : RuntimeJobStatus) : Prop :=
  (status = .deadLettered ∧ GivenUpRightly limits events) ∨
    (status ≠ .deadLettered ∧
      (events.getLast? = some .finished ∨ events.getLast? = some .stopped))

/-- What holds of a job whose lease was never taken back. -/
structure RowInv (readers : PollReaders) (limits : PollLimits) (id : String)
    (events : List PollEvent) (job : RuntimeJob) : Prop where
  payload : PayloadValid readers job.payloadRef
  reclaims : job.leaseReclaimCount = 0
  progress : job.status.isTerminal = false → ∃ progress,
    providerPollingProgress readers id job = .ok progress ∧ Matches limits events progress
  ended : job.status.isTerminal = true → Ended limits events job.status

section Job

variable {readers : PollReaders} {limits : PollLimits} {id : String} {events : List PollEvent}
  {job job' : RuntimeJob} {event : PollEvent} {progress next : ProviderPollingProgress}

theorem RowInv.law (h : RowInv readers limits id events job) :
    PollLaw readers limits id events job where
  given_up hdead := by
    rcases h.ended (by rw [hdead]; rfl) with ⟨-, hright⟩ | ⟨hoth, -⟩
    · exact hright
    · exact absurd hdead hoth
  requeued hlast hnot := by
    by_contra hterm
    rw [Bool.not_eq_false] at hterm
    rcases h.ended hterm with ⟨-, hright⟩ | ⟨-, hfinished | hstopped⟩
    · exact hnot hright
    · rw [hfinished] at hlast
      simp at hlast
    · rw [hstopped] at hlast
      simp at hlast
  counted hopen := by
    obtain ⟨progress, hread, hmatches⟩ := h.progress hopen
    exact ⟨progress, hread, hmatches.pending⟩

theorem providerPollingProgress_congr (h : job.lastError = job'.lastError) :
    providerPollingProgress readers id job = providerPollingProgress readers id job' := by
  rw [providerPollingProgress, h]
  rfl

theorem Matches.pending_succ_le (h : Matches limits events progress) :
    progress.pendingAttempts + 1 ≤ u32Limit := by
  have hlt := h.pending_lt
  have hfits := limits.fits
  have hone : 1 ≤ u32Limit := by decide
  omega

theorem Matches.errors_succ (h : Matches limits events progress) :
    satAdd32 progress.consecutiveErrorAttempts 1 = progress.consecutiveErrorAttempts + 1 := by
  have hlt := h.errors_lt
  have hlim : providerPollMaxConsecutiveErrorAttempts ≤ u32Limit := by decide
  exact satAdd32_of_le (by omega)

theorem replicate_succ_suffix {n : Nat} (h : List.replicate n PollEvent.retryable <:+ events) :
    List.replicate (n + 1) PollEvent.retryable <:+ events ++ [.retryable] := by
  obtain ⟨front, hfront⟩ := h
  refine ⟨front, ?_⟩
  rw [List.replicate_succ', ← List.append_assoc, hfront]

theorem Matches.advance (h : Matches limits events progress)
    (hread : providerPollingProgress readers id job = .ok progress)
    (hnext : Advances readers limits id job event next) :
    Matches limits (events ++ [event]) next ∧ next.Fits := by
  obtain ⟨read, hread', hcases⟩ := hnext
  rw [hread] at hread'
  cases hread'
  have hfits := limits.fits
  have hsmall : max 3 1 ≤ u32Limit := by decide
  rcases hcases with ⟨rfl, hpend, herrors, hlt⟩ | ⟨rfl, hpend, herrors, hlt⟩
  · rw [satAdd32_of_le h.pending_succ_le] at hpend
    refine ⟨⟨?_, hlt, ?_, ?_⟩, ?_⟩
    · rw [hpend, h.pending, List.count_append]
      rfl
    · rw [herrors]
      exact List.nil_suffix
    · rw [herrors]
      decide
    · constructor <;> omega
  · rw [h.errors_succ] at herrors
    have hpendingLt := h.pending_lt
    refine ⟨⟨?_, by rwa [hpend], ?_, hlt⟩, ?_⟩
    · rw [hpend, h.pending, List.count_append]
      rfl
    · rw [herrors]
      exact replicate_succ_suffix h.errors
    · simp only [providerPollMaxConsecutiveErrorAttempts] at hlt
      constructor <;> omega

theorem Matches.givenUp (h : Matches limits events progress)
    (hread : providerPollingProgress readers id job = .ok progress)
    (hpay : PayloadValid readers job.payloadRef)
    (hrsn : GivesUp readers limits id job event) :
    GivenUpRightly limits (events ++ [event]) := by
  rcases hrsn with hinvalid | rfl | ⟨rfl, hmany⟩ | ⟨rfl, hmany⟩
  · exact absurd hpay hinvalid
  · exact .inl (by simp)
  · refine .inr (.inr (.inl ?_))
    have := hmany progress hread
    rw [satAdd32_of_le h.pending_succ_le, h.pending] at this
    rw [List.count_append]
    exact this
  · -- two errors in a row were recorded before
    refine .inr (.inl ?_)
    have hthree := hmany progress hread
    rw [h.errors_succ] at hthree
    have hlt := h.errors_lt
    have htwo : progress.consecutiveErrorAttempts = 2 := by
      simp only [providerPollMaxConsecutiveErrorAttempts] at hthree hlt
      omega
    have hsuffix := (replicate_succ_suffix h.errors).filter (· ≠ .reclaimed)
    rw [htwo] at hsuffix
    exact hsuffix

/-- One visit keeps what holds of a job. -/
theorem RowInv.visited {snapshot : RuntimeJob} {call : JobCall}
    (h : RowInv readers limits id events job)
    (hcall : VisitCall readers limits id snapshot event call)
    (hkn : ∀ token, SentToken snapshot token → job.leaseOwner = some token →
      job.lastError = snapshot.lastError ∧ job.payloadRef = snapshot.payloadRef)
    (hchg : RowChange toks store id call job job') :
    RowInv readers limits id (events ++ [event]) job' := by
  obtain ⟨progress, hread, hmatches⟩ := h.progress hchg.status.2
  cases hcall with
  | @requeued _ next req hid htok hretry herror hnext =>
    cases hchg with
    | @failed _ _ status runAtMs _ htgt hls =>
      obtain ⟨hsame, -⟩ := hkn _ htok (holdsLease_iff.mp hls).2.1
      rw [providerPollingProgress_congr hsame] at hread
      obtain ⟨hadvanced, hfits⟩ := hmatches.advance hread hnext
      obtain ⟨-, rfl⟩ | ⟨hoth, -⟩ := failureTarget_cases htgt
      · refine ⟨h.payload, h.reclaims, fun _ => ⟨next, ?_, hadvanced⟩, by rintro ⟨⟩⟩
        simp only [providerPollingProgress, herror, encodeProviderPollingProgress,
          strippedOf?_append, readers.progress_written next hfits]
      · exact absurd hretry hoth
  | @gaveUp _ req hid htok hdead hrsn =>
    cases hchg with
    | @failed _ _ status runAtMs _ htgt hls =>
      obtain ⟨hsame, hpay⟩ := hkn _ htok (holdsLease_iff.mp hls).2.1
      rw [providerPollingProgress_congr hsame] at hread
      have hright := hmatches.givenUp hread (hpay ▸ h.payload) hrsn
      have hstat : status = .deadLettered := by
        simp only [failureTarget, hdead, pure_eq_ok, Prod.mk.injEq] at htgt
        exact htgt.1.symm
      subst hstat
      exact ⟨h.payload, h.reclaims, by rintro ⟨⟩, fun _ => .inl ⟨rfl, hright⟩⟩
  | finished hid =>
    cases hchg with
    | completed =>
      exact ⟨h.payload, h.reclaims, by rintro ⟨⟩, fun _ => .inr ⟨by rintro ⟨⟩, .inl (by simp)⟩⟩
  | stopped hid =>
    cases hchg with
    | cancelled =>
      exact ⟨h.payload, h.reclaims, by rintro ⟨⟩, fun _ => .inr ⟨by rintro ⟨⟩, .inr (by simp)⟩⟩

end Job

end Centaeris
