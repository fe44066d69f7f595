import Centaeris.Jobs.PollingVisits

namespace Centaeris

open Foundation JobStore List Outcome PollWorld

/-!
# Polling over whole runs
-/

/-! ### One step -/

/-- What holds of every world: the jobs are sound, and workers know what they hold. -/
structure WorldSound (toks : PollTokens) (world : PollWorld) : Prop where
  jobs : JobsSound toks.toLeaseTokens world.store.jobs
  held : ∀ entry ∈ world.held, SameClaim toks.toLeaseTokens world.store.jobs entry

/-- What holds of one job of a world as long as its lease was never taken back. -/
def PollInv (readers : PollReaders) (limits : String → PollLimits) (id : String)
    (events : List PollEvent) : Option RuntimeJob → Prop
  | none => events = []
  | some job => RowInv readers (limits id) id events job

section Steps

variable {toks : PollTokens} {readers : PollReaders} {limits : String → PollLimits}
  {world : PollWorld} {id : String}

theorem worldSound_empty (toks : PollTokens) : WorldSound toks .empty where
  jobs := jobsSound_empty toks.toLeaseTokens
  held _ hent := absurd hent not_mem_nil

variable {world' : PollWorld}

theorem WorldSound.call (h : WorldSound toks world) (call : JobCall)
    (hjobs : world'.store.jobs = world.store.jobs.step toks.toLeaseTokens call)
    (hheld : world'.held = world.held) : WorldSound toks world' := by
  constructor
  · rw [hjobs]
    exact h.jobs.step call
  · intro entry hent
    rw [hheld] at hent
    rw [hjobs]
    exact (h.held entry hent).step call

theorem WorldSound.step (h : WorldSound toks world) (step : PollStep) :
    WorldSound toks (world.step toks readers limits step) := by
  cases step with
  | schedule job => exact h.call _ rfl rfl
  | claim req =>
    simp only [PollWorld.step]
    split
    · rename_i jobs claimed hclm
      have hstep : world.store.jobs.step toks.toLeaseTokens (.claim req) = jobs := by
        apply step_of_perform
        rw [JobStore.perform, hclm]
        rfl
      constructor
      · rw [← hstep]
        exact h.jobs.step _
      · intro entry hent
        rcases mem_append.mp hent with hnew | hold
        · -- what a claim returns stands in the store
          apply sameClaim_of_claimed (hstep ▸ h.jobs.step _)
          simp only [claimDueRuntimeJobs, Outcome.ok_rules, Prod.mk.injEq] at hclm
          obtain ⟨-, -, rfl, rfl⟩ := hclm
          exact (mem_filter.mp ((mem_insertionSort _).mp hnew)).1
        · rw [← hstep]
          exact (h.held entry hold).step _
    · exact h
  | visit entry visit clock =>
    simp only [PollWorld.step]
    split
    · split
      · rename_i store outcome hvisit
        obtain ⟨call, -, hperf⟩ := visit_call toks.toLeaseTokens hvisit
        exact h.call call (step_of_perform hperf).symm rfl
      · exact h
    · exact h
  | reclaim nowMs =>
    simp only [PollWorld.step]
    split
    · rename_i jobs hperf
      exact h.call (.reclaim nowMs) (step_of_perform hperf).symm rfl
    · exact h

/-- Events are only added. -/
theorem recorded_step (toks : PollTokens) (readers : PollReaders)
    (limits : String → PollLimits) (world : PollWorld) (step : PollStep) :
    world.recorded <+: (world.step toks readers limits step).recorded := by
  cases step with
  | schedule job => exact prefix_rfl
  | claim req =>
    rw [PollWorld.step]
    split <;> exact prefix_rfl
  | visit entry visit clock =>
    rw [PollWorld.step]
    split
    · split
      · exact prefix_append _ _
      · exact prefix_rfl
    · exact prefix_rfl
  | reclaim nowMs =>
    rw [PollWorld.step]
    split
    · exact prefix_append _ _
    · exact prefix_rfl

theorem events_of_recorded {more : List (String × PollEvent)}
    (h : world'.recorded = world.recorded ++ more) :
    world'.events id = world.events id ++ (more.filter (·.1 == id)).map (·.2) := by
  rw [PollWorld.events, h, filter_append, map_append]
  rfl

/-- A new job has no progress and no events. -/
theorem RowInv.scheduled {job : QueuedJob} (herror : job.lastError = none)
    (hpay : PayloadValid readers job.payloadRef) :
    RowInv readers (limits id) id [] job.row where
  payload := hpay
  reclaims := rfl
  progress _ := by
    refine ⟨.default, ?_, ⟨rfl, ?_, nil_suffix, by decide⟩⟩
    · have hrow : job.row.lastError = none := herror
      rw [providerPollingProgress, hrow]
    · show 0 < max _ 1
      omega
  ended := by rintro ⟨⟩

variable {job : RuntimeJob} {store : JobStore}

/-- A claim changes neither the progress nor whether the job is open. -/
theorem RowInv.claimed {events : List PollEvent} {job' : RuntimeJob}
    {req : ClaimDueRuntimeJobsRequest} (h : RowInv readers (limits id) id events job)
    (hchg : RowChange toks.toLeaseTokens store id (.claim req) job job') :
    RowInv readers (limits id) id events job' := by
  obtain ⟨progress, hread, hmatches⟩ := h.progress hchg.status.2
  cases hchg with
  | claimed => exact ⟨h.payload, h.reclaims, fun _ => ⟨progress, hread, hmatches⟩, nofun⟩

variable {store' : JobStore} {limit : PollLimits} {snapshot : RuntimeJob} {event : PollEvent}
  {call : JobCall}

theorem VisitCall.other {jobId : String} (h : VisitCall readers limit jobId snapshot event call)
    (hne : jobId ≠ id) (hrow : RowStep toks.toLeaseTokens store store' id call) :
    store'.jobs[id]? = store.jobs[id]? := by
  cases hrow with
  | same hsame _ => exact hsame
  | scheduled hcall _ _ _ _ =>
    subst hcall
    cases h
  | changed _ _ hchg _ =>
    cases h with
    | requeued hid | gaveUp hid =>
      cases hchg with
      | failed hid' _ _ => exact absurd (hid.symm.trans hid') hne
    | finished hid =>
      cases hchg with
      | completed hid' _ => exact absurd (hid.symm.trans hid') hne
    | stopped hid =>
      cases hchg with
      | cancelled hid' _ => exact absurd (hid.symm.trans hid') hne

theorem VisitCall.changes {toks : LeaseTokens}
    (h : VisitCall readers limit id snapshot event call)
    (hperf : store.perform toks call = .ok store') :
    ∃ job job', store.jobs[id]? = some job ∧ store'.jobs[id]? = some job' ∧
      RowChange toks store id call job job' := by
  have hself : ∀ row, (store.jobs.insert id row)[id]? = some row := by
    intro row
    rw [Table.getElem?_insert, if_pos rfl]
  have hfail : ∀ req : FailRuntimeJobRequest, req.jobId = id →
      store.perform toks (.fail req) = .ok store' → ∃ job job', store.jobs[id]? = some job ∧
        store'.jobs[id]? = some job' ∧ RowChange toks store id (.fail req) job job' := by
    intro req hid hperf
    simp only [perform, failRuntimeJob, ok_rules, Prod.exists] at hperf
    obtain ⟨status, runAtMs, htgt, mid, hupdate, rfl⟩ := hperf
    obtain ⟨job, hjob, hls, rfl⟩ := updateJob_eq_ok hupdate
    subst hid
    refine ⟨job, _, hjob, ?_, .failed rfl htgt hls⟩
    split <;> exact hself _
  cases h with
  | requeued hid | gaveUp hid => exact hfail _ hid hperf
  | finished hid =>
    simp only [perform, completeRuntimeJob, ok_rules] at hperf
    obtain ⟨mid, hupdate, rfl⟩ := hperf
    obtain ⟨job, hjob, hls, rfl⟩ := updateJob_eq_ok hupdate
    subst hid
    exact ⟨job, _, hjob, hself _, .completed rfl hls⟩
  | stopped hid =>
    simp only [perform, cancelRuntimeJob, ok_rules] at hperf
    obtain ⟨mid, hupdate, rfl⟩ := hperf
    obtain ⟨job, hjob, hcond, rfl⟩ := updateJob_eq_ok hupdate
    rw [Bool.and_eq_true, Bool.and_eq_true, Bool.not_eq_true'] at hcond
    subst hid
    exact ⟨job, _, hjob, hself _, .cancelled rfl hcond.1.1⟩

variable {entry : String × RuntimeJob}

theorem SameClaim.known (h : SameClaim toks.toLeaseTokens store entry)
    (hjob : store.jobs[entry.1]? = some job) (token : String) (hsent : SentToken entry.2 token)
    (hown : job.leaseOwner = some token) :
    job.lastError = entry.2.lastError ∧ job.payloadRef = entry.2.payloadRef := by
  obtain ⟨owner, hheld, rfl⟩ := hsent
  obtain ⟨k, -, worker, rfl, hrow⟩ := h owner hheld
  obtain ⟨worker', htrim⟩ := toks.trims worker k
  rw [htrim] at hown
  exact hrow job worker' hjob hown

/-- **One visit.** -/
theorem pollInv_visit {store : PollingStore} {visit : PollVisit} {clock : Nat → Int}
    {outcome : ProviderPollingJobOutcome} (hsnd : WorldSound toks world)
    (h : PollInv readers limits id (world.events id) world.store.jobs.jobs[id]?)
    (hheld : entry ∈ world.held)
    (hvisit : visitProviderPollJob world.store entry.1 entry.2 readers (limits entry.1) clock
      visit = .ok (store, outcome)) :
    PollInv readers limits id
      (events { world with
        store, recorded := world.recorded ++ [(entry.1, visit.event)] } id)
      store.jobs.jobs[id]? := by
  obtain ⟨call, hcall, hperf⟩ := visit_call toks.toLeaseTokens hvisit
  rw [events_of_recorded rfl]
  by_cases hid : entry.1 = id
  · subst hid
    have hevs : ([(entry.1, visit.event)].filter (·.1 == entry.1)).map (·.2) =
        [visit.event] := by simp
    obtain ⟨job, job', hold, hnew, hchg⟩ := hcall.changes hperf
    rw [hold] at h
    rw [hevs, hnew]
    exact h.visited hcall ((hsnd.held entry hheld).known hold) hchg
  · have hevs : ([(entry.1, visit.event)].filter (·.1 == id)).map (·.2) = [] := by
      simp [hid]
    rw [hevs, append_nil, hcall.other hid (perform_row hperf id)]
    exact h

variable {nowMs : Int}

theorem reclaim_unlisted (h : store.perform toks.toLeaseTokens (.reclaim nowMs) = .ok store')
    (hunlisted : id ∉ (expiredJobs nowMs store).map (·.1)) :
    store'.jobs[id]? = store.jobs[id]? := by
  simp only [perform, reclaimExpiredRuntimeJobLeases, map_eq_pure_bind, ok_rules, Prod.exists] at h
  obtain ⟨_, _, ⟨final, hloop, hres⟩, rfl⟩ := h
  cases hres
  exact (reclaimJobs_of_not_mem hunlisted hloop).1

theorem mem_reclaimed_iff :
    PollEvent.reclaimed ∈ ((((expiredJobs nowMs store).map fun entry =>
        (entry.1, PollEvent.reclaimed)).filter (·.1 == id)).map (·.2)) ↔
      id ∈ (expiredJobs nowMs store).map (·.1) := by
  simp

theorem reclaimed_eq_nil (h : id ∉ (expiredJobs nowMs store).map (·.1)) :
    (((expiredJobs nowMs store).map fun entry => (entry.1, PollEvent.reclaimed)).filter
      (·.1 == id)).map (·.2) = [] := by
  rw [map_eq_nil_iff, filter_eq_nil_iff]
  intro event hev hid
  obtain ⟨entry, hent, rfl⟩ := mem_map.mp hev
  exact h (mem_map.mpr ⟨entry, hent, beq_iff_eq.mp hid⟩)

/-- One step keeps the law for a job, unless it takes its lease back. -/
theorem pollInv_step (hsnd : WorldSound toks world)
    (h : PollInv readers limits id (world.events id) world.store.jobs.jobs[id]?) (step : PollStep)
    (hval : ∀ job, step = .schedule job → job.jobId = id → PayloadValid readers job.payloadRef)
    (hnever : .reclaimed ∉ (world.step toks readers limits step).events id) :
    PollInv readers limits id ((world.step toks readers limits step).events id)
      (world.step toks readers limits step).store.jobs.jobs[id]? := by
  cases step with
  | schedule job =>
    have hrow := step_row toks.toLeaseTokens world.store.jobs
      (.schedule { job with lastError := none }) id
    show PollInv readers limits id (world.events id)
      (world.store.jobs.step toks.toLeaseTokens _).jobs[id]?
    cases hrow with
    | same hsame _ =>
      rw [hsame]
      exact h
    | scheduled hcall hid hnone hnew _ =>
      cases hcall
      rw [hnone] at h
      have hemp : world.events id = [] := h
      rw [hnew, hemp]
      exact RowInv.scheduled rfl (hval job rfl hid)
    | changed _ _ hchg _ => cases hchg
  | claim req =>
    simp only [PollWorld.step]
    split
    · rename_i jobs claimed hclm
      have hperf : world.store.jobs.perform toks.toLeaseTokens (.claim req) = .ok jobs := by
        rw [JobStore.perform, hclm]
        rfl
      show PollInv readers limits id (world.events id) jobs.jobs[id]?
      cases perform_row hperf id with
      | same hsame _ =>
        rw [hsame]
        exact h
      | scheduled hcall _ _ _ _ => cases hcall
      | changed hold hnew hchg _ =>
        rw [hold] at h
        rw [hnew]
        exact RowInv.claimed h hchg
    · exact h
  | visit entry visit clock =>
    simp only [PollWorld.step]
    split
    · rename_i hheld
      split
      · rename_i hvisit
        exact pollInv_visit hsnd h hheld hvisit
      · exact h
    · exact h
  | reclaim nowMs =>
    simp only [PollWorld.step] at hnever ⊢
    split
    · rename_i jobs hperf
      rw [hperf] at hnever
      simp only at hnever
      rw [events_of_recorded rfl, mem_append, not_or, mem_reclaimed_iff] at hnever
      rw [events_of_recorded rfl, reclaimed_eq_nil hnever.2, append_nil]
      show PollInv readers limits id (world.events id) jobs.jobs[id]?
      rw [reclaim_unlisted hperf hnever.2]
      exact h
    · exact h

end Steps

/-! ### A lease that is taken back -/

theorem decide_first {id : String} {status : RuntimeJobStatus} {nowMs : Int}
    {decision : RuntimeJobLeaseReclaimDecision}
    (h : RuntimeJobLeaseReclaimPolicy.default.decide id 0 status nowMs = .ok decision) :
    decision.status = .queued ∧
      strippedOf? providerPollProgressLeading decision.reason = none := by
  simp only [RuntimeJobLeaseReclaimPolicy.decide, ok_rules] at h
  obtain ⟨-, -, -, rfl⟩ := h
  refine ⟨rfl, ?_⟩
  show strippedOf? providerPollProgressLeading (if status = .running then _ else _) = none
  split <;> decide +kernel

section Runs

variable {toks : PollTokens} {readers : PollReaders} {limits : String → PollLimits}
  {world : PollWorld} {id : String}

/-- A reclaim that lists a job leaves its progress unreadable. -/
theorem not_lawful_of_reclaimed {nowMs : Int}
    (h : PollInv readers limits id (world.events id) world.store.jobs.jobs[id]?) {jobs : JobStore}
    (hperf : world.store.jobs.perform toks.toLeaseTokens (.reclaim nowMs) = .ok jobs)
    (hlist : id ∈ (expiredJobs nowMs world.store.jobs).map (·.1)) {world' : PollWorld}
    (hjobs : world'.store.jobs = jobs) : ¬ world'.Lawful readers limits id := by
  intro hlawful
  simp only [perform, reclaimExpiredRuntimeJobLeases, map_eq_pure_bind, ok_rules, Prod.exists]
    at hperf
  obtain ⟨_, _, ⟨final, hloop, hres⟩, rfl⟩ := hperf
  cases hres
  obtain ⟨⟨_, job⟩, hm, rfl⟩ := mem_map.mp hlist
  obtain ⟨hjob, -⟩ := mem_expiredJobs hm
  obtain ⟨decision, hdecide, hnew, -⟩ :=
    reclaimJobs_of_mem (nodup_expiredJobs nowMs world.store.jobs) hm hloop
  rw [hjob] at h
  have hrow : RowInv readers _ _ _ job := h
  rw [hrow.reclaims] at hdecide
  obtain ⟨hqueued, hrsn⟩ := decide_first hdecide
  rw [← hjobs] at hnew
  have hopen : (reclaimedRow nowMs decision job).status.isTerminal = false := by
    rw [reclaimedRow, hqueued]
    rfl
  obtain ⟨progress, hread, -⟩ := (hlawful _ hnew).counted hopen
  rw [providerPollingProgress] at hread
  simp only [reclaimedRow, hrsn] at hread
  cases hread

theorem PollVisit.event_ne_reclaimed (visit : PollVisit) : visit.event ≠ .reclaimed := by
  have herror : ∀ error, errorEvent error ≠ .reclaimed := by
    intro error
    rw [errorEvent]
    split <;> rintro ⟨⟩
  rcases visit with (error | spec | ⟨object, hasFacts, accepted⟩) | error | reason
  · exact herror error
  · rintro ⟨⟩
  · rintro ⟨⟩
  · exact herror error
  · rintro ⟨⟩

/-- Only a reclaim does that, and it breaks the law at once. -/
theorem reclaimed_of_step {step : PollStep} (hnever : .reclaimed ∉ world.events id)
    (hm : .reclaimed ∈ (world.step toks readers limits step).events id) :
    ∃ nowMs jobs, world.store.jobs.perform toks.toLeaseTokens (.reclaim nowMs) = .ok jobs ∧
      id ∈ (expiredJobs nowMs world.store.jobs).map (·.1) ∧
      (world.step toks readers limits step).store.jobs = jobs := by
  cases step with
  | schedule job => exact absurd hm hnever
  | claim req =>
    rw [PollWorld.step] at hm
    split at hm <;> exact absurd hm hnever
  | visit entry visit clock =>
    rw [PollWorld.step] at hm
    split at hm
    · split at hm
      · rw [events_of_recorded rfl, mem_append, mem_map] at hm
        rcases hm with hm | ⟨event, hev, heq⟩
        · exact absurd hm hnever
        · rw [mem_singleton.mp (mem_filter.mp hev).1] at heq
          exact absurd heq visit.event_ne_reclaimed
      · exact absurd hm hnever
    · exact absurd hm hnever
  | reclaim nowMs =>
    rw [PollWorld.step] at hm ⊢
    split at hm
    · rename_i jobs hperf
      rw [events_of_recorded rfl, mem_append, mem_reclaimed_iff] at hm
      exact ⟨nowMs, jobs, hperf, hm.resolve_left hnever, rfl⟩
    · exact absurd hm hnever

theorem pollWorld_concat (steps : List PollStep) (step : PollStep) :
    PollWorld.after toks readers limits (steps ++ [step]) =
      (PollWorld.after toks readers limits steps).step toks readers limits step := by
  rw [PollWorld.after, foldl_append]
  rfl

theorem worldSound_after (steps : List PollStep) :
    WorldSound toks (after toks readers limits steps) := by
  induction steps using List.reverseRecOn with
  | nil => exact worldSound_empty toks
  | append_singleton steps step ih =>
    rw [pollWorld_concat]
    exact ih.step step

theorem events_after_append (steps more : List PollStep) (id : String) :
    (after toks readers limits steps).events id <+:
      (after toks readers limits (steps ++ more)).events id := by
  induction more using List.reverseRecOn with
  | nil =>
    rw [append_nil]
  | append_singleton more step ih =>
    rw [← append_assoc, pollWorld_concat]
    exact ih.trans (((recorded_step toks readers limits _ step).filter _).map _)

/-- **All steps.** -/
theorem pollInv_after (steps : List PollStep)
    (hval : ∀ job, PollStep.schedule job ∈ steps → job.jobId = id →
      PayloadValid readers job.payloadRef)
    (hnever : .reclaimed ∉ (after toks readers limits steps).events id) :
    PollInv readers limits id ((after toks readers limits steps).events id)
      (after toks readers limits steps).store.jobs.jobs[id]? := by
  induction steps using List.reverseRecOn with
  | nil =>
    have hnone : empty.store.jobs.jobs[id]? = none := Table.getElem?_empty id
    show PollInv readers limits id [] empty.store.jobs.jobs[id]?
    rw [hnone]
    rfl
  | append_singleton steps step ih =>
    have hpre : .reclaimed ∉ (after toks readers limits steps).events id :=
      fun hm => hnever ((events_after_append steps [step] id).subset hm)
    have hfst := ih (fun job hjob => hval job (mem_append_left _ hjob)) hpre
    rw [pollWorld_concat] at hnever ⊢
    refine pollInv_step (worldSound_after steps) hfst step ?_ hnever
    rintro job rfl
    exact hval job (mem_append_right _ mem_cons_self)

theorem PollInv.lawful
    (h : PollInv readers limits id (world.events id) world.store.jobs.jobs[id]?) :
    world.Lawful readers limits id := by
  intro job hjob
  rw [hjob] at h
  exact RowInv.law h

/-- **The law of polling.** For every run and every job whose payload is valid, the law holds in
    every state of the run exactly if no lease of the job was taken back. -/
theorem polling_law_iff_never_reclaimed (toks : PollTokens) (readers : PollReaders)
    (limits : String → PollLimits) (steps : List PollStep) (id : String)
    (hval : ∀ job, PollStep.schedule job ∈ steps → job.jobId = id →
      PayloadValid readers job.payloadRef) :
    (∀ front, front <+: steps →
        (PollWorld.after toks readers limits front).Lawful readers limits id) ↔
      .reclaimed ∉ (PollWorld.after toks readers limits steps).events id := by
  constructor
  · induction steps using List.reverseRecOn with
    | nil => exact fun _ hm => absurd hm not_mem_nil
    | append_singleton steps step ih =>
      intro hlawful hm
      have hval' := fun job hjob => hval job (mem_append_left [step] hjob)
      have hnever := ih hval' fun front hfront =>
        hlawful front (hfront.trans (prefix_append _ _))
      have hend := hlawful _ prefix_rfl
      rw [pollWorld_concat] at hm hend
      obtain ⟨nowMs, jobs, hperf, hlist, hjobs⟩ := reclaimed_of_step hnever hm
      exact not_lawful_of_reclaimed (pollInv_after steps hval' hnever) hperf hlist hjobs hend
  · rintro hnever front ⟨back, rfl⟩
    apply PollInv.lawful
    apply pollInv_after front
    · exact fun job hjob => hval job (mem_append_left _ hjob)
    · exact fun hm => hnever ((events_after_append front back id).subset hm)

end Runs

/-! ### A run with a lost worker -/

instance (limits : PollLimits) (events : List PollEvent) :
    Decidable (GivenUpRightly limits events) :=
  inferInstanceAs (Decidable (_ ∨ _ ∨ _ ∨ _))

/-- The random part of a counting token has no blanks. -/
def countingPollTokens : PollTokens where
  toLeaseTokens := countingTokens
  trims worker k := by
    refine ⟨String.ofList (worker.toList.dropWhile isSpace), ?_⟩
    have hcolon : isSpace ':' = false := by decide
    have ha : isSpace 'a' = false := by decide
    have hlead : (worker.toList ++ ':' :: List.replicate k 'a').dropWhile isSpace =
        worker.toList.dropWhile isSpace ++ ':' :: List.replicate k 'a' := by
      rw [List.dropWhile_append]
      split
      · rename_i hemp
        rw [List.isEmpty_iff.mp hemp, List.dropWhile_cons_of_neg (by simp [hcolon])]
        rfl
      · rfl
    have htail : ∀ front : List Char, (List.replicate k 'a' ++ ':' :: front).dropWhile isSpace =
        List.replicate k 'a' ++ ':' :: front := by
      intro front
      cases k with
      | zero => simp [hcolon]
      | succ k => simp [List.replicate_succ, ha]
    simp [trim, leaseToken, countingTokens, hlead, htail, String.append_assoc]

/-- Readers of the texts that are written. -/
def compactReaders : PollReaders where
  payload text :=
    match Json.read? text with
    | some (.object [("providerId", .string providerId), ("toolName", .string toolName),
        ("pollKey", .string pollKey), ("pollArgs", pollArgs), ("sourceAgentRunId", .string run),
        ("sourceTurnId", .string turn), ("sourceToolCallId", .string call),
        ("leaseMs", .number (.posInt leaseMs))]) =>
      .ok ⟨providerId, toolName, pollKey, pollArgs, run, turn, call, leaseMs⟩
    | _ => .error "invalid payload"
  progress text :=
    match Json.read? text with
    | some (.object [("pendingAttempts", .number (.posInt pending)),
        ("consecutiveErrorAttempts", .number (.posInt errors)),
        ("lastTransition", .string transition)]) => .ok ⟨pending, errors, transition⟩
    | _ => .error "invalid progress"
  progress_written p _ := by
    have hread : Json.read? p.toJson.render = some p.toJson := Json.read?_render rfl
    rw [hread]
    rfl

namespace LostWorker

def job : QueuedJob :=
  ⟨"job", "provider.poll", "key", some "session",
    some ("provider-polling-json:\x7b\"providerId\":\"p\",\"toolName\":\"t\",\"pollKey\":\"k\"," ++
      "\"pollArgs\":null,\"sourceAgentRunId\":\"r\",\"sourceTurnId\":\"u\"," ++
      "\"sourceToolCallId\":\"c\",\"leaseMs\":1\x7d"), 0, 0, [], none, 0, 0, none⟩

def limits : String → PollLimits := fun _ => ⟨10, .whole 2000 60000 2 250, by decide⟩

/-- A claim of all jobs that are due. -/
def claimAt (nowMs : Int) : PollStep := .claim ⟨nowMs, "worker", none, none, none, 1, 1000⟩

def afterSteps (steps : List PollStep) : PollWorld :=
  PollWorld.after countingPollTokens compactReaders limits steps

/-- The last job that was claimed is still pending. -/
def pendingAt (steps : List PollStep) (nowMs : Int) : PollStep :=
  .visit ((afterSteps steps).held.headD ("", job.row))
    (.ready (.pending (.ok ⟨"k", none⟩))) fun _ => nowMs

/-- A visit finds the answer pending. -/
def pendingOnce : List PollStep :=
  [.schedule job, claimAt 0, pendingAt [.schedule job, claimAt 0] 1]

/-- The worker is lost, and the lease is taken back. -/
def lost : List PollStep := [.schedule job, claimAt 0, .reclaim 1000, claimAt 10000]

end LostWorker

/-- Without a lost worker the law holds: after one pending answer. -/
theorem polling_law_pending_once :
    (LostWorker.afterSteps LostWorker.pendingOnce).events "job" = [.pending] ∧
    ∀ front, front <+: LostWorker.pendingOnce →
      (LostWorker.afterSteps front).Lawful compactReaders LostWorker.limits "job" := by
  have hevs : (LostWorker.afterSteps LostWorker.pendingOnce).events "job" = [.pending] := by
    decide +kernel
  refine ⟨hevs, (polling_law_iff_never_reclaimed countingPollTokens compactReaders
    LostWorker.limits LostWorker.pendingOnce "job" ?_).mpr ?_⟩
  · intro job hjob _
    simp only [LostWorker.pendingOnce, LostWorker.claimAt, LostWorker.pendingAt, mem_cons,
      PollStep.schedule.injEq, reduceCtorEq, not_mem_nil, or_false] at hjob
    subst hjob
    show Except.isOk _ = true
    decide +kernel
  · show _ ∉ (LostWorker.afterSteps LostWorker.pendingOnce).events "job"
    rw [hevs]
    decide

/-- **A lost worker.** A job that may be pending ten times loses its worker once; the next
    answer is pending, and the job is given up. -/
theorem reclaimed_lease_gives_up :
    let world := LostWorker.afterSteps
      (LostWorker.lost ++ [LostWorker.pendingAt LostWorker.lost 10001])
    (LostWorker.limits "job").maxRetries = 10 ∧
    world.events "job" = [.reclaimed, .pending] ∧
    ¬ GivenUpRightly (LostWorker.limits "job") [.reclaimed, .pending] ∧
    (world.store.jobs.jobs["job"]?).map (·.status) = some .deadLettered ∧
    (world.store.deadLetters["job"]?).map (·.failureReason) =
      some "provider_poll_progress_invalid" := by
  decide +kernel

end Centaeris
