import Centaeris.Jobs.Fencing

namespace Centaeris

open Foundation JobStore List Outcome

/-!
# Wakes are not lost

A job that another one waits for wakes it: an event is recorded, and a queued job becomes due
earlier.  A worker that holds the job does not see the wake; the yield with which it gives the
job back looks for wakes that no yield has marked yet, and marks them.  The marks are events
whose ids are computed from those of the wakes, once by the query and once by the program.
-/

/-! ### Event ids -/

theorem consumedEventId_append (rest : String) :
    consumedEventId (wakeLeading ++ rest) = consumedLeading ++ rest := by
  have hdrop : (wakeLeading ++ rest).toList.drop wakeLeading.length = rest.toList := by
    rw [String.toList_append]
    exact drop_left
  rw [consumedEventId, hdrop, String.ofList_toList]

/-- The program and the query agree on the mark of a wake. -/
theorem writtenEventId_append (rest : String) :
    writtenEventId (wakeLeading ++ rest) = consumedLeading ++ rest := by
  have hfst : replaceFirst wakeLeading.toList consumedLeading.toList
      (wakeLeading.toList ++ rest.toList) = consumedLeading.toList ++ rest.toList := by
    show replaceFirst wakeLeading.toList consumedLeading.toList
      ('r' :: ("untime_job_wake:".toList ++ rest.toList)) = _
    rw [replaceFirst, if_pos]
    · rfl
    · rfl
  rw [writtenEventId, String.toList_append, hfst, ← String.toList_append, String.ofList_toList]

theorem consumedEventId_wake (req : WakeRuntimeJobRequest) :
    consumedEventId (wakeEventId req) = consumedLeading ++ (req.jobId ++ ":" ++ req.sourceJobId) :=
  consumedEventId_append _

/-! ### What a call does to an event -/

/-- What a call does to one event. -/
inductive EventStep (store store' : JobStore) (eventId : String) : JobCall → Prop
  | same {call : JobCall} (hev : store'.events[eventId]? = store.events[eventId]?) :
      EventStep store store' eventId call
  | woken {req : WakeRuntimeJobRequest} {event : JobEvent} (hid : eventId = wakeEventId req)
      (hnew : store.events[eventId]? = none) (hev : store'.events[eventId]? = some event)
      (hty : event.eventType = .wakeRequested) (htask : event.taskId = req.jobId) :
      EventStep store store' eventId (.wake req)
  | yielded {req : YieldRuntimeJobRequest} {event : JobEvent} (hid : eventId = yieldEventId req)
      (hnew : store.events[eventId]? = none) (hev : store'.events[eventId]? = some event)
      (hty : event.eventType = .yielded) :
      EventStep store store' eventId (.yield req)
  | consumed {req : YieldRuntimeJobRequest} {event : JobEvent} {wakeId : String}
      (hpend : wakeId ∈ pendingWakeIds store req.jobId) (hid : eventId = writtenEventId wakeId)
      (hnew : store.events[eventId]? = none) (hev : store'.events[eventId]? = some event)
      (hty : event.eventType = .wakeConsumed)
      (hchanged : store'.jobs[req.jobId]? ≠ store.jobs[req.jobId]?) :
      EventStep store store' eventId (.yield req)
  | reclaimed {nowMs : Int} {event : JobEvent} {jobId : String} {count : Nat}
      (hid : eventId = reclaimEventId jobId count) (hnew : store.events[eventId]? = none)
      (hev : store'.events[eventId]? = some event) (hty : event.eventType = .leaseReclaimed) :
      EventStep store store' eventId (.reclaim nowMs)

section Events

variable {toks : LeaseTokens} {store store' : JobStore} {eventId : String}

variable {req : YieldRuntimeJobRequest}

/-- The marks that a yield writes. -/
theorem consumeWakes_events {sessionId : String} {pending : List String}
    (h : pending.foldlM (consumeWake req sessionId) store = .ok store') (eventId : String) :
    (eventId ∉ pending.map writtenEventId ∧ store'.events[eventId]? = store.events[eventId]?) ∨
      ∃ wakeId ∈ pending, eventId = writtenEventId wakeId ∧ store.events[eventId]? = none ∧
        store'.events[eventId]? = some ⟨sessionId, req.jobId, .wakeConsumed, req.yieldedAtMs,
          consumedPayload req wakeId⟩ := by
  induction pending generalizing store with
  | nil =>
    rw [foldlM_nil, pure_eq_ok] at h
    rw [h]
    exact .inl ⟨not_mem_nil, rfl⟩
  | cons wakeId pending ih =>
    rw [foldlM_cons, bind_eq_ok] at h
    obtain ⟨mid, hmark, hrest⟩ := h
    obtain ⟨hnew, rfl⟩ := insertEvent_eq_ok hmark
    rcases ih hrest with ⟨hoth, hsame⟩ | ⟨later, hlat, hid, hnone, hev⟩
    · rw [Table.getElem?_insert] at hsame
      by_cases hid : writtenEventId wakeId = eventId
      · rw [if_pos hid] at hsame
        rw [hid] at hnew
        exact .inr ⟨wakeId, mem_cons_self, hid.symm, hnew, hsame⟩
      · rw [if_neg hid] at hsame
        refine .inl ⟨?_, hsame⟩
        rw [map_cons, mem_cons, not_or]
        exact ⟨Ne.symm hid, hoth⟩
    · rw [Table.getElem?_insert] at hnone
      split at hnone
      · cases hnone
      · exact .inr ⟨later, mem_cons_of_mem _ hlat, hid, hnone, hev⟩

variable {nowMs : Int}

theorem reclaimJob_event {entry : String × RuntimeJob}
    (h : reclaimJob nowMs store entry = .ok store') :
    ∃ (count : Nat) (event : JobEvent), event.eventType = .leaseReclaimed ∧
      store.events[reclaimEventId entry.1 count]? = none ∧
      store'.events = store.events.insert (reclaimEventId entry.1 count) event := by
  simp only [reclaimJob, ok_rules] at h
  obtain ⟨decision, -, mid, hinsert, rfl⟩ := h
  obtain ⟨hnew, rfl⟩ := insertEvent_eq_ok hinsert
  refine ⟨decision.reclaimCount, ⟨eventSession entry.1 entry.2.sessionId, entry.1, .leaseReclaimed,
    nowMs, reclaimPayload .default entry.1 entry.2 decision⟩, rfl, hnew, ?_⟩
  split <;> rfl

theorem reclaimJobs_events {entries : List (String × RuntimeJob)}
    (h : entries.foldlM (reclaimJob nowMs) store = .ok store') (eventId : String) :
    EventStep store store' eventId (.reclaim nowMs) := by
  refine foldlM_invariant (fun state => EventStep store state eventId (.reclaim nowMs)) ?_
    (.same rfl) h
  intro state state' entry _ hpre hstep
  obtain ⟨count, event, hty, hnew, hevs⟩ := reclaimJob_event hstep
  have hlookup : state'.events[eventId]? =
      if reclaimEventId entry.1 count = eventId then some event else state.events[eventId]? := by
    rw [hevs, Table.getElem?_insert]
  by_cases hid : reclaimEventId entry.1 count = eventId
  · -- the event is new here, so it was not there when the loop began
    have hnone : store.events[eventId]? = none := by
      rw [hid] at hnew
      cases hpre with
      | same hev => rw [← hev]; exact hnew
      | reclaimed _ hnone _ _ => exact hnone
    rw [if_pos hid] at hlookup
    exact .reclaimed hid.symm hnone hlookup hty
  · rw [if_neg hid] at hlookup
    cases hpre with
    | same hev => exact .same (hlookup.trans hev)
    | reclaimed hid' hnone hev hty' =>
      exact .reclaimed hid' hnone (hlookup.trans hev) hty'

theorem yield_event (h : yieldRuntimeJob store req = .ok store') (eventId : String) :
    EventStep store store' eventId (.yield req) := by
  rcases yieldRuntimeJob_cases h with
    rfl | ⟨job, hjob, hls, hjobs, -, -, mid, hmid, hnew, hconsume⟩
  · exact .same rfl
  have hlookup : mid.events[eventId]? = if yieldEventId req = eventId then
      some ⟨eventSession req.jobId job.sessionId, req.jobId, .yielded, req.yieldedAtMs,
        yieldPayload req⟩ else store.events[eventId]? := by
    rw [hmid, Table.getElem?_insert]
  have hchanged : store'.jobs[req.jobId]? ≠ store.jobs[req.jobId]? := by
    rw [hjobs, Table.getElem?_insert, if_pos rfl, hjob]
    intro hsame
    have hact := (holdsLease_iff.mp hls).1
    rw [← Option.some.inj hsame] at hact
    cases hact
  rcases consumeWakes_events hconsume eventId with
    ⟨-, hev⟩ | ⟨wakeId, hpend, hid, hnone, hev⟩
  · rw [hlookup] at hev
    by_cases hid : yieldEventId req = eventId
    · rw [if_pos hid] at hev
      rw [hid] at hnew
      exact .yielded hid.symm hnew hev rfl
    · rw [if_neg hid] at hev
      exact .same hev
  · rw [hlookup] at hnone
    split at hnone
    · cases hnone
    · exact .consumed hpend hid hnone hev rfl hchanged

/-- A wake adds events only as `recordWake` does. -/
theorem wake_events {req : WakeRuntimeJobRequest} {disposition : WakeRuntimeJobDisposition}
    (h : wakeRuntimeJob store req = .ok (store', disposition)) :
    ∃ sessionId mid, recordWake store req sessionId = .ok mid ∧ store'.events = mid.events := by
  obtain ⟨job, mid, -, hmid, hcases⟩ := wakeRuntimeJob_cases h
  refine ⟨job.sessionId, mid, hmid, ?_⟩
  rcases hcases with ⟨rfl, -⟩ | ⟨-, -, rfl⟩
  · rfl
  · rfl

theorem wake_event {req : WakeRuntimeJobRequest} {disposition : WakeRuntimeJobDisposition}
    (h : wakeRuntimeJob store req = .ok (store', disposition)) (eventId : String) :
    EventStep store store' eventId (.wake req) := by
  obtain ⟨sessionId, mid, hmid, hevs⟩ := wake_events h
  unfold recordWake at hmid
  split at hmid
  · simp only [ok_rules] at hmid
    rw [← hmid.2] at hevs
    exact .same (by rw [hevs])
  · obtain ⟨hnew, rfl⟩ := insertEvent_eq_ok hmid
    have hlookup : store'.events[eventId]? = if wakeEventId req = eventId then
        some ⟨eventSession req.jobId sessionId, req.jobId, .wakeRequested, req.wokenAtMs,
          wakePayload req⟩ else store.events[eventId]? := by
      rw [hevs, Table.getElem?_insert]
    by_cases hid : wakeEventId req = eventId
    · rw [if_pos hid] at hlookup
      rw [hid] at hnew
      exact .woken hid.symm hnew hlookup rfl rfl
    · rw [if_neg hid] at hlookup
      exact .same hlookup

theorem step_event (toks : LeaseTokens) (store : JobStore) (call : JobCall) (eventId : String) :
    EventStep store (store.step toks call) eventId call := by
  cases h : store.perform toks call with
  | error failure =>
    rw [step_of_failure h]
    exact .same rfl
  | ok store' =>
    rw [step_of_perform h]
    cases perform_effect h with
    | known hstore | scheduled _ hstore => exact .same (by rw [hstore])
    | claimed hstore =>
      exact .same (by rw [hstore, (claimJobs_tables toks _ _ _ store).2.1])
    | updated _ _ _ _ hevs => exact .same (by rw [hevs])
    | yielded hyield => exact yield_event hyield eventId
    | woken hwake => exact wake_event hwake eventId
    | reclaimed hloop => exact reclaimJobs_events hloop eventId

end Events

/-! ### Whole runs -/

section Runs

variable {toks : LeaseTokens} {store store' : JobStore} {call : JobCall} {eventId jobId : String}
  {event : JobEvent}

/-- An event that is recorded stays as it is. -/
theorem EventStep.kept (h : EventStep store store' eventId call)
    (hev : store.events[eventId]? = some event) : store'.events[eventId]? = some event := by
  cases h with
  | same hsame => rw [hsame, hev]
  | woken _ hnew _ _ _ | yielded _ hnew _ _ | consumed _ _ hnew _ _ _ | reclaimed _ hnew _ _ =>
    rw [hev] at hnew
    cases hnew

theorem events_kept (toks : LeaseTokens) (calls : List JobCall)
    (hev : store.events[eventId]? = some event) :
    (store.run toks calls).events[eventId]? = some event := by
  induction calls generalizing store with
  | nil => exact hev
  | cons call calls ih => exact ih ((step_event toks store call eventId).kept hev)

variable {wakeId : String}

theorem mem_pendingWakeIds :
    wakeId ∈ pendingWakeIds store jobId ↔ ∃ event, store.events[wakeId]? = some event ∧
      event.taskId = jobId ∧ event.eventType = .wakeRequested ∧
      store.events[consumedEventId wakeId]? = none := by
  simp only [pendingWakeIds, mem_map, mem_insertionSort, mem_filter, Table.mem_toList, bool_rules,
    Option.isNone_iff_eq_none, Prod.exists, and_assoc]
  constructor
  · rintro ⟨_, event, hev, htask, hty, hmark, rfl⟩
    exact ⟨event, hev, htask, hty, hmark⟩
  · rintro ⟨event, hev, htask, hty, hmark⟩
    exact ⟨wakeId, event, hev, htask, hty, hmark, rfl⟩

/-- The ids of the wakes, so that no two wakes have one mark. -/
structure WakesNamed (store : JobStore) : Prop where
  wake : ∀ (id : String) (event : JobEvent), store.events[id]? = some event →
    event.eventType = .wakeRequested → ∃ rest, id = wakeLeading ++ rest
  mark : ∀ rest : String, store.events[consumedLeading ++ rest]? ≠ none →
    store.events[wakeLeading ++ rest]? ≠ none

theorem wakesNamed_empty : WakesNamed .empty where
  wake id event h := by
    rw [empty, Table.getElem?_empty] at h
    cases h
  mark rest h := by
    rw [empty, Table.getElem?_empty] at h
    exact absurd rfl h

variable {rest : String}

theorem WakesNamed.pending (hnamed : WakesNamed store)
    (hpend : wakeId ∈ pendingWakeIds store jobId)
    (hid : consumedLeading ++ rest = writtenEventId wakeId) : wakeId = wakeLeading ++ rest := by
  obtain ⟨event, hev, -, hty, -⟩ := mem_pendingWakeIds.mp hpend
  obtain ⟨rest', rfl⟩ := hnamed.wake wakeId event hev hty
  rw [writtenEventId_append, String.append_right_inj] at hid
  rw [hid]

theorem WakesNamed.marked (hnamed : WakesNamed store)
    (hpre : store.events[consumedLeading ++ rest]? = none)
    (haft : (store.step toks call).events[consumedLeading ++ rest]? ≠ none) :
    ∃ req, call = .yield req ∧ wakeLeading ++ rest ∈ pendingWakeIds store req.jobId ∧
      (store.step toks call).jobs[req.jobId]? ≠ store.jobs[req.jobId]? := by
  cases step_event toks store call (consumedLeading ++ rest) with
  | same hsame =>
    rw [hsame] at haft
    exact absurd hpre haft
  -- the ids of other events start with other texts
  | woken hid _ _ _ _ => exact absurd hid (append_ne_append (by decide) _ _)
  | yielded hid _ _ _ => exact absurd hid (append_ne_append (by decide) _ _)
  | reclaimed hid _ _ _ => exact absurd hid (append_ne_append (by decide) _ _)
  | consumed hpend hid _ _ _ hchanged =>
    have hwake := hnamed.pending hpend hid
    rw [hwake] at hpend
    exact ⟨_, rfl, hpend, hchanged⟩

theorem WakesNamed.step (hnamed : WakesNamed store) (toks : LeaseTokens) (call : JobCall) :
    WakesNamed (store.step toks call) where
  wake id event hev hty := by
    cases step_event toks store call id with
    | same hsame =>
      rw [hsame] at hev
      exact hnamed.wake id event hev hty
    | woken hid _ _ _ _ => exact ⟨_, hid⟩
    | yielded _ _ hnew hyielded | consumed _ _ _ hnew hyielded _ | reclaimed _ _ hnew hyielded =>
      rw [hnew] at hev
      cases hev
      rw [hyielded] at hty
      cases hty
  mark rest hmark := by
    -- the wake was there before the call, and events are kept
    have hwake : store.events[wakeLeading ++ rest]? ≠ none := by
      by_cases hpre : store.events[consumedLeading ++ rest]? = none
      · obtain ⟨req, -, hpend, -⟩ := hnamed.marked hpre hmark
        obtain ⟨event, hev, -⟩ := mem_pendingWakeIds.mp hpend
        rw [hev]
        exact Option.some_ne_none event
      · exact hnamed.mark rest hpre
    obtain ⟨event, hev⟩ := Option.ne_none_iff_exists'.mp hwake
    rw [(step_event toks store call _).kept hev]
    exact Option.some_ne_none event

theorem WakesNamed.run (hnamed : WakesNamed store) (toks : LeaseTokens) (calls : List JobCall) :
    WakesNamed (store.run toks calls) := by
  induction calls generalizing store with
  | nil => exact hnamed
  | cons call calls ih => exact ih (hnamed.step toks call)

end Runs

/-! ### Which yield sees a wake -/

def RecordsWake (toks : LeaseTokens) (store : JobStore) (req : WakeRuntimeJobRequest) : Prop :=
  store.events[wakeEventId req]? = none ∧
    (store.step toks (.wake req)).events[wakeEventId req]? ≠ none

def ChangesJob (toks : LeaseTokens) (store : JobStore) (call : JobCall) (jobId : String) : Prop :=
  (store.step toks call).jobs[jobId]? ≠ store.jobs[jobId]?

def ConsumesWake (toks : LeaseTokens) (store : JobStore) (call : JobCall) (wakeId : String) :
    Prop :=
  store.events[consumedEventId wakeId]? = none ∧
    (store.step toks call).events[consumedEventId wakeId]? ≠ none

def NoYieldChanges (toks : LeaseTokens) (store : JobStore) (calls : List JobCall)
    (jobId : String) : Prop :=
  ∀ front req back, calls = front ++ .yield req :: back →
    ¬ ChangesJob toks (store.run toks front) (.yield req) jobId

section Sees

variable {toks : LeaseTokens} {store : JobStore} {wake : WakeRuntimeJobRequest}

theorem RecordsWake.pending (hnamed : WakesNamed store) (h : RecordsWake toks store wake) :
    wakeEventId wake ∈ pendingWakeIds (store.step toks (.wake wake)) wake.jobId := by
  obtain ⟨hnew, hrecorded⟩ := h
  obtain ⟨event, hev⟩ := Option.ne_none_iff_exists'.mp hrecorded
  refine mem_pendingWakeIds.mpr ⟨event, hev, ?_⟩
  -- a mark would be that of a wake which was there before
  have hmark : (store.step toks (.wake wake)).events[consumedEventId (wakeEventId wake)]? =
      none := by
    rw [consumedEventId_wake]
    by_contra hmarked
    by_cases hpre :
        store.events[consumedLeading ++ (wake.jobId ++ ":" ++ wake.sourceJobId)]? = none
    · obtain ⟨req, hcall, -, -⟩ := hnamed.marked hpre hmarked
      cases hcall
    · exact hnamed.mark _ hpre hnew
  cases hstep : step_event toks store (.wake wake) (wakeEventId wake) with
  | same hsame =>
    rw [hsame] at hrecorded
    exact absurd hnew hrecorded
  | woken _ _ hfd hty htask =>
    rw [hev] at hfd
    cases hfd
    exact ⟨htask, hty, hmark⟩

/-- A wake that succeeds and is new records its event. -/
theorem recordsWake_of_ok {disposition : WakeRuntimeJobDisposition} {store' : JobStore}
    (h : wakeRuntimeJob store wake = .ok (store', disposition))
    (hnew : store.events[wakeEventId wake]? = none) : RecordsWake toks store wake := by
  have hstep : store.step toks (.wake wake) = store' := step_of_perform (by simp [perform, h])
  refine ⟨hnew, ?_⟩
  obtain ⟨sessionId, mid, hmid, hevs⟩ := wake_events h
  rw [hstep, hevs]
  simp only [recordWake, hnew] at hmid
  obtain ⟨-, rfl⟩ := insertEvent_eq_ok hmid
  simp

variable {jobId : String}

theorem pending_run (hnamed : WakesNamed store) (calls : List JobCall)
    (hpend : wakeEventId wake ∈ pendingWakeIds store jobId)
    (hnone : NoYieldChanges toks store calls jobId) :
    wakeEventId wake ∈ pendingWakeIds (store.run toks calls) jobId := by
  induction calls using List.reverseRecOn with
  | nil => exact hpend
  | append_singleton calls call ih =>
    have hpre := ih fun front req back hsp =>
      hnone front req (back ++ [call]) (by rw [hsp]; simp)
    obtain ⟨event, hev, htask, hty, hmark⟩ := mem_pendingWakeIds.mp hpre
    rw [run_concat]
    have hkept := (step_event toks (store.run toks calls) call _).kept hev
    refine mem_pendingWakeIds.mpr ⟨event, hkept, htask, hty, ?_⟩
    by_contra hmarked
    rw [consumedEventId_wake] at hmark hmarked
    obtain ⟨req, rfl, hseen, hchanged⟩ := (hnamed.run toks calls).marked hmark hmarked
    -- the wake that was marked is the one of this job
    obtain ⟨event', hev', htask', -⟩ := mem_pendingWakeIds.mp hseen
    have hsame : store.run toks calls |>.events[wakeEventId wake]? = some event' := hev'
    rw [hev] at hsame
    cases hsame
    rw [← htask', htask] at hchanged
    exact hnone calls req [] rfl hchanged

theorem yield_of_changes {req : YieldRuntimeJobRequest}
    (h : ChangesJob toks store (.yield req) jobId) :
    req.jobId = jobId ∧ (∃ job', (store.step toks (.yield req)).jobs[jobId]? = some job' ∧
        job'.status = .queued ∧ job'.leaseOwner = none ∧
        job'.runAtMs = if (pendingWakeIds store jobId).isEmpty then req.runAtMs
          else req.yieldedAtMs) ∧
      ∀ wakeId ∈ pendingWakeIds store jobId,
        (store.step toks (.yield req)).events[writtenEventId wakeId]? ≠ none := by
  cases hperf : store.perform toks (.yield req) with
  | error failure =>
    exfalso
    apply h
    rw [step_of_failure hperf]
  | ok store' =>
    have hstep : store.step toks (.yield req) = store' := step_of_perform hperf
    rw [ChangesJob, hstep] at h
    rw [hstep]
    rcases yieldRuntimeJob_cases hperf with
      rfl | ⟨job, hjob, -, hjobs, -, -, mid, -, -, hconsume⟩
    · exact absurd rfl h
    · have hid : req.jobId = jobId := by
        by_contra hoth
        apply h
        rw [hjobs, Table.getElem?_insert, if_neg hoth]
      subst hid
      refine ⟨rfl, ⟨_, by rw [hjobs, Table.getElem?_insert, if_pos rfl], rfl, rfl, rfl⟩, ?_⟩
      intro wakeId hpend
      rcases consumeWakes_events hconsume (writtenEventId wakeId) with
        ⟨hoth, -⟩ | ⟨_, -, -, -, hev⟩
      · exact absurd (mem_map_of_mem hpend) hoth
      · rw [hev]
        exact Option.some_ne_none _

variable {mid : List JobCall}

theorem first_yield_sees (hnamed : WakesNamed store) {req : YieldRuntimeJobRequest}
    (hrecords : RecordsWake toks store wake)
    (hnone : NoYieldChanges toks (store.step toks (.wake wake)) mid wake.jobId)
    (hchanges : ChangesJob toks (store.run toks (.wake wake :: mid)) (.yield req) wake.jobId) :
    req.jobId = wake.jobId ∧
      (∃ job', (store.run toks (.wake wake :: mid ++ [.yield req])).jobs[wake.jobId]? =
        some job' ∧ job'.status = .queued ∧ job'.leaseOwner = none ∧
        job'.runAtMs = req.yieldedAtMs) ∧
      ConsumesWake toks (store.run toks (.wake wake :: mid)) (.yield req)
        (wakeEventId wake) := by
  have hpend : wakeEventId wake ∈
      pendingWakeIds (store.run toks (.wake wake :: mid)) wake.jobId :=
    pending_run (hnamed.step toks _) mid (hrecords.pending hnamed) hnone
  obtain ⟨hid, ⟨job', hjob', hqueued, hown, hrunAt⟩, hmarks⟩ := yield_of_changes hchanges
  have hsome : (pendingWakeIds (store.run toks (.wake wake :: mid)) wake.jobId).isEmpty ≠
      true := by
    rw [ne_eq, List.isEmpty_iff]
    exact List.ne_nil_of_mem hpend
  rw [if_neg hsome] at hrunAt
  obtain ⟨_, -, -, -, hunmarked⟩ := mem_pendingWakeIds.mp hpend
  refine ⟨hid, ⟨job', ?_, hqueued, hown, hrunAt⟩, hunmarked, ?_⟩
  · rw [run_concat]
    exact hjob'
  · have hmarked := hmarks _ hpend
    rw [wakeEventId, writtenEventId_append] at hmarked
    rw [consumedEventId_wake]
    exact hmarked

variable {call : JobCall}

theorem changes_of_consumes (hnamed : WakesNamed store) (hrecords : RecordsWake toks store wake)
    (h : ConsumesWake toks (store.run toks (.wake wake :: mid)) call (wakeEventId wake)) :
    ∃ req, call = .yield req ∧ req.jobId = wake.jobId ∧
      ChangesJob toks (store.run toks (.wake wake :: mid)) call wake.jobId := by
  obtain ⟨hpre, haft⟩ := h
  rw [consumedEventId_wake] at hpre haft
  obtain ⟨req, rfl, hpend, hchanged⟩ := (hnamed.run toks _).marked hpre haft
  -- the event is the one that was recorded for this job
  obtain ⟨event, hev, htask, -⟩ := mem_pendingWakeIds.mp (hrecords.pending hnamed)
  have hkept : (store.run toks (.wake wake :: mid)).events[wakeEventId wake]? = some event :=
    events_kept toks mid hev
  obtain ⟨event', hev', htask', -⟩ := mem_pendingWakeIds.mp hpend
  have hsame : (store.run toks (.wake wake :: mid)).events[wakeEventId wake]? = some event' :=
    hev'
  rw [hkept] at hsame
  cases hsame
  have hid : req.jobId = wake.jobId := by rw [← htask', htask]
  rw [hid] at hchanged
  exact ⟨req, rfl, hid, hchanged⟩

end Sees

/-! ### When a job is due -/

section Due

variable {toks : LeaseTokens} {store : JobStore}

theorem wake_due {wake : WakeRuntimeJobRequest} {job : RuntimeJob}
    {result : JobStore × WakeRuntimeJobDisposition}
    (hjob : store.jobs[wake.jobId]? = some job) (hqueued : job.status = .queued)
    (h : wakeRuntimeJob store wake = .ok result) :
    ∃ job', (store.step toks (.wake wake)).jobs[wake.jobId]? = some job' ∧
      job'.status = .queued ∧ job'.leaseReclaimNotBeforeMs = job.leaseReclaimNotBeforeMs ∧
      job'.runAtMs ≤ wakeAtMs wake job := by
  obtain ⟨store', disposition⟩ := result
  have hstep : store.step toks (.wake wake) = store' := by
    rw [step, perform, h]
    rfl
  rw [hstep]
  obtain ⟨found, mid, hfd, hmid, hcases⟩ := wakeRuntimeJob_cases h
  rw [hjob] at hfd
  cases hfd
  rcases hcases with ⟨rfl, hearly⟩ | ⟨-, -, rfl⟩
  · rw [(recordWake_tables hmid).1]
    exact ⟨job, hjob, hqueued, rfl, hearly hqueued⟩
  · refine ⟨{ job with runAtMs := wakeAtMs wake job, updatedAtMs := wake.wokenAtMs }, ?_, hqueued,
      rfl, ?_⟩
    · rw [Table.getElem?_insert, if_pos rfl]
    · exact le_refl (wakeAtMs wake job)

theorem claim_not_before {req : ClaimDueRuntimeJobsRequest} {id : String}
    (h : ChangesJob toks store (.claim req) id) :
    ∃ job, store.jobs[id]? = some job ∧
      ∀ notBefore, job.leaseReclaimNotBeforeMs = some notBefore → notBefore ≤ req.nowMs := by
  cases step_row toks store (.claim req) id with
  | same hjob hout => exact absurd hjob h
  | scheduled hcall _ _ _ _ => cases hcall
  | changed hjob _ hchg _ =>
    refine ⟨_, hjob, ?_⟩
    intro notBefore hnotBefore
    cases hchg with
    | claimed _ hdue _ _ =>
      simp only [isDue, bool_rules] at hdue
      have hlate := hdue.1.1.1.2
      rw [hnotBefore] at hlate
      exact hlate

end Due

/-- **Wakes are not lost.**  After any calls:
    when a wake of a job records a new event, the next yield that changes the job leaves it
    queued and due at the time of the yield, and marks the wake;
    only a yield that changes the job marks the wake, and nothing marks it again;
    a wake that succeeds on a queued job leaves it due no later than the time of the wake or
    the time that a reclaim set, whichever is later;
    and a claim takes no job before the time that a reclaim set. -/
theorem wakes_not_lost (toks : LeaseTokens) :
    (∀ (front : List JobCall) (wake : WakeRuntimeJobRequest) (mid : List JobCall)
        (req : YieldRuntimeJobRequest), RecordsWake toks (JobStore.after toks front) wake →
      NoYieldChanges toks (JobStore.after toks (front ++ [.wake wake])) mid wake.jobId →
      ChangesJob toks (JobStore.after toks (front ++ .wake wake :: mid)) (.yield req)
        wake.jobId →
      req.jobId = wake.jobId ∧
      (∃ job' : RuntimeJob,
        (JobStore.after toks (front ++ .wake wake :: mid ++ [.yield req])).jobs[wake.jobId]? =
          some job' ∧ job'.status = .queued ∧ job'.leaseOwner = none ∧
        job'.runAtMs = req.yieldedAtMs) ∧
      ConsumesWake toks (JobStore.after toks (front ++ .wake wake :: mid)) (.yield req)
        (wakeEventId wake)) ∧
    (∀ (front : List JobCall) (wake : WakeRuntimeJobRequest) (mid : List JobCall)
        (call : JobCall), RecordsWake toks (JobStore.after toks front) wake →
      ConsumesWake toks (JobStore.after toks (front ++ .wake wake :: mid)) call
        (wakeEventId wake) →
      (∃ req, call = .yield req ∧ req.jobId = wake.jobId ∧
        ChangesJob toks (JobStore.after toks (front ++ .wake wake :: mid)) call wake.jobId) ∧
      ∀ more call', ¬ ConsumesWake toks
        (JobStore.after toks (front ++ .wake wake :: mid ++ call :: more)) call'
        (wakeEventId wake)) ∧
    (∀ (calls : List JobCall) (wake : WakeRuntimeJobRequest) (job : RuntimeJob),
      (JobStore.after toks calls).jobs[wake.jobId]? = some job → job.status = .queued →
      (∃ result, wakeRuntimeJob (JobStore.after toks calls) wake = .ok result) →
      ∃ job' : RuntimeJob,
        (JobStore.after toks (calls ++ [.wake wake])).jobs[wake.jobId]? = some job' ∧
        job'.status = .queued ∧
        job'.leaseReclaimNotBeforeMs = job.leaseReclaimNotBeforeMs ∧
        job'.runAtMs ≤ max wake.wokenAtMs (job.leaseReclaimNotBeforeMs.getD wake.wokenAtMs)) ∧
    ∀ (calls : List JobCall) (req : ClaimDueRuntimeJobsRequest) (id : String),
      ChangesJob toks (JobStore.after toks calls) (.claim req) id →
      ∃ job : RuntimeJob, (JobStore.after toks calls).jobs[id]? = some job ∧
        ∀ notBefore, job.leaseReclaimNotBeforeMs = some notBefore → notBefore ≤ req.nowMs := by
  have hnamed : ∀ calls, WakesNamed (JobStore.after toks calls) :=
    fun calls => wakesNamed_empty.run toks calls
  refine ⟨?_, ?_, ?_, ?_⟩
  · intro front wake mid req hrecords hnone hchanges
    have hmid : JobStore.after toks (front ++ .wake wake :: mid) =
        (JobStore.after toks front).run toks (.wake wake :: mid) := run_append ..
    have hend : JobStore.after toks (front ++ .wake wake :: mid ++ [.yield req]) =
        (JobStore.after toks front).run toks (.wake wake :: mid ++ [.yield req]) := by
      rw [List.append_assoc]
      exact run_append ..
    rw [JobStore.after, run_concat] at hnone
    rw [hmid] at hchanges
    rw [hmid, hend]
    exact first_yield_sees (hnamed front) hrecords hnone hchanges
  · intro front wake mid call hrecords hconsumes
    have hmid : JobStore.after toks (front ++ .wake wake :: mid) =
        (JobStore.after toks front).run toks (.wake wake :: mid) := run_append ..
    refine ⟨?_, ?_⟩
    · rw [hmid] at hconsumes ⊢
      exact changes_of_consumes (hnamed front) hrecords hconsumes
    · intro more call'
      have hmore : JobStore.after toks (front ++ .wake wake :: mid ++ call :: more) =
          ((JobStore.after toks (front ++ .wake wake :: mid)).step toks call).run toks more :=
        run_append ..
      rw [hmore]
      rintro ⟨hnone, -⟩
      obtain ⟨event, hev⟩ := Option.ne_none_iff_exists'.mp hconsumes.2
      rw [events_kept toks more hev] at hnone
      cases hnone
  · rintro calls wake job hjob hqueued ⟨result, hwake⟩
    rw [JobStore.after, run_concat]
    exact wake_due hjob hqueued hwake
  · intro calls req id hchanges
    exact claim_not_before hchanges

/-- A job that is woken while a worker holds it, and given back for later, is due at once. -/
theorem wakes_not_lost_claimed :
    (∃ job, (JobStore.after countingTokens (claimedSample ++ [.wake ⟨"j", "s", 6, "r"⟩,
        .yield ⟨"j", "w:", 7, 90, "r"⟩])).jobs["j"]? = some job ∧ job.status = .queued ∧
      job.leaseOwner = none ∧ job.runAtMs = 7) ∧
    ConsumesWake countingTokens
      (JobStore.after countingTokens (claimedSample ++ [.wake ⟨"j", "s", 6, "r"⟩]))
      (.yield ⟨"j", "w:", 7, 90, "r"⟩) (wakeEventId ⟨"j", "s", 6, "r"⟩) := by
  refine ((wakes_not_lost countingTokens).1 claimedSample ⟨"j", "s", 6, "r"⟩ []
    ⟨"j", "w:", 7, 90, "r"⟩ ?_ ?_ ?_).2
  · have hok : (wakeRuntimeJob (JobStore.after countingTokens claimedSample)
        ⟨"j", "s", 6, "r"⟩).toOption.map Prod.snd = some .active := by decide +kernel
    obtain ⟨⟨store', _⟩, hwake, -⟩ := Outcome.exists_ok_of_map hok
    exact recordsWake_of_ok hwake (by decide +kernel)
  · intro front req back hsp
    cases front <;> cases hsp
  · unfold ChangesJob
    decide +kernel

/-- **Outcomes are final.** A terminal job, its outbox entry and every event stay as they are. -/
theorem outcome_final (toks : LeaseTokens) (store : JobStore) (calls : List JobCall) :
    (∀ (id : String) (job : RuntimeJob), store.jobs[id]? = some job →
      job.status.isTerminal = true → (store.run toks calls).jobs[id]? = some job ∧
        (store.run toks calls).outbox[id]? = store.outbox[id]?) ∧
    ∀ (eventId : String) (event : JobEvent), store.events[eventId]? = some event →
      (store.run toks calls).events[eventId]? = some event := by
  refine ⟨?_, fun _ _ => events_kept toks calls⟩
  intro id job hjob hterm
  induction calls generalizing store with
  | nil => exact ⟨hjob, rfl⟩
  | cons call calls ih =>
    cases step_row toks store call id with
    | same hsame hout =>
      rw [← hout]
      exact ih _ (hsame.trans hjob)
    | scheduled _ _ hnone => cases hjob.symm.trans hnone
    | changed hold _ hchg =>
      -- a terminal job does not change
      cases Option.mem_unique hjob hold
      cases hterm.symm.trans hchg.status.2

end Centaeris
