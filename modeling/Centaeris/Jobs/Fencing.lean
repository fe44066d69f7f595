import Centaeris.Jobs.Rows

namespace Centaeris

open Foundation JobStore Outcome RuntimeJobLeaseReclaimPolicy List

/-!
# Leases of runtime jobs are fenced

Results about the store after any list of calls, with any times.
-/

section Statuses

variable {toks : LeaseTokens} {store : JobStore} {call : JobCall} {id : String}
  {job job' : RuntimeJob}

theorem decide_status {policy : RuntimeJobLeaseReclaimPolicy} {count : Nat}
    {status : RuntimeJobStatus} {nowMs : Int} {decision : RuntimeJobLeaseReclaimDecision}
    (h : policy.decide id count status nowMs = .ok decision) :
    status.isActive = true ∧ decision.reclaimCount = count + 1 ∧
      decision.status = if policy.maxReclaims < count + 1 then .deadLettered else .queued := by
  simp only [RuntimeJobLeaseReclaimPolicy.decide, Outcome.ok_rules] at h
  obtain ⟨hact, -, -, rfl⟩ := h
  exact ⟨hact, rfl, rfl⟩

/-- A leased or running job may be left in any status in which no worker holds it. -/
theorem canTransitionTo_of_active (status next : RuntimeJobStatus)
    (hact : status.isActive = true) (hnext : next.isActive = false) :
    status.canTransitionTo next = true ∧ status.isTerminal = false := by
  revert hact hnext
  cases status <;> cases next <;> decide

theorem canTransitionTo_self (status : RuntimeJobStatus) : status.canTransitionTo status = true := by
  cases status <;> rfl

theorem RowChange.status (h : RowChange toks store id call job job') :
    job.status.canTransitionTo job'.status = true ∧ job.status.isTerminal = false := by
  cases h with
  | claimed _ hdue _ _ =>
    have hqueued : job.status = .queued := by
      simp only [isDue, bool_rules] at hdue
      exact hdue.1.1.1.1.1
    rw [hqueued]
    exact ⟨rfl, rfl⟩
  | started _ hstat _ =>
    rw [hstat]
    exact ⟨rfl, rfl⟩
  | renewed _ hls =>
    have hact := (holdsLease_iff.mp hls).1
    exact ⟨canTransitionTo_self _, (canTransitionTo_of_active _ .queued hact rfl).2⟩
  | woken _ hstat _ =>
    refine ⟨canTransitionTo_self _, ?_⟩
    rw [hstat]
    rfl
  | yielded _ hls | completed _ hls => exact canTransitionTo_of_active _ _ (holdsLease_iff.mp hls).1 rfl
  | failed _ htgt hls =>
    apply canTransitionTo_of_active _ _ (holdsLease_iff.mp hls).1
    rcases failureTarget_cases htgt with ⟨-, rfl⟩ | ⟨-, rfl | rfl⟩ <;> rfl
  | cancelled _ hopen =>
    refine ⟨?_, hopen⟩
    show job.status.canTransitionTo .cancelled = true
    revert hopen
    cases job.status <;> decide
  | reclaimed _ hdecide =>
    obtain ⟨hleased, -, hnext⟩ := decide_status hdecide
    apply canTransitionTo_of_active _ _ hleased
    show RuntimeJobStatus.isActive _ = false
    rw [hnext]
    split <;> rfl

/-- A call moves a status only where `canTransitionTo` allows it, and never away from a terminal
    one. -/
theorem step_status (toks : LeaseTokens) (store : JobStore) (call : JobCall)
    (hjob : store.jobs[id]? = some job) :
    ∃ job', (store.step toks call).jobs[id]? = some job' ∧
      job.status.canTransitionTo job'.status = true ∧
      (job.status.isTerminal = true → job' = job) := by
  cases step_row toks store call id with
  | same hsame _ => exact ⟨job, by rw [hsame, hjob], canTransitionTo_self _, fun _ => rfl⟩
  | scheduled _ _ hnone _ _ =>
    rw [hjob] at hnone
    cases hnone
  | changed hold hnew hchg _ =>
    rw [hjob] at hold
    cases hold
    obtain ⟨hallowed, hopen⟩ := hchg.status
    refine ⟨_, hnew, hallowed, ?_⟩
    intro hterm
    rw [hopen] at hterm
    cases hterm

end Statuses

/-! ### Leases and the outbox -/

/-- The token under which a job is held. -/
def leaseOf (store : JobStore) (id : String) : Option String :=
  (store.jobs[id]?).bind RuntimeJob.leaseOwner

def Generated (toks : LeaseTokens) (issued : Nat) (token : String) : Prop :=
  ∃ k < issued, ∃ worker, token = leaseToken worker (toks.nonce k)

/-- A lease exactly for leased and running jobs, tokens that were generated, and the outbox exactly
    for terminal jobs (`jobsSound_run`). -/
structure JobsSound (toks : LeaseTokens) (store : JobStore) : Prop where
  owner : ∀ (id : String) (job : RuntimeJob), store.jobs[id]? = some job →
    (job.leaseOwner.isSome = true ↔ job.status.isActive = true)
  generated : ∀ id token, leaseOf store id = some token → Generated toks store.issued token
  outbox : ∀ id : String, store.outbox[id]?.isSome = true ↔
    ∃ job : RuntimeJob, store.jobs[id]? = some job ∧ job.status.isTerminal = true

section Sound

variable {toks : LeaseTokens} {store : JobStore} {call : JobCall} {id token : String}
  {job job' : RuntimeJob}

theorem jobsSound_empty (toks : LeaseTokens) : JobsSound toks .empty where
  owner id job h := by
    rw [empty, Table.getElem?_empty] at h
    cases h
  generated id token h := by
    rw [leaseOf, empty, Table.getElem?_empty] at h
    cases h
  outbox id := by
    simp [empty]

theorem RowChange.owner (h : RowChange toks store id call job job')
    (hown : job.leaseOwner.isSome = true ↔ job.status.isActive = true) :
    job'.leaseOwner.isSome = true ↔ job'.status.isActive = true := by
  cases h with
  | claimed => exact ⟨fun _ => rfl, fun _ => rfl⟩
  | started _ hstat _ =>
    show job.leaseOwner.isSome = true ↔ _
    rw [hown, hstat]
    exact ⟨fun _ => rfl, fun _ => rfl⟩
  | renewed | woken => exact hown
  | yielded | completed | cancelled => exact ⟨nofun, nofun⟩
  | failed _ htgt _ =>
    rcases failureTarget_cases htgt with ⟨-, rfl⟩ | ⟨-, rfl | rfl⟩ <;> exact ⟨nofun, nofun⟩
  | reclaimed _ hdecide =>
    obtain ⟨-, -, hnext⟩ := decide_status hdecide
    show _ ↔ RuntimeJobStatus.isActive _ = true
    rw [hnext]
    split <;> exact ⟨nofun, nofun⟩

theorem RowChange.handed (h : RowChange toks store id call job job')
    (htok : job'.leaseOwner = some token) :
    job.leaseOwner = some token ∨
      ∃ req k, call = .claim req ∧ id ∈ dueJobIds req store ∧ store.issued ≤ k ∧
        k < (store.step toks call).issued ∧ token = leaseToken req.workerId (toks.nonce k) := by
  cases h with
  | @claimed req _ k _ hlist _ hk hk' =>
    exact .inr ⟨req, k, rfl, hlist, hk, hk', (Option.some.inj htok).symm⟩
  | started | renewed | woken => exact .inl htok
  | yielded | completed | failed | cancelled | reclaimed => cases htok

/-- How a job comes to be held under a token. -/
theorem leaseOf_step (h : leaseOf (store.step toks call) id = some token) :
    leaseOf store id = some token ∨
      ∃ req k, call = .claim req ∧ id ∈ dueJobIds req store ∧ store.issued ≤ k ∧
        k < (store.step toks call).issued ∧ token = leaseToken req.workerId (toks.nonce k) := by
  cases step_row toks store call id with
  | same hsame _ =>
    rw [leaseOf, hsame] at h
    exact .inl h
  | scheduled _ _ _ hjob _ =>
    rw [leaseOf, hjob] at h
    cases h
  | changed hold hnew hchg _ =>
    rw [leaseOf, hnew] at h
    rw [leaseOf, hold]
    exact hchg.handed h

theorem Generated.step (h : Generated toks store.issued token) (call : JobCall) :
    Generated toks (store.step toks call).issued token := by
  have hissued := issued_le_step toks store call
  obtain ⟨k, hk, worker, rfl⟩ := h
  exact ⟨k, by omega, worker, rfl⟩

theorem generated_step
    (h : ∀ id token, leaseOf store id = some token → Generated toks store.issued token)
    (htok : leaseOf (store.step toks call) id = some token) :
    Generated toks (store.step toks call).issued token := by
  rcases leaseOf_step htok with hpre | ⟨req, k, -, -, -, hk, rfl⟩
  · exact (h id token hpre).step call
  · exact ⟨k, hk, req.workerId, rfl⟩

/-- **One call** keeps what holds of every job. -/
theorem JobsSound.step (h : JobsSound toks store) (call : JobCall) :
    JobsSound toks (store.step toks call) := by
  constructor
  case owner =>
    intro id job hjob
    cases step_row toks store call id with
    | same hsame _ => exact h.owner id job (hsame ▸ hjob)
    | scheduled _ _ _ hnew _ =>
      rw [hnew] at hjob
      cases hjob
      exact ⟨nofun, nofun⟩
    | changed hold hnew hchg _ =>
      rw [hnew] at hjob
      cases hjob
      exact hchg.owner (h.owner id _ hold)
  case generated =>
    intro id token htok
    exact generated_step h.generated htok
  case outbox =>
    intro id
    cases step_row toks store call id with
    | same hsame hout =>
      rw [hsame, hout]
      exact h.outbox id
    | scheduled _ _ hnone hnew hout =>
      -- a new job is not terminal, and nothing was in the outbox before
      rw [hout, h.outbox id, hnone, hnew]
      constructor
      · rintro ⟨job, hjob, -⟩
        cases hjob
      · rintro ⟨job, hjob, hterm⟩
        cases hjob
        cases hterm
    | changed hold hnew hchg hout =>
      have hopen := hchg.status.2
      have hpre : store.outbox[id]?.isSome = false := by
        by_contra hsome
        rw [Bool.not_eq_false, h.outbox id] at hsome
        obtain ⟨job, hjob, hterm⟩ := hsome
        rw [hold] at hjob
        cases hjob
        rw [hopen] at hterm
        cases hterm
      rw [hout, hpre, Bool.or_false, hnew]
      constructor
      · exact fun hterm => ⟨_, rfl, hterm⟩
      · rintro ⟨job, hjob, hterm⟩
        cases hjob
        exact hterm

/-- **All calls.** -/
theorem JobsSound.run (h : JobsSound toks store) (calls : List JobCall) :
    JobsSound toks (store.run toks calls) := by
  induction calls generalizing store with
  | nil => exact h
  | cons call calls ih => exact ih (h.step call)

theorem lost_lease_step (hgenerated : Generated toks store.issued token)
    (hlost : leaseOf store id ≠ some token) (call : JobCall) :
    leaseOf (store.step toks call) id ≠ some token := by
  intro hagain
  rcases leaseOf_step hagain with hpre | ⟨req, k', -, -, hk', -, hsame⟩
  · exact hlost hpre
  · -- a later claim has a token with a later number
    obtain ⟨k, hk, worker, rfl⟩ := hgenerated
    have := toks.never_repeats _ _ _ _ hsame
    omega

theorem lost_lease (hgenerated : Generated toks store.issued token)
    (hlost : leaseOf store id ≠ some token) (calls : List JobCall) :
    leaseOf (store.run toks calls) id ≠ some token := by
  induction calls generalizing store with
  | nil => exact hlost
  | cons call calls ih => exact ih (hgenerated.step call) (lost_lease_step hgenerated hlost call)

theorem issued_le_run (toks : LeaseTokens) (store : JobStore) (calls : List JobCall) :
    store.issued ≤ (store.run toks calls).issued := by
  induction calls generalizing store with
  | nil => exact le_rfl
  | cons call calls ih =>
    exact le_trans (issued_le_step toks store call) (ih (store.step toks call))

theorem run_append (toks : LeaseTokens) (store : JobStore) (calls calls' : List JobCall) :
    store.run toks (calls ++ calls') = (store.run toks calls).run toks calls' :=
  foldl_append

theorem run_concat (toks : LeaseTokens) (store : JobStore) (calls : List JobCall)
    (call : JobCall) :
    store.run toks (calls ++ [call]) = (store.run toks calls).step toks call := by
  rw [run_append]
  rfl

end Sound

/-! ### Tokens over a run -/

def JobCall.carried? : JobCall → Option (String × String × Int)
  | .start req => some (req.jobId, req.leaseOwner, req.startedAtMs)
  | .renew req => some (req.jobId, req.leaseOwner, req.heartbeatAtMs)
  | .yield req => some (req.jobId, req.leaseOwner, req.yieldedAtMs)
  | .complete req => some (req.jobId, req.leaseOwner, req.completedAtMs)
  | .fail req => some (req.jobId, req.leaseOwner, req.failedAtMs)
  | _ => none

/-- A claim answers with a job under a token. -/
def HandsOut (toks : LeaseTokens) (store : JobStore) (req : ClaimDueRuntimeJobsRequest)
    (id token : String) : Prop :=
  ∃ store' claimed job, claimDueRuntimeJobs toks store req = .ok (store', claimed) ∧
    (id, job) ∈ claimed ∧ job.leaseOwner = some token

section Tokens

variable {toks : LeaseTokens} {store : JobStore} {call : JobCall} {id token : String}
  {atMs : Int}

theorem holdsLease_of_changed {named : String}
    (hcarried : call.carried? = some (named, token, atMs))
    (hchanged : (store.step toks call).jobs[id]? ≠ store.jobs[id]?) :
    id = named ∧ ∃ job, store.jobs[id]? = some job ∧ holdsLease token atMs job = true := by
  cases step_row toks store call id with
  | same hsame _ => exact absurd hsame hchanged
  | scheduled hcall _ _ _ _ =>
    rw [hcall] at hcarried
    cases hcarried
  | @changed job _ hold _ hchg _ =>
    cases hchg with
    | claimed | woken | cancelled | reclaimed => cases hcarried
    | started hid _ hls | renewed hid hls | yielded hid hls | completed hid hls
    | failed hid _ hls =>
      cases hcarried
      exact ⟨hid.symm, job, hold, hls⟩

variable {req : ClaimDueRuntimeJobsRequest}

theorem handsOut_iff : HandsOut toks store req id token ↔
    (∃ result, claimDueRuntimeJobs toks store req = .ok result) ∧ id ∈ dueJobIds req store ∧
      leaseOf (store.step toks (.claim req)) id = some token := by
  cases hclm : claimDueRuntimeJobs toks store req with
  | error failure => simp [HandsOut, hclm]
  | ok result =>
    have hstep : store.step toks (.claim req) = result.1 := by
      simp only [step, perform, hclm]
      rfl
    have hlist : ∀ job, (id, job) ∈ result.2 ↔
        result.1.jobs[id]? = some job ∧ id ∈ dueJobIds req store := by
      intro job
      simp only [claimDueRuntimeJobs, ok_rules] at hclm
      obtain ⟨-, -, rfl⟩ := hclm
      rw [mem_insertionSort, mem_filter, Table.mem_toList, contains_iff_mem]
    simp only [HandsOut, hclm, Except.ok.injEq, exists_eq', true_and, hstep, leaseOf,
      Option.bind_eq_some_iff]
    constructor
    · rintro ⟨_, _, job, rfl, hm, htok⟩
      obtain ⟨hjob, hdue⟩ := (hlist job).mp hm
      exact ⟨hdue, job, hjob, htok⟩
    · rintro ⟨hdue, job, hjob, htok⟩
      exact ⟨_, _, job, rfl, (hlist job).mpr ⟨hjob, hdue⟩, htok⟩

theorem exists_claim (calls : List JobCall) (h : leaseOf (empty.run toks calls) id = some token) :
    ∃ front req back, calls = front ++ .claim req :: back ∧
      HandsOut toks (empty.run toks front) req id token := by
  induction calls using List.reverseRecOn with
  | nil =>
    rw [leaseOf, run, foldl_nil, empty, Table.getElem?_empty] at h
    cases h
  | append_singleton calls call ih =>
    by_cases hpre : leaseOf (empty.run toks calls) id = some token
    · obtain ⟨front, req, back, rfl, hhanded⟩ := ih hpre
      exact ⟨front, req, back ++ [call], by simp, hhanded⟩
    · rw [run_concat] at h
      rcases leaseOf_step h with hold | ⟨req, k, rfl, hlist, -, -, -⟩
      · exact absurd hold hpre
      · refine ⟨calls, req, [], rfl, handsOut_iff.mpr ⟨?_, hlist, h⟩⟩
        cases hclm : claimDueRuntimeJobs toks (empty.run toks calls) req with
        | ok result => exact ⟨result, rfl⟩
        | error failure =>
          rw [step, perform, hclm] at h
          exact absurd h hpre

theorem held_since_claim {front back mid rest : List JobCall}
    (hhanded : HandsOut toks (empty.run toks front) req id token) (hback : back = mid ++ rest)
    (h : leaseOf (empty.run toks (front ++ .claim req :: back)) id = some token) :
    leaseOf (empty.run toks (front ++ .claim req :: mid)) id = some token := by
  have hsnd := (jobsSound_empty toks).run (front ++ [.claim req])
  rw [run_concat] at hsnd
  have hgenerated := hsnd.generated id token (handsOut_iff.mp hhanded).2.2
  have hlat : Generated toks
      (empty.run toks (front ++ .claim req :: mid)).issued token := by
    obtain ⟨k, hk, worker, rfl⟩ := hgenerated
    rw [append_cons, run_append, run_append]
    exact ⟨k, lt_of_lt_of_le hk (issued_le_run toks _ mid), worker, rfl⟩
  by_contra hlost
  apply lost_lease hlat hlost rest
  rw [← run_append, append_assoc, cons_append, ← hback]
  exact h

theorem not_handsOut_of_held {other : String} (hsnd : JobsSound toks store)
    (hheld : leaseOf store id = some token) :
    ¬ HandsOut toks store req id other := by
  intro h
  obtain ⟨-, hlist, -⟩ := handsOut_iff.mp h
  obtain ⟨job, hjob, hown⟩ := Option.bind_eq_some_iff.mp hheld
  have hact := (hsnd.owner id job hjob).mp (by rw [hown]; rfl)
  -- a job that is due is queued
  have hdue := isDue_of_mem hlist hjob
  simp only [isDue, bool_rules] at hdue
  rw [hdue.1.1.1.1.1] at hact
  cases hact

end Tokens

/-! ### How often a job is taken back -/

def JobCall.isReclaim : JobCall → Bool
  | .reclaim _ => true
  | _ => false

/-- One, when a reclaim call takes the job back. -/
def reclaimed (toks : LeaseTokens) (id : String) (store : JobStore) (call : JobCall) : Nat :=
  if call.isReclaim = true ∧ (store.step toks call).jobs[id]? ≠ store.jobs[id]? then 1 else 0

/-- How many calls of a list take a job back. -/
def reclaimsOf (toks : LeaseTokens) (id : String) : JobStore → List JobCall → Nat
  | _, [] => 0
  | store, call :: calls =>
    reclaimed toks id store call + reclaimsOf toks id (store.step toks call) calls

/-- The row of a job counts how often it was taken back; the last time it was dead-lettered. -/
def ReclaimsCounted (store : JobStore) (id : String) (n : Nat) : Prop :=
  match store.jobs[id]? with
  | none => n = 0
  | some job => job.leaseReclaimCount = n ∧
    (n ≤ RuntimeJobLeaseReclaimPolicy.default.maxReclaims ∨
      (n = RuntimeJobLeaseReclaimPolicy.default.maxReclaims + 1 ∧ job.status = .deadLettered))

section Reclaims

variable {toks : LeaseTokens} {store : JobStore} {call : JobCall} {id : String}
  {job job' : RuntimeJob} {n : Nat}

theorem RowChange.reclaimCount (h : RowChange toks store id call job job') :
    (call.isReclaim = true ∧ job'.leaseReclaimCount = job.leaseReclaimCount + 1 ∧
      job'.status = if default.maxReclaims <
        job.leaseReclaimCount + 1 then .deadLettered else .queued) ∨
      (call.isReclaim = false ∧ job'.leaseReclaimCount = job.leaseReclaimCount) := by
  cases h with
  | reclaimed _ hdecide =>
    obtain ⟨-, hcnt, hstat⟩ := decide_status hdecide
    exact .inl ⟨rfl, hcnt, hstat⟩
  | claimed | started | renewed | yielded | woken | completed | failed | cancelled =>
    exact .inr ⟨rfl, rfl⟩

theorem ReclaimsCounted.step (toks : LeaseTokens) (h : ReclaimsCounted store id n)
    (call : JobCall) :
    ReclaimsCounted (store.step toks call) id (n + reclaimed toks id store call) := by
  unfold ReclaimsCounted at h ⊢
  cases step_row toks store call id with
  | same hsame _ =>
    have hnone : reclaimed toks id store call = 0 := if_neg fun hboth => hboth.2 hsame
    rw [hnone, hsame]
    exact h
  | scheduled hcall _ hnone hnew _ =>
    subst hcall
    rw [hnone] at h
    rw [hnew, h]
    exact ⟨rfl, .inl (Nat.zero_le _)⟩
  | @changed job job' hold hnew hchg _ =>
    rw [hold] at h
    obtain ⟨hcnt, hbd⟩ := h
    -- a job that was dead-lettered is not changed any more
    have hle : n ≤ default.maxReclaims := by
      rcases hbd with hle | ⟨-, hdead⟩
      · exact hle
      · have hopen := hchg.status.2
        rw [hdead] at hopen
        cases hopen
    rcases hchg.reclaimCount with ⟨hreclaim, hcnt', hstat⟩ | ⟨hoth, hcnt'⟩
    · have hchanged : (store.step toks call).jobs[id]? ≠ store.jobs[id]? := by
        rw [hnew, hold]
        intro hsame
        rw [Option.some.inj hsame] at hcnt'
        omega
      have hone : reclaimed toks id store call = 1 := if_pos ⟨hreclaim, hchanged⟩
      rw [hone, hnew]
      refine ⟨by omega, ?_⟩
      rw [hstat, hcnt]
      by_cases hlast : default.maxReclaims < n + 1
      · exact .inr ⟨by omega, if_pos hlast⟩
      · exact .inl (by omega)
    · have hnone : reclaimed toks id store call = 0 := by
        apply if_neg
        rw [hoth]
        exact fun hboth => absurd hboth.1 (by decide)
      rw [hnone, hnew]
      exact ⟨hcnt'.trans hcnt, .inl hle⟩

theorem ReclaimsCounted.run (toks : LeaseTokens) (h : ReclaimsCounted store id n)
    (calls : List JobCall) :
    ReclaimsCounted (store.run toks calls) id (n + reclaimsOf toks id store calls) := by
  induction calls generalizing store n with
  | nil => exact h
  | cons call calls ih =>
    have hrest := ih (h.step toks call)
    rw [Nat.add_assoc] at hrest
    exact hrest

/-- How often a job is taken back. -/
theorem reclaims_bound (toks : LeaseTokens) (id : String) (calls : List JobCall) :
    reclaimsOf toks id .empty calls ≤ default.maxReclaims + 1 ∧
      (reclaimsOf toks id .empty calls = default.maxReclaims + 1 →
        ∃ job, (empty.run toks calls).jobs[id]? = some job ∧
          job.status = .deadLettered) := by
  have hemp : ReclaimsCounted .empty id 0 := by
    unfold ReclaimsCounted
    rw [empty, Table.getElem?_empty]
  have hcounted := hemp.run toks calls
  rw [Nat.zero_add] at hcounted
  unfold ReclaimsCounted at hcounted
  split at hcounted
  · rw [hcounted]
    exact ⟨Nat.zero_le _, fun h => absurd h (by decide)⟩
  · rename_i job hjob
    obtain ⟨-, hle | ⟨heq, hdead⟩⟩ := hcounted
    · exact ⟨by omega, fun h => by omega⟩
    · exact ⟨le_of_eq heq, fun _ => ⟨job, hjob, hdead⟩⟩

end Reclaims

/-! ### The whole contract -/

/-- **Leases are fenced.**  After any calls with any times:
    a call moves a status only where that is allowed, and never away from a terminal one;
    a job has a token exactly while it is leased or running;
    a start, renew, yield, complete or fail changes a job only if it names the job and carries,
    before the stored expiry, the token of a claim of that job, and the job has had this token
    ever since that claim, so nothing gave it back, and no later claim handed it out;
    a job is in the outbox exactly when it is terminal;
    and it is taken back at most once more than the budget has, the last time for good. -/
theorem job_leases_fenced (toks : LeaseTokens) (calls : List JobCall) :
    (∀ (call : JobCall) (id : String) (job : RuntimeJob),
      (JobStore.after toks calls).jobs[id]? = some job →
      ∃ job', (JobStore.after toks (calls ++ [call])).jobs[id]? = some job' ∧
        job.status.canTransitionTo job'.status = true ∧
        (job.status.isTerminal = true → job' = job)) ∧
    (∀ (id : String) (job : RuntimeJob),
      (JobStore.after toks calls).jobs[id]? = some job →
      (job.leaseOwner ≠ none ↔ job.status = .leased ∨ job.status = .running)) ∧
    (∀ (call : JobCall) (named token : String) (atMs : Int) (id : String),
      call.carried? = some (named, token, atMs) →
      (JobStore.after toks (calls ++ [call])).jobs[id]? ≠
        (JobStore.after toks calls).jobs[id]? →
      id = named ∧
      (∃ job expires, (JobStore.after toks calls).jobs[id]? = some job ∧
        job.leaseExpiresAtMs = some expires ∧ atMs < expires) ∧
      (∃ front req back, calls = front ++ .claim req :: back ∧
        HandsOut toks (JobStore.after toks front) req id token) ∧
      ∀ front req back, calls = front ++ .claim req :: back →
        HandsOut toks (JobStore.after toks front) req id token →
        (∀ mid rest, back = mid ++ rest →
          leaseOf (JobStore.after toks (front ++ .claim req :: mid)) id = some token) ∧
        ∀ mid later rest other, back = mid ++ .claim later :: rest →
          ¬ HandsOut toks (JobStore.after toks (front ++ .claim req :: mid)) later id other) ∧
    (∀ id : String, (JobStore.after toks calls).outbox[id]?.isSome = true ↔
      ∃ job, (JobStore.after toks calls).jobs[id]? = some job ∧
        job.status.isTerminal = true) ∧
    ∀ id : String, reclaimsOf toks id .empty calls ≤
        RuntimeJobLeaseReclaimPolicy.default.maxReclaims + 1 ∧
      (reclaimsOf toks id .empty calls = RuntimeJobLeaseReclaimPolicy.default.maxReclaims + 1 →
        ∃ job, (JobStore.after toks calls).jobs[id]? = some job ∧
          job.status = .deadLettered) := by
  have hsnd := (jobsSound_empty toks).run calls
  refine ⟨?_, ?_, ?_, hsnd.outbox, fun id => reclaims_bound toks id calls⟩
  · intro call id job hjob
    rw [JobStore.after, run_concat]
    exact step_status toks _ call hjob
  · intro id job hjob
    have hown := hsnd.owner id job hjob
    rw [Option.isSome_iff_ne_none] at hown
    rw [hown]
    cases job.status <;> simp [RuntimeJobStatus.isActive]
  · intro call named token atMs id hcarried hchanged
    rw [JobStore.after, run_concat] at hchanged
    obtain ⟨hnamed, job, hjob, hls⟩ := holdsLease_of_changed hcarried hchanged
    obtain ⟨-, htok, expires, hexpires, hpre⟩ := holdsLease_iff.mp hls
    have hheld : leaseOf (JobStore.after toks calls) id = some token := by
      rw [leaseOf, hjob]
      exact htok
    refine ⟨hnamed, ⟨job, expires, hjob, hexpires, hpre⟩, exists_claim calls hheld, ?_⟩
    intro front req back hsp hhanded
    rw [hsp] at hheld
    constructor
    · intro mid rest hback
      exact held_since_claim hhanded hback hheld
    · intro mid later rest other hback
      apply not_handsOut_of_held ((jobsSound_empty toks).run _)
      exact held_since_claim hhanded hback hheld

/-- A job that a worker claims at time 5 for 10 ms. -/
def claimedSample : List JobCall :=
  [.schedule ⟨"j", "k", "i", none, none, 0, 0, [], none, 0, 0, none⟩,
    .claim ⟨5, "w", none, none, none, 1, 10⟩]

example : ((JobStore.after countingTokens (claimedSample ++
    [.complete ⟨"j", "w:", [], 14⟩])).jobs["j"]?.map RuntimeJob.status) = some .succeeded := by
  decide +kernel

example : ((JobStore.after countingTokens (claimedSample ++
    [.complete ⟨"j", "w:", [], 15⟩])).jobs["j"]?.map RuntimeJob.status) = some .leased := by
  decide +kernel

end Centaeris
