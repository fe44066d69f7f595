import Centaeris.Jobs.Supplements

namespace Centaeris

open Foundation SupplementStore Outcome

/-!
# What a call does to a queue of supplements

A queue is read through `QueueView`, for which a run without a queue has an empty one.  What a
call can do to the queue of a run, and to the lease of its job, is said here once.
-/

/-! ### The queue of a run -/

structure QueueView where
  accepting : Bool
  entries : List DurableTurnSupplement
  nextSequence : Nat
  dedupe : Table String String

def StoredQueue.view (queue : StoredQueue) : QueueView :=
  ⟨queue.accepting, queue.entries, queue.nextSequence, queue.dedupe⟩

/-- The queue of a run; a run without one takes messages and has none. -/
def queueOf (store : SupplementStore) (run : String) : QueueView :=
  match store.queues[run]? with
  | some queue => queue.view
  | none => ⟨true, [], 1, ∅⟩

def runJobId (run : String) : String := "agent_run.lifecycle:" ++ trim run

/-- The token under which the job of a run is held. -/
def runLease (store : SupplementStore) (run : String) : Option String :=
  leaseOf store.jobs (runJobId run)

section Pieces

variable {store store' : SupplementStore} {run : String}

variable {agentRunId failed : String} {queue : StoredQueue}

theorem storeQueue_eq_ok (h : storeQueue store agentRunId queue failed = .ok store') :
    store' = { store with queues := store.queues.insert agentRunId queue } := by
  simp only [storeQueue, ok_rules] at h
  exact h.2.symm

theorem insertQueue_eq_ok (h : insertQueue store agentRunId queue failed = .ok store') :
    store' = { store with queues := store.queues.insert agentRunId queue } := by
  simp only [insertQueue, ok_rules] at h
  exact storeQueue_eq_ok h.2

/-- The queues after one of them is written. -/
theorem queueOf_insert (agentRunId : String) (queue : StoredQueue) (run : String) :
    queueOf { store with queues := store.queues.insert agentRunId queue } run =
      if agentRunId = run then queue.view else queueOf store run := by
  rw [queueOf, Table.getElem?_insert]
  by_cases hrun : agentRunId = run
  · rw [if_pos hrun, if_pos hrun]
  · rw [if_neg hrun, if_neg hrun, queueOf]

variable {identity : RunIdentity} {u : Unit}

theorem lifecycleJobId_eq (h : validateCommonIdentity identity = .ok u) :
    identity.lifecycleJobId = runJobId identity.agentRunId := by
  simp only [validateCommonIdentity, agentRunLifecycleJobId, ok_rules, beq_iff_eq] at h
  obtain ⟨-, jobId, ⟨-, rfl⟩, hsame⟩ := h
  exact hsame

variable {owner : String} {atMs : Int} {reject : Bool}

/-- A call under a lease is one of the worker that holds the job. -/
theorem runLease_of_validate {u' : Unit} (hident : validateCommonIdentity identity = .ok u)
    (hact : validateActiveJob store identity (some (owner, atMs)) reject = .ok u') :
    runLease store identity.agentRunId = some owner := by
  simp only [validateActiveJob, ok_rules, Option.all_some, Bool.and_eq_true] at hact
  obtain ⟨-, job, hjob, -, -, hls⟩ := hact
  rw [runLease, ← lifecycleJobId_eq hident, leaseOf, hjob]
  exact (holdsLease_iff.mp hls).2.1

theorem wakeLifecycleJob_spec (store : SupplementStore) (req : EnqueueTurnSupplementRequest) :
    (wakeLifecycleJob store req).queues = store.queues ∧
      (wakeLifecycleJob store req).jobs.issued = store.jobs.issued ∧
      ∀ id, leaseOf (wakeLifecycleJob store req).jobs id = leaseOf store.jobs id := by
  unfold wakeLifecycleJob
  split
  · rename_i job hjob
    split
    · refine ⟨rfl, rfl, ?_⟩
      intro id
      rw [leaseOf, leaseOf, Table.getElem?_insert]
      by_cases hid : req.lifecycleJobId = id
      · rw [if_pos hid, ← hid, hjob]
        rfl
      · rw [if_neg hid]
    · exact ⟨rfl, rfl, fun id => rfl⟩
  · exact ⟨rfl, rfl, fun id => rfl⟩

end Pieces

/-! ### Which entries a claim hands out -/

/-- An entry that no claim with this token was given. -/
def isFresh (token : String) (entry : DurableTurnSupplement) : Bool :=
  decide (entry.claimToken ≠ some token)

/-- An entry as a claim leaves it: those that have the token are as they were. -/
def retag (token owner : String) (entry : DurableTurnSupplement) : DurableTurnSupplement :=
  if entry.claimToken = some token then entry else entry.claimedBy token owner

variable {token : String} {limit : Nat}

/-- **The loop of a claim.** It passes a front part of the queue; there it hands out what did not
    have the token, none of which this owner had, and it stops early only when it may not hand
    out more. -/
theorem claimEntries_spec {owner : String} {entries entries' claimed :
      List DurableTurnSupplement} (hlim : limit ≠ 0)
    (h : claimEntries token owner limit entries = .ok (entries', claimed)) :
    ∃ front back, entries = front ++ back ∧ entries' = front.map (retag token owner) ++ back ∧
      claimed = (front.filter (isFresh token)).map (·.claimedBy token owner) ∧
      (∀ entry ∈ front, entry.claimToken ≠ some token → entry.claimLeaseOwner ≠ some owner) ∧
      (back = [] ∨ claimed.length = limit) := by
  induction entries generalizing limit entries' claimed with
  | nil =>
    cases h
    exact ⟨[], [], rfl, rfl, rfl, nofun, .inl rfl⟩
  | cons entry rest ih =>
    rw [claimEntries] at h
    by_cases htok : entry.claimToken = some token
    · -- the entry has the token: it is skipped
      simp only [if_pos htok, ok_rules, Prod.exists, Prod.mk.injEq] at h
      obtain ⟨rest', claimed', hrest, rfl, rfl⟩ := h
      obtain ⟨front, back, rfl, rfl, hclaimed, hown, hend⟩ := ih hlim hrest
      refine ⟨entry :: front, back, rfl, ?_, ?_, ?_, hend⟩
      · rw [List.map_cons, retag, if_pos htok]
        rfl
      · rw [List.filter_cons_of_neg (by simp [isFresh, htok])]
        exact hclaimed
      · intro other hoth hfr
        rcases List.mem_cons.mp hoth with rfl | hoth
        · exact absurd htok hfr
        · exact hown other hoth hfr
    · rw [if_neg htok] at h
      by_cases hbusy : entry.claimLeaseOwner = some owner
      · rw [if_pos hbusy] at h
        cases h
      · rw [if_neg hbusy] at h
        have hfr : isFresh token entry = true := decide_eq_true htok
        by_cases hone : limit = 1
        · rw [if_pos hone] at h
          cases h
          refine ⟨[entry], rest, rfl, ?_, ?_, ?_, .inr hone.symm⟩
          · rw [List.map_singleton, retag, if_neg htok]
            rfl
          · rw [List.filter_cons_of_pos hfr]
            rfl
          · intro other hoth _
            rw [List.mem_singleton.mp hoth]
            exact hbusy
        · simp only [if_neg hone, ok_rules, Prod.exists, Prod.mk.injEq] at h
          obtain ⟨rest', claimed', hrest, rfl, rfl⟩ := h
          obtain ⟨front, back, rfl, rfl, hclaimed, hown, hend⟩ :=
            ih (show limit - 1 ≠ 0 by omega) hrest
          refine ⟨entry :: front, back, rfl, ?_, ?_, ?_, ?_⟩
          · rw [List.map_cons, retag, if_neg htok]
            rfl
          · rw [List.filter_cons_of_pos hfr, List.map_cons, hclaimed]
          · intro other hoth hfr
            rcases List.mem_cons.mp hoth with rfl | hoth
            · exact hbusy
            · exact hown other hoth hfr
          · refine hend.imp_right fun hlen => ?_
            rw [List.length_cons]
            omega

/-- A claim that hands out nothing leaves the entries. -/
theorem claimEntries_of_nil {owner : String} {entries entries' : List DurableTurnSupplement}
    (hlim : limit ≠ 0) (h : claimEntries token owner limit entries = .ok (entries', [])) :
    entries' = entries := by
  obtain ⟨front, back, rfl, rfl, hclaimed, -, -⟩ := claimEntries_spec hlim h
  have hnone : front.filter (isFresh token) = [] := List.map_eq_nil_iff.mp hclaimed.symm
  rw [List.filter_eq_nil_iff] at hnone
  have hsame : front.map (retag token owner) = front := by
    conv_rhs => rw [← List.map_id front]
    apply List.map_congr_left
    intro entry hent
    have htok : entry.claimToken = some token := by
      by_contra hfr
      exact hnone entry hent (decide_eq_true hfr)
    rw [retag, if_pos htok, id]
  rw [hsame]

/-! ### What a call does to the queue of a run -/

/-- A claim answers with these entries. -/
def HandsOutSupplements (store : SupplementStore) (req : ClaimTurnSupplementsRequest)
    (claimed : List DurableTurnSupplement) : Prop :=
  ∃ store', claimTurnSupplements store req = .ok (store', claimed)

/-- An enqueue answers that it has accepted its message. -/
def AcceptsSupplement (host : SupplementHost) (store : SupplementStore)
    (req : EnqueueTurnSupplementRequest) : Prop :=
  (enqueueTurnSupplement host.digest store req).map (·.2.disposition) = .ok .accepted

/-- The queue with an accepted message at its end, under the next sequence. -/
def QueueView.accept (host : SupplementHost) (req : EnqueueTurnSupplementRequest)
    (view : QueueView) : QueueView :=
  ⟨true, view.entries ++
      [⟨req.supplementId, view.nextSequence, trim req.message, req.createdAtMs, none, none⟩],
    view.nextSequence + 1, view.dedupe.insert req.supplementId (host.digest (trim req.message))⟩

/-- What a call does to the queue of a run. -/
inductive ViewStep (host : SupplementHost) (store : SupplementStore) (run : String)
    (view : QueueView) : QueueView → SupplementCall → Prop
  | same {call : SupplementCall} : ViewStep host store run view view call
  | accepted {req : EnqueueTurnSupplementRequest} (hrun : req.agentRunId = run)
      (hopen : view.accepting = true) (hnew : view.dedupe[req.supplementId]? = none)
      (haccepts : AcceptsSupplement host store req) :
      ViewStep host store run view (view.accept host req) (.enqueue req)
  | claimed {req : ClaimTurnSupplementsRequest} {entries claimed : List DurableTurnSupplement}
      (hrun : req.agentRunId = run) (hls : runLease store run = some req.leaseOwner)
      (hlim : req.limit ≠ 0) (hhanded : HandsOutSupplements store req claimed)
      (hclm : claimEntries req.claimToken req.leaseOwner req.limit view.entries =
        .ok (entries, claimed)) :
      ViewStep host store run view
        { view with
          entries := entries
          accepting := !(req.closeIfEmpty && entries.isEmpty) && view.accepting } (.claim req)
  | acknowledged {req : AcknowledgeTurnSupplementsRequest} (hrun : req.agentRunId = run)
      (hls : runLease store run = some req.leaseOwner)
      (htagged : ∀ entry ∈ view.entries, entry.supplementId ∈ req.supplementIds →
        entry.claimToken = some req.claimToken ∧ entry.claimLeaseOwner = some req.leaseOwner) :
      ViewStep host store run view
        { view with
          entries := view.entries.filter fun entry =>
            !req.supplementIds.contains entry.supplementId } (.acknowledge req)
  | closed {req : CloseTurnSupplementQueueRequest} (hrun : req.agentRunId = run) :
      ViewStep host store run view { view with accepting := false, entries := [] } (.close req)

section Steps

variable {host : SupplementHost} {store store' : SupplementStore}

/-- What a claim that succeeds reads and writes. -/
theorem claim_view {req : ClaimTurnSupplementsRequest} {claimed : List DurableTurnSupplement}
    (h : claimTurnSupplements store req = .ok (store', claimed)) :
    runLease store req.agentRunId = some req.leaseOwner ∧ req.limit ≠ 0 ∧
      store'.jobs = store.jobs ∧
      ∃ entries, claimEntries req.claimToken req.leaseOwner req.limit
          (queueOf store req.agentRunId).entries = .ok (entries, claimed) ∧
        ∀ run, queueOf store' run = if req.agentRunId = run then
          { queueOf store req.agentRunId with
            entries := entries
            accepting := !(req.closeIfEmpty && entries.isEmpty) &&
              (queueOf store req.agentRunId).accepting }
          else queueOf store run := by
  simp only [claimTurnSupplements, validateClaimIdentity, ok_rules, Bool.and_eq_true, bne_iff_ne]
    at h
  obtain ⟨⟨hident, ⟨-, hlim⟩, -⟩, hact, h⟩ := h
  refine ⟨runLease_of_validate hident hact, hlim, ?_⟩
  cases hst : store.queues[req.agentRunId]? with
  | none =>
    have hview : queueOf store req.agentRunId = ⟨true, [], 1, ∅⟩ := by rw [queueOf, hst]
    simp only [hst] at h
    split at h
    · rename_i hclose
      simp only [ok_rules, Prod.mk.injEq] at h
      obtain ⟨inserted, hinsert, rfl, rfl⟩ := h
      cases insertQueue_eq_ok hinsert
      refine ⟨rfl, [], by rw [hview]; rfl, ?_⟩
      intro run
      rw [queueOf_insert, hview, hclose]
      rfl
    · rename_i hopen
      cases h
      refine ⟨rfl, [], by rw [hview]; rfl, ?_⟩
      intro run
      by_cases hrun : req.agentRunId = run
      · rw [if_pos hrun, ← hrun, hview, Bool.not_eq_true _ |>.mp hopen]
        rfl
      · rw [if_neg hrun]
  | some queue =>
    have hview : queueOf store req.agentRunId = queue.view := by rw [queueOf, hst]
    simp only [hst, ok_rules, Prod.exists] at h
    obtain ⟨-, entries, claimed', hclm, h⟩ := h
    rw [hview]
    split at h
    · simp only [updateQueue, ok_rules, Prod.mk.injEq] at h
      obtain ⟨updated, hupdate, rfl, rfl⟩ := h
      cases storeQueue_eq_ok hupdate
      refine ⟨rfl, entries, hclm, ?_⟩
      intro run
      rw [queueOf_insert]
      rfl
    · rename_i hidle
      cases h
      simp only [Bool.or_eq_true, not_or, Bool.not_eq_true, Bool.not_eq_false',
        List.isEmpty_iff] at hidle
      obtain ⟨rfl, hopen⟩ := hidle
      have hents := claimEntries_of_nil hlim hclm
      refine ⟨rfl, entries, hclm, ?_⟩
      intro run
      by_cases hrun : req.agentRunId = run
      · rw [if_pos hrun, ← hrun, hview, hopen, hents]
        rfl
      · rw [if_neg hrun]

variable {req : EnqueueTurnSupplementRequest} {result : EnqueueTurnSupplementResult}

/-- What an enqueue that succeeds does: nothing, or it adds an entry. -/
theorem enqueue_view (h : enqueueTurnSupplement host.digest store req = .ok (store', result)) :
    (result.disposition = .duplicate ∧ store' = store) ∨
      (result.disposition = .accepted ∧ (queueOf store req.agentRunId).accepting = true ∧
        (queueOf store req.agentRunId).dedupe[req.supplementId]? = none ∧
        store'.jobs.issued = store.jobs.issued ∧
        (∀ id, leaseOf store'.jobs id = leaseOf store.jobs id) ∧
        ∀ run, queueOf store' run = if req.agentRunId = run then
          (queueOf store req.agentRunId).accept host req else queueOf store run) := by
  simp only [enqueueTurnSupplement, validateTurnSupplementMessage, ok_rules] at h
  obtain ⟨message, ⟨-, -, rfl⟩, -, -, -, -, h⟩ := h
  -- both kinds of row are read through the view
  have hview : ((store.queues[req.agentRunId]?).getD (emptyQueue req.toRunIdentity)).view =
      queueOf store req.agentRunId := by
    rw [queueOf]
    cases store.queues[req.agentRunId]? with
    | none => rfl
    | some queue => rfl
  generalize hqueue : (store.queues[req.agentRunId]?).getD (emptyQueue req.toRunIdentity) =
    queue at h hview
  split at h
  · simp only [ok_rules, Prod.mk.injEq] at h
    obtain ⟨-, rfl, rfl⟩ := h
    exact .inl ⟨rfl, rfl⟩
  · rename_i hnew
    simp only [ok_rules, Prod.mk.injEq] at h
    obtain ⟨hopen, -, stored, hst, rfl, rfl⟩ := h
    obtain ⟨hqueues, hissued, hleases⟩ := wakeLifecycleJob_spec stored req
    have hwr : stored = { store with
        queues := store.queues.insert req.agentRunId
          (queue.push req.supplementId (trim req.message) (host.digest (trim req.message))
            req.createdAtMs) } := by
      unfold writePushed at hst
      split at hst
      · exact insertQueue_eq_ok hst
      · exact storeQueue_eq_ok hst
    have hqueueOf : ∀ run, queueOf (wakeLifecycleJob stored req) run = queueOf stored run := by
      intro run
      rw [queueOf, queueOf, hqueues]
    rw [← hview]
    subst hwr
    refine .inr ⟨rfl, hopen, hnew, hissued, hleases, ?_⟩
    intro run
    rw [hqueueOf run, queueOf_insert]
    split
    · show QueueView.mk queue.accepting _ _ _ = _
      rw [hopen]
      rfl
    · rfl

theorem acknowledge_view {req : AcknowledgeTurnSupplementsRequest}
    (h : acknowledgeTurnSupplements store req = .ok store') :
    runLease store req.agentRunId = some req.leaseOwner ∧ store'.jobs = store.jobs ∧
      (∀ entry ∈ (queueOf store req.agentRunId).entries,
        entry.supplementId ∈ req.supplementIds →
        entry.claimToken = some req.claimToken ∧ entry.claimLeaseOwner = some req.leaseOwner) ∧
      ∀ run, queueOf store' run = if req.agentRunId = run then
        { queueOf store req.agentRunId with
          entries := (queueOf store req.agentRunId).entries.filter fun entry =>
            !req.supplementIds.contains entry.supplementId }
        else queueOf store run := by
  simp only [acknowledgeTurnSupplements, validateAckIdentity, ok_rules] at h
  obtain ⟨⟨hident, -⟩, hact, queue, hst, h⟩ := h
  have hview : queueOf store req.agentRunId = queue.view := by rw [queueOf, hst]
  refine ⟨runLease_of_validate hident hact, ?_⟩
  rw [hview]
  split at h
  · -- nothing matched: the filter keeps every entry
    rename_i hnone
    cases h
    have hoth : ∀ entry ∈ queue.entries, ¬ entry.supplementId ∈ req.supplementIds := by
      rw [List.isEmpty_iff, List.filter_eq_nil_iff] at hnone
      intro entry hent hin
      exact hnone entry hent (List.contains_iff_mem.mpr hin)
    refine ⟨rfl, fun entry hent hin => absurd hin (hoth entry hent), ?_⟩
    intro run
    by_cases hrun : req.agentRunId = run
    · have hkept : (queue.entries.filter fun entry =>
          !req.supplementIds.contains entry.supplementId) = queue.entries := by
        rw [List.filter_eq_self]
        intro entry hent
        rw [Bool.not_eq_true', ← Bool.not_eq_true, List.contains_iff_mem]
        exact hoth entry hent
      rw [if_pos hrun, ← hrun, hview]
      show _ = QueueView.mk _ (queue.entries.filter _) _ _
      rw [hkept]
      rfl
    · rw [if_neg hrun]
  · simp only [ok_rules, bool_rules, List.all_eq_true, List.mem_filter, updateQueue] at h
    obtain ⟨⟨-, htagged⟩, hupdate⟩ := h
    cases storeQueue_eq_ok hupdate
    refine ⟨rfl, ?_, ?_⟩
    · intro entry hent hin
      exact htagged entry ⟨hent, List.contains_iff_mem.mpr hin⟩
    · intro run
      rw [queueOf_insert]
      rfl

theorem close_view {req : CloseTurnSupplementQueueRequest}
    (h : closeTurnSupplementQueue store req = .ok store') :
    store'.jobs = store.jobs ∧ ∀ run, queueOf store' run = if req.agentRunId = run then
      { queueOf store req.agentRunId with accepting := false, entries := [] }
      else queueOf store run := by
  simp only [closeTurnSupplementQueue, ok_rules] at h
  obtain ⟨-, -, h⟩ := h
  cases hst : store.queues[req.agentRunId]? with
  | none =>
    simp only [hst] at h
    cases insertQueue_eq_ok h
    refine ⟨rfl, ?_⟩
    intro run
    rw [queueOf_insert]
    have hview : queueOf store req.agentRunId = ⟨true, [], 1, ∅⟩ := by rw [queueOf, hst]
    rw [hview]
    rfl
  | some queue =>
    simp only [hst, ok_rules, updateQueue] at h
    cases storeQueue_eq_ok h.2
    refine ⟨rfl, ?_⟩
    intro run
    rw [queueOf_insert]
    have hview : queueOf store req.agentRunId = queue.view := by rw [queueOf, hst]
    rw [hview]
    rfl

theorem step_view (host : SupplementHost) (store : SupplementStore) (call : SupplementCall)
    (run : String) :
    ViewStep host store run (queueOf store run) (queueOf (store.step host call) run) call := by
  cases h : store.perform host call with
  | error failure =>
    rw [step, h]
    exact .same
  | ok store' =>
    have hstep : store.step host call = store' := by rw [step, h]
    rw [hstep]
    cases call with
    | enqueue req =>
      simp only [perform, map_eq_pure_bind, ok_rules, Prod.exists] at h
      obtain ⟨_, result, h, rfl⟩ := h
      rcases enqueue_view h with
        ⟨-, rfl⟩ | ⟨hacc, hopen, hnew, -, -, hqueues⟩
      · exact .same
      · rw [hqueues run]
        by_cases hrun : req.agentRunId = run
        · have haccepts : AcceptsSupplement host store req := by
            rw [AcceptsSupplement, h]
            exact congrArg Except.ok hacc
          rw [if_pos hrun]
          rw [hrun] at hopen hnew ⊢
          exact .accepted hrun hopen hnew haccepts
        · rw [if_neg hrun]
          exact .same
    | claim req =>
      simp only [perform, map_eq_pure_bind, ok_rules, Prod.exists] at h
      obtain ⟨_, claimed, h, rfl⟩ := h
      obtain ⟨hls, hlim, -, entries, hclm, hqueues⟩ := claim_view h
      rw [hqueues run]
      by_cases hrun : req.agentRunId = run
      · rw [if_pos hrun]
        rw [hrun] at hls hclm ⊢
        exact .claimed hrun hls hlim ⟨_, h⟩ hclm
      · rw [if_neg hrun]
        exact .same
    | acknowledge req =>
      obtain ⟨hls, -, htagged, hqueues⟩ := acknowledge_view h
      rw [hqueues run]
      by_cases hrun : req.agentRunId = run
      · rw [if_pos hrun]
        rw [hrun] at hls htagged ⊢
        exact .acknowledged hrun hls htagged
      · rw [if_neg hrun]
        exact .same
    | close req =>
      obtain ⟨-, hqueues⟩ := close_view h
      rw [hqueues run]
      by_cases hrun : req.agentRunId = run
      · rw [if_pos hrun, hrun]
        exact .closed hrun
      · rw [if_neg hrun]
        exact .same
    | job call =>
      cases h
      exact .same
    | requestCancel agentRunId =>
      cases h
      exact .same
    | park sessions =>
      cases h
      exact .same

/-- A token that lost the run's job never gets it back. -/
theorem step_jobs (host : SupplementHost) (store : SupplementStore) (call : SupplementCall) :
    ((store.step host call).jobs.issued = store.jobs.issued ∧
      ∀ id, leaseOf (store.step host call).jobs id = leaseOf store.jobs id) ∨
    ∃ jobCall, (store.step host call).jobs = store.jobs.step host.tokens jobCall := by
  cases h : store.perform host call with
  | error failure =>
    have hstep : store.step host call = store := by rw [step, h]
    rw [hstep]
    exact .inl ⟨rfl, fun id => rfl⟩
  | ok store' =>
    have hstep : store.step host call = store' := by rw [step, h]
    rw [hstep]
    cases call with
    | enqueue req =>
      simp only [perform, map_eq_pure_bind, ok_rules, Prod.exists] at h
      obtain ⟨_, result, h, rfl⟩ := h
      rcases enqueue_view h with ⟨-, rfl⟩ | ⟨-, -, -, hissued, hleases, -⟩
      · exact .inl ⟨rfl, fun id => rfl⟩
      · exact .inl ⟨hissued, hleases⟩
    | claim req =>
      simp only [perform, map_eq_pure_bind, ok_rules, Prod.exists] at h
      obtain ⟨_, claimed, h, rfl⟩ := h
      obtain ⟨-, -, hjobs, -⟩ := claim_view h
      rw [hjobs]
      exact .inl ⟨rfl, fun id => rfl⟩
    | acknowledge req =>
      rw [(acknowledge_view h).2.1]
      exact .inl ⟨rfl, fun id => rfl⟩
    | close req =>
      rw [(close_view h).1]
      exact .inl ⟨rfl, fun id => rfl⟩
    | job call =>
      cases h
      exact .inr ⟨call, rfl⟩
    | requestCancel agentRunId =>
      cases h
      exact .inl ⟨rfl, fun id => rfl⟩
    | park sessions =>
      cases h
      exact .inl ⟨rfl, fun id => rfl⟩

end Steps

/-! ### Leases over a run -/

/-- Every job is held under a token that was generated. -/
def LeasesGenerated (host : SupplementHost) (store : SupplementStore) : Prop :=
  ∀ id token, leaseOf store.jobs id = some token → Generated host.tokens store.jobs.issued token

section Leases

variable {host : SupplementHost} {store : SupplementStore} {token : String}

theorem after_concat (host : SupplementHost) (calls : List SupplementCall) (call : SupplementCall) :
    after host (calls ++ [call]) =
      (after host calls).step host call := by
  rw [after, List.foldl_concat]
  rfl

theorem LeasesGenerated.step (h : LeasesGenerated host store) (call : SupplementCall) :
    LeasesGenerated host (store.step host call) := by
  intro id token htok
  rcases step_jobs host store call with ⟨hissued, hleases⟩ | ⟨jobCall, hjobs⟩
  · rw [hleases] at htok
    rw [hissued]
    exact h id token htok
  · rw [hjobs] at htok ⊢
    exact generated_step h htok

theorem leasesGenerated_after (host : SupplementHost) (calls : List SupplementCall) :
    LeasesGenerated host (after host calls) := by
  induction calls using List.reverseRecOn with
  | nil =>
    intro id token htok
    exact (jobsSound_empty host.tokens).generated id token htok
  | append_singleton calls call ih =>
    rw [after_concat]
    exact ih.step call

variable {id : String}

/-- A worker that holds a job now and later held it at every moment between. -/
theorem held_between {front mid back : List SupplementCall}
    (hpre : leaseOf (after host front).jobs id = some token)
    (haft : leaseOf (after host (front ++ mid ++ back)).jobs id = some token) :
    leaseOf (after host (front ++ mid)).jobs id = some token := by
  have hgenerated : Generated host.tokens (after host (front ++ mid)).jobs.issued
      token := by
    clear haft
    induction mid using List.reverseRecOn with
    | nil =>
      rw [List.append_nil]
      exact leasesGenerated_after host front id token hpre
    | append_singleton mid call ih =>
      rw [← List.append_assoc, after_concat]
      rcases step_jobs host (after host (front ++ mid)) call with
        ⟨hissued, -⟩ | ⟨jobCall, hjobs⟩
      · rw [hissued]
        exact ih
      · rw [hjobs]
        exact ih.step jobCall
  by_contra hlost
  have hnever : ∀ back, Generated host.tokens
      (after host (front ++ mid ++ back)).jobs.issued token ∧
        leaseOf (after host (front ++ mid ++ back)).jobs id ≠ some token := by
    intro back
    induction back using List.reverseRecOn with
    | nil =>
      rw [List.append_nil]
      exact ⟨hgenerated, hlost⟩
    | append_singleton back call ih =>
      rw [← List.append_assoc, after_concat]
      rcases step_jobs host (after host (front ++ mid ++ back)) call with
        ⟨hissued, hleases⟩ | ⟨jobCall, hjobs⟩
      · rw [hissued, hleases]
        exact ih
      · rw [hjobs]
        exact ⟨ih.1.step jobCall, lost_lease_step ih.1 ih.2 jobCall⟩
  exact (hnever back).2 haft

end Leases

end Centaeris
