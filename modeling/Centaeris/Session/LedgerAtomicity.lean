import Centaeris.Session.LedgerCalls
import Centaeris.Session.LedgerEffects

namespace Centaeris

open Foundation Outcome AgentRunSessionState Mutation

/-!
# What a failed call leaves in the ledger

`AgentRunSessionState.track` checks and writes in turn.  A call that fails between two
writes leaves the first one behind, so the ledger is not the one before the call.
-/

variable {ct : PayloadContracts} {ledger ledger' : AgentRunSessionState}
  {event : SessionLogRecord} {sequence : UInt64} {e : Failure}

namespace AgentRunSessionState

/-- The records with which a failing `trackRecord` has already written. -/
inductive WrittenFirst (ct : PayloadContracts) (ledger : AgentRunSessionState)
    (event : SessionLogRecord) : Prop
  | stale (hty : event.eventType = .toolCall ∨ event.eventType = .toolResult)
      (hcheckpointed : ledger.toolLedgerCheckpointed = true)
  | recovery {eid checkpointId : String}
      (hty : event.eventType = .agentRunExecutionStarted)
      (hchecks : checkExecutionStart event.payload ledger = .ok (eid, some checkpointId))
  | compaction {existing : String} (hty : event.eventType = .compaction)
      (hkn : ledger.compactionRecordDigests[event.eventId]? = some existing)
      (hoth : existing ≠ compactionRecordDigest ct event)
  | request {requestId : String} {identity existing : String × String}
      (hty : event.eventType = .modelRequestStarted)
      (hpurpose : statePayloadText? event.payload "purpose" = some "compaction")
      (hident : compactionRequestIdentity ct event = .ok (requestId, identity))
      (hkn : ledger.compactionRequestIdentities[requestId]? = some existing)
      (hoth : existing ≠ identity)
  | usage {turnId : String} {existing : Json} (hty : event.eventType = .providerUsage)
      (hturn : event.turnId = some turnId) (hkn : ledger.providerUsages[turnId]? = some existing)
      (hoth : existing ≠ event.payload)
  | checkpoint {checkpointId : String} (hty : event.eventType = .checkpointRef)
      (hid : statePayloadText? event.payload "checkpointId" = some checkpointId)
      (hnew : checkpointId ∉ ledger.committedCheckpointIds)
  | publication {publicationId : String} (hty : event.eventType = .artifactPublished)
      (hid : statePayloadText? event.payload "publicationId" = some publicationId)
      (hnew : ledger.artifactPublicationIdentities[publicationId]? = none)

/-- A record leaves a trace when it fails after the reasoning part or an early write has
    changed the ledger. -/
def LeavesTrace (ct : PayloadContracts) (ledger : AgentRunSessionState)
    (event : SessionLogRecord) : Prop :=
  ∃ reasoning, ledger.reasoning.apply event = .ok reasoning ∧
    (reasoning ≠ ledger.reasoning ∨ WrittenFirst ct ledger event)

/-- What `WrittenFirst` asks of a record of a type. -/
def WritesFirst (ct : PayloadContracts) (ledger : AgentRunSessionState)
    (event : SessionLogRecord) : SessionRecordType → Prop
  | .toolCall | .toolResult => ledger.toolLedgerCheckpointed = true
  | .agentRunExecutionStarted => ∃ start, checkExecutionStart event.payload ledger = .ok start ∧
      start.2 ≠ none
  | .compaction => ∃ existing, ledger.compactionRecordDigests[event.eventId]? = some existing ∧
      existing ≠ compactionRecordDigest ct event
  | .modelRequestStarted => statePayloadText? event.payload "purpose" = some "compaction" ∧
      ∃ request, compactionRequestIdentity ct event = .ok request ∧
      ∃ existing, ledger.compactionRequestIdentities[request.1]? = some existing ∧
        existing ≠ request.2
  | .providerUsage => ∃ turnId, event.turnId = some turnId ∧
      ∃ existing, ledger.providerUsages[turnId]? = some existing ∧ existing ≠ event.payload
  | .checkpointRef => ∃ checkpointId, statePayloadText? event.payload "checkpointId" =
      some checkpointId ∧ checkpointId ∉ ledger.committedCheckpointIds
  | .artifactPublished => ∃ publicationId, statePayloadText? event.payload "publicationId" =
      some publicationId ∧ ledger.artifactPublicationIdentities[publicationId]? = none
  | _ => False

theorem writtenFirst_iff : WrittenFirst ct ledger event ↔
    WritesFirst ct ledger event event.eventType := by
  constructor
  · intro h
    cases h with
    | stale hty hcheckpointed =>
      rcases hty with hty | hty
      all_goals
        rw [hty]
        exact hcheckpointed
    | recovery hty hchecks =>
      rw [hty]
      exact ⟨_, hchecks, nofun⟩
    | request hty hpurpose hident hkn hoth =>
      rw [hty]
      exact ⟨hpurpose, _, hident, _, hkn, hoth⟩
    | usage hty hturn hkn hoth =>
      rw [hty]
      exact ⟨_, hturn, _, hkn, hoth⟩
    | compaction hty hfst hsec | checkpoint hty hfst hsec
    | publication hty hfst hsec =>
      rw [hty]
      exact ⟨_, hfst, hsec⟩
  · unfold WritesFirst
    split
    · exact .stale (.inl (by assumption))
    · exact .stale (.inr (by assumption))
    · rintro ⟨⟨eid, recovered⟩, hchecks, hsome⟩
      obtain ⟨checkpointId, rfl⟩ := Option.ne_none_iff_exists'.mp hsome
      exact .recovery (by assumption) hchecks
    · rintro ⟨_, hkn, hoth⟩
      exact .compaction (by assumption) hkn hoth
    · rintro ⟨hpurpose, _, hident, _, hkn, hoth⟩
      exact .request (by assumption) hpurpose hident hkn hoth
    · rintro ⟨_, hturn, _, hkn, hoth⟩
      exact .usage (by assumption) hturn hkn hoth
    · rintro ⟨_, hid, hnew⟩
      exact .checkpoint (by assumption) hid hnew
    · rintro ⟨_, hid, hnew⟩
      exact .publication (by assumption) hid hnew
    · exact False.elim

/-! ### Records that are written at once -/

open Mutation (Atomic FailsAt)

theorem atomic_trackRecoveryAttempt : Atomic (trackRecoveryAttempt event) :=
  .query_bind fun _ => .query_bind fun _ => .query_bind fun _ => .update _

theorem atomic_trackExecutionEnded : Atomic (trackExecutionEnded event) :=
  .query_bind fun _ => .query_bind fun _ => .update _

theorem atomic_trackAssistantMessage : Atomic (trackAssistantMessage event) :=
  .query_bind fun _ => .query_bind fun _ => .query_bind fun _ => .query_bind fun _ =>
    .query_bind fun _ => .query_bind fun _ => .update _

theorem atomic_trackPhaseEvent : Atomic (trackPhaseEvent ct event) := by
  refine .query_bind fun turnId => ?_
  split
  · exact .query_bind fun _ => .update _
  · exact .query_bind fun _ => .update _

theorem atomic_trackMainRequest : Atomic (trackMainRequest event) :=
  .query_bind fun _ => .query_bind fun _ => .update _

theorem atomic_trackTurnSupplement : Atomic (trackTurnSupplement event) :=
  .query_bind fun _ => .query_bind fun _ => .update _

theorem atomic_trackHostEventInput : Atomic (trackHostEventInput ct event) :=
  .query_bind fun _ => .query_bind fun _ => .query_bind fun _ => .query_bind fun _ => .update _

theorem atomic_trackCitationRecorded : Atomic (trackCitationRecorded event sequence) :=
  .query_bind fun _ => .update _

theorem atomic_trackExternalEvidenceRef : Atomic (trackExternalEvidenceRef event) :=
  .query_bind fun _ => .update _

/-! ### Records that are written in steps -/

theorem failsAt_stale {rest : Unit → Call Unit} (hrest : Atomic (rest ())) :
    FailsAt (·.reasoning) (ledger.toolLedgerCheckpointed = true) (staleCheckpoint >>= rest)
      ledger := by
  refine .update_bind hrest rfl fun _ _ => ?_
  rw [← Bool.not_eq_false, Ne, not_iff_not]
  refine ⟨fun hstale => by rw [← hstale], fun hsame => ?_⟩
  exact (congrArg (·.toolLedgerCheckpointed) hsame).symm

variable {α : Type} {message : String}

/-- A value that is written first, and then refused for another one in its place. -/
theorem replaced_iff [BEq α] [LawfulBEq α] {table : Table String α} {key : String} {value : α}
    {failure : Failure} (h : ensure (table[key]?.all (· == value)) message = .error failure) :
    (∃ existing, table[key]? = some existing ∧ existing ≠ value) ∧
      table.insert key value ≠ table := by
  cases hkn : table[key]? with
  | none =>
    rw [hkn] at h
    cases h
  | some existing =>
    have hoth : existing ≠ value := by
      rintro rfl
      simp [hkn, ensure] at h
    refine ⟨⟨existing, rfl, hoth⟩, fun hsame => ?_⟩
    rw [Table.insert_eq_self_iff, hkn] at hsame
    exact hoth (Option.some.inj hsame)

theorem failsAt_read {γ : Type} {view : AgentRunSessionState → γ} {value : Option α}
    {rest : α → Call Unit} {P : α → Prop}
    (h : ∀ a, value = some a → FailsAt view (P a) (rest a) ledger) :
    FailsAt view (∃ a, value = some a ∧ P a) (read (orFail value message) >>= rest) ledger := by
  have hread : ∀ a, value = some a ↔ orFail value message = .ok a := fun a => orFail_eq_ok.symm
  simp only [hread] at h ⊢
  exact .query_bind_exists h

theorem failsAt_trackExecutionStarted : FailsAt (·.reasoning)
    (WritesFirst ct ledger event .agentRunExecutionStarted) (trackExecutionStarted event)
      ledger := by
  apply FailsAt.query_bind_exists
  rintro ⟨eid, recovered⟩ hchecks
  refine .update_bind (.query_bind fun _ => .update _) rfl fun _ _ => ?_
  cases recovered with
  | none => simp
  | some checkpointId =>
    -- the checkpoint was not used before
    have hunused : checkpointId ∉ ledger.usedRecoveryCheckpointIds := by
      simp only [checkExecutionStart, ok_rules, Prod.mk.injEq] at hchecks
      obtain ⟨_, -, -, -, found, -, -, -, hunused, -, rfl⟩ := hchecks
      simpa using hunused
    refine iff_of_true (by rintro ⟨⟩) fun hsame => ?_
    have hused := congrArg (·.usedRecoveryCheckpointIds) hsame
    simp only [Option.toFinset_some] at hused
    exact absurd (hused ▸ Finset.mem_union_left _ (Finset.mem_singleton_self _)) hunused

theorem failsAt_trackCompaction : FailsAt (·.reasoning)
    (WritesFirst ct ledger event .compaction) (trackCompaction ct event) ledger := by
  refine .query_bind (fun existing hex => ?_) fun _ => ⟨_, rfl⟩
  obtain rfl := pure_eq_ok.mp hex
  refine .update_bind (.query _) rfl fun failure hfail => ?_
  obtain ⟨hoth, hchanged⟩ := replaced_iff (Prod.mk.inj hfail).1
  exact iff_of_true hoth fun hsame => hchanged (congrArg (·.compactionRecordDigests) hsame)

theorem failsAt_trackModelRequestStarted : FailsAt (·.reasoning)
    (WritesFirst ct ledger event .modelRequestStarted)
      (trackModelRequestStarted ct event) ledger := by
  refine .query_bind (fun purpose hpurpose => ?_) fun ⟨hpurpose, _⟩ =>
    ⟨_, orFail_eq_ok.mpr hpurpose⟩
  replace hpurpose : statePayloadText? event.payload "purpose" = some purpose :=
    orFail_eq_ok.mp hpurpose
  by_cases hcompaction : purpose = "compaction"
  · rw [if_pos hcompaction]
    refine FailsAt.congr (.query_bind_exists fun ⟨requestId, identity⟩ hident => ?_)
      (and_iff_right (hcompaction ▸ hpurpose)).symm
    refine .query_bind (fun existing hex => ?_) fun _ => ⟨_, rfl⟩
    obtain rfl := pure_eq_ok.mp hex
    refine .update_bind (.query _) rfl fun failure hfail => ?_
    have hrefused : ensure (ledger.compactionRequestIdentities[requestId]?.all (· == identity))
      "compaction request identity conflict" = .error failure := (Prod.mk.inj hfail).1
    obtain ⟨hoth, hchanged⟩ := replaced_iff hrefused
    exact iff_of_true hoth fun hsame =>
      hchanged (congrArg (·.compactionRequestIdentities) hsame)
  · -- only a compaction request writes first
    have hnone : ¬ WritesFirst ct ledger event .modelRequestStarted := by
      rintro ⟨hpurpose', -⟩
      exact hcompaction (Option.mem_unique hpurpose hpurpose')
    rw [if_neg hcompaction]
    split
    · exact .of_atomic atomic_trackMainRequest hnone
    · exact .of_atomic (.pure _) hnone

theorem failsAt_trackProviderUsage : FailsAt (·.reasoning)
    (WritesFirst ct ledger event .providerUsage) (trackProviderUsage event) ledger := by
  simp only [WritesFirst]
  refine failsAt_read fun turnId hturn => ?_
  refine .query_bind (fun existing hex => ?_) fun _ => ⟨_, rfl⟩
  obtain rfl := pure_eq_ok.mp hex
  refine .update_bind (.query _) rfl fun failure hfail => ?_
  -- the same usage again changes nothing
  cases hkn : ledger.providerUsages[turnId]? with
  | none =>
    rw [hkn] at hfail
    cases (Prod.mk.inj hfail).1
  | some existing =>
    have hsame : existing = event.payload ↔
        ledger.providerUsages.insert turnId event.payload = ledger.providerUsages := by
      rw [Table.insert_eq_self_iff, hkn, Option.some.injEq]
    simp only [Option.some.injEq, exists_eq_left', Ne, not_iff_not, hsame]
    exact ⟨fun htable => by rw [htable], fun hled => congrArg (·.providerUsages) hled⟩

theorem failsAt_trackCheckpointRef : FailsAt (·.reasoning)
    (WritesFirst ct ledger event .checkpointRef) (trackCheckpointRef event) ledger := by
  simp only [WritesFirst]
  refine failsAt_read fun checkpointId hid => ?_
  refine .query_bind (fun _ hnew => ?_) fun hnew => ⟨(), ensure_eq_ok.mpr (decide_eq_true hnew)⟩
  rw [ensure_eq_ok, decide_eq_true_eq] at hnew
  -- the id is committed, and the kind cannot be read
  refine .update_bind (.query_bind fun kind => ?_) rfl fun _ _ => iff_of_true hnew fun hsame => ?_
  · split
    · exact .update _
    · exact .pure _
  · exact hnew ((congrArg (·.committedCheckpointIds) hsame) ▸ Finset.mem_insert_self _ _)

theorem failsAt_trackArtifactPublished : FailsAt (·.reasoning)
    (WritesFirst ct ledger event .artifactPublished) (trackArtifactPublished event)
      ledger := by
  refine .query_bind (fun identities hidentities => ?_) fun ⟨publicationId, hid, hnew⟩ => ?_
  · refine .update_bind (.query_bind fun _ => .query_bind fun _ => .query_bind fun _ => .update _)
      rfl fun _ _ => ?_
    rw [registerPayloadIdentity, statePayloadString] at hidentities
    simp only [ok_rules] at hidentities
    obtain ⟨publicationId, hid, hidentities⟩ := hidentities
    cases hkn : ledger.artifactPublicationIdentities[publicationId]? with
    | none =>
      simp only [hkn, pure_eq_ok] at hidentities
      subst hidentities
      refine iff_of_true ⟨publicationId, hid, hkn⟩ fun hsame => ?_
      have hsame := Table.insert_eq_self_iff.mp
        (congrArg (·.artifactPublicationIdentities) hsame)
      rw [hkn] at hsame
      cases hsame
    | some existing =>
      simp only [hkn, ok_rules] at hidentities
      obtain ⟨-, rfl⟩ := hidentities
      refine iff_of_false ?_ fun hchanged => hchanged rfl
      rintro ⟨_, hid', hnew⟩
      obtain rfl := Option.mem_unique hid hid'
      rw [hkn] at hnew
      cases hnew
  · -- a new publication is registered
    rw [registerPayloadIdentity, statePayloadString, hid]
    simp [orFail, hnew]

/-! ### Every record -/

/-- A failed call changed the ledger exactly then. -/
theorem failsAt_trackRecord : FailsAt (·.reasoning) (WrittenFirst ct ledger event)
    (trackRecord ct event sequence) ledger := by
  rw [writtenFirst_iff]
  unfold trackRecord
  cases event.eventType with
  | toolCall => exact failsAt_stale (.query_bind fun _ => .query_bind fun _ => .update _)
  | toolResult =>
    exact failsAt_stale (.query_bind fun _ => .query_bind fun _ => .query_bind fun _ => .update _)
  | agentRunExecutionStarted => exact failsAt_trackExecutionStarted
  | compaction => exact failsAt_trackCompaction
  | modelRequestStarted => exact failsAt_trackModelRequestStarted
  | providerUsage => exact failsAt_trackProviderUsage
  | checkpointRef => exact failsAt_trackCheckpointRef
  | artifactPublished => exact failsAt_trackArtifactPublished
  | agentRunRecoveryAttempted => exact .of_atomic atomic_trackRecoveryAttempt id
  | agentRunExecutionEnded => exact .of_atomic atomic_trackExecutionEnded id
  | agentRunCompleted | agentRunFailed | agentRunInterrupted => exact .of_atomic (.query _) id
  | assistantMessage => exact .of_atomic atomic_trackAssistantMessage id
  | phaseEvent => exact .of_atomic atomic_trackPhaseEvent id
  | turnSupplement => exact .of_atomic atomic_trackTurnSupplement id
  | hostEventInput => exact .of_atomic atomic_trackHostEventInput id
  | citationRecorded => exact .of_atomic atomic_trackCitationRecorded id
  | externalEvidenceRef => exact .of_atomic atomic_trackExternalEvidenceRef id
  | fileFact => exact .of_atomic (.update _) id
  | reasoningBlock | sessionMeta | agentRunStarted | userMessage | toolCallClosure | tombstone =>
    exact .of_atomic (.pure _) id

theorem writtenFirst_reasoning {reasoning : ReasoningLedger} :
    WrittenFirst ct { ledger with reasoning := reasoning } event ↔
      WrittenFirst ct ledger event := by
  rw [writtenFirst_iff, writtenFirst_iff]
  cases event.eventType <;> exact Iff.rfl

theorem track_error (h : track ct event sequence ledger = (.error e, ledger')) :
    ledger' = ledger ↔ ¬ LeavesTrace ct ledger event := by
  unfold track applyReasoning at h
  rcases Mutation.bind_eq_error.mp h with hfailed | ⟨_, middle, happlied, htrack⟩
  · -- the reasoning part refuses the record before anything is written
    rcases query_bind_eq_error.mp hfailed with ⟨hrefused, rfl⟩ | ⟨_, -, hwrite⟩
    · refine ⟨fun _ => ?_, fun _ => rfl⟩
      rintro ⟨_, happlied, -⟩
      rw [hrefused] at happlied
      cases happlied
    · cases (Prod.mk.inj hwrite).1
  · obtain ⟨reasoning, hreas, hwrite⟩ := query_bind_eq_ok.mp happlied
    obtain rfl : { ledger with reasoning := reasoning } = middle := (Prod.mk.inj hwrite).2
    obtain ⟨hkept, hsame⟩ := failsAt_trackRecord e ledger' htrack
    replace hkept : ledger'.reasoning = reasoning := hkept
    rw [writtenFirst_reasoning] at hsame
    constructor
    · rintro rfl ⟨reasoning', hreas', hcause⟩
      obtain rfl := Except.ok.inj (hreas.symm.trans hreas')
      rcases hcause with hchanged | hfst
      · exact hchanged hkept.symm
      · exact hsame.mp (by rw [← hkept]) hfst
    · intro hnone
      have hequal : reasoning = ledger.reasoning := by
        by_contra hchanged
        exact hnone ⟨reasoning, hreas, .inl hchanged⟩
      have hnot : ¬ WrittenFirst ct ledger event := fun hfst =>
        hnone ⟨reasoning, hreas, .inr hfst⟩
      rw [hsame.mpr hnot, hequal]

/-- The ledger takes a record of its own run while it has places left. -/
def Admits (ledger : AgentRunSessionState) (event : SessionLogRecord) : Prop :=
  ledger.validateIdentity event = .ok () ∧ ∃ sequence, ledger.nextSequence = .ok sequence

theorem failsAt_advance : FailsAt (fun _ => ()) (LeavesTrace ct ledger event)
    (advance ct event sequence) ledger :=
  .bind_sure (fun _ _ h => ⟨rfl, track_error h⟩) fun _ _ => ⟨_, rfl⟩

theorem failsAt_record : FailsAt (fun _ => ())
    (ledger.Admits event ∧ LeavesTrace ct ledger event) (record ct event) ledger := by
  refine .query_bind (fun _ hident => ?_) fun h => ⟨(), h.1.1⟩
  refine .query_bind (fun sequence hnext => ?_) fun h => h.1.2
  refine .congr (failsAt_advance.bind_sure fun _ _ => ⟨_, rfl⟩) (Iff.symm ?_)
  exact and_iff_right ⟨hident, sequence, hnext⟩

theorem failsAt_restore {sequenced : SequencedSessionRecord} : FailsAt (fun _ => ())
    (ledger.nextSequence = .ok sequenced.sequence ∧ ledger.Admits sequenced.event ∧
      LeavesTrace ct ledger sequenced.event) (restore ct sequenced) ledger := by
  refine .query_bind (fun expected hexp => ?_) fun h => ⟨_, h.1⟩
  refine .query_bind (fun _ hplc => ?_) fun h => ⟨(), ?_⟩
  · rw [ensure_eq_ok, beq_iff_eq] at hplc
    have hnext : ledger.nextSequence = .ok sequenced.sequence := hplc ▸ hexp
    refine .query_bind (fun _ hident => failsAt_advance.congr ?_) fun h => ⟨(), h.2.1.1⟩
    rw [and_iff_right hnext, and_iff_right ⟨hident, _, hnext⟩]
  · rw [ensure_eq_ok, beq_iff_eq]
    exact Except.ok.inj (h.1.symm.trans hexp)

/-! ### Built records -/

theorem failsAt_recordUnlessKnown
    {build : AgentRunSessionState → Outcome (Option SessionLogRecord)} :
    FailsAt (fun _ => ()) (∃ event, build ledger = .ok (some event) ∧ ledger.Admits event ∧
      LeavesTrace ct ledger event) (recordUnlessKnown ct build) ledger := by
  refine .query_bind (fun offered hbuilt => ?_) fun ⟨_, hbuilt, _⟩ => ⟨_, hbuilt⟩
  cases offered with
  | none => exact .of_atomic (.pure _) (by simp [hbuilt])
  | some event => exact .congr (failsAt_record.bind_sure fun _ _ => ⟨_, rfl⟩) (by simp [hbuilt])

theorem nextSequence_eq_ok : ledger.nextSequence = .ok sequence ↔
    ledger.next.toNat + 1 < 2 ^ 64 ∧ sequence = ledger.next + 1 := by
  rw [nextSequence, orFail_eq_ok, checkedSucc]
  split
  · rename_i hplc
    rw [Option.some.injEq, and_iff_right hplc]
    exact eq_comm
  · rename_i hfull
    exact ⟨by rintro ⟨⟩, fun h => absurd h.1 hfull⟩

theorem record_plain (hty : event.eventType = .agentRunStarted ∨ event.eventType = .userMessage)
    (hident : ledger.validateIdentity event = .ok ()) {outcome : Outcome SequencedSessionRecord}
    (h : record ct event ledger = (outcome, ledger')) :
    if ledger.next.toNat + 1 < 2 ^ 64 then
      outcome = .ok ⟨ledger.next + 1, event⟩ ∧ ledger' = { ledger with next := ledger.next + 1 }
    else (∃ full, outcome = .error full) ∧ ledger' = ledger := by
  have hreas : ledger.reasoning.apply event = .ok ledger.reasoning := by
    rcases hty with hty | hty
    · rw [ReasoningLedger.apply, hty]
      rfl
    · rw [ReasoningLedger.apply, hty]
      rfl
  have htrack : ∀ sequence, trackRecord ct event sequence ledger = (.ok (), ledger) := by
    intro sequence
    rcases hty with hty | hty
    · rw [trackRecord, hty]
      rfl
    · rw [trackRecord, hty]
      rfl
  unfold record at h
  rw [query_bind_of_ok (q := (validateIdentity · event)) hident] at h
  split
  · rename_i hplc
    have hadv : advance ct event (ledger.next + 1) ledger =
        (.ok (), { ledger with next := ledger.next + 1 }) :=
      advance_eq_ok.mpr ⟨ledger.reasoning, ledger, hreas, htrack _, rfl⟩
    have hrecorded : (do
          advance ct event (ledger.next + 1)
          pure ⟨ledger.next + 1, event⟩ : Call SequencedSessionRecord) ledger =
        (.ok ⟨ledger.next + 1, event⟩, { ledger with next := ledger.next + 1 }) :=
      Mutation.bind_eq_ok.mpr ⟨(), _, hadv, rfl⟩
    rw [query_bind_of_ok (nextSequence_eq_ok.mpr ⟨hplc, rfl⟩), hrecorded] at h
    obtain ⟨rfl, rfl⟩ := Prod.mk.inj h
    exact ⟨rfl, rfl⟩
  · rename_i hfull
    cases hnext : ledger.nextSequence with
    | ok sequence => exact absurd (nextSequence_eq_ok.mp hnext).1 hfull
    | error full =>
      rw [query_bind_of_error hnext] at h
      obtain ⟨rfl, rfl⟩ := Prod.mk.inj h
      exact ⟨⟨full, rfl⟩, rfl⟩

end AgentRunSessionState

variable {turnId : String} {ms : Int}

theorem canonicalSessionRecord_eq_ok {eventId sessionId agentRunId : String}
    {eventType : SessionRecordType} {payload : Json}
    (h : canonicalSessionRecord ct eventId eventType sessionId turnId agentRunId ms
      payload = .ok event) :
    validateEventShape ct event = .ok () ∧ event.eventType = eventType ∧
      event.eventId = eventId ∧ event.sessionId = sessionId ∧ event.turnId = some turnId ∧
      event.agentRunId = some agentRunId ∧ event.payload = payload := by
  simp only [canonicalSessionRecord, ok_rules] at h
  obtain ⟨hshp, rfl⟩ := h
  exact ⟨hshp, rfl, rfl, rfl, rfl, rfl, rfl⟩

/-! ### The recording methods -/

/-- Every recording method with its arguments, and `LedgerCall.LeavesTrace`. -/
inductive LedgerCall where
  | restore (sequenced : SequencedSessionRecord)
  | record (event : SessionLogRecord)
  | eventForTurn (turnId : String) (eventType : SessionRecordType) (payload : Json)
      (ms : Int)
  | start (turnId userObjective : String) (attachments : List Json) (ms : Int)
  | startExecution (turnId eid authorizationDigest : String)
      (recoveredFromCheckpointId : Option String) (ms : Int)
  | endExecution (turnId eid outcome reasonCode : String) (retryable : Bool)
      (lastCheckpointId : Option String) (indeterminateToolCallIds : List String)
      (ms : Int)
  | supplementWithAttachments (turnId supplementId message : String)
      (attachments : List UserInputAttachment) (ms : Int)
  | assistant (turnId modelMarkdown : String) (artifactRefs : List String) (status : String)
      (ms : Int)
  | providerUsageRecord (turnId : String) (usage : ProviderTokenUsageV1) (ms : Int)
  | hostEventInputRecord (turnId : String) (input : HostEventInput) (ms : Int)
  | complete (turnId completionReason : String) (ms : Int)
  | failRun (turnId failureKind error : String) (ms : Int)
  | interrupt (turnId reason message : String) (retryable : Bool) (ms : Int)
  | committedCheckpointRef (checkpoint : TurnCheckpointRef)
  | fileFact (turnId : String) (payload : Json) (ms : Int)
  | recordRuntimeEvent (convert : String → Outcome (Option SessionLogRecord))
  | recordModelRequestStarted (compaction : Option AgentRunSessionState.CompactionSource)
      (convert : String → Outcome (List SessionLogRecord))
  | recordToolCall (callId : String) (convert : String → String → Outcome SessionLogRecord)
  | recordToolResult (turnId callId : String) (result : AgentRunSessionState.ToolExecutionResult)
      (convert : String → String → Outcome SessionLogRecord) (ms : Int)
  | recordToolFacts (turnId : String) (result : AgentRunSessionState.ToolExecutionResult)
      (ms : Int)

namespace LedgerCall

open AgentRunSessionState (Call)

/-- The call, without its result. -/
def discard {α : Type} (m : Call α) : Call Unit := do
  let _ ← m
  pure ()

def run (ct : PayloadContracts) : LedgerCall → Call Unit
  | .restore sequenced => AgentRunSessionState.restore ct sequenced
  | .record event => discard (AgentRunSessionState.record ct event)
  | .eventForTurn turnId eventType payload ms =>
    discard (AgentRunSessionState.eventForTurn ct turnId eventType payload ms)
  | .start turnId userObjective attachments ms =>
    discard (AgentRunSessionState.start ct turnId userObjective attachments ms)
  | .startExecution turnId eid digest recovered ms =>
    discard (AgentRunSessionState.startExecution ct turnId eid digest recovered
      ms)
  | .endExecution turnId eid outcome reasonCode retryable last toolCallIds ms =>
    discard (AgentRunSessionState.endExecution ct turnId eid outcome reasonCode
      retryable last toolCallIds ms)
  | .supplementWithAttachments turnId supplementId message attachments ms =>
    discard (AgentRunSessionState.supplementWithAttachments ct turnId supplementId message
      attachments ms)
  | .assistant turnId modelMarkdown artifactRefs status ms =>
    discard (AgentRunSessionState.assistant ct turnId modelMarkdown artifactRefs status
      ms)
  | .providerUsageRecord turnId usage ms =>
    discard (AgentRunSessionState.providerUsageRecord ct turnId usage ms)
  | .hostEventInputRecord turnId input ms =>
    discard (AgentRunSessionState.hostEventInputRecord ct turnId input ms)
  | .complete turnId reason ms =>
    discard (AgentRunSessionState.complete ct turnId reason ms)
  | .failRun turnId kind error ms =>
    discard (AgentRunSessionState.failRun ct turnId kind error ms)
  | .interrupt turnId reason message retryable ms =>
    discard (AgentRunSessionState.interrupt ct turnId reason message retryable ms)
  | .committedCheckpointRef checkpoint =>
    discard (AgentRunSessionState.committedCheckpointRef ct checkpoint)
  | .fileFact turnId payload ms =>
    discard (AgentRunSessionState.fileFact ct turnId payload ms)
  | .recordRuntimeEvent convert =>
    discard (AgentRunSessionState.recordRuntimeEvent ct convert)
  | .recordModelRequestStarted compaction convert =>
    discard (AgentRunSessionState.recordModelRequestStarted ct compaction convert)
  | .recordToolCall callId convert =>
    discard (AgentRunSessionState.recordToolCall ct callId convert)
  | .recordToolResult turnId callId result convert ms =>
    discard (AgentRunSessionState.recordToolResult ct turnId callId result convert
      ms)
  | .recordToolFacts turnId result ms =>
    discard (AgentRunSessionState.recordToolFacts ct turnId result ms)

/-- The record that a call hands to the ledger itself.  `start` hands over two, and the
    last methods work on a copy of the ledger. -/
def offered (ct : PayloadContracts) (call : LedgerCall) (ledger : AgentRunSessionState) :
    Outcome (Option SessionLogRecord) :=
  match call with
  | .restore sequenced =>
    pure (if ledger.nextSequence = .ok sequenced.sequence then some sequenced.event else none)
  | .record event => pure (some event)
  | .eventForTurn turnId eventType payload ms =>
    some <$> ledger.turnEvent ct turnId eventType payload ms
  | .startExecution turnId eid digest recovered ms =>
    some <$> ledger.turnEvent ct turnId .agentRunExecutionStarted
      (AgentRunSessionState.executionStartPayload eid digest recovered) ms
  | .endExecution turnId eid outcome reasonCode retryable last toolCallIds ms =>
    some <$> ledger.turnEvent ct turnId .agentRunExecutionEnded
      (AgentRunSessionState.executionEndPayload eid outcome reasonCode retryable last
        toolCallIds) ms
  | .supplementWithAttachments turnId supplementId message attachments ms =>
    ledger.supplementOffer ct turnId supplementId message attachments ms
  | .assistant turnId modelMarkdown artifactRefs status ms =>
    ledger.assistantOffer ct turnId modelMarkdown artifactRefs status ms
  | .providerUsageRecord turnId usage ms =>
    ledger.providerUsageOffer ct turnId usage ms
  | .hostEventInputRecord turnId input ms =>
    ledger.hostEventInputOffer ct turnId input ms
  | .complete turnId reason ms =>
    some <$> completedAgentRunRecord ct ledger.sessionId turnId ledger.agentRunId reason
      ms
  | .failRun turnId kind error ms =>
    some <$> failedAgentRunRecord ct ledger.sessionId turnId ledger.agentRunId kind error
      ms
  | .interrupt turnId reason message retryable ms =>
    some <$> interruptedAgentRunRecord ct ledger.sessionId turnId ledger.agentRunId reason
      message retryable ms
  | .committedCheckpointRef checkpoint => some <$> ledger.checkpointOffer ct checkpoint
  | .fileFact turnId payload ms =>
    some <$> fileFactRecord ct ledger.sessionId turnId ledger.agentRunId ledger.next payload
      ms
  | .recordRuntimeEvent convert => ledger.runtimeEventOffer convert
  | .recordToolCall callId convert => ledger.toolCallOffer callId convert
  | .start .. | .recordModelRequestStarted .. | .recordToolResult .. | .recordToolFacts .. =>
    pure none

def LeavesTrace (ct : PayloadContracts) (call : LedgerCall)
    (ledger : AgentRunSessionState) : Prop :=
  match call with
  | .start turnId userObjective attachments ms =>
    (∃ records, startedAgentRunRecordsWithAttachments ct ledger.sessionId turnId
      ledger.agentRunId userObjective attachments ms = .ok records) ∧
      ledger.next.toNat + 2 = 2 ^ 64
  | call => ∃ event, call.offered ct ledger = .ok (some event) ∧ ledger.Admits event ∧
      AgentRunSessionState.LeavesTrace ct ledger event

section Failed

open Mutation (FailsAt)

theorem failsAt_discard {α : Type} {m : Call α} {P : Prop}
    (h : FailsAt (fun _ => ()) P m ledger) : FailsAt (fun _ => ()) P (discard m) ledger :=
  h.bind_sure fun _ _ => ⟨_, rfl⟩

/-- A call on a copy hands nothing to the ledger itself. -/
theorem failsAt_copied {α : Type} {m : Call α} (hatomic : Mutation.Atomic m) :
    FailsAt (fun _ => ()) (∃ event, (pure none : Outcome (Option SessionLogRecord)) =
      .ok (some event) ∧ ledger.Admits event ∧
      AgentRunSessionState.LeavesTrace ct ledger event) (discard m) ledger := by
  refine failsAt_discard (.of_atomic hatomic ?_)
  rintro ⟨_, hnone, -⟩
  cases hnone

theorem failsAt_built {build : AgentRunSessionState → Outcome SessionLogRecord} :
    FailsAt (fun _ => ()) (∃ event, some <$> build ledger = .ok (some event) ∧
      ledger.Admits event ∧ AgentRunSessionState.LeavesTrace ct ledger event)
      (discard (recordBuilt ct build)) ledger := by
  have hbuilt : FailsAt (fun _ => ()) _ (recordBuilt ct build) ledger :=
    .query_bind_exists fun _ _ => failsAt_record
  refine failsAt_discard (hbuilt.congr ?_)
  cases build ledger with
  | ok built => simp [Functor.map, Except.map]
  | error e => simp [Functor.map, Except.map]

variable {userObjective : String} {attachments : List Json}

theorem startedRecords_identity {turn message : SessionLogRecord}
    (h : startedAgentRunRecordsWithAttachments ct ledger.sessionId turnId ledger.agentRunId
      userObjective attachments ms = .ok (turn, message)) :
    turn.eventType = .agentRunStarted ∧ ledger.validateIdentity turn = .ok () ∧
      message.eventType = .userMessage ∧ ledger.validateIdentity message = .ok () := by
  simp only [startedAgentRunRecordsWithAttachments, ok_rules, Prod.mk.injEq] at h
  obtain ⟨_, hturn, _, hmessage, rfl, rfl⟩ := h
  obtain ⟨-, hturnType, -, hturnSession, -, hturnRun, -⟩ := canonicalSessionRecord_eq_ok hturn
  obtain ⟨-, hmessageType, -, hmessageSession, -, hmessageRun, -⟩ :=
    canonicalSessionRecord_eq_ok hmessage
  refine ⟨hturnType, ?_, hmessageType, ?_⟩
  · rw [validateIdentity, ensure_eq_ok, hturnSession, hturnRun]
    simp
  · rw [validateIdentity, ensure_eq_ok, hmessageSession, hmessageRun]
    simp

theorem start_error
    (h : AgentRunSessionState.start ct turnId userObjective attachments ms ledger =
      (.error e, ledger')) :
    ledger' = ledger ↔ ¬ ((∃ records, startedAgentRunRecordsWithAttachments ct
      ledger.sessionId turnId ledger.agentRunId userObjective attachments ms =
        .ok records) ∧ ledger.next.toNat + 2 = 2 ^ 64) := by
  rcases query_bind_eq_error.mp h with ⟨hfailed, rfl⟩ | ⟨⟨turn, message⟩, hbuilt, h⟩
  · refine ⟨fun _ => ?_, fun _ => rfl⟩
    rintro ⟨⟨_, hbuilt⟩, -⟩
    rw [hfailed] at hbuilt
    cases hbuilt
  · obtain ⟨hturnType, hturn, hmessageType, hmessage⟩ := startedRecords_identity hbuilt
    have hrecords : ∃ records, startedAgentRunRecordsWithAttachments ct ledger.sessionId
        turnId ledger.agentRunId userObjective attachments ms = .ok records :=
      ⟨_, hbuilt⟩
    rw [and_iff_right hrecords]
    rcases Mutation.bind_eq_error.mp h with hfst | ⟨_, middle, hfst, h⟩
    · -- the first record has no place
      have hplain := record_plain (.inl hturnType) hturn hfst
      split at hplain
      · cases hplain.1
      · rename_i hfull
        exact ⟨fun _ hlast => hfull (by omega), fun _ => hplain.2⟩
    · have hplain := record_plain (.inl hturnType) hturn hfst
      split at hplain
      · rename_i hplc
        obtain ⟨-, rfl⟩ := hplain
        have hvl : (ledger.next + 1).toNat = ledger.next.toNat + 1 := by
          rw [UInt64.toNat_add]
          exact Nat.mod_eq_of_lt hplc
        rcases Mutation.bind_eq_error.mp h with hsec | ⟨_, _, -, hpure⟩
        · -- the first record stays, and the second one has no place
          have hlast := record_plain (.inr hmessageType)
            (show ({ ledger with next := ledger.next + 1 } :
              AgentRunSessionState).validateIdentity message = .ok () from hmessage) hsec
          split at hlast
          · cases hlast.1
          · rename_i hfull
            obtain ⟨-, rfl⟩ := hlast
            replace hfull : ¬ (ledger.next + 1).toNat + 1 < 2 ^ 64 := hfull
            refine ⟨fun heq => ?_, fun hnone => absurd (by omega) hnone⟩
            have hsame : ledger.next + 1 = ledger.next := congrArg (·.next) heq
            rw [hsame] at hvl
            omega
        · cases (Prod.mk.inj hpure).1
      · obtain ⟨⟨_, hfailed⟩, -⟩ := hplain
        cases hfailed

/-- **Every method.** What a call leaves behind when it fails. -/
theorem failsAt_run (call : LedgerCall) :
    FailsAt (fun _ => ()) (call.LeavesTrace ct ledger) (call.run ct) ledger := by
  cases call with
  | restore sequenced =>
    refine failsAt_restore.congr ?_
    simp only [LeavesTrace, offered, pure_eq_ok]
    by_cases hnext : ledger.nextSequence = .ok sequenced.sequence
    · simp [hnext]
    · simp [hnext]
  | record event =>
    refine failsAt_discard (failsAt_record.congr ?_)
    simp [LeavesTrace, offered, pure_eq_ok]
  | start => exact failsAt_discard fun _ _ h => ⟨rfl, start_error h⟩
  | eventForTurn | startExecution | endExecution | complete | failRun | interrupt
  | committedCheckpointRef | fileFact => exact failsAt_built
  | supplementWithAttachments | assistant | providerUsageRecord | hostEventInputRecord
  | recordRuntimeEvent | recordToolCall =>
    exact failsAt_discard failsAt_recordUnlessKnown
  | recordModelRequestStarted => exact failsAt_copied (.onCopy _)
  | recordToolResult => exact failsAt_copied (.query_bind fun _ => .onCopy _)
  | recordToolFacts => exact failsAt_copied (.onCopy _)

/-- **Atomicity.** A failed call of a recording method leaves the ledger as it was exactly
    when the call leaves no trace. -/
theorem failed_call_iff {call : LedgerCall} (h : call.run ct ledger = (.error e, ledger')) :
    ledger' = ledger ↔ ¬ call.LeavesTrace ct ledger :=
  (failsAt_run call e ledger' h).2

end Failed

def sampleUsage (sequence : UInt64) (inputTokens : Nat) : SessionLogRecord :=
  (sampleRecord sequence .providerUsage
    (ProviderTokenUsageV1.toJson ⟨some inputTokens, none, none, none, none⟩)).event

def twoCalls (first second : LedgerCall) :
    Outcome (Outcome Unit × AgentRunSessionState × Outcome Unit × AgentRunSessionState) := do
  let fresh ← AgentRunSessionState.new "s" "r"
  let (one, ledger) := first.run toolContracts fresh
  let (two, ledger') := second.run toolContracts ledger
  pure (one, ledger, two, ledger')

/-- A result without a call is refused, and leaves the ledger with a call as it was. -/
theorem failed_call_iff_result :
    ∃ ledger ledger' : AgentRunSessionState,
      LedgerCall.run toolContracts (.record (toolResultRecord 2 "d").event) ledger =
        (.error (.err "tool result precedes tool call: d"), ledger') ∧
      ledger.committedToolCallIds = {"c"} ∧
      (ledger' = ledger ↔ ¬ LedgerCall.LeavesTrace toolContracts
        (.record (toolResultRecord 2 "d").event) ledger) := by
  have heval : (twoCalls (.record (toolCallRecord 1 "c").event)
      (.record (toolResultRecord 2 "d").event)).toOption.map
        (fun calls => (calls.2.1.committedToolCallIds, calls.2.2.1)) =
      some ({"c"}, .error (.err "tool result precedes tool call: d")) := by decide +kernel
  obtain ⟨⟨one, ledger, two, ledger'⟩, hcalls, hres⟩ := Outcome.exists_ok_of_map heval
  obtain ⟨hcommitted, htwo⟩ := Prod.mk.inj hres
  simp only [twoCalls, Outcome.ok_rules, Prod.mk.injEq] at hcalls
  obtain ⟨fresh, -, -, hled, htwo', hled'⟩ := hcalls
  have hrun : LedgerCall.run toolContracts (.record (toolResultRecord 2 "d").event) ledger =
      (.error (.err "tool result precedes tool call: d"), ledger') := by
    rw [← htwo, ← hled, ← htwo', ← hled']
  exact ⟨ledger, ledger', hrun, hcommitted, failed_call_iff hrun⟩

/-- A second usage of a turn is refused, but the ledger then has it in place of the first
    one. -/
theorem refused_usage_replaces :
    ∃ ledger ledger' : AgentRunSessionState,
      LedgerCall.run toolContracts (.record (sampleUsage 2 7)) ledger =
        (.error (.err "duplicate committed provider usage: t"), ledger') ∧
      ledger.providerUsages["t"]? = some (sampleUsage 1 5).payload ∧
      ledger'.providerUsages["t"]? = some (sampleUsage 2 7).payload ∧ ledger' ≠ ledger := by
  have heval : (twoCalls (.record (sampleUsage 1 5)) (.record (sampleUsage 2 7))).toOption.map
      (fun calls => (calls.2.2.1, calls.2.1.providerUsages["t"]?,
        calls.2.2.2.providerUsages["t"]?)) =
      some (.error (.err "duplicate committed provider usage: t"),
        some (sampleUsage 1 5).payload, some (sampleUsage 2 7).payload) := by decide +kernel
  obtain ⟨⟨one, ledger, two, ledger'⟩, hcalls, hres⟩ := Outcome.exists_ok_of_map heval
  obtain ⟨htwo, hres⟩ := Prod.mk.inj hres
  obtain ⟨hfst, hsec⟩ := Prod.mk.inj hres
  simp only [twoCalls, Outcome.ok_rules, Prod.mk.injEq] at hcalls
  obtain ⟨fresh, -, -, hled, htwo', hled'⟩ := hcalls
  refine ⟨ledger, ledger', ?_, hfst, hsec, ?_⟩
  · rw [← htwo, ← hled, ← htwo', ← hled']
  · rintro rfl
    replace hfst : ledger'.providerUsages["t"]? = some (sampleUsage 1 5).payload := hfst
    rw [show ledger'.providerUsages["t"]? = some (sampleUsage 2 7).payload from hsec] at hfst
    revert hfst
    decide +kernel

end LedgerCall

end Centaeris
