import Centaeris.Session.Ledger
import Centaeris.Session.ReduceEffects

namespace Centaeris

open Foundation AgentRunSessionState List Mutation

/-!
# What a restored record does to a ledger

A ledger accepts a record after its identity and its place are checked.  The parts that
the reducer has as well — the tool calls and the published artifacts — change with three
record types only.
-/

variable {ct : PayloadContracts} {ledger ledger' : AgentRunSessionState}
  {event : SessionLogRecord} {sequence : UInt64}

namespace AgentRunSessionState

/-- The parts of a ledger that the reducer has as well. -/
structure Followed where
  sessionId : String
  agentRunId : String
  toolCallIds : Finset String
  toolResultIds : Finset String
  artifactLinks : List (String × String)

/-- These parts, and the identity of the ledger. -/
def followed (ledger : AgentRunSessionState) : Followed :=
  ⟨ledger.sessionId, ledger.agentRunId, ledger.committedToolCallIds,
    ledger.committedToolResultIds, ledger.artifactLinks⟩

open Mutation (Keeps)

section Keeps

theorem keeps_trackRecoveryAttempt : Keeps followed (trackRecoveryAttempt event) :=
  .bind (.query _) fun _ => .bind (.query _) fun _ => .bind (.query _) fun _ =>
    .update fun _ => rfl

theorem keeps_trackExecutionStarted : Keeps followed (trackExecutionStarted event) :=
  .bind (.query _) fun _ => .bind (.update fun _ => rfl) fun _ => .bind (.query _) fun _ =>
    .update fun _ => rfl

theorem keeps_trackExecutionEnded : Keeps followed (trackExecutionEnded event) :=
  .bind (.query _) fun _ => .bind (.query _) fun _ => .update fun _ => rfl

theorem keeps_trackAssistantMessage : Keeps followed (trackAssistantMessage event) :=
  .bind (.query _) fun _ => .bind (.query _) fun _ => .bind (.query _) fun _ =>
    .bind (.query _) fun _ => .bind (.query _) fun _ => .bind (.query _) fun _ =>
      .update fun _ => rfl

theorem keeps_trackPhaseEvent : Keeps followed (trackPhaseEvent ct event) := by
  refine .bind (.query _) fun turnId => ?_
  split
  · exact .bind (.query _) fun _ => .update fun _ => rfl
  · exact .bind (.query _) fun _ => .update fun _ => rfl

theorem keeps_trackCompaction : Keeps followed (trackCompaction ct event) :=
  .bind (.query _) fun _ => .bind (.update fun _ => rfl) fun _ => .query _

theorem keeps_trackModelRequestStarted :
    Keeps followed (trackModelRequestStarted ct event) := by
  refine .bind (.query _) fun purpose => ?_
  split
  · exact .bind (.query _) fun _ => .bind (.query _) fun _ => .bind (.update fun _ => rfl)
      fun _ => .query _
  · split
    · exact .bind (.query _) fun _ => .bind (.query _) fun _ => .update fun _ => rfl
    · exact .pure ()

theorem keeps_trackProviderUsage : Keeps followed (trackProviderUsage event) :=
  .bind (.query _) fun _ => .bind (.query _) fun _ => .bind (.update fun _ => rfl) fun _ =>
    .query _

theorem keeps_trackCheckpointRef : Keeps followed (trackCheckpointRef event) := by
  refine .bind (.query _) fun _ => .bind (.query _) fun _ => .bind (.update fun _ => rfl)
    fun _ => .bind (.query _) fun kind => ?_
  split
  · exact .update fun _ => rfl
  · exact .pure ()

theorem keeps_trackTurnSupplement : Keeps followed (trackTurnSupplement event) :=
  .bind (.query _) fun _ => .bind (.query _) fun _ => .update fun _ => rfl

theorem keeps_trackHostEventInput : Keeps followed (trackHostEventInput ct event) :=
  .bind (.query _) fun _ => .bind (.query _) fun _ => .bind (.query _) fun _ =>
    .bind (.query _) fun _ => .update fun _ => rfl

theorem keeps_trackCitationRecorded :
    Keeps followed (trackCitationRecorded event sequence) :=
  .bind (.query _) fun _ => .update fun _ => rfl

theorem keeps_trackExternalEvidenceRef : Keeps followed (trackExternalEvidenceRef event) :=
  .bind (.query _) fun _ => .update fun _ => rfl

/-- **Frame.** Every other record leaves these parts alone. -/
theorem keeps_trackRecord (hcall : event.eventType ≠ .toolCall)
    (hres : event.eventType ≠ .toolResult) (hart : event.eventType ≠ .artifactPublished) :
    Keeps followed (trackRecord ct event sequence) := by
  unfold trackRecord
  split
  · exact keeps_trackRecoveryAttempt
  · exact keeps_trackExecutionStarted
  · exact keeps_trackExecutionEnded
  · exact .query _
  · exact .query _
  · exact .query _
  · exact keeps_trackAssistantMessage
  · exact absurd (by assumption) hcall
  · exact absurd (by assumption) hres
  · exact keeps_trackPhaseEvent
  · exact keeps_trackCompaction
  · exact keeps_trackModelRequestStarted
  · exact keeps_trackProviderUsage
  · exact keeps_trackCheckpointRef
  · exact keeps_trackTurnSupplement
  · exact keeps_trackHostEventInput
  · exact keeps_trackCitationRecorded
  · exact keeps_trackExternalEvidenceRef
  · exact .update fun _ => rfl
  · exact absurd (by assumption) hart
  all_goals exact .pure ()

end Keeps

/-! ### Restored records -/

/-- A record is followed by the reasoning part first, and then by the part of its type. -/
theorem advance_eq_ok : advance ct event sequence ledger = (.ok (), ledger') ↔
    ∃ reasoning tracked, ledger.reasoning.apply event = .ok reasoning ∧
      trackRecord ct event sequence { ledger with reasoning := reasoning } =
        (.ok (), tracked) ∧ ledger' = { tracked with next := sequence } := by
  unfold advance track applyReasoning
  rw [Mutation.bind_eq_ok]
  constructor
  · rintro ⟨_, tracked, htrack, hlast⟩
    obtain ⟨_, _, happlied, htrack⟩ := Mutation.bind_eq_ok.mp htrack
    obtain ⟨reasoning, hreas, hwrite⟩ := query_bind_eq_ok.mp happlied
    obtain rfl := (Prod.mk.inj hwrite).2
    exact ⟨reasoning, tracked, hreas, htrack, (Prod.mk.inj hlast).2.symm⟩
  · rintro ⟨reasoning, tracked, hreas, htrack, rfl⟩
    refine ⟨(), tracked, Mutation.bind_eq_ok.mpr ⟨(), _, ?_, htrack⟩, rfl⟩
    exact query_bind_eq_ok.mpr ⟨reasoning, hreas, rfl⟩

theorem tracked_of_restoreNext (h : restoreNext ct ledger event = .ok ledger') :
    ∃ reasoning tracked,
      trackRecord ct event (ledger.next + 1) { ledger with reasoning := reasoning } =
        (.ok (), tracked) ∧ ledger' = { tracked with next := ledger.next + 1 } := by
  have hrestore : restore ct ⟨ledger.next + 1, event⟩ ledger = (.ok (), ledger') := by
    unfold restoreNext at h
    generalize restore ct ⟨ledger.next + 1, event⟩ ledger = result at h ⊢
    obtain ⟨outcome, final⟩ := result
    cases outcome <;> simp_all
  simp only [restore, require, query_bind_eq_ok, nextSequence, validateIdentity, orFail_eq_ok,
    ensure_eq_ok, exists_unit] at hrestore
  obtain ⟨_, _, -, -, hadv⟩ := hrestore
  obtain ⟨reasoning, tracked, -, htrack, hlast⟩ := advance_eq_ok.mp hadv
  exact ⟨reasoning, tracked, htrack, hlast⟩

variable (h : restoreNext ct ledger event = .ok ledger')
include h

/-- The three record types. -/
theorem restoreNext_toolCall (hty : event.eventType = .toolCall) :
    ∃ callId, statePayloadText? event.payload "callId" = some callId ∧
      callId ∉ ledger.committedToolCallIds ∧
      ledger'.committedToolCallIds = insert callId ledger.committedToolCallIds ∧
      ledger'.committedToolResultIds = ledger.committedToolResultIds ∧
      ledger'.followed = { ledger.followed with toolCallIds := ledger'.committedToolCallIds } := by
  obtain ⟨reasoning, tracked, htrack, rfl⟩ := tracked_of_restoreNext h
  simp only [trackRecord, hty, trackToolCall, staleCheckpoint, read, require, update_bind_eq,
    query_bind_eq_ok, update_eq, Prod.mk.injEq, statePayloadString, orFail_eq_ok, ensure_eq_ok,
    exists_unit, hasToolCall, bool_rules, true_and] at htrack
  obtain ⟨callId, hid, hnew, rfl⟩ := htrack
  exact ⟨callId, hid, hnew, rfl, rfl, rfl⟩

theorem restoreNext_toolResult (hty : event.eventType = .toolResult) :
    ∃ callId, statePayloadText? event.payload "callId" = some callId ∧
      callId ∈ ledger.committedToolCallIds ∧ callId ∉ ledger.committedToolResultIds ∧
      ledger'.committedToolCallIds = ledger.committedToolCallIds ∧
      ledger'.committedToolResultIds = insert callId ledger.committedToolResultIds ∧
      ledger'.followed =
        { ledger.followed with toolResultIds := ledger'.committedToolResultIds } := by
  obtain ⟨reasoning, tracked, htrack, rfl⟩ := tracked_of_restoreNext h
  simp only [trackRecord, hty, trackToolResult, staleCheckpoint, read, require, update_bind_eq,
    query_bind_eq_ok, update_eq, Prod.mk.injEq, statePayloadString, orFail_eq_ok, ensure_eq_ok,
    exists_unit, hasToolCall, hasToolResult, bool_rules, true_and] at htrack
  obtain ⟨callId, hid, hcalled, hnew, rfl⟩ := htrack
  exact ⟨callId, hid, hcalled, hnew, rfl, rfl, rfl⟩

theorem restoreNext_artifactPublished (hty : event.eventType = .artifactPublished) :
    ∃ artifactRef filename links, statePayloadText? event.payload "artifactRef" = some artifactRef ∧
      statePayloadText? event.payload "filename" = some filename ∧
      linkArtifact ledger.artifactLinks artifactRef filename = .ok links ∧
      ledger'.followed = { ledger.followed with artifactLinks := links } := by
  obtain ⟨reasoning, tracked, htrack, rfl⟩ := tracked_of_restoreNext h
  simp only [trackRecord, hty, trackArtifactPublished, read, update_bind_eq,
    query_bind_eq_ok, update_eq, Prod.mk.injEq, statePayloadString,
    orFail_eq_ok, true_and] at htrack
  obtain ⟨identities, -, artifactRef, href, filename, hname, links, hlinks, rfl⟩ := htrack
  exact ⟨artifactRef, filename, links, href, hname, hlinks, rfl⟩

/-- Every other record leaves them alone. -/
theorem restoreNext_other (hcall : event.eventType ≠ .toolCall)
    (hres : event.eventType ≠ .toolResult) (hart : event.eventType ≠ .artifactPublished) :
    ledger'.followed = ledger.followed := by
  obtain ⟨reasoning, tracked, htrack, rfl⟩ := tracked_of_restoreNext h
  have hframe : Keeps followed (trackRecord ct event (ledger.next + 1)) :=
    keeps_trackRecord hcall hres hart
  have hkeeps := hframe { ledger with reasoning := reasoning }
  rw [htrack] at hkeeps
  exact hkeeps

theorem restoreNext_tools (hcall : event.eventType ≠ .toolCall)
    (hres : event.eventType ≠ .toolResult) :
    ledger'.committedToolCallIds = ledger.committedToolCallIds ∧
      ledger'.committedToolResultIds = ledger.committedToolResultIds := by
  by_cases hart : event.eventType = .artifactPublished
  · obtain ⟨_, _, _, -, -, -, hfol⟩ := restoreNext_artifactPublished h hart
    exact ⟨congrArg (·.toolCallIds) hfol, congrArg (·.toolResultIds) hfol⟩
  · have hfol := restoreNext_other h hcall hres hart
    exact ⟨congrArg (·.toolCallIds) hfol, congrArg (·.toolResultIds) hfol⟩

theorem restoreNext_artifactLinks (hart : event.eventType ≠ .artifactPublished) :
    ledger'.artifactLinks = ledger.artifactLinks := by
  by_cases hcall : event.eventType = .toolCall
  · obtain ⟨_, -, -, -, -, hfol⟩ := restoreNext_toolCall h hcall
    exact congrArg (·.artifactLinks) hfol
  by_cases hres : event.eventType = .toolResult
  · obtain ⟨_, -, -, -, -, -, hfol⟩ := restoreNext_toolResult h hres
    exact congrArg (·.artifactLinks) hfol
  · exact congrArg (·.artifactLinks) (restoreNext_other h hcall hres hart)

end AgentRunSessionState

/-! ### Restored runs -/

variable {sessionId run : String} {front : List SessionLogRecord}

/-- One more record of a log reaches the ledger of its own run only. -/
theorem restoreRun_concat (h : restoreRun ct sessionId run (front ++ [event]) = .ok ledger') :
    ∃ ledger, restoreRun ct sessionId run front = .ok ledger ∧
      if event.agentRunId = some run then
        restoreNext ct ledger event = .ok ledger'
      else ledger' = ledger := by
  simp only [restoreRun, recordsOf, filter_append, Outcome.bind_eq_ok] at h ⊢
  obtain ⟨fresh, hfr, hrestore⟩ := h
  obtain ⟨ledger, hfront, hlast⟩ := foldlM_append_eq_ok_iff.mp hrestore
  refine ⟨ledger, ⟨fresh, hfr, hfront⟩, ?_⟩
  split
  · rename_i hrun
    rw [filter_cons_of_pos (by simpa using hrun), filter_nil, foldlM_cons,
      Outcome.bind_eq_ok] at hlast
    obtain ⟨last, hnext, hlast⟩ := hlast
    rw [foldlM_nil, Outcome.pure_eq_ok] at hlast
    rw [hnext, hlast]
  · rename_i hrun
    rw [filter_cons_of_neg (by simpa using hrun), filter_nil, foldlM_nil,
      Outcome.pure_eq_ok] at hlast
    exact hlast.symm

/-- What can be restored can be restored up to any place. -/
theorem restoreRun_append {back : List SessionLogRecord}
    (h : restoreRun ct sessionId run (front ++ back) = .ok ledger') :
    ∃ ledger, restoreRun ct sessionId run front = .ok ledger := by
  simp only [restoreRun, recordsOf, filter_append, Outcome.bind_eq_ok] at h ⊢
  obtain ⟨fresh, hfr, hrestore⟩ := h
  obtain ⟨ledger, hfront, -⟩ := foldlM_append_eq_ok_iff.mp hrestore
  exact ⟨ledger, fresh, hfr, hfront⟩

theorem restoreRun_of_noRecords (hses : isBlank sessionId = false)
    (hrun : isBlank run = false) (h : ∀ event ∈ front, event.agentRunId ≠ some run) :
    ∃ ledger, restoreRun ct sessionId run front = .ok ledger := by
  have hnone : recordsOf run front = [] := by
    rw [recordsOf, filter_eq_nil_iff]
    intro event hm
    simp [h event hm]
  rw [restoreRun, hnone, new, hses, hrun]
  exact ⟨_, rfl⟩

theorem agentRunId_of_restoreRun (h : restoreRun ct sessionId run front = .ok ledger) :
    ledger.sessionId = sessionId ∧ ledger.agentRunId = run := by
  simp only [restoreRun, Outcome.bind_eq_ok] at h
  obtain ⟨fresh, hfr, hrestore⟩ := h
  refine foldlM_invariant (fun ledger : AgentRunSessionState =>
    ledger.sessionId = sessionId ∧ ledger.agentRunId = run) ?_ ?_ hrestore
  · rintro s s' event - ⟨hses, hrun⟩ hnext
    have hkeep : s'.sessionId = s.sessionId ∧ s'.agentRunId = s.agentRunId := by
      by_cases hcall : event.eventType = .toolCall
      · obtain ⟨_, -, -, -, -, hfol⟩ := restoreNext_toolCall hnext hcall
        exact ⟨congrArg (·.sessionId) hfol, congrArg (·.agentRunId) hfol⟩
      by_cases hres : event.eventType = .toolResult
      · obtain ⟨_, -, -, -, -, -, hfol⟩ := restoreNext_toolResult hnext hres
        exact ⟨congrArg (·.sessionId) hfol, congrArg (·.agentRunId) hfol⟩
      by_cases hart : event.eventType = .artifactPublished
      · obtain ⟨_, _, _, -, -, -, hfol⟩ :=
          restoreNext_artifactPublished hnext hart
        exact ⟨congrArg (·.sessionId) hfol, congrArg (·.agentRunId) hfol⟩
      · have hfol := restoreNext_other hnext hcall hres hart
        exact ⟨congrArg (·.sessionId) hfol, congrArg (·.agentRunId) hfol⟩
    exact ⟨hkeep.1.trans hses, hkeep.2.trans hrun⟩
  · simp only [new, Outcome.ok_rules] at hfr
    obtain ⟨-, -, rfl⟩ := hfr
    exact ⟨rfl, rfl⟩

end Centaeris
