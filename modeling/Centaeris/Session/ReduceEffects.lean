import Centaeris.Session.Reduce

namespace Centaeris

open Foundation Outcome SessionLogRecord Option

/-!
# What one record does
-/

/-! ### Identities -/

namespace SessionLogRecord

/-- The identities of a record as the reducers read them, without the white space at their ends. -/
def run? (event : SessionLogRecord) : Option String := event.agentRunId.bind trimmedText?

def turn? (event : SessionLogRecord) : Option String := event.turnId.bind trimmedText?

/-- The text of a payload field. -/
def text? (event : SessionLogRecord) (key : String) : Option String :=
  ((event.payload.get? key).bind Json.asString?).bind trimmedText?

/-- The text of a payload field that may be null. -/
def nullableText? (event : SessionLogRecord) (key : String) : Option String :=
  (event.payload.get? key).bind Json.asString?

end SessionLogRecord

variable {contracts : PayloadContracts} {event : SessionLogRecord} {payload : Payload}

@[simp] theorem requiredEventAgentRunId_eq_ok {run : String} :
    requiredEventAgentRunId event = .ok run ↔ event.run? = some run := by
  simp [requiredEventAgentRunId, run?]

@[simp] theorem requiredEventTurnId_eq_ok {turn : String} :
    requiredEventTurnId event = .ok turn ↔ event.turn? = some turn := by
  simp [requiredEventTurnId, turn?]

theorem payloadObject_eq_ok :
    payloadObject event = .ok payload ↔ event.payload = .object payload := by
  unfold payloadObject
  rw [orFail_eq_ok]
  cases event.payload <;> simp [Json.asObject?]

theorem requiredPayloadString_eq_ok (hpay : event.payload = .object payload)
    {key value : String} :
    requiredPayloadString payload key event = .ok value ↔ event.text? key = some value := by
  rw [requiredPayloadString, orFail_eq_ok, text?, hpay]
  rfl

theorem optionalPayloadString_eq_ok (hpay : event.payload = .object payload)
    {key : String} {value : Option String} (h : optionalPayloadString payload key event = .ok value) :
    event.nullableText? key = value := by
  unfold optionalPayloadString at h
  rw [nullableText?, hpay]
  show (payload.lookup key).bind Json.asString? = value
  cases hvl : payload.lookup key with
  | none => simp [hvl] at h
  | some found =>
    rw [hvl] at h
    cases found with
    | null =>
      simp only [pure_eq_ok] at h
      exact h
    | string text =>
      by_cases hblk : isBlank text = true
      · simp [hblk] at h
      · simp only [hblk] at h
        exact Except.ok.inj h
    | _ => simp at h

/-! ### The ledger part of a projection -/

/-- The projections agree on runs, Executions, attempts, tool calls and artifacts. -/
structure SameLedger (proj proj' : SessionProjection) : Prop where
  runs : proj'.agentRuns = proj.agentRuns
  executions : proj'.agentRunExecutions = proj.agentRunExecutions
  attempts : proj'.recoveryAttempts = proj.recoveryAttempts
  toolCalls : proj'.toolCalls = proj.toolCalls
  artifacts : proj'.artifacts = proj.artifacts
  artifactOrder : proj'.artifactOrder = proj.artifactOrder

theorem SameLedger.refl (proj : SessionProjection) : SameLedger proj proj :=
  ⟨rfl, rfl, rfl, rfl, rfl, rfl⟩

def SessionRecordType.terminalState? : SessionRecordType → Option ReducedAgentRunState
  | .agentRunCompleted => some .completed
  | .agentRunFailed => some .failed
  | .agentRunInterrupted => some .interrupted
  | _ => none

/-- A result of a tool call or its closure. -/
def SessionRecordType.isToolAnswer (eventType : SessionRecordType) : Bool :=
  eventType == .toolResult || eventType == .toolCallClosure

def SessionRecordType.changesLedger (eventType : SessionRecordType) : Bool :=
  eventType == .agentRunStarted || eventType == .agentRunRecoveryAttempted ||
    eventType == .agentRunExecutionStarted || eventType == .agentRunExecutionEnded ||
    eventType == .toolCall || eventType.isToolAnswer || eventType == .artifactPublished ||
    eventType.terminalState?.isSome

/-- Everything that an accepted record does to the runs, Executions, recovery attempts, tool calls
    and artifacts of a projection, with its guards. -/
inductive RecordEffect (proj : SessionProjection) (opens : Table String OpenToolCall)
    (event : SessionLogRecord) : SessionProjection → Table String OpenToolCall → Prop
  | other {proj' : SessionProjection} (hty : event.eventType.changesLedger = false)
      (hsame : SameLedger proj proj') :
      RecordEffect proj opens event proj' opens
  | started {run turn : String} (hty : event.eventType = .agentRunStarted)
      (hrun : event.run? = some run) (hturn : event.turn? = some turn) :
      RecordEffect proj opens event
        { proj with
          agentRuns := proj.agentRuns.insert run ⟨run, turn, .running, none⟩ } opens
  | attempted {run : String} {attempt : ExecutionRecoveryAttempt}
      (hty : event.eventType = .agentRunRecoveryAttempted) (hrun : event.run? = some run)
      (hatt : executionRecoveryAttempt event = .ok attempt)
      (hrunning : (proj.agentRuns[run]?).any (·.state == .running) = true)
      (hcl : proj.hasOpenExecution run = false)
      (hnumber : attempt.number =
        ((proj.recoveryAttempts[run]?).map (·.number)).getD 0 + 1) :
      RecordEffect proj opens event
        { proj with
          recoveryAttempts := proj.recoveryAttempts.insert run attempt } opens
  | executionStarted {run eid digest : String} {recovered : Option String}
      (hty : event.eventType = .agentRunExecutionStarted) (hrun : event.run? = some run)
      (hid : event.text? "executionId" = some eid)
      (hrec : event.nullableText? "recoveredFromCheckpointId" = recovered)
      (hrunning : (proj.agentRuns[run]?).any (·.state == .running) = true)
      (hcl : proj.hasOpenExecution run = false)
      (hnew : proj.agentRunExecutions[eid]? = none)
      (hlineage : proj.executionsOf run = [] ↔ recovered = none)
      (hunused : ∀ checkpoint ∈ recovered, ∀ execution ∈ proj.executionsOf run,
        execution.recoveredFromCheckpointId ≠ some checkpoint) :
      RecordEffect proj opens event
        { proj with
          agentRunExecutions := proj.agentRunExecutions.insert eid
            ⟨eid, run, digest, recovered, none, none, none, none, []⟩ } opens
  | executionEnded {run eid outcome : String}
      {execution execution' : ReducedAgentRunExecution}
      (hty : event.eventType = .agentRunExecutionEnded) (hrun : event.run? = some run)
      (hid : event.text? "executionId" = some eid)
      (hkn : proj.agentRunExecutions[eid]? = some execution)
      (hown : execution.agentRunId = run) (hopen : execution.outcome = none)
      (hended : execution'.outcome = some outcome)
      (hsame : execution'.executionId = execution.executionId ∧
        execution'.agentRunId = execution.agentRunId ∧
        execution'.recoveredFromCheckpointId = execution.recoveredFromCheckpointId) :
      RecordEffect proj opens event
        { proj with
          agentRunExecutions := proj.agentRunExecutions.insert eid execution' }
        opens
  | terminal {run turn : String} {state : ReducedAgentRunState} {reason : Option String}
      (hty : event.eventType.terminalState? = some state)
      (hrun : event.run? = some run) (hturn : event.turn? = some turn)
      (hcl : proj.hasOpenExecution run = false) :
      RecordEffect proj opens event
        { proj with
          agentRuns := proj.agentRuns.insert run ⟨run, turn, state, reason⟩ } opens
  | toolCall {callId toolName turn run : String} {input : Json}
      (hty : event.eventType = .toolCall) (hid : event.text? "callId" = some callId)
      (hname : event.text? "toolName" = some toolName) (hturn : event.turn? = some turn)
      (hrun : event.run? = some run) :
      RecordEffect proj opens event
        { proj with
          toolCalls := proj.toolCalls.insert callId
            ⟨callId, toolName, turn, run, input, none, none⟩ }
        (opens.insert callId ⟨toolName, turn, run⟩)
  | toolAnswer {callId : String} {expected : OpenToolCall} {call : ReducedToolCall}
      {resultState : ToolResultState} {summary : String}
      (hty : event.eventType.isToolAnswer = true) (hid : event.text? "callId" = some callId)
      (hname : event.text? "toolName" = some expected.toolName)
      (hopen : opens[callId]? = some expected)
      (hkn : proj.toolCalls[callId]? = some call) :
      RecordEffect proj opens event
        { proj with
          toolCalls := proj.toolCalls.insert callId
            ⟨callId, expected.toolName, expected.turnId, expected.agentRunId,
              call.normalizedInput, some resultState, some summary⟩ }
        (opens.erase callId)
  | republished {turn run : String} {call : ReducedToolCall} {pub : ReducedArtifact}
      (hty : event.eventType = .artifactPublished)
      (hturn : event.turn? = some turn) (hrun : event.run? = some run)
      (htool : event.text? "toolCallId" = some pub.toolCallId)
      (hcall : proj.toolCalls[pub.toolCallId]? = some call)
      (hcallTurn : call.turnId = turn) (hcallRun : call.agentRunId = run)
      (hid : event.text? "publicationId" = some pub.publicationId)
      (href : event.text? "artifactRef" = some pub.artifactRef)
      (hkn : proj.artifacts[pub.publicationId]? = some pub) :
      RecordEffect proj opens event proj opens
  | published {turn run : String} {call : ReducedToolCall} {pub : ReducedArtifact}
      (hty : event.eventType = .artifactPublished)
      (hturn : event.turn? = some turn) (hrun : event.run? = some run)
      (htool : event.text? "toolCallId" = some pub.toolCallId)
      (hcall : proj.toolCalls[pub.toolCallId]? = some call)
      (hcallTurn : call.turnId = turn) (hcallRun : call.agentRunId = run)
      (hid : event.text? "publicationId" = some pub.publicationId)
      (href : event.text? "artifactRef" = some pub.artifactRef)
      (hnew : proj.artifacts[pub.publicationId]? = none) :
      RecordEffect proj opens event
        { proj with
          artifactOrder :=
            if proj.artifactOrder.contains pub.artifactRef then
              proj.artifactOrder
            else proj.artifactOrder ++ [pub.artifactRef]
          artifacts := proj.artifacts.insert pub.publicationId pub } opens

/-! ### One lemma for each reducer -/

variable {proj proj' : SessionProjection} {opens opens' : Table String OpenToolCall}

theorem effect_of_agentRunStarted (hty : event.eventType = .agentRunStarted)
    (h : reduceAgentRunStarted proj event = .ok proj') :
    RecordEffect proj opens event proj' opens := by
  simp only [reduceAgentRunStarted, ok_rules, requiredEventTurnId_eq_ok,
    requiredEventAgentRunId_eq_ok] at h
  obtain ⟨turn, hturn, run, hrun, rfl⟩ := h
  exact .started hty hrun hturn

theorem effect_of_recoveryAttempt (hty : event.eventType = .agentRunRecoveryAttempted)
    (h : reduceRecoveryAttempt proj event = .ok proj') :
    RecordEffect proj opens event proj' opens := by
  simp only [reduceRecoveryAttempt, ok_rules, requiredEventAgentRunId_eq_ok, bool_rules] at h
  obtain ⟨run, hrun, attempt, hatt, ⟨hrunning, hcl⟩, -, hnumber, rfl⟩ := h
  exact .attempted hty hrun hatt hrunning hcl hnumber

theorem effect_of_executionStarted (hty : event.eventType = .agentRunExecutionStarted)
    (h : reduceAgentRunExecutionStarted proj event = .ok proj') :
    RecordEffect proj opens event proj' opens := by
  simp only [reduceAgentRunExecutionStarted, ok_rules, requiredEventAgentRunId_eq_ok,
    payloadObject_eq_ok, bool_rules, isNone_iff_eq_none] at h
  obtain ⟨run, hrun, agentRun, hkn, hsta, hcl, payload, hpay, eid, hid, hnew,
    recovered, hrec, hlineage, hunused, digest, -, rfl⟩ := h
  refine .executionStarted hty hrun ((requiredPayloadString_eq_ok hpay).mp hid)
    (optionalPayloadString_eq_ok hpay hrec) ?_ hcl hnew ?_ ?_
  · rw [hkn, any_some, hsta]
    rfl
  · rw [Bool.eq_iff_iff, List.isEmpty_iff, isNone_iff_eq_none] at hlineage
    exact hlineage
  · intro checkpoint hcheckpoint execution hexecution hused
    rw [mem_def.mp hcheckpoint, any_some, List.any_eq_false] at hunused
    exact hunused execution hexecution (beq_iff_eq.mpr hused)

theorem effect_of_executionEnded (hty : event.eventType = .agentRunExecutionEnded)
    (h : reduceAgentRunExecutionEnded proj event = .ok proj') :
    RecordEffect proj opens event proj' opens := by
  simp only [reduceAgentRunExecutionEnded, ok_rules, requiredEventAgentRunId_eq_ok,
    payloadObject_eq_ok, bool_rules, isNone_iff_eq_none] at h
  obtain ⟨run, hrun, payload, hpay, eid, hid, execution, hkn, ⟨hown, hopen⟩,
    outcome, -, reasonCode, -, retryable, -, lastCheckpointId, -, toolCallIds, -, indeterminate,
    -, rfl⟩ := h
  exact .executionEnded hty hrun ((requiredPayloadString_eq_ok hpay).mp hid) hkn hown
    hopen rfl ⟨rfl, rfl, rfl⟩

theorem effect_of_terminal {state : ReducedAgentRunState}
    (hty : event.eventType.terminalState? = some state)
    (h : reduceTerminalAgentRun proj event state = .ok proj') :
    RecordEffect proj opens event proj' opens := by
  simp only [reduceTerminalAgentRun, ok_rules, requiredEventTurnId_eq_ok,
    requiredEventAgentRunId_eq_ok, Bool.not_eq_true'] at h
  obtain ⟨turn, hturn, run, hrun, payload, -, hcl, -, rfl⟩ := h
  exact .terminal hty hrun hturn hcl

theorem effect_of_toolCall (hty : event.eventType = .toolCall)
    (h : reduceToolCall proj opens event = .ok (proj', opens')) :
    RecordEffect proj opens event proj' opens' := by
  simp only [reduceToolCall, ok_rules, requiredEventTurnId_eq_ok, requiredEventAgentRunId_eq_ok,
    payloadObject_eq_ok, Prod.mk.injEq] at h
  obtain ⟨payload, hpay, callId, hid, toolName, hname, turn, hturn, run, hrun, input, -, rfl,
    rfl⟩ := h
  exact .toolCall hty ((requiredPayloadString_eq_ok hpay).mp hid)
    ((requiredPayloadString_eq_ok hpay).mp hname) hturn hrun

theorem effect_of_toolResult (hty : event.eventType.isToolAnswer = true)
    (h : reduceToolResult contracts proj opens event = .ok (proj', opens')) :
    RecordEffect proj opens event proj' opens' := by
  simp only [reduceToolResult, ok_rules, payloadObject_eq_ok, Prod.mk.injEq, beq_iff_eq] at h
  obtain ⟨payload, hpay, callId, hid, toolName, hname, resultState, -, summary, -, expected,
    hopen, rfl, call, hkn, rfl, rfl⟩ := h
  exact .toolAnswer hty ((requiredPayloadString_eq_ok hpay).mp hid)
    ((requiredPayloadString_eq_ok hpay).mp hname) hopen hkn

theorem effect_of_artifactPublished (hty : event.eventType = .artifactPublished)
    (h : reduceArtifactPublished proj event = .ok proj') :
    RecordEffect proj opens event proj' opens := by
  simp only [reduceArtifactPublished, readArtifact, ok_rules, payloadObject_eq_ok,
    requiredEventTurnId_eq_ok, requiredEventAgentRunId_eq_ok, bool_rules] at h
  obtain ⟨payload, hpay, toolCallId, htool, call, hcall, turn, hturn, run, hrun,
    ⟨hcallTurn, hcallRun⟩, -, pub, hread, hres⟩ := h
  obtain ⟨publicationId, hid, artifactRef, href, filename, -, sizeBytes, -, sha256, -, hread⟩ :=
    hread
  have htool' : pub.toolCallId = toolCallId := by rw [← hread]
  have hid' : pub.publicationId = publicationId := by rw [← hread]
  have href' : pub.artifactRef = artifactRef := by rw [← hread]
  rw [requiredPayloadString_eq_ok hpay, ← htool'] at htool
  rw [requiredPayloadString_eq_ok hpay, ← hid'] at hid
  rw [requiredPayloadString_eq_ok hpay, ← href'] at href
  rw [← htool'] at hcall
  cases hfd : proj.artifacts[pub.publicationId]? with
  | some existing =>
    simp only [hfd, ok_rules, beq_iff_eq] at hres
    obtain ⟨rfl, rfl⟩ := hres
    exact .republished hty hturn hrun htool hcall hcallTurn hcallRun hid href hfd
  | none =>
    simp only [hfd, pure_eq_ok] at hres
    subst hres
    exact .published hty hturn hrun htool hcall hcallTurn hcallRun hid href hfd

/-! ### Records that leave the ledger part alone -/

theorem sameLedger_of_userMessage (h : reduceUserMessage proj event = .ok proj') :
    SameLedger proj proj' := by
  simp only [reduceUserMessage, ok_rules] at h
  obtain ⟨_, -, _, -, _, -, rfl⟩ := h
  exact ⟨rfl, rfl, rfl, rfl, rfl, rfl⟩

theorem sameLedger_of_turnSupplement (h : reduceTurnSupplement proj event = .ok proj') :
    SameLedger proj proj' := by
  simp only [reduceTurnSupplement, ok_rules] at h
  obtain ⟨_, -, _, -, _, -, -, rfl⟩ := h
  exact ⟨rfl, rfl, rfl, rfl, rfl, rfl⟩

theorem sameLedger_of_hostEventInput
    (h : reduceHostEventInput contracts proj event = .ok proj') :
    SameLedger proj proj' := by
  simp only [reduceHostEventInput, ok_rules] at h
  obtain ⟨_, -, _, -, -, rfl⟩ := h
  exact ⟨rfl, rfl, rfl, rfl, rfl, rfl⟩

theorem sameLedger_of_assistantMessage
    (h : reduceAssistantMessage proj event = .ok proj') :
    SameLedger proj proj' := by
  simp only [reduceAssistantMessage, ok_rules] at h
  obtain ⟨_, -, _, -, _, -, -, _, -, _, -, _, -, -, _, -, -, rfl⟩ := h
  exact ⟨rfl, rfl, rfl, rfl, rfl, rfl⟩

theorem sameLedger_of_modelRequestStarted
    (h : reduceModelRequestStarted proj event = .ok proj') :
    SameLedger proj proj' := by
  simp only [reduceModelRequestStarted, bind_eq_ok] at h
  obtain ⟨purpose, -, run, -, h⟩ := h
  split at h
  · simp only [pure_eq_ok] at h
    subst h
    exact ⟨rfl, rfl, rfl, rfl, rfl, rfl⟩
  · simp only [bind_eq_ok] at h
    obtain ⟨_, -, _, -, digest, -, h⟩ := h
    split at h
    · simp only [ok_rules] at h
      obtain ⟨-, rfl⟩ := h
      exact ⟨rfl, rfl, rfl, rfl, rfl, rfl⟩
    · simp only [pure_eq_ok] at h
      subst h
      exact ⟨rfl, rfl, rfl, rfl, rfl, rfl⟩

theorem sameLedger_of_providerUsage
    (h : reduceProviderUsage contracts proj event = .ok proj') :
    SameLedger proj proj' := by
  simp only [reduceProviderUsage, ok_rules] at h
  obtain ⟨_, -, _, -, _, -, -, _, -, rfl⟩ := h
  exact ⟨rfl, rfl, rfl, rfl, rfl, rfl⟩

theorem sameLedger_of_citationRecorded
    (h : reduceCitationRecorded proj event = .ok proj') :
    SameLedger proj proj' := by
  simp only [reduceCitationRecorded, ok_rules] at h
  obtain ⟨_, -, _, -, _, -, _, -, _, -, _, -, -, _, -, -, -, _, -, _, -, _, -, _, -, _, -, _, -, _,
    -, rfl⟩ := h
  exact ⟨rfl, rfl, rfl, rfl, rfl, rfl⟩

theorem sameLedger_of_tombstone (h : reduceTombstone proj event = .ok proj') :
    SameLedger proj proj' := by
  simp only [reduceTombstone, ok_rules] at h
  obtain ⟨_, -, _, -, _, -, rfl⟩ := h
  exact ⟨rfl, rfl, rfl, rfl, rfl, rfl⟩

/-! ### The step -/

/-- Each accepted record has an effect. -/
theorem recordEffect_of_reduceRecord
    (h : reduceRecord contracts proj opens event = .ok (proj', opens')) :
    RecordEffect proj opens event proj' opens' := by
  unfold reduceRecord at h
  have hkeep : ∀ result : Outcome SessionProjection,
      (result = .ok proj' → RecordEffect proj opens event proj' opens) →
      (do let proj ← result; pure (proj, opens) : Outcome ToolReduction) =
        .ok (proj', opens') → RecordEffect proj opens event proj' opens' := by
    intro result heff hres
    simp only [ok_rules, Prod.mk.injEq] at hres
    obtain ⟨_, hok, rfl, rfl⟩ := hres
    exact heff hok
  have hsame : event.eventType.changesLedger = false → ∀ result : Outcome SessionProjection,
      (result = .ok proj' → SameLedger proj proj') → _ :=
    fun hty result hled => hkeep result fun hok => .other hty (hled hok)
  have hquiet : (pure proj : Outcome SessionProjection) = .ok proj' →
      SameLedger proj proj' := by
    intro hpure
    rw [pure_eq_ok] at hpure
    exact hpure ▸ .refl proj
  generalize hty : event.eventType = eventType at h
  cases eventType with
  | agentRunStarted => exact hkeep _ (effect_of_agentRunStarted hty) h
  | agentRunRecoveryAttempted => exact hkeep _ (effect_of_recoveryAttempt hty) h
  | agentRunExecutionStarted => exact hkeep _ (effect_of_executionStarted hty) h
  | agentRunExecutionEnded => exact hkeep _ (effect_of_executionEnded hty) h
  | toolCall => exact effect_of_toolCall hty h
  | toolResult | toolCallClosure => exact effect_of_toolResult (by rw [hty]; rfl) h
  | artifactPublished => exact hkeep _ (effect_of_artifactPublished hty) h
  | agentRunCompleted | agentRunFailed | agentRunInterrupted =>
    exact hkeep _ (effect_of_terminal (by rw [hty]; rfl)) h
  | userMessage => exact hsame (by rw [hty]; rfl) _ sameLedger_of_userMessage h
  | turnSupplement => exact hsame (by rw [hty]; rfl) _ sameLedger_of_turnSupplement h
  | hostEventInput => exact hsame (by rw [hty]; rfl) _ sameLedger_of_hostEventInput h
  | assistantMessage => exact hsame (by rw [hty]; rfl) _ sameLedger_of_assistantMessage h
  | modelRequestStarted => exact hsame (by rw [hty]; rfl) _ sameLedger_of_modelRequestStarted h
  | providerUsage => exact hsame (by rw [hty]; rfl) _ sameLedger_of_providerUsage h
  | citationRecorded => exact hsame (by rw [hty]; rfl) _ sameLedger_of_citationRecorded h
  | tombstone => exact hsame (by rw [hty]; rfl) _ sameLedger_of_tombstone h
  | reasoningBlock | sessionMeta | phaseEvent | externalEvidenceRef | fileFact | compaction
  | checkpointRef =>
    exact hsame (by rw [hty]; rfl) _ hquiet h

variable {expectedSessionId : String} {state state' : SessionReduction}

/-- The checks around the step of a record. -/
theorem reduceEvent_eq_ok_iff :
    reduceEvent contracts expectedSessionId state event = .ok state' ↔
      validateEventShape contracts event = .ok () ∧ event.sessionId = trim expectedSessionId ∧
      event.eventId ∉ state.seenEventIds ∧
      state'.seenEventIds = insert event.eventId state.seenEventIds ∧
      ∃ reasoning, state.projection.reasoning.apply event = .ok reasoning ∧
        reduceRecord contracts { state.projection with reasoning := reasoning }
          state.openToolCallIds event = .ok (state'.projection, state'.openToolCallIds) := by
  simp only [reduceEvent, ok_rules, bool_rules, Prod.exists]
  constructor
  · rintro ⟨hshp, hses, hnew, reasoning, hreas, _, _, hrcd, rfl⟩
    exact ⟨hshp, hses, hnew, rfl, reasoning, hreas, hrcd⟩
  · rintro ⟨hshp, hses, hnew, hseen, reasoning, hreas, hrcd⟩
    refine ⟨hshp, hses, hnew, reasoning, hreas, _, _, hrcd, ?_⟩
    rw [← hseen]

/-- One step of a reduction has an effect on the ledger part; the reasoning ledger that it
    updates first is no part of it. -/
theorem recordEffect_of_reduceEvent
    (h : reduceEvent contracts expectedSessionId state event = .ok state') :
    ∃ middle, SameLedger state.projection middle ∧
      RecordEffect middle state.openToolCallIds event state'.projection
        state'.openToolCallIds := by
  obtain ⟨-, -, -, -, reasoning, -, hrcd⟩ := reduceEvent_eq_ok_iff.mp h
  refine ⟨_, ?_, recordEffect_of_reduceRecord hrcd⟩
  exact ⟨rfl, rfl, rfl, rfl, rfl, rfl⟩

end Centaeris
