import Centaeris.Session.RunLifecycle

namespace Centaeris

open Foundation SessionLogRecord SessionProjection SessionRecordType List Option

/-!
# The lineage of Executions

Executions of a run follow one another: the first one starts fresh, each later one
continues from a checkpoint that no earlier one used, and no two are open at once.
-/

/-! ### Records of Executions -/

namespace SessionLogRecord

def isExecutionStart (event : SessionLogRecord) : Bool :=
  event.eventType == .agentRunExecutionStarted

def isExecutionEnd (event : SessionLogRecord) : Bool :=
  event.eventType == .agentRunExecutionEnded

def isRecoveryAttempt (event : SessionLogRecord) : Bool :=
  event.eventType == .agentRunRecoveryAttempted

def executionId? (event : SessionLogRecord) : Option String := event.text? "executionId"

/-- The checkpoint that an Execution continues from; none when the field is null. -/
def recoveredFrom? (event : SessionLogRecord) : Option String :=
  event.nullableText? "recoveredFromCheckpointId"

def attemptNumber? (event : SessionLogRecord) : Option Nat :=
  (event.payload.get? "attempt").bind Json.asU64?

end SessionLogRecord

/-- An Execution that was started and not ended in a list of records. -/
def OpenIn (records : List SessionLogRecord) (run eid : String) : Prop :=
  (∃ start ∈ records, start.isExecutionStart = true ∧ start.run? = some run ∧
    start.executionId? = some eid) ∧
  ∀ last ∈ records, last.isExecutionEnd = true → last.executionId? ≠ some eid

/-- The last start or terminal record of the run is its start. -/
def RunningIn (records : List SessionLogRecord) (run : String) : Prop :=
  ∃ last, (wordOf SessionLogRecord.lifecycleKey run records).getLast? = some last ∧
    last.isStart = true

/-- The number of recovery attempts of the run. -/
def attemptsIn (records : List SessionLogRecord) (run : String) : Nat :=
  (records.filter fun event => event.isRecoveryAttempt && event.run? == some run).length

/-- The law, in terms of the records alone. -/
structure ExecutionLineage (active : List SessionLogRecord) : Prop where
  oneOpen : ∀ (front back : List SessionLogRecord), active = front ++ back →
    ∀ (run eid eid' : String),
    OpenIn front run eid → OpenIn front run eid' → eid = eid'
  unique : ∀ (front : List SessionLogRecord) (event : SessionLogRecord)
    (back : List SessionLogRecord), active = front ++ event :: back → event.isExecutionStart = true →
    ∀ earlier ∈ front, earlier.isExecutionStart = true →
      earlier.executionId? ≠ event.executionId?
  recovered : ∀ (front : List SessionLogRecord) (event : SessionLogRecord)
    (back : List SessionLogRecord) (run : String), active = front ++ event :: back →
    event.isExecutionStart = true → event.run? = some run →
    (event.recoveredFrom? = none ↔
      ∀ earlier ∈ front, earlier.isExecutionStart = true → earlier.run? ≠ some run) ∧
    ∀ earlier ∈ front, earlier.isExecutionStart = true → earlier.run? = some run →
      earlier.recoveredFrom? ≠ event.recoveredFrom?
  ended : ∀ (front : List SessionLogRecord) (event : SessionLogRecord)
    (back : List SessionLogRecord), active = front ++ event :: back → event.isExecutionEnd = true →
    (∃ start ∈ front, start.isExecutionStart = true ∧
      start.executionId? = event.executionId? ∧ start.run? = event.run?) ∧
    ∀ earlier ∈ front, earlier.isExecutionEnd = true →
      earlier.executionId? ≠ event.executionId?
  attempted : ∀ (front : List SessionLogRecord) (event : SessionLogRecord)
    (back : List SessionLogRecord) (run : String), active = front ++ event :: back →
    event.isRecoveryAttempt = true → event.run? = some run →
    event.attemptNumber? = some (attemptsIn front run + 1) ∧ RunningIn front run ∧
      ∀ eid, ¬ OpenIn front run eid
  terminal : ∀ (front : List SessionLogRecord) (event : SessionLogRecord)
    (back : List SessionLogRecord) (run : String), active = front ++ event :: back →
    event.isTerminal = true → event.run? = some run →
    ∀ eid, ¬ OpenIn front run eid

/-! ### Executions of a projection -/

namespace SessionProjection

variable {proj : SessionProjection} {run : String}

theorem hasOpenExecution_eq_false : proj.hasOpenExecution run = false ↔
    ∀ (eid : String) (execution : ReducedAgentRunExecution),
      proj.agentRunExecutions[eid]? = some execution →
      execution.agentRunId = run → execution.outcome ≠ none := by
  unfold hasOpenExecution
  rw [List.any_eq_false]
  constructor
  · intro h eid execution hkn hrun hopen
    apply h (eid, execution) (Table.mem_toList.mpr hkn)
    simp [hrun, hopen]
  · rintro h ⟨eid, execution⟩ hm hboth
    simp only [bool_rules, isNone_iff_eq_none] at hboth
    exact h eid execution (Table.mem_toList.mp hm) hboth.1 hboth.2

theorem mem_executionsOf {execution : ReducedAgentRunExecution} :
    execution ∈ proj.executionsOf run ↔ ∃ eid : String,
      proj.agentRunExecutions[eid]? = some execution ∧
        execution.agentRunId = run := by
  simp only [executionsOf, mem_filter, List.mem_map, Prod.exists, beq_iff_eq, Table.mem_toList]
  constructor
  · rintro ⟨⟨eid, _, hkn, rfl⟩, hrun⟩
    exact ⟨eid, hkn, hrun⟩
  · rintro ⟨eid, hkn, hrun⟩
    exact ⟨⟨eid, execution, hkn, rfl⟩, hrun⟩

end SessionProjection

/-- **Invariant.** The projection knows the Executions that the records started, which of
    them ended, and how often recovery was attempted. -/
structure Executions (done : List SessionLogRecord) (proj : SessionProjection) : Prop where
  started : ∀ start ∈ done, start.isExecutionStart = true → ∃ eid execution,
    start.executionId? = some eid ∧
    proj.agentRunExecutions[eid]? = some execution ∧
    start.run? = some execution.agentRunId ∧
    start.recoveredFrom? = execution.recoveredFromCheckpointId
  known : ∀ (eid : String) (execution : ReducedAgentRunExecution),
    proj.agentRunExecutions[eid]? = some execution →
    ∃ start ∈ done, start.isExecutionStart = true ∧ start.executionId? = some eid ∧
      start.run? = some execution.agentRunId ∧
      start.recoveredFrom? = execution.recoveredFromCheckpointId
  ended : ∀ (eid : String) (execution : ReducedAgentRunExecution),
    proj.agentRunExecutions[eid]? = some execution →
    (execution.outcome = none ↔
      ∀ last ∈ done, last.isExecutionEnd = true → last.executionId? ≠ some eid)
  ends : ∀ last ∈ done, last.isExecutionEnd = true → ∃ (eid : String) (execution :
    ReducedAgentRunExecution), last.executionId? = some eid ∧
    proj.agentRunExecutions[eid]? = some execution
  single : ∀ (eid eid' : String) (execution execution' :
    ReducedAgentRunExecution), proj.agentRunExecutions[eid]? = some execution →
    proj.agentRunExecutions[eid']? = some execution' →
    execution.agentRunId = execution'.agentRunId → execution.outcome = none →
    execution'.outcome = none → eid = eid'
  attempts : ∀ run, ((proj.recoveryAttempts[run]?).map (·.number)).getD 0 =
    attemptsIn done run

/-! ### One record -/

section Step

variable {done : List SessionLogRecord} {event : SessionLogRecord}
  {proj proj' : SessionProjection} {opens opens' : Table String OpenToolCall}

theorem attemptsIn_concat (run : String) : attemptsIn (done ++ [event]) run =
    attemptsIn done run + if event.isRecoveryAttempt && event.run? == some run then 1 else 0 := by
  unfold attemptsIn
  rw [filter_append, length_append]
  congr 1
  cases hatt : (event.isRecoveryAttempt && event.run? == some run) <;>
    simp [hatt]

variable {P : SessionLogRecord → Prop}

theorem forall_concat {kind : SessionLogRecord → Bool} :
    (∀ record ∈ done ++ [event], kind record = true → P record) ↔
      (∀ record ∈ done, kind record = true → P record) ∧ (kind event = true → P event) := by
  simp only [mem_append, mem_singleton, or_imp, forall_and, forall_eq]

theorem exists_concat (h : ∃ record ∈ done, P record) :
    ∃ record ∈ done ++ [event], P record := by
  obtain ⟨record, hm, hp⟩ := h
  exact ⟨record, mem_append_left _ hm, hp⟩

theorem kinds_of_eventType {eventType : SessionRecordType} (h : event.eventType = eventType) :
    event.isExecutionStart = (eventType == .agentRunExecutionStarted) ∧
      event.isExecutionEnd = (eventType == .agentRunExecutionEnded) ∧
      event.isRecoveryAttempt = (eventType == .agentRunRecoveryAttempted) := by
  subst h
  exact ⟨rfl, rfl, rfl⟩

variable (h : Executions done proj)

include h

theorem Executions.congr (hsame : proj'.agentRunExecutions = proj.agentRunExecutions)
    (hattempts : proj'.recoveryAttempts = proj.recoveryAttempts) :
    Executions done proj' := by
  cases proj
  cases proj'
  cases hsame
  cases hattempts
  exact ⟨h.started, h.known, h.ended, h.ends, h.single, h.attempts⟩

/-- A record that starts and ends no Execution leaves the invariant to its attempts. -/
theorem Executions.keep (hsame : proj'.agentRunExecutions = proj.agentRunExecutions)
    (hattempts : ∀ run, ((proj'.recoveryAttempts[run]?).map (·.number)).getD 0 =
      attemptsIn (done ++ [event]) run)
    (hstart : event.isExecutionStart = false) (hend : event.isExecutionEnd = false) :
    Executions (done ++ [event]) proj' := by
  cases proj
  cases proj'
  cases hsame
  refine ⟨?_, ?_, ?_, ?_, h.single, hattempts⟩
  · rw [forall_concat]
    exact ⟨h.started, by simp [hstart]⟩
  · intro eid execution hkn
    exact exists_concat (h.known eid execution hkn)
  · intro eid execution hkn
    rw [h.ended eid execution hkn, forall_concat]
    simp [hend]
  · rw [forall_concat]
    exact ⟨h.ends, by simp [hend]⟩

variable {run : String}

theorem Executions.attempt {attempt : ExecutionRecoveryAttempt}
    (hty : event.eventType = .agentRunRecoveryAttempted) (hrun : event.run? = some run)
    (hnumber : attempt.number =
      ((proj.recoveryAttempts[run]?).map (·.number)).getD 0 + 1) :
    Executions (done ++ [event])
      { proj with recoveryAttempts := proj.recoveryAttempts.insert run attempt } := by
  obtain ⟨hstart, hend, hatt⟩ := kinds_of_eventType hty
  refine h.keep rfl ?_ hstart hend
  intro other
  rw [attemptsIn_concat, hatt, hrun, Table.getElem?_insert]
  by_cases hsame : run = other
  · subst hsame
    rw [if_pos rfl, map_some, getD_some, hnumber, h.attempts run]
    simp
  · rw [if_neg hsame, h.attempts other]
    simp [hsame]

variable {eid : String}

theorem Executions.start {digest : String} {recovered : Option String}
    (hty : event.eventType = .agentRunExecutionStarted)
    (hrun : event.run? = some run) (hid : event.text? "executionId" = some eid)
    (hrec : event.nullableText? "recoveredFromCheckpointId" = recovered)
    (hcl : proj.hasOpenExecution run = false)
    (hnew : proj.agentRunExecutions[eid]? = none) :
    Executions (done ++ [event])
      { proj with
        agentRunExecutions := proj.agentRunExecutions.insert eid
          ⟨eid, run, digest, recovered, none, none, none, none, []⟩ } := by
  obtain ⟨hstart, hend, hatt⟩ := kinds_of_eventType hty
  have hcl' := hasOpenExecution_eq_false.mp hcl
  refine ⟨?_, ?_, ?_, ?_, ?_, ?_⟩
  · rw [forall_concat]
    refine ⟨?_, fun _ => ⟨eid,
      ⟨eid, run, digest, recovered, none, none, none, none, []⟩, hid, ?_, hrun,
      hrec⟩⟩
    swap
    · rw [Table.getElem?_insert, if_pos rfl]
    intro record hm hkind
    obtain ⟨id, execution, hrcd, hkn, hown, hfrom⟩ := h.started record hm hkind
    exact ⟨id, execution, hrcd, Table.insert_keeps hnew hkn, hown, hfrom⟩
  · intro other execution hkn
    rcases Table.found_of_insert hkn with ⟨rfl, rfl⟩ | ⟨-, hold⟩
    · exact ⟨event, by simp, hstart, hid, hrun, hrec⟩
    · exact exists_concat (h.known other execution hold)
  · intro other execution hkn
    rw [forall_concat]
    rcases Table.found_of_insert hkn with ⟨rfl, rfl⟩ | ⟨-, hold⟩
    · -- an end of the new Execution would have made it known
      refine iff_of_true rfl ⟨?_, by simp [hend]⟩
      intro last hm hkind hlast
      obtain ⟨id, execution, hlastId, hknownId⟩ := h.ends last hm hkind
      rw [hlastId, Option.some.injEq] at hlast
      rw [hlast, hnew] at hknownId
      cases hknownId
    · rw [h.ended other execution hold]
      simp [hend]
  · rw [forall_concat]
    refine ⟨?_, by simp [hend]⟩
    intro last hm hkind
    obtain ⟨id, execution, hlastId, hkn⟩ := h.ends last hm hkind
    exact ⟨id, execution, hlastId, Table.insert_keeps hnew hkn⟩
  · intro id id' execution execution' hkn hkn' hown hopen hopen'
    rcases Table.found_of_insert hkn with ⟨rfl, rfl⟩ | ⟨-, hold⟩ <;>
      rcases Table.found_of_insert hkn' with ⟨rfl, rfl⟩ | ⟨-, hold'⟩
    · rfl
    · exact absurd hopen' (hcl' id' execution' hold' hown.symm)
    · exact absurd hopen (hcl' id execution hold hown)
    · exact h.single id id' execution execution' hold hold' hown hopen hopen'
  · intro other
    rw [h.attempts other, attemptsIn_concat, hatt]
    simp

theorem Executions.close {outcome : String} {execution execution' : ReducedAgentRunExecution}
    (hty : event.eventType = .agentRunExecutionEnded)
    (hid : event.text? "executionId" = some eid)
    (hkn : proj.agentRunExecutions[eid]? = some execution)
    (hown : execution'.agentRunId = execution.agentRunId)
    (hfrom : execution'.recoveredFromCheckpointId = execution.recoveredFromCheckpointId)
    (hended : execution'.outcome = some outcome) :
    Executions (done ++ [event])
      { proj with
        agentRunExecutions := proj.agentRunExecutions.insert eid execution' } := by
  obtain ⟨hstart, hend, hatt⟩ := kinds_of_eventType hty
  -- the ended Execution keeps its run and its origin, the others keep everything
  have hkeeps : ∀ {other : String} {found : ReducedAgentRunExecution},
      proj.agentRunExecutions[other]? = some found → ∃ found',
        (proj.agentRunExecutions.insert eid execution')[other]? = some found' ∧
        found'.agentRunId = found.agentRunId ∧
        found'.recoveredFromCheckpointId = found.recoveredFromCheckpointId := by
    intro other found hfd
    rw [Table.getElem?_insert]
    by_cases hsame : eid = other
    · subst hsame
      rw [hkn, Option.some.injEq] at hfd
      subst hfd
      exact ⟨execution', by rw [if_pos rfl], hown, hfrom⟩
    · exact ⟨found, by rw [if_neg hsame, hfd], rfl, rfl⟩
  refine ⟨?_, ?_, ?_, ?_, ?_, ?_⟩
  · rw [forall_concat]
    refine ⟨?_, by simp [hstart]⟩
    intro record hm hkind
    obtain ⟨id, found, hrcd, hfd, hrun, hrec⟩ := h.started record hm hkind
    obtain ⟨found', hfd', hrun', hrec'⟩ := hkeeps hfd
    exact ⟨id, found', hrcd, hfd', hrun.trans (congrArg some hrun'.symm),
      hrec.trans hrec'.symm⟩
  · intro other found hfd
    rcases Table.found_of_insert hfd with ⟨rfl, rfl⟩ | ⟨-, hold⟩
    · rw [hown, hfrom]
      exact exists_concat (h.known eid execution hkn)
    · exact exists_concat (h.known other found hold)
  · intro other found hfd
    rw [forall_concat]
    rcases Table.found_of_insert hfd with ⟨rfl, rfl⟩ | ⟨hoth, hold⟩
    · refine iff_of_false (by rw [hended]; nofun) ?_
      rintro ⟨-, hlast⟩
      exact hlast hend hid
    · rw [h.ended other found hold]
      refine ⟨fun hopen => ⟨hopen, ?_⟩, fun hopen => hopen.1⟩
      intro _ hsame
      exact hoth (Option.mem_unique hid hsame)
  · rw [forall_concat]
    refine ⟨?_, fun _ => ⟨eid, execution', hid, by rw [Table.getElem?_insert, if_pos rfl]⟩⟩
    intro last hm hkind
    obtain ⟨id, found, hlast, hfd⟩ := h.ends last hm hkind
    obtain ⟨found', hfd', -⟩ := hkeeps hfd
    exact ⟨id, found', hlast, hfd'⟩
  · intro id id' found found' hfd hfd' hrun hopen hopen'
    rcases Table.found_of_insert hfd with ⟨rfl, rfl⟩ | ⟨-, hold⟩
    · rw [hended] at hopen
      cases hopen
    · rcases Table.found_of_insert hfd' with ⟨rfl, rfl⟩ | ⟨-, hold'⟩
      · rw [hended] at hopen'
        cases hopen'
      · exact h.single id id' found found' hold hold' hrun hopen hopen'
  · intro other
    rw [h.attempts other, attemptsIn_concat, hatt]
    simp

/-- One record, and a whole reduction. -/
theorem Executions.step (heff : RecordEffect proj opens event proj' opens') :
    Executions (done ++ [event]) proj' := by
  have hskip : (∀ kind ∈ [agentRunExecutionStarted, agentRunExecutionEnded,
      agentRunRecoveryAttempted], event.eventType ≠ kind) →
      proj'.agentRunExecutions = proj.agentRunExecutions →
      proj'.recoveryAttempts = proj.recoveryAttempts →
      Executions (done ++ [event]) proj' := by
    intro hkind hsame hattempts
    simp only [forall_mem_cons, ← beq_eq_false_iff_ne] at hkind
    obtain ⟨hstart, hend, hatt, -⟩ := hkind
    refine h.keep hsame ?_ hstart hend
    intro run
    rw [hattempts, h.attempts run, attemptsIn_concat, show event.isRecoveryAttempt = false from
      hatt]
    simp
  cases heff with
  | attempted hty hrun _ _ _ hnumber => exact h.attempt hty hrun hnumber
  | executionStarted hty hrun hid hrec _ hcl hnew =>
    exact h.start hty hrun hid hrec hcl hnew
  | executionEnded hty _ hid hkn _ _ hended hsame =>
    exact h.close hty hid hkn hsame.2.1 hsame.2.2 hended
  | other hty hsame =>
    refine hskip ?_ hsame.executions hsame.attempts
    intro kind hkind heq
    rw [heq] at hty
    fin_cases hkind <;> cases hty
  | started hty | toolCall hty | republished hty | published hty | terminal hty
  | toolAnswer hty =>
    refine hskip ?_ rfl rfl
    intro kind hkind heq
    rw [heq] at hty
    fin_cases hkind <;> cases hty

theorem Executions.openIn_iff :
    OpenIn done run eid ↔ ∃ execution,
      proj.agentRunExecutions[eid]? = some execution ∧
        execution.agentRunId = run ∧ execution.outcome = none := by
  constructor
  · rintro ⟨⟨start, hm, hkind, hrun, hid⟩, hends⟩
    obtain ⟨id, execution, hid', hkn, hown, -⟩ := h.started start hm hkind
    obtain rfl : id = eid := Option.mem_unique hid' hid
    refine ⟨execution, hkn, Option.mem_unique hown hrun, ?_⟩
    exact (h.ended id execution hkn).mpr hends
  · rintro ⟨execution, hkn, rfl, hopen⟩
    obtain ⟨start, hm, hkind, hid, hrun, -⟩ := h.known eid execution hkn
    exact ⟨⟨start, hm, hkind, hrun, hid⟩, (h.ended eid execution hkn).mp hopen⟩

theorem Executions.not_openIn
    (hcl : proj.hasOpenExecution run = false) (eid : String) :
    ¬ OpenIn done run eid := by
  rw [h.openIn_iff]
  rintro ⟨execution, hkn, hrun, hopen⟩
  exact hasOpenExecution_eq_false.mp hcl eid execution hkn hrun
    hopen

end Step

/-! ### Whole logs -/

variable {contracts : PayloadContracts} {sessionId : String} {targets : Finset String}
  {active : List SessionLogRecord} {state : SessionReduction}

/-- Before the first record nothing is known. -/
theorem executions_nil {proj : SessionProjection}
    (hexec : proj.agentRunExecutions = ∅)
    (hattempts : proj.recoveryAttempts = ∅) : Executions [] proj := by
  have hunknown : ∀ (eid : String) (execution : ReducedAgentRunExecution),
      proj.agentRunExecutions[eid]? ≠ some execution := by
    intro eid execution
    rw [hexec, Table.getElem?_empty]
    exact some_ne_none execution |>.symm
  refine ⟨?_, ?_, ?_, ?_, ?_, ?_⟩
  · intro start hm
    cases hm
  · intro eid execution hkn
    exact absurd hkn (hunknown eid execution)
  · intro eid execution hkn
    exact absurd hkn (hunknown eid execution)
  · intro last hm
    cases hm
  · intro eid _ execution _ hkn
    exact absurd hkn (hunknown eid execution)
  · intro run
    rw [hattempts, Table.getElem?_empty]
    rfl

/-- **Run.** A reduction keeps the invariant. -/
theorem executions_of_reduceActive
    (h : reduceActive contracts sessionId targets active = .ok state) :
    Executions active state.projection := by
  have hstart : Executions []
      { empty with tombstonedEventIds := targets } :=
    executions_nil rfl rfl
  have hinv := foldlM_invariant_trace (fun (state : SessionReduction) done =>
    Executions done state.projection) ?_ hstart h
  · rwa [nil_append] at hinv
  · intro before after event front back _ hpre hev
    obtain ⟨middle, hmid, heff⟩ := recordEffect_of_reduceEvent hev
    exact (hpre.congr hmid.executions hmid.attempts).step heff

variable {front : List SessionLogRecord}

theorem effect_at_split {back : List SessionLogRecord} {event : SessionLogRecord}
    (h : reduceActive contracts sessionId targets active = .ok state)
    (hsp : active = front ++ event :: back) :
    ∃ before middle proj' opens',
      reduceActive contracts sessionId targets front = .ok before ∧
      SameLedger before.projection middle ∧ Executions front middle ∧
      RecordEffect middle before.openToolCallIds event proj' opens' := by
  obtain ⟨before, after, hfront, hev⟩ := reduceActive_split (hsp ▸ h)
  obtain ⟨middle, hmid, heff⟩ := recordEffect_of_reduceEvent hev
  exact ⟨before, middle, _, _, hfront, hmid,
    (executions_of_reduceActive hfront).congr hmid.executions hmid.attempts, heff⟩

theorem runningIn_of_entry {before : SessionReduction} {run : String}
    (hfront : reduceActive contracts sessionId targets front = .ok before)
    (hrunning : (before.projection.agentRuns[run]?).any (·.state == .running) = true) :
    RunningIn front run := by
  obtain ⟨reduced, hred, hsta⟩ := (Option.any_eq_true _ _).mp hrunning
  have hent := runEntry_of_reduceActive hfront run
  rw [SessionProjection.runEntry?, hred] at hent
  obtain ⟨last, hlast, hwr⟩ := bind_eq_some_iff.mp hent.symm
  refine ⟨last, hlast, ?_⟩
  obtain ⟨turn, -, hpair⟩ := bind_eq_some_iff.mp hwr
  obtain ⟨written, hwrittenState, hpair⟩ := map_eq_some_iff.mp hpair
  rw [(Prod.mk.inj hpair).2, beq_iff_eq.mp hsta] at hwrittenState
  exact SessionRecordType.isStart_of_running hwrittenState

section Inversion

variable {proj proj' : SessionProjection} {opens opens' : Table String OpenToolCall}
  {event : SessionLogRecord}

variable (h : RecordEffect proj opens event proj' opens')

include h

theorem RecordEffect.of_executionStart (hkind : event.isExecutionStart = true) :
    ∃ run eid, event.run? = some run ∧ event.executionId? = some eid ∧
      proj.agentRunExecutions[eid]? = none ∧
      (proj.executionsOf run = [] ↔ event.recoveredFrom? = none) ∧
      ∀ checkpoint ∈ event.recoveredFrom?, ∀ execution ∈ proj.executionsOf run,
        execution.recoveredFromCheckpointId ≠ some checkpoint := by
  have hty : event.eventType = .agentRunExecutionStarted := beq_iff_eq.mp hkind
  cases h with
  | executionStarted _ hrun hid hrec _ _ hnew hlineage hunused =>
    subst hrec
    exact ⟨_, _, hrun, hid, hnew, hlineage, hunused⟩
  | other h | started h | attempted h | executionEnded h | terminal h | toolCall h | toolAnswer h
  | republished h | published h =>
    rw [hty] at h
    cases h

theorem RecordEffect.of_executionEnd (hkind : event.isExecutionEnd = true) :
    ∃ eid execution, event.run? = some execution.agentRunId ∧
      event.executionId? = some eid ∧
      proj.agentRunExecutions[eid]? = some execution ∧
      execution.outcome = none := by
  have hty : event.eventType = .agentRunExecutionEnded := beq_iff_eq.mp hkind
  cases h with
  | executionEnded _ hrun hid hkn hown hopen =>
    subst hown
    exact ⟨_, _, hrun, hid, hkn, hopen⟩
  | other h | started h | attempted h | executionStarted h | terminal h | toolCall h
  | toolAnswer h | republished h | published h =>
    rw [hty] at h
    cases h

theorem RecordEffect.of_attempt (hkind : event.isRecoveryAttempt = true) :
    ∃ run, event.run? = some run ∧
      (proj.agentRuns[run]?).any (·.state == .running) = true ∧
      proj.hasOpenExecution run = false ∧
      event.attemptNumber? =
        some (((proj.recoveryAttempts[run]?).map (·.number)).getD 0 + 1) := by
  have hty : event.eventType = .agentRunRecoveryAttempted := beq_iff_eq.mp hkind
  cases h with
  | attempted _ hrun hatt hrunning hcl hnumber =>
    refine ⟨_, hrun, hrunning, hcl, ?_⟩
    rw [← hnumber]
    simp only [executionRecoveryAttempt, Outcome.ok_rules, payloadObject_eq_ok,
      filter_eq_some_iff] at hatt
    obtain ⟨_, -, _, -, payload, hpay, -, number, ⟨hvl, -⟩, _, -, rfl⟩ := hatt
    rw [attemptNumber?, hpay]
    exact hvl
  | other h | started h | executionStarted h | executionEnded h | terminal h | toolCall h
  | toolAnswer h | republished h | published h =>
    rw [hty] at h
    cases h

theorem RecordEffect.of_terminal (hkind : event.isTerminal = true) :
    ∃ run, event.run? = some run ∧ proj.hasOpenExecution run = false := by
  obtain ⟨outcome, houtcome⟩ := isSome_iff_exists.mp hkind
  cases h with
  | terminal _ hrun _ hcl => exact ⟨_, hrun, hcl⟩
  | started h | attempted h | executionStarted h | executionEnded h | toolCall h
  | republished h | published h =>
    rw [h] at houtcome
    cases houtcome
  | other h =>
    rw [changesLedger, houtcome] at h
    simp at h
  | toolAnswer h =>
    have hnone := runState?_of_answer h
    rw [runState?_of_terminal houtcome] at hnone
    cases hnone

end Inversion

/-- **Lineage.** The active records of every accepted log keep the lineage law. -/
theorem executionLineage_of_reduceEvents {events : List SessionLogRecord}
    {proj : SessionProjection}
    (hevs : reduceEvents contracts sessionId events = .ok proj)
    (htgts : activeTombstoneTargets contracts (trim sessionId) events = .ok targets) :
    ExecutionLineage (events.filter (isActive targets)) := by
  obtain ⟨state, h, -⟩ := reduceActive_of_reduceEvents hevs htgts
  refine ⟨?_, ?_, ?_, ?_, ?_, ?_⟩
  · intro front back hsp run eid eid' hopen hopen'
    rw [hsp] at h
    obtain ⟨before, hfront, -⟩ := foldlM_append_eq_ok_iff.mp h
    have hexec := executions_of_reduceActive hfront
    obtain ⟨execution, hkn, hrun, hnone⟩ := hexec.openIn_iff.mp hopen
    obtain ⟨execution', hkn', hrun', hnone'⟩ := hexec.openIn_iff.mp hopen'
    exact hexec.single _ _ _ _ hkn hkn' (hrun.trans hrun'.symm) hnone hnone'
  · intro front event back hsp hkind earlier hm hearlier hsame
    obtain ⟨before, middle, _, _, -, -, hexec, heff⟩ := effect_at_split h hsp
    obtain ⟨run, eid, -, hid, hnew, -⟩ := heff.of_executionStart hkind
    obtain ⟨id, execution, hid', hkn, -⟩ := hexec.started earlier hm hearlier
    rw [hsame, hid, Option.some.injEq] at hid'
    rw [← hid', hnew] at hkn
    cases hkn
  · intro front event back run hsp hkind hrun
    obtain ⟨before, middle, _, _, -, -, hexec, heff⟩ := effect_at_split h hsp
    obtain ⟨run', eid, hrun', -, -, hlineage, hunused⟩ := heff.of_executionStart hkind
    obtain rfl : run' = run := Option.mem_unique hrun' hrun
    -- the Executions of the run are those that earlier records of it started
    have hearlier : ∀ earlier ∈ front, earlier.isExecutionStart = true →
        earlier.run? = some run' → ∃ execution ∈ middle.executionsOf run',
          execution.recoveredFromCheckpointId = earlier.recoveredFrom? := by
      intro earlier hm hstart hown
      obtain ⟨id, execution, -, hkn, hrunOf, hfrom⟩ := hexec.started earlier hm hstart
      refine ⟨execution, mem_executionsOf.mpr ⟨id, hkn, ?_⟩, hfrom.symm⟩
      exact Option.mem_unique hrunOf hown
    refine ⟨?_, ?_⟩
    · rw [← hlineage]
      constructor
      · intro hnone earlier hm hstart hown
        obtain ⟨execution, hexecution, -⟩ := hearlier earlier hm hstart hown
        rw [hnone] at hexecution
        cases hexecution
      · intro hnone
        rw [eq_nil_iff_forall_not_mem]
        intro execution hexecution
        obtain ⟨id, hkn, hown⟩ := mem_executionsOf.mp hexecution
        obtain ⟨start, hm, hstart, -, hstartRun, -⟩ := hexec.known id execution hkn
        exact hnone start hm hstart (by rw [hstartRun, hown])
    · intro earlier hm hstart hown hsame
      obtain ⟨execution, hexecution, hfrom⟩ := hearlier earlier hm hstart hown
      cases hrec : event.recoveredFrom? with
      | none =>
        rw [hlineage.mpr hrec] at hexecution
        cases hexecution
      | some checkpoint =>
        apply hunused checkpoint hrec execution hexecution
        rw [hfrom, hsame, hrec]
  · intro front event back hsp hkind
    obtain ⟨before, middle, _, _, -, -, hexec, heff⟩ := effect_at_split h hsp
    obtain ⟨eid, execution, hrun, hid, hkn, hopen⟩ := heff.of_executionEnd hkind
    refine ⟨?_, ?_⟩
    · obtain ⟨start, hm, hstart, hstartId, hstartRun, -⟩ :=
        hexec.known eid execution hkn
      exact ⟨start, hm, hstart, hstartId.trans hid.symm, hstartRun.trans hrun.symm⟩
    · intro earlier hm hend
      rw [hid]
      exact (hexec.ended eid execution hkn).mp hopen earlier hm hend
  · intro front event back run hsp hkind hrun
    obtain ⟨before, middle, _, _, hfront, hmid, hexec, heff⟩ :=
      effect_at_split h hsp
    obtain ⟨run', hrun', hrunning, hcl, hnumber⟩ := heff.of_attempt hkind
    obtain rfl : run' = run := Option.mem_unique hrun' hrun
    refine ⟨?_, ?_, hexec.not_openIn hcl⟩
    · rw [hnumber, hexec.attempts run']
    · rw [hmid.runs] at hrunning
      exact runningIn_of_entry hfront hrunning
  · intro front event back run hsp hkind hrun
    obtain ⟨before, middle, _, _, -, -, hexec, heff⟩ := effect_at_split h hsp
    obtain ⟨run', hrun', hcl⟩ := heff.of_terminal hkind
    obtain rfl : run' = run := Option.mem_unique hrun' hrun
    exact hexec.not_openIn hcl

/-- A run whose first Execution is lost and replaced from a checkpoint. -/
def recoveredRunLog : List SessionLogRecord :=
  let digest := "sha256:0000000000000000000000000000000000000000000000000000000000000000"
  let start (sequence : UInt64) (eid : String) (recovered : Json) : SessionLogRecord :=
    (sampleRecord sequence .agentRunExecutionStarted (.object [
      ("executionId", .string eid), ("authorizationDigest", .string digest),
      ("recoveredFromCheckpointId", recovered)])).event
  [(sampleRecord 1 .agentRunStarted (.object [("userObjective", .string "o")])).event,
    start 2 "x1" .null,
    (sampleRecord 3 .agentRunExecutionEnded (.object [("executionId", .string "x1"),
      ("outcome", .string "lost"), ("reasonCode", .string "c"), ("retryable", .bool true),
      ("lastCheckpointId", .null), ("indeterminateToolCallIds", .array [])])).event,
    (sampleRecord 4 .agentRunRecoveryAttempted (.object [("attempt", .number (.posInt 1)),
      ("checkpointId", .string "k1")])).event,
    start 5 "x2" (.string "k1")]

theorem recoveredRunLog_ok :
    (reduceEvents toolContracts "s" recoveredRunLog).toOption.map (fun proj =>
      proj.agentRunExecutions.size) = some 2 ∧
    activeTombstoneTargets toolContracts (trim "s") recoveredRunLog = .ok ∅ := by
  decide +kernel

/-- The log with a replaced Execution is accepted, and keeps the lineage law. -/
theorem executionLineage_recovered :
    (∃ proj, reduceEvents toolContracts "s" recoveredRunLog = .ok proj ∧
      proj.agentRunExecutions.size = 2) ∧
    ExecutionLineage (recoveredRunLog.filter (isActive ∅)) := by
  obtain ⟨proj, hevs, hsize⟩ := Outcome.exists_ok_of_map recoveredRunLog_ok.1
  exact ⟨⟨proj, hevs, hsize⟩,
    executionLineage_of_reduceEvents hevs recoveredRunLog_ok.2⟩

end Centaeris
