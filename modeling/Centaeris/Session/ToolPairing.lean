import Centaeris.Session.RunLifecycle

namespace Centaeris

open Foundation SessionLogRecord List Option

/-!
# Tool calls and their answers

A result or a closure answers the call with its id that is open.  The reducer opens a
call at every `tool_call` record and closes it at every answer, so an open call is read
off the last record about its id.
-/

variable {event : SessionLogRecord} {cid : String}

/-! ### Tool records -/

namespace SessionLogRecord

def isToolCall (event : SessionLogRecord) : Bool := event.eventType == .toolCall

/-- A result of a tool call, or its closure. -/
def isToolAnswer (event : SessionLogRecord) : Bool := event.eventType.isToolAnswer

def callId? (event : SessionLogRecord) : Option String := event.text? "callId"

def toolName? (event : SessionLogRecord) : Option String := event.text? "toolName"

/-- The call that a tool record is about. -/
def toolKey (event : SessionLogRecord) : Option String :=
  if event.isToolCall || event.isToolAnswer then event.callId? else none

/-- What a tool record leaves open: its call, or nothing after an answer. -/
def opens? (event : SessionLogRecord) : Option OpenToolCall :=
  if event.isToolCall then
    event.toolName?.bind fun toolName => event.turn?.bind fun turnId =>
      event.run?.map fun agentRunId => ⟨toolName, turnId, agentRunId⟩
  else none

variable {event : SessionLogRecord}

theorem toolKey_eq_some :
    event.toolKey = some cid ↔
      (event.isToolCall = true ∨ event.isToolAnswer = true) ∧ event.callId? = some cid := by
  unfold toolKey
  split
  · rename_i h
    rw [Bool.or_eq_true] at h
    exact ⟨fun hid => ⟨h, hid⟩, fun hid => hid.2⟩
  · rename_i h
    rw [Bool.or_eq_true] at h
    exact ⟨nofun, fun hid => absurd hid.1 h⟩

/-- No record is both. -/
theorem not_isToolCall_of_isToolAnswer (h : event.isToolAnswer = true) :
    event.isToolCall = false := by
  revert h
  unfold isToolAnswer isToolCall
  cases event.eventType <;> decide

end SessionLogRecord

section Step

variable {proj proj' : SessionProjection} {opens opens' : Table String OpenToolCall}
  {event : SessionLogRecord}

variable (h : RecordEffect proj opens event proj' opens')

include h

theorem RecordEffect.of_toolCall (hkind : event.isToolCall = true) :
    ∃ cid expected, event.callId? = some cid ∧ event.opens? = some expected ∧
      opens' = opens.insert cid expected := by
  have hty : event.eventType = .toolCall := beq_iff_eq.mp hkind
  cases h with
  | @toolCall cid toolName turn run _ _ hid hname hturn hrun =>
    refine ⟨cid, ⟨toolName, turn, run⟩, hid, ?_, rfl⟩
    rw [opens?, if_pos hkind, toolName?, hname, hturn, hrun]
    rfl
  | other h | started h | attempted h | executionStarted h | executionEnded h | terminal h
  | toolAnswer h | republished h | published h =>
    rw [hty] at h
    cases h

theorem RecordEffect.of_toolAnswer (hkind : event.isToolAnswer = true) :
    ∃ cid expected, event.callId? = some cid ∧ opens[cid]? = some expected ∧
      event.toolName? = some expected.toolName ∧ opens' = opens.erase cid := by
  cases h with
  | toolAnswer _ hid hname hopen => exact ⟨_, _, hid, hopen, hname, rfl⟩
  | other h =>
    rw [SessionRecordType.changesLedger, show event.eventType.isToolAnswer = true from hkind] at h
    simp at h
  | started h | attempted h | executionStarted h | executionEnded h | toolCall h
  | republished h | published h =>
    rw [isToolAnswer, h] at hkind
    cases hkind
  | terminal h =>
    have hnone := SessionRecordType.runState?_of_answer hkind
    rw [SessionRecordType.runState?_of_terminal h] at hnone
    cases hnone

theorem RecordEffect.opens_eq
    (hcall : event.isToolCall = false) (hans : event.isToolAnswer = false) :
    opens' = opens := by
  cases h with
  | toolCall hty =>
    rw [isToolCall, hty] at hcall
    cases hcall
  | toolAnswer hty =>
    rw [isToolAnswer, hty] at hans
    cases hans
  | other | started | attempted | executionStarted | executionEnded | terminal | republished
  | published => rfl

end Step

variable {contracts : PayloadContracts} {sessionId : String} {targets : Finset String}
  {active : List SessionLogRecord} {state : SessionReduction}

/-- **Step.** A tool record decides whether its call is open; other records do not. -/
theorem openToolCall_step {state state' : SessionReduction}
    (h : reduceEvent contracts sessionId state event = .ok state') (cid : String) :
    state'.openToolCallIds[cid]? =
      if event.toolKey = some cid then event.opens? else state.openToolCallIds[cid]? := by
  obtain ⟨middle, -, heff⟩ := recordEffect_of_reduceEvent h
  cases hcall : event.isToolCall with
  | true =>
    obtain ⟨id, expected, hid, hopens, hopens'⟩ := heff.of_toolCall hcall
    have hkey : event.toolKey = some id := toolKey_eq_some.mpr ⟨.inl hcall, hid⟩
    rw [hopens', Table.getElem?_insert, hkey, hopens]
    simp only [Option.some.injEq]
  | false =>
    cases hans : event.isToolAnswer with
    | true =>
      obtain ⟨id, expected, hid, -, -, hopens'⟩ := heff.of_toolAnswer hans
      have hkey : event.toolKey = some id :=
        toolKey_eq_some.mpr ⟨.inr hans, hid⟩
      rw [hopens', Table.getElem?_erase, hkey, opens?, hcall]
      simp only [Option.some.injEq, Bool.false_eq_true, if_false]
    | false =>
      rw [heff.opens_eq hcall hans, if_neg ?_]
      rw [toolKey_eq_some, hcall, hans]
      simp

/-- The open calls are read off the last tool records. -/
theorem openToolCall_of_reduceActive
    (h : reduceActive contracts sessionId targets active = .ok state) (cid : String) :
    state.openToolCallIds[cid]? =
      (wordOf toolKey cid active).getLast?.bind opens? := by
  have hlast := foldlM_lastLetter (fun _ _ _ hstep => openToolCall_step hstep) h cid
  rw [hlast]
  cases (wordOf toolKey cid active).getLast? with
  | none => exact Table.getElem?_empty cid
  | some last => rfl

/-! ### The law of calls and answers -/

structure Answers (answer call : SessionLogRecord) : Prop where
  isCall : call.isToolCall = true
  callId : call.callId? = answer.callId?
  toolName : call.toolName? = answer.toolName?
  turn : call.turn? = answer.turn?
  run : call.run? = answer.run?

/-- **Tool call pairing.** Between two calls with one id there is an answer; an answer
    follows a call with its id, tool, turn and run, with no record about that id between
    them; and between two answers to one id there is a further call. -/
structure ToolPairing (active : List SessionLogRecord) : Prop where
  answered : ∀ (front : List SessionLogRecord) (first : SessionLogRecord)
    (middle : List SessionLogRecord) (second : SessionLogRecord) (back : List SessionLogRecord),
    active = front ++ first :: (middle ++ second :: back) →
    first.isToolCall = true → second.isToolCall = true → first.callId? = second.callId? →
    ∃ answer ∈ middle, answer.isToolAnswer = true ∧ answer.callId? = second.callId?
  preceded : ∀ (front : List SessionLogRecord) (answer : SessionLogRecord)
    (back : List SessionLogRecord), active = front ++ answer :: back →
    answer.isToolAnswer = true →
    ∃ pre call between, front = pre ++ call :: between ∧ Answers answer call ∧
      ∀ event ∈ between, event.toolKey ≠ answer.callId?
  single : ∀ (front : List SessionLogRecord) (first : SessionLogRecord)
    (middle : List SessionLogRecord) (second : SessionLogRecord) (back : List SessionLogRecord),
    active = front ++ first :: (middle ++ second :: back) →
    first.isToolAnswer = true → second.isToolAnswer = true → first.callId? = second.callId? →
    ∃ call ∈ middle, call.isToolCall = true ∧ call.callId? = second.callId?

/-- A call finds its id closed, an answer finds its own turn and run. -/
structure Paired (opens : Table String OpenToolCall) (event : SessionLogRecord) : Prop where
  call : event.isToolCall = true → ∀ cid ∈ event.callId?, opens[cid]? = none
  answer : event.isToolAnswer = true → ∀ cid ∈ event.callId?, ∀ expected ∈ opens[cid]?,
    event.turn? = some expected.turnId ∧ event.run? = some expected.agentRunId

/-- The same, read off the records about the id before it. -/
structure PairedAfter (word : List SessionLogRecord) (event : SessionLogRecord) : Prop where
  call : event.isToolCall = true → ∀ last ∈ word.getLast?, last.isToolCall = false
  answer : event.isToolAnswer = true → ∃ last, word.getLast? = some last ∧ Answers event last

namespace SessionLogRecord

variable {event : SessionLogRecord}

theorem toolKey_of_isToolCall (h : event.isToolCall = true) : event.toolKey = event.callId? := by
  rw [toolKey, h, Bool.true_or, if_pos rfl]

theorem toolKey_of_isToolAnswer (h : event.isToolAnswer = true) :
    event.toolKey = event.callId? := by
  rw [toolKey, h, Bool.or_true, if_pos rfl]

theorem opens?_eq_some {expected : OpenToolCall} : event.opens? = some expected ↔
    event.isToolCall = true ∧ event.toolName? = some expected.toolName ∧
      event.turn? = some expected.turnId ∧ event.run? = some expected.agentRunId := by
  obtain ⟨toolName, turnId, agentRunId⟩ := expected
  unfold opens?
  split
  · rename_i h
    simp only [bind_eq_some_iff, map_eq_some_iff, OpenToolCall.mk.injEq, h, true_and]
    constructor
    · rintro ⟨_, hname, _, hturn, _, hrun, rfl, rfl, rfl⟩
      exact ⟨hname, hturn, hrun⟩
    · rintro ⟨hname, hturn, hrun⟩
      exact ⟨_, hname, _, hturn, _, hrun, rfl, rfl, rfl⟩
  · rename_i h
    exact ⟨nofun, fun hopens => absurd hopens.1 h⟩

end SessionLogRecord

theorem toolRecord_of_accepted (h : reduceActive contracts sessionId targets active = .ok state)
    (hm : event ∈ active) :
    (event.isToolCall = true → ∃ cid expected,
      event.callId? = some cid ∧ event.opens? = some expected) ∧
    (event.isToolAnswer = true → ∃ cid, event.callId? = some cid) := by
  obtain ⟨front, back, rfl⟩ := append_of_mem hm
  obtain ⟨pre, after, -, hev⟩ := reduceActive_split h
  obtain ⟨middle, -, heff⟩ := recordEffect_of_reduceEvent hev
  refine ⟨?_, ?_⟩
  · intro hcall
    obtain ⟨cid, expected, hid, hopens, -⟩ := heff.of_toolCall hcall
    exact ⟨cid, expected, hid, hopens⟩
  · intro hans
    obtain ⟨cid, -, hid, -⟩ := heff.of_toolAnswer hans
    exact ⟨cid, hid⟩

variable {front : List SessionLogRecord}

/-- **Guard.** In the reduction before it, a record is paired exactly when it is paired
    after the records about its call. -/
theorem paired_iff {pre after : SessionReduction}
    (hfront : reduceActive contracts sessionId targets front = .ok pre)
    (hev : reduceEvent contracts sessionId pre event = .ok after)
    (hkey : event.toolKey = some cid) :
    Paired pre.openToolCallIds event ↔
      PairedAfter (wordOf toolKey cid front) event := by
  have hopen := openToolCall_of_reduceActive hfront cid
  obtain ⟨middle, -, heff⟩ := recordEffect_of_reduceEvent hev
  have hid := (toolKey_eq_some.mp hkey).2
  constructor
  · intro hpair
    refine ⟨?_, ?_⟩
    · intro hcall last hlast
      rw [hpair.call hcall cid hid, mem_def.mp hlast] at hopen
      rw [← Bool.not_eq_true]
      intro hlastCall
      -- an accepted call would still be open
      have hm := (mem_wordOf.mp (mem_of_getLast? hlast)).1
      obtain ⟨_, expected, -, hexp⟩ := (toolRecord_of_accepted hfront hm).1 hlastCall
      rw [bind_some, hexp] at hopen
      cases hopen
    · intro hans
      obtain ⟨id, expected, hid', hexp, hname, -⟩ := heff.of_toolAnswer hans
      obtain rfl : id = cid := Option.mem_unique hid' hid
      rw [hexp] at hopen
      obtain ⟨last, hlast, hlastOpens⟩ := bind_eq_some_iff.mp hopen.symm
      obtain ⟨hcall, hlastName, hlastTurn, hlastRun⟩ :=
        opens?_eq_some.mp hlastOpens
      obtain ⟨hturn, hrun⟩ := hpair.answer hans id hid expected hexp
      have hletter := (mem_wordOf.mp (mem_of_getLast? hlast)).2
      rw [toolKey_of_isToolCall hcall] at hletter
      exact ⟨last, hlast, hcall, hletter.trans hid.symm, hlastName.trans hname.symm,
        hlastTurn.trans hturn.symm, hlastRun.trans hrun.symm⟩
  · intro hpair
    refine ⟨?_, ?_⟩
    · intro hcall id hid'
      obtain rfl : id = cid := Option.mem_unique hid' hid
      rw [hopen, bind_eq_none_iff]
      intro last hlast
      rw [opens?, hpair.call hcall last hlast]
      rfl
    · intro hans id hid' expected hexp
      obtain rfl : id = cid := Option.mem_unique hid' hid
      obtain ⟨last, hlast, hanswers⟩ := hpair.answer hans
      rw [mem_def.mp hexp, hlast] at hopen
      obtain ⟨-, -, hturn, hrun⟩ := opens?_eq_some.mp hopen.symm
      exact ⟨hanswers.turn.symm.trans hturn, hanswers.run.symm.trans hrun⟩

section Law

/-- The last record about an id is the first one, or one in the middle. -/
theorem exists_last_after {middle : List SessionLogRecord} {first : SessionLogRecord}
    (hfst : first.toolKey = some cid) :
    ∃ last, (wordOf toolKey cid (front ++ first :: middle)).getLast? = some last ∧
      (last = first ∨ last ∈ middle ∧ last.toolKey = some cid) := by
  rw [wordOf_split hfst, getLast?_append, getLast?_cons]
  refine ⟨_, rfl, ?_⟩
  cases hlast : (wordOf toolKey cid middle).getLast? with
  | none => exact .inl rfl
  | some last => exact .inr (mem_wordOf.mp (mem_of_getLast? hlast))

/-- **Law from guards.** -/
theorem toolPairing_of_pairedAfter
    (hnamed : ∀ event ∈ active, (event.isToolCall = true ∨ event.isToolAnswer = true) →
      ∃ cid, event.toolKey = some cid)
    (h : ∀ (front : List SessionLogRecord) (event : SessionLogRecord)
      (back : List SessionLogRecord) (cid : String), active = front ++ event :: back →
      event.toolKey = some cid →
      PairedAfter (wordOf toolKey cid front) event) :
    ToolPairing active := by
  refine ⟨?_, ?_, ?_⟩
  · rintro front first middle second back rfl hfst hsec hsame
    obtain ⟨cid, hkey⟩ := hnamed second (by simp) (.inl hsec)
    rw [toolKey_of_isToolCall hsec] at hkey
    have hfirstKey : first.toolKey = some cid := by
      rw [toolKey_of_isToolCall hfst, hsame, hkey]
    have hpair := (h (front ++ first :: middle) second back cid (by simp)
      (by rw [toolKey_of_isToolCall hsec, hkey])).call hsec
    obtain ⟨last, hlast, rfl | ⟨hm, hlastKey⟩⟩ := exists_last_after hfirstKey
    · -- the last record about the id is no call
      rw [hpair last hlast] at hfst
      cases hfst
    · have hnot := hpair last hlast
      obtain ⟨hkind, hid⟩ := toolKey_eq_some.mp hlastKey
      rw [hnot] at hkind
      exact ⟨last, hm, hkind.resolve_left Bool.false_ne_true, hid.trans hkey.symm⟩
  · rintro front answer back rfl hans
    obtain ⟨cid, hkey⟩ := hnamed answer (by simp) (.inr hans)
    obtain ⟨call, hlast, hanswers⟩ := (h front answer back cid rfl hkey).answer hans
    obtain ⟨pre, between, hsp, -, hnone⟩ := getLast?_wordOf_eq_some.mp hlast
    rw [toolKey_of_isToolAnswer hans] at hkey
    refine ⟨pre, call, between, hsp, hanswers, ?_⟩
    rw [hkey]
    exact hnone
  · rintro front first middle second back rfl hfst hsec hsame
    obtain ⟨cid, hkey⟩ := hnamed second (by simp) (.inr hsec)
    rw [toolKey_of_isToolAnswer hsec] at hkey
    have hfirstKey : first.toolKey = some cid := by
      rw [toolKey_of_isToolAnswer hfst, hsame, hkey]
    obtain ⟨call, hcall, hanswers⟩ := (h (front ++ first :: middle) second back cid (by simp)
      (by rw [toolKey_of_isToolAnswer hsec, hkey])).answer hsec
    obtain ⟨last, hlast, hplc⟩ := exists_last_after hfirstKey
    obtain rfl : last = call := Option.mem_unique hlast hcall
    rcases hplc with rfl | ⟨hm, -⟩
    · -- the last record about the id is a call
      have hnot := not_isToolCall_of_isToolAnswer hfst
      rw [hanswers.isCall] at hnot
      cases hnot
    · exact ⟨last, hm, hanswers.isCall, hanswers.callId⟩

/-- **Guards from law.** -/
theorem ToolPairing.pairedAfter (hlaw : ToolPairing active) {back : List SessionLogRecord}
    (hsp : active = front ++ event :: back) (hkey : event.toolKey = some cid) :
    PairedAfter (wordOf toolKey cid front) event := by
  have hid := (toolKey_eq_some.mp hkey).2
  refine ⟨?_, ?_⟩
  · intro hcall last hlast
    rw [← Bool.not_eq_true]
    intro hlastCall
    obtain ⟨pre, between, rfl, hlastKey, hnone⟩ := getLast?_wordOf_eq_some.mp hlast
    rw [toolKey_of_isToolCall hlastCall] at hlastKey
    -- an answer between the two calls would be a later letter
    obtain ⟨answer, hm, hans, hanswerId⟩ := hlaw.answered pre last between event back
      (by rw [hsp, append_assoc, cons_append]) hlastCall hcall
      (hlastKey.trans hid.symm)
    apply hnone answer hm
    rw [toolKey_of_isToolAnswer hans, hanswerId, hid]
  · intro hans
    obtain ⟨pre, call, between, rfl, hanswers, hnone⟩ :=
      hlaw.preceded front event back hsp hans
    rw [hid] at hnone
    refine ⟨call, getLast?_wordOf_eq_some.mpr ⟨pre, between, rfl, ?_, hnone⟩, hanswers⟩
    rw [toolKey_of_isToolCall hanswers.isCall, hanswers.callId, hid]

end Law

theorem paired_of_toolKey_none {opens : Table String OpenToolCall}
    (h : event.toolKey = none) : Paired opens event := by
  refine ⟨?_, ?_⟩
  · intro hcall cid hid
    rw [toolKey_of_isToolCall hcall, mem_def.mp hid] at h
    cases h
  · intro hans cid hid
    rw [toolKey_of_isToolAnswer hans, mem_def.mp hid] at h
    cases h

/-- **Tool call pairing.** An accepted log keeps the law of calls and answers exactly when
    every active record is paired in the reduction of the active records before it. -/
theorem toolPairing_iff_paired {events : List SessionLogRecord} {proj : SessionProjection}
    (hevs : reduceEvents contracts sessionId events = .ok proj)
    (htgts : activeTombstoneTargets contracts (trim sessionId) events = .ok targets) :
    ToolPairing (events.filter (isActive targets)) ↔
      ∀ (front : List SessionLogRecord) (event : SessionLogRecord)
        (back : List SessionLogRecord) (pre : SessionReduction),
        events.filter (isActive targets) = front ++ event :: back →
        reduceActive contracts (trim sessionId) targets front = .ok pre →
        Paired pre.openToolCallIds event := by
  obtain ⟨state, hact, -⟩ := reduceActive_of_reduceEvents hevs htgts
  generalize events.filter (isActive targets) = active at hact ⊢
  constructor
  · intro hlaw front event back pre hsp hfront
    cases hkey : event.toolKey with
    | none => exact paired_of_toolKey_none hkey
    | some cid =>
      subst hsp
      obtain ⟨pre', after, hfront', hev⟩ := reduceActive_split hact
      obtain rfl : pre' = pre := Except.ok.inj (hfront'.symm.trans hfront)
      exact (paired_iff hfront hev hkey).mpr (hlaw.pairedAfter rfl hkey)
  · intro hpair
    apply toolPairing_of_pairedAfter
    · intro event hm hkind
      obtain ⟨hcalls, hanswers⟩ := toolRecord_of_accepted hact hm
      cases hkind with
      | inl hcall =>
        obtain ⟨cid, -, hid, -⟩ := hcalls hcall
        exact ⟨cid, SessionLogRecord.toolKey_eq_some.mpr ⟨.inl hcall, hid⟩⟩
      | inr hans =>
        obtain ⟨cid, hid⟩ := hanswers hans
        exact ⟨cid, SessionLogRecord.toolKey_eq_some.mpr ⟨.inr hans, hid⟩⟩
    · rintro front event back cid rfl hkey
      obtain ⟨pre, after, hfront, hev⟩ := reduceActive_split hact
      exact (paired_iff hfront hev hkey).mp (hpair front event back pre rfl hfront)

def answeredCallLog : List SessionLogRecord :=
  [(toolCallRecord 1 "c").event, (toolResultRecord 2 "c").event]

/-- A call that is made again while it is open, and then answered from another turn and
    run. -/
def repeatedCallLog : List SessionLogRecord :=
  [(toolCallRecord 1 "c").event, (toolCallRecord 2 "c").event,
    { (toolResultRecord 3 "c").event with turnId := some "t2", agentRunId := some "r2" }]

theorem answeredCallLog_ok :
    (reduceEvents toolContracts "s" answeredCallLog).toOption.map (fun proj =>
      proj.toolCalls.size) = some 1 ∧
    activeTombstoneTargets toolContracts (trim "s") answeredCallLog = .ok ∅ := by
  decide +kernel

/-- The records of the answered call are paired, so the log keeps the law. -/
theorem toolPairing_iff_paired_answered :
    (∃ proj, reduceEvents toolContracts "s" answeredCallLog = .ok proj ∧
      proj.toolCalls.size = 1) ∧
    ToolPairing (answeredCallLog.filter (isActive ∅)) := by
  obtain ⟨proj, hevs, hsize⟩ := Outcome.exists_ok_of_map answeredCallLog_ok.1
  refine ⟨⟨proj, hevs, hsize⟩, (toolPairing_iff_paired hevs answeredCallLog_ok.2).mpr ?_⟩
  have hactive : answeredCallLog.filter (isActive ∅) =
      [(toolCallRecord 1 "c").event, (toolResultRecord 2 "c").event] := by decide +kernel
  intro front event back pre hsp hfront
  rw [hactive] at hsp
  rcases front with _ | ⟨first, _ | ⟨second, _ | ⟨third, front⟩⟩⟩
  · cases hsp
    cases hfront
    exact ⟨fun _ _ _ => rfl, nofun⟩
  · cases hsp
    have hopen : (reduceActive toolContracts (trim "s") ∅
        [(toolCallRecord 1 "c").event]).toOption.map (·.openToolCallIds["c"]?) =
          some (some ⟨"ls", "t", "r"⟩) := by decide +kernel
    obtain ⟨state, hsta, hcall⟩ := Outcome.exists_ok_of_map hopen
    cases hsta.symm.trans hfront
    refine ⟨nofun, fun _ cid hid expected hexp => ?_⟩
    cases hid
    cases hcall.symm.trans hexp
    exact ⟨rfl, rfl⟩
  · cases hsp
  · cases hsp

/-- The reducer accepts two open calls with one id, and an answer whose turn and run are
    those of neither. -/
theorem repeated_call_accepted :
    (∃ proj, reduceEvents toolContracts "s" repeatedCallLog = .ok proj ∧
      proj.toolCalls.size = 1) ∧
    activeTombstoneTargets toolContracts (trim "s") repeatedCallLog = .ok ∅ ∧
    ¬ ToolPairing (repeatedCallLog.filter (isActive ∅)) := by
  have hok : (reduceEvents toolContracts "s" repeatedCallLog).toOption.map (fun proj =>
      proj.toolCalls.size) = some 1 := by decide +kernel
  refine ⟨Outcome.exists_ok_of_map hok, by decide +kernel, ?_⟩
  intro hlaw
  have hact : repeatedCallLog.filter (isActive ∅) = repeatedCallLog := by decide +kernel
  rw [hact] at hlaw
  obtain ⟨_, hm, -⟩ := hlaw.answered [] (toolCallRecord 1 "c").event []
    (toolCallRecord 2 "c").event _ rfl rfl rfl (by decide +kernel)
  cases hm

end Centaeris
