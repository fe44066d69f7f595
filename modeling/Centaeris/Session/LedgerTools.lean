import Centaeris.Session.LedgerEffects
import Centaeris.Session.ToolPairing

namespace Centaeris

open Foundation AgentRunSessionState SessionLogRecord Outcome Option SessionProjection Table

/-!
# Open tool calls in the ledgers and in the reducer

The ledger of a run and the session reducer both follow the tool calls, by different
code.  The ledger takes the ids as they are written and knows nothing of closures; the
reducer trims them, and has one entry for each call id of the whole session.
-/

/-! ### Trimmed texts -/

variable {text trimmed : String}

theorem trimmedText?_eq_some :
    trimmedText? text = some trimmed ↔ isBlank text = false ∧ trim text = trimmed := by
  unfold trimmedText?
  split
  · rename_i hblk
    simp [hblk]
  · rename_i hblk
    simp [hblk]

theorem trimmedText?_trimmed (h : trimmedText? text = some trimmed) :
    trimmedText? trimmed = some trimmed ∧ isBlank trimmed = false := by
  obtain ⟨hblk, rfl⟩ := trimmedText?_eq_some.mp h
  have hnot : isBlank (trim text) = false := by rw [isBlank_trim, hblk]
  exact ⟨trimmedText?_eq_some.mpr ⟨hnot, trim_trim text⟩, hnot⟩

theorem exists_statePayloadText {event : SessionLogRecord} {key : String}
    (h : event.text? key = some trimmed) :
    ∃ text, statePayloadText? event.payload key = some text ∧ trimmedText? text = some trimmed := by
  obtain ⟨text, htext, htrimmed⟩ := bind_eq_some_iff.mp h
  refine ⟨text, ?_, htrimmed⟩
  rw [statePayloadText?, htext, filter_some, if_pos]
  rw [decide_eq_true_eq]
  rintro rfl
  cases htrimmed

/-! ### Reduced tool calls -/

/-- The reduced calls of a run that have no result. -/
def SessionProjection.openCallsOf (proj : SessionProjection) (run : String) :
    Finset String :=
  ((proj.toolCalls.toList.filter fun entry =>
    entry.2.agentRunId == run && entry.2.resultState.isNone).map Prod.fst).toFinset

variable {run cid : String}

theorem mem_openCallsOf {proj : SessionProjection} :
    cid ∈ proj.openCallsOf run ↔ ∃ call, proj.toolCalls[cid]? = some call ∧
      call.agentRunId = run ∧ call.resultState = none := by
  simp only [openCallsOf, List.mem_toFinset, List.mem_map, List.mem_filter, Prod.exists,
    Table.mem_toList, bool_rules, isNone_iff_eq_none]
  constructor
  · rintro ⟨_, call, ⟨hcall, hrun, hopen⟩, rfl⟩
    exact ⟨call, hcall, hrun, hopen⟩
  · rintro ⟨call, hcall, hrun, hopen⟩
    exact ⟨cid, call, ⟨hcall, hrun, hopen⟩, rfl⟩

/-- An open call is a reduced call without a result; the ids of calls and runs are
    trimmed. -/
structure ToolState (toolCalls : Table String ReducedToolCall) (opens : Table String OpenToolCall) :
    Prop where
  known : ∀ (cid : String) (call : ReducedToolCall), toolCalls[cid]? = some call →
    trimmedText? cid = some cid ∧ trimmedText? call.agentRunId = some call.agentRunId
  opened : ∀ (cid : String) (expected : OpenToolCall), opens[cid]? = some expected →
    ∃ call, toolCalls[cid]? = some call ∧ call.agentRunId = expected.agentRunId ∧
      call.resultState = none

inductive ToolStep (toolCalls : Table String ReducedToolCall) (opens : Table String OpenToolCall)
    (event : SessionLogRecord) : Table String ReducedToolCall → Table String OpenToolCall → Prop
  | other (hcall : event.isToolCall = false) (hans : event.isToolAnswer = false) :
      ToolStep toolCalls opens event toolCalls opens
  | call {cid run : String} {call : ReducedToolCall} {expected : OpenToolCall}
      (hkind : event.isToolCall = true) (hid : event.callId? = some cid)
      (hrun : event.run? = some run) (hcall : call.agentRunId = run)
      (hopen : call.resultState = none) (hexp : expected.agentRunId = run) :
      ToolStep toolCalls opens event (toolCalls.insert cid call) (opens.insert cid expected)
  | answer {cid : String} {call : ReducedToolCall} {expected : OpenToolCall}
      {resultState : ToolResultState} (hkind : event.isToolAnswer = true)
      (hid : event.callId? = some cid) (hopened : opens[cid]? = some expected)
      (hcall : call.agentRunId = expected.agentRunId)
      (hres : call.resultState = some resultState) :
      ToolStep toolCalls opens event (toolCalls.insert cid call) (opens.erase cid)

variable {ct : PayloadContracts} {sid : String} {pre after : SessionReduction}
  {event : SessionLogRecord}

theorem toolStep_of_reduceEvent (h : reduceEvent ct sid pre event = .ok after) :
    ToolStep pre.projection.toolCalls pre.openToolCallIds event
      after.projection.toolCalls after.openToolCallIds := by
  obtain ⟨middle, hmid, heff⟩ := recordEffect_of_reduceEvent h
  obtain ⟨proj', seen', opens'⟩ := after
  rw [← hmid.toolCalls]
  cases heff with
  | toolCall hty hid hname hturn hrun =>
    exact .call (beq_iff_eq.mpr hty) hid hrun rfl rfl rfl
  | toolAnswer hty hid hname hopen hkn => exact .answer hty hid hopen rfl rfl
  | other hty hsame =>
    rw [show proj'.toolCalls = middle.toolCalls from hsame.toolCalls]
    refine .other ?_ ?_
    · unfold isToolCall
      revert hty
      cases event.eventType <;> decide
    · unfold isToolAnswer
      revert hty
      cases event.eventType <;> decide
  | terminal hty =>
    refine .other ?_ ?_
    · unfold isToolCall
      revert hty
      cases event.eventType <;> simp [SessionRecordType.terminalState?]
    · unfold isToolAnswer
      revert hty
      cases event.eventType <;>
        simp [SessionRecordType.terminalState?, SessionRecordType.isToolAnswer]
  | started hty | attempted hty | executionStarted hty | executionEnded hty
  | republished hty | published hty =>
    refine .other ?_ ?_
    · rw [isToolCall, hty]
      rfl
    · rw [isToolAnswer, hty]
      rfl

theorem toolState_step {toolCalls toolCalls' : Table String ReducedToolCall}
    {opens opens' : Table String OpenToolCall} (h : ToolState toolCalls opens)
    (hstep : ToolStep toolCalls opens event toolCalls' opens') : ToolState toolCalls' opens' := by
  cases hstep with
  | other => exact h
  | @call cid run call expected hkind hid hrun hcall hopen hexp =>
    refine ⟨?_, ?_⟩
    · intro id found hfd
      obtain ⟨rfl, rfl⟩ | ⟨-, hold⟩ := found_of_insert hfd
      · obtain ⟨text, -, htext⟩ := exists_statePayloadText hid
        obtain ⟨raw, -, hraw⟩ := bind_eq_some_iff.mp hrun
        rw [hcall]
        exact ⟨(trimmedText?_trimmed htext).1, (trimmedText?_trimmed hraw).1⟩
      · exact h.known id found hold
    · intro id found hfd
      rw [getElem?_insert]
      obtain ⟨rfl, rfl⟩ | ⟨hoth, hold⟩ := found_of_insert hfd
      · rw [if_pos rfl]
        exact ⟨call, rfl, hcall.trans hexp.symm, hopen⟩
      · rw [if_neg hoth]
        exact h.opened id found hold
  | @answer cid call expected resultState hkind hid hopened hcall hres =>
    refine ⟨?_, ?_⟩
    · intro id found hfd
      obtain ⟨rfl, rfl⟩ | ⟨-, hold⟩ := found_of_insert hfd
      · obtain ⟨earlier, hearlier, hrun, -⟩ := h.opened cid expected hopened
        have hkn := h.known cid earlier hearlier
        rw [hrun, ← hcall] at hkn
        exact hkn
      · exact h.known id found hold
    · intro id found hfd
      obtain ⟨hoth, hold⟩ := found_of_erase hfd
      rw [getElem?_insert, if_neg hoth]
      exact h.opened id found hold

variable {targets : Finset String} {front : List SessionLogRecord}

theorem toolState_of_reduceActive
    (h : reduceActive ct sid targets front = .ok pre) :
    ToolState pre.projection.toolCalls pre.openToolCallIds := by
  refine foldlM_invariant (fun state : SessionReduction =>
    ToolState state.projection.toolCalls state.openToolCallIds) ?_ ?_ h
  · intro state state' event _ hsta hev
    exact toolState_step hsta (toolStep_of_reduceEvent hev)
  · refine ⟨?_, ?_⟩
    · intro cid call hcall
      rw [show ((⟨{ empty with tombstonedEventIds := targets }, ∅, ∅⟩ :
        SessionReduction).projection.toolCalls) = ∅ from rfl, getElem?_empty] at hcall
      cases hcall
    · intro cid expected hexp
      rw [getElem?_empty] at hexp
      cases hexp

/-! ### The ledgers -/

variable {ledger : AgentRunSessionState}

theorem results_subset_calls (h : restoreRun ct sid run front = .ok ledger) :
    ledger.committedToolResultIds ⊆ ledger.committedToolCallIds := by
  induction front using List.reverseRecOn generalizing ledger with
  | nil =>
    simp only [restoreRun, new, ok_rules] at h
    obtain ⟨_, ⟨-, -, rfl⟩, hlast⟩ := h
    obtain rfl := pure_eq_ok.mp hlast
    exact Finset.empty_subset _
  | append_singleton front event ih =>
    obtain ⟨previous, hprev, hlast⟩ := restoreRun_concat h
    have hsubset := ih hprev
    split at hlast
    · by_cases hcall : event.eventType = .toolCall
      · obtain ⟨cid, -, -, hcalls, hresults, -⟩ := restoreNext_toolCall hlast hcall
        rw [hcalls, hresults]
        exact hsubset.trans (Finset.subset_insert _ _)
      by_cases hres : event.eventType = .toolResult
      · obtain ⟨cid, -, hcalled, -, hcalls, hresults, -⟩ := restoreNext_toolResult hlast hres
        rw [hcalls, hresults]
        exact Finset.insert_subset hcalled hsubset
      · have hsame := restoreNext_tools hlast hcall hres
        rw [hsame.1, hsame.2]
        exact hsubset
    · rw [hlast]
      exact hsubset

theorem run_of_toolResult (h : validateEventShape ct event = .ok ())
    (hty : event.eventType = .toolResult) : ∃ run, event.run? = some run := by
  simp only [validateEventShape, ok_rules] at h
  obtain ⟨-, -, -, -, -, -, -, hpay⟩ := h
  simp only [validateEventPayload, hty, validateToolResult, bind_eq_ok,
    requiredEventAgentRunId_eq_ok] at hpay
  obtain ⟨-, -, run, hrun, -⟩ := hpay
  exact ⟨run, hrun⟩

/-- Every ledger has the open calls that the reducer has for its run. -/
def LedgersAgree (ct : PayloadContracts) (sid : String)
    (events : List SessionLogRecord) (proj : SessionProjection) : Prop :=
  ∀ run ledger, restoreRun ct sid run events = .ok ledger →
    ledger.openToolCallIds = (proj.openCallsOf run).sort (· ≤ ·)

/-- A closure is refused, and a call has clean ids and takes no id that is open in another run. -/
structure LedgerFollows (proj : SessionProjection) (event : SessionLogRecord) : Prop where
  closure : event.eventType ≠ .toolCallClosure
  run : event.isToolCall = true → event.agentRunId = event.run?
  callId : event.isToolCall = true → statePayloadText? event.payload "callId" = event.callId?
  free : event.isToolCall = true → ∀ cid ∈ event.callId?,
    ∀ call ∈ proj.toolCalls[cid]?, call.resultState = none →
      event.run? = some call.agentRunId

theorem openToolCallIds_eq_iff {callIds : Finset String} :
    ledger.openToolCallIds = callIds.sort (· ≤ ·) ↔ ∀ cid,
      (cid ∈ ledger.committedToolCallIds ∧ cid ∉ ledger.committedToolResultIds) ↔
        cid ∈ callIds := by
  unfold openToolCallIds
  constructor
  · intro h cid
    rw [← Finset.mem_sdiff, ← Finset.mem_sort (· ≤ ·), h, Finset.mem_sort]
  · intro h
    congr 1
    ext cid
    rw [Finset.mem_sdiff, h]

section Step

variable {proj : SessionProjection} {toolCalls : Table String ReducedToolCall}

theorem mem_openCallsOf_insert {call : ReducedToolCall} {id : String}
    (h : proj.toolCalls = toolCalls.insert cid call) :
    id ∈ proj.openCallsOf run ↔
      if cid = id then call.agentRunId = run ∧ call.resultState = none
      else ∃ earlier, toolCalls[id]? = some earlier ∧ earlier.agentRunId = run ∧
        earlier.resultState = none := by
  rw [mem_openCallsOf, h, getElem?_insert]
  split
  · simp
  · rfl

variable (hfront : reduceActive ct sid targets front = .ok pre)
  (hev : reduceEvent ct sid pre event = .ok after)
  (hrst : ∀ run, isBlank run = false →
    ∃ ledger, restoreRun ct sid run (front ++ [event]) = .ok ledger)
  (hagree : LedgersAgree ct sid front pre.projection)
include hfront hev hagree

omit hfront in
/-- **Calls.** The ledgers agree after a call that they can follow. -/
theorem agree_of_call (hkind : event.isToolCall = true) :
    LedgerFollows pre.projection event →
      LedgersAgree ct sid (front ++ [event]) after.projection := by
  intro hfollows run ledger hled
  obtain ⟨previous, hprev, hlast⟩ := restoreRun_concat hled
  have hpre := openToolCallIds_eq_iff.mp (hagree run previous hprev)
  rw [openToolCallIds_eq_iff]
  intro id
  have hstep := toolStep_of_reduceEvent hev
  generalize haft : after.projection.toolCalls = toolCalls' at hstep
  generalize after.openToolCallIds = opens' at hstep
  cases hstep with
  | other hcall =>
    rw [hkind] at hcall
    cases hcall
  | answer hans =>
    rw [not_isToolCall_of_isToolAnswer hans] at hkind
    cases hkind
  | @call cid owner call expected _ hid hrun hcall hopen hexp =>
    rw [mem_openCallsOf_insert haft, hcall]
    have hraw := hfollows.callId hkind
    have hself := hfollows.run hkind
    rw [hid] at hraw
    rw [hrun] at hself
    have hfree := hfollows.free hkind cid hid
    split at hlast
    · rename_i howner
      obtain ⟨written, hwr, hnew, hcalls, hresults, -⟩ :=
        restoreNext_toolCall hlast (beq_iff_eq.mp hkind)
      obtain rfl : written = cid := Option.mem_unique hwr hraw
      obtain rfl : owner = run := Option.mem_unique hself howner
      rw [hcalls, hresults, Finset.mem_insert]
      split
      · rename_i hsame
        subst hsame
        have hres : written ∉ previous.committedToolResultIds := fun hin =>
          hnew (results_subset_calls hprev hin)
        simp [hres, hopen]
      · rename_i hoth
        rw [← mem_openCallsOf, ← hpre id]
        simp [Ne.symm hoth]
    · rename_i hnot
      subst hlast
      rw [hpre id, mem_openCallsOf]
      split
      · rename_i hsame
        subst hsame
        -- the id was not open in another run
        constructor
        · rintro ⟨earlier, hearlier, hearlierRun, hearlierOpen⟩
          have hrun' := hfree earlier hearlier hearlierOpen
          rw [hrun, hearlierRun] at hrun'
          exact ⟨Option.some.inj hrun', hopen⟩
        · rintro ⟨hsame, -⟩
          rw [hself, hsame] at hnot
          exact absurd rfl hnot
      · rfl

include hrst in
theorem follows_of_agree_call (hkind : event.isToolCall = true)
    (hafterAgree : LedgersAgree ct sid (front ++ [event]) after.projection) :
    LedgerFollows pre.projection event := by
  have hstep := toolStep_of_reduceEvent hev
  generalize haft : after.projection.toolCalls = toolCalls' at hstep
  generalize after.openToolCallIds = opens' at hstep
  cases hstep with
  | other hcall =>
    rw [hkind] at hcall
    cases hcall
  | answer hans =>
    rw [not_isToolCall_of_isToolAnswer hans] at hkind
    cases hkind
  | @call cid owner call expected _ hid hrun hcall hopen hexp =>
    obtain ⟨raw, hraw, htrim⟩ := bind_eq_some_iff.mp hrun
    have hblk := (trimmedText?_eq_some.mp htrim).1
    obtain ⟨ledger, hled⟩ := hrst raw hblk
    obtain ⟨previous, hprev, hlast⟩ := restoreRun_concat hled
    rw [if_pos hraw] at hlast
    obtain ⟨written, hwr, hnew, hcalls, hresults, -⟩ :=
      restoreNext_toolCall hlast (beq_iff_eq.mp hkind)
    -- the written id is open in the ledger, so it is open in the reducer: as the new call
    have hm := (openToolCallIds_eq_iff.mp (hafterAgree raw ledger hled) written).mp
      ⟨by rw [hcalls]; exact Finset.mem_insert_self _ _, fun hin => hnew
        (results_subset_calls hprev (hresults ▸ hin))⟩
    rw [mem_openCallsOf_insert haft] at hm
    have hsame : cid = written := by
      by_contra hoth
      rw [if_neg hoth, ← mem_openCallsOf] at hm
      exact hnew ((openToolCallIds_eq_iff.mp (hagree raw previous hprev) written).mpr hm).1
    rw [if_pos hsame, hcall] at hm
    obtain rfl : owner = raw := hm.1
    refine ⟨?_, fun _ => hraw.trans hrun.symm, fun _ => ?_, ?_⟩
    · rw [beq_iff_eq.mp hkind]
      decide
    · rw [hwr, ← hsame]
      exact hid.symm
    · intro _ id hid' earlier hearlier hearlierOpen
      obtain rfl : cid = id := Option.mem_unique hid hid'
      by_contra hoth
      rw [hrun] at hoth
      have hne : owner ≠ earlier.agentRunId := fun heq => hoth (congrArg some heq)
      -- the ledger of the other run still has the id
      have hotherBlank := (trimmedText?_eq_some.mp
        ((toolState_of_reduceActive hfront).known cid earlier hearlier).2).1
      obtain ⟨other, hotherLedger⟩ := hrst earlier.agentRunId hotherBlank
      obtain ⟨otherBefore, hotherBefore, hotherLast⟩ := restoreRun_concat hotherLedger
      rw [hraw, if_neg (fun heq => hne (Option.some.inj heq))] at hotherLast
      subst hotherLast
      have hstill := (openToolCallIds_eq_iff.mp (hagree _ other hotherBefore) cid).mpr
        (mem_openCallsOf.mpr ⟨earlier, hearlier, rfl, hearlierOpen⟩)
      have hgone := (openToolCallIds_eq_iff.mp (hafterAgree _ other hotherLedger) cid).mp hstill
      rw [mem_openCallsOf_insert haft, if_pos rfl, hcall] at hgone
      exact hne hgone.1

include hrst in
/-- **Results.** A result that its ledger accepts answers an open call of its own run, so
    the ledgers agree after it. -/
theorem agree_of_result (hty : event.eventType = .toolResult) :
    LedgersAgree ct sid (front ++ [event]) after.projection := by
  have hkind : event.isToolAnswer = true := by
    rw [isToolAnswer, hty]
    rfl
  obtain ⟨owner, howner⟩ := run_of_toolResult (reduceEvent_eq_ok_iff.mp hev).1 hty
  obtain ⟨raw, hraw, htrim⟩ := bind_eq_some_iff.mp howner
  have hblk := (trimmedText?_eq_some.mp htrim).1
  have hsta := toolState_of_reduceActive hfront
  have hstep := toolStep_of_reduceEvent hev
  generalize haft : after.projection.toolCalls = toolCalls' at hstep
  generalize after.openToolCallIds = opens' at hstep
  cases hstep with
  | other _ hans =>
    rw [hkind] at hans
    cases hans
  | call hcall =>
    rw [not_isToolCall_of_isToolAnswer hkind] at hcall
    cases hcall
  | @answer cid call expected resultState _ hid hopened hcall hres =>
    -- the ledger of the run of the record has the id open
    obtain ⟨own, hown⟩ := hrst raw hblk
    obtain ⟨ownBefore, hownBefore, hownLast⟩ := restoreRun_concat hown
    rw [if_pos hraw] at hownLast
    obtain ⟨written, hwr, hcalled, hnew, -⟩ := restoreNext_toolResult hownLast hty
    obtain ⟨earlier, hearlier, hearlierRun, -⟩ := mem_openCallsOf.mp
      ((openToolCallIds_eq_iff.mp (hagree raw ownBefore hownBefore) written).mp ⟨hcalled, hnew⟩)
    -- so the id is trimmed, and the open call is one of this run
    have hsame : cid = written := by
      obtain ⟨text, htext, htextTrim⟩ := exists_statePayloadText hid
      obtain rfl : written = text := Option.mem_unique hwr htext
      have hself := (hsta.known written earlier hearlier).1
      exact Option.mem_unique htextTrim hself
    subst hsame
    obtain ⟨reduced, hred, hreducedRun, -⟩ := hsta.opened cid expected hopened
    obtain rfl : earlier = reduced := Option.mem_unique hearlier hred
    rw [← hreducedRun, hearlierRun] at hcall
    intro run ledger hled
    obtain ⟨previous, hprev, hlast⟩ := restoreRun_concat hled
    have hpre := openToolCallIds_eq_iff.mp (hagree run previous hprev)
    rw [openToolCallIds_eq_iff]
    intro id
    rw [mem_openCallsOf_insert haft, ← mem_openCallsOf, ← hpre id]
    split at hlast
    · obtain ⟨written, hwr', -, -, hcalls, hresults, -⟩ := restoreNext_toolResult hlast hty
      obtain rfl : cid = written := Option.mem_unique hwr hwr'
      rw [hcalls, hresults, Finset.mem_insert]
      split
      · rename_i hsame
        simp [← hsame, hres]
      · rename_i hoth
        simp [Ne.symm hoth]
    · rename_i hnot
      subst hlast
      split
      · rename_i hsame
        subst hsame
        -- the call is open in its own run only
        rw [hpre cid, mem_openCallsOf, hres]
        constructor
        · rintro ⟨other, hoth, hotherRun, -⟩
          obtain rfl : earlier = other := Option.mem_unique hearlier hoth
          rw [hraw, ← hearlierRun, hotherRun] at hnot
          exact absurd rfl hnot
        · rintro ⟨-, hnone⟩
          cases hnone
      · rfl

include hrst in
/-- **Closures.** After a closure the ledger of the call still has it open. -/
theorem not_agree_of_closure (hty : event.eventType = .toolCallClosure) :
    ¬ LedgersAgree ct sid (front ++ [event]) after.projection := by
  intro hafterAgree
  have hkind : event.isToolAnswer = true := by
    rw [isToolAnswer, hty]
    rfl
  have hsta := toolState_of_reduceActive hfront
  have hstep := toolStep_of_reduceEvent hev
  generalize haft : after.projection.toolCalls = toolCalls' at hstep
  generalize after.openToolCallIds = opens' at hstep
  cases hstep with
  | other _ hans =>
    rw [hkind] at hans
    cases hans
  | call hcall =>
    rw [not_isToolCall_of_isToolAnswer hkind] at hcall
    cases hcall
  | @answer cid call expected resultState _ hid hopened hcall hres =>
    obtain ⟨earlier, hearlier, -, hearlierOpen⟩ := hsta.opened cid expected hopened
    have hblk := (trimmedText?_eq_some.mp (hsta.known cid earlier hearlier).2).1
    obtain ⟨ledger, hled⟩ := hrst earlier.agentRunId hblk
    obtain ⟨previous, hprev, hlast⟩ := restoreRun_concat hled
    have hstill := (openToolCallIds_eq_iff.mp (hagree _ previous hprev) cid).mpr
      (mem_openCallsOf.mpr ⟨earlier, hearlier, rfl, hearlierOpen⟩)
    have hsame : ledger.committedToolCallIds = previous.committedToolCallIds ∧
        ledger.committedToolResultIds = previous.committedToolResultIds := by
      split at hlast
      · exact restoreNext_tools hlast (by rw [hty]; decide)
          (by rw [hty]; decide)
      · rw [hlast]
        exact ⟨rfl, rfl⟩
    rw [← hsame.1, ← hsame.2] at hstill
    have hgone := (openToolCallIds_eq_iff.mp (hafterAgree _ ledger hled) cid).mp hstill
    rw [mem_openCallsOf_insert haft, if_pos rfl, hres] at hgone
    cases hgone.2

omit hfront in
/-- **Frame.** Records about no tool call keep the agreement. -/
theorem agree_of_other (hcall : event.isToolCall = false) (hans : event.isToolAnswer = false) :
    LedgersAgree ct sid (front ++ [event]) after.projection := by
  have hsame : after.projection.toolCalls = pre.projection.toolCalls := by
    have hstep := toolStep_of_reduceEvent hev
    generalize after.projection.toolCalls = toolCalls' at hstep ⊢
    generalize after.openToolCallIds = opens' at hstep
    cases hstep with
    | other => rfl
    | call hkind =>
      rw [hkind] at hcall
      cases hcall
    | answer hkind =>
      rw [hkind] at hans
      cases hans
  have hnotCall : event.eventType ≠ .toolCall := fun hty => by
    rw [isToolCall, hty] at hcall
    cases hcall
  have hnotResult : event.eventType ≠ .toolResult := fun hty => by
    rw [isToolAnswer, hty] at hans
    cases hans
  intro run ledger hled
  obtain ⟨previous, hprev, hlast⟩ := restoreRun_concat hled
  have hledgers : ledger.openToolCallIds = previous.openToolCallIds := by
    split at hlast
    · have htools := restoreNext_tools hlast hnotCall hnotResult
      rw [openToolCallIds, htools.1, htools.2]
      rfl
    · rw [hlast]
  rw [hledgers, hagree run previous hprev, openCallsOf, openCallsOf, hsame]

include hrst in
/-- **Step.** After a record the ledgers still agree exactly when they can follow it. -/
theorem agree_iff_follows :
    LedgersAgree ct sid (front ++ [event]) after.projection ↔
      LedgerFollows pre.projection event := by
  have hnoCall : event.isToolCall = false → event.eventType ≠ .toolCallClosure →
      LedgerFollows pre.projection event := by
    intro hcall hclosure
    refine ⟨hclosure, ?_, ?_, ?_⟩
    all_goals
      intro hkind
      rw [hcall] at hkind
      cases hkind
  cases hcall : event.isToolCall with
  | true =>
    exact ⟨follows_of_agree_call hfront hev hrst hagree hcall,
      agree_of_call hev hagree hcall⟩
  | false =>
    by_cases hres : event.eventType = .toolResult
    · exact ⟨fun _ => hnoCall hcall (by rw [hres]; decide),
        fun _ => agree_of_result hfront hev hrst hagree hres⟩
    by_cases hclosure : event.eventType = .toolCallClosure
    · exact ⟨fun haft => absurd haft
          (not_agree_of_closure hfront hev hrst hagree hclosure),
        fun hfollows => absurd hclosure hfollows.closure⟩
    · have hans : event.isToolAnswer = false := by
        rw [isToolAnswer, SessionRecordType.isToolAnswer]
        simp [hres, hclosure]
      exact ⟨fun _ => hnoCall hcall hclosure, fun _ => agree_of_other hev hagree hcall hans⟩

end Step

/-- Before the first record no call is open. -/
theorem ledgersAgree_nil (h : reduceActive ct sid targets [] = .ok pre) :
    LedgersAgree ct sid [] pre.projection := by
  obtain rfl := pure_eq_ok.mp h
  intro run ledger hled
  simp only [restoreRun, new, ok_rules] at hled
  obtain ⟨_, ⟨-, -, rfl⟩, hlast⟩ := hled
  obtain rfl := pure_eq_ok.mp hlast
  rw [openToolCallIds_eq_iff]
  intro cid
  rw [mem_openCallsOf, show ((⟨{ empty with tombstonedEventIds := targets }, ∅,
    ∅⟩ : SessionReduction).projection.toolCalls) = ∅ from rfl, getElem?_empty]
  simp

/-- **Open tool calls.** Along an accepted log without tombstones whose runs can be
    restored, the ledgers agree with the reducer after every record exactly when they can
    follow every record. -/
theorem ledgersAgree_iff_follows {events : List SessionLogRecord} {proj : SessionProjection}
    (hfree : ∀ event ∈ events, event.eventType ≠ .tombstone)
    (hevs : reduceEvents ct sid events = .ok proj)
    (hrst : ∀ run, isBlank run = false →
      ∃ ledger, restoreRun ct (trim sid) run events = .ok ledger) :
    (∀ (front back : List SessionLogRecord) (reduced : SessionProjection), events = front ++ back →
        reduceEvents ct sid front = .ok reduced →
        LedgersAgree ct (trim sid) front reduced) ↔
      ∀ (front : List SessionLogRecord) (event : SessionLogRecord)
        (back : List SessionLogRecord) (reduced : SessionProjection),
        events = front ++ event :: back → reduceEvents ct sid front = .ok reduced →
        LedgerFollows reduced event := by
  refine forall_fronts_iff (LedgersAgree ct (trim sid)) LedgerFollows hfree hevs
    (fun state hsta => ledgersAgree_nil hsta) ?_
  intro front event back pre after hsp hpre hev hagree
  refine agree_iff_follows hpre hev ?_ hagree
  -- what can be restored from the whole log can be restored up to here
  intro run hrun
  obtain ⟨ledger, hled⟩ := hrst run hrun
  rw [hsp, ← List.singleton_append, ← List.append_assoc] at hled
  exact restoreRun_append hled

def closedCallLog : List SessionLogRecord :=
  [(toolCallRecord 1 "c").event,
    (sampleRecord 2 .toolCallClosure (.object [("callId", .string "c"),
      ("toolName", .string "ls"), ("resultState", .string "aborted"),
      ("modelContent", .string ""), ("fullOutputPath", .null), ("outputStartByte", .null),
      ("outputByteLength", .number (.posInt 0)), ("outputComplete", .bool true),
      ("summary", .string "not executed"), ("operations", .array []),
      ("modelInputImages", .array []), ("latencyMs", .number (.posInt 0)),
      ("recovery", .string "not_executed"), ("callEventId", .null),
      ("triggerAgentRunId", .string "r"), ("triggerTurnId", .string "t")])).event]

theorem restored_of_oneRun {events : List SessionLogRecord} (hses : isBlank sid = false)
    (hrun : ∀ event ∈ events, event.agentRunId = some run)
    (h : ∃ ledger, restoreRun ct sid run events = .ok ledger) :
    ∀ other, isBlank other = false →
      ∃ ledger, restoreRun ct sid other events = .ok ledger := by
  intro other hoth
  by_cases hsame : other = run
  · rw [hsame]
    exact h
  · apply restoreRun_of_noRecords hses hoth
    intro event hm heq
    exact hsame (Option.some.inj (heq.symm.trans (hrun event hm)))

theorem answeredCallLog_restored :
    (restoreRun toolContracts (trim "s") "r" answeredCallLog).toOption.map (·.openToolCallIds) =
      some [] := by
  decide +kernel

/-- The log of an answered call meets the assumptions. -/
theorem ledgersAgree_iff_follows_answered :
    (∃ proj, reduceEvents toolContracts "s" answeredCallLog = .ok proj ∧
      proj.toolCalls.size = 1) ∧
    ((∀ (front back : List SessionLogRecord) (reduced : SessionProjection),
        answeredCallLog = front ++ back → reduceEvents toolContracts "s" front = .ok reduced →
        LedgersAgree toolContracts (trim "s") front reduced) ↔
      ∀ (front : List SessionLogRecord) (event : SessionLogRecord)
        (back : List SessionLogRecord) (reduced : SessionProjection),
        answeredCallLog = front ++ event :: back →
        reduceEvents toolContracts "s" front = .ok reduced → LedgerFollows reduced event) := by
  obtain ⟨proj, hevs, hsize⟩ := Outcome.exists_ok_of_map answeredCallLog_ok.1
  obtain ⟨ledger, hled, -⟩ := Outcome.exists_ok_of_map answeredCallLog_restored
  refine ⟨⟨proj, hevs, hsize⟩, ledgersAgree_iff_follows (by decide) hevs ?_⟩
  exact restored_of_oneRun (by decide) (by decide) ⟨ledger, hled⟩

/-- After a closure the ledger of the run has the call open and the reducer has not. -/
theorem closed_call_stays_open :
    ∃ proj ledger, reduceEvents toolContracts "s" closedCallLog = .ok proj ∧
      restoreRun toolContracts (trim "s") "r" closedCallLog = .ok ledger ∧
      (∀ run, isBlank run = false →
        ∃ ledger, restoreRun toolContracts (trim "s") run closedCallLog = .ok ledger) ∧
      ledger.openToolCallIds = ["c"] ∧ proj.openCallsOf "r" = ∅ := by
  have hred : (reduceEvents toolContracts "s" closedCallLog).toOption.map
      (fun proj => proj.openCallsOf "r") = some ∅ := by decide +kernel
  have hrst : (restoreRun toolContracts (trim "s") "r" closedCallLog).toOption.map
      (·.openToolCallIds) = some ["c"] := by decide +kernel
  obtain ⟨proj, hevs, hnone⟩ := Outcome.exists_ok_of_map hred
  obtain ⟨ledger, hled, hopen⟩ := Outcome.exists_ok_of_map hrst
  refine ⟨proj, ledger, hevs, hled, ?_, hopen, hnone⟩
  exact restored_of_oneRun (by decide) (by decide) ⟨ledger, hled⟩

end Centaeris
