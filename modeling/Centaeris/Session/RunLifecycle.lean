import Centaeris.Foundation.Letters
import Centaeris.Session.AcceptedLogs

namespace Centaeris

open Foundation SessionLogRecord SessionRecordType Option Outcome

/-!
# The life of an AgentRun in the log

The reducer overwrites the entry of a run at every start and terminal record.  So the
entry is what the last of them wrote, whatever came before.
-/

variable {event : SessionLogRecord} {run : String}

/-! ### Lifecycle records -/

namespace SessionRecordType

/-- The state in which a lifecycle record leaves its run. -/
def runState? (eventType : SessionRecordType) : Option ReducedAgentRunState :=
  if eventType = .agentRunStarted then some .running else eventType.terminalState?

variable {eventType : SessionRecordType}

theorem runState?_eq_none (h : eventType.changesLedger = false) : eventType.runState? = none := by
  revert h
  cases eventType <;> decide

theorem runState?_of_answer (h : eventType.isToolAnswer = true) : eventType.runState? = none := by
  revert h
  cases eventType <;> decide

theorem runState?_of_start (h : (eventType == .agentRunStarted) = true) :
    eventType.runState? = some .running := by
  rw [runState?, if_pos (beq_iff_eq.mp h)]

theorem isStart_of_running (h : eventType.runState? = some .running) :
    (eventType == .agentRunStarted) = true := by
  revert h
  cases eventType <;> decide

theorem runState?_of_terminal {state : ReducedAgentRunState}
    (h : eventType.terminalState? = some state) : eventType.runState? = some state := by
  revert h
  cases eventType <;> cases state <;> decide

end SessionRecordType

namespace SessionLogRecord

def isStart (event : SessionLogRecord) : Bool := event.eventType == .agentRunStarted

def isTerminal (event : SessionLogRecord) : Bool := event.eventType.terminalState?.isSome

/-- The run that a start or terminal record names. -/
def lifecycleKey (event : SessionLogRecord) : Option String :=
  if event.eventType.runState?.isSome then event.run? else none

/-- The turn and the state that a lifecycle record writes. -/
def runEntry? (event : SessionLogRecord) : Option (String × ReducedAgentRunState) :=
  event.turn?.bind fun turn => event.eventType.runState?.map fun state => (turn, state)

theorem run_of_lifecycleKey (h : event.lifecycleKey = some run) :
    event.run? = some run ∧ event.eventType.runState?.isSome = true := by
  unfold lifecycleKey at h
  split at h
  · rename_i hsta
    exact ⟨h, hsta⟩
  · cases h

/-- A lifecycle record is a start or a terminal record, and not both. -/
theorem isTerminal_of_lifecycleKey (h : event.lifecycleKey = some run) :
    event.isTerminal = !event.isStart := by
  have hsome := (run_of_lifecycleKey h).2
  unfold isTerminal isStart
  revert hsome
  cases event.eventType <;> decide

end SessionLogRecord

variable {ct : PayloadContracts} {sessionId : String} {targets : Finset String}

/-- The entry of a run as its lifecycle records write it. -/
def SessionProjection.runEntry? (proj : SessionProjection) (run : String) :
    Option (String × ReducedAgentRunState) :=
  (proj.agentRuns[run]?).map fun reduced => (reduced.initialTurnId, reduced.state)

variable {state : SessionReduction}

/-- **Step.** A record writes the entry of the run that it names, or leaves all runs alone. -/
theorem runEntry_step {state' : SessionReduction}
    (h : reduceEvent ct sessionId state event = .ok state') (run : String) :
    state'.projection.runEntry? run =
      if event.lifecycleKey = some run then event.runEntry?
      else state.projection.runEntry? run := by
  obtain ⟨middle, hmid, heff⟩ := recordEffect_of_reduceEvent h
  obtain ⟨proj', seen', opens'⟩ := state'
  -- a written entry, and an entry that is left alone
  have hwrite : ∀ (written : ReducedAgentRun) (name : String),
      event.lifecycleKey = some name →
      event.runEntry? = some (written.initialTurnId, written.state) →
      ((middle.agentRuns.insert name written)[run]?).map
          (fun reduced => (reduced.initialTurnId, reduced.state)) =
        if event.lifecycleKey = some run then event.runEntry?
        else state.projection.runEntry? run := by
    intro written name hkey hent
    rw [hmid.runs, Table.getElem?_insert, hkey, hent]
    by_cases hname : name = run
    · rw [if_pos hname, if_pos (congrArg some hname)]
      rfl
    · rw [if_neg hname, if_neg (fun hsome => hname (Option.some.inj hsome))]
      rfl
  have hskip : event.eventType.runState? = none →
      proj'.agentRuns = middle.agentRuns →
      proj'.runEntry? run =
        if event.lifecycleKey = some run then event.runEntry?
        else state.projection.runEntry? run := by
    intro hnone hsame
    rw [lifecycleKey, hnone, SessionProjection.runEntry?, hsame, hmid.runs]
    rfl
  cases heff with
  | other hty hsame =>
    exact hskip (runState?_eq_none hty) hsame.runs
  | @started name turn hty hrun hturn =>
    apply hwrite
    · simp [lifecycleKey, runState?, hty, hrun]
    · simp [SessionLogRecord.runEntry?, runState?, hty, hturn]
  | @terminal name turn outcome _ hty hrun hturn =>
    have hsta := runState?_of_terminal hty
    apply hwrite
    · simp [lifecycleKey, hsta, hrun]
    · simp [SessionLogRecord.runEntry?, hsta, hturn]
  | attempted hty | executionStarted hty | executionEnded hty | toolCall hty
  | republished hty | published hty => exact hskip (by rw [hty]; rfl) rfl
  | toolAnswer hty => exact hskip (runState?_of_answer hty) rfl

/-- The reduced run is read off the last such record. -/
theorem runEntry_of_reduceActive {events : List SessionLogRecord}
    (h : reduceActive ct sessionId targets events = .ok state) (run : String) :
    state.projection.runEntry? run =
      (wordOf lifecycleKey run events).getLast?.bind
        runEntry? := by
  have hlast := foldlM_lastLetter (fun _ _ _ hstep => runEntry_step hstep) h run
  rw [hlast]
  have hemp : SessionProjection.runEntry?
      { SessionProjection.empty with tombstonedEventIds := targets } run = none := by
    show ((∅ : Table String ReducedAgentRun)[run]?).map _ = none
    rw [Table.getElem?_empty]
    rfl
  cases (wordOf lifecycleKey run events).getLast? with
  | none => exact hemp
  | some last => rfl

theorem turn_of_lifecycle (h : validateEventShape ct event = .ok ())
    (hsta : event.eventType.runState?.isSome = true) : ∃ turn, event.turn? = some turn := by
  simp only [validateEventShape, ok_rules] at h
  obtain ⟨-, -, -, -, -, -, -, hpay⟩ := h
  rw [validateEventPayload] at hpay
  cases hty : event.eventType with
  | agentRunStarted =>
    simp only [hty, validateAgentRunStarted, bind_eq_ok, requiredEventTurnId_eq_ok] at hpay
    exact ⟨_, hpay.choose_spec.1⟩
  | agentRunCompleted =>
    simp only [hty, validateAgentRunTerminal, bind_eq_ok, requiredEventTurnId_eq_ok] at hpay
    exact ⟨_, hpay.choose_spec.1⟩
  | agentRunFailed =>
    simp only [hty, validateAgentRunFailed, bind_eq_ok, requiredEventTurnId_eq_ok] at hpay
    exact ⟨_, hpay.choose_spec.1⟩
  | agentRunInterrupted =>
    simp only [hty, validateAgentRunInterrupted, bind_eq_ok,
      requiredEventTurnId_eq_ok] at hpay
    exact ⟨_, hpay.choose_spec.1⟩
  | _ =>
    rw [hty] at hsta
    cases hsta

/-! ### The law -/

namespace SessionLogRecord

def startsRun (event : SessionLogRecord) (run : String) : Bool :=
  event.isStart && event.run? == some run

def endsRun (event : SessionLogRecord) (run : String) : Bool :=
  event.isTerminal && event.run? == some run

end SessionLogRecord

/-- One start, at most one terminal record, in this order, and the reduced run keeps the turn of its
    start. -/
structure RunLifecycle (active : List SessionLogRecord) (run : String)
    (reduced : ReducedAgentRun) : Prop where
  started : (active.filter (·.startsRun run)).length = 1
  ended : (active.filter (·.endsRun run)).length ≤ 1
  ordered : ∀ front event back, active = front ++ event :: back → event.endsRun run = true →
    (∃ start ∈ front, start.startsRun run = true) ∧ ∀ later ∈ back, later.startsRun run = false
  initialTurn : ∀ event ∈ active, event.startsRun run = true →
    event.turn? = some reduced.initialTurnId

/-- A start finds its run unknown; a terminal record finds it running, in its own turn. -/
structure Expected (proj : SessionProjection) (event : SessionLogRecord) : Prop where
  start : event.isStart = true → ∀ run ∈ event.run?, proj.agentRuns[run]? = none
  terminal : event.isTerminal = true → ∀ run ∈ event.run?, ∃ reduced,
    proj.agentRuns[run]? = some reduced ∧ reduced.state = .running ∧
      event.turn? = some reduced.initialTurnId

/-- The same in terms of the lifecycle records of the run so far. -/
structure ExpectedAfter (word : List SessionLogRecord) (event : SessionLogRecord) : Prop where
  start : event.isStart = true → word = []
  terminal : event.isTerminal = true → ∃ last, word.getLast? = some last ∧
    last.isStart = true ∧ event.turn? = last.turn?

/-- The words of a run that keeps the law. -/
inductive LifeWord : List SessionLogRecord → Prop
  | unknown : LifeWord []
  | running {start : SessionLogRecord} (hstart : start.isStart = true) : LifeWord [start]
  | ended {start last : SessionLogRecord} (hstart : start.isStart = true)
      (hlast : last.isTerminal = true) (hturn : last.turn? = start.turn?) :
      LifeWord [start, last]

theorem startsRun_iff :
    event.startsRun run = true ↔ event.lifecycleKey = some run ∧ event.isStart = true := by
  simp only [startsRun, bool_rules]
  constructor
  · rintro ⟨hstart, hrun⟩
    rw [lifecycleKey, runState?_of_start hstart, hrun]
    exact ⟨rfl, hstart⟩
  · rintro ⟨hkey, hstart⟩
    exact ⟨hstart, (run_of_lifecycleKey hkey).1⟩

theorem endsRun_iff :
    event.endsRun run = true ↔ event.lifecycleKey = some run ∧ event.isTerminal = true := by
  simp only [endsRun, bool_rules]
  constructor
  · rintro ⟨hend, hrun⟩
    obtain ⟨state, hsta⟩ := isSome_iff_exists.mp hend
    rw [lifecycleKey, runState?_of_terminal hsta, hrun]
    exact ⟨rfl, hend⟩
  · rintro ⟨hkey, hend⟩
    exact ⟨hend, (run_of_lifecycleKey hkey).1⟩

theorem expectedAfter_iff {word : List SessionLogRecord} (hkey : event.lifecycleKey = some run) :
    ExpectedAfter word event ↔ if event.isStart = true then word = [] else
      ∃ last, word.getLast? = some last ∧ last.isStart = true ∧ event.turn? = last.turn? := by
  have hend := isTerminal_of_lifecycleKey hkey
  split_ifs with hstart
  · rw [hstart] at hend
    exact ⟨fun h => h.start hstart, fun h => ⟨fun _ => h, by simp [hend]⟩⟩
  · rw [Bool.not_eq_true] at hstart
    rw [hstart] at hend
    exact ⟨fun h => h.terminal hend, fun h => ⟨by simp [hstart], fun _ => h⟩⟩

section LifeWord

variable {first second third : SessionLogRecord} {others : List SessionLogRecord}

theorem lifeWord_one : LifeWord [first] ↔ first.isStart = true := by
  refine ⟨?_, .running⟩
  rintro ⟨⟩
  assumption

theorem lifeWord_two : LifeWord [first, second] ↔
    first.isStart = true ∧ second.isTerminal = true ∧ second.turn? = first.turn? := by
  constructor
  · rintro (_ | _ | ⟨hstart, hlast, hturn⟩)
    exact ⟨hstart, hlast, hturn⟩
  · rintro ⟨hstart, hlast, hturn⟩
    exact .ended hstart hlast hturn

theorem not_lifeWord_three : ¬LifeWord (first :: second :: third :: others) := by
  rintro ⟨⟩

/-- **Words.** Every letter is expected after those before it exactly in such a word. -/
theorem lifeWord_iff {word : List SessionLogRecord}
    (hkeys : ∀ event ∈ word, event.lifecycleKey = some run) :
    (∀ front event back, word = front ++ event :: back → ExpectedAfter front event) ↔
      LifeWord word := by
  rcases word with _ | ⟨first, _ | ⟨second, _ | ⟨third, others⟩⟩⟩
  · simp [LifeWord.unknown]
  · have hfst := hkeys first (by simp)
    simp [forall_split_cons, expectedAfter_iff hfst, lifeWord_one]
  · have hfst := hkeys first (by simp)
    have hsec := hkeys second (by simp)
    simp [forall_split_cons, expectedAfter_iff hfst, expectedAfter_iff hsec, lifeWord_two,
      isTerminal_of_lifecycleKey hsec]
    grind
  · -- a third letter can be neither: the run is known, and it is not running
    have hsec := hkeys second (by simp)
    have hthird := hkeys third (by simp)
    simp [forall_split_cons, expectedAfter_iff hsec, expectedAfter_iff hthird,
      not_lifeWord_three]
    grind

end LifeWord

/-! ### The law and the expected records -/

variable {active : List SessionLogRecord} {state : SessionReduction}

theorem expected_iff {front : List SessionLogRecord} {before : SessionReduction}
    (h : reduceActive ct sessionId targets front = .ok before)
    (hread : ∀ letter ∈ wordOf lifecycleKey run front,
      ∃ turn, letter.turn? = some turn) (hkey : event.lifecycleKey = some run) :
    Expected before.projection event ↔
      ExpectedAfter (wordOf lifecycleKey run front) event := by
  have hent := runEntry_of_reduceActive h run
  obtain ⟨hrun, -⟩ := run_of_lifecycleKey hkey
  have hents : ∀ letter ∈ wordOf lifecycleKey run front,
      ∃ turn state, letter.turn? = some turn ∧ letter.eventType.runState? = some state ∧
        letter.runEntry? = some (turn, state) := by
    intro letter hletter
    obtain ⟨turn, hturn⟩ := hread letter hletter
    obtain ⟨-, hsta⟩ := run_of_lifecycleKey (mem_wordOf.mp hletter).2
    obtain ⟨state, hsta⟩ := isSome_iff_exists.mp hsta
    refine ⟨turn, state, hturn, hsta, ?_⟩
    rw [SessionLogRecord.runEntry?, hturn, hsta]
    rfl
  constructor
  · intro hexp
    refine ⟨?_, ?_⟩
    · intro hstart
      rw [SessionProjection.runEntry?, hexp.start hstart run hrun] at hent
      by_contra hne
      obtain ⟨turn, state, -, -, hwr⟩ := hents _ (List.getLast_mem hne)
      rw [List.getLast?_eq_some_getLast hne, bind_some, hwr] at hent
      cases hent
    · intro hend
      obtain ⟨reduced, hred, hrunning, hturn⟩ := hexp.terminal hend run hrun
      rw [SessionProjection.runEntry?, hred] at hent
      obtain ⟨last, hlast, hwr⟩ := bind_eq_some_iff.mp hent.symm
      obtain ⟨turn, state, hlastTurn, hsta, hentryLast⟩ :=
        hents last (List.mem_of_getLast? hlast)
      rw [hentryLast, Option.some.injEq, Prod.mk.injEq] at hwr
      obtain ⟨rfl, rfl⟩ := hwr
      refine ⟨last, hlast, ?_, hturn.trans hlastTurn.symm⟩
      rw [hrunning] at hsta
      exact isStart_of_running hsta
  · intro haft
    refine ⟨?_, ?_⟩
    · intro hstart name hname
      obtain rfl : run = name := Option.mem_unique hrun hname
      rw [haft.start hstart] at hent
      exact map_eq_none_iff.mp hent
    · intro hend name hname
      obtain rfl : run = name := Option.mem_unique hrun hname
      obtain ⟨last, hlast, hstart, hturn⟩ := haft.terminal hend
      obtain ⟨turn, state, hlastTurn, hsta, hwr⟩ :=
        hents last (List.mem_of_getLast? hlast)
      rw [hlast, bind_some, hwr] at hent
      obtain ⟨reduced, hred, hsame⟩ := map_eq_some_iff.mp hent
      rw [Prod.mk.injEq] at hsame
      refine ⟨reduced, hred, ?_, ?_⟩
      · rw [hsame.2]
        rw [runState?_of_start hstart] at hsta
        exact (Option.some.inj hsta).symm
      · rw [hturn, hlastTurn, hsame.1]

theorem turn_of_accepted (h : reduceActive ct sessionId targets active = .ok state) :
    ∀ letter ∈ wordOf lifecycleKey run active, ∃ turn, letter.turn? = some turn := by
  intro letter hletter
  obtain ⟨hm, hkey⟩ := mem_wordOf.mp hletter
  obtain ⟨front, back, rfl⟩ := List.append_of_mem hm
  obtain ⟨before, after, -, hev⟩ := reduceActive_split h
  exact turn_of_lifecycle (reduceEvent_eq_ok_iff.mp hev).1 (run_of_lifecycleKey hkey).2

theorem expected_iff_lifeWord (h : reduceActive ct sessionId targets active = .ok state) :
    (∀ front event back before, active = front ++ event :: back →
        reduceActive ct sessionId targets front = .ok before →
        Expected before.projection event) ↔
      ∀ run, LifeWord (wordOf lifecycleKey run active) := by
  have hsplits : ∀ run, (∀ front event back, active = front ++ event :: back →
      event.lifecycleKey = some run →
      ExpectedAfter (wordOf lifecycleKey run front) event) ↔
      LifeWord (wordOf lifecycleKey run active) := by
    intro run
    rw [forall_split_iff (P := fun front event _ => ExpectedAfter front event), lifeWord_iff]
    exact fun event hev => (mem_wordOf.mp hev).2
  have hread : ∀ {run front back}, active = front ++ back →
      ∀ letter ∈ wordOf lifecycleKey run front,
        ∃ turn, letter.turn? = some turn := by
    intro run front back hsp letter hletter
    apply turn_of_accepted h letter
    rw [hsp, wordOf_append]
    exact List.mem_append_left _ hletter
  constructor
  · intro hexp run
    rw [← hsplits]
    intro front event back hsp hkey
    obtain ⟨before, after, hfront, -⟩ := reduceActive_split (hsp ▸ h)
    exact (expected_iff hfront (hread hsp) hkey).mp (hexp front event back before hsp
      hfront)
  · intro hwords front event back before hsp hfront
    cases hkey : event.lifecycleKey with
    | some run =>
      exact (expected_iff hfront (hread hsp) hkey).mpr
        ((hsplits run).mpr (hwords run) front event back hsp hkey)
    | none =>
      -- a record that names no run, or is no lifecycle record, expects nothing
      refine ⟨?_, ?_⟩
      · intro hstart run hrun
        have hstarts : event.startsRun run = true := by
          rw [startsRun, hstart, mem_def.mp hrun]
          simp
        rw [(startsRun_iff.mp hstarts).1] at hkey
        cases hkey
      · intro hend run hrun
        have hends : event.endsRun run = true := by rw [endsRun, hend, mem_def.mp hrun]; simp
        rw [(endsRun_iff.mp hends).1] at hkey
        cases hkey

variable {reduced : ReducedAgentRun}

/-- The law in terms of the lifecycle records of the run. -/
theorem runLifecycle_iff : RunLifecycle active run reduced ↔
    ((wordOf lifecycleKey run active).filter (·.isStart)).length = 1 ∧
    ((wordOf lifecycleKey run active).filter (·.isTerminal)).length ≤ 1 ∧
    (∀ front event back, wordOf lifecycleKey run active = front ++ event :: back →
      event.isTerminal = true → (∃ start ∈ front, start.isStart = true) ∧
        ∀ later ∈ back, later.isStart = false) ∧
    ∀ event ∈ wordOf lifecycleKey run active, event.isStart = true →
      event.turn? = some reduced.initialTurnId := by
  rw [← filter_eq_filter_wordOf fun _ => startsRun_iff,
    ← filter_eq_filter_wordOf fun _ => endsRun_iff,
    ← forall_split_iff (P := fun (front : List SessionLogRecord) event back =>
      event.isTerminal = true → (∃ start ∈ front, start.isStart = true) ∧
        ∀ later ∈ back, later.isStart = false)]
  simp only [mem_wordOf, ← Bool.not_eq_true, and_assoc, and_imp]
  constructor
  · rintro ⟨hstarted, hended, hordered, hinitial⟩
    simp only [startsRun_iff, endsRun_iff, ← Bool.not_eq_true, and_imp, not_and] at *
    exact ⟨hstarted, hended, hordered, hinitial⟩
  · rintro ⟨hstarted, hended, hordered, hinitial⟩
    refine ⟨hstarted, hended, ?_, ?_⟩
    · simpa only [startsRun_iff, endsRun_iff, ← Bool.not_eq_true, and_imp, not_and] using hordered
    · simpa only [startsRun_iff, and_imp] using hinitial

theorem runLifecycle_iff_lifeWord (hent : state.projection.agentRuns[run]? = some reduced)
    (h : reduceActive ct sessionId targets active = .ok state) :
    RunLifecycle active run reduced ↔ LifeWord (wordOf lifecycleKey run active) := by
  have hlast := runEntry_of_reduceActive h run
  rw [SessionProjection.runEntry?, hent] at hlast
  obtain ⟨last, hgetLast, hwr⟩ := bind_eq_some_iff.mp hlast.symm
  obtain ⟨turn, hturn, hpair⟩ := bind_eq_some_iff.mp hwr
  obtain ⟨_, -, hpair⟩ := map_eq_some_iff.mp hpair
  obtain rfl : turn = reduced.initialTurnId := (Prod.mk.inj hpair).1
  have hends : ∀ event ∈ wordOf lifecycleKey run active, event.isTerminal = !event.isStart :=
    fun event hm => isTerminal_of_lifecycleKey (mem_wordOf.mp hm).2
  rw [runLifecycle_iff]
  generalize wordOf lifecycleKey run active = word at *
  rcases word with _ | ⟨first, _ | ⟨second, _ | ⟨third, others⟩⟩⟩
  · cases hgetLast
  · obtain rfl : first = last := Option.some.inj hgetLast
    have hfst := hends first (by simp)
    simp [forall_split_cons, lifeWord_one, hfst, hturn]
    grind
  · obtain rfl : second = last := Option.some.inj hgetLast
    have hfst := hends first (by simp)
    have hsec := hends second (by simp)
    simp [forall_split_cons, lifeWord_two, hfst, hsec, hturn]
    grind
  · -- the letters are starts and ends, so there are at most two
    refine ⟨?_, fun hword => absurd hword not_lifeWord_three⟩
    rintro ⟨hstarted, hended, -⟩
    have hsum := List.length_eq_length_filter_add (·.isStart)
      (l := first :: second :: third :: others)
    rw [List.filter_congr hends] at hended
    simp only [List.length_cons] at hsum
    omega

/-- **Lifecycle.** The active records of an accepted log keep the lifecycle law for every
    reduced run exactly when each of them finds its run as expected: a start finds it
    unknown, a terminal record finds it running in its own turn. -/
theorem runLifecycle_iff_expected {events : List SessionLogRecord} {proj : SessionProjection}
    (hevs : reduceEvents ct sessionId events = .ok proj)
    (htgts : activeTombstoneTargets ct (trim sessionId) events = .ok targets) :
    (∀ run reduced, proj.agentRuns[run]? = some reduced →
        RunLifecycle (events.filter (isActive targets)) run reduced) ↔
      ∀ front event back before,
        events.filter (isActive targets) = front ++ event :: back →
        reduceActive ct (trim sessionId) targets front = .ok before →
        Expected before.projection event := by
  obtain ⟨state, h, rfl⟩ := reduceActive_of_reduceEvents hevs htgts
  rw [expected_iff_lifeWord h]
  constructor
  · intro hlaw run
    cases hent : state.projection.agentRuns[run]? with
    | some reduced => exact (runLifecycle_iff_lifeWord hent h).mp (hlaw run reduced hent)
    | none =>
      -- an unknown run has no letters
      have hlast := runEntry_of_reduceActive h run
      rw [SessionProjection.runEntry?, hent] at hlast
      have hnil : wordOf SessionLogRecord.lifecycleKey run (events.filter (isActive targets)) =
          [] := by
        by_contra hne
        obtain ⟨turn, hturn⟩ := turn_of_accepted h _ (List.getLast_mem hne)
        obtain ⟨-, hsta⟩ := run_of_lifecycleKey (mem_wordOf.mp (List.getLast_mem hne)).2
        obtain ⟨outcome, houtcome⟩ := isSome_iff_exists.mp hsta
        rw [List.getLast?_eq_some_getLast hne, bind_some, SessionLogRecord.runEntry?, hturn,
          houtcome] at hlast
        cases hlast
      rw [hnil]
      exact .unknown
  · intro hwords run reduced hent
    exact (runLifecycle_iff_lifeWord hent h).mpr (hwords run)

def failedRunLog : List SessionLogRecord :=
  [(sampleRecord 1 .agentRunStarted (.object [("userObjective", .string "o")])).event,
    (sampleRecord 2 .agentRunFailed
      (.object [("reasonType", .string "x"), ("message", .string "m")])).event]

/-- The same run is started again after it has failed. -/
def restartedRunLog : List SessionLogRecord :=
  failedRunLog ++
    [(sampleRecord 3 .agentRunStarted (.object [("userObjective", .string "o")])).event]

theorem failedRunLog_ok :
    (reduceEvents toolContracts "s" failedRunLog).toOption.map (fun proj =>
      proj.runEntry? "r") = some (some ("t", .failed)) ∧
    activeTombstoneTargets toolContracts (trim "s") failedRunLog = .ok ∅ := by
  decide +kernel

/-- The records of the failed run are expected, so it keeps the law. -/
theorem runLifecycle_iff_expected_failed :
    ∃ proj, reduceEvents toolContracts "s" failedRunLog = .ok proj ∧
      proj.runEntry? "r" = some ("t", .failed) ∧
      ∀ run reduced, proj.agentRuns[run]? = some reduced →
        RunLifecycle (failedRunLog.filter (isActive ∅)) run reduced := by
  obtain ⟨proj, hevs, hent⟩ := exists_ok_of_map failedRunLog_ok.1
  obtain ⟨state, h, -⟩ := reduceActive_of_reduceEvents hevs failedRunLog_ok.2
  refine ⟨proj, hevs, hent, (runLifecycle_iff_expected hevs failedRunLog_ok.2).mpr
    ((expected_iff_lifeWord h).mpr ?_)⟩
  intro run
  by_cases hrun : run = "r"
  · subst hrun
    have hword : wordOf SessionLogRecord.lifecycleKey "r" (failedRunLog.filter (isActive ∅)) =
        failedRunLog := by decide +kernel
    rw [hword]
    exact .ended rfl rfl rfl
  · have hkeys : ∀ event ∈ failedRunLog.filter (isActive ∅),
        event.lifecycleKey = some "r" := by decide +kernel
    have hword : wordOf SessionLogRecord.lifecycleKey run (failedRunLog.filter (isActive ∅)) =
        [] := by
      rw [List.eq_nil_iff_forall_not_mem]
      intro event hm
      obtain ⟨hm, hkey⟩ := mem_wordOf.mp hm
      exact hrun (Option.some.inj (hkey.symm.trans (hkeys event hm)))
    rw [hword]
    exact .unknown

/-- A log that starts a failed run again is accepted, with two starts of one run, one of
    them after the terminal record. -/
theorem restarted_run_accepted :
    ∃ proj reduced, reduceEvents toolContracts "s" restartedRunLog = .ok proj ∧
      activeTombstoneTargets toolContracts (trim "s") restartedRunLog = .ok ∅ ∧
      proj.agentRuns["r"]? = some reduced ∧ reduced.state = .running ∧
      ¬ RunLifecycle (restartedRunLog.filter (isActive ∅)) "r" reduced := by
  have hok : (reduceEvents toolContracts "s" restartedRunLog).toOption.map (fun proj =>
      (proj.agentRuns["r"]?).map (·.state)) = some (some .running) := by decide +kernel
  obtain ⟨proj, hevs, hsta⟩ := exists_ok_of_map hok
  obtain ⟨reduced, hred, hrunning⟩ := map_eq_some_iff.mp hsta
  refine ⟨proj, reduced, hevs, by decide +kernel, hred, hrunning, ?_⟩
  intro hlaw
  have hstarts : ((restartedRunLog.filter (isActive ∅)).filter (·.startsRun "r")).length = 2 := by
    decide +kernel
  rw [hlaw.started] at hstarts
  cases hstarts

end Centaeris
