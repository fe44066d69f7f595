import Centaeris.Runtime.Compaction
import Centaeris.Foundation.Pairing

namespace Centaeris

open Foundation Outcome List

/-!
# Where the window is cut
-/

variable {msg : ChatMessage}

section Pairing

variable {sem : Table String ModelMessageSemanticsV1}

/-- An accepted window answers its tool calls at once and in order. -/
def windowMove (sem : Table String ModelMessageSemanticsV1) (msg : ChatMessage) :
    Option (Move String) :=
  match msg.role with
  | .system | .user => some .plain
  | .assistant => (assistantToolCallIds msg sem).toOption.map .opens
  | .tool => (toolResultCallId msg sem).toOption.map .answers

theorem toOption_eq_some_iff {α : Type} {x : Outcome α} {a : α} :
    x.toOption = some a ↔ x = .ok a := by
  cases x <;> simp [Except.toOption]

variable {msg : ChatMessage} {pending : List String}

theorem pairingStep_eq_ok_iff {next : List String} :
    pairingStep sem pending msg = .ok next ↔
      takeMove (windowMove sem msg) pending = some next := by
  simp only [pairingStep, ok_rules, windowMove]
  cases hrole : msg.role with
  | system | user => cases pending <;> simp [takeMove]
  | assistant =>
    simp only [ok_rules]
    cases hcalls : assistantToolCallIds msg sem with
    | error failure => cases pending <;> simp [takeMove, Except.toOption]
    | ok keys => cases pending <;> simp [takeMove, Except.toOption]
  | tool =>
    simp only [ok_rules]
    cases hcall : toolResultCallId msg sem with
    | error failure => cases pending <;> simp [takeMove, Except.toOption]
    | ok key => cases pending <;> simp [takeMove, Except.toOption]

variable {msgs : List ChatMessage}

theorem foldlM_pairingStep_iff :
    msgs.foldlM (pairingStep sem) pending = .ok [] ↔
      Paired (windowMove sem) pending msgs := by
  induction msgs generalizing pending with
  | nil =>
    rw [foldlM_nil, pure_eq_ok]
    constructor
    · rintro rfl
      exact .done
    · rintro ⟨⟩
      rfl
  | cons msg msgs ih =>
    simp only [foldlM_cons, bind_eq_ok, pairingStep_eq_ok_iff, ih, paired_cons_iff]

theorem validateModelContextWindow_iff :
    validateModelContextWindow msgs sem = .ok () ↔
      Paired (windowMove sem) [] msgs := by
  rw [← foldlM_pairingStep_iff]
  simp only [validateModelContextWindow, bind_eq_ok]
  constructor
  · rintro ⟨pending, hrun, hend⟩
    cases pending with
    | nil => exact hrun
    | cons callId pending => simp at hend
  · intro hrun
    exact ⟨[], hrun, rfl⟩

variable {callId : String}

theorem windowMove_of_callId (h : toolResultSemanticsCallId sem msg = some callId) :
    windowMove sem msg = some (.answers callId) := by
  unfold toolResultSemanticsCallId at h
  split at h
  · rename_i hrole
    split at h
    · rename_i hsem
      split at h
      · rename_i hnamed
        cases h
        simp [windowMove, beq_iff_eq.mp hrole, toolResultCallId, hsem, hnamed,
          Except.toOption, pure, Except.pure]
      · cases h
    · cases h
  · cases h

theorem hasToolCall_of_windowMove {keys : List String}
    (h : windowMove sem msg = some (.opens keys)) (hm : callId ∈ keys) :
    assistantSemanticsHasToolCall sem callId msg = true := by
  unfold windowMove at h
  cases hrole : msg.role with
  | system | user | tool => simp [hrole] at h
  | assistant =>
    simp only [hrole, Option.map_eq_some_iff, toOption_eq_some_iff, Move.opens.injEq,
      exists_eq_right] at h
    unfold assistantToolCallIds at h
    split at h
    · obtain rfl := pure_eq_ok.mp h
      cases hm
    · rename_i hsem
      obtain rfl := pure_eq_ok.mp h
      obtain ⟨call, hcall, rfl⟩ := mem_map.mp hm
      simp only [assistantSemanticsHasToolCall, hrole, beq_self_eq_true, hsem, Bool.true_and,
        any_eq_true, beq_iff_eq]
      exact ⟨call, hcall, rfl⟩
    · exact absurd h fail_ne_ok
    · exact absurd h fail_ne_ok

end Pairing

section Cut

variable {msgs : List ChatMessage} {sem : Table String ModelMessageSemanticsV1}

variable {place : Nat}

theorem assistantOfResult_eq_ok {index : Nat}
    (h : assistantOfResult msgs sem msg index = .ok place) :
    ∃ callId front assistant back,
      toolResultSemanticsCallId sem msg = some callId ∧
      msgs.take index = front ++ assistant :: back ∧ place = front.length ∧
      assistantSemanticsHasToolCall sem callId assistant = true ∧
      ∀ later ∈ back, assistantSemanticsHasToolCall sem callId later = false := by
  simp only [assistantOfResult, ok_rules, findAssistantSemanticsForToolCall, Option.map_eq_some_iff]
    at h
  obtain ⟨callId, hcallId, ⟨assistant, found⟩, hfd, rfl⟩ := h
  obtain ⟨front, back, hsp, hplc, hassistant, hback⟩ := lastWhere?_eq_some hfd
  exact ⟨callId, front, assistant, back, hcallId, hsp, hplc, hassistant, hback⟩

variable {pre front back : List ChatMessage}

theorem le_of_assistantOfResult
    (hpair : Paired (windowMove sem) [] (front ++ msg :: back))
    (h : assistantOfResult (pre ++ (front ++ msg :: back)) sem msg
      (pre.length + front.length) = .ok place) : pre.length ≤ place := by
  obtain ⟨callId, lead, assistant, tail, hcallId, hsp, rfl, hassistant, htail⟩ :=
    assistantOfResult_eq_ok h
  have hmove := windowMove_of_callId hcallId
  obtain ⟨opener, hopener, keys, hkeys, hm⟩ : ∃ opener ∈ front, ∃ keys,
      windowMove sem opener = some (.opens keys) ∧ callId ∈ keys := by
    rcases hpair.opened hmove with hnone | hopened
    · cases hnone
    · exact hopened
  have htake : (pre ++ (front ++ msg :: back)).take (pre.length + front.length) =
      pre ++ front := by
    rw [← List.append_assoc, take_left' length_append]
  have hlast : lastWhere? (assistantSemanticsHasToolCall sem callId)
      (pre ++ front) = some (assistant, lead.length) := by
    rw [← htake, hsp]
    exact lastWhere?_split hassistant htail
  exact le_of_lastWhere? ⟨opener, hopener, hasToolCall_of_windowMove hkeys hm⟩ hlast

/-- A cut at which no tool call is open stays where it is. -/
theorem expandToolBoundary_eq {after : List ChatMessage} {split : Nat}
    (hpair : Paired (windowMove sem) [] after)
    (h : expandToolBoundary (pre ++ after) sem pre.length = .ok split) :
    split = pre.length := by
  have hents : (pre ++ after).zipIdx.drop pre.length = after.zipIdx pre.length := by
    rw [zipIdx_append, Nat.zero_add, drop_left' (by simp)]
  rw [expandToolBoundary, hents] at h
  refine foldlM_invariant (fun split => split = pre.length) ?_ rfl h
  rintro split split' ⟨msg, index⟩ hm rfl hstep
  obtain ⟨front, back, rfl, rfl⟩ := exists_split_of_mem_zipIdx hm
  split at hstep
  · simp only [ok_rules] at hstep
    obtain ⟨place, hplc, rfl⟩ := hstep
    exact min_eq_left (le_of_assistantOfResult hpair hplc)
  · exact (pure_eq_ok.mp hstep).symm

theorem windowMove_ne_answers (hrole : msg.role ≠ .tool)
    (key : String) : windowMove sem msg ≠ some (.answers key) := by
  unfold windowMove
  cases hcase : msg.role with
  | system | user => exact nofun
  | tool => exact absurd hcase hrole
  | assistant =>
    show (assistantToolCallIds msg sem).toOption.map Move.opens ≠ _
    cases (assistantToolCallIds msg sem).toOption <;> exact nofun

theorem role_of_reliable
    (h : isReliableToolChainUserAnchor msg = true) : msg.role = .user := by
  simp only [isReliableToolChainUserAnchor, bool_rules] at h
  exact h.1.1

/-- A user message that goes along is the last one before the cut, and results of older batches
    stand in between. -/
def ChainAnchor (msgs : List ChatMessage) (anchor : ChatMessage) : Prop :=
  ∃ older between, msgs = older ++ anchor :: between ∧
    isReliableToolChainUserAnchor anchor = true ∧
    (∀ msg ∈ between, isReliableToolChainUserAnchor msg = false) ∧
    ∃ result ∈ between, result.role = .tool

/-- What a cut leaves behind and keeps, and the user message that goes along. -/
structure LiveTurnCut (sem : Table String ModelMessageSemanticsV1)
    (pre after : List ChatMessage) (causalAnchor : Option ChatMessage) : Prop where
  paired : Paired (windowMove sem) [] after
  head : ∀ first ∈ after.head?,
    isReliableToolChainUserAnchor first = true ∨ first.role = .assistant
  anchor : ∀ anchor ∈ causalAnchor, after ≠ [] ∧ ChainAnchor pre anchor

theorem LiveTurnCut.all (sem : Table String ModelMessageSemanticsV1)
    (msgs : List ChatMessage) : LiveTurnCut sem msgs [] none :=
  ⟨.done, nofun, nofun⟩

theorem originalSplitIndex_cases (msgs : List ChatMessage) :
    originalSplitIndex msgs = msgs.length ∨ ∃ front anchor back,
      msgs = front ++ anchor :: back ∧ originalSplitIndex msgs = front.length ∧
      isReliableToolChainUserAnchor anchor = true ∧
      ∀ msg ∈ back, isReliableToolChainUserAnchor msg = false := by
  unfold originalSplitIndex
  split
  · cases hlast : lastWhere? isReliableToolChainUserAnchor msgs with
    | none => exact .inl rfl
    | some entry =>
      obtain ⟨front, back, hsp, hplc, hanc, hback⟩ := lastWhere?_eq_some hlast
      exact .inr ⟨front, entry.1, back, hsp, hplc, hanc, hback⟩
  · exact .inl rfl

variable {anchor : ChatMessage}

theorem LiveTurnCut.ofAnchor
    (hpair : Paired (windowMove sem) [] (front ++ anchor :: back))
    (hanc : isReliableToolChainUserAnchor anchor = true) :
    LiveTurnCut sem front (anchor :: back) none where
  paired := by
    have hrole : anchor.role ≠ .tool := by
      rw [role_of_reliable hanc]
      exact nofun
    exact (Paired.split (windowMove_ne_answers hrole) hpair).2
  head := by
    rintro first hfst
    cases hfst
    exact .inl hanc
  anchor := nofun

theorem LiveTurnCut.ofBatch {older between rest : List ChatMessage} {assistant : ChatMessage}
    (hpair : Paired (windowMove sem) []
      ((older ++ anchor :: between) ++ assistant :: rest))
    (hassistant : assistant.role = .assistant)
    (hanc : isReliableToolChainUserAnchor anchor = true)
    (hbetween : ∀ msg ∈ between, isReliableToolChainUserAnchor msg = false)
    (hres : ∃ result ∈ between, result.role = .tool) :
    LiveTurnCut sem (older ++ anchor :: between) (assistant :: rest)
      (some anchor) where
  paired := by
    have hrole : assistant.role ≠ .tool := by
      rw [hassistant]
      exact nofun
    exact (Paired.split (windowMove_ne_answers hrole) hpair).2
  head := by
    rintro first hfst
    cases hfst
    exact .inr hassistant
  anchor := by
    rintro _ ⟨⟩
    exact ⟨cons_ne_nil _ _, older, between, rfl, hanc, hbetween, hres⟩

theorem anchoredSplit_cut {start : Nat} {causalAnchor : Option ChatMessage}
    (hpair : Paired (windowMove sem) [] msgs)
    (h : anchoredSplit msgs sem = .ok (start, causalAnchor)) :
    ∃ pre after, msgs = pre ++ after ∧ start = pre.length ∧
      LiveTurnCut sem pre after causalAnchor := by
  have horiginal : ∃ pre after, msgs = pre ++ after ∧
      originalSplitIndex msgs = pre.length ∧
      LiveTurnCut sem pre after none := by
    rcases originalSplitIndex_cases msgs with hall | ⟨front, anchor, back, rfl, hplc, hanc, -⟩
    · exact ⟨msgs, [], (append_nil _).symm, hall, .all _ _⟩
    · exact ⟨front, anchor :: back, rfl, hplc, .ofAnchor hpair hanc⟩
  simp only [anchoredSplit] at h
  split at h
  · rename_i hlive
    simp only [bool_rules] at hlive
    simp only [ok_rules] at h
    obtain ⟨⟨lastTool, lastToolIndex⟩, hlast, latestBatch, hbatch, h⟩ := h
    split at h
    · rename_i hmoved
      simp only [bool_rules, any_eq_true] at hmoved
      simp only [ok_rules] at h
      obtain ⟨-, hres⟩ := h
      cases hres
      -- the chain's user message stands in front of the assistant message of the last result
      obtain ⟨front, anchor, back, hsp, hplc, hanc, hback⟩ :=
        (originalSplitIndex_cases msgs).resolve_left (by omega)
      obtain ⟨callId, lead, assistant, tail, -, htake, rfl, hassistant, -⟩ :=
        assistantOfResult_eq_ok hbatch
      obtain ⟨rest, hrest⟩ : ∃ rest, msgs = lead ++ assistant :: rest := by
        refine ⟨tail ++ msgs.drop lastToolIndex, ?_⟩
        rw [← cons_append, ← List.append_assoc, ← htake, take_append_drop]
      rw [hplc] at hmoved ⊢
      obtain ⟨between, rfl, rfl⟩ := exists_between (hsp.symm.trans hrest) hmoved.1
      have hfd : msgs[front.length]? = some anchor := by
        rw [hsp, getElem?_append_right le_rfl, Nat.sub_self, getElem?_cons_zero]
      have hlead : (msgs.take (front ++ anchor :: between).length).drop (front.length + 1) =
          between := by
        rw [hrest, take_left' rfl, append_cons, drop_left' (by simp)]
      rw [hlead] at hmoved
      rw [hfd]
      subst hrest
      simp only [assistantSemanticsHasToolCall, bool_rules] at hassistant
      exact ⟨_, _, rfl, rfl, .ofBatch hpair hassistant.1 hanc
        (fun msg hm => hback msg (mem_append_left _ hm)) hmoved.2⟩
    · cases pure_eq_ok.mp h
      exact horiginal
  · cases pure_eq_ok.mp h
    exact horiginal

/-- **The cut of a plan.** In an accepted window no tool call is open at the cut. -/
theorem planLiveTurnBoundary_cut {boundary : PromptCompactionBoundaryPlan}
    (hpair : Paired (windowMove sem) [] msgs)
    (h : planLiveTurnBoundary msgs sem = .ok boundary) :
    ∃ pre after, msgs = pre ++ after ∧ boundary.splitIndex = pre.length ∧
      LiveTurnCut sem pre after boundary.causalAnchor := by
  unfold planLiveTurnBoundary at h
  split at h
  · rename_i hemp
    obtain rfl := pure_eq_ok.mp h
    obtain rfl := isEmpty_iff.mp hemp
    exact ⟨[], [], rfl, rfl, .all _ _⟩
  · simp only [ok_rules] at h
    obtain ⟨⟨start, causalAnchor⟩, hanchored, split, hexpanded, -, -, -, -, -, -, rfl⟩ := h
    obtain ⟨pre, after, rfl, rfl, hcut⟩ := anchoredSplit_cut hpair hanchored
    exact ⟨pre, after, rfl, expandToolBoundary_eq hcut.paired hexpanded, hcut⟩

end Cut

end Centaeris
