import Centaeris.Runtime.CompactionWindow

namespace Centaeris

open Foundation List

/-!
# The window as parts of the full list
-/

/-! ### Plans that are ready -/

section Plan

variable {α : Type} {x : Outcome α} {a : α}

theorem orFailed_eq_ok : orFailed x = .ok a ↔ x = .ok a := by
  rcases x with (message | message) | a' <;> simp [orFailed]

theorem orSkipped_eq_ok : orSkipped x = .ok a ↔ x = .ok a := by
  rcases x with (message | message) | a' <;> simp [orSkipped]

variable {texts : AnchorTexts} {session : SessionStateSnapshot} {request : CompactionRequest}
  {plan : PromptCompactionPlan}

/-- What a plan has from the window it cuts. -/
structure PlannedCut (texts : AnchorTexts) (session : SessionStateSnapshot)
    (request : CompactionRequest) (plan : PromptCompactionPlan) (after : List ChatMessage)
    (causalAnchor : Option ChatMessage) : Prop where
  suffix : plan.suffix = after
  first : plan.firstKeptMessageId = after.head?.map (·.messageId)
  reference : plan.causalAnchorReference =
    causalAnchor.map (compactionCausalAnchorReference texts)
  compactionId : plan.compactionId = request.compactionId
  summaryId : ∀ summary, (compactMessage plan summary).messageId =
    "msg:" ++ session.sessionId ++ ":" ++ request.idSuffix ++ ":compact"
  replays : ∀ replay ∈ plan.userReplayMessages, isReplayOf request.compactionId replay = true

theorem planPromptCompaction_cut {window : List ChatMessage}
    (hwin : activeProjectionMessages texts session.messages = (window, []))
    (hpair : Paired (windowMove session.modelSemantics) [] window)
    (h : planPromptCompaction texts session request = .ok plan) :
    ∃ pre after causalAnchor, window = pre ++ after ∧
      LiveTurnCut session.modelSemantics pre after causalAnchor ∧
      PlannedCut texts session request plan after causalAnchor := by
  simp only [planPromptCompaction, Outcome.bind_eq_ok, orFailed_eq_ok, orSkipped_eq_ok,
    exists_unit, skipUnless] at h
  obtain ⟨msgs, hmsgs, beforeTokens, -, pressure, -, -, -, boundary, hboundary, -,
    prefixSemantics, -, ⟨replays, replayTokens⟩, hreplays, -, -, hplan⟩ := h
  obtain rfl : msgs = window := by
    simp only [compactableActiveMessages, materializeContextWindow, hwin, Outcome.ok_rules]
      at hmsgs
    exact hmsgs.2.symm
  obtain ⟨pre, after, rfl, hsp, hcut⟩ := planLiveTurnBoundary_cut hpair hboundary
  refine ⟨pre, after, boundary.causalAnchor, rfl, hcut, ?_⟩
  have haft : (pre ++ after).drop boundary.splitIndex = after := by
    rw [hsp, drop_left' rfl]
  rw [haft] at hplan
  cases hplan
  refine ⟨rfl, rfl, rfl, rfl, fun summary => by simp [compactMessage, CompactionRequest.idSuffix,
    String.append_assoc], ?_⟩
  simp only [selectUserReplayMessages, Outcome.ok_rules, Prod.mk.injEq] at hreplays
  obtain ⟨-, -, rfl, -⟩ := hreplays
  intro replay hm
  obtain ⟨entry, -, rfl⟩ := mem_map.mp hm
  simp only [isReplayOf, isPromptCompactionUserReplay, replayMessage, replayMetadata,
    compactionIdKey, messageSemanticKindKey, Table.getElem?_insert, String.reduceEq, reduceIte,
    beq_self_eq_true, Bool.and_self]

end Plan

/-! ### The shape of a window -/

/-- The window is what the last compaction wrote, the user message it took along, and a tail of the
    full list (`WindowShape.append`). -/
structure WindowShape (texts : AnchorTexts) (msgs front kept lead : List ChatMessage)
    (anchor : Option ChatMessage) : Prop where
  messages_eq : msgs = front ++ kept
  window : activeProjectionMessages texts msgs =
    (lead ++ anchor.toList ++ kept.filter unmarked, [])
  moved : movedAnchor? texts msgs = anchor
  lead_mem : ∀ message ∈ lead, message ∈ msgs
  lead_role : ∀ message ∈ lead, message.role = .system ∨ message.role = .user
  lead_unreliable : ∀ message ∈ lead, isReliableToolChainUserAnchor message = false
  chain : ∀ message ∈ anchor, ChainAnchor front message

section Shape

variable {texts : AnchorTexts} {msgs front kept lead rest : List ChatMessage}
  {anchor : Option ChatMessage}

theorem WindowShape.empty (texts : AnchorTexts) : WindowShape texts [] [] [] [] none :=
  ⟨rfl, rfl, rfl, nofun, nofun, nofun, nofun⟩

variable {message : ChatMessage}

/-- A new message goes to the end of the kept ones. -/
theorem WindowShape.append (h : WindowShape texts msgs front kept lead anchor)
    (hunmarked : unmarked message = true) (hfr : message.messageId ∉ msgs.map (·.messageId)) :
    WindowShape texts (msgs ++ [message]) front (kept ++ [message]) lead anchor := by
  obtain ⟨hwin, hmoved⟩ := activeProjectionMessages_append hunmarked hfr h.window
  refine ⟨?_, ?_, hmoved.trans h.moved, ?_, h.lead_role, h.lead_unreliable, h.chain⟩
  · rw [h.messages_eq, List.append_assoc]
  · rw [hwin, filter_append]
    simp [hunmarked]
  · intro other hoth
    exact mem_append_left _ (h.lead_mem other hoth)

/-- The window has only messages of the session. -/
theorem WindowShape.window_subset (h : WindowShape texts msgs front kept lead anchor) :
    lead ++ anchor.toList ++ kept.filter unmarked ⊆ msgs := by
  intro message hm
  rcases mem_append.mp hm with hm | hm
  · rcases mem_append.mp hm with hm | hm
    · exact h.lead_mem message hm
    · obtain ⟨older, between, rfl, -⟩ := h.chain message (Option.mem_toList.mp hm)
      rw [h.messages_eq]
      simp
  · rw [h.messages_eq]
    exact mem_append_right _ (mem_of_mem_filter hm)

/-! Chain anchors of the window stand at their own place in the full list. -/

variable {pre : List ChatMessage}

/-- An anchor stays one while no reliable message follows. -/
theorem ChainAnchor.append {more : List ChatMessage} (h : ChainAnchor pre message)
    (hmore : ∀ other ∈ more, isReliableToolChainUserAnchor other = false) :
    ChainAnchor (pre ++ more) message := by
  obtain ⟨older, between, rfl, hreliable, hbetween, result, hres, hrole⟩ := h
  refine ⟨older, between ++ more, by simp, hreliable, ?_, result,
    mem_append_left _ hres, hrole⟩
  intro other hoth
  rcases mem_append.mp hoth with hoth | hoth
  · exact hbetween other hoth
  · exact hmore other hoth

variable {between : List ChatMessage}

/-- Marked messages are no reliable anchors. -/
theorem unreliable_of_filter
    (h : ∀ other ∈ between.filter unmarked, isReliableToolChainUserAnchor other = false) :
    ∀ other ∈ between, isReliableToolChainUserAnchor other = false := by
  intro other hoth
  cases hmark : unmarked other with
  | false => exact not_reliable_of_not_unmarked hmark
  | true => exact h other (mem_filter.mpr ⟨hoth, hmark⟩)

/-- An anchor among the unmarked messages is one among all. -/
theorem ChainAnchor.of_filter {older kept : List ChatMessage}
    (hsp : kept.filter unmarked = older ++ message :: between)
    (hreliable : isReliableToolChainUserAnchor message = true)
    (hbetween : ∀ other ∈ between, isReliableToolChainUserAnchor other = false)
    (hres : ∃ result ∈ between, result.role = .tool) :
    ChainAnchor (pre ++ kept) message := by
  obtain ⟨first, second, rfl, -, rfl⟩ := exists_split_of_filter hsp
  obtain ⟨result, hm, hrole⟩ := hres
  exact ⟨pre ++ first, second, by simp, hreliable, unreliable_of_filter hbetween, result,
    mem_of_mem_filter hm, hrole⟩

/-- An anchor in the window is one in the session. -/
theorem WindowShape.chainAnchor (h : WindowShape texts msgs front (kept ++ rest) lead anchor)
    (hchain : ChainAnchor (lead ++ anchor.toList ++ kept.filter unmarked) message) :
    ChainAnchor (front ++ kept) message := by
  obtain ⟨older, between, hsp, hreliable, hbetween, hres⟩ := hchain
  rw [List.append_assoc] at hsp
  obtain ⟨pre, -, hsp⟩ := exists_split_after hsp hreliable h.lead_unreliable
  cases hanc : anchor with
  | none =>
    rw [hanc, Option.toList_none, nil_append] at hsp
    exact .of_filter hsp hreliable hbetween hres
  | some moved =>
    rw [hanc, Option.toList_some, singleton_append] at hsp
    cases pre with
    | nil =>
      -- the message that goes along was taken along before
      rw [nil_append] at hsp
      cases hsp
      exact (h.chain message hanc).append (unreliable_of_filter hbetween)
    | cons first pre =>
      rw [cons_append, List.cons.injEq] at hsp
      exact .of_filter hsp.2 hreliable hbetween hres

/-- A cut of the window is a cut of the session. -/
theorem WindowShape.cut (h : WindowShape texts msgs front kept lead anchor)
    {rest : List ChatMessage} {first : ChatMessage}
    (hsp : lead ++ anchor.toList ++ kept.filter unmarked = pre ++ first :: rest)
    (hfst : isReliableToolChainUserAnchor first = true ∨ first.role = .assistant) :
    (anchor = some first ∧ rest = kept.filter unmarked) ∨
      ∃ older newer, kept = older ++ first :: newer ∧
        pre = lead ++ anchor.toList ++ older.filter unmarked ∧
        rest = newer.filter unmarked := by
  have hlead : ∀ message ∈ lead,
      (isReliableToolChainUserAnchor message || message.role == .assistant) = false := by
    intro message hm
    rcases h.lead_role message hm with hrole | hrole <;>
      simp [h.lead_unreliable message hm, hrole]
  rw [List.append_assoc] at hsp
  obtain ⟨between, rfl, hbehind⟩ := exists_split_after hsp (by simpa using hfst) hlead
  have hkept : ∀ older, kept.filter unmarked = older ++ first :: rest →
      ∃ older' newer, kept = older' ++ first :: newer ∧ older = older'.filter unmarked ∧
        rest = newer.filter unmarked := by
    intro older heq
    obtain ⟨older', newer, hkept, holder, hnewer⟩ := exists_split_of_filter heq
    exact ⟨older', newer, hkept, holder.symm, hnewer.symm⟩
  cases hanc : anchor with
  | none =>
    rw [hanc, Option.toList_none, nil_append] at hbehind
    obtain ⟨older, newer, hkept, rfl, hrest⟩ := hkept between hbehind
    exact .inr ⟨older, newer, hkept, by simp, hrest⟩
  | some moved =>
    rw [hanc, Option.toList_some, singleton_append] at hbehind
    cases between with
    | nil =>
      rw [nil_append, List.cons.injEq] at hbehind
      exact .inl ⟨congrArg some hbehind.1, hbehind.2.symm⟩
    | cons head between =>
      rw [cons_append, List.cons.injEq] at hbehind
      obtain ⟨older, newer, hkept, rfl, hrest⟩ := hkept between hbehind.2
      exact .inr ⟨older, newer, hkept, by simp [hbehind.1], hrest⟩

end Shape

section CommitShape

variable {texts : AnchorTexts} {session : SessionStateSnapshot} {request : CompactionRequest}
  {plan : PromptCompactionPlan} {summary : String} {pre after : List ChatMessage}
  {causalAnchor : Option ChatMessage}

def committed (plan : PromptCompactionPlan) (summary : String) : List ChatMessage :=
  compactMessage plan summary :: plan.userReplayMessages

section

variable (hplan : PlannedCut texts session request plan after causalAnchor)

include hplan

/-- What a compaction adds is spoken by the system or the user. -/
theorem committed_role :
    ∀ message ∈ committed plan summary, message.role = .system ∨ message.role = .user := by
  intro message hm
  rcases mem_cons.mp hm with rfl | hm
  · exact .inl rfl
  · have hreplay := hplan.replays message hm
    simp only [isReplayOf, isPromptCompactionUserReplay, bool_rules] at hreplay
    exact .inr hreplay.1.1

/-- What a compaction adds is marked. -/
theorem committed_marked :
    ∀ message ∈ committed plan summary, unmarked message = false := by
  intro message hm
  rcases mem_cons.mp hm with rfl | hm
  · simp [unmarked]
  · exact (isReplayOf_marked (hplan.replays message hm)).2

theorem PlannedCut.filter_committed (summary : String) :
    (committed plan summary).filter unmarked = [] := by
  rw [filter_eq_nil_iff]
  intro message hm
  simp [committed_marked hplan message hm]

theorem PlannedCut.filter_replays :
    plan.userReplayMessages.filter unmarked = [] := by
  rw [filter_eq_nil_iff]
  intro message hm
  simp [(isReplayOf_marked (hplan.replays message hm)).2]

end

variable {front : List ChatMessage}

/-- The shape after a compaction, from where its first kept message stands. -/
theorem WindowShape.ofCommitted {msgs kept : List ChatMessage} (suffixStart : Nat)
    (hplan : PlannedCut texts session request plan after causalAnchor)
    (hnew : ∀ message ∈ msgs, isReplayOf request.compactionId message = false)
    (hmsgs : msgs ++ committed plan summary = front ++ kept)
    (hkept : (msgs.drop suffixStart).filter unmarked = kept.filter unmarked)
    (hstart : suffixStartOf (msgs ++ committed plan summary) (compactMessage plan summary)
      msgs.length = (suffixStart, []))
    (hanc : referencedCausalAnchor texts (msgs ++ committed plan summary)
      (compactMessage plan summary) msgs.length suffixStart = .ok causalAnchor)
    (hchain : ∀ message ∈ causalAnchor, ChainAnchor front message) :
    WindowShape texts (msgs ++ committed plan summary) front kept (committed plan summary)
      causalAnchor := by
  have hid : (compactMessage plan summary).metadata[compactionIdKey]? =
      some request.compactionId := by
    rw [compactMessage_compactionId, hplan.compactionId]
  have hsum := compactMessage_isSummary plan summary
  obtain ⟨hclean, hmoved⟩ := activeProjectionMessages_eq
    (lastWhere?_committed hsum hplan.replays) hstart hanc
  have hwin : (activeProjectionMessages texts (msgs ++ committed plan summary)).1 =
      committed plan summary ++ causalAnchor.toList ++ kept.filter unmarked := by
    rw [← hkept, ← hmoved]
    exact (activeProjectionMessages_committed hsum hid hplan.replays hnew hstart).trans
      (by simp [committed])
  have hdiagnostics : (activeProjectionMessages texts (msgs ++ committed plan summary)).2 =
      [] := by
    rw [committed, hclean]
  refine ⟨hmsgs, Prod.ext hwin hdiagnostics, hmoved, ?_, committed_role hplan, ?_, hchain⟩
  · exact fun message hm => mem_append_right _ hm
  · intro message hm
    exact not_reliable_of_not_unmarked (committed_marked hplan message hm)

/-- A commit that keeps nothing leaves such a window again. -/
theorem WindowShape.commit_nothing {msgs : List ChatMessage}
    (hplan : PlannedCut texts session request plan [] none)
    (hnew : ∀ message ∈ msgs, isReplayOf request.compactionId message = false) :
    WindowShape texts (msgs ++ committed plan summary)
      (msgs ++ [compactMessage plan summary]) plan.userReplayMessages
      (committed plan summary) none := by
  refine .ofCommitted (msgs.length + 1) hplan hnew (by simp [committed]) ?_ ?_ ?_ nofun
  · rw [hplan.filter_replays, drop_eq_nil_of_le (Nat.le_succ _), filter_nil]
  · simp [suffixStartOf, hplan.first]
  · simp [referencedCausalAnchor, hplan.reference]

/-- So does one that keeps the messages from one of the window on. -/
theorem WindowShape.commit_kept {older newer lead rest : List ChatMessage} {first : ChatMessage}
    {anchor : Option ChatMessage}
    (h : WindowShape texts (front ++ (older ++ first :: newer)) front (older ++ first :: newer)
      lead anchor)
    (hcut : LiveTurnCut session.modelSemantics (lead ++ anchor.toList ++ older.filter unmarked)
      (first :: rest) causalAnchor)
    (hplan : PlannedCut texts session request plan (first :: rest) causalAnchor)
    (hnew : ∀ message ∈ front ++ (older ++ first :: newer),
      isReplayOf request.compactionId message = false)
    (hids : ((front ++ (older ++ first :: newer) ++ committed plan summary).map
      (·.messageId)).Nodup) :
    WindowShape texts (front ++ (older ++ first :: newer) ++ committed plan summary)
      (front ++ older) (first :: newer ++ committed plan summary) (committed plan summary)
      causalAnchor := by
  have hmsgs : front ++ (older ++ first :: newer) ++ committed plan summary =
      (front ++ older) ++ first :: (newer ++ committed plan summary) := by
    simp
  have hchain : ∀ message ∈ causalAnchor, ChainAnchor (front ++ older) message := by
    intro message hm
    exact h.chainAnchor (hcut.anchor message hm).2
  refine .ofCommitted (front ++ older).length hplan hnew hmsgs ?_ ?_ ?_ hchain
  · rw [← List.append_assoc, drop_left' rfl, filter_append, hplan.filter_committed, append_nil]
  · rw [hmsgs] at hids ⊢
    exact suffixStartOf_found hids (by simp [hplan.first])
  · cases causalAnchor with
    | none => simp [referencedCausalAnchor, hplan.reference]
    | some message =>
      obtain ⟨oldest, between, heq, hreliable, hbetween, -⟩ := hchain message rfl
      have hwhole : front ++ (older ++ first :: newer) ++ committed plan summary =
          oldest ++ message :: (between ++ first :: (newer ++ committed plan summary)) := by
        rw [hmsgs, heq]
        simp
      have hplc : oldest.length < (front ++ (older ++ first :: newer)).length := by
        have hlen := congrArg List.length heq
        simp only [length_append, length_cons] at hlen ⊢
        omega
      rw [hwhole] at hids
      rw [hwhole, heq]
      exact referencedCausalAnchor_found hids (by simp [hplan.reference]) hreliable hbetween hplc

/-- A commit that begins with the user message that was taken along leaves another window. -/
theorem window_ne_of_moved (texts : AnchorTexts) {kept : List ChatMessage} {first : ChatMessage}
    (hplan : PlannedCut texts session request plan (first :: kept.filter unmarked) causalAnchor)
    (hchain : ChainAnchor front first)
    (hnew : ∀ message ∈ front ++ kept, isReplayOf request.compactionId message = false)
    (hids : ((front ++ kept ++ committed plan summary).map (·.messageId)).Nodup) :
    (activeProjectionMessages texts (front ++ kept ++ committed plan summary)).1 ≠
      committed plan summary ++
        (movedAnchor? texts (front ++ kept ++ committed plan summary)).toList ++ plan.suffix := by
  obtain ⟨older, gap, rfl, hreliable, -, result, hres, hrole⟩ := hchain
  have hid : (compactMessage plan summary).metadata[compactionIdKey]? =
      some request.compactionId := by
    rw [compactMessage_compactionId, hplan.compactionId]
  have hmsgs : older ++ first :: gap ++ kept ++ committed plan summary =
      older ++ first :: (gap ++ kept ++ committed plan summary) := by
    simp
  have hstart : suffixStartOf (older ++ first :: gap ++ kept ++ committed plan summary)
      (compactMessage plan summary) (older ++ first :: gap ++ kept).length =
      (older.length, []) := by
    rw [hmsgs] at hids ⊢
    exact suffixStartOf_found hids (by simp [hplan.first])
  have hdrop : (older ++ first :: gap ++ kept).drop older.length = first :: (gap ++ kept) := by
    rw [List.append_assoc, drop_left' rfl, cons_append]
  intro heq
  have hwin : (activeProjectionMessages texts
      (older ++ first :: gap ++ kept ++ committed plan summary)).1 = _ :=
    activeProjectionMessages_committed (compactMessage_isSummary plan summary) hid hplan.replays
      hnew hstart
  have hsuffix : first :: (gap.filter unmarked ++ kept.filter unmarked) =
      first :: kept.filter unmarked := by
    rw [heq, hplan.suffix, hdrop, filter_cons, unmarked_of_reliable hreliable,
      filter_append] at hwin
    simpa [committed] using hwin.symm
  have hnone : gap.filter unmarked = [] := by
    simpa using hsuffix
  have hback : result ∈ gap.filter unmarked :=
    mem_filter.mpr ⟨hres, unmarked_of_role (.inr hrole)⟩
  rw [hnone] at hback
  cases hback

end CommitShape

end Centaeris
