import Centaeris.Runtime.CompactionBoundary

namespace Centaeris

open Foundation List

/-!
# The window after an append and after a commit

The window is cut out of the full list of messages each time.
-/

/-! ### Kinds of messages -/

/-- A message that a compaction did not write. -/
def unmarked (msg : ChatMessage) : Bool :=
  !isContextCompactionSummary msg && !isPromptCompactionUserReplay msg

variable {msg : ChatMessage}

theorem unmarked_of_reliable (h : isReliableToolChainUserAnchor msg = true) :
    unmarked msg = true := by
  have hrole := role_of_reliable h
  simp only [isReliableToolChainUserAnchor, bool_rules] at h
  simp [unmarked, isContextCompactionSummary, isPromptCompactionUserReplay, hrole, h.1.2]

theorem unmarked_of_role (h : msg.role = .assistant ∨ msg.role = .tool) :
    unmarked msg = true := by
  rcases h with h | h <;>
    simp [unmarked, isContextCompactionSummary, isPromptCompactionUserReplay, h]

theorem not_reliable_of_not_unmarked (h : unmarked msg = false) :
    isReliableToolChainUserAnchor msg = false := by
  by_contra hreliable
  rw [unmarked_of_reliable (by simpa using hreliable)] at h
  cases h

section Written

variable (plan : PromptCompactionPlan) (summary : String)

theorem buildCompactionMetadata_lookups :
    (buildCompactionMetadata plan)["kind"]? = some contextCompactionKind ∧
    (buildCompactionMetadata plan)[compactionIdKey]? = some plan.compactionId ∧
    (buildCompactionMetadata plan)[firstKeptMessageIdKey]? = plan.firstKeptMessageId ∧
    (buildCompactionMetadata plan)[causalAnchorReferenceKey]? = plan.causalAnchorReference := by
  unfold buildCompactionMetadata
  cases plan.causalAnchorReference <;> cases plan.firstKeptMessageId <;>
    simp only [Table.getElem?_insert, causalAnchorReferenceKey, firstKeptMessageIdKey,
      compactionIdKey, String.reduceEq, reduceIte, Table.getElem?_empty, and_self]

@[simp] theorem compactMessage_isSummary :
    isContextCompactionSummary (compactMessage plan summary) = true := by
  simp only [isContextCompactionSummary, compactMessage, (buildCompactionMetadata_lookups plan).1,
    beq_self_eq_true, Bool.and_self]

@[simp] theorem compactMessage_compactionId :
    (compactMessage plan summary).metadata[compactionIdKey]? = some plan.compactionId :=
  (buildCompactionMetadata_lookups plan).2.1

@[simp] theorem compactMessage_firstKept :
    (compactMessage plan summary).metadata[firstKeptMessageIdKey]? = plan.firstKeptMessageId :=
  (buildCompactionMetadata_lookups plan).2.2.1

@[simp] theorem compactMessage_reference :
    (compactMessage plan summary).metadata[causalAnchorReferenceKey]? =
      plan.causalAnchorReference :=
  (buildCompactionMetadata_lookups plan).2.2.2

end Written

/-- A user message that a compaction with the given id repeats. -/
def isReplayOf (compactionId : String) (msg : ChatMessage) : Bool :=
  isPromptCompactionUserReplay msg &&
    msg.metadata[compactionIdKey]? == some compactionId

theorem isReplayOf_marked {compactionId : String} (h : isReplayOf compactionId msg = true) :
    isContextCompactionSummary msg = false ∧ unmarked msg = false := by
  simp only [isReplayOf, Bool.and_eq_true] at h
  have hrole : msg.role = .user := by
    have := h.1
    simp only [isPromptCompactionUserReplay, bool_rules] at this
    exact this.1
  simp [unmarked, isContextCompactionSummary, hrole, h.1]

/-! ### The parts of a window -/

/-- The user message that the last summary takes along. -/
def movedAnchor? (texts : AnchorTexts) (msgs : List ChatMessage) : Option ChatMessage :=
  match lastWhere? isContextCompactionSummary msgs with
  | none => none
  | some (summary, summaryIndex) =>
    match referencedCausalAnchor texts msgs summary summaryIndex
        (suffixStartOf msgs summary summaryIndex).1 with
    | .ok anchor => anchor
    | .error _ => none

/-- The replays of the compaction that wrote a summary. -/
def replaysOf (msgs : List ChatMessage) (summary : ChatMessage) : List ChatMessage :=
  msgs.filter fun msg => isPromptCompactionUserReplay msg &&
    msg.metadata[compactionIdKey]? == summary.metadata[compactionIdKey]?

section Parts

variable {texts : AnchorTexts} {msgs window : List ChatMessage} {summary : ChatMessage}
  {summaryIndex suffixStart : Nat}

variable (hlast : lastWhere? isContextCompactionSummary msgs = some (summary, summaryIndex))

include hlast

theorem activeProjectionMessages_window :
    (activeProjectionMessages texts msgs).1 = summary :: (replaysOf msgs summary ++
      (movedAnchor? texts msgs).toList ++
      (msgs.drop (suffixStartOf msgs summary summaryIndex).1).filter unmarked) := by
  simp only [activeProjectionMessages, movedAnchor?, hlast]
  cases referencedCausalAnchor texts msgs summary summaryIndex
      (suffixStartOf msgs summary summaryIndex).1 <;> rfl

theorem activeProjectionMessages_eq {anchor : Option ChatMessage}
    (hstart : suffixStartOf msgs summary summaryIndex = (suffixStart, []))
    (hanc : referencedCausalAnchor texts msgs summary summaryIndex suffixStart =
      .ok anchor) :
    activeProjectionMessages texts msgs = (summary :: (replaysOf msgs summary ++
      anchor.toList ++ (msgs.drop suffixStart).filter unmarked), []) ∧
      movedAnchor? texts msgs = anchor := by
  constructor
  · simp only [activeProjectionMessages, hlast, hstart, hanc]
    rfl
  · simp only [movedAnchor?, hlast, hstart, hanc]

theorem exists_parts_of_activeProjectionMessages
    (h : activeProjectionMessages texts msgs = (window, [])) :
    ∃ suffixStart anchor,
      suffixStartOf msgs summary summaryIndex = (suffixStart, []) ∧
      referencedCausalAnchor texts msgs summary summaryIndex suffixStart = .ok anchor := by
  simp only [activeProjectionMessages, hlast, Prod.mk.injEq, append_eq_nil_iff] at h
  obtain ⟨-, hmissing, hconflicts⟩ := h
  cases hanc : referencedCausalAnchor texts msgs summary summaryIndex
      (suffixStartOf msgs summary summaryIndex).1 with
  | error reason => simp [hanc] at hconflicts
  | ok anchor => exact ⟨_, anchor, Prod.ext rfl hmissing, hanc⟩

end Parts

/-! ### Where the first kept message and the anchor are found -/

section Found

variable {texts : AnchorTexts} {msgs front back : List ChatMessage}
  {msg anchor summary : ChatMessage} {summaryIndex suffixStart : Nat}

section

variable (hids : ((front ++ msg :: back).map (·.messageId)).Nodup)

include hids

/-- When ids are distinct, a message's id is found at its place only. -/
theorem messageId_ne_of_nodup :
    (∀ other ∈ front, other.messageId ≠ msg.messageId) ∧
      ∀ other ∈ back, other.messageId ≠ msg.messageId := by
  rw [map_append, map_cons, nodup_append, nodup_cons] at hids
  obtain ⟨-, ⟨hback, -⟩, hfront⟩ := hids
  constructor
  · intro other hoth
    exact hfront _ (mem_map_of_mem hoth) _ mem_cons_self
  · intro other hoth heq
    exact hback (heq ▸ mem_map_of_mem hoth)

theorem findIdx?_messageId :
    (front ++ msg :: back).findIdx? (·.messageId == msg.messageId) =
      some front.length := by
  apply findIdx?_split
  · exact beq_self_eq_true _
  · intro other hoth
    exact beq_eq_false_iff_ne.mpr ((messageId_ne_of_nodup hids).1 other hoth)

theorem filter_zipIdx_messageId :
    (front ++ msg :: back).zipIdx.filter (·.1.messageId == msg.messageId) =
      [(msg, front.length)] := by
  obtain ⟨hfront, hback⟩ := messageId_ne_of_nodup hids
  have hnone : ∀ (others : List ChatMessage) (start : Nat),
      (∀ other ∈ others, other.messageId ≠ msg.messageId) →
      (others.zipIdx start).filter (·.1.messageId == msg.messageId) = [] := by
    intro others start hothers
    rw [filter_eq_nil_iff]
    rintro ⟨other, place⟩ hent
    have hoth : other ∈ others := fst_mem_of_mem_zipIdx hent
    simpa using hothers other hoth
  rw [zipIdx_append, zipIdx_cons, filter_append, filter_cons,
    hnone front _ hfront, hnone back _ hback]
  simp

/-- When ids are distinct, both are found where they stand. -/
theorem suffixStartOf_found
    (hfst : summary.metadata[firstKeptMessageIdKey]? = some msg.messageId) :
    suffixStartOf (front ++ msg :: back) summary summaryIndex = (front.length, []) := by
  simp only [suffixStartOf, hfst, findIdx?_messageId hids]

end

theorem referencedCausalAnchor_found {older between : List ChatMessage}
    (hids : ((older ++ anchor :: (between ++ back)).map (·.messageId)).Nodup)
    (href : summary.metadata[causalAnchorReferenceKey]? =
      some (compactionCausalAnchorReference texts anchor))
    (hanc : isReliableToolChainUserAnchor anchor = true)
    (hbetween : ∀ msg ∈ between, isReliableToolChainUserAnchor msg = false)
    (hidx : older.length < summaryIndex) :
    referencedCausalAnchor texts (older ++ anchor :: (between ++ back)) summary summaryIndex
      (older ++ anchor :: between).length = .ok (some anchor) := by
  have hgap : ((older ++ anchor :: (between ++ back)).take
      (older ++ anchor :: between).length).drop (older.length + 1) = between := by
    rw [← cons_append, ← List.append_assoc, take_left' rfl, append_cons, drop_left' (by simp)]
  have hnone : between.any isReliableToolChainUserAnchor = false := by
    simpa using hbetween
  simp only [referencedCausalAnchor, href, compactionCausalAnchorReference,
    texts.decode_encode, bne_self_eq_false, filter_zipIdx_messageId hids, hgap, hnone, hanc]
  simp [hidx]

end Found

/-! ### Appends -/

section Append

variable {texts : AnchorTexts} {msgs : List ChatMessage} {msg summary : ChatMessage}
  {summaryIndex suffixStart : Nat}

theorem suffixStartOf_append (hidx : summaryIndex < msgs.length)
    (h : suffixStartOf msgs summary summaryIndex = (suffixStart, [])) :
    suffixStartOf (msgs ++ [msg]) summary summaryIndex = (suffixStart, []) ∧
      suffixStart ≤ msgs.length := by
  unfold suffixStartOf at h ⊢
  cases hfst : summary.metadata[firstKeptMessageIdKey]? with
  | none =>
    simp only [hfst, Prod.mk.injEq, and_true] at h
    exact ⟨by rw [h], by omega⟩
  | some firstKept =>
    simp only [hfst] at h ⊢
    cases hfd : msgs.findIdx? (·.messageId == firstKept) with
    | none => simp [hfd] at h
    | some index =>
      simp only [hfd, Prod.mk.injEq, and_true] at h
      subst h
      have hlt : index < msgs.length := (findIdx?_eq_some_iff_getElem.mp hfd).1
      rw [findIdx?_append, hfd]
      exact ⟨rfl, hlt.le⟩

theorem referencedCausalAnchor_append {anchor : Option ChatMessage}
    (hfr : msg.messageId ∉ msgs.map (·.messageId))
    (hstart : suffixStart ≤ msgs.length)
    (h : referencedCausalAnchor texts msgs summary summaryIndex suffixStart = .ok anchor) :
    referencedCausalAnchor texts (msgs ++ [msg]) summary summaryIndex suffixStart =
      .ok anchor := by
  unfold referencedCausalAnchor at h ⊢
  cases hraw : summary.metadata[causalAnchorReferenceKey]? with
  | none => simpa [hraw] using h
  | some raw =>
    simp only [hraw] at h ⊢
    cases hdec : texts.decode raw with
    | none => simp [hdec] at h
    | some reference =>
      simp only [hdec] at h ⊢
      have hne : msg.messageId ≠ reference.messageId := by
        intro heq
        have hnone : msgs.zipIdx.filter (·.1.messageId == reference.messageId) = [] := by
          rw [filter_eq_nil_iff]
          rintro ⟨other, place⟩ hent hoth
          have hm : other ∈ msgs := fst_mem_of_mem_zipIdx hent
          rw [beq_iff_eq, ← heq] at hoth
          exact hfr (hoth ▸ mem_map_of_mem hm)
        rw [hnone] at h
        split at h <;> cases h
      have hfd : (msgs ++ [msg]).zipIdx.filter
          (·.1.messageId == reference.messageId) =
          msgs.zipIdx.filter (·.1.messageId == reference.messageId) := by
        rw [zipIdx_append, filter_append]
        simp [hne]
      rw [hfd, take_append_of_le_length hstart]
      exact h

/-- An appended message comes at the end of the window. -/
theorem activeProjectionMessages_append {window : List ChatMessage}
    (hunmarked : unmarked msg = true) (hfr : msg.messageId ∉ msgs.map (·.messageId))
    (h : activeProjectionMessages texts msgs = (window, [])) :
    activeProjectionMessages texts (msgs ++ [msg]) = (window ++ [msg], []) ∧
      movedAnchor? texts (msgs ++ [msg]) = movedAnchor? texts msgs := by
  have hkind : isContextCompactionSummary msg = false ∧
      isPromptCompactionUserReplay msg = false := by
    simpa [unmarked] using hunmarked
  cases hlast : lastWhere? isContextCompactionSummary msgs with
  | none =>
    simp only [activeProjectionMessages, hlast] at h
    cases h
    have hnone : ∀ other ∈ msgs ++ [msg], isContextCompactionSummary other = false := by
      intro other hoth
      rcases mem_append_last.mp hoth with hoth | rfl
      · exact lastWhere?_eq_none_iff.mp hlast other hoth
      · exact hkind.1
    refine ⟨activeProjectionMessages_of_no_summary texts hnone, ?_⟩
    simp only [movedAnchor?, hlast, lastWhere?_eq_none_iff.mpr hnone]
  | some entry =>
    obtain ⟨summary, summaryIndex⟩ := entry
    obtain ⟨front, back, rfl, rfl, hsum, hback⟩ := lastWhere?_eq_some hlast
    have hlast' : lastWhere? isContextCompactionSummary ((front ++ summary :: back) ++ [msg]) =
        some (summary, front.length) := by
      rw [List.append_assoc, cons_append]
      apply lastWhere?_split hsum
      intro other hoth
      rcases mem_append_last.mp hoth with hoth | rfl
      · exact hback other hoth
      · exact hkind.1
    obtain ⟨suffixStart, anchor, hstart, hanc⟩ :=
      exists_parts_of_activeProjectionMessages hlast h
    have hidx : front.length < (front ++ summary :: back).length := by simp
    obtain ⟨hstart', hle⟩ := suffixStartOf_append hidx hstart
    have hanc' := referencedCausalAnchor_append hfr hle hanc
    obtain ⟨hwin, hmoved⟩ := activeProjectionMessages_eq hlast hstart hanc
    obtain ⟨hwin', hmoved'⟩ := activeProjectionMessages_eq hlast' hstart' hanc'
    rw [hwin] at h
    cases h
    have hreplays : replaysOf ((front ++ summary :: back) ++ [msg]) summary =
        replaysOf (front ++ summary :: back) summary := by
      rw [replaysOf, filter_append]
      simp [replaysOf, hkind.2]
    refine ⟨?_, hmoved'.trans hmoved.symm⟩
    rw [hwin', hreplays, drop_append_of_le_length hle, filter_append]
    simp [hunmarked]

end Append

/-! ### Commits -/

section Commit

variable {texts : AnchorTexts} {msgs replays : List ChatMessage} {summary : ChatMessage}
  {compactionId : String} {suffixStart : Nat}

theorem not_replay_of_summary (h : isContextCompactionSummary summary = true) :
    isPromptCompactionUserReplay summary = false := by
  simp only [isContextCompactionSummary, bool_rules] at h
  simp [isPromptCompactionUserReplay, h.1]

theorem lastWhere?_committed (hsum : isContextCompactionSummary summary = true)
    (hreplays : ∀ replay ∈ replays, isReplayOf compactionId replay = true) :
    lastWhere? isContextCompactionSummary (msgs ++ summary :: replays) =
      some (summary, msgs.length) :=
  lastWhere?_split hsum fun replay hreplay => (isReplayOf_marked (hreplays replay hreplay)).1

/-- After a commit the window is the summary, its replays, the user message that goes along, and
    what comes after the place of the first kept message. -/
theorem activeProjectionMessages_committed (hsum : isContextCompactionSummary summary = true)
    (hid : summary.metadata[compactionIdKey]? = some compactionId)
    (hreplays : ∀ replay ∈ replays, isReplayOf compactionId replay = true)
    (hnew : ∀ msg ∈ msgs, isReplayOf compactionId msg = false)
    (hstart : suffixStartOf (msgs ++ summary :: replays) summary msgs.length =
      (suffixStart, [])) :
    (activeProjectionMessages texts (msgs ++ summary :: replays)).1 =
      summary :: (replays ++ (movedAnchor? texts (msgs ++ summary :: replays)).toList ++
        (msgs.drop suffixStart).filter unmarked) := by
  have hlast := @lastWhere?_committed msgs replays summary compactionId hsum hreplays
  have hfd : replaysOf (msgs ++ summary :: replays) summary = replays := by
    have hold : msgs.filter (isReplayOf compactionId) = [] := by
      rw [filter_eq_nil_iff]
      intro msg hm
      simp [hnew msg hm]
    have hall : replays.filter (isReplayOf compactionId) = replays :=
      filter_eq_self.mpr hreplays
    have hself : isReplayOf compactionId summary = false := by
      simp [isReplayOf, not_replay_of_summary hsum]
    rw [replaysOf, hid]
    show (msgs ++ summary :: replays).filter (isReplayOf compactionId) = replays
    rw [filter_append, filter_cons, hold, hall, hself]
    rfl
  have hkept : ((msgs ++ summary :: replays).drop suffixStart).filter unmarked =
      (msgs.drop suffixStart).filter unmarked := by
    -- what the compaction itself wrote is never kept
    have hwr : ((summary :: replays).drop (suffixStart - msgs.length)).filter unmarked =
        [] := by
      rw [filter_eq_nil_iff]
      intro msg hm
      rcases mem_cons.mp (mem_of_mem_drop hm) with rfl | hm
      · simp [unmarked, hsum]
      · simp [(isReplayOf_marked (hreplays msg hm)).2]
    rw [drop_append, filter_append, hwr, append_nil]
  rw [activeProjectionMessages_window hlast, hstart, hfd, hkept]

end Commit

end Centaeris
