import Centaeris.Runtime.CompactionShape

namespace Centaeris

open Foundation List Option

/-!
# Runs of appends and compactions

A session grows by appended messages and by compactions.  What a compaction takes out of the
window must not come back.
-/

/-! ### Steps -/

def pushMessageWithSemantics (texts : AnchorTexts) (session : SessionStateSnapshot)
    (message : ChatMessage) (semantics : ModelMessageSemanticsV1) : SessionStateSnapshot :=
  refreshSessionContextWindow texts { session with
    messages := session.messages ++ [message]
    modelSemantics := session.modelSemantics.insert message.messageId semantics
    updatedAtMs := message.createdAtMs }

/-- A session with the messages that its compactions took out of the window. -/
structure CompactionRun where
  session : SessionStateSnapshot
  retired : List ChatMessage
deriving DecidableEq

/-- No two messages have the same id. -/
def distinctIds (messages : List ChatMessage) : Bool :=
  decide (messages.map (·.messageId)).Nodup

namespace CompactionRun

def start (sessionId : String) (nowMs : Int) : CompactionRun :=
  ⟨.new sessionId nowMs, []⟩

def append (texts : AnchorTexts) (run : CompactionRun) (message : ChatMessage)
    (semantics : ModelMessageSemanticsV1) : CompactionRun :=
  { run with session := pushMessageWithSemantics texts run.session message semantics }

def commit (texts : AnchorTexts) (run : CompactionRun) (plan : PromptCompactionPlan)
    (summary : String) : CompactionRun :=
  let session := commitPromptCompaction texts run.session plan summary
  ⟨session, run.retired ++
    run.session.contextWindow.filter fun message => !session.contextWindow.contains message⟩

end CompactionRun

/-- A compaction that starts from an accepted window, has a plan and an accepted summary, and
    writes messages with new ids. -/
structure CommitReady (texts : AnchorTexts) (run : CompactionRun) (request : CompactionRequest)
    (content : String) (plan : PromptCompactionPlan) (summary : String) : Prop where
  accepted : validateModelContextWindow run.session.contextWindow run.session.modelSemantics =
    .ok ()
  planned : planPromptCompaction texts run.session request = .ok plan
  summarized : validateModelCompactionSummary plan content = .ok summary
  distinct : distinctIds (commitPromptCompaction texts run.session plan summary).messages = true

/-- The plan keeps the messages from the one on that the previous summary took along. -/
def startsAtMovedAnchor (texts : AnchorTexts) (run : CompactionRun)
    (plan : PromptCompactionPlan) : Bool :=
  (movedAnchor? texts run.session.messages).any fun anchor =>
    plan.firstKeptMessageId == some anchor.messageId

/-- The states that are reached when appended messages are none that a compaction writes, and
    no plan begins with a message that was taken along. -/
inductive ReachedSoundly (texts : AnchorTexts) : CompactionRun → Prop
  | start (sessionId : String) (nowMs : Int) : ReachedSoundly texts (.start sessionId nowMs)
  | append {run : CompactionRun} (message : ChatMessage) (semantics : ModelMessageSemanticsV1)
      (hrun : ReachedSoundly texts run) (hunmarked : unmarked message = true)
      (hdist : distinctIds (run.session.messages ++ [message]) = true) :
      ReachedSoundly texts (run.append texts message semantics)
  | commit {run : CompactionRun} {request : CompactionRequest} {content : String}
      {plan : PromptCompactionPlan} {summary : String} (hrun : ReachedSoundly texts run)
      (hready : CommitReady texts run request content plan summary)
      (hsnd : startsAtMovedAnchor texts run plan = false) :
      ReachedSoundly texts (run.commit texts plan summary)

/-- What a commit has to leave: the new summary, the selected replays, the referenced user
    message and the planned suffix; nothing critical, every call answered, and nothing that an
    earlier compaction took out, except for the referenced message. -/
structure CommitSound (texts : AnchorTexts) (run : CompactionRun) (plan : PromptCompactionPlan)
    (summary : String) : Prop where
  referenced : plan.causalAnchorReference =
    (movedAnchor? texts (run.commit texts plan summary).session.messages).map
      (compactionCausalAnchorReference texts)
  window : (run.commit texts plan summary).session.contextWindow =
    compactMessage plan summary :: (plan.userReplayMessages ++
      (movedAnchor? texts (run.commit texts plan summary).session.messages).toList ++ plan.suffix)
  uncritical : (materializeContextWindow texts
    (run.commit texts plan summary).session.messages).ensureValid = .ok ()
  accepted : validateModelContextWindow (run.commit texts plan summary).session.contextWindow
    (run.commit texts plan summary).session.modelSemantics = .ok ()
  retired : ∀ message ∈ (run.commit texts plan summary).session.contextWindow,
    message ∈ run.retired →
      movedAnchor? texts (run.commit texts plan summary).session.messages = some message

/-! ### The invariant of a run -/

def summaryIdOf (sessionId suffix : String) : String :=
  "msg:" ++ sessionId ++ ":" ++ suffix ++ ":compact"

/-- What every step of a run keeps (`RunInv.append`, `RunInv.commit`). -/
structure RunInv (texts : AnchorTexts) (run : CompactionRun) : Prop where
  distinct : (run.session.messages.map (·.messageId)).Nodup
  window : run.session.contextWindow = (activeProjectionMessages texts run.session.messages).1
  /-- The summary that a replay belongs to is in the session. -/
  replays : ∀ message ∈ run.session.messages, isPromptCompactionUserReplay message = true →
    ∃ suffix, message.metadata[compactionIdKey]? = some ("prompt_compaction:" ++ suffix) ∧
      summaryIdOf run.session.sessionId suffix ∈ run.session.messages.map (·.messageId)
  retired : run.retired ⊆ run.session.messages
  shape : ∃ front kept lead anchor,
    WindowShape texts run.session.messages front kept lead anchor ∧
      ∀ message ∈ lead ++ kept.filter unmarked, message ∉ run.retired

section Invariant

variable {texts : AnchorTexts} {run : CompactionRun} {request : CompactionRequest}
  {content summary : String} {plan : PromptCompactionPlan}

theorem RunInv.start (texts : AnchorTexts) (sessionId : String) (nowMs : Int) :
    RunInv texts (.start sessionId nowMs) where
  distinct := nodup_nil
  window := rfl
  replays := nofun
  retired := nil_subset _
  shape := ⟨[], [], [], none, .empty texts, nofun⟩

variable {message : ChatMessage}

theorem RunInv.append (h : RunInv texts run) (semantics : ModelMessageSemanticsV1)
    (hunmarked : unmarked message = true)
    (hdist : distinctIds (run.session.messages ++ [message]) = true) :
    RunInv texts (run.append texts message semantics) := by
  have hids : ((run.session.messages ++ [message]).map (·.messageId)).Nodup := by
    simpa [distinctIds] using hdist
  have hfr : message.messageId ∉ run.session.messages.map (·.messageId) := by
    intro hm
    obtain ⟨other, hoth, heq⟩ := mem_map.mp hm
    obtain ⟨hfront, -⟩ := messageId_ne_of_nodup hids
    exact hfront other hoth heq
  refine ⟨hids, rfl, ?_, ?_, ?_⟩
  · intro other hoth hreplay
    rcases mem_append_last.mp hoth with hoth | rfl
    · obtain ⟨suffix, hsuffix, hsum⟩ := h.replays other hoth hreplay
      refine ⟨suffix, hsuffix, ?_⟩
      show _ ∈ (run.session.messages ++ [message]).map (·.messageId)
      rw [map_append]
      exact mem_append_left _ hsum
    · simp [unmarked, hreplay] at hunmarked
  · exact fun other hoth => mem_append_left _ (h.retired hoth)
  · obtain ⟨front, kept, lead, anchor, hshp, hkept⟩ := h.shape
    refine ⟨front, kept ++ [message], lead, anchor, hshp.append hunmarked hfr, ?_⟩
    intro other hoth
    rw [filter_append, ← List.append_assoc] at hoth
    rcases mem_append.mp hoth with hoth | hoth
    · exact hkept other hoth
    · rw [mem_singleton.mp (mem_of_mem_filter hoth)]
      intro hretired
      exact hfr (mem_map_of_mem (h.retired hretired))

theorem RunInv.replays_new (h : RunInv texts run) {after : List ChatMessage}
    {causalAnchor : Option ChatMessage}
    (hplan : PlannedCut texts run.session request plan after causalAnchor)
    (hids : ((run.session.messages ++ committed plan summary).map (·.messageId)).Nodup) :
    ∀ message ∈ run.session.messages, isReplayOf request.compactionId message = false := by
  intro message hm
  by_contra hreplay
  simp only [isReplayOf, bool_rules, Bool.not_eq_false] at hreplay
  obtain ⟨suffix, hsuffix, hold⟩ := h.replays message hm hreplay.1
  -- equal compaction ids give equal summary ids
  have hsame : suffix = request.idSuffix :=
    (String.append_right_inj _).mp (Option.mem_unique hsuffix hreplay.2)
  subst hsame
  obtain ⟨other, hoth, heq⟩ := mem_map.mp hold
  rw [committed] at hids
  have hne := (messageId_ne_of_nodup hids).1 other hoth
  rw [hplan.summaryId] at hne
  exact hne heq

/-- What a commit leaves when its plan does not begin with the message that was taken along. -/
structure CommitShape (texts : AnchorTexts) (run : CompactionRun) (request : CompactionRequest)
    (plan : PromptCompactionPlan) (summary : String) (causalAnchor : Option ChatMessage) :
    Prop where
  planned : PlannedCut texts run.session request plan plan.suffix causalAnchor
  paired : Paired (windowMove run.session.modelSemantics) [] plan.suffix
  suffix_subset : plan.suffix ⊆ run.session.messages
  suffix_kept : ∀ message ∈ plan.suffix, message ∉ run.retired
  shape : ∃ front kept, WindowShape texts (run.session.messages ++ committed plan summary)
    front kept (committed plan summary) causalAnchor ∧ kept.filter unmarked = plan.suffix

theorem CommitReady.distinctIds (h : CommitReady texts run request content plan summary) :
    ((run.session.messages ++ committed plan summary).map (·.messageId)).Nodup := by
  exact of_decide_eq_true h.distinct

theorem RunInv.commit_cases (h : RunInv texts run)
    (hready : CommitReady texts run request content plan summary) :
    (startsAtMovedAnchor texts run plan = true ∧
      (run.commit texts plan summary).session.contextWindow ≠ committed plan summary ++
        (movedAnchor? texts (run.commit texts plan summary).session.messages).toList ++
          plan.suffix) ∨
    (startsAtMovedAnchor texts run plan = false ∧
      ∃ causalAnchor, CommitShape texts run request plan summary causalAnchor) := by
  obtain ⟨front, kept, lead, anchor, hshp, hkept⟩ := h.shape
  have hwin : run.session.contextWindow = lead ++ anchor.toList ++ kept.filter unmarked := by
    rw [h.window, hshp.window]
  have hpair : Paired (windowMove run.session.modelSemantics) []
      (lead ++ anchor.toList ++ kept.filter unmarked) := by
    rw [← hwin]
    exact validateModelContextWindow_iff.mp hready.accepted
  obtain ⟨before, after, causalAnchor, hsp, hcut, hplan⟩ :=
    planPromptCompaction_cut hshp.window hpair hready.planned
  have hids := hready.distinctIds
  have hnew := h.replays_new hplan hids
  obtain rfl : plan.suffix = after := hplan.suffix
  have hsubset : plan.suffix ⊆ run.session.messages := by
    intro message hm
    apply hshp.window_subset
    rw [hsp]
    exact mem_append_right _ hm
  have hmoved : startsAtMovedAnchor texts run plan =
      anchor.any fun message => plan.firstKeptMessageId == some message.messageId := by
    rw [startsAtMovedAnchor, hshp.moved]
  cases haft : plan.suffix with
  | nil =>
    rw [haft] at hplan hcut
    have hnone : causalAnchor = none := by
      rw [eq_none_iff_forall_not_mem]
      intro message hm
      exact (hcut.anchor message hm).1 rfl
    subst hnone
    refine .inr ⟨?_, none, ?_⟩
    · rw [hmoved, hplan.first]
      cases anchor <;> rfl
    · refine ⟨haft ▸ hplan, haft ▸ .done, hsubset, by simp [haft], ?_⟩
      exact ⟨_, _, .commit_nothing hplan hnew, hplan.filter_replays.trans haft.symm⟩
  | cons first rest =>
    rw [haft] at hplan hcut hsp
    rcases hshp.cut hsp (hcut.head first rfl) with
      ⟨rfl, rfl⟩ | ⟨older, newer, rfl, rfl, hrest⟩
    · refine .inl ⟨?_, ?_⟩
      · rw [hmoved, hplan.first]
        simp
      · have hmsgs := hshp.messages_eq
        rw [hmsgs] at hids hnew
        have hne := window_ne_of_moved texts hplan (hshp.chain first rfl) hnew hids
        rw [← hmsgs, haft] at hne
        exact hne
    · have hmsgs := hshp.messages_eq
      have hsuffix : plan.suffix = (first :: newer).filter unmarked := by
        rw [haft, hrest, filter_cons, if_pos]
        rcases hcut.head first rfl with hreliable | hrole
        · exact unmarked_of_reliable hreliable
        · exact unmarked_of_role (.inl hrole)
      refine .inr ⟨?_, causalAnchor, ?_⟩
      · rw [hmoved, hplan.first]
        cases anchor with
        | none => rfl
        | some moved =>
          -- the message that was taken along stands in front of the kept ones
          obtain ⟨oldest, between, rfl, -⟩ := hshp.chain moved rfl
          have hdist := h.distinct
          rw [hmsgs, List.append_assoc, cons_append] at hdist
          have hne := (messageId_ne_of_nodup hdist).2 first (by simp)
          simpa using hne
      · refine ⟨haft ▸ hplan, haft ▸ hcut.paired, hsubset, ?_, ?_⟩
        · intro message hm
          apply hkept message
          rw [filter_append, ← hsuffix]
          exact mem_append_right _ (mem_append_right _ hm)
        · rw [hmsgs] at hids hnew hshp ⊢
          refine ⟨_, _, hshp.commit_kept hcut hplan hnew hids, ?_⟩
          rw [filter_append, hplan.filter_committed, append_nil, hsuffix]

/-! ### What a commit leaves -/

variable {modelSemantics : Table String ModelMessageSemanticsV1}

theorem windowMove_plain (h : message.role = .system ∨ message.role = .user) :
    windowMove modelSemantics message = some .plain := by
  rcases h with h | h <;> simp [windowMove, h]

theorem foldl_insert_plain_of_ne {added : List ChatMessage} {messageId : String}
    (h : ∀ message ∈ added, message.messageId ≠ messageId) :
    (added.foldl (fun semantics message => semantics.insert message.messageId .plain)
      modelSemantics)[messageId]? = modelSemantics[messageId]? := by
  induction added generalizing modelSemantics with
  | nil => rfl
  | cons message added ih =>
    rw [forall_mem_cons] at h
    rw [foldl_cons, ih h.2, Table.getElem?_insert, if_neg h.1]

theorem messageId_ne_of_committed
    (hids : ((run.session.messages ++ committed plan summary).map (·.messageId)).Nodup)
    {other : ChatMessage} (hmessage : message ∈ run.session.messages)
    (hoth : other ∈ committed plan summary) : other.messageId ≠ message.messageId := by
  rw [map_append, nodup_append] at hids
  exact (hids.2.2 _ (mem_map_of_mem hmessage) _ (mem_map_of_mem hoth)).symm

namespace CommitShape

variable {causalAnchor : Option ChatMessage}
  (h : CommitShape texts run request plan summary causalAnchor)

include h

theorem movedAnchor : movedAnchor? texts (run.commit texts plan summary).session.messages =
    causalAnchor := by
  obtain ⟨front, kept, hshp, -⟩ := h.shape
  exact hshp.moved

theorem contextWindow : (run.commit texts plan summary).session.contextWindow =
    committed plan summary ++ causalAnchor.toList ++ plan.suffix := by
  obtain ⟨front, kept, hshp, hkept⟩ := h.shape
  show (activeProjectionMessages texts (run.session.messages ++ committed plan summary)).1 = _
  rw [hshp.window, hkept]

variable (hids : ((run.session.messages ++ committed plan summary).map (·.messageId)).Nodup)

include hids

/-- What a commit adds, and what it keeps, was never taken out of the window. -/
theorem not_retired (hretired : run.retired ⊆ run.session.messages) :
    ∀ message ∈ committed plan summary ++ plan.suffix, message ∉ run.retired := by
  intro message hm
  rcases mem_append.mp hm with hm | hm
  · intro hold
    exact messageId_ne_of_committed hids (hretired hold) hm rfl
  · exact h.suffix_kept message hm

theorem accepted :
    validateModelContextWindow (run.commit texts plan summary).session.contextWindow
      (run.commit texts plan summary).session.modelSemantics = .ok () := by
  rw [validateModelContextWindow_iff, h.contextWindow]
  apply Paired.append
  · apply Paired.of_plain
    intro message hm
    apply windowMove_plain
    rcases mem_append.mp hm with hm | hm
    · exact committed_role h.planned message hm
    · obtain ⟨front, kept, hshp, -⟩ := h.shape
      obtain ⟨_, _, -, hreliable, -⟩ := hshp.chain message (mem_toList.mp hm)
      exact .inr (role_of_reliable hreliable)
  · apply h.paired.congr
    intro message hm
    have hsame : (run.commit texts plan summary).session.modelSemantics[message.messageId]? =
        run.session.modelSemantics[message.messageId]? :=
      foldl_insert_plain_of_ne fun other hoth =>
        messageId_ne_of_committed hids (h.suffix_subset hm) hoth
    simp only [windowMove, assistantToolCallIds, toolResultCallId, hsame]

theorem sound (hretired : run.retired ⊆ run.session.messages) :
    CommitSound texts run plan summary where
  referenced := by rw [h.movedAnchor, h.planned.reference]
  window := by
    rw [h.contextWindow, h.movedAnchor]
    simp [committed]
  uncritical := by
    obtain ⟨front, kept, hshp, -⟩ := h.shape
    have hclean : (activeProjectionMessages texts
        (run.session.messages ++ committed plan summary)).2 = [] := by
      rw [hshp.window]
    show ContextWindowMaterialization.ensureValid ⟨_, (activeProjectionMessages texts
      (run.session.messages ++ committed plan summary)).2, _⟩ = .ok ()
    rw [hclean]
    rfl
  accepted := h.accepted hids
  retired := by
    intro message hm hold
    rw [h.contextWindow] at hm
    rw [h.movedAnchor]
    have hnot := h.not_retired hids hretired message
    rcases mem_append.mp hm with hm | hm
    · rcases mem_append.mp hm with hm | hm
      · exact absurd hold (hnot (mem_append_left _ hm))
      · exact mem_toList.mp hm
    · exact absurd hold (hnot (mem_append_right _ hm))

end CommitShape

theorem RunInv.commit (h : RunInv texts run)
    (hready : CommitReady texts run request content plan summary)
    (hsnd : startsAtMovedAnchor texts run plan = false) :
    RunInv texts (run.commit texts plan summary) := by
  have hids := hready.distinctIds
  obtain ⟨causalAnchor, hcom⟩ : ∃ causalAnchor,
      CommitShape texts run request plan summary causalAnchor := by
    rcases h.commit_cases hready with ⟨hmoved, -⟩ | ⟨-, hshp⟩
    · rw [hsnd] at hmoved
      cases hmoved
    · exact hshp
  have hmsgs : (run.commit texts plan summary).session.messages =
      run.session.messages ++ committed plan summary := rfl
  refine ⟨hids, rfl, ?_, ?_, ?_⟩
  · intro message hm hreplay
    rw [hmsgs] at hm ⊢
    rw [map_append]
    rcases mem_append.mp hm with hm | hm
    · obtain ⟨suffix, hsuffix, hsum⟩ := h.replays message hm hreplay
      exact ⟨suffix, hsuffix, mem_append_left _ hsum⟩
    · have hsummaryId := hcom.planned.summaryId summary
      rcases mem_cons.mp hm with rfl | hm
      · rw [not_replay_of_summary (compactMessage_isSummary plan summary)] at hreplay
        cases hreplay
      · have hreplayOf := hcom.planned.replays message hm
        simp only [isReplayOf, bool_rules] at hreplayOf
        refine ⟨request.idSuffix, hreplayOf.2, mem_append_right _ ?_⟩
        exact mem_map.mpr ⟨compactMessage plan summary, mem_cons_self, hsummaryId⟩
  · intro message hm
    rw [hmsgs]
    apply mem_append_left
    rcases mem_append.mp hm with hm | hm
    · exact h.retired hm
    · obtain ⟨front, kept, lead, anchor, hshp, -⟩ := h.shape
      have hwin := mem_of_mem_filter hm
      rw [h.window, hshp.window] at hwin
      exact hshp.window_subset hwin
  · obtain ⟨front, kept, hshp, hkept⟩ := hcom.shape
    refine ⟨front, kept, committed plan summary, causalAnchor, hshp, ?_⟩
    rw [hkept]
    intro message hm hretired
    rcases mem_append.mp hretired with hold | hnow
    · exact hcom.not_retired hids h.retired message hm hold
    · -- what this commit takes out is not in the new window
      have hin : message ∈ (run.commit texts plan summary).session.contextWindow := by
        rw [hcom.contextWindow]
        rcases mem_append.mp hm with hm | hm
        · exact mem_append_left _ (mem_append_left _ hm)
        · exact mem_append_right _ hm
      have hout := (mem_filter.mp hnow).2
      simp only [bool_rules, contains_eq_mem] at hout
      exact hout hin

theorem ReachedSoundly.inv (h : ReachedSoundly texts run) : RunInv texts run := by
  induction h with
  | start sessionId nowMs => exact .start texts sessionId nowMs
  | append message semantics _ hunmarked hdist ih => exact ih.append semantics hunmarked hdist
  | commit _ hready hsnd ih => exact ih.commit hready hsnd

/-- **Commits never bring history back, but for one case.** After a run of appends and sound
    compactions, a compaction leaves the window it should exactly when its plan does not begin
    with the user message that the previous summary took along. -/
theorem commit_sound_iff_not_movedAnchor (hrun : ReachedSoundly texts run)
    (hready : CommitReady texts run request content plan summary) :
    CommitSound texts run plan summary ↔ startsAtMovedAnchor texts run plan = false := by
  have hinv := hrun.inv
  rcases hinv.commit_cases hready with ⟨hmoved, hne⟩ | ⟨hkept, causalAnchor, hshp⟩
  · rw [hmoved]
    refine ⟨fun hsnd => absurd ?_ hne, nofun⟩
    rw [hsnd.window]
    simp [committed]
  · exact ⟨fun _ => hkept, fun _ => hshp.sound hready.distinctIds hinv.retired⟩

/-- A window without diagnostics, in which nothing is back but the referenced message. -/
structure WindowSound (texts : AnchorTexts) (run : CompactionRun) : Prop where
  projected : activeProjectionMessages texts run.session.messages = (run.session.contextWindow, [])
  listed : run.session.contextWindow ⊆ run.session.messages
  retired : ∀ message ∈ run.session.contextWindow, message ∈ run.retired →
    movedAnchor? texts run.session.messages = some message

/-- **Windows** after appends and commits. -/
theorem reached_window_sound (h : ReachedSoundly texts run) : WindowSound texts run := by
  obtain ⟨-, hwin, -, -, front, kept, lead, anchor, hshp, hretired⟩ := h.inv
  rw [hshp.window] at hwin
  refine ⟨?_, ?_, ?_⟩ <;> rw [hwin]
  · exact hshp.window
  · exact hshp.window_subset
  · intro message hm hback
    rw [hshp.moved, ← Option.mem_toList]
    have hkept := fun hm => hretired message hm hback
    simp only [mem_append] at hm hkept
    tauto

end Invariant

/-! ### Two compactions of one chain -/

section Runs

variable {texts : AnchorTexts} {run : CompactionRun} {request : CompactionRequest}
  {content summary : String} {plan : PromptCompactionPlan}

def readyPlan (texts : AnchorTexts) (run : CompactionRun) (request : CompactionRequest)
    (content : String) : Option (PromptCompactionPlan × String) :=
  match planPromptCompaction texts run.session request with
  | .error _ => none
  | .ok plan =>
    match validateModelCompactionSummary plan content with
    | .error _ => none
    | .ok summary =>
      if validateModelContextWindow run.session.contextWindow run.session.modelSemantics = .ok () ∧
          distinctIds (commitPromptCompaction texts run.session plan summary).messages = true then
        some (plan, summary)
      else none

theorem commitReady_of_readyPlan (h : readyPlan texts run request content = some (plan, summary)) :
    CommitReady texts run request content plan summary := by
  unfold readyPlan at h
  split at h
  · cases h
  · rename_i hplanned
    split at h
    · cases h
    · rename_i hsummarized
      split at h
      · rename_i hchecks
        cases h
        exact ⟨hchecks.1, hplanned, hsummarized, hchecks.2⟩
      · cases h

/-- The session after a compaction, if it is ready. -/
def compactRun (texts : AnchorTexts) (run : CompactionRun) (request : CompactionRequest)
    (content : String) : CompactionRun :=
  match readyPlan texts run request content with
  | some (plan, summary) => run.commit texts plan summary
  | none => run

theorem ReachedSoundly.compactRun (hrun : ReachedSoundly texts run)
    (h : (readyPlan texts run request content).all
      (fun ready => !startsAtMovedAnchor texts run ready.1) = true) :
    ReachedSoundly texts (compactRun texts run request content) := by
  unfold Centaeris.compactRun
  split
  · rename_i plan summary hready
    rw [hready] at h
    exact hrun.commit (commitReady_of_readyPlan hready) (by simpa using h)
  · exact hrun

def appendAll (texts : AnchorTexts) (run : CompactionRun)
    (entries : List (ChatMessage × ModelMessageSemanticsV1)) : CompactionRun :=
  entries.foldl (fun run entry => run.append texts entry.1 entry.2) run

theorem ReachedSoundly.appendAll {entries : List (ChatMessage × ModelMessageSemanticsV1)}
    (hrun : ReachedSoundly texts run) (hunmarked : ∀ entry ∈ entries, unmarked entry.1 = true)
    (hdist : distinctIds (run.session.messages ++ entries.map (·.1)) = true) :
    ReachedSoundly texts (appendAll texts run entries) := by
  induction entries generalizing run with
  | nil => exact hrun
  | cons entry entries ih =>
    rw [forall_mem_cons] at hunmarked
    rw [map_cons, append_cons] at hdist
    have hfst : distinctIds (run.session.messages ++ [entry.1]) = true := by
      simp only [distinctIds, decide_eq_true_eq] at hdist ⊢
      rw [map_append] at hdist
      exact (nodup_append.mp hdist).1
    exact ih (hrun.append entry.1 entry.2 hunmarked.1 hfst) hunmarked.2 hdist

/-! A request with two rounds of tool calls. -/

/-- References that carry the content itself. -/
def chainTexts : AnchorTexts := .compact (·.content)

def chainCall (callId : String) : ModelMessageSemanticsV1 :=
  .assistant none [⟨callId, "read_file", "\x7b\x7d"⟩]

def chainResult (callId : String) : ModelMessageSemanticsV1 :=
  .toolResult callId "read_file" "ok" "final" none [] none

def chainMessages : List (ChatMessage × ModelMessageSemanticsV1) :=
  [(⟨"m1", .user, "compare the two files", 1,
      (∅ : Table String String).insert messageSemanticKindKey "user_request"⟩, .plain),
    (⟨"m2", .assistant, "", 2, ∅⟩, chainCall "c1"),
    (⟨"m3", .tool, "first file", 3, ∅⟩, chainResult "c1"),
    (⟨"m4", .assistant, "", 4, ∅⟩, chainCall "c2"),
    (⟨"m5", .tool, "second file", 5, ∅⟩, chainResult "c2")]

def chainRequest (recordedAtMs : Int) : CompactionRequest :=
  ⟨"t1", ⟨1000, 100, 0, 1, 100⟩, none, true, recordedAtMs⟩

def chainRun : CompactionRun := appendAll chainTexts (.start "s" 0) chainMessages

def compactedChain : CompactionRun := compactRun chainTexts chainRun (chainRequest 6) "one file read"

theorem chainRun_reached : ReachedSoundly chainTexts chainRun :=
  ReachedSoundly.appendAll (.start "s" 0) (by decide +kernel) (by decide +kernel)

theorem compactedChain_reached : ReachedSoundly chainTexts compactedChain :=
  chainRun_reached.compactRun (by decide +kernel)

theorem compactedChain_window_sound : WindowSound chainTexts compactedChain :=
  reached_window_sound compactedChain_reached

/-- The first compaction keeps the second round and takes the request along. -/
theorem commit_sound_first_compaction : ∃ plan summary,
    readyPlan chainTexts chainRun (chainRequest 6) "one file read" = some (plan, summary) ∧
      startsAtMovedAnchor chainTexts chainRun plan = false ∧
      CommitSound chainTexts chainRun plan summary := by
  obtain ⟨⟨plan, summary⟩, hready⟩ : ∃ ready,
      readyPlan chainTexts chainRun (chainRequest 6) "one file read" = some ready :=
    isSome_iff_exists.mp (by decide +kernel)
  have hkept : (readyPlan chainTexts chainRun (chainRequest 6) "one file read").all
      (fun ready => !startsAtMovedAnchor chainTexts chainRun ready.1) = true := by
    decide +kernel
  rw [hready] at hkept
  have hsnd : startsAtMovedAnchor chainTexts chainRun plan = false := by simpa using hkept
  exact ⟨plan, summary, hready, hsnd, (commit_sound_iff_not_movedAnchor chainRun_reached
    (commitReady_of_readyPlan hready)).mpr hsnd⟩

/-- The second one, with nothing appended in between, begins with the request, and the first
    round comes back. -/
theorem second_compaction_brings_back : ∃ plan summary,
    ReachedSoundly chainTexts compactedChain ∧
      CommitReady chainTexts compactedChain (chainRequest 7) "one file read" plan summary ∧
      (∃ message ∈ (compactedChain.commit chainTexts plan summary).session.contextWindow,
        message ∈ compactedChain.retired ∧
          movedAnchor? chainTexts
            (compactedChain.commit chainTexts plan summary).session.messages ≠ some message) ∧
      ¬ CommitSound chainTexts compactedChain plan summary := by
  obtain ⟨⟨plan, summary⟩, hready⟩ : ∃ ready,
      readyPlan chainTexts compactedChain (chainRequest 7) "one file read" = some ready :=
    isSome_iff_exists.mp (by decide +kernel)
  have hback : (readyPlan chainTexts compactedChain (chainRequest 7) "one file read").all
      (fun (ready : PromptCompactionPlan × String) => decide (∃ message ∈
          (compactedChain.commit chainTexts ready.1 ready.2).session.contextWindow,
        message ∈ compactedChain.retired ∧ movedAnchor? chainTexts
          (compactedChain.commit chainTexts ready.1 ready.2).session.messages ≠ some message)) =
      true := by
    decide +kernel
  rw [hready, all_some, decide_eq_true_eq] at hback
  refine ⟨plan, summary, compactedChain_reached, commitReady_of_readyPlan hready, hback, ?_⟩
  intro hsnd
  obtain ⟨message, hwin, hretired, hmoved⟩ := hback
  exact hmoved (hsnd.retired message hwin hretired)

end Runs

end Centaeris
