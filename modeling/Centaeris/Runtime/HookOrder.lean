import Centaeris.Runtime.HookContexts

namespace Centaeris

open Foundation List ModelMessageV1 Outcome StoredDraft Turn

/-!
# Which conversations with hook contexts can be sent
-/

/-! ### Answered tool calls -/

section Pairing

variable (handler : MessageHandler) (clock : Nat → Int) (sid : String)

/-- The messages of these drafts answer their tool calls, wherever they are stored. -/
def PairedDrafts (drafts : List MessageDraft) : Prop :=
  ∀ place, ToolPaired [] ((drafts.zipIdx place).map (StoredDraft.item handler clock sid))

variable {handler clock sid}

theorem PairedDrafts.append {drafts more : List MessageDraft}
    (h : PairedDrafts handler clock sid drafts)
    (hmore : PairedDrafts handler clock sid more) :
    PairedDrafts handler clock sid (drafts ++ more) := by
  intro place
  rw [zipIdx_append, map_append]
  exact (h place).append (hmore _)

theorem PairedDrafts.flatMap {α : Type} {f : α → List MessageDraft} {as : List α}
    (h : ∀ a ∈ as, PairedDrafts handler clock sid (f a)) :
    PairedDrafts handler clock sid (as.flatMap f) := by
  induction as with
  | nil => exact fun _ => .done
  | cons a as ih =>
    rw [flatMap_cons]
    exact (h a mem_cons_self).append (ih fun b hb => h b (mem_cons_of_mem a hb))

theorem PairedDrafts.of_plain {drafts : List MessageDraft}
    (h : ∀ draft ∈ drafts, draft.role = .system ∨ draft.role = .user) :
    PairedDrafts handler clock sid drafts := by
  induction drafts with
  | nil => exact fun _ => .done
  | cons draft drafts ih =>
    intro place
    rw [zipIdx_cons, map_cons]
    refine .plain (move_of_plain ?_)
      (ih (fun d hd => h d (mem_cons_of_mem draft hd)) _)
    rw [item_role]
    exact h draft mem_cons_self

theorem PairedDrafts.hooks (contexts : List String) :
    PairedDrafts handler clock sid (hookDrafts contexts) :=
  .of_plain fun _ hdraft => .inl (hookDrafts_sound hdraft).2

/-- The results of a batch answer the calls that are open before them. -/
theorem toolPaired_results {exchanges : List ToolExchange} {later : List ModelMessageV1}
    (hlat : ToolPaired [] later) (place : Nat) :
    ToolPaired (exchanges.map (·.call.id))
      (((exchanges.map toolResultDraft).zipIdx place).map
        (item handler clock sid) ++ later) := by
  induction exchanges generalizing place with
  | nil => exact hlat
  | cons exchange exchanges ih =>
    rw [map_cons, map_cons, zipIdx_cons, map_cons, cons_append]
    exact .answers rfl (ih (place + 1))

theorem PairedDrafts.assistant {content : String} {reasoning : Option String}
    {exchanges : List ToolExchange} {drafts : List MessageDraft}
    (h : PairedDrafts handler clock sid drafts) :
    PairedDrafts handler clock sid
      (assistantDraft content reasoning (exchanges.map (·.call)) ::
        (exchanges.map toolResultDraft ++ drafts)) := by
  intro place
  rw [zipIdx_cons, map_cons, zipIdx_append, map_append]
  refine .opens rfl ?_
  have hids : (item handler clock sid
      (assistantDraft content reasoning (exchanges.map (·.call)), place)).toolCalls.map (·.id) =
        exchanges.map (·.call.id) := by
    simp only [item, assistantDraft, map_map]
    rfl
  rw [hids]
  exact toolPaired_results (h _) (place + 1)

/-- The tool calls of a session are answered at once, whatever the turns. -/
theorem drafts_paired (turns : List Turn) :
    PairedDrafts handler clock sid (turns.flatMap drafts) := by
  refine .flatMap fun turn _ => .append (.hooks _) ?_
  have hreq : PairedDrafts handler clock sid [userRequestDraft turn.request] :=
    .of_plain fun draft hdraft => .inr (by rw [mem_singleton.mp hdraft]; rfl)
  refine hreq.append (.append (.flatMap fun batch _ => .assistant (.hooks _)) ?_)
  rw [replyDrafts]
  cases turn.reply with
  | none => exact fun _ => .done
  | some reply =>
    -- A reply is a batch without calls.
    exact @PairedDrafts.assistant handler clock sid reply.1 reply.2 [] [] fun _ => .done

end Pairing

/-! ### An open chain of tool calls -/

/-- The last turn ends with the results of a batch. -/
def AwaitsContinuation (turns : List Turn) : Prop :=
  ∃ earlier last, turns = earlier ++ [last] ∧ last.batches ≠ [] ∧ last.reply = none

theorem batches_split {batches : List ToolBatch} (h : batches ≠ []) :
    ∃ content reasoning calls middle result contexts, calls ≠ [] ∧
      (∀ draft ∈ middle, MessageDraft.role draft ≠ .user) ∧
      batches.flatMap ToolBatch.drafts = assistantDraft content reasoning calls ::
        (middle ++ toolResultDraft result :: hookDrafts contexts) := by
  induction batches with
  | nil => exact absurd rfl h
  | cons batch rest ih =>
    obtain ⟨exchanges, result, hexchanges⟩ : ∃ exchanges result,
        batch.exchanges = exchanges ++ [result] :=
      ⟨_, _, (dropLast_append_getLast batch.exchanges_ne).symm⟩
    have hcalls : batch.exchanges.map (·.call) ≠ [] := by simp [hexchanges]
    by_cases hrest : rest = []
    · refine ⟨batch.content, batch.reasoningContent, batch.exchanges.map (·.call),
        exchanges.map toolResultDraft, result, batch.hookContexts, hcalls, ?_, ?_⟩
      · intro draft hdraft
        obtain ⟨exchange, -, rfl⟩ := mem_map.mp hdraft
        rintro ⟨⟩
      · rw [hrest, flatMap_singleton, ToolBatch.drafts]
        simp [hexchanges]
    · obtain ⟨content, reasoning, calls, middle, result, contexts, -, hmid, hflat⟩ := ih hrest
      refine ⟨batch.content, batch.reasoningContent, batch.exchanges.map (·.call),
        batch.exchanges.map toolResultDraft ++ hookDrafts batch.hookContexts ++
          assistantDraft content reasoning calls :: middle, result, contexts, hcalls, ?_, ?_⟩
      · intro draft hdraft
        rw [mem_append, mem_cons] at hdraft
        rcases hdraft with hown | rfl | hlat
        · exact (ToolBatch.drafts_sound (mem_cons_of_mem _ hown)).2
        · rintro ⟨⟩
        · exact hmid draft hlat
      · rw [flatMap_cons, hflat, ToolBatch.drafts]
        simp

theorem drafts_split {turns : List Turn} (h : AwaitsContinuation turns) :
    ∃ pre request content reasoning calls middle result contexts, calls ≠ [] ∧
      (∀ draft ∈ middle, MessageDraft.role draft ≠ .user) ∧
      turns.flatMap drafts = pre ++ userRequestDraft request ::
        assistantDraft content reasoning calls ::
          (middle ++ toolResultDraft result :: hookDrafts contexts) := by
  obtain ⟨earlier, last, rfl, hbatches, hreply⟩ := h
  obtain ⟨content, reasoning, calls, middle, result, contexts, hcalls, hmid, hflat⟩ :=
    batches_split hbatches
  refine ⟨earlier.flatMap drafts ++ hookDrafts last.hookContexts, last.request, content,
    reasoning, calls, middle, result, contexts, hcalls, hmid, ?_⟩
  rw [flatMap_append, flatMap_singleton, drafts, hflat, replyDrafts, hreply]
  simp

/-- The stored drafts of such a session after the last request. -/
structure OpenChain (inner hooks : List StoredDraft) (anchor head tool : StoredDraft) : Prop where
  anchor : ∃ request, anchor.1 = userRequestDraft request
  head : ∃ content reasoning calls, calls ≠ [] ∧ head.1 = assistantDraft content reasoning calls
  inner : ∀ entry ∈ inner, entry.1.role ≠ .user
  tool : tool.1.role = .tool
  hooks : ∀ entry ∈ hooks, ∃ context, entry.1 = lifecycleHookContextDraft context

theorem OpenChain.roles {inner hooks : List StoredDraft} {anchor head tool : StoredDraft}
    (chain : OpenChain inner hooks anchor head tool) :
    ∀ entry ∈ head :: inner, entry.1.role ≠ .user := by
  intro entry hent
  rcases mem_cons.mp hent with rfl | hent
  · obtain ⟨content, reasoning, calls, -, hhead⟩ := chain.head
    rw [hhead]
    exact nofun
  · exact chain.inner entry hent

theorem exists_openChain {turns : List Turn} (h : AwaitsContinuation turns) :
    ∃ pre inner hooks anchor head tool, OpenChain inner hooks anchor head tool ∧
      (turns.flatMap drafts).zipIdx =
        pre ++ anchor :: (head :: inner ++ tool :: hooks) := by
  obtain ⟨pre, request, content, reasoning, calls, middle, result, contexts, hcalls, hmid,
    hdrafts⟩ := drafts_split h
  refine ⟨pre.zipIdx, middle.zipIdx (pre.length + 1 + 1),
    (hookDrafts contexts).zipIdx (pre.length + 1 + 1 + middle.length + 1),
    (userRequestDraft request, pre.length),
    (assistantDraft content reasoning calls, pre.length + 1),
    (toolResultDraft result, pre.length + 1 + 1 + middle.length),
    ⟨⟨request, rfl⟩, ⟨content, reasoning, calls, hcalls, rfl⟩, ?_, rfl, ?_⟩, ?_⟩
  · exact fun entry hent => hmid entry.1 (fst_mem_of_mem_zipIdx hent)
  · intro entry hent
    obtain ⟨context, -, hcontext⟩ := mem_map.mp (fst_mem_of_mem_zipIdx hent)
    exact ⟨context, hcontext.symm⟩
  · rw [hdrafts]
    simp [zipIdx_append]

/-! ### The next messages -/

/-- Messages whose meaning is stored need no other. -/
theorem addPlainSemantics_known {session : SessionStateSnapshot} {msgs : List ChatMessage}
    (h : ∀ message ∈ msgs, (session.modelSemantics[message.messageId]?).isSome = true) :
    msgs.foldlM addPlainSemantics session = .ok session := by
  induction msgs with
  | nil => rfl
  | cons message msgs ih =>
    rw [foldlM_cons, addPlainSemantics, if_pos (h message mem_cons_self)]
    exact ih fun other hoth => h other (mem_cons_of_mem message hoth)

section Next

variable {handler : MessageHandler} {clock : Nat → Int} {session : SessionStateSnapshot}
  {drafts : List MessageDraft}

theorem project_entries {session : SessionStateSnapshot} {sid : String}
    {entries : List StoredDraft}
    (h : ∀ entry ∈ entries, session.modelSemantics[messageId clock sid entry]? =
      some entry.1.semantics ∧ entry.1.Sound) :
    projectSessionMessagesToModelMessages session
        (entries.map (message handler clock sid)) =
      .ok (entries.map (item handler clock sid)) := by
  rw [projectSessionMessagesToModelMessages, mapM_map]
  exact mapM_eq_ok_of_forall fun entry hent =>
    project_of_meaning (h entry hent).1 (h entry hent).2

theorem project_append {session : SessionStateSnapshot} {msgs more : List ChatMessage}
    {items moreItems : List ModelMessageV1}
    (h : projectSessionMessagesToModelMessages session msgs = .ok items)
    (hmore : projectSessionMessagesToModelMessages session more = .ok moreItems) :
    projectSessionMessagesToModelMessages session (msgs ++ more) =
      .ok (items ++ moreItems) := by
  rw [projectSessionMessagesToModelMessages] at h hmore ⊢
  rw [mapM_append, h, ok_bind, hmore]
  rfl

/-- The messages for the next request. -/
theorem nextModelMessages_request (stored : Stored handler clock session drafts)
    (hsnd : ∀ draft ∈ drafts, draft.Sound) {current : ChatMessage} (hrole : current.role = .user)
    (hfr : current.messageId ∉ session.messages.map (·.messageId)) :
    nextModelMessages session (some current) =
      .ok (drafts.zipIdx.map (item handler clock session.sessionId) ++
        [⟨current.messageId, .user, current.content, [], none, none⟩]) := by
  have hoth : session.messages.find? (·.messageId == current.messageId) = none := by
    rw [find?_eq_none]
    intro message hm heq
    exact hfr (mem_map.mpr ⟨message, hm, beq_iff_eq.mp heq⟩)
  have hunknown : session.modelSemantics[current.messageId]? = none := by
    cases hsem : session.modelSemantics[current.messageId]? with
    | none => rfl
    | some semantics => exact absurd (stored.known _ _ hsem) hfr
  have hkn : ∀ message ∈ session.messages,
      (session.modelSemantics[message.messageId]?).isSome = true := by
    intro message hm
    rw [stored.messages] at hm
    obtain ⟨entry, hent, rfl⟩ := mem_map.mp hm
    exact Option.isSome_iff_exists.mpr ⟨_, stored.meaning entry hent⟩
  have hadded : (session.messages ++ [current]).foldlM addPlainSemantics session =
      .ok { session with modelSemantics := session.modelSemantics.insert current.messageId .plain } := by
    rw [foldlM_append, addPlainSemantics_known hkn, ok_bind, foldlM_cons,
      addPlainSemantics, hunknown, hrole]
    rfl
  have hstoredPart : projectSessionMessagesToModelMessages
      { session with modelSemantics := session.modelSemantics.insert current.messageId .plain }
      session.messages =
        .ok (drafts.zipIdx.map (item handler clock session.sessionId)) := by
    rw [stored.messages]
    refine project_entries fun entry hent =>
      ⟨?_, hsnd entry.1 (fst_mem_of_mem_zipIdx hent)⟩
    have hne : current.messageId ≠ messageId clock session.sessionId entry := by
      intro heq
      refine hfr (mem_map.mpr
        ⟨message handler clock session.sessionId entry, ?_, heq.symm⟩)
      rw [stored.messages]
      exact mem_map_of_mem hent
    show (session.modelSemantics.insert current.messageId .plain)[_]? = _
    rw [Table.getElem?_insert, if_neg hne]
    exact stored.meaning entry hent
  have hcurrentPart : projectSessionMessagesToModelMessages
      { session with modelSemantics := session.modelSemantics.insert current.messageId .plain }
      [current] = .ok [⟨current.messageId, .user, current.content, [], none, none⟩] := by
    simp only [projectSessionMessagesToModelMessages, SessionStateSnapshot.modelSemanticsFor,
      mapM_cons, mapM_nil, Table.getElem?_insert, if_true, orFail, ok_bind,
      projectChatMessageToModelMessage, hrole]
    rfl
  rw [nextModelMessages, stored.window]
  simp only [buildModelContextMessages, hoth]
  rw [pure_bind, hadded, ok_bind]
  exact project_append hstoredPart hcurrentPart

/-- A hook context that is sent as a user message. -/
def asUser (entry : StoredDraft) : StoredDraft := ({ entry.1 with role := .user }, entry.2)

/-- The drafts of an open chain as the next step sends them: the hook contexts at its end come
    before its request. -/
def nextStep (pre middle hooks : List StoredDraft) (anchor tool : StoredDraft) :
    List StoredDraft :=
  pre ++ hooks.map asUser ++ anchor :: (middle ++ [tool])

theorem nextModelMessages_continuation (stored : Stored handler clock session drafts)
    (hsnd : ∀ draft ∈ drafts, draft.Sound) {pre middle hooks : List StoredDraft}
    {anchor tool : StoredDraft}
    (hents : drafts.zipIdx = pre ++ anchor :: (middle ++ tool :: hooks))
    (hanc : ∃ request, anchor.1 = userRequestDraft request)
    (hmid : ∀ entry ∈ middle, entry.1.role ≠ .user) (htool : tool.1.role = .tool)
    (hhooks : ∀ entry ∈ hooks, ∃ context, entry.1 = lifecycleHookContextDraft context) :
    nextModelMessages session none =
      .ok ((nextStep pre middle hooks anchor tool).map
        (item handler clock session.sessionId)) := by
  have hmeant : ∀ entry ∈ drafts.zipIdx,
      session.modelSemantics[messageId clock session.sessionId entry]? =
        some entry.1.semantics ∧ entry.1.Sound := fun entry hent =>
    ⟨stored.meaning entry hent, hsnd entry.1 (fst_mem_of_mem_zipIdx hent)⟩
  rw [hents] at hmeant
  have hbuilt : buildModelContextMessages session.contextWindow none =
      .ok ((nextStep pre middle hooks anchor tool).map
        (message handler clock session.sessionId), messageId clock session.sessionId anchor) := by
    have hplaces : (pre ++ anchor :: (middle ++ tool :: hooks)).map Prod.snd |>.Nodup := by
      rw [← hents, zipIdx_map_snd]
      exact nodup_range'
    have hwin : session.contextWindow =
        pre.map (message handler clock session.sessionId) ++
          message handler clock session.sessionId anchor ::
            (middle.map (message handler clock session.sessionId) ++
              message handler clock session.sessionId tool ::
                hooks.map (message handler clock session.sessionId)) := by
      rw [stored.window, stored.messages, hents]
      simp
    rw [hwin, buildModelContextMessages_continuation]
    · simp [nextStep, asUser, map_map, Function.comp_def, message, StoredDraft.messageId]
    · obtain ⟨request, hreq⟩ := hanc
      simp [isReliableToolChainUserAnchor, message, hreq, userRequestDraft,
        messageSemanticKindKey, anchorSemanticKinds]
    · intro message hm
      obtain ⟨entry, hent, rfl⟩ := mem_map.mp hm
      exact hmid entry hent
    · exact htool
    · intro message hm
      obtain ⟨entry, hent, rfl⟩ := mem_map.mp hm
      obtain ⟨context, hcontext⟩ := hhooks entry hent
      rw [isLifecycleHookContext_message (hmeant entry (by simp [hent])).2, hcontext]
      rfl
    · intro message hm heq
      obtain ⟨entry, hent, rfl⟩ := mem_map.mp hm
      have hsame : entry.2 = anchor.2 := eq_of_append_colon_repr heq
      rw [map_append, nodup_append] at hplaces
      exact hplaces.2.2 _ (mem_map_of_mem hent) _ (by simp) hsame
  have hnext : ∀ entry ∈ nextStep pre middle hooks anchor tool,
      session.modelSemantics[messageId clock session.sessionId entry]? =
        some entry.1.semantics ∧ entry.1.Sound := by
    intro entry hent
    rw [nextStep, mem_append, mem_append, mem_map] at hent
    rcases hent with (hpre | ⟨hook, hhook, rfl⟩) | hrest
    · exact hmeant entry (by simp [hpre])
    · obtain ⟨hmeaning, hsnd⟩ := hmeant hook (by simp [hhook])
      obtain ⟨context, hcontext⟩ := hhooks hook hhook
      refine ⟨hmeaning, ?_, hsnd.unmarked, by rintro ⟨⟩⟩
      rw [asUser, hcontext]
      rfl
    · refine hmeant entry ?_
      simp only [mem_append, mem_cons, not_mem_nil, or_false] at hrest ⊢
      tauto
  have hkn : ∀ stored ∈ (nextStep pre middle hooks anchor tool).map
      (message handler clock session.sessionId),
      (session.modelSemantics[stored.messageId]?).isSome = true := by
    intro stored hm
    obtain ⟨entry, hent, rfl⟩ := mem_map.mp hm
    exact Option.isSome_iff_exists.mpr ⟨_, (hnext entry hent).1⟩
  rw [nextModelMessages, hbuilt, Outcome.ok_bind]
  dsimp only
  rw [addPlainSemantics_known hkn, Outcome.ok_bind]
  exact project_entries hnext

end Next

/-! ### Sendable conversations -/

/-- The next request, or the next step of an open chain of tool calls. -/
inductive NextInput (turns : List Turn) (session : SessionStateSnapshot) :
    Option ChatMessage → Prop
  | request {current : ChatMessage} (hrole : current.role = .user)
      (hfr : current.messageId ∉ session.messages.map (·.messageId)) :
      NextInput turns session (some current)
  | continuation (hopen : AwaitsContinuation turns) : NextInput turns session none

/-- No request with these messages meets the complaint about a system message. -/
def Sendable (readers : ProviderReaders) (msgs : List ModelMessageV1) : Prop :=
  ∀ request : ModelClientRequest, request.preparedPrompt.messages = msgs →
    (buildAnthropicMessages readers request).Avoids (Late "anthropic") ∧
      (buildOpenaiCompatibleMessages readers request).Avoids (Late "openai-compatible")

theorem sendable_iff_systemFirst (readers : ProviderReaders) {msgs : List ModelMessageV1}
    (hpair : ToolPaired [] msgs) : Sendable readers msgs ↔ SystemFirst msgs := by
  constructor
  · intro hsendable
    by_contra hlate
    -- A request without images shows the complaint.
    have hplain : PlainRequest ⟨⟨none, msgs, []⟩, "", false⟩ := ⟨rfl, rfl⟩
    exact openai_refuses readers hplain hpair hlate (hsendable _ rfl).2
  · rintro hfst request rfl
    exact ⟨buildAnthropicMessages_avoids readers request hfst,
      buildOpenaiCompatibleMessages_avoids readers request hfst⟩

theorem systemFirst_concat {items : List ModelMessageV1} {last : ModelMessageV1}
    (hlast : last.role ≠ .system) : SystemFirst (items ++ [last]) ↔ SystemFirst items := by
  rw [SystemFirst, pairwise_append]
  constructor
  · exact fun h => h.1
  · intro h
    refine ⟨h, pairwise_singleton _ _, ?_⟩
    intro earlier _ later hlat _
    rw [mem_singleton.mp hlat]
    exact hlast

theorem systemFirst_insert {pre contexts rest : List ModelMessageV1}
    {anchor head : ModelMessageV1} (hcontexts : ∀ item ∈ contexts, item.role = .user)
    (hanc : anchor.role = .user) (hhead : head.role = .assistant)
    (hspeaks : head.speaks = true) :
    SystemFirst (pre ++ contexts ++ anchor :: head :: rest) ↔
      SystemFirst (pre ++ anchor :: head :: rest) := by
  constructor
  · intro h
    refine h.sublist ?_
    rw [append_assoc]
    exact (sublist_append_right contexts _).append_left pre
  · intro h
    obtain ⟨hpre, haft, hcross⟩ := pairwise_append.mp h
    have htail : ∀ item ∈ anchor :: head :: rest, item.role ≠ .system := by
      have hrest := (pairwise_cons.mp (pairwise_cons.mp haft).2).1
      intro item hm
      rcases mem_cons.mp hm with rfl | hm
      · simp [hanc]
      rcases mem_cons.mp hm with rfl | hm
      · simp [hhead]
      · exact hrest item hm hspeaks
    have huser : ∀ item ∈ contexts, item.role ≠ .system := by
      intro item hm
      simp [hcontexts item hm]
    refine pairwise_append.mpr ⟨pairwise_append.mpr ⟨hpre, ?_, ?_⟩, haft, ?_⟩
    · exact pairwise_of_forall_mem_list fun _ _ later hlat _ => huser later hlat
    · exact fun _ _ later hlat _ => huser later hlat
    · exact fun _ _ later hlat _ => htail later hlat

section Main

variable (texts : AnchorTexts) (handler : MessageHandler) (clock : Nat → Int)
  (readers : ProviderReaders) (sid : String) (nowMs : Int) (turns : List Turn)

theorem turns_sound : ∀ draft ∈ turns.flatMap drafts, draft.Sound := by
  intro draft hdraft
  obtain ⟨turn, -, hm⟩ := mem_flatMap.mp hdraft
  exact drafts_sound hm

theorem sessionAfter_stored :
    Stored handler clock (sessionAfter texts handler clock sid nowMs turns)
      (turns.flatMap drafts) := by
  rw [sessionAfter, funext₂ (appendTurn_eq texts handler clock), ← foldl_flatMap]
  exact (Stored.new sid nowMs).pushAll texts (turns_sound turns)

variable {handler clock} {session : SessionStateSnapshot}
  {pre inner hooks : List StoredDraft} {anchor head tool : StoredDraft}

/-- The messages for the next step answer their tool calls. -/
theorem OpenChain.paired (chain : OpenChain inner hooks anchor head tool)
    (hpair : ToolPaired [] ((pre ++ anchor :: (head :: inner ++ tool :: hooks)).map
      (item handler clock session.sessionId))) :
    ToolPaired [] ((nextStep pre (head :: inner) hooks anchor tool).map
      (item handler clock session.sessionId)) := by
  have hrole : (item handler clock session.sessionId anchor).role = .user := by
    obtain ⟨request, hreq⟩ := chain.anchor
    rw [item_role, hreq]
    rfl
  rw [map_append, map_cons] at hpair
  have hplain := move_of_plain (.inr hrole)
  obtain ⟨hpre, haft⟩ := Paired.split (fun key => by rw [hplain]; exact nofun) hpair
  have hcontexts : ToolPaired [] ((hooks.map asUser).map
      (item handler clock session.sessionId)) := by
    refine .of_plain fun message hm => ?_
    rw [map_map] at hm
    obtain ⟨entry, -, rfl⟩ := mem_map.mp hm
    exact move_of_plain (.inr item_role)
  have hkept : ToolPaired [] ((anchor :: (head :: inner ++ [tool])).map
      (item handler clock session.sessionId) ++
        hooks.map (item handler clock session.sessionId)) := by
    simpa using haft
  rw [nextStep, map_append, map_append]
  refine (hpre.append hcontexts).append (hkept.of_append_plain fun message hm => ?_)
  obtain ⟨entry, hent, rfl⟩ := mem_map.mp hm
  obtain ⟨context, hcontext⟩ := chain.hooks entry hent
  refine move_of_plain (.inl ?_)
  rw [item_role, hcontext]
  rfl

/-- The messages for the next step have their system messages first exactly when the stored
    ones have their hook contexts first, those at the end apart. -/
theorem OpenChain.systemFirst_iff (chain : OpenChain inner hooks anchor head tool)
    {drafts : List MessageDraft} (stored : Stored handler clock session drafts)
    (hsnd : ∀ draft ∈ drafts, draft.Sound)
    (hents : drafts.zipIdx = pre ++ anchor :: (head :: inner ++ tool :: hooks)) :
    SystemFirst ((nextStep pre (head :: inner) hooks anchor tool).map
      (item handler clock session.sessionId)) ↔ HooksFirst session none := by
  have hkept : session.messages.rdropWhile isLifecycleHookContext =
      (pre ++ anchor :: (head :: inner ++ [tool])).map
        (message handler clock session.sessionId) := by
    have hmsgs : session.messages = (pre ++ anchor :: head :: inner).map
        (message handler clock session.sessionId) ++
          message handler clock session.sessionId tool ::
            hooks.map (message handler clock session.sessionId) := by
      rw [stored.messages, hents]
      simp
    rw [hmsgs, rdropWhile_split]
    · simp
    · simp [isLifecycleHookContext, message, chain.tool]
    · intro message hm
      obtain ⟨entry, hent, rfl⟩ := mem_map.mp hm
      have hm' : entry ∈ drafts.zipIdx := by
        rw [hents]
        simp [hent]
      rw [isLifecycleHookContext_message
        (hsnd entry.1 (fst_mem_of_mem_zipIdx hm'))]
      obtain ⟨context, hcontext⟩ := chain.hooks entry hent
      rw [hcontext]
      rfl
  have hsubset : pre ++ anchor :: (head :: inner ++ [tool]) ⊆ drafts.zipIdx := by
    rw [hents]
    intro entry hent
    simp only [mem_append, mem_cons, not_mem_nil, or_false] at hent ⊢
    tauto
  have hspeaks : (item handler clock session.sessionId head).role = .assistant ∧
      (item handler clock session.sessionId head).speaks = true := by
    obtain ⟨content, reasoning, calls, hcalls, hhead⟩ := chain.head
    simp [item, hhead, assistantDraft, speaks, hcalls]
  have hanc : (item handler clock session.sessionId anchor).role = .user := by
    obtain ⟨request, hreq⟩ := chain.anchor
    rw [item_role, hreq]
    rfl
  rw [HooksFirst, hkept, stored.pairwise_iff hsnd hsubset, nextStep, map_append, map_append,
    map_append, map_cons, cons_append, map_cons]
  refine systemFirst_insert (fun message hm => ?_) hanc hspeaks.1 hspeaks.2
  rw [map_map] at hm
  obtain ⟨entry, -, rfl⟩ := mem_map.mp hm
  exact item_role

/-- **Hook contexts.** Whatever the turns were, the messages for the next request and for the
    next step of a chain of tool calls can be built, and no builder complains about a system
    message in them exactly when the hook contexts come first. -/
theorem hook_contexts_sendable_iff {currentInput : Option ChatMessage}
    (hnext : NextInput turns (sessionAfter texts handler clock sid nowMs turns)
      currentInput) :
    ∃ msgs, nextModelMessages (sessionAfter texts handler clock sid nowMs turns)
        currentInput = .ok msgs ∧
      (Sendable readers msgs ↔
        HooksFirst (sessionAfter texts handler clock sid nowMs turns) currentInput) := by
  have stored := sessionAfter_stored texts handler clock sid nowMs turns
  have hsnd := turns_sound turns
  cases hnext with
  | request hrole hfr =>
    refine ⟨_, nextModelMessages_request stored hsnd hrole hfr, ?_⟩
    have hlast : ∀ current : ChatMessage, ToolPaired []
        [(⟨current.messageId, .user, current.content, [], none, none⟩ : ModelMessageV1)] :=
      fun _ => .plain rfl .done
    rw [sendable_iff_systemFirst readers ((drafts_paired turns 0).append (hlast _)),
      systemFirst_concat (by simp), ← stored.pairwise_iff hsnd (List.Subset.refl _), HooksFirst,
      ← stored.messages]
  | continuation hopen =>
    obtain ⟨pre, inner, hooks, anchor, head, tool, chain, hents⟩ := exists_openChain hopen
    have hpair := @drafts_paired handler clock
      (sessionAfter texts handler clock sid nowMs turns).sessionId turns 0
    rw [hents] at hpair
    refine ⟨_, nextModelMessages_continuation stored hsnd hents chain.anchor
      chain.roles chain.tool chain.hooks, ?_⟩
    rw [sendable_iff_systemFirst readers (chain.paired hpair)]
    exact chain.systemFirst_iff stored hsnd hents

end Main

/-! ### Two conversations -/

/-- Readers for which every text is null. -/
def sampleReaders : ProviderReaders := ⟨fun _ => .ok .null, fun _ => none, fun _ => none⟩

def hookedTurn (request : String) : Turn :=
  ⟨["Keep answers short."], request, [], some ("Done.", none)⟩

def hookedSession (turns : List Turn) : SessionStateSnapshot :=
  sessionAfter (.compact fun _ => "") ⟨72000⟩ (fun n => n) "s" 0 turns

def nextRequest : ChatMessage := ⟨"next", .user, "And now?", 9, ∅⟩

theorem hook_contexts_sendable_first_turn :
    ∃ msgs, nextModelMessages (hookedSession [hookedTurn "Hello"]) (some nextRequest) =
        .ok msgs ∧ Sendable sampleReaders msgs := by
  have hnext : NextInput [hookedTurn "Hello"] (hookedSession [hookedTurn "Hello"])
      (some nextRequest) := .request rfl (by decide +kernel)
  obtain ⟨msgs, hmsgs, hiff⟩ := hook_contexts_sendable_iff (.compact fun _ => "")
    sampleReaders "s" 0 [hookedTurn "Hello"] hnext
  exact ⟨msgs, hmsgs, hiff.mpr (by decide +kernel)⟩

/-- When a hook speaks before the second request, the third one cannot be sent any more. -/
theorem second_hook_context_refused :
    nextRequest.messageId ∉
        (hookedSession [hookedTurn "Hello", hookedTurn "Go on"]).messages.map (·.messageId) ∧
      (nextModelMessages (hookedSession [hookedTurn "Hello", hookedTurn "Go on"])
          (some nextRequest) >>= fun msgs =>
        buildAnthropicMessages sampleReaders ⟨⟨none, msgs, []⟩, "", false⟩) =
          .error (.err
            "anthropic system message msg:s:3:3 appears after conversation content") ∧
      (nextModelMessages (hookedSession [hookedTurn "Hello", hookedTurn "Go on"])
          (some nextRequest) >>= fun msgs =>
        buildOpenaiCompatibleMessages sampleReaders ⟨⟨none, msgs, []⟩, "", false⟩) =
          .error (.err
            "openai-compatible system message msg:s:3:3 appears after conversation content") := by
  decide +kernel

end Centaeris
