import Centaeris.Runtime.ContextWindow
import Centaeris.Runtime.SystemFirst

namespace Centaeris

open Foundation List

/-!
# Lifecycle hook contexts in the conversation

What lifecycle hooks say is stored as system messages in the middle of the conversation.
-/

/-! ### Storing messages -/

structure MessageHandler where
  maxMessageChars : Nat
deriving DecidableEq

def sanitizeMessage (content : String) (maxChars : Nat) : String :=
  let trimmed := trim content
  if trimmed.length ≤ maxChars then trimmed else String.ofList (trimmed.toList.take maxChars)

/-- What is given to the handler for a message. -/
structure MessageDraft where
  role : MessageRole
  content : String
  metadata : Table String String
  semantics : ModelMessageSemanticsV1

def messageIdText (sid : String) (nowMs : Int) (count : Nat) : String :=
  "msg:" ++ sid ++ ":" ++ toString nowMs ++ ":" ++ count.repr

section Storing

variable (texts : AnchorTexts) (handler : MessageHandler) (clock : Nat → Int)

/-- A message is stored under an id of its own. -/
def MessageHandler.pushMessageWithSemantics (session : SessionStateSnapshot)
    (draft : MessageDraft) : SessionStateSnapshot :=
  let now := clock session.messages.length
  let messageId := messageIdText session.sessionId now session.messages.length
  refreshSessionContextWindow texts { session with
    messages := session.messages ++ [⟨messageId, draft.role,
      sanitizeMessage draft.content handler.maxMessageChars, now, draft.metadata⟩]
    modelSemantics := session.modelSemantics.insert messageId draft.semantics
    updatedAtMs := now }

def lifecycleHookContextDraft (context : String) : MessageDraft :=
  ⟨.system, "[Lifecycle hook context]\n" ++ trim context,
    (∅ : Table String String).insert lifecycleHookContextMetaKey "true", .plain⟩

def appendLifecycleHookContextMessages (session : SessionStateSnapshot)
    (contexts : List String) : SessionStateSnapshot :=
  contexts.foldl (fun session context =>
    if isBlank context then session
    else handler.pushMessageWithSemantics texts clock session
      (lifecycleHookContextDraft context)) session

/-! ### Turns -/

/-- A tool call with its result. -/
structure ToolExchange where
  call : ModelToolCallStateV1
  content : String
  status : String
  resultState : String
  errorKind : Option String
  objectRefs : List String
  transitionReason : Option String
  /-- The images of the result for the model, as they are written to the metadata. -/
  imageSources : Option String
deriving DecidableEq

/-- An assistant message with tool calls, their results, and what the hooks say afterwards. -/
structure ToolBatch where
  content : String
  reasoningContent : Option String
  exchanges : List ToolExchange
  hookContexts : List String
  exchanges_ne : exchanges ≠ []

/-- A turn: what the hooks say, the user's request, the batches of tool calls, and the final
    message of the assistant if there is one. -/
structure Turn where
  hookContexts : List String
  request : String
  batches : List ToolBatch
  /-- The text and the reasoning of the final message. -/
  reply : Option (String × Option String)

def userRequestDraft (request : String) : MessageDraft :=
  ⟨.user, request, (∅ : Table String String).insert messageSemanticKindKey "user_request", .plain⟩

def assistantDraft (content : String) (reasoningContent : Option String)
    (calls : List ModelToolCallStateV1) : MessageDraft :=
  ⟨.assistant, content, ∅, .assistant reasoningContent calls⟩

def modelInputImageSourcesKey : String := "model_input_image_sources_v1_json"

def toolResultDraft (exchange : ToolExchange) : MessageDraft :=
  ⟨.tool, exchange.content,
    match exchange.imageSources with
    | none => ∅
    | some sources => (∅ : Table String String).insert modelInputImageSourcesKey sources,
    .toolResult exchange.call.id exchange.call.name exchange.status exchange.resultState
      exchange.errorKind exchange.objectRefs exchange.transitionReason⟩

def appendToolBatch (session : SessionStateSnapshot) (batch : ToolBatch) :
    SessionStateSnapshot :=
  let session := handler.pushMessageWithSemantics texts clock session
    (assistantDraft batch.content batch.reasoningContent (batch.exchanges.map (·.call)))
  let session := batch.exchanges.foldl (fun session exchange =>
    handler.pushMessageWithSemantics texts clock session (toolResultDraft exchange)) session
  appendLifecycleHookContextMessages texts handler clock session batch.hookContexts

/-- The messages of one turn, in the order of the runtime. -/
def appendTurn (session : SessionStateSnapshot) (turn : Turn) : SessionStateSnapshot :=
  let session := appendLifecycleHookContextMessages texts handler clock session turn.hookContexts
  let session := handler.pushMessageWithSemantics texts clock session
    (userRequestDraft turn.request)
  let session := turn.batches.foldl (appendToolBatch texts handler clock) session
  match turn.reply with
  | none => session
  | some (content, reasoningContent) => handler.pushMessageWithSemantics texts clock session
      (assistantDraft content reasoningContent [])

def sessionAfter (sid : String) (nowMs : Int) (turns : List Turn) : SessionStateSnapshot :=
  turns.foldl (appendTurn texts handler clock) (.new sid nowMs)

end Storing

/-! ### Messages for the next request -/

/-- The hook contexts after the last tool result, as user messages in front of the anchor. -/
def spliceLifecycleContexts (messages : List ChatMessage) (anchorMessageId : String) :
    Outcome (List ChatMessage) :=
  match lastWhere? (fun message => message.role == .tool) messages with
  | none => pure messages
  | some (_, lastToolIndex) =>
    let kept := messages.take (lastToolIndex + 1)
    let contexts := messages.drop (lastToolIndex + 1)
    if contexts.isEmpty then pure kept
    else do
      let anchorIndex ← orPanic (kept.findIdx? (·.messageId == anchorMessageId))
        "resolved continuation anchor remains in context"
      pure (kept.take anchorIndex ++ contexts.map (fun message => { message with role := .user }) ++
        kept.drop anchorIndex)

/-- The user message that a continued chain of tool calls answers to. -/
def continuationAnchor (baseContextWindow : List ChatMessage) : Outcome String := do
  let (lastModelMessage, lastModelMessageIndex) ←
    orFail (lastWhere? (fun message => message.role != .system) baseContextWindow)
      "tool_continuation_requires_transcript"
  ensure (lastModelMessage.role == .tool)
    ("tool_continuation_requires_tool_result_tail: messageId=" ++ lastModelMessage.messageId ++
      " role=" ++ lastModelMessage.role.debugName)
  match (baseContextWindow.drop (lastModelMessageIndex + 1)).find?
      (fun message => !isLifecycleHookContext message) with
  | some message =>
    fail ("tool_continuation_trailing_context_invalid: messageId=" ++ message.messageId)
  | none =>
    let (anchor, _) ← orFail
      (lastWhere? isReliableToolChainUserAnchor (baseContextWindow.take lastModelMessageIndex))
      "tool_continuation_reliable_user_anchor_missing"
    pure anchor.messageId

/-- The messages for the next user request, or for the next step of a chain of tool calls; the
    latter turns the hook contexts after the last tool result into user messages in front of the
    request. -/
def buildModelContextMessages (baseContextWindow : List ChatMessage)
    (currentInput : Option ChatMessage) : Outcome (List ChatMessage × String) :=
  match currentInput with
  | none => do
    let anchorMessageId ← continuationAnchor baseContextWindow
    let contextMessages ← spliceLifecycleContexts baseContextWindow anchorMessageId
    pure (contextMessages, anchorMessageId)
  | some current =>
    match baseContextWindow.find? (·.messageId == current.messageId) with
    | some existing => do
      ensure (existing.role == current.role && existing.content == current.content)
        "current_user_message_identity_conflict"
      pure (baseContextWindow, current.messageId)
    | none => pure (baseContextWindow ++ [current], current.messageId)

/-- Messages without a stored meaning are plain, which only system and user messages can be. -/
def addPlainSemantics (session : SessionStateSnapshot) (message : ChatMessage) :
    Outcome SessionStateSnapshot :=
  if (session.modelSemantics[message.messageId]?).isSome then pure session
  else do
    ensure (message.role == .system || message.role == .user)
      ("model_message_semantics_missing: messageId=" ++ message.messageId)
    pure { session with
      modelSemantics := session.modelSemantics.insert message.messageId .plain }

def nextModelMessages (session : SessionStateSnapshot) (currentInput : Option ChatMessage) :
    Outcome (List ModelMessageV1) := do
  let (contextMessages, _) ← buildModelContextMessages session.contextWindow currentInput
  let session ← contextMessages.foldlM addPlainSemantics session
  projectSessionMessagesToModelMessages session contextMessages

/-! ### The drafts of a turn -/

def hookDrafts (contexts : List String) : List MessageDraft :=
  (contexts.filter (!isBlank ·)).map lifecycleHookContextDraft

def ToolBatch.drafts (batch : ToolBatch) : List MessageDraft :=
  assistantDraft batch.content batch.reasoningContent (batch.exchanges.map (·.call)) ::
    (batch.exchanges.map toolResultDraft ++ hookDrafts batch.hookContexts)

def Turn.replyDrafts (turn : Turn) : List MessageDraft :=
  (turn.reply.map fun reply => assistantDraft reply.1 reply.2 []).toList

def Turn.drafts (turn : Turn) : List MessageDraft :=
  hookDrafts turn.hookContexts ++ userRequestDraft turn.request ::
    (turn.batches.flatMap ToolBatch.drafts ++ turn.replyDrafts)

/-- The role and the meaning of a draft fit together. -/
def MessageDraft.wellTyped (draft : MessageDraft) : Bool :=
  match draft.role, draft.semantics with
  | .system, .plain | .user, .plain | .assistant, .plain | .assistant, .assistant .. |
    .tool, .toolResult .. => true
  | _, _ => false

/-- What holds of every draft of a turn. -/
structure MessageDraft.Sound (draft : MessageDraft) : Prop where
  typed : draft.wellTyped = true
  unmarked : draft.metadata["kind"]? = none
  hook : draft.role = .system → draft.metadata[lifecycleHookContextMetaKey]? = some "true"

variable {draft : MessageDraft}

theorem hookDrafts_sound {contexts : List String} (h : draft ∈ hookDrafts contexts) :
    draft.Sound ∧ draft.role = .system := by
  obtain ⟨context, -, rfl⟩ := mem_map.mp h
  refine ⟨⟨rfl, ?_, fun _ => ?_⟩, rfl⟩
  · simp [lifecycleHookContextDraft, lifecycleHookContextMetaKey]
  · simp [lifecycleHookContextDraft]

theorem userRequestDraft_sound (request : String) : (userRequestDraft request).Sound := by
  refine ⟨rfl, ?_, nofun⟩
  simp [userRequestDraft, messageSemanticKindKey]

theorem assistantDraft_sound (content : String) (reasoning : Option String)
    (calls : List ModelToolCallStateV1) : (assistantDraft content reasoning calls).Sound := by
  refine ⟨rfl, ?_, nofun⟩
  simp [assistantDraft]

theorem toolResultDraft_sound (exchange : ToolExchange) : (toolResultDraft exchange).Sound := by
  refine ⟨rfl, ?_, nofun⟩
  cases hsources : exchange.imageSources <;>
    simp [toolResultDraft, hsources, modelInputImageSourcesKey]

theorem ToolBatch.drafts_sound {batch : ToolBatch} (h : draft ∈ batch.drafts) :
    draft.Sound ∧ draft.role ≠ .user := by
  rw [ToolBatch.drafts, mem_cons, mem_append, mem_map] at h
  rcases h with rfl | ⟨exchange, -, rfl⟩ | hhook
  · exact ⟨assistantDraft_sound _ _ _, nofun⟩
  · exact ⟨toolResultDraft_sound exchange, nofun⟩
  · obtain ⟨hsnd, hrole⟩ := hookDrafts_sound hhook
    exact ⟨hsnd, by simp [hrole]⟩

theorem Turn.drafts_sound {turn : Turn} (h : draft ∈ turn.drafts) :
    draft.Sound := by
  rw [Turn.drafts, mem_append, mem_cons, mem_append, mem_flatMap] at h
  rcases h with hhook | rfl | ⟨batch, -, hbatch⟩ | hreply
  · exact (hookDrafts_sound hhook).1
  · exact userRequestDraft_sound turn.request
  · exact (ToolBatch.drafts_sound hbatch).1
  · simp only [Turn.replyDrafts, Option.mem_toList, Option.map_eq_some_iff] at hreply
    obtain ⟨reply, -, rfl⟩ := hreply
    exact assistantDraft_sound _ _ _

section Drafts

variable (texts : AnchorTexts) (handler : MessageHandler) (clock : Nat → Int)

theorem appendLifecycleHookContextMessages_eq (session : SessionStateSnapshot)
    (contexts : List String) :
    appendLifecycleHookContextMessages texts handler clock session contexts =
      (hookDrafts contexts).foldl (handler.pushMessageWithSemantics texts clock) session := by
  induction contexts generalizing session with
  | nil => rfl
  | cons context contexts ih =>
    rw [appendLifecycleHookContextMessages, foldl_cons]
    cases hblk : isBlank context with
    | true =>
      rw [hookDrafts, filter_cons_of_neg (by simp [hblk]), if_pos rfl]
      exact ih session
    | false =>
      rw [hookDrafts, filter_cons_of_pos (by simp [hblk]), map_cons, foldl_cons,
        if_neg (by simp)]
      exact ih _

theorem appendTurn_eq (session : SessionStateSnapshot) (turn : Turn) :
    appendTurn texts handler clock session turn =
      turn.drafts.foldl (handler.pushMessageWithSemantics texts clock) session := by
  have hbatches : ∀ session : SessionStateSnapshot,
      turn.batches.foldl (appendToolBatch texts handler clock) session =
        (turn.batches.flatMap ToolBatch.drafts).foldl
          (handler.pushMessageWithSemantics texts clock) session := by
    intro session
    rw [foldl_flatMap]
    congr
    funext session batch
    rw [ToolBatch.drafts, foldl_cons, foldl_append, foldl_map,
      ← appendLifecycleHookContextMessages_eq]
    rfl
  rw [Turn.drafts, foldl_append, ← appendLifecycleHookContextMessages_eq, foldl_cons,
    foldl_append, ← hbatches, appendTurn, Turn.replyDrafts]
  cases turn.reply <;> rfl

end Drafts

/-! ### What a session stores -/

abbrev StoredDraft := MessageDraft × Nat

namespace StoredDraft

variable (handler : MessageHandler) (clock : Nat → Int) (sid : String)

def messageId (entry : StoredDraft) : String :=
  messageIdText sid (clock entry.2) entry.2

def message (entry : StoredDraft) : ChatMessage :=
  ⟨messageId clock sid entry, entry.1.role,
    sanitizeMessage entry.1.content handler.maxMessageChars, clock entry.2, entry.1.metadata⟩

/-- The message that is sent. -/
def item (entry : StoredDraft) : ModelMessageV1 :=
  let content := sanitizeMessage entry.1.content handler.maxMessageChars
  match entry.1.semantics with
  | .plain => ⟨messageId clock sid entry, entry.1.role, content, [], none, none⟩
  | .assistant reasoningContent calls =>
    ⟨messageId clock sid entry, entry.1.role, content,
      calls.map fun call => ⟨call.id, call.name, call.argsJson⟩, none, reasoningContent⟩
  | .toolResult toolCallId .. =>
    ⟨messageId clock sid entry, entry.1.role, content, [], some toolCallId, none⟩

variable {handler clock sid} {entry : StoredDraft}

theorem item_role : (item handler clock sid entry).role = entry.1.role := by
  unfold item
  cases entry.1.semantics <;> rfl

theorem project_message (h : entry.1.Sound) :
    projectChatMessageToModelMessage (message handler clock sid entry) entry.1.semantics =
      .ok (item handler clock sid entry) := by
  obtain ⟨⟨role, content, metadata, semantics⟩, place⟩ := entry
  have htyped := h.typed
  cases role <;> cases semantics <;> simp [MessageDraft.wellTyped] at htyped
  all_goals
    simp only [projectChatMessageToModelMessage, message, item]
    rfl

theorem isLifecycleHookContext_message (h : entry.1.Sound) :
    isLifecycleHookContext (message handler clock sid entry) =
      (entry.1.role == .system) := by
  unfold isLifecycleHookContext message
  by_cases hsystem : entry.1.role = .system
  · simp [hsystem, h.hook hsystem]
  · simp [hsystem]

end StoredDraft

/-- The session holds the messages of these drafts, with their meanings, and all of them are
    in the window. -/
structure Stored (handler : MessageHandler) (clock : Nat → Int) (session : SessionStateSnapshot)
    (drafts : List MessageDraft) : Prop where
  messages : session.messages = drafts.zipIdx.map (StoredDraft.message handler clock session.sessionId)
  meaning : ∀ entry ∈ drafts.zipIdx,
    session.modelSemantics[StoredDraft.messageId clock session.sessionId entry]? =
      some entry.1.semantics
  known : ∀ messageId semantics, session.modelSemantics[messageId]? = some semantics →
    messageId ∈ session.messages.map (·.messageId)
  window : session.contextWindow = session.messages

namespace Stored

variable {handler : MessageHandler} {clock : Nat → Int}

theorem new (sid : String) (nowMs : Int) :
    Stored handler clock (.new sid nowMs) [] :=
  ⟨rfl, by simp, by simp [SessionStateSnapshot.new], rfl⟩

variable {session : SessionStateSnapshot} {drafts : List MessageDraft}

theorem length (stored : Stored handler clock session drafts) :
    session.messages.length = drafts.length := by
  rw [stored.messages, length_map, length_zipIdx]

/-- **One message.** Storing a sound draft adds it at the end. -/
theorem push (texts : AnchorTexts) (stored : Stored handler clock session drafts)
    (hsnd : ∀ d ∈ drafts ++ [draft], d.Sound) :
    Stored handler clock (handler.pushMessageWithSemantics texts clock session draft)
      (drafts ++ [draft]) := by
  have hents : (drafts ++ [draft]).zipIdx = drafts.zipIdx ++ [(draft, drafts.length)] := by
    rw [zipIdx_append, Nat.zero_add, zipIdx_singleton]
  have hmsgs : session.messages ++ [StoredDraft.message handler clock session.sessionId
      (draft, session.messages.length)] =
        (drafts ++ [draft]).zipIdx.map (StoredDraft.message handler clock session.sessionId) := by
    rw [hents, map_append, ← stored.messages, stored.length]
    rfl
  have hfr : ∀ entry ∈ drafts.zipIdx,
      messageIdText session.sessionId (clock session.messages.length) session.messages.length ≠
        StoredDraft.messageId clock session.sessionId entry := by
    intro entry hent heq
    have hplc : session.messages.length = entry.2 := eq_of_append_colon_repr heq
    have hlt : entry.2 < drafts.length := by
      simpa using snd_lt_add_of_mem_zipIdx hent
    rw [stored.length] at hplc
    omega
  refine ⟨hmsgs, ?_, ?_, ?_⟩
  · intro entry hent
    rw [hents, mem_append, mem_singleton] at hent
    show (session.modelSemantics.insert _ draft.semantics)[
      StoredDraft.messageId clock session.sessionId entry]? = _
    rw [Table.getElem?_insert]
    rcases hent with hold | rfl
    · rw [if_neg (hfr entry hold)]
      exact stored.meaning entry hold
    · rw [stored.length]
      exact if_pos rfl
  · intro messageId semantics hsem
    replace hsem : (session.modelSemantics.insert _ draft.semantics)[messageId]? =
      some semantics := hsem
    show messageId ∈ (session.messages ++ [_]).map _
    rw [map_append, mem_append]
    obtain ⟨heq, -⟩ | ⟨-, hold⟩ := Table.found_of_insert hsem
    · exact .inr (by simp [← heq])
    · exact .inl (stored.known messageId semantics hold)
  · show (activeProjectionMessages texts (session.messages ++ [_])).1 = session.messages ++ [_]
    rw [activeProjectionMessages_of_no_summary]
    intro message hm
    replace hm : message ∈
      (drafts ++ [draft]).zipIdx.map (StoredDraft.message handler clock session.sessionId) :=
      hmsgs ▸ hm
    obtain ⟨entry, hent, rfl⟩ := mem_map.mp hm
    have hunmarked := (hsnd entry.1 (fst_mem_of_mem_zipIdx hent)).unmarked
    simp [isContextCompactionSummary, StoredDraft.message, hunmarked]

/-- **Many messages.** Storing sound drafts one after the other adds them all. -/
theorem pushAll (texts : AnchorTexts) (stored : Stored handler clock session drafts)
    {more : List MessageDraft} (hsnd : ∀ d ∈ drafts ++ more, d.Sound) :
    Stored handler clock (more.foldl (handler.pushMessageWithSemantics texts clock) session)
      (drafts ++ more) := by
  induction more generalizing session drafts with
  | nil => simpa using stored
  | cons draft more ih =>
    rw [append_cons] at hsnd ⊢
    refine ih (stored.push texts fun d hd => hsnd d (mem_append_left more hd)) hsnd

end Stored

/-! ### The messages of a continued chain of tool calls -/

/-- The hook contexts after the last tool result go in front of the request. -/
theorem buildModelContextMessages_continuation {pre middle hooks : List ChatMessage}
    {anchor tool : ChatMessage} (hanc : isReliableToolChainUserAnchor anchor = true)
    (hmid : ∀ message ∈ middle, message.role ≠ .user) (htool : tool.role = .tool)
    (hhooks : ∀ message ∈ hooks, isLifecycleHookContext message = true)
    (hid : ∀ message ∈ pre, message.messageId ≠ anchor.messageId) :
    buildModelContextMessages (pre ++ anchor :: (middle ++ tool :: hooks)) none =
      .ok (pre ++ hooks.map (fun message => { message with role := .user }) ++
        anchor :: (middle ++ [tool]), anchor.messageId) := by
  have hsystem : ∀ message ∈ hooks, message.role = .system := by
    intro message hm
    have hhook := hhooks message hm
    simp only [isLifecycleHookContext, bool_rules] at hhook
    exact hhook.1
  have hsp : pre ++ anchor :: (middle ++ tool :: hooks) =
      (pre ++ anchor :: middle) ++ tool :: hooks := by simp
  have hlast : lastWhere? (fun message => message.role != .system)
      ((pre ++ anchor :: middle) ++ tool :: hooks) =
        some (tool, (pre ++ anchor :: middle).length) :=
    lastWhere?_split (by simp [htool]) fun message hm => by simp [hsystem message hm]
  have hlastTool : lastWhere? (fun message => message.role == .tool)
      ((pre ++ anchor :: middle) ++ tool :: hooks) =
        some (tool, (pre ++ anchor :: middle).length) :=
    lastWhere?_split (by simp [htool]) fun message hm => by simp [hsystem message hm]
  have hlen : ((pre ++ anchor :: middle) ++ [tool]).length =
      (pre ++ anchor :: middle).length + 1 := length_append
  have htake : ((pre ++ anchor :: middle) ++ tool :: hooks).take
      ((pre ++ anchor :: middle).length + 1) = pre ++ anchor :: (middle ++ [tool]) := by
    rw [append_cons _ tool, take_left' hlen]
    simp
  have hdrop : ((pre ++ anchor :: middle) ++ tool :: hooks).drop
      ((pre ++ anchor :: middle).length + 1) = hooks := by
    rw [append_cons _ tool, drop_left' hlen]
  have hfd : lastWhere? isReliableToolChainUserAnchor (pre ++ anchor :: middle) =
      some (anchor, pre.length) := by
    refine lastWhere?_split hanc fun message hm => ?_
    simp [isReliableToolChainUserAnchor, hmid message hm]
  have hclean : hooks.find? (fun message => !isLifecycleHookContext message) = none := by
    rw [find?_eq_none]
    intro message hm
    simp [hhooks message hm]
  have hresv : continuationAnchor ((pre ++ anchor :: middle) ++ tool :: hooks) =
      .ok anchor.messageId := by
    simp only [continuationAnchor, hlast, orFail, Outcome.ok_bind, htool, hdrop, hclean,
      take_left, hfd, beq_self_eq_true, ensure, if_true]
    rfl
  have hplc : (pre ++ anchor :: (middle ++ [tool])).findIdx?
      (·.messageId == anchor.messageId) = some pre.length :=
    findIdx?_split (by simp) fun message hm => by simp [hid message hm]
  rw [hsp, buildModelContextMessages, hresv, Outcome.ok_bind]
  simp only [spliceLifecycleContexts, hlastTool, htake, hdrop, hplc, orPanic, Outcome.ok_bind,
    take_left, drop_left]
  cases hooks with
  | nil => simp [pure, Except.pure, bind, Except.bind]
  | cons first rest => rfl

/-! ### Messages that are sent -/

/-- The message that is sent for a stored one. -/
def SessionStateSnapshot.modelMessage? (session : SessionStateSnapshot) (message : ChatMessage) :
    Option ModelMessageV1 :=
  (session.modelSemanticsFor message.messageId >>=
    projectChatMessageToModelMessage message).toOption

/-- Whether a stored message can become conversation content. -/
def SessionStateSnapshot.speaks (session : SessionStateSnapshot) (message : ChatMessage) : Bool :=
  (session.modelMessage? message).any (·.speaks)

/-- No hook context stands after a message that speaks; for a continued chain of tool calls,
    those at the end do not count. -/
def HooksFirst (session : SessionStateSnapshot) (currentInput : Option ChatMessage) : Prop :=
  (match currentInput with
    | some _ => session.messages
    | none => session.messages.rdropWhile isLifecycleHookContext).Pairwise
    fun earlier later => session.speaks earlier = true → isLifecycleHookContext later = false

instance (session : SessionStateSnapshot) (currentInput : Option ChatMessage) :
    Decidable (HooksFirst session currentInput) := by
  unfold HooksFirst
  infer_instance

variable {entry : StoredDraft}

theorem StoredDraft.project_of_meaning {handler : MessageHandler} {clock : Nat → Int}
    {session : SessionStateSnapshot} {sid : String}
    (hmeaning : session.modelSemantics[StoredDraft.messageId clock sid entry]? =
      some entry.1.semantics) (hsnd : entry.1.Sound) :
    (session.modelSemanticsFor (StoredDraft.message handler clock sid entry).messageId >>=
      projectChatMessageToModelMessage (StoredDraft.message handler clock sid entry)) =
      .ok (StoredDraft.item handler clock sid entry) := by
  have hsem : session.modelSemanticsFor
      (StoredDraft.message handler clock sid entry).messageId = .ok entry.1.semantics := by
    rw [SessionStateSnapshot.modelSemanticsFor, orFail_eq_ok]
    exact hmeaning
  rw [hsem, Outcome.ok_bind, StoredDraft.project_message hsnd]

namespace Stored

variable {handler : MessageHandler} {clock : Nat → Int} {session : SessionStateSnapshot}
  {drafts : List MessageDraft}

variable (stored : Stored handler clock session drafts)

include stored

theorem project (hent : entry ∈ drafts.zipIdx) (hsnd : entry.1.Sound) :
    (session.modelSemanticsFor
        (StoredDraft.message handler clock session.sessionId entry).messageId >>=
      projectChatMessageToModelMessage
        (StoredDraft.message handler clock session.sessionId entry)) =
      .ok (StoredDraft.item handler clock session.sessionId entry) :=
  StoredDraft.project_of_meaning (stored.meaning entry hent) hsnd

theorem speaks (hent : entry ∈ drafts.zipIdx) (hsnd : entry.1.Sound) :
    session.speaks (StoredDraft.message handler clock session.sessionId entry) =
      (StoredDraft.item handler clock session.sessionId entry).speaks := by
  rw [SessionStateSnapshot.speaks, SessionStateSnapshot.modelMessage?, stored.project hent hsnd]
  rfl

theorem pairwise_iff (hsnd : ∀ draft ∈ drafts, draft.Sound) {entries : List StoredDraft}
    (hents : entries ⊆ drafts.zipIdx) :
    (entries.map (StoredDraft.message handler clock session.sessionId)).Pairwise
        (fun earlier later =>
          session.speaks earlier = true → isLifecycleHookContext later = false) ↔
      SystemFirst (entries.map (StoredDraft.item handler clock session.sessionId)) := by
  rw [SystemFirst, pairwise_map, pairwise_map]
  apply List.Pairwise.iff_of_mem
  intro earlier later hearlier hlat
  have hof : ∀ entry ∈ drafts.zipIdx, entry.1.Sound := fun entry hent =>
    hsnd entry.1 (fst_mem_of_mem_zipIdx hent)
  rw [stored.speaks (hents hearlier) (hof _ (hents hearlier)),
    StoredDraft.isLifecycleHookContext_message (hof _ (hents hlat)), StoredDraft.item_role]
  simp

end Stored

end Centaeris
