import Centaeris.Runtime.ContextWindow

namespace Centaeris

open Foundation

/-!
# Prompt compaction

When the window grows too large, a summary takes the place of its older messages.

Token counts are numbers of 32 bits that stop at their largest value.
-/

/-! ### Token estimates -/

/-- The largest number of 32 bits. -/
def u32Max : Nat := 2 ^ 32 - 1

/-- Addition that stops at the largest number of 32 bits. -/
def saturatingAdd (a b : Nat) : Nat := min (a + b) u32Max

def MessageRole.wireName : MessageRole → String
  | .system => "system"
  | .user => "user"
  | .assistant => "assistant"
  | .tool => "tool"

def ModelMessageV1.toJson (message : ModelMessageV1) : Json :=
  let calls := message.toolCalls.map fun call => Json.object
    [("id", .string call.id), ("name", .string call.name), ("argsJson", .string call.argsJson)]
  .object ([("messageId", .string message.messageId), ("role", .string message.role.wireName),
    ("content", .string message.content)] ++
    (if calls.isEmpty then [] else [("toolCalls", .array calls)]) ++
    (message.toolCallId.map fun id => ("toolCallId", Json.string id)).toList ++
    (message.reasoningContent.map fun text => ("reasoningContent", Json.string text)).toList)

/-- A quarter of the characters of the JSON text, rounded up. -/
def estimateProjectedMessageTokens (message : ChatMessage) (semantics : ModelMessageSemanticsV1) :
    Outcome Nat := do
  let projected ← projectChatMessageToModelMessage message semantics
  pure (min ((projected.toJson.render.length + 3) / 4) u32Max)

def estimateMessagesTokens (messages : List ChatMessage)
    (modelSemantics : Table String ModelMessageSemanticsV1) : Outcome Nat :=
  messages.foldlM (fun total message => do
    let semantics ← orFail modelSemantics[message.messageId]?
      ("model_message_semantics_missing: messageId=" ++ message.messageId)
    let tokens ← estimateProjectedMessageTokens message semantics
    pure (saturatingAdd total tokens)) 0

/-- A quarter of the characters of a summary, rounded down. -/
def estimateSummaryTokens (text : String) : Nat := min (text.length / 4) u32Max

/-! ### Pressure -/

structure PromptCompactionConfig where
  modelContextTokens : Nat
  modelMaxOutputTokens : Nat
  triggerHeadroomTokens : Nat
  userReplayTokens : Nat
  summaryMaxTokens : Nat
deriving DecidableEq

structure PromptCompactionPressure where
  mainMaxOutputTokens : Nat
  mainInputLimitTokens : Nat
  estimatedInputTokens : Nat
  triggerHeadroomTokens : Nat
  triggerInputTokens : Nat
  pressureBasisPoints : Nat
deriving DecidableEq

def calculatePromptCompactionPressure (estimatedInputTokens : Nat)
    (config : PromptCompactionConfig) : Outcome PromptCompactionPressure := do
  let mainOutputTokens := config.modelMaxOutputTokens
  ensure (mainOutputTokens != 0) "main request output budget must be positive"
  ensure (decide (mainOutputTokens < config.modelContextTokens))
    ("model_context_budget_invalid: modelContextTokens=" ++ config.modelContextTokens.repr ++
      " mainMaxOutputTokens=" ++ mainOutputTokens.repr)
  let mainInputLimitTokens := config.modelContextTokens - mainOutputTokens
  let triggerHeadroomTokens := min config.triggerHeadroomTokens (mainInputLimitTokens / 4)
  pure ⟨mainOutputTokens, mainInputLimitTokens, estimatedInputTokens, triggerHeadroomTokens,
    mainInputLimitTokens - triggerHeadroomTokens,
    min (estimatedInputTokens * 10000 / mainInputLimitTokens) u32Max⟩

def contextPressureReachesTrigger (pressure : PromptCompactionPressure) : Bool :=
  decide (pressure.triggerInputTokens ≤ pressure.estimatedInputTokens)

/-! ### The boundary -/

structure PromptCompactionBoundaryPlan where
  splitIndex : Nat
  prefixTokenEstimate : Nat
  liveTailTokenEstimate : Nat
  boundaryReason : String
  causalAnchor : Option ChatMessage
deriving DecidableEq

section Boundary

variable (messages : List ChatMessage) (modelSemantics : Table String ModelMessageSemanticsV1)

def toolResultSemanticsCallId (message : ChatMessage) : Option String :=
  if message.role == .tool then
    match modelSemantics[message.messageId]? with
    | some (.toolResult toolCallId ..) => if trim toolCallId != "" then some toolCallId else none
    | _ => none
  else none

def assistantSemanticsHasToolCall (toolCallId : String) (message : ChatMessage) : Bool :=
  message.role == .assistant &&
    match modelSemantics[message.messageId]? with
    | some (.assistant _ toolCalls) => toolCalls.any (·.id == toolCallId)
    | _ => false

def findAssistantSemanticsForToolCall (beforeIndex : Nat) (toolCallId : String) : Option Nat :=
  (lastWhere? (assistantSemanticsHasToolCall modelSemantics toolCallId)
    (messages.take beforeIndex)).map (·.2)

/-- The assistant message that a tool result at a place answers. -/
def assistantOfResult (message : ChatMessage) (index : Nat) : Outcome Nat := do
  let callId ← orFail (toolResultSemanticsCallId modelSemantics message)
    "tool_result_missing_trace"
  orFail (findAssistantSemanticsForToolCall messages modelSemantics index callId)
    ("tool_result_missing_assistant_semantics:" ++ callId)

/-- Whether the last message that is no hook context is a tool result. -/
def endsWithToolResult : Bool :=
  (lastWhere? (fun message => !isLifecycleHookContext message) messages).any
    fun entry => entry.1.role == .tool

/-- The cut in front of the last user message of a chain of tool calls, or at the end. -/
def originalSplitIndex : Nat :=
  if endsWithToolResult messages then
    ((lastWhere? isReliableToolChainUserAnchor messages).map (·.2)).getD messages.length
  else messages.length

/-- When older batches of the chain are complete, the cut moves to the latest batch, and the
    user message in front of them goes along. -/
def anchoredSplit : Outcome (Nat × Option ChatMessage) := do
  let original := originalSplitIndex messages
  if endsWithToolResult messages && decide (original < messages.length) then do
    let (lastTool, lastToolIndex) ←
      orPanic (lastWhere? (fun message => message.role == .tool) messages)
        "called Option::unwrap() on a None value"
    let latestBatch ← assistantOfResult messages modelSemantics lastTool lastToolIndex
    if decide (original < latestBatch) &&
        ((messages.take latestBatch).drop (original + 1)).any (·.role == .tool) then do
      validateModelContextWindow messages modelSemantics
      pure (latestBatch, messages[original]?)
    else pure (original, none)
  else pure (original, none)

/-- The cut moves in front of the assistant message of every result after it. -/
def expandToolBoundary (start : Nat) : Outcome Nat :=
  (messages.zipIdx.drop start).foldlM (fun split entry =>
    if entry.1.role == .tool then do
      let assistantIndex ← assistantOfResult messages modelSemantics entry.1 entry.2
      pure (min split assistantIndex)
    else pure split) start

def boundaryReasonOf (anchored : Bool) (split original : Nat) : String :=
  if anchored then "closed_tool_batches_with_causal_anchor_reference"
  else if split < original then "live_turn+tool_pair_boundary_expanded"
  else if split < messages.length then "live_turn"
  else "no_live_turn"

/-- Where the window is cut, and the user message that goes along. -/
def planLiveTurnBoundary : Outcome PromptCompactionBoundaryPlan :=
  if messages.isEmpty then pure ⟨0, 0, 0, "no_messages_to_plan", none⟩
  else do
    let (start, causalAnchor) ← anchoredSplit messages modelSemantics
    let split ← expandToolBoundary messages modelSemantics start
    let prefixTokens ← estimateMessagesTokens (messages.take split) modelSemantics
    let tailTokens ← estimateMessagesTokens (messages.drop split) modelSemantics
    let anchorTokens ← estimateMessagesTokens causalAnchor.toList modelSemantics
    pure ⟨split, prefixTokens, saturatingAdd tailTokens anchorTokens,
      boundaryReasonOf messages causalAnchor.isSome split (originalSplitIndex messages),
      causalAnchor⟩

end Boundary

/-! ### User replays -/

def isOriginalUserRequest (message : ChatMessage) : Bool :=
  message.role == .user && message.metadata["kind"]? != some promptCompactionUserReplayKind &&
    message.metadata[messageSemanticKindKey]? == some "user_request"

/-- Takes requests while their tokens fit. -/
def takeReplays (modelSemantics : Table String ModelMessageSemanticsV1) (tokenTarget : Nat) :
    List ChatMessage → Nat → Outcome (List ChatMessage × Nat)
  | [], selectedTokens => pure ([], selectedTokens)
  | message :: rest, selectedTokens => do
    let messageTokens ← estimateMessagesTokens [message] modelSemantics
    let total := saturatingAdd selectedTokens messageTokens
    if tokenTarget < total then pure ([], selectedTokens)
    else if tokenTarget ≤ total then pure ([message], total)
    else do
      let (selected, tokens) ← takeReplays modelSemantics tokenTarget rest total
      pure (message :: selected, tokens)

def replayMetadata (compactionId : String) (source : ChatMessage) : Table String String :=
  (∅ : Table String String) |>.insert "kind" promptCompactionUserReplayKind
    |>.insert "schema" "prompt_compaction_user_replay_v1"
    |>.insert compactionIdKey compactionId
    |>.insert "source_message_id" source.messageId
    |>.insert messageSemanticKindKey "user_request"

def replayMessage (sessionId compactionId compactionIdSuffix : String) (recordedAtMs : Int)
    (source : ChatMessage) (index : Nat) : ChatMessage :=
  ⟨"msg:" ++ sessionId ++ ":" ++ compactionIdSuffix ++ ":user_replay:" ++ index.repr, .user,
    source.content, recordedAtMs, replayMetadata compactionId source⟩

/-- The user requests that are repeated after the summary. -/
def selectUserReplayMessages (messages liveTail : List ChatMessage)
    (modelSemantics : Table String ModelMessageSemanticsV1) (tokenTarget : Nat)
    (sessionId compactionId compactionIdSuffix : String) (recordedAtMs : Int) :
    Outcome (List ChatMessage × Nat) := do
  let candidates := messages.reverse.filter fun message =>
    isOriginalUserRequest message && !liveTail.any (·.messageId == message.messageId)
  let (selected, selectedTokens) ← takeReplays modelSemantics tokenTarget candidates 0
  pure (selected.reverse.zipIdx.map fun entry =>
    replayMessage sessionId compactionId compactionIdSuffix recordedAtMs entry.1 entry.2,
    selectedTokens)

/-! ### Plans -/

structure PromptCompactionPlan where
  turnId : String
  sessionId : String
  recordedAtMs : Int
  beforeMessageCount : Nat
  beforeTokenEstimate : Nat
  pressure : PromptCompactionPressure
  prefixTokenEstimate : Nat
  userReplayTokenTarget : Nat
  userReplayTokenEstimate : Nat
  userReplayMessages : List ChatMessage
  liveTailTokenEstimate : Nat
  boundaryReason : String
  splitIndex : Nat
  prefixMessages : List ChatMessage
  prefixModelSemantics : List (String × ModelMessageSemanticsV1)
  suffix : List ChatMessage
  causalAnchorReference : Option String
  compactionId : String
  firstKeptMessageId : Option String
  summaryMaxTokens : Nat
  compactionMaxOutputTokens : Nat
  compactionInputLimitTokens : Nat
deriving DecidableEq

/-- Why there is no plan. -/
inductive PlanRefusal where
  | skipped (reason : String)
  | failed (reason : String)
  | panicked (message : String)
deriving DecidableEq

/-- An error of a part, as a failure of the plan. -/
def orFailed {α : Type} : Outcome α → Except PlanRefusal α
  | .ok a => .ok a
  | .error (.err message) => .error (.failed message)
  | .error (.panicked message) => .error (.panicked message)

/-- An error of a part, as a reason to skip the compaction. -/
def orSkipped {α : Type} : Outcome α → Except PlanRefusal α
  | .ok a => .ok a
  | .error (.err message) => .error (.skipped message)
  | .error (.panicked message) => .error (.panicked message)

def skipUnless (condition : Bool) (reason : String) : Except PlanRefusal Unit :=
  orSkipped (ensure condition reason)

/-- What a compaction is asked for with. -/
structure CompactionRequest where
  turnId : String
  config : PromptCompactionConfig
  promptInputTokenEstimate : Option Nat
  force : Bool
  recordedAtMs : Int
deriving DecidableEq

namespace CompactionRequest

variable (request : CompactionRequest)

/-- The turn and the time of a compaction. -/
def idSuffix : String := request.turnId ++ ":" ++ toString request.recordedAtMs

def compactionId : String := "prompt_compaction:" ++ request.idSuffix

end CompactionRequest

variable (texts : AnchorTexts)

def compactableActiveMessages (session : SessionStateSnapshot) : Outcome (List ChatMessage) := do
  let materialized := materializeContextWindow texts session.messages
  materialized.ensureValid
  pure materialized.messages

/-- The plan, or why there is none. -/
def planPromptCompaction (session : SessionStateSnapshot) (request : CompactionRequest) :
    Except PlanRefusal PromptCompactionPlan := do
  let config := request.config
  let messages ← orFailed (compactableActiveMessages texts session)
  let beforeTokens ← orFailed (estimateMessagesTokens messages session.modelSemantics)
  let pressure ← orFailed (calculatePromptCompactionPressure
    (request.promptInputTokenEstimate.getD beforeTokens) config)
  skipUnless (decide (1 < messages.length)) "insufficient_messages"
  skipUnless (request.force || contextPressureReachesTrigger pressure)
    "below_context_pressure_threshold"
  let boundary ← orSkipped (planLiveTurnBoundary messages session.modelSemantics)
  let split := boundary.splitIndex
  skipUnless (split != 0) "no_prefix_to_compact"
  let prefixSemantics ← orFailed ((messages.take split).mapM fun message => do
    let semantics ← session.modelSemanticsFor message.messageId
    pure (message.messageId, semantics))
  let suffix := messages.drop split
  let replayTarget := max config.userReplayTokens 1
  let (replays, replayTokens) ← orFailed (selectUserReplayMessages session.messages
    (suffix ++ boundary.causalAnchor.toList) session.modelSemantics replayTarget
    session.sessionId request.compactionId request.idSuffix request.recordedAtMs)
  let maxOutputTokens := min config.modelMaxOutputTokens config.summaryMaxTokens
  orFailed (ensure (maxOutputTokens != 0) "prompt compaction output budget must be positive")
  orFailed (ensure (decide (maxOutputTokens < config.modelContextTokens))
    "prompt compaction input budget is invalid")
  pure {
    turnId := request.turnId
    sessionId := session.sessionId
    recordedAtMs := request.recordedAtMs
    beforeMessageCount := messages.length
    beforeTokenEstimate := beforeTokens
    pressure
    prefixTokenEstimate := boundary.prefixTokenEstimate
    userReplayTokenTarget := replayTarget
    userReplayTokenEstimate := replayTokens
    userReplayMessages := replays
    liveTailTokenEstimate := boundary.liveTailTokenEstimate
    boundaryReason := boundary.boundaryReason
    splitIndex := split
    prefixMessages := messages.take split
    prefixModelSemantics := prefixSemantics
    suffix
    causalAnchorReference :=
      boundary.causalAnchor.map (compactionCausalAnchorReference texts)
    compactionId := request.compactionId
    firstKeptMessageId := suffix.head?.map (·.messageId)
    summaryMaxTokens := maxOutputTokens
    compactionMaxOutputTokens := maxOutputTokens
    compactionInputLimitTokens := config.modelContextTokens - maxOutputTokens }

def validateModelCompactionSummary (plan : PromptCompactionPlan) (content : String) :
    Outcome String := do
  ensure (!isBlank content) "model compaction summary is empty"
  ensure (decide (estimateSummaryTokens content ≤ plan.summaryMaxTokens))
    ("model compaction summary exceeds max tokens: " ++ (estimateSummaryTokens content).repr ++
      " > " ++ plan.summaryMaxTokens.repr)
  pure content

def buildCompactionMetadata (plan : PromptCompactionPlan) : Table String String :=
  let metadata := (∅ : Table String String) |>.insert "kind" contextCompactionKind
    |>.insert compactionIdKey plan.compactionId
  let metadata := match plan.causalAnchorReference with
    | some reference => metadata.insert causalAnchorReferenceKey reference
    | none => metadata
  match plan.firstKeptMessageId with
  | some firstKept => metadata.insert firstKeptMessageIdKey firstKept
  | none => metadata

def compactMessage (plan : PromptCompactionPlan) (summary : String) : ChatMessage :=
  ⟨"msg:" ++ plan.sessionId ++ ":" ++ plan.turnId ++ ":" ++ toString plan.recordedAtMs ++
    ":compact", .system, summary, plan.recordedAtMs, buildCompactionMetadata plan⟩

/-- The summary and the replays are added to the session. -/
def commitPromptCompaction (session : SessionStateSnapshot) (plan : PromptCompactionPlan)
    (summary : String) : SessionStateSnapshot :=
  let added := compactMessage plan summary :: plan.userReplayMessages
  refreshSessionContextWindow texts { session with
    messages := session.messages ++ added
    modelSemantics := added.foldl
      (fun semantics message => semantics.insert message.messageId .plain) session.modelSemantics
    updatedAtMs := plan.recordedAtMs }

end Centaeris
