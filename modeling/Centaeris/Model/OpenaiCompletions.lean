import Centaeris.Model.OpenaiResponses

namespace Centaeris

open Foundation

/-!
# The chat completions adapter

How a response text and a usage object are read is a parameter.
-/

structure OpenAiCompatibleUsage where
  promptTokens : Option Int
  totalTokens : Option Int
  promptTokensDetails : Option OpenAiTokenDetails
  promptCacheHitTokens : Option Int
  promptCacheMissTokens : Option Int
deriving DecidableEq

structure OpenAiCompatibleToolFunction where
  name : String
  arguments : String
deriving DecidableEq

structure OpenAiCompatibleToolCall where
  id : Option String
  function : OpenAiCompatibleToolFunction
  extraContent : Option Json
deriving DecidableEq

structure OpenAiCompatibleAssistantMessage where
  content : Option Json
  toolCalls : Option (List OpenAiCompatibleToolCall)
  reasoning : Option String
  reasoningContent : Option String
deriving DecidableEq

structure OpenAiCompatibleChoice where
  message : OpenAiCompatibleAssistantMessage
  finishReason : Option String
deriving DecidableEq

structure OpenAiCompatibleChatCompletionsResponse where
  id : Option String
  choices : List OpenAiCompatibleChoice
  usage : Option OpenAiCompatibleUsage
deriving DecidableEq

structure OpenAiCompatibleReaders extends ModelReaders where
  response : String → Except String OpenAiCompatibleChatCompletionsResponse
  usage : Json → Option OpenAiCompatibleUsage
  errorObject : String → Option OpenAiErrorObject

/-! ### Written responses -/

def OpenAiCompatibleUsage.toJson (usage : OpenAiCompatibleUsage) : Json :=
  .object [("prompt_tokens", jsonOption jsonInt usage.promptTokens),
    ("total_tokens", jsonOption jsonInt usage.totalTokens),
    ("prompt_tokens_details", jsonOption OpenAiTokenDetails.toJson usage.promptTokensDetails),
    ("prompt_cache_hit_tokens", jsonOption jsonInt usage.promptCacheHitTokens),
    ("prompt_cache_miss_tokens", jsonOption jsonInt usage.promptCacheMissTokens)]

def OpenAiCompatibleToolCall.toJson (call : OpenAiCompatibleToolCall) : Json :=
  .object ([("id", jsonOption .string call.id),
    ("function", .object [("name", .string call.function.name),
      ("arguments", .string call.function.arguments)])] ++
    (call.extraContent.map (("extra_content", ·))).toList)

def OpenAiCompatibleChoice.toJson (choice : OpenAiCompatibleChoice) : Json :=
  .object [("message", .object [("content", jsonOption id choice.message.content),
      ("tool_calls", jsonOption (fun calls => .array (calls.map OpenAiCompatibleToolCall.toJson))
        choice.message.toolCalls),
      ("reasoning", jsonOption .string choice.message.reasoning),
      ("reasoning_content", jsonOption .string choice.message.reasoningContent)]),
    ("finish_reason", jsonOption .string choice.finishReason)]

def OpenAiCompatibleChatCompletionsResponse.toJson
    (response : OpenAiCompatibleChatCompletionsResponse) : Json :=
  .object [("id", jsonOption .string response.id),
    ("choices", .array (response.choices.map OpenAiCompatibleChoice.toJson)),
    ("usage", jsonOption OpenAiCompatibleUsage.toJson response.usage)]

/-! ### Errors -/

def mapOpenaiCompatibleHttpError (readers : OpenAiCompatibleReaders) (statusCode : Nat)
    (bodyJson : String) : ModelClientError :=
  openaiHttpError (readers.errorObject bodyJson) "openai-compatible" statusCode
    fun providerCode message =>
      if providerCode = some "insufficient_system_resource" then .providerUnavailable
      else openaiErrorKind statusCode providerCode message

def insufficientSystemResource : ModelClientError where
  kind := .providerUnavailable
  message := "provider stopped generation because system resources were insufficient"
  retryable := true
  providerCode := some "insufficient_system_resource"
  providerAttempts := 0
  truncatedToolCalls := []

def rejectOpenaiCompatibleFinishReason (finishReason : Option String) : Client Unit :=
  if finishReason = some "insufficient_system_resource" then .fail insufficientSystemResource
  else if finishReason = some "length" ∨ finishReason = some "max_tokens" then
    .fail outputTokenLimit
  else pure ()

def rejectOpenaiCompatibleEmptyFinalResponse (content : String)
    (hasToolCalls hasReasoningContent : Bool) (finishReason : Option String) : Client Unit :=
  if isBlank content = false ∨ hasToolCalls = true then pure ()
  else .fail {
    kind := .providerResponseInterrupted
    message := "empty_final_response: openai-compatible provider returned an empty final " ++
      "response (finish_reason=" ++ finishReason.getD "missing" ++
      s!", reasoning_content_present={hasReasoningContent})"
    retryable := true
    providerCode := some "empty_final_response"
    providerAttempts := 0
    truncatedToolCalls := [] }

/-! ### Messages -/

def normalizeOpenaiCompatibleReasoning (reasoning reasoningContent : Option String) :
    Client (Option String) :=
  match reasoning, reasoningContent with
  | some _, some _ => .fail (.provider
      "openai-compatible response contains both reasoning and reasoning_content")
  | some value, none | none, some value => pure (some value)
  | none, none => pure none

def extractOpenaiCompatibleText : Option Json → String
  | some (.string text) => text
  | some (.array items) => "\n".intercalate (items.filterMap fun
      | .string text => some text
      | item => memberText item "text")
  | some item@(.object _) => (memberText item "text").getD ""
  | _ => ""

def openaiCompatibleEnvelope (item : OpenAiCompatibleToolCall) : Client ToolCallEnvelope := do
  let (id, name) ← requiredProviderToolCallIdentity "openai-compatible" item.id
    (some item.function.name)
  pure ⟨id, name, normalizeToolArgumentsJson item.function.arguments⟩

def extractOpenaiCompatibleToolCalls (toolCalls : Option (List OpenAiCompatibleToolCall)) :
    Client (List ToolCallEnvelope) :=
  (toolCalls.getD []).mapM openaiCompatibleEnvelope

def truncatedOpenaiCompatibleToolCalls (readers : ModelReaders)
    (toolCalls : Option (List OpenAiCompatibleToolCall)) : List TruncatedToolCall :=
  (toolCalls.getD []).map fun item =>
    truncatedToolCall readers item.id (some item.function.name) item.function.arguments

def thoughtSignature? (call : OpenAiCompatibleToolCall) : Option (String × String) := do
  let extraContent ← call.extraContent
  let signature ← (extraContent.get? "google").bind (memberText · "thought_signature")
  guard (signature ≠ "")
  let id ← call.id
  pure (id, signature)

def geminiToolContinuation (calls : List OpenAiCompatibleToolCall) : Client String :=
  let toolSignatures : Table String String := (calls.filterMap thoughtSignature?).foldl
    (fun signatures entry => signatures.insert entry.1 entry.2) ∅
  let firstId := calls.head?.bind (·.id)
  if (firstId.bind (toolSignatures[·]?)).isSome then
    pure (Json.object [("schema", .string "gemini_chat_tool_signatures.v1"),
      ("toolSignatures", .object (toolSignatures.toList.map fun entry =>
        (entry.1, .string entry.2)))]).render
  else .fail (.provider "Gemini tool call is missing its required thought signature")

/-- Only the Gemini kind needs a continuation, and only with calls. -/
def geminiContinuationOf (gemini : Bool) (raw : Option (List OpenAiCompatibleToolCall))
    (toolCalls : List ToolCallEnvelope) : Client (Option String) :=
  if gemini = true ∧ toolCalls ≠ [] then some <$> geminiToolContinuation (raw.getD [])
  else pure none

def openaiCompatibleInputTokens (usage : OpenAiCompatibleUsage) : Option Int :=
  usage.promptTokens.or (totalTokens? usage.promptCacheHitTokens usage.promptCacheMissTokens)

def openaiCompatibleCachedTokens (usage : OpenAiCompatibleUsage) : Option Int :=
  usage.promptCacheHitTokens.or (usage.promptTokensDetails.bind (·.cachedTokens))

def openaiCompatibleCacheMissTokens (usage : OpenAiCompatibleUsage) : Option Int :=
  usage.promptCacheMissTokens.or do
    let inputTokens ← openaiCompatibleInputTokens usage
    let cachedTokens ← openaiCompatibleCachedTokens usage
    pure (satSubI64 inputTokens cachedTokens)

/-! ### Responses -/

/-- The first choice of a response, for a provider of the Gemini kind or another one. -/
def parseOpenaiCompatibleChoice (readers : OpenAiCompatibleReaders) (gemini : Bool)
    (response : JsonHttpResponse) (parsed : OpenAiCompatibleChatCompletionsResponse)
    (choice : OpenAiCompatibleChoice) : Client ModelClientResponse :=
  if choice.finishReason = some "length" ∨ choice.finishReason = some "max_tokens" then
    .fail (outputTokenLimit.withTruncatedToolCalls
      (truncatedOpenaiCompatibleToolCalls readers.toModelReaders choice.message.toolCalls))
  else do
    rejectOpenaiCompatibleFinishReason choice.finishReason
    let toolCalls ← extractOpenaiCompatibleToolCalls choice.message.toolCalls
    let geminiContinuation ← geminiContinuationOf gemini choice.message.toolCalls toolCalls
    let reasoningContent ← normalizeOpenaiCompatibleReasoning choice.message.reasoning
      choice.message.reasoningContent
    validateProviderToolCallArguments readers.toModelReaders "openai-compatible" toolCalls
    let content := extractOpenaiCompatibleText choice.message.content
    rejectOpenaiCompatibleEmptyFinalResponse content (!toolCalls.isEmpty)
      reasoningContent.isSome choice.finishReason
    pure {
      generateResult := {
        content
        toolCalls
        reasoningContent
        continuationReasoningContent := geminiContinuation.or reasoningContent
        inputTokens := parsed.usage.bind openaiCompatibleInputTokens
        totalTokens := parsed.usage.bind (·.totalTokens)
        promptCacheHitTokens := parsed.usage.bind openaiCompatibleCachedTokens
        promptCacheMissTokens := parsed.usage.bind openaiCompatibleCacheMissTokens }
      providerRequestId := requestId parsed.id response
      providerAttempts := 1 }

/-- An accepted response, streamed or not. -/
def parseOpenaiCompatibleResponse (readers : OpenAiCompatibleReaders) (gemini : Bool)
    (response : JsonHttpResponse) : Client ModelClientResponse :=
  if 400 ≤ response.statusCode then
    .fail (mapOpenaiCompatibleHttpError readers response.statusCode response.bodyJson)
  else
    match readers.response response.bodyJson with
    | .error error => .fail (.provider s!"parse openai-compatible response failed: {error}")
    | .ok parsed =>
      match parsed.choices with
      | [] => .fail (.provider "openai-compatible response contained no choices")
      | choice :: _ => parseOpenaiCompatibleChoice readers gemini response parsed choice

/-! ### Streams -/

structure OpenAiCompatibleStreamToolCallState where
  id : Option String
  name : Option String
  arguments : String
  preparingEmitted : Bool
  extraContent : Option Json
deriving DecidableEq

/-- A call of which nothing is known yet. -/
def OpenAiCompatibleStreamToolCallState.unknown : OpenAiCompatibleStreamToolCallState :=
  ⟨none, none, "", false, none⟩

/-- The state of a stream: the text, the reasoning and the tool calls by index. -/
structure OpenAiCompatibleStreamState where
  providerRequestId : Option String
  content : String
  reasoningContent : Option String
  reasoningField : Option String
  thinkingStatusEmitted : Bool
  usage : Option OpenAiCompatibleUsage
  toolCallsByIndex : Table Nat OpenAiCompatibleStreamToolCallState
  completedToolCalls : List ToolCallEnvelope
  completedToolExtraContent : Table String Json
  finishReason : Option String

namespace OpenAiCompatibleStreamState

def default : OpenAiCompatibleStreamState := ⟨none, "", none, none, false, none, ∅, [], ∅, none⟩

def truncatedToolCalls (readers : ModelReaders) (state : OpenAiCompatibleStreamState) :
    List TruncatedToolCall :=
  state.toolCallsByIndex.toList.map fun entry =>
    truncatedToolCall readers entry.2.id entry.2.name entry.2.arguments

variable (readers : OpenAiCompatibleReaders)

/-- A field of a delta that holds reasoning: a text, or nothing. -/
def parseReasoning (delta : Json) (field : String) : Client (Option String) :=
  match delta.get? field with
  | none | some .null => pure none
  | some (.string value) => pure (some value)
  | some _ => .fail (.provider
      s!"openai-compatible response field {field} must be a string or null")

def reasoningFieldOf (reasoning alternate : Option String) : Option String :=
  match reasoning, alternate with
  | some _, none => some "reasoning"
  | none, some _ => some "reasoning_content"
  | _, _ => none

def contentDelta (delta : Json) (state : OpenAiCompatibleStreamState) :
    OpenAiCompatibleStreamState × List StreamUpdate :=
  let content := (memberText delta "content").getD ""
  if content = "" then (state, [])
  else ({ state with content := state.content ++ content }, [.token content])

def reasoningDelta (delta : Json) (state : OpenAiCompatibleStreamState) :
    Client (OpenAiCompatibleStreamState × List StreamUpdate) := do
  let reasoning ← parseReasoning delta "reasoning"
  let alternate ← parseReasoning delta "reasoning_content"
  let field := reasoningFieldOf reasoning alternate
  match ← normalizeOpenaiCompatibleReasoning reasoning alternate with
  | none => pure (state, [])
  | some text =>
    if state.reasoningField.isSome ∧ state.reasoningField ≠ field then
      .fail (.provider "openai-compatible stream changed reasoning field names")
    else
      pure ({ state with
          reasoningField := field
          reasoningContent := some (state.reasoningContent.getD "" ++ text)
          thinkingStatusEmitted := true },
        if state.thinkingStatusEmitted then [] else [.status none .thinking])

def describeToolCall (toolCall : Json) (entry : OpenAiCompatibleStreamToolCallState) :
    OpenAiCompatibleStreamToolCallState × List StreamUpdate :=
  let entry := { entry with
    extraContent := (toolCall.get? "extra_content").or entry.extraContent
    id := ((memberText toolCall "id").filter (· ≠ "")).or entry.id }
  match toolCall.get? "function" with
  | none => (entry, [])
  | some function =>
    let arguments := entry.arguments ++ (memberText function "arguments").getD ""
    match (memberText function "name").filter (· ≠ "") with
    | none => ({ entry with arguments }, [])
    | some name =>
      let preparing := entry.preparingEmitted = false ∧ isBoundedCanonicalToolName name = true
      ({ entry with
          arguments
          name := some name
          preparingEmitted := entry.preparingEmitted || decide preparing },
        if preparing then [.toolCallPreparing name] else [])

def toolCallDelta (state : OpenAiCompatibleStreamState) (toolCall : Json) :
    OpenAiCompatibleStreamState × List StreamUpdate :=
  let index := ((toolCall.get? "index").bind Json.asU64?).getD state.toolCallsByIndex.size
  let entry := (state.toolCallsByIndex[index]?).getD .unknown
  let (entry, updates) := describeToolCall toolCall entry
  ({ state with toolCallsByIndex := state.toolCallsByIndex.insert index entry }, updates)

/-- A step that adds updates, for a loop over the pieces of a data value. -/
def collect {α : Type} (step : OpenAiCompatibleStreamState → α →
      Client (OpenAiCompatibleStreamState × List StreamUpdate))
    (state : OpenAiCompatibleStreamState × List StreamUpdate) (piece : α) :
    Client (OpenAiCompatibleStreamState × List StreamUpdate) := do
  let (next, updates) ← step state.1 piece
  pure (next, state.2 ++ updates)

def flushToolCall (state : OpenAiCompatibleStreamState) (index : Nat) :
    Client (OpenAiCompatibleStreamState × List StreamUpdate) :=
  match state.toolCallsByIndex[index]? with
  | none => pure (state, [])
  | some call => do
    let (callId, name) ← requiredProviderToolCallIdentity "openai-compatible" call.id call.name
    let argsJson := normalizeStreamToolArguments readers.toModelReaders call.arguments none
    let extraContent := match call.extraContent with
      | some value => state.completedToolExtraContent.insert callId value
      | none => state.completedToolExtraContent
    pure ({ state with
        toolCallsByIndex := state.toolCallsByIndex.erase index
        completedToolExtraContent := extraContent
        completedToolCalls := state.completedToolCalls ++ [⟨callId, name, argsJson⟩] },
      [.toolCallReady callId (some index.repr) name argsJson
        (previewToolArgumentsJson readers.toModelReaders argsJson)])

def flushReadyToolCalls (state : OpenAiCompatibleStreamState) :
    Client (OpenAiCompatibleStreamState × List StreamUpdate) :=
  state.toolCallsByIndex.keys.foldlM (collect (flushToolCall readers)) (state, [])

/-- A choice that ends with a reason; the calls are complete when it is one of two. -/
def finishChoice (choice : Json) (state : OpenAiCompatibleStreamState) :
    Client (OpenAiCompatibleStreamState × List StreamUpdate) :=
  match memberText choice "finish_reason" with
  | none => pure (state, [])
  | some finishReason => do
    let state := { state with finishReason := some finishReason }
    let (state, updates) ←
      if finishReason = "tool_calls" ∨ finishReason = "stop" then state.flushReadyToolCalls readers
      else pure (state, [])
    pure (state, updates ++ [.done (some finishReason)])

def consumeChoice (state : OpenAiCompatibleStreamState) (choice : Json) :
    Client (OpenAiCompatibleStreamState × List StreamUpdate) := do
  let delta := (choice.get? "delta").getD .null
  let (state, tokens) := state.contentDelta delta
  let (state, thinking) ← state.reasoningDelta delta
  let (state, preparing) ← (((delta.get? "tool_calls").bind Json.asArray?).getD []).foldlM
    (collect fun state toolCall => pure (state.toolCallDelta toolCall)) (state, [])
  let (state, finished) ← state.finishChoice readers choice
  pure (state, tokens ++ thinking ++ preparing ++ finished)

def consumeEvent (parsed : Json) (state : OpenAiCompatibleStreamState) :
    Client (OpenAiCompatibleStreamState × List StreamUpdate) :=
  if memberText parsed "type" = some "provider_waiting" then
    pure (state, [.status none .providerWaiting])
  else
    let usage := (parsed.get? "usage").bind fun usage =>
      if usage = .null then none else readers.usage usage
    let state := { state with
      providerRequestId := (memberText parsed "id").or state.providerRequestId
      usage := usage.or state.usage }
    (((parsed.get? "choices").bind Json.asArray?).getD []).foldlM
      (collect (consumeChoice readers)) (state, [])

/-- One data value, with all its choices. -/
def consumeChunk (state : OpenAiCompatibleStreamState) (chunk : String) (attempt : Nat) :
    Client (OpenAiCompatibleStreamState × List StreamUpdate) := do
  let parsed ← parseSseJsonFrame readers.toModelReaders "openai-completions" chunk attempt
  state.consumeEvent readers parsed

def validateTerminalToolCalls (state : OpenAiCompatibleStreamState) : Client Unit :=
  if state.toolCallsByIndex.isEmpty then
    validateRetryableProviderToolCallArguments readers.toModelReaders "openai-compatible"
      state.completedToolCalls
  else .fail (invalidProviderToolCallIdentity "openai-compatible")

def validateTerminalResponse (state : OpenAiCompatibleStreamState)
    (finishReason : Option String) : Client Unit :=
  rejectOpenaiCompatibleEmptyFinalResponse state.content
    (!state.completedToolCalls.isEmpty || !state.toolCallsByIndex.isEmpty)
    state.reasoningContent.isSome finishReason

def doneError (state : OpenAiCompatibleStreamState) (finishReason : Option String) :
    Option ModelClientError :=
  match rejectOpenaiCompatibleFinishReason finishReason with
  | .error (.failed error) =>
    if error.providerCode = outputTokenLimit.providerCode then
      some (error.withTruncatedToolCalls (state.truncatedToolCalls readers.toModelReaders))
    else some error
  | _ =>
    match state.validateTerminalToolCalls readers, state.validateTerminalResponse finishReason with
    | .error (.failed error), _ | _, .error (.failed error) => some error
    | _, _ => none

def intoResponse (state : OpenAiCompatibleStreamState) :
    OpenAiCompatibleChatCompletionsResponse where
  id := state.providerRequestId
  choices := [{
    message := {
      content := if state.content = "" then none else some (.string state.content)
      toolCalls := if state.completedToolCalls.isEmpty then none
        else some (state.completedToolCalls.map fun item =>
          ⟨some item.id, ⟨item.name, item.argsJson⟩, state.completedToolExtraContent[item.id]?⟩)
      reasoning := none
      reasoningContent := state.reasoningContent }
    finishReason := state.finishReason }]
  usage := state.usage

end OpenAiCompatibleStreamState

/-! ### The adapter -/

/-- The adapter. -/
def openaiCompatible (readers : OpenAiCompatibleReaders) (gemini : Bool) : StreamAdapter where
  State := OpenAiCompatibleStreamState
  initial := .default
  consumeChunk := OpenAiCompatibleStreamState.consumeChunk readers
  reasoningSnapshot state := state.reasoningContent.getD ""
  doneError := OpenAiCompatibleStreamState.doneError readers
  intoResponse state := pure state.intoResponse.toJson.render
  parseHttpResponse := parseOpenaiCompatibleResponse readers gemini
  mapHttpError := mapOpenaiCompatibleHttpError readers
  attempt_irrelevant := by
    intro state chunk a result h b
    simp only [OpenAiCompatibleStreamState.consumeChunk, Outcome.bind_eq_ok,
      parseSseJsonFrame_eq_ok] at h ⊢
    exact h

theorem acceptedCalls_of_parseOpenaiCompatibleResponse {readers : OpenAiCompatibleReaders}
    {gemini : Bool} {answer : JsonHttpResponse} {response : ModelClientResponse}
    (h : parseOpenaiCompatibleResponse readers gemini answer = .ok response) :
    ∀ call ∈ response.generateResult.toolCalls, AcceptedCall readers.toModelReaders call := by
  unfold parseOpenaiCompatibleResponse at h
  split at h
  · exact absurd h Client.fail_ne_ok
  split at h
  · exact absurd h Client.fail_ne_ok
  split at h
  · exact absurd h Client.fail_ne_ok
  unfold parseOpenaiCompatibleChoice at h
  split at h
  · exact absurd h Client.fail_ne_ok
  simp only [Outcome.ok_rules] at h
  obtain ⟨-, toolCalls, hcalls, continuation, -, reasoning, -, harguments, -, rfl⟩ := h
  refine acceptedCalls_of_mapM ?_ hcalls harguments
  intro item call hitem
  simp only [openaiCompatibleEnvelope, Outcome.ok_rules, Prod.exists,
    requiredProviderToolCallIdentity_eq_ok] at hitem
  obtain ⟨id, name, ⟨⟨-, hid⟩, -, hname⟩, rfl⟩ := hitem
  exact ⟨hid, hname⟩

end Centaeris
