import Centaeris.Foundation.Table
import Centaeris.Model.ToolCalls

namespace Centaeris

open Foundation

/-!
# The Anthropic messages adapter

How a response text and a usage object are read is a parameter.  A member set on a block that
is not an object is a panic.
-/

structure AnthropicUsage where
  inputTokens : Option Int
  outputTokens : Option Int
  cacheCreationInputTokens : Option Int
  cacheReadInputTokens : Option Int
deriving DecidableEq

structure AnthropicMessageResponse where
  id : Option String
  content : List Json
  stopReason : Option String
  usage : Option AnthropicUsage
deriving DecidableEq

structure AnthropicErrorObject where
  errorType : Option String
  message : Option String
deriving DecidableEq

/-- How the texts of the provider are read; the error object of a text stands for its error
    envelope. -/
structure AnthropicReaders extends ModelReaders where
  response : String → Except String AnthropicMessageResponse
  usage : Json → Option AnthropicUsage
  errorObject : String → Option AnthropicErrorObject

/-! ### Written responses -/

def AnthropicUsage.toJson (usage : AnthropicUsage) : Json :=
  .object [("input_tokens", jsonOption jsonInt usage.inputTokens),
    ("output_tokens", jsonOption jsonInt usage.outputTokens),
    ("cache_creation_input_tokens", jsonOption jsonInt usage.cacheCreationInputTokens),
    ("cache_read_input_tokens", jsonOption jsonInt usage.cacheReadInputTokens)]

def AnthropicMessageResponse.toJson (response : AnthropicMessageResponse) : Json :=
  .object [("id", jsonOption .string response.id), ("content", .array response.content),
    ("stop_reason", jsonOption .string response.stopReason),
    ("usage", jsonOption AnthropicUsage.toJson response.usage)]

/-! ### Errors -/

def mapAnthropicMessagesHttpError (readers : AnthropicReaders) (statusCode : Nat)
    (bodyJson : String) : ModelClientError :=
  let parsed := readers.errorObject bodyJson
  let providerCode := parsed.bind (·.errorType)
  let message := (parsed.bind (·.message)).getD
    s!"anthropic-messages request failed with status {statusCode}"
  let kind := httpErrorKind statusCode
    (providerCode == some "not_found_error" || containsModel message)
  ⟨kind, message, isRetryableModelClientErrorKind kind, providerCode, 0, []⟩

def mapAnthropicStreamError (readers : AnthropicReaders) (value : Json) : ModelClientError :=
  let statusCode :=
    if ((value.get? "error").bind (·.get? "type")).bind Json.asString? = some "overloaded_error"
    then 529 else 400
  mapAnthropicMessagesHttpError readers statusCode value.render

def rejectAnthropicStopReason (stopReason : Option String) : Client Unit :=
  if stopReason = some "max_tokens" then .fail outputTokenLimit else pure ()

/-! ### Content blocks -/

def anthropicThinkingText (block : Json) : Client String :=
  .orFail (memberText block "thinking") (.provider "anthropic thinking text is invalid")

def extractAnthropicReasoning (content : List Json) : Client (Option String) := do
  let texts ← (content.filter (memberText · "type" = some "thinking")).mapM anthropicThinkingText
  let parts := texts.filter (· ≠ "")
  pure (if parts.isEmpty then none else some ("\n".intercalate parts))

def extractAnthropicText (content : List Json) : String :=
  "\n".intercalate ((content.filter (memberText · "type" = some "text")).filterMap
    (memberText · "text"))

def anthropicToolCall (item : Json) : Client ToolCallEnvelope := do
  let (id, name) ← requiredProviderToolCallIdentity "anthropic-messages" (memberText item "id")
    (memberText item "name")
  pure ⟨id, name, ((item.get? "input").map normalizeToolArgumentsValue).getD emptyArguments⟩

def extractAnthropicToolCalls (content : List Json) : Client (List ToolCallEnvelope) :=
  (content.filter (memberText · "type" = some "tool_use")).mapM anthropicToolCall

def truncatedAnthropicToolCalls (readers : ModelReaders) (content : List Json) :
    List TruncatedToolCall :=
  (content.filter (memberText · "type" = some "tool_use")).map fun item =>
    truncatedToolCall readers (memberText item "id") (memberText item "name")
      (((item.get? "input").map normalizeToolArgumentsValue).getD "")

def anthropicCacheMissTokens (usage : AnthropicUsage) : Option Int :=
  usage.cacheCreationInputTokens.or (usage.inputTokens.map fun inputTokens =>
    satSubI64 inputTokens (usage.cacheReadInputTokens.getD 0))

/-! ### Responses -/

/-- An accepted response, streamed or not. -/
def parseAnthropicResponse (readers : AnthropicReaders) (preserveContentBlocks : Bool)
    (response : JsonHttpResponse) : Client ModelClientResponse :=
  if 400 ≤ response.statusCode then
    .fail (mapAnthropicMessagesHttpError readers response.statusCode response.bodyJson)
  else
    match readers.response response.bodyJson with
    | .error error =>
      .fail (.provider s!"parse anthropic-messages response failed: {error}")
    | .ok parsed =>
      if parsed.stopReason = some "max_tokens" then
        .fail (outputTokenLimit.withTruncatedToolCalls
          (truncatedAnthropicToolCalls readers.toModelReaders parsed.content))
      else do
        rejectAnthropicStopReason parsed.stopReason
        let toolCalls ← extractAnthropicToolCalls parsed.content
        validateProviderToolCallArguments readers.toModelReaders "anthropic-messages" toolCalls
        let reasoningContent ← extractAnthropicReasoning parsed.content
        pure {
          generateResult := {
            content := extractAnthropicText parsed.content
            toolCalls
            reasoningContent
            continuationReasoningContent :=
              if preserveContentBlocks then some (Json.array parsed.content).render else none
            inputTokens := parsed.usage.bind (·.inputTokens)
            totalTokens := parsed.usage.bind fun usage =>
              totalTokens? usage.inputTokens usage.outputTokens
            promptCacheHitTokens := parsed.usage.bind (·.cacheReadInputTokens)
            promptCacheMissTokens := parsed.usage.bind anthropicCacheMissTokens }
          providerRequestId := requestId parsed.id response
          providerAttempts := 1 }

/-! ### Streams -/

structure AnthropicStreamToolCallState where
  id : Option String
  name : Option String
  inputJson : String
  preparingEmitted : Bool
deriving DecidableEq, Inhabited

/-- The state of a stream: the content blocks by index, the text, the reasoning and the tool
    calls. -/
structure AnthropicMessagesStreamState where
  providerRequestId : Option String
  content : String
  contentBlocksByIndex : Table Nat Json
  reasoningByIndex : Table Nat String
  completedToolCalls : List ToolCallEnvelope
  toolCallsByIndex : Table Nat AnthropicStreamToolCallState
  usage : Option AnthropicUsage
  stopReason : Option String

/-- A call of which nothing is known yet. -/
def AnthropicStreamToolCallState.unknown : AnthropicStreamToolCallState := ⟨none, none, "", false⟩

def jsonKind : Json → String
  | .null => "null"
  | .bool _ => "boolean"
  | .number _ => "number"
  | .string _ => "string"
  | .array _ => "array"
  | .object _ => "object"

/-- Sets a member of a block, which must be an object or null. -/
def setBlockMember (key : String) (value block : Json) : Client Json :=
  match block.setMember? key value with
  | some block => .ok block
  | none => .error (.panicked s!"cannot access key \"{key}\" in JSON {jsonKind block}")

namespace AnthropicMessagesStreamState

def default : AnthropicMessagesStreamState := ⟨none, "", ∅, ∅, [], ∅, none, none⟩

/-- The texts of the blocks, in the order of their index. -/
def reasoningSnapshot (state : AnthropicMessagesStreamState) : String :=
  "\n".intercalate ((state.reasoningByIndex.toList.map (·.2)).filter (· ≠ ""))

def truncatedToolCalls (readers : ModelReaders) (state : AnthropicMessagesStreamState) :
    List TruncatedToolCall :=
  (state.toolCallsByIndex.toList.map fun entry =>
    truncatedToolCall readers entry.2.id entry.2.name entry.2.inputJson) ++
  state.completedToolCalls.map fun call =>
    truncatedToolCall readers (some call.id) (some call.name) call.argsJson

def setMemberAt (index : Nat) (key : String) (value : Json → Json)
    (state : AnthropicMessagesStreamState) : Client AnthropicMessagesStreamState :=
  match state.contentBlocksByIndex[index]? with
  | none => .ok state
  | some block => do
    let block ← setBlockMember key (value block) block
    pure { state with contentBlocksByIndex := state.contentBlocksByIndex.insert index block }

def appendMember (key text : String) (block : Json) : Json :=
  .string ((memberText block key).getD "" ++ text)

variable (readers : AnthropicReaders)

def messageStart (parsed : Json) (state : AnthropicMessagesStreamState) :
    AnthropicMessagesStreamState × List StreamUpdate :=
  let message := parsed.get? "message"
  ({ state with
      providerRequestId := message.bind (memberText · "id")
      usage := (message.bind (·.get? "usage")).bind readers.usage },
    [.status none .thinking])

/-- The call that a block announces; its input counts only when it is not empty. -/
def announceToolCall (block : Json) (call : AnthropicStreamToolCallState) :
    AnthropicStreamToolCallState :=
  { call with
    id := memberText block "id"
    name := memberText block "name"
    inputJson := match block.get? "input" with
      | some (.object (member :: members)) =>
        normalizeToolArgumentsValue (.object (member :: members))
      | _ => call.inputJson }

def contentBlockStart (parsed : Json) (state : AnthropicMessagesStreamState) :
    Client (AnthropicMessagesStreamState × List StreamUpdate) :=
  match (parsed.get? "index").bind Json.asU64?, parsed.get? "content_block" with
  | some index, some block =>
    let state := { state with
      contentBlocksByIndex := state.contentBlocksByIndex.insert index block }
    if memberText block "type" = some "thinking" then do
      let text ← anthropicThinkingText block
      pure ({ state with reasoningByIndex := state.reasoningByIndex.insert index text }, [])
    else if memberText block "type" ≠ some "tool_use" then pure (state, [])
    else
      let call := announceToolCall block ((state.toolCallsByIndex[index]?).getD .unknown)
      match call.preparingEmitted, call.name.filter isBoundedCanonicalToolName with
      | false, some name =>
        pure ({ state with toolCallsByIndex :=
          state.toolCallsByIndex.insert index { call with preparingEmitted := true } },
          [.toolCallPreparing name])
      | _, _ =>
        pure ({ state with toolCallsByIndex := state.toolCallsByIndex.insert index call }, [])
  | _, _ => pure (state, [])

def thinkingDelta (index : Option Nat) (delta : Json) (state : AnthropicMessagesStreamState) :
    Client (AnthropicMessagesStreamState × List StreamUpdate) := do
  let text ← anthropicThinkingText delta
  let (index, accumulated) ← .orFail
    (index.bind fun index => (state.reasoningByIndex[index]?).map (index, ·))
    (.provider "anthropic thinking delta has no matching block")
  let state := { state with
    reasoningByIndex := state.reasoningByIndex.insert index (accumulated ++ text) }
  let state ← state.setMemberAt index "thinking" (appendMember "thinking" text)
  pure (state, [])

def signatureDelta (index : Option Nat) (delta : Json) (state : AnthropicMessagesStreamState) :
    Client (AnthropicMessagesStreamState × List StreamUpdate) :=
  match index, memberText delta "signature" with
  | some index, some signature => do
    let state ← state.setMemberAt index "signature" fun _ => .string signature
    pure (state, [])
  | _, _ => pure (state, [])

def textDelta (index : Option Nat) (delta : Json) (state : AnthropicMessagesStreamState) :
    Client (AnthropicMessagesStreamState × List StreamUpdate) :=
  let text := (memberText delta "text").getD ""
  if text = "" then pure (state, [])
  else do
    let state := { state with content := state.content ++ text }
    let state ← match index with
      | some index => state.setMemberAt index "text" (appendMember "text" text)
      | none => pure state
    pure (state, [.token text])

def inputJsonDelta (index : Option Nat) (delta : Json) (state : AnthropicMessagesStreamState) :
    AnthropicMessagesStreamState × List StreamUpdate :=
  match index with
  | none => (state, [])
  | some index =>
    let call := (state.toolCallsByIndex[index]?).getD .unknown
    let call := { call with
      inputJson := call.inputJson ++ (memberText delta "partial_json").getD "" }
    ({ state with toolCallsByIndex := state.toolCallsByIndex.insert index call }, [])

def contentBlockDelta (parsed : Json) (state : AnthropicMessagesStreamState) :
    Client (AnthropicMessagesStreamState × List StreamUpdate) :=
  let delta := (parsed.get? "delta").getD .null
  let index := (parsed.get? "index").bind Json.asU64?
  match (memberText delta "type").getD "" with
  | "thinking_delta" => state.thinkingDelta index delta
  | "signature_delta" => state.signatureDelta index delta
  | "text_delta" => state.textDelta index delta
  | "input_json_delta" => pure (state.inputJsonDelta index delta)
  | _ => pure (state, [])

/-- Ends the call of an index, if it has an id and a name. -/
def finishToolCall (index : Nat) (state : AnthropicMessagesStreamState) :
    Client (AnthropicMessagesStreamState × List StreamUpdate) :=
  match state.toolCallsByIndex[index]? with
  | none => pure (state, [])
  | some call =>
    match requiredProviderToolCallIdentity "anthropic-messages" call.id call.name with
    | .error _ => pure (state, [])
    | .ok (callId, name) => do
      let argsJson := normalizeStreamToolArguments readers.toModelReaders call.inputJson none
      let input := match readers.value argsJson with
        | .ok value => value
        | .error _ => .object []
      let state := { state with toolCallsByIndex := state.toolCallsByIndex.erase index }
      let state ← state.setMemberAt index "input" fun _ => input
      let completedToolCalls := state.completedToolCalls ++ [⟨callId, name, argsJson⟩]
      pure ({ state with completedToolCalls },
        [.toolCallReady callId (some index.repr) name argsJson
          (previewToolArgumentsJson readers.toModelReaders argsJson)])

def contentBlockStop (parsed : Json) (state : AnthropicMessagesStreamState) :
    Client (AnthropicMessagesStreamState × List StreamUpdate) :=
  match (parsed.get? "index").bind Json.asU64? with
  | none => pure (state, [])
  | some index => state.finishToolCall readers index

def messageDelta (parsed : Json) (state : AnthropicMessagesStreamState) :
    AnthropicMessagesStreamState × List StreamUpdate :=
  ({ state with
      stopReason := (parsed.get? "delta").bind (memberText · "stop_reason")
      usage := ((parsed.get? "usage").bind readers.usage).or state.usage }, [])

def consumeEvent (parsed : Json) (state : AnthropicMessagesStreamState) :
    Client (AnthropicMessagesStreamState × List StreamUpdate) :=
  match (memberText parsed "type").getD "" with
  | "provider_waiting" | "ping" => pure (state, [.status none .providerWaiting])
  | "message_start" => pure (state.messageStart readers parsed)
  | "content_block_start" => state.contentBlockStart parsed
  | "content_block_delta" => state.contentBlockDelta parsed
  | "content_block_stop" => state.contentBlockStop readers parsed
  | "message_delta" => pure (state.messageDelta readers parsed)
  | "message_stop" => pure (state, [.done state.stopReason])
  | "error" => pure (state, [.failed (mapAnthropicStreamError readers parsed)])
  | _ => pure (state, [])

/-- One data value of a stream. -/
def consumeChunk (state : AnthropicMessagesStreamState) (chunk : String) (attempt : Nat) :
    Client (AnthropicMessagesStreamState × List StreamUpdate) := do
  let parsed ← parseSseJsonFrame readers.toModelReaders "anthropic-messages" chunk attempt
  state.consumeEvent readers parsed

def validateTerminalToolCalls (state : AnthropicMessagesStreamState) : Client Unit :=
  if state.toolCallsByIndex.isEmpty then
    validateRetryableProviderToolCallArguments readers.toModelReaders "anthropic-messages"
      state.completedToolCalls
  else .fail (invalidProviderToolCallIdentity "anthropic-messages")

def doneError (state : AnthropicMessagesStreamState) (finishReason : Option String) :
    Option ModelClientError :=
  match rejectAnthropicStopReason finishReason with
  | .error (.failed error) =>
    if error.providerCode = outputTokenLimit.providerCode then
      some (error.withTruncatedToolCalls (state.truncatedToolCalls readers.toModelReaders))
    else some error
  | _ =>
    match state.validateTerminalToolCalls readers with
    | .error (.failed error) => some error
    | _ => none

/-- The blocks of a stream that announced none. -/
def writtenBlocks (state : AnthropicMessagesStreamState) : List Json :=
  (state.reasoningByIndex.toList.map fun entry =>
    .object [("thinking", .string entry.2), ("type", .string "thinking")]) ++
  (if state.content = "" then []
    else [.object [("text", .string state.content), ("type", .string "text")]]) ++
  state.completedToolCalls.map fun call =>
    let input := match readers.value call.argsJson with
      | .ok value => value
      | .error _ => .object []
    .object [("id", .string call.id), ("input", input), ("name", .string call.name),
      ("type", .string "tool_use")]

def intoResponse (state : AnthropicMessagesStreamState) : Client AnthropicMessageResponse := do
  let state ← state.toolCallsByIndex.keys.foldlM (fun state index =>
    (·.1) <$> state.finishToolCall readers index) state
  let blocks := state.contentBlocksByIndex.toList.map (·.2)
  pure {
    id := state.providerRequestId
    content := if blocks.isEmpty then state.writtenBlocks readers else blocks
    stopReason := state.stopReason
    usage := state.usage }

end AnthropicMessagesStreamState

/-! ### The adapter -/

/-- The adapter. -/
def anthropicMessages (readers : AnthropicReaders) (preserveContentBlocks : Bool) :
    StreamAdapter where
  State := AnthropicMessagesStreamState
  initial := .default
  consumeChunk := AnthropicMessagesStreamState.consumeChunk readers
  reasoningSnapshot := AnthropicMessagesStreamState.reasoningSnapshot
  doneError := AnthropicMessagesStreamState.doneError readers
  intoResponse state := (·.toJson.render) <$> state.intoResponse readers
  parseHttpResponse := parseAnthropicResponse readers preserveContentBlocks
  mapHttpError := mapAnthropicMessagesHttpError readers
  attempt_irrelevant := by
    intro state chunk a result h b
    simp only [AnthropicMessagesStreamState.consumeChunk, Outcome.bind_eq_ok,
      parseSseJsonFrame_eq_ok] at h ⊢
    exact h

theorem acceptedCalls_of_parseAnthropicResponse {readers : AnthropicReaders} {preserve : Bool}
    {answer : JsonHttpResponse} {response : ModelClientResponse}
    (h : parseAnthropicResponse readers preserve answer = .ok response) :
    ∀ call ∈ response.generateResult.toolCalls, AcceptedCall readers.toModelReaders call := by
  unfold parseAnthropicResponse at h
  split at h
  · exact absurd h Client.fail_ne_ok
  split at h
  · exact absurd h Client.fail_ne_ok
  split at h
  · exact absurd h Client.fail_ne_ok
  simp only [Outcome.ok_rules] at h
  obtain ⟨-, toolCalls, hcalls, harguments, reasoning, -, rfl⟩ := h
  refine acceptedCalls_of_mapM ?_ hcalls harguments
  intro item call hitem
  simp only [anthropicToolCall, Outcome.ok_rules, Prod.exists,
    requiredProviderToolCallIdentity_eq_ok] at hitem
  obtain ⟨id, name, ⟨⟨-, hid⟩, -, hname⟩, rfl⟩ := hitem
  exact ⟨hid, hname⟩

end Centaeris
