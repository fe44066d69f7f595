import Centaeris.Foundation.Table
import Centaeris.Model.ToolCalls

namespace Centaeris

open Foundation

/-!
# The OpenAI responses adapter

How a response is read, from a text or from a value, is a parameter.
-/

structure OpenAiTokenDetails where
  cachedTokens : Option Int
deriving DecidableEq

structure OpenAiResponsesUsage where
  inputTokens : Option Int
  outputTokens : Option Int
  totalTokens : Option Int
  inputTokensDetails : Option OpenAiTokenDetails
  promptTokensDetails : Option OpenAiTokenDetails
deriving DecidableEq

structure OpenAiResponsesIncompleteDetails where
  reason : Option String
deriving DecidableEq

structure OpenAiResponsesResponse where
  id : Option String
  status : Option String
  incompleteDetails : Option OpenAiResponsesIncompleteDetails
  outputText : Option String
  output : Option (List Json)
  usage : Option OpenAiResponsesUsage
deriving DecidableEq

structure OpenAiErrorObject where
  message : Option String
  code : Option String
  errorType : Option String
deriving DecidableEq

structure OpenAiResponsesReaders extends ModelReaders where
  response : String → Except String OpenAiResponsesResponse
  responseValue : Json → Option OpenAiResponsesResponse
  errorObject : String → Option OpenAiErrorObject

/-! ### Written responses -/

def OpenAiTokenDetails.toJson (details : OpenAiTokenDetails) : Json :=
  .object [("cached_tokens", jsonOption jsonInt details.cachedTokens)]

def OpenAiResponsesUsage.toJson (usage : OpenAiResponsesUsage) : Json :=
  .object [("input_tokens", jsonOption jsonInt usage.inputTokens),
    ("output_tokens", jsonOption jsonInt usage.outputTokens),
    ("total_tokens", jsonOption jsonInt usage.totalTokens),
    ("input_tokens_details", jsonOption OpenAiTokenDetails.toJson usage.inputTokensDetails),
    ("prompt_tokens_details", jsonOption OpenAiTokenDetails.toJson usage.promptTokensDetails)]

def OpenAiResponsesResponse.toJson (response : OpenAiResponsesResponse) : Json :=
  .object [("id", jsonOption .string response.id), ("status", jsonOption .string response.status),
    ("incomplete_details", jsonOption (fun details : OpenAiResponsesIncompleteDetails =>
      .object [("reason", jsonOption .string details.reason)]) response.incompleteDetails),
    ("output_text", jsonOption .string response.outputText),
    ("output", jsonOption .array response.output),
    ("usage", jsonOption OpenAiResponsesUsage.toJson response.usage)]

/-! ### Errors -/

/-- An error of a provider that speaks one of the two OpenAI protocols. -/
def openaiHttpError (parsed : Option OpenAiErrorObject) (label : String) (statusCode : Nat)
    (kindOf : Option String → String → ModelClientErrorKind) : ModelClientError :=
  let providerCode := parsed.bind fun error => error.code.or error.errorType
  let message := (parsed.bind (·.message)).getD s!"{label} request failed with status {statusCode}"
  let kind := kindOf providerCode message
  ⟨kind, message, isRetryableModelClientErrorKind kind, providerCode, 0, []⟩

def openaiErrorKind (statusCode : Nat) (providerCode : Option String) (message : String) :
    ModelClientErrorKind :=
  httpErrorKind statusCode (providerCode == some "model_not_found" || containsModel message)

def mapOpenaiResponsesHttpError (readers : OpenAiResponsesReaders) (statusCode : Nat)
    (bodyJson : String) : ModelClientError :=
  openaiHttpError (readers.errorObject bodyJson) "openai-responses" statusCode
    (openaiErrorKind statusCode)

def incompleteResponse : ModelClientError where
  kind := .providerResponseInterrupted
  message := "openai-responses provider returned an incomplete response"
  retryable := false
  providerCode := some "incomplete_response"
  providerAttempts := 0
  truncatedToolCalls := []

def rejectOpenaiResponsesFinishReason (finishReason : Option String) : Client Unit :=
  if finishReason = some "max_output_tokens" then .fail outputTokenLimit
  else if finishReason = some "incomplete" then .fail incompleteResponse
  else pure ()

/-! ### Output items -/

/-- A text without its outer blanks, unless it is blank. -/
def nonBlankText (text : String) : Option String :=
  if isBlank text then none else some (trim text)

def extractOpenaiResponsesContentText : Json → Option String
  | .string text => nonBlankText text
  | item@(.object _) =>
    let key := if memberText item "type" = some "refusal" then "refusal" else "text"
    (memberText item key).bind nonBlankText
  | _ => none

/-- The texts of an output item: those of the parts of a message, or its own. -/
def outputItemTexts (item : Json) : List String :=
  if item.isObject then
    if memberText item "type" = some "message" then
      (((item.get? "content").bind Json.asArray?).getD []).filterMap
        extractOpenaiResponsesContentText
    else (extractOpenaiResponsesContentText item).toList
  else []

def extractOpenaiResponsesText (outputText : Option String) (output : Option (List Json)) :
    String :=
  match outputText.bind nonBlankText with
  | some text => text
  | none => "\n".intercalate ((output.getD []).flatMap outputItemTexts)

/-- The summaries of an output item that tells reasoning. -/
def summaryItems (item : Json) : List Json :=
  if memberText item "type" = some "reasoning" then
    (((item.get? "summary").bind Json.asArray?).getD []).filter
      (memberText · "type" = some "summary_text")
  else []

def extractOpenaiResponsesReasoning (output : Option (List Json)) : Client (Option String) := do
  let texts ← ((output.getD []).flatMap summaryItems).mapM fun summary =>
    Client.orFail (memberText summary "text")
      (.provider "openai responses reasoning summary text is invalid")
  let segments := texts.filter (· ≠ "")
  pure (if segments.isEmpty then none else some ("\n".intercalate segments))

def openaiResponsesToolCall (item : Json) : Client ToolCallEnvelope := do
  let (id, name) ← requiredProviderToolCallIdentity "openai-responses" (memberText item "call_id")
    (memberText item "name")
  pure ⟨id, name, ((item.get? "arguments").map normalizeToolArgumentsValue).getD emptyArguments⟩

def extractOpenaiResponsesToolCalls (output : Option (List Json)) :
    Client (List ToolCallEnvelope) :=
  ((output.getD []).filter (memberText · "type" = some "function_call")).mapM
    openaiResponsesToolCall

def truncatedOpenaiResponsesToolCalls (readers : ModelReaders) (output : List Json) :
    List TruncatedToolCall :=
  (output.filter (memberText · "type" = some "function_call")).map fun item =>
    truncatedToolCall readers (memberText item "call_id") (memberText item "name")
      (((item.get? "arguments").map normalizeToolArgumentsValue).getD "")

def openaiResponsesCachedTokens (usage : OpenAiResponsesUsage) : Option Int :=
  (usage.inputTokensDetails.bind (·.cachedTokens)).or
    (usage.promptTokensDetails.bind (·.cachedTokens))

def openaiResponsesCacheMissTokens (usage : OpenAiResponsesUsage) : Option Int := do
  let inputTokens ← usage.inputTokens
  let cachedTokens ← openaiResponsesCachedTokens usage
  pure (satSubI64 inputTokens cachedTokens)

/-! ### Responses -/

/-- An accepted response, streamed or not. -/
def parseOpenaiResponsesResponse (readers : OpenAiResponsesReaders) (response : JsonHttpResponse) :
    Client ModelClientResponse :=
  if 400 ≤ response.statusCode then
    .fail (mapOpenaiResponsesHttpError readers response.statusCode response.bodyJson)
  else
    match readers.response response.bodyJson with
    | .error error => .fail (.provider s!"parse openai-responses response failed: {error}")
    | .ok parsed =>
      let reason := parsed.incompleteDetails.bind (·.reason)
      if reason = some "max_output_tokens" then
        .fail (outputTokenLimit.withTruncatedToolCalls
          (truncatedOpenaiResponsesToolCalls readers.toModelReaders (parsed.output.getD [])))
      else do
        rejectOpenaiResponsesFinishReason (reason.or parsed.status)
        let toolCalls ← extractOpenaiResponsesToolCalls parsed.output
        validateProviderToolCallArguments readers.toModelReaders "openai-responses" toolCalls
        let reasoningContent ← extractOpenaiResponsesReasoning parsed.output
        pure {
          generateResult := {
            content := extractOpenaiResponsesText parsed.outputText parsed.output
            toolCalls
            reasoningContent
            continuationReasoningContent := none
            inputTokens := parsed.usage.bind (·.inputTokens)
            totalTokens := parsed.usage.bind fun usage =>
              usage.totalTokens.or (totalTokens? usage.inputTokens usage.outputTokens)
            promptCacheHitTokens := parsed.usage.bind openaiResponsesCachedTokens
            promptCacheMissTokens := parsed.usage.bind openaiResponsesCacheMissTokens }
          providerRequestId := requestId parsed.id response
          providerAttempts := 1 }

/-! ### Streams -/

structure OpenAiResponsesStreamFunctionCallState where
  callId : Option String
  name : Option String
  arguments : String
  preparingEmitted : Bool
deriving DecidableEq

/-- A call of which nothing is known yet. -/
def OpenAiResponsesStreamFunctionCallState.unknown : OpenAiResponsesStreamFunctionCallState :=
  ⟨none, none, "", false⟩

/-- The state of a stream: the text, the reasoning summaries, the function calls by item, and the
    response of the final event. -/
structure OpenAiResponsesStreamState where
  reasoningParts : Table Nat String
  completedResponse : Option OpenAiResponsesResponse
  accumulatedOutputText : String
  toolCalls : List ToolCallEnvelope
  usage : Option OpenAiResponsesUsage
  providerRequestId : Option String
  functionCallsByItem : Table String OpenAiResponsesStreamFunctionCallState

/-- One number for two `u64`, in the order of the pairs. -/
def summaryKey (outputIndex summaryIndex : Nat) : Nat := outputIndex * 2 ^ 64 + summaryIndex

namespace OpenAiResponsesStreamState

def default : OpenAiResponsesStreamState := ⟨∅, none, "", [], none, none, ∅⟩

def reasoningSnapshot (state : OpenAiResponsesStreamState) : String :=
  "\n".intercalate ((state.reasoningParts.toList.map (·.2)).filter (· ≠ ""))

def truncatedToolCalls (readers : ModelReaders) (state : OpenAiResponsesStreamState) :
    List TruncatedToolCall :=
  let terminalCalls := ((state.completedResponse.bind (·.output)).map
    (truncatedOpenaiResponsesToolCalls readers)).getD []
  if terminalCalls.isEmpty then
    (state.functionCallsByItem.toList.map fun entry =>
      truncatedToolCall readers entry.2.callId entry.2.name entry.2.arguments) ++
    state.toolCalls.map fun call =>
      truncatedToolCall readers (some call.id) (some call.name) call.argsJson
  else terminalCalls

variable (readers : OpenAiResponsesReaders)

/-- A piece of a reasoning summary, or the whole of it. -/
def reasoningSummary (delta : Bool) (parsed : Json) (state : OpenAiResponsesStreamState) :
    Client (OpenAiResponsesStreamState × List StreamUpdate) := do
  let outputIndex ← .orFail ((parsed.get? "output_index").bind Json.asU64?)
    (.provider "reasoning summary indices are invalid")
  let summaryIndex ← .orFail ((parsed.get? "summary_index").bind Json.asU64?)
    (.provider "reasoning summary indices are invalid")
  let text ← .orFail (memberText parsed (if delta then "delta" else "text"))
    (.provider "reasoning summary text is invalid")
  let key := summaryKey outputIndex summaryIndex
  let text := if delta then (state.reasoningParts[key]?).getD "" ++ text else text
  pure ({ state with reasoningParts := state.reasoningParts.insert key text }, [])

def outputTextDelta (parsed : Json) (state : OpenAiResponsesStreamState) :
    OpenAiResponsesStreamState × List StreamUpdate :=
  let delta := (memberText parsed "delta").getD ""
  if delta = "" then (state, [])
  else ({ state with accumulatedOutputText := state.accumulatedOutputText ++ delta },
    [.token delta])

def functionCallItem? (parsed : Json) : Option Json :=
  (parsed.get? "item").filter fun item => memberText item "type" = some "function_call"

def outputItemAdded (parsed : Json) (state : OpenAiResponsesStreamState) :
    OpenAiResponsesStreamState × List StreamUpdate :=
  match functionCallItem? parsed with
  | none => (state, [])
  | some item =>
    let itemId := ((memberText item "id").or (memberText item "call_id")).getD
      s!"missing-item-id:{state.functionCallsByItem.size + 1}"
    let entry := (state.functionCallsByItem[itemId]?).getD .unknown
    let entry := { entry with
      callId := (memberText item "call_id").or entry.callId
      name := (memberText item "name").or entry.name
      arguments := ((item.get? "arguments").map normalizeToolArgumentsValue).getD entry.arguments }
    match entry.preparingEmitted, entry.name.filter isBoundedCanonicalToolName with
    | false, some name =>
      let entry := { entry with preparingEmitted := true }
      ({ state with functionCallsByItem := state.functionCallsByItem.insert itemId entry },
        [.toolCallPreparing name])
    | _, _ =>
      ({ state with functionCallsByItem := state.functionCallsByItem.insert itemId entry }, [])

def functionCallArgumentsDelta (parsed : Json) (state : OpenAiResponsesStreamState) :
    OpenAiResponsesStreamState × List StreamUpdate :=
  let itemId := (memberText parsed "item_id").getD ""
  if itemId = "" then (state, [])
  else
    let entry := (state.functionCallsByItem[itemId]?).getD .unknown
    let entry := { entry with
      arguments := entry.arguments ++ (memberText parsed "delta").getD "" }
    ({ state with functionCallsByItem := state.functionCallsByItem.insert itemId entry }, [])

def outputItemDone (parsed : Json) (state : OpenAiResponsesStreamState) :
    OpenAiResponsesStreamState × List StreamUpdate :=
  match functionCallItem? parsed with
  | none => (state, [])
  | some item =>
    let itemId := (memberText item "id").getD ""
    let call := (state.functionCallsByItem[itemId]?).getD .unknown
    let argsJson := normalizeStreamToolArguments readers.toModelReaders call.arguments
      (item.get? "arguments")
    let call := { call with
      callId := (memberText item "call_id").or call.callId
      name := (memberText item "name").or call.name
      arguments := argsJson }
    match requiredProviderToolCallIdentity "openai-responses" call.callId call.name with
    | .error _ =>
      ({ state with functionCallsByItem := state.functionCallsByItem.insert itemId call }, [])
    | .ok (callId, name) =>
      let preparing := if call.preparingEmitted = false ∧ isBoundedCanonicalToolName name = true
        then [.toolCallPreparing name] else []
      ({ state with
          functionCallsByItem := state.functionCallsByItem.erase itemId
          toolCalls := state.toolCalls ++ [⟨callId, name, argsJson⟩] },
        preparing ++ [.toolCallReady callId (if itemId = "" then none else some itemId) name
          argsJson (previewToolArgumentsJson readers.toModelReaders argsJson)])

/-- The response of the final event replaces what the stream has built, when it can be read. -/
def setCompleted (response : Option Json) (state : OpenAiResponsesStreamState) :
    OpenAiResponsesStreamState :=
  { state with
    completedResponse := (response.bind readers.responseValue).or state.completedResponse }

def responseCompleted (parsed : Json) (state : OpenAiResponsesStreamState) :
    Client (OpenAiResponsesStreamState × List StreamUpdate) := do
  let response := parsed.get? "response"
  let text ← extractOpenaiResponsesReasoning
    ((response.bind (·.get? "output")).bind Json.asArray?)
  let state := match text with
    | some text => { state with
        reasoningParts := (∅ : Table Nat String).insert (summaryKey 0 0) text }
    | none => state
  pure (state.setCompleted readers response, [.done (some "completed")])

def responseIncomplete (parsed : Json) (state : OpenAiResponsesStreamState) :
    OpenAiResponsesStreamState × List StreamUpdate :=
  let response := parsed.get? "response"
  let finishReason := ((response.bind (·.get? "incomplete_details")).bind
    (memberText · "reason")).getD "incomplete"
  (state.setCompleted readers response, [.done (some finishReason)])

def consumeEvent (parsed : Json) (state : OpenAiResponsesStreamState) :
    Client (OpenAiResponsesStreamState × List StreamUpdate) :=
  match (memberText parsed "type").getD "" with
  | "response.reasoning_summary_text.delta" => state.reasoningSummary true parsed
  | "response.reasoning_summary_text.done" => state.reasoningSummary false parsed
  | "provider_waiting" => pure (state, [.status none .providerWaiting])
  | "response.created" =>
    pure ({ state with providerRequestId := (parsed.get? "response").bind (memberText · "id") },
      [.status none .thinking])
  | "response.output_text.delta" => pure (state.outputTextDelta parsed)
  | "response.output_item.added" => pure (state.outputItemAdded parsed)
  | "response.function_call_arguments.delta" => pure (state.functionCallArgumentsDelta parsed)
  | "response.function_call_arguments.done" | "response.output_item.done" =>
    pure (state.outputItemDone readers parsed)
  | "response.completed" => state.responseCompleted readers parsed
  | "response.incomplete" => pure (state.responseIncomplete readers parsed)
  | _ => pure (state, [])

/-- One data value of a stream. -/
def consumeChunk (state : OpenAiResponsesStreamState) (chunk : String) (attempt : Nat) :
    Client (OpenAiResponsesStreamState × List StreamUpdate) := do
  let parsed ← parseSseJsonFrame readers.toModelReaders "openai-responses" chunk attempt
  state.consumeEvent readers parsed

def validateTerminalToolCalls (state : OpenAiResponsesStreamState) : Client Unit :=
  if state.functionCallsByItem.isEmpty then do
    let toolCalls ← match state.completedResponse with
      | some response => extractOpenaiResponsesToolCalls response.output
      | none => pure state.toolCalls
    validateRetryableProviderToolCallArguments readers.toModelReaders "openai-responses" toolCalls
  else .fail (invalidProviderToolCallIdentity "openai-responses")

def doneError (state : OpenAiResponsesStreamState) (finishReason : Option String) :
    Option ModelClientError :=
  match rejectOpenaiResponsesFinishReason finishReason with
  | .error (.failed error) =>
    if error.providerCode = outputTokenLimit.providerCode then
      some (error.withTruncatedToolCalls (state.truncatedToolCalls readers.toModelReaders))
    else some error
  | _ =>
    match state.validateTerminalToolCalls readers with
    | .error (.failed error) => some error
    | _ => none

/-- The output items of a stream whose final event had no response. -/
def writtenItems (state : OpenAiResponsesStreamState) : List Json :=
  (if isBlank state.accumulatedOutputText then []
    else [.object [("content", .array [.object [("text", .string state.accumulatedOutputText),
      ("type", .string "output_text")]]), ("type", .string "message")]]) ++
  state.toolCalls.map fun call =>
    .object [("arguments", .string call.argsJson), ("call_id", .string call.id),
      ("name", .string call.name), ("type", .string "function_call")]

def intoResponse (state : OpenAiResponsesStreamState) : OpenAiResponsesResponse :=
  match state.completedResponse with
  | some response => response
  | none => {
      id := state.providerRequestId
      status := some "completed"
      incompleteDetails := none
      outputText := none
      output := if state.writtenItems.isEmpty then none else some state.writtenItems
      usage := state.usage }

end OpenAiResponsesStreamState

/-! ### The adapter -/

/-- The adapter. -/
def openaiResponses (readers : OpenAiResponsesReaders) : StreamAdapter where
  State := OpenAiResponsesStreamState
  initial := .default
  consumeChunk := OpenAiResponsesStreamState.consumeChunk readers
  reasoningSnapshot := OpenAiResponsesStreamState.reasoningSnapshot
  doneError := OpenAiResponsesStreamState.doneError readers
  intoResponse state := pure state.intoResponse.toJson.render
  parseHttpResponse := parseOpenaiResponsesResponse readers
  mapHttpError := mapOpenaiResponsesHttpError readers
  attempt_irrelevant := by
    intro state chunk a result h b
    simp only [OpenAiResponsesStreamState.consumeChunk, Outcome.bind_eq_ok,
      parseSseJsonFrame_eq_ok] at h ⊢
    exact h

theorem acceptedCalls_of_parseOpenaiResponsesResponse {readers : OpenAiResponsesReaders}
    {answer : JsonHttpResponse} {response : ModelClientResponse}
    (h : parseOpenaiResponsesResponse readers answer = .ok response) :
    ∀ call ∈ response.generateResult.toolCalls, AcceptedCall readers.toModelReaders call := by
  unfold parseOpenaiResponsesResponse at h
  split at h
  · exact absurd h Client.fail_ne_ok
  split at h
  · exact absurd h Client.fail_ne_ok
  simp only at h
  split at h
  · exact absurd h Client.fail_ne_ok
  simp only [Outcome.ok_rules] at h
  obtain ⟨-, toolCalls, hcalls, harguments, reasoning, -, rfl⟩ := h
  refine acceptedCalls_of_mapM ?_ hcalls harguments
  intro item call hitem
  simp only [openaiResponsesToolCall, Outcome.ok_rules, Prod.exists,
    requiredProviderToolCallIdentity_eq_ok] at hitem
  obtain ⟨id, name, ⟨⟨-, hid⟩, -, hname⟩, rfl⟩ := hitem
  exact ⟨hid, hname⟩

end Centaeris
