import Centaeris.Foundation.JsonRead
import Centaeris.Model.AnthropicMessages
import Centaeris.Model.OpenaiCompletions

namespace Centaeris

open Foundation

/-!
# The three protocols
-/

/-- The readers of all protocols, with one JSON reader. -/
structure ProtocolReaders extends ModelReaders where
  anthropicResponse : String → Except String AnthropicMessageResponse
  anthropicUsage : Json → Option AnthropicUsage
  anthropicErrorObject : String → Option AnthropicErrorObject
  responsesResponse : String → Except String OpenAiResponsesResponse
  responsesValue : Json → Option OpenAiResponsesResponse
  completionsResponse : String → Except String OpenAiCompatibleChatCompletionsResponse
  completionsUsage : Json → Option OpenAiCompatibleUsage
  openaiErrorObject : String → Option OpenAiErrorObject

namespace ProtocolReaders

variable (readers : ProtocolReaders)

def anthropic : AnthropicReaders :=
  ⟨readers.toModelReaders, readers.anthropicResponse, readers.anthropicUsage,
    readers.anthropicErrorObject⟩

def responses : OpenAiResponsesReaders :=
  ⟨readers.toModelReaders, readers.responsesResponse, readers.responsesValue,
    readers.openaiErrorObject⟩

def completions : OpenAiCompatibleReaders :=
  ⟨readers.toModelReaders, readers.completionsResponse, readers.completionsUsage,
    readers.openaiErrorObject⟩

end ProtocolReaders

/-- A protocol with what a request says about its provider. -/
inductive Protocol where
  | anthropicMessages (preserveContentBlocks : Bool)
  | openaiResponses
  | openaiCompletions (gemini : Bool)
deriving DecidableEq

/-- The adapter of a protocol. -/
def Protocol.adapter (readers : ProtocolReaders) : Protocol → StreamAdapter
  | .anthropicMessages preserveContentBlocks =>
    Centaeris.anthropicMessages readers.anthropic preserveContentBlocks
  | .openaiResponses => Centaeris.openaiResponses readers.responses
  | .openaiCompletions gemini => openaiCompatible readers.completions gemini

/-! ### Retries -/

/-- **Attempts.** For every schedule of what the transport does and every number of retries
    below the largest `u32`: both ways to make a request make at most one call more than there
    are retries and report as many attempts as they made calls.  The response of a streamed
    request is what a single request would return that makes only the last call; its result, an
    error with its tool calls included, does not change with what the calls before brought. -/
theorem model_call_attempts_accounted (readers : ProtocolReaders) (protocol : Protocol)
    (transport : JsonHttpTransport) (request : JsonHttpRequest)
    (hfits : request.maxRetries < u32Limit) :
    (∀ parseResponse : JsonHttpResponse → Client ModelClientResponse,
      let (calls, result) := executeJsonModelResponseWithRetries transport request parseResponse
      calls ≤ request.maxRetries + 1 ∧ Reports result calls) ∧
    (∀ (σ : Type) (onEvent : OnEvent σ) (listener : σ),
      let (run, result) := executeSseWithRetries transport request onEvent listener
      run.calls ≤ request.maxRetries + 1 ∧ StreamReports result run.calls) ∧
    (∀ response,
      ((protocol.adapter readers).generateStream transport request).result = .ok response →
      ∃ last, ((protocol.adapter readers).generateStream transport request).calls = last + 1 ∧
        response.providerAttempts = last + 1 ∧
        ((protocol.adapter readers).generateStream (transport.startingAt last) .once).result =
          .ok { response with providerAttempts := 1 }) ∧
    ∀ (transport' : JsonHttpTransport) (last : Nat),
      ((protocol.adapter readers).generateStream transport request).calls = last + 1 →
      ((protocol.adapter readers).generateStream transport' request).calls = last + 1 →
      transport'.executeSse last = transport.executeSse last →
      ((protocol.adapter readers).generateStream transport' request).result =
        ((protocol.adapter readers).generateStream transport request).result := by
  refine ⟨?_, ?_, ?_, ?_⟩
  · intro parseResponse
    obtain ⟨made, hcalls, hbd, hreports⟩ := executeJsonModelResponseFrom_calls transport request
      parseResponse hfits 0 0 (Nat.zero_le _)
    rw [Nat.zero_add] at hcalls hbd hreports
    show (executeJsonModelResponseFrom transport request parseResponse 0 0).1 ≤ _ ∧ Reports _ _
    rw [hcalls]
    exact ⟨hbd, hreports⟩
  · intro σ onEvent listener
    exact executeSseWithRetries_calls transport request onEvent listener hfits
  · intro response hresponse
    obtain ⟨last, hcalls, hlast, hattempts, honce⟩ := StreamAdapter.generateStream_last hresponse
    rw [satAdd32_of_le (by omega)] at hattempts
    exact ⟨last, hcalls, hattempts, honce⟩
  · intro transport' last hcalls hcalls' hsame
    exact StreamAdapter.generateStream_determined hcalls hcalls' hsame

/-! ### A stream that is broken off once -/

namespace ProtocolReaders

def readJson (text : String) : Except String Json :=
  match Json.read? text with
  | some value => .ok value
  | none => .error "expected value"

def messageOf (value : Json) : AnthropicMessageResponse :=
  ⟨memberText value "id", ((value.get? "content").bind Json.asArray?).getD [],
    memberText value "stop_reason", none⟩

def toolCallOf (value : Json) : OpenAiCompatibleToolCall :=
  let function := (value.get? "function").getD .null
  ⟨memberText value "id", ⟨(memberText function "name").getD "",
    (memberText function "arguments").getD ""⟩, none⟩

def choiceOf (value : Json) : OpenAiCompatibleChoice :=
  let message := (value.get? "message").getD .null
  ⟨⟨message.get? "content",
    ((message.get? "tool_calls").bind Json.asArray?).map (·.map toolCallOf), none, none⟩,
    memberText value "finish_reason"⟩

/-- Readers of JSON texts; usages are not read. -/
def json : ProtocolReaders where
  value text := (readJson text).mapError (⟨1, 0, ·⟩)
  sha256 text := text
  anthropicResponse text := messageOf <$> readJson text
  anthropicUsage _ := none
  anthropicErrorObject _ := none
  responsesResponse _ := .error "expected value"
  responsesValue _ := none
  completionsResponse text := do
    let value ← readJson text
    return ⟨memberText value "id",
      (((value.get? "choices").bind Json.asArray?).getD []).map choiceOf, none⟩
  completionsUsage _ := none
  openaiErrorObject _ := none

end ProtocolReaders

/-- A data value of a given type. -/
def frameSample (type : String) (members : List (String × Json)) : String :=
  (Json.object (("type", .string type) :: members)).render

def textSample (text : String) : String :=
  frameSample "content_block_delta" [("delta", .object [("type", .string "text_delta"),
    ("text", .string text)])]

def toolSample (id : String) : String :=
  frameSample "content_block_start" [("index", .number (.posInt 0)), ("content_block",
    .object [("type", .string "tool_use"), ("id", .string id), ("name", .string "read")])]

/-- The end of a stream at the limit of its output. -/
def limitSample : List String :=
  [frameSample "message_delta" [("delta", .object [("stop_reason", .string "max_tokens")])],
    frameSample "message_stop" []]

/-- The first call brings a part of an answer and is broken off; the second one is complete. -/
def brokenOff (first second : List String) : JsonHttpTransport where
  executeJson _ := .error (.connection "refused")
  executeSse
    | 0 => ⟨first, .error (.streamInterrupted "reset")⟩
    | _ => ⟨second, .ok ⟨200, [], ""⟩⟩

def brokenOffStream (first second : List String) : StreamAdapter.StreamEnd :=
  ((Protocol.anthropicMessages false).adapter .json).generateStream (brokenOff first second)
    oneRetry

/-- A text that was broken off is not in the response, and a tool call that was broken off is
    not in the error of the second call. -/
theorem model_call_attempts_broken_off :
    (brokenOffStream [textSample "par"] [textSample "whole", frameSample "message_stop" []]).result =
        .ok ⟨⟨"whole", [], none, none, none, none, none, none⟩, none, 2⟩ ∧
      (((Protocol.anthropicMessages false).adapter .json).generateStream
        ((brokenOff [textSample "par"]
          [textSample "whole", frameSample "message_stop" []]).startingAt 1) .once).result =
        .ok ⟨⟨"whole", [], none, none, none, none, none, none⟩, none, 1⟩ ∧
      (brokenOffStream [toolSample "a"] (toolSample "b" :: limitSample)).result =
        .fail { outputTokenLimit with
          providerAttempts := 2
          truncatedToolCalls := [⟨some "b", some "read", 0, "sha256:"⟩] } ∧
      ∀ first, (brokenOffStream first (toolSample "b" :: limitSample)).calls = 2 →
        (brokenOffStream first (toolSample "b" :: limitSample)).result =
          (brokenOffStream [toolSample "a"] (toolSample "b" :: limitSample)).result := by
  have hwhole : (brokenOffStream [textSample "par"]
      [textSample "whole", frameSample "message_stop" []]).result =
        .ok ⟨⟨"whole", [], none, none, none, none, none, none⟩, none, 2⟩ := by decide +kernel
  obtain ⟨-, -, honce, -⟩ := model_call_attempts_accounted .json (.anthropicMessages false)
    (brokenOff [textSample "par"] [textSample "whole", frameSample "message_stop" []]) oneRetry
    (by decide)
  obtain ⟨last, -, hlast, hlastOnly⟩ := honce _ hwhole
  cases hlast
  refine ⟨hwhole, hlastOnly, by decide +kernel, ?_⟩
  intro first hcalls
  obtain ⟨-, -, -, hdetermined⟩ := model_call_attempts_accounted .json (.anthropicMessages false)
    (brokenOff [toolSample "a"] (toolSample "b" :: limitSample)) oneRetry (by decide)
  exact hdetermined (brokenOff first (toolSample "b" :: limitSample)) 1 (by decide +kernel) hcalls rfl

end Centaeris
