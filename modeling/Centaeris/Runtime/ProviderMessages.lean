import Centaeris.Runtime.Messages
import Centaeris.Foundation.Json

namespace Centaeris

open Foundation

/-!
# The messages of two provider protocols

Both builders walk over the messages of a prompt with the system texts, the messages built so
far and the tool calls that still wait for a result.

How a provider's JSON texts are read (tool call arguments, saved reasoning) is a parameter.
-/

/-! ### Requests -/

/-- An image of the prompt; a prompt whose images have a blank placeholder is refused before
    it is sent. -/
structure ModelInputImageV1 where
  messageId : String
  contentType : String
  placeholder : String
  dataBase64 : String
  placeholder_named : isBlank placeholder = false
deriving DecidableEq

structure PreparedPromptV1 where
  systemPrompt : Option String
  messages : List ModelMessageV1
  inputImages : List ModelInputImageV1
deriving DecidableEq

structure ModelClientRequest where
  preparedPrompt : PreparedPromptV1
  providerId : String
  /-- Whether the provider is of the Gemini kind. -/
  gemini : Bool
deriving DecidableEq

structure GeminiToolContinuation where
  schema : String
  toolSignatures : Table String String

/-- The readers of JSON texts that providers and models wrote. -/
structure ProviderReaders where
  value : String → Except String Json
  list : String → Option (List Json)
  geminiToolContinuation : String → Option GeminiToolContinuation

/-! ### Input parts -/

inductive ProviderInputPart where
  | text (text : String)
  | image (contentType dataBase64 : String)
deriving DecidableEq

def placeholderText (message : ModelMessageV1) (image : ModelInputImageV1) : String :=
  "image placeholder is missing: messageId=" ++ message.messageId ++ " placeholder=" ++
    image.placeholder

/-- The part of a text between two places. -/
def textSlice (content : List Char) (start stop : Nat) : String :=
  String.ofList ((content.take stop).drop start)

/-- The text before an image, if there is some, and the image. -/
def pushImagePart (content : List Char) (state : List ProviderInputPart × Nat)
    (entry : Nat × ModelInputImageV1) : List ProviderInputPart × Nat :=
  let (parts, cursor) := state
  let (position, image) := entry
  let before := if cursor < position then [.text (textSlice content cursor position)] else []
  (parts ++ before ++ [.image image.contentType image.dataBase64],
    position + image.placeholder.length)

def placedImages (request : ModelClientRequest) (message : ModelMessageV1) :
    Outcome (List (Nat × ModelInputImageV1)) :=
  (request.preparedPrompt.inputImages.filter (·.messageId == message.messageId)).mapM
    fun image => do
      let position ← orFail (findText? image.placeholder.toList message.content.toList)
        (placeholderText message image)
      pure (position, image)

def cutAtImages (content : List Char) (images : List (Nat × ModelInputImageV1)) :
    List ProviderInputPart :=
  let (parts, cursor) := images.foldl (pushImagePart content) ([], 0)
  parts ++ if cursor < content.length then [.text (textSlice content cursor content.length)] else []

def providerInputParts (request : ModelClientRequest) (message : ModelMessageV1) :
    Outcome (List ProviderInputPart) := do
  let images ← placedImages request message
  if images.isEmpty then
    pure (if isBlank message.content then [] else [.text (trim message.content)])
  else
    pure (cutAtImages message.content.toList
      (images.mergeSort fun left right => left.1 ≤ right.1))

/-! ### The walk -/

/-- What is special about a protocol: its name in errors, and how a message of each role is
    added to the messages built so far. -/
structure MessageAdapter (μ : Type) where
  label : String
  pushUser : List μ → ModelMessageV1 → Outcome (List μ)
  /-- Also gives the ids of the calls that wait for a result from now on. -/
  pushAssistant : List μ → ModelMessageV1 → Outcome (List μ × List String)
  pushTool : List μ → String → ModelMessageV1 → List μ

structure AdapterState (μ : Type) where
  systemParts : List String
  messages : List μ
  pendingToolCallIds : List String
deriving DecidableEq

/-- The error of a system message that comes too late. -/
def afterContentText (label messageId : String) : String :=
  label ++ " system message " ++ messageId ++ " appears after conversation content"

namespace MessageAdapter

variable {μ : Type} (adapter : MessageAdapter μ)

def step (state : AdapterState μ) (item : ModelMessageV1) : Outcome (AdapterState μ) := do
  ensure (state.pendingToolCallIds.isEmpty || item.role == .tool) ("assistant tool call " ++
    state.pendingToolCallIds.headD "" ++ " must be followed by tool result before message " ++
    item.messageId)
  match item.role with
  | .system =>
    ensure state.messages.isEmpty (afterContentText adapter.label item.messageId)
    let parts := if isBlank item.content then [] else [trim item.content]
    pure { state with systemParts := state.systemParts ++ parts }
  | .user =>
    let messages ← adapter.pushUser state.messages item
    pure { state with messages }
  | .assistant =>
    let (messages, opened) ← adapter.pushAssistant state.messages item
    pure { state with messages, pendingToolCallIds := state.pendingToolCallIds ++ opened }
  | .tool =>
    let toolCallId ← orFail item.toolCallId
      ("tool message " ++ item.messageId ++ " is missing toolCallId")
    let expected ← orFail state.pendingToolCallIds.head?
      ("tool message " ++ item.messageId ++ " has no preceding assistant tool call")
    ensure (expected == toolCallId) ("tool message " ++ item.messageId ++ " has toolCallId=" ++
      toolCallId ++ " but expected " ++ expected)
    pure { state with
      messages := adapter.pushTool state.messages toolCallId item
      pendingToolCallIds := state.pendingToolCallIds.tail }

/-- The system prompt is the first of the system texts. -/
def start (request : ModelClientRequest) : AdapterState μ :=
  ⟨(request.preparedPrompt.systemPrompt.map trim |>.filter (· != "")).toList, [], []⟩

def walk (request : ModelClientRequest) : Outcome (AdapterState μ) := do
  let state ← request.preparedPrompt.messages.foldlM adapter.step (start request)
  match state.pendingToolCallIds.head? with
  | some callId =>
    fail ("assistant tool call " ++ callId ++ " has no following tool result")
  | none => pure state

end MessageAdapter

/-! ### Anthropic messages -/

structure AnthropicMessage where
  role : String
  content : List Json
deriving DecidableEq

def pushAnthropicMessage (messages : List AnthropicMessage) (role : String)
    (content : List Json) : List AnthropicMessage :=
  match messages.getLast? with
  | some previous =>
    if previous.role == role then
      messages.dropLast ++ [{ previous with content := previous.content ++ content }]
    else messages ++ [⟨role, content⟩]
  | none => messages ++ [⟨role, content⟩]

def isMinimaxProvider (providerId : String) : Bool :=
  providerId == "minimax.default" || providerId == "minimax-cn.default"

def minimaxBlockTypes : List String := ["thinking", "text", "tool_use"]

def anthropicInputPart : ProviderInputPart → Json
  | .text text => .object [("type", .string "text"), ("text", .string text)]
  | .image contentType dataBase64 =>
    .object [("type", .string "image"), ("source", .object [("type", .string "base64"),
      ("media_type", .string contentType), ("data", .string dataBase64)])]

section Adapters

variable (readers : ProviderReaders) (request : ModelClientRequest)

def parseMinimaxContentBlocks (raw : String) : Outcome (List Json) := do
  let blocks ← orFail (readers.list raw) "MiniMax continuation requires saved content blocks"
  ensure (!blocks.isEmpty && blocks.all fun block =>
      ((block.get? "type").bind Json.asString?).any (minimaxBlockTypes.contains ·))
    "MiniMax continuation has invalid content blocks"
  pure blocks

/-- The ids of the tool calls among replayed blocks. -/
def replayedCalls (content : List Json) : List String :=
  (content.filter fun block => block.get? "type" == some (.string "tool_use")).filterMap
    fun block => (block.get? "id").bind Json.asString?

/-- The saved blocks of an assistant message, for a provider that takes them back. -/
def minimaxReplay (item : ModelMessageV1) : Outcome (Option (List Json)) :=
  match isMinimaxProvider request.providerId, item.reasoningContent with
  | true, some raw => some <$> parseMinimaxContentBlocks readers raw
  | _, _ => pure none

def anthropicToolUse (call : ModelToolCallV1) : Outcome Json := do
  let input ← mapError (readers.value call.argsJson) fun error =>
    "anthropic tool call " ++ call.id ++ " has invalid arguments: " ++ error
  pure (.object [("type", .string "tool_use"), ("id", .string call.id),
    ("name", .string call.name), ("input", input)])

def pushAnthropicAssistant (messages : List AnthropicMessage) (item : ModelMessageV1) :
    Outcome (List AnthropicMessage × List String) := do
  let replay ← minimaxReplay readers request item
  let calls := item.toolCalls.map (·.id)
  match replay with
  | some content =>
    ensure (replayedCalls content == calls)
      ("MiniMax tool call replay differs from saved transcript: messageId=" ++ item.messageId)
    pure (pushAnthropicMessage messages "assistant" content, calls)
  | none =>
    ensure ((item.reasoningContent.map isBlank).getD true)
      ("anthropic reasoning history requires provider signatures: messageId=" ++
        item.messageId)
    let text := if isBlank item.content then []
      else [.object [("type", .string "text"), ("text", .string (trim item.content))]]
    let uses ← item.toolCalls.mapM (anthropicToolUse readers)
    let content := text ++ uses
    pure (if content.isEmpty then messages
      else pushAnthropicMessage messages "assistant" content, calls)

def anthropicAdapter : MessageAdapter AnthropicMessage where
  label := "anthropic"
  pushUser messages item := do
    let parts ← providerInputParts request item
    pure (if parts.isEmpty then messages
      else pushAnthropicMessage messages "user" (parts.map anthropicInputPart))
  pushAssistant := pushAnthropicAssistant readers request
  pushTool messages toolCallId item :=
    pushAnthropicMessage messages "user" [.object [("type", .string "tool_result"),
      ("tool_use_id", .string toolCallId), ("content", .string item.content)]]

def joinParts (parts : List String) : String := "\n\n".intercalate parts

/-- The builder for one protocol. -/
def buildAnthropicMessages : Outcome (Option String × List AnthropicMessage) := do
  let state ← (anthropicAdapter readers request).walk request
  ensure (!state.messages.isEmpty)
    "anthropic-messages requires at least one non-system message"
  pure (if state.systemParts.isEmpty then none else some (joinParts state.systemParts),
    state.messages)

/-! ### Chat completions -/

structure OpenAiCompatibleRequestToolCall where
  id : String
  toolType : String
  name : String
  arguments : String
  extraContent : Option Json
deriving DecidableEq

structure OpenAiCompatibleChatMessage where
  role : String
  content : Json
  toolCalls : Option (List OpenAiCompatibleRequestToolCall)
  reasoningContent : Option String
  toolCallId : Option String
deriving DecidableEq

def openaiCompatibleTextMessage (role content : String) : OpenAiCompatibleChatMessage :=
  ⟨role, .string content, none, none, none⟩

def geminiToolContinuationSchema : String := "gemini_chat_tool_signatures.v1"
def geminiImportedToolSignature : String := "skip_thought_signature_validator"

/-- The signature of a tool call among the saved ones. -/
def geminiSignature? (message : ModelMessageV1) (callId : String) : Option String := do
  let raw ← message.reasoningContent
  let saved ← readers.geminiToolContinuation raw
  guard (saved.schema == geminiToolContinuationSchema)
  saved.toolSignatures[callId]?

def openaiCompatibleToolCall (message : ModelMessageV1) (call : ModelToolCallV1)
    (index : Nat) : OpenAiCompatibleRequestToolCall :=
  let signature := (geminiSignature? readers message call.id).or
    (if index = 0 then some geminiImportedToolSignature else none)
  let extraContent := signature.map fun value =>
    Json.object [("google", .object [("thought_signature", .string value)])]
  ⟨call.id, "function", call.name, call.argsJson, if request.gemini then extraContent else none⟩

def buildOpenaiCompatibleAssistantMessage (message : ModelMessageV1) :
    OpenAiCompatibleChatMessage :=
  let calls := message.toolCalls.zipIdx.map fun entry =>
    openaiCompatibleToolCall readers request message entry.1 entry.2
  ⟨"assistant", .string message.content, if calls.isEmpty then none else some calls,
    if request.gemini then none else message.reasoningContent, none⟩

def imageDataUrl (contentType dataBase64 : String) : String :=
  "data:" ++ contentType ++ ";base64," ++ dataBase64

def openaiChatParts (parts : List ProviderInputPart) : Json :=
  .array (parts.map fun
    | .text text => .object [("type", .string "text"), ("text", .string text)]
    | .image contentType dataBase64 => .object [("type", .string "image_url"),
        ("image_url", .object [("url", .string (imageDataUrl contentType dataBase64))])])

/-- One text stands alone; anything else is a list of parts. -/
def openaiUserContent : List ProviderInputPart → Json
  | [.text text] => .string text
  | parts => openaiChatParts parts

def pushOpenaiAssistant (messages : List OpenAiCompatibleChatMessage) (item : ModelMessageV1) :
    Outcome (List OpenAiCompatibleChatMessage × List String) :=
  let message := buildOpenaiCompatibleAssistantMessage readers request item
  let opened := (message.toolCalls.getD []).map (·.id)
  let sent := !isBlank item.content || message.toolCalls.isSome ||
    message.reasoningContent.isSome
  pure (if sent then messages ++ [message] else messages, opened)

def openaiAdapter : MessageAdapter OpenAiCompatibleChatMessage where
  label := "openai-compatible"
  pushUser messages item := do
    let parts ← providerInputParts request item
    pure (if parts.isEmpty then messages
      else messages ++ [⟨"user", openaiUserContent parts, none, none, none⟩])
  pushAssistant := pushOpenaiAssistant readers request
  pushTool messages toolCallId item :=
    messages ++ [⟨"tool", .string item.content, none, none, some toolCallId⟩]

def buildOpenaiCompatibleMessages : Outcome (List OpenAiCompatibleChatMessage) := do
  let state ← (openaiAdapter readers request).walk request
  pure (if state.systemParts.isEmpty then state.messages
    else openaiCompatibleTextMessage "system" (joinParts state.systemParts) :: state.messages)

end Adapters

end Centaeris
