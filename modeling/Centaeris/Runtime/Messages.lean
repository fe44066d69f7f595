import Centaeris.Foundation.Table
import Centaeris.Foundation.Loops
import Centaeris.Foundation.Text

namespace Centaeris

open Foundation

/-!
# The messages of a running session

The runtime keeps the conversation of a session in memory.
-/

inductive MessageRole where
  | system
  | user
  | assistant
  | tool
deriving DecidableEq

def MessageRole.debugName : MessageRole → String
  | .system => "System"
  | .user => "User"
  | .assistant => "Assistant"
  | .tool => "Tool"

/-- A stored message; what it means to the model is stored apart, under its id. -/
structure ChatMessage where
  messageId : String
  role : MessageRole
  content : String
  createdAtMs : Int
  metadata : Table String String
deriving DecidableEq

structure ModelToolCallStateV1 where
  id : String
  name : String
  argsJson : String
deriving DecidableEq

inductive ModelMessageSemanticsV1 where
  | plain
  | assistant (reasoningContent : Option String) (toolCalls : List ModelToolCallStateV1)
  | toolResult (toolCallId toolName status resultState : String) (errorKind : Option String)
      (objectRefs : List String) (transitionReason : Option String)
deriving DecidableEq

/-- The session, with all messages and the window that is sent. -/
structure SessionStateSnapshot where
  sessionId : String
  messages : List ChatMessage
  contextWindow : List ChatMessage
  modelSemantics : Table String ModelMessageSemanticsV1
  updatedAtMs : Int
deriving DecidableEq

namespace SessionStateSnapshot

def new (sessionId : String) (nowMs : Int) : SessionStateSnapshot :=
  ⟨sessionId, [], [], ∅, nowMs⟩

def modelSemanticsFor (session : SessionStateSnapshot) (messageId : String) :
    Outcome ModelMessageSemanticsV1 :=
  orFail session.modelSemantics[messageId]?
    ("model_message_semantics_missing: messageId=" ++ messageId)

end SessionStateSnapshot

/-! ### Messages for the model -/

structure ModelToolCallV1 where
  id : String
  name : String
  argsJson : String
deriving DecidableEq

/-- A message as it is sent, and the projection to it. -/
structure ModelMessageV1 where
  messageId : String
  role : MessageRole
  content : String
  toolCalls : List ModelToolCallV1
  toolCallId : Option String
  reasoningContent : Option String
deriving DecidableEq

def projectChatMessageToModelMessage (message : ChatMessage)
    (semantics : ModelMessageSemanticsV1) : Outcome ModelMessageV1 :=
  match message.role, semantics with
  | .system, .plain | .user, .plain | .assistant, .plain =>
    pure ⟨message.messageId, message.role, message.content, [], none, none⟩
  | .assistant, .assistant reasoningContent toolCalls =>
    pure ⟨message.messageId, message.role, message.content,
      toolCalls.map fun call => ⟨call.id, call.name, call.argsJson⟩, none, reasoningContent⟩
  | .tool, .toolResult toolCallId .. =>
    pure ⟨message.messageId, message.role, message.content, [], some toolCallId, none⟩
  | _, _ =>
    fail ("model_message_semantics_role_mismatch: messageId=" ++ message.messageId ++
      " role=" ++ message.role.debugName)

def projectSessionMessagesToModelMessages (session : SessionStateSnapshot)
    (messages : List ChatMessage) : Outcome (List ModelMessageV1) :=
  messages.mapM fun message => do
    let semantics ← session.modelSemanticsFor message.messageId
    projectChatMessageToModelMessage message semantics

end Centaeris
