import Centaeris.Runtime.Messages
import Centaeris.Foundation.JsonText
import Centaeris.Foundation.Places

namespace Centaeris

open Foundation Json

/-!
# The context window

Only a part of a session's messages is sent to the model.  The last compaction summary, if
there is one, stands for everything before the first message it keeps.

The digest of a message is a parameter, and so is the reader of a summary's anchor reference.
-/

def contextCompactionKind : String := "context_compaction"
def promptCompactionUserReplayKind : String := "prompt_compaction_user_replay"
def lifecycleHookContextMetaKey : String := "lifecycle_hook_context_v1"
def firstKeptMessageIdKey : String := "first_kept_message_id"
def compactionIdKey : String := "compaction_id"
def causalAnchorReferenceKey : String := "causal_user_anchor_v1_json"
def messageSemanticKindKey : String := "message_semantic_kind"

/-! ### Kinds of messages -/

def isPromptCompactionUserReplay (message : ChatMessage) : Bool :=
  message.role == .user && message.metadata["kind"]? == some promptCompactionUserReplayKind

def isContextCompactionSummary (message : ChatMessage) : Bool :=
  message.role == .system && message.metadata["kind"]? == some contextCompactionKind

def isLifecycleHookContext (message : ChatMessage) : Bool :=
  message.role == .system && message.metadata[lifecycleHookContextMetaKey]? == some "true"

/-- The kinds of user messages that a chain of tool calls may answer to. -/
def anchorSemanticKinds : List String :=
  ["user_request", "turn_supplement", "answer_now", "host_event_input"]

def isReliableToolChainUserAnchor (message : ChatMessage) : Bool :=
  message.role == .user && message.metadata["kind"]? != some promptCompactionUserReplayKind &&
    (message.metadata[messageSemanticKindKey]?).any (anchorSemanticKinds.contains ·)

/-! ### Materialization -/

structure CompactionCausalAnchorReference where
  schema : String
  messageId : String
  messageSha256 : String
deriving DecidableEq

def compactionCausalAnchorSchema : String := "compaction_causal_anchor_v1"

/-- How anchor references are written, read and compared. -/
structure AnchorTexts where
  /-- The digest of a message. -/
  sha256 : ChatMessage → String
  encode : CompactionCausalAnchorReference → String
  decode : String → Option CompactionCausalAnchorReference
  /-- A written reference is read back. -/
  decode_encode : ∀ reference, decode (encode reference) = some reference

def anchorReferenceText (reference : CompactionCausalAnchorReference) : String :=
  (Json.object [("schema", .string reference.schema), ("messageId", .string reference.messageId),
    ("messageSha256", .string reference.messageSha256)]).render

def readAnchorReference? (text : String) : Option CompactionCausalAnchorReference := do
  let (schema, rest) ← (Json.readLiteral "\x7b\"schema\":".toList text.toList).bind Json.readString
  let (messageId, rest) ← (Json.readLiteral ",\"messageId\":".toList rest).bind Json.readString
  let (digest, rest) ← (Json.readLiteral ",\"messageSha256\":".toList rest).bind Json.readString
  guard (rest == "\x7d".toList)
  pure ⟨schema, messageId, digest⟩

theorem readAnchorReference?_text (reference : CompactionCausalAnchorReference) :
    readAnchorReference? (anchorReferenceText reference) = some reference := by
  have htext : (anchorReferenceText reference).toList =
      "\x7b\"schema\":".toList ++ ((renderString reference.schema).toList ++
        (",\"messageId\":".toList ++ ((renderString reference.messageId).toList ++
          (",\"messageSha256\":".toList ++
            ((renderString reference.messageSha256).toList ++ "\x7d".toList))))) := by
    have hschema : renderString "schema" = "\"schema\"" := by decide
    have hmessage : renderString "messageId" = "\"messageId\"" := by decide
    have hdig : renderString "messageSha256" = "\"messageSha256\"" := by decide
    simp [anchorReferenceText, render, renderMembers, hschema, hmessage, hdig]
  simp only [readAnchorReference?, htext, readLiteral_append, Option.bind_some,
    readString_renderString, Option.bind_eq_bind]
  rfl

def AnchorTexts.compact (sha256 : ChatMessage → String) : AnchorTexts :=
  ⟨sha256, anchorReferenceText, readAnchorReference?, readAnchorReference?_text⟩

structure MaterializationDiagnostic where
  reason : String
  messageId : String
  messageIndex : Nat
deriving DecidableEq

structure ContextWindowMaterialization where
  messages : List ChatMessage
  diagnostics : List MaterializationDiagnostic
  sourceMessageCount : Nat
deriving DecidableEq

def isCriticalCompactionMaterializationDiagnostic (reason : String) : Bool :=
  reason == "context_compaction_first_kept_message_missing" ||
    "context_compaction_anchor_".toList.isPrefixOf reason.toList

def ContextWindowMaterialization.ensureValid (materialized : ContextWindowMaterialization) :
    Outcome Unit :=
  match materialized.diagnostics.find? fun diagnostic =>
      isCriticalCompactionMaterializationDiagnostic diagnostic.reason with
  | some diagnostic =>
    fail ("context_window_materialization_invalid_compaction_lifecycle: reason=" ++
      diagnostic.reason ++ " messageId=" ++ diagnostic.messageId)
  | none => pure ()

variable (texts : AnchorTexts)

def compactionCausalAnchorReference (message : ChatMessage) : String :=
  texts.encode ⟨compactionCausalAnchorSchema, message.messageId, texts.sha256 message⟩

/-- The user message that a summary takes along. -/
def referencedCausalAnchor (messages : List ChatMessage) (summary : ChatMessage)
    (summaryIndex suffixStart : Nat) : Except String (Option ChatMessage) :=
  match summary.metadata[causalAnchorReferenceKey]? with
  | none => .ok none
  | some raw =>
    match texts.decode raw with
    | none => .error "context_compaction_anchor_reference_invalid"
    | some reference =>
      if reference.schema != compactionCausalAnchorSchema then
        .error "context_compaction_anchor_schema_unsupported"
      else
        match messages.zipIdx.filter (·.1.messageId == reference.messageId) with
        | [(anchor, position)] =>
          if suffixStart ≤ position || summaryIndex ≤ position ||
              ((messages.take suffixStart).drop (position + 1)).any
                isReliableToolChainUserAnchor then
            .error "context_compaction_anchor_reference_conflict"
          else if !isReliableToolChainUserAnchor anchor then
            .error "context_compaction_anchor_semantics_invalid"
          else if texts.sha256 anchor != reference.messageSha256 then
            .error "context_compaction_anchor_content_changed"
          else .ok (some anchor)
        | _ => .error "context_compaction_anchor_missing_or_ambiguous"

/-- Where the messages that a summary keeps begin, with a complaint when the first of them is
    not there. -/
def suffixStartOf (messages : List ChatMessage) (summary : ChatMessage) (summaryIndex : Nat) :
    Nat × List MaterializationDiagnostic :=
  match summary.metadata[firstKeptMessageIdKey]? with
  | none => (summaryIndex + 1, [])
  | some firstKept =>
    match messages.findIdx? (·.messageId == firstKept) with
    | some index => (index, [])
    | none => (summaryIndex + 1,
        [⟨"context_compaction_first_kept_message_missing", summary.messageId, summaryIndex⟩])

/-- The window and what is wrong with it. -/
def activeProjectionMessages (messages : List ChatMessage) :
    List ChatMessage × List MaterializationDiagnostic :=
  match lastWhere? isContextCompactionSummary messages with
  | none => (messages, [])
  | some (summary, summaryIndex) =>
    let (suffixStart, missing) := suffixStartOf messages summary summaryIndex
    let replays := messages.filter fun message => isPromptCompactionUserReplay message &&
      message.metadata[compactionIdKey]? == summary.metadata[compactionIdKey]?
    let (anchor, conflicts) :=
      match referencedCausalAnchor texts messages summary summaryIndex suffixStart with
      | .ok anchor => (anchor.toList, [])
      | .error reason => ([], [⟨reason, summary.messageId, summaryIndex⟩])
    let suffix := (messages.drop suffixStart).filter fun message =>
      !isContextCompactionSummary message && !isPromptCompactionUserReplay message
    (summary :: (replays ++ anchor ++ suffix), missing ++ conflicts)

def materializeContextWindow (messages : List ChatMessage) : ContextWindowMaterialization :=
  let (activeMessages, diagnostics) := activeProjectionMessages texts messages
  ⟨activeMessages, diagnostics, messages.length⟩

def refreshSessionContextWindow (session : SessionStateSnapshot) : SessionStateSnapshot :=
  { session with contextWindow := (materializeContextWindow texts session.messages).messages }

theorem activeProjectionMessages_of_no_summary {messages : List ChatMessage}
    (h : ∀ message ∈ messages, isContextCompactionSummary message = false) :
    activeProjectionMessages texts messages = (messages, []) := by
  simp only [activeProjectionMessages, lastWhere?_eq_none_iff.mpr h]

/-! ### Tool pairing -/

def pairingText (detail : String) : String :=
  "context_window_materialization_invalid_tool_pairing: " ++ detail

def assistantToolCallIds (message : ChatMessage)
    (modelSemantics : Table String ModelMessageSemanticsV1) : Outcome (List String) :=
  match modelSemantics[message.messageId]? with
  | some .plain => pure []
  | some (.assistant _ toolCalls) => pure (toolCalls.map (·.id))
  | some _ => fail (pairingText ("assistant message " ++ message.messageId ++
      " has incompatible typed semantics"))
  | none => fail (pairingText ("assistant message " ++ message.messageId ++
      " has no typed semantics"))

def toolResultCallId (message : ChatMessage)
    (modelSemantics : Table String ModelMessageSemanticsV1) : Outcome String :=
  let incompatible := fail (pairingText ("tool message " ++ message.messageId ++
      " has incompatible typed semantics"))
  match modelSemantics[message.messageId]? with
  | some (.toolResult toolCallId ..) =>
    if trim toolCallId != "" then pure toolCallId else incompatible
  | some _ => incompatible
  | none => fail (pairingText ("tool message " ++ message.messageId ++
      " has no typed semantics"))

/-- One message of the check: the calls that are still open before it and after it. -/
def pairingStep (modelSemantics : Table String ModelMessageSemanticsV1)
    (pending : List String) (message : ChatMessage) : Outcome (List String) := do
  ensure (pending.isEmpty || message.role == .tool) (pairingText ("assistant tool call " ++
    pending.headD "" ++ " must be followed by tool result before message " ++
    message.messageId))
  match message.role with
  | .assistant =>
    let opened ← assistantToolCallIds message modelSemantics
    pure (pending ++ opened)
  | .tool =>
    let toolCallId ← toolResultCallId message modelSemantics
    let expected ← orFail pending.head? (pairingText ("tool message " ++ message.messageId ++
      " has no preceding assistant tool call"))
    ensure (expected == toolCallId) (pairingText ("tool message " ++ message.messageId ++
      " has tool_call_id=" ++ toolCallId ++ " but expected " ++ expected))
    pure pending.tail
  | .system | .user => pure pending

/-- Every tool call of the window is answered at once, in order. -/
def validateModelContextWindow (messages : List ChatMessage)
    (modelSemantics : Table String ModelMessageSemanticsV1) : Outcome Unit := do
  let pending ← messages.foldlM (pairingStep modelSemantics) []
  match pending.head? with
  | some toolCallId => fail (pairingText ("assistant tool call " ++ toolCallId ++
      " has no following tool result"))
  | none => pure ()

end Centaeris
