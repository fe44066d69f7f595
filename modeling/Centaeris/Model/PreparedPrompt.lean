import Centaeris.Model.Protocols
import Centaeris.Runtime.Messages
import Centaeris.Session.Shape

namespace Centaeris.Prompt

open Foundation List Outcome

/-!
# Prepared prompts

Every request is made from a prepared prompt, which is checked as a whole before it is sent.
-/

structure ModelToolDefinition where
  name : String
  description : String
  inputSchema : Json
deriving DecidableEq

inductive ModelToolChoice where
  | none
  | auto
  | required
  | specific (name : String)
deriving DecidableEq

structure ModelInputImageV1 where
  messageId : String
  contentType : String
  placeholder : String
  dataBase64 : String
deriving DecidableEq

/-- The prompt and its check. -/
structure PreparedPromptV1 where
  schema : String
  systemPrompt : Option String
  messages : List ModelMessageV1
  toolDefinitions : List ModelToolDefinition
  toolChoice : ModelToolChoice
  maxOutputTokens : Nat
  inputImages : List ModelInputImageV1
deriving DecidableEq

/-- The JSON reader, and the Base64 reader of image data. -/
structure PromptReaders extends ModelReaders where
  base64 : String → Option (List UInt8)

/-! ### Tools -/

def checkToolDefinition (definition : ModelToolDefinition) : Outcome Unit :=
  ensure (!isBlank definition.name && !isBlank definition.description &&
    definition.inputSchema.isObject) "prepared_prompt_tool_definition_invalid"

/-- Checks a definition, whose name must be new. -/
def scanToolDefinition (names : List String) (definition : ModelToolDefinition) :
    Outcome (List String) :=
  scanFresh checkToolDefinition (·.name)
    ("prepared_prompt_tool_definition_duplicate:" ++ definition.name) names definition

def checkToolChoice (names : List String) : ModelToolChoice → Outcome Unit
  | .specific name => ensure (!isBlank name && names.contains name)
      ("prepared_prompt_tool_choice_invalid:" ++ name)
  | _ => pure ()

/-! ### The conversation -/

/-- What the walk over the messages keeps. -/
structure Pairing where
  messageIds : List String
  seenToolCallIds : List String
  pendingToolCallIds : List String
deriving DecidableEq

def roleFieldsInvalid (message : ModelMessageV1) : String :=
  "prepared_prompt_role_fields_invalid:" ++ message.messageId

section

variable (readers : PromptReaders)

def readArguments (messageId argsJson : String) : Outcome Unit :=
  match readers.value argsJson with
  | .ok _ => pure ()
  | .error error => fail ("prepared_prompt_tool_call_args_invalid: messageId=" ++ messageId ++
      " error=" ++ error.text)

def scanCall (messageId : String) (pairing : Pairing) (call : ModelToolCallV1) :
    Outcome Pairing := do
  ensure (!isBlank call.id && !isBlank call.name)
    ("prepared_prompt_tool_call_invalid: messageId=" ++ messageId)
  readArguments readers messageId call.argsJson
  ensure (!pairing.seenToolCallIds.contains call.id)
    ("prepared_prompt_tool_call_id_duplicate:" ++ call.id)
  pure { pairing with
    seenToolCallIds := call.id :: pairing.seenToolCallIds
    pendingToolCallIds := pairing.pendingToolCallIds ++ [call.id] }

/-- A tool message answers the first call that waits. -/
def scanToolResult (pairing : Pairing) (message : ModelMessageV1) : Outcome Pairing := do
  ensure (message.toolCalls.isEmpty && message.reasoningContent.isNone) (roleFieldsInvalid message)
  let toolCallId ← orFail ((message.toolCallId.map trim).filter (· ≠ ""))
    ("prepared_prompt_tool_result_missing_call_id: messageId=" ++ message.messageId)
  let expected ← orFail pairing.pendingToolCallIds.head?
    ("prepared_prompt_tool_result_without_call: messageId=" ++ message.messageId)
  ensure (expected == toolCallId) ("prepared_prompt_tool_pairing_invalid: messageId=" ++
    message.messageId ++ " toolCallId=" ++ toolCallId ++ " expected=" ++ expected)
  pure { pairing with pendingToolCallIds := pairing.pendingToolCallIds.tail }

/-- One message of the walk over the conversation, with the message ids and call ids seen so far and
    the calls that wait for a result. -/
def scanMessage (pairing : Pairing) (message : ModelMessageV1) : Outcome Pairing := do
  ensure (!isBlank message.messageId)
    ("prepared_prompt_message_id_invalid:" ++ message.messageId)
  ensure (!pairing.messageIds.contains message.messageId)
    ("prepared_prompt_message_id_duplicate:" ++ message.messageId)
  ensure (pairing.pendingToolCallIds.isEmpty || message.role == .tool)
    ("prepared_prompt_tool_pairing_invalid: assistant tool call " ++
      pairing.pendingToolCallIds.headD "" ++ " must be followed by a tool result before " ++
      message.messageId)
  let pairing := { pairing with messageIds := message.messageId :: pairing.messageIds }
  match message.role with
  | .assistant =>
    ensure message.toolCallId.isNone (roleFieldsInvalid message)
    message.toolCalls.foldlM (scanCall readers message.messageId) pairing
  | .tool => scanToolResult pairing message
  | .system | .user =>
    ensure (message.toolCalls.isEmpty && message.toolCallId.isNone &&
      message.reasoningContent.isNone) (roleFieldsInvalid message)
    pure pairing

/-! ### Images -/

def imageTypes : List String := ["image/png", "image/jpeg", "image/webp"]

/-- An image stands in a user message at one place, which no other image takes. -/
def scanImage (messages : List ModelMessageV1) (placed : List (String × String))
    (image : ModelInputImageV1) : Outcome (List (String × String)) := do
  let message ← orFail (messages.find? (·.messageId == image.messageId))
    "prepared_prompt_image_message_missing"
  ensure (message.role == .user && imageTypes.contains image.contentType &&
      !isBlank image.placeholder && !isBlank image.dataBase64 &&
      countOccurrences image.placeholder message.content == 1 &&
      !placed.contains (image.messageId, image.placeholder))
    "prepared_prompt_image_invalid"
  let decoded ← orFail (readers.base64 image.dataBase64) "prepared_prompt_image_base64_invalid"
  ensure (!decoded.isEmpty) "prepared_prompt_image_base64_invalid"
  pure ((image.messageId, image.placeholder) :: placed)

/-! ### The check -/

namespace PreparedPromptV1

def checkHeader (prompt : PreparedPromptV1) : Outcome Unit := do
  ensure (prompt.schema == preparedPromptSchema)
    ("prepared_prompt_schema_invalid:" ++ prompt.schema)
  ensure (prompt.maxOutputTokens != 0) "prepared_prompt_max_output_tokens_invalid"
  ensure (!prompt.messages.isEmpty) "prepared_prompt_messages_empty"
  ensure (!(prompt.systemPrompt.map isBlank).getD false) "prepared_prompt_system_prompt_blank"
  let names ← prompt.toolDefinitions.foldlM scanToolDefinition []
  ensure (!prompt.toolDefinitions.isEmpty || prompt.toolChoice == .none)
    "prepared_prompt_tool_choice_invalid:no_tools"
  checkToolChoice names prompt.toolChoice

def checkPairing (messages : List ModelMessageV1) : Outcome Unit := do
  let pairing ← messages.foldlM (scanMessage readers) ⟨[], [], []⟩
  match pairing.pendingToolCallIds.head? with
  | some toolCallId => fail ("prepared_prompt_tool_pairing_invalid: assistant tool call " ++
      toolCallId ++ " has no result")
  | none => pure ()

def validate (prompt : PreparedPromptV1) : Outcome Unit := do
  prompt.checkHeader
  checkPairing readers prompt.messages
  let _ ← prompt.inputImages.foldlM (scanImage readers prompt.messages) []
  pure ()

end PreparedPromptV1

end

/-! ### What the walk does -/

variable {readers : PromptReaders}

/-- A call that passes by itself. -/
def CallOk (readers : PromptReaders) (call : ModelToolCallV1) : Prop :=
  isBlank call.id = false ∧ isBlank call.name = false ∧
    (readers.value call.argsJson).isOk = true

variable {messageId : String}

theorem readArguments_eq_ok {argsJson : String} :
    readArguments readers messageId argsJson = .ok () ↔
      (readers.value argsJson).isOk = true := by
  unfold readArguments
  cases readers.value argsJson with
  | ok value => simp [Except.isOk, Except.toBool, pure, Except.pure]
  | error error => simp [Except.isOk, Except.toBool]

variable {pairing pairing' : Pairing}

theorem scanCall_eq_ok {call : ModelToolCallV1} :
    scanCall readers messageId pairing call = .ok pairing' ↔
      CallOk readers call ∧ call.id ∉ pairing.seenToolCallIds ∧
      pairing' = { pairing with
        seenToolCallIds := call.id :: pairing.seenToolCallIds
        pendingToolCallIds := pairing.pendingToolCallIds ++ [call.id] } := by
  simp only [scanCall, ok_rules, readArguments_eq_ok, CallOk, bool_rules, contains_eq_mem,
    and_assoc, eq_comm (a := pairing')]

/-- What the walk does with an answer that calls tools and with the results of its calls. -/
theorem foldlM_scanCall_eq_ok {calls : List ModelToolCallV1} :
    calls.foldlM (scanCall readers messageId) pairing = .ok pairing' ↔
      (∀ call ∈ calls, CallOk readers call ∧ call.id ∉ pairing.seenToolCallIds) ∧
      (calls.map (·.id)).Nodup ∧
      pairing' = { pairing with
        seenToolCallIds := (calls.map (·.id)).reverse ++ pairing.seenToolCallIds
        pendingToolCallIds := pairing.pendingToolCallIds ++ calls.map (·.id) } := by
  induction calls generalizing pairing with
  | nil =>
    rw [foldlM_nil, pure_eq_ok]
    simp [eq_comm]
  | cons call calls ih =>
    simp only [foldlM_cons, bind_eq_ok, scanCall_eq_ok, ih, map_cons,
      nodup_cons, mem_map, not_exists, not_and]
    constructor
    · rintro ⟨_, ⟨hcall, hnew, rfl⟩, hrest, hnodup, rfl⟩
      simp only [mem_cons, not_or] at hrest
      refine ⟨?_, ⟨fun other hoth => (hrest other hoth).2.1, hnodup⟩, by simp⟩
      intro other hoth
      rcases mem_cons.mp hoth with rfl | hoth
      · exact ⟨hcall, hnew⟩
      · exact ⟨(hrest other hoth).1, (hrest other hoth).2.2⟩
    · rintro ⟨hall, ⟨hfst, hnodup⟩, rfl⟩
      obtain ⟨hcall, hnew⟩ := hall call mem_cons_self
      refine ⟨_, ⟨hcall, hnew, rfl⟩, ?_, hnodup, by simp⟩
      intro other hoth
      obtain ⟨hok, hunseen⟩ := hall other (mem_cons_of_mem call hoth)
      refine ⟨hok, ?_⟩
      rw [mem_cons, not_or]
      exact ⟨hfst other hoth, hunseen⟩

/-- A message whose own id passes. -/
def IdFresh (pairing : Pairing) (messageId : String) : Prop :=
  isBlank messageId = false ∧ messageId ∉ pairing.messageIds

variable {message : ModelMessageV1}

theorem scanMessage_assistant (hrole : message.role = .assistant)
    (hpend : pairing.pendingToolCallIds = []) :
    scanMessage readers pairing message = .ok pairing' ↔
      IdFresh pairing message.messageId ∧ message.toolCallId = none ∧
      message.toolCalls.foldlM (scanCall readers message.messageId)
        { pairing with messageIds := message.messageId :: pairing.messageIds } = .ok pairing' := by
  simp only [scanMessage, hrole, hpend, ok_rules, IdFresh, isEmpty_nil, Bool.true_or, bool_rules,
    contains_eq_mem, true_and, and_assoc, Option.isNone_iff_eq_none]

theorem scanMessage_tool {callId : String} {rest : List String} (hrole : message.role = .tool)
    (hcalls : message.toolCalls = []) (hreas : message.reasoningContent = none)
    (hcallId : message.toolCallId = some callId) (htrimmed : isTrimmedId callId = true)
    (hpend : pairing.pendingToolCallIds = callId :: rest)
    (hfr : IdFresh pairing message.messageId) :
    scanMessage readers pairing message = .ok { pairing with
      messageIds := message.messageId :: pairing.messageIds
      pendingToolCallIds := rest } := by
  simp only [isTrimmedId, bool_rules] at htrimmed
  have htrim : trim callId = callId := htrimmed.2.symm
  obtain ⟨hblk, hnew⟩ := hfr
  simp [scanMessage, scanToolResult, hrole, hcalls, hreas, hcallId, hpend, hblk, hnew,
    htrim, htrimmed.1, ensure, orFail, pure, Except.pure, Option.filter]

/-- The message that carries a result, by its id and content. -/
def toolMessage (callId : String) (result : String × String) : ModelMessageV1 :=
  ⟨result.1, .tool, result.2, [], some callId, none⟩

theorem foldlM_toolMessages {callIds : List String} {results : List (String × String)}
    (hlen : results.length = callIds.length) (htrimmed : ∀ id ∈ callIds, isTrimmedId id = true)
    (hpend : pairing.pendingToolCallIds = callIds)
    (hfr : ∀ result ∈ results, IdFresh pairing result.1) (hnodup : (results.map (·.1)).Nodup) :
    (callIds.zipWith toolMessage results).foldlM (scanMessage readers) pairing = .ok { pairing with
      messageIds := (results.map (·.1)).reverse ++ pairing.messageIds
      pendingToolCallIds := [] } := by
  induction callIds generalizing results pairing with
  | nil =>
    obtain rfl : results = [] := length_eq_zero_iff.mp hlen
    rw [zipWith_nil_left, foldlM_nil]
    show Except.ok pairing = _
    rw [← hpend]
    rfl
  | cons callId callIds ih =>
    cases results with
    | nil => cases hlen
    | cons result results =>
      rw [map_cons, nodup_cons] at hnodup
      rw [zipWith_cons_cons, foldlM_cons,
        scanMessage_tool rfl rfl rfl rfl (htrimmed callId mem_cons_self) hpend
          (hfr result mem_cons_self), ok_bind,
        ih (Nat.succ.inj hlen) (fun id hid => htrimmed id (mem_cons_of_mem _ hid)) rfl
          ?_ hnodup.2]
      · simp [toolMessage]
      · -- the id of this result is taken from now on, and the later ones differ from it
        intro later hlat
        obtain ⟨hblk, hnew⟩ := hfr later (mem_cons_of_mem _ hlat)
        refine ⟨hblk, ?_⟩
        rw [mem_cons, not_or]
        refine ⟨?_, hnew⟩
        intro heq
        exact hnodup.1 (mem_map.mpr ⟨later, hlat, heq⟩)

/-! ### What the walk has seen -/

theorem scanMessage_seen (h : scanMessage readers pairing message = .ok pairing') :
    pairing'.messageIds = message.messageId :: pairing.messageIds ∧
      ∀ id, id ∈ pairing'.seenToolCallIds ↔
        id ∈ message.toolCalls.map (·.id) ∨ id ∈ pairing.seenToolCallIds := by
  simp only [scanMessage, Outcome.ok_rules] at h
  obtain ⟨-, -, -, h⟩ := h
  cases hrole : message.role with
  | assistant =>
    simp only [hrole, Outcome.ok_rules, foldlM_scanCall_eq_ok] at h
    obtain ⟨-, -, -, rfl⟩ := h
    simp
  | tool =>
    simp only [hrole, scanToolResult, Outcome.ok_rules, Bool.and_eq_true, List.isEmpty_iff] at h
    obtain ⟨⟨hcalls, -⟩, _, -, _, -, -, rfl⟩ := h
    simp [hcalls]
  | system | user =>
    simp only [hrole, Outcome.ok_rules, Bool.and_eq_true, List.isEmpty_iff] at h
    obtain ⟨⟨⟨hcalls, -⟩, -⟩, rfl⟩ := h
    simp [hcalls]

def toolCallIds (messages : List ModelMessageV1) : List String :=
  messages.flatMap fun message => message.toolCalls.map (·.id)

/-- The ids that the walk has seen. -/
theorem foldlM_scanMessage_seen {messages : List ModelMessageV1}
    (h : messages.foldlM (scanMessage readers) ⟨[], [], []⟩ = .ok pairing) :
    (∀ id, id ∈ pairing.messageIds ↔ id ∈ messages.map (·.messageId)) ∧
      ∀ id, id ∈ pairing.seenToolCallIds ↔ id ∈ toolCallIds messages := by
  let Seen : Pairing → List ModelMessageV1 → Prop := fun state front =>
    (∀ id, id ∈ state.messageIds ↔ id ∈ front.map (·.messageId)) ∧
      ∀ id, id ∈ state.seenToolCallIds ↔ id ∈ toolCallIds front
  have hstart : Seen ⟨[], [], []⟩ [] := by simp [Seen, toolCallIds]
  have hseen := foldlM_invariant_trace Seen ?_ hstart h
  · exact hseen
  · intro state state' message front back _ hsta hstep
    obtain ⟨hids, hcalls⟩ := scanMessage_seen hstep
    rw [nil_append] at hsta
    refine ⟨?_, ?_⟩
    · intro id
      simp [hids, hsta.1 id, or_comm]
    · intro id
      simp only [hcalls id, hsta.2 id, toolCallIds, nil_append, flatMap_append,
        flatMap_cons, flatMap_nil, append_nil, mem_append]
      exact or_comm

end Centaeris.Prompt
