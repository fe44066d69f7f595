import Centaeris.Model.PreparedPrompt

namespace Centaeris

open Foundation Prompt List Outcome StreamAdapter

/-!
# A conversation after an accepted answer

An accepted answer of the model is stored with the results of its tool calls, and the next
request is made from the longer conversation.
-/

/-! ### Accepted answers -/

/-- An answer that some request over the protocol returned. -/
def Protocol.Accepts (readers : ProtocolReaders) (protocol : Protocol)
    (response : ModelClientResponse) : Prop :=
  ∃ transport request,
    ((protocol.adapter readers).generate transport request).2 = .ok response ∨
    ((protocol.adapter readers).generateStream transport request).result = .ok response

variable {response : ModelClientResponse}

theorem parsed_of_executeJson {transport : JsonHttpTransport} {request : JsonHttpRequest}
    {parseResponse : JsonHttpResponse → Client ModelClientResponse} {attempts calls : Nat}
    (h : (executeJsonModelResponseFrom transport request parseResponse attempts calls).2 =
      .ok response) :
    ∃ answer parsed, parseResponse answer = .ok parsed ∧
      parsed.generateResult = response.generateResult := by
  fun_induction executeJsonModelResponseFrom transport request parseResponse attempts calls with
  | case1 | case5 => exact absurd h Client.fail_ne_ok
  | case2 attempts calls calls' attempted hround attempts' parsed hparsed =>
    cases h
    exact ⟨attempted.response, parsed, hparsed, rfl⟩
  | case3 => cases h
  | case4 attempts calls calls' attempted hround attempts' error _ _ ih => exact ih h

theorem parsed_of_completeStream {adapter : StreamAdapter} {attempted : AttemptedHttpResponse}
    {state : adapter.State} (h : adapter.completeStream attempted state = .ok response) :
    ∃ answer parsed, adapter.parseHttpResponse answer = .ok parsed ∧
      parsed.generateResult = response.generateResult := by
  have hstat := status_of_completeStream h
  rw [completeStream, if_neg (by omega), bind_eq_ok] at h
  obtain ⟨bodyJson, -, h⟩ := h
  cases hparsed : adapter.parseHttpResponse { attempted.response with bodyJson } with
  | error halt =>
    rw [hparsed] at h
    cases halt <;> cases h
  | ok parsed =>
    rw [hparsed] at h
    cases h
    exact ⟨_, parsed, hparsed, rfl⟩

/-- **Accepted calls.** The calls of every accepted answer have a trimmed id, a canonical name
    and arguments that are JSON. -/
theorem Protocol.Accepts.calls {readers : ProtocolReaders} {protocol : Protocol}
    (h : protocol.Accepts readers response) :
    ∀ call ∈ response.generateResult.toolCalls, AcceptedCall readers.toModelReaders call := by
  have hparsed : ∃ answer parsed, (protocol.adapter readers).parseHttpResponse answer = .ok parsed ∧
      parsed.generateResult = response.generateResult := by
    obtain ⟨transport, request, hgenerate | hstream⟩ := h
    · exact parsed_of_executeJson hgenerate
    · obtain ⟨_, _, _, _, _, _, _, _, _, _, hcomplete, _⟩ := generateStream_ok hstream
      exact parsed_of_completeStream hcomplete
  obtain ⟨answer, parsed, hparse, hres⟩ := hparsed
  rw [← hres]
  cases protocol with
  | anthropicMessages preserve => exact acceptedCalls_of_parseAnthropicResponse hparse
  | openaiResponses => exact acceptedCalls_of_parseOpenaiResponsesResponse hparse
  | openaiCompletions gemini => exact acceptedCalls_of_parseOpenaiCompatibleResponse hparse

theorem Protocol.accepts_of_parse {readers : ProtocolReaders} {protocol : Protocol}
    {answer : JsonHttpResponse} {parsed : ModelClientResponse}
    (h : (protocol.adapter readers).parseHttpResponse answer = .ok parsed) :
    protocol.Accepts readers { parsed with providerAttempts := 1 } := by
  let transport : JsonHttpTransport := ⟨fun _ => .ok answer, fun _ => ⟨[], .ok answer⟩⟩
  refine ⟨transport, .once, .inl ?_⟩
  have hverdict : jsonVerdict (attemptRequest .once 0) 0 (transport.executeJson 0) =
      .stop (.ok ⟨answer, 1⟩) := by
    simp [jsonVerdict, attemptRequest, JsonHttpRequest.once, satAdd32, u32Limit, transport]
  have hround : executeJsonWithRetries transport (attemptRequest .once 0) 0 =
      (1, .ok ⟨answer, 1⟩) := by
    rw [executeJsonWithRetries, retry, hverdict]
  rw [generate, executeJsonModelResponseWithRetries, executeJsonModelResponseFrom]
  split
  · rename_i error hattempted
    rw [hround] at hattempted
    cases hattempted
  · rename_i attempted hattempted
    rw [hround] at hattempted
    cases hattempted
    simp only [h]
    rfl

/-! ### The batch -/

/-- One call of the batch, whose id must be new in it. -/
def scanBatchCall (turnId : String) (seen : List String) (call : ToolCallEnvelope) :
    Outcome (List String) := do
  ensure (!seen.contains call.id) ("tool_batch_duplicate_call_id: turn " ++ turnId ++
    " contains duplicate callId " ++ call.id)
  pure (call.id :: seen)

/-- The check that the batch runner makes before it runs the calls. -/
def checkToolBatch (turnId : String) (calls : List ToolCallEnvelope) : Outcome Unit := do
  let _ ← calls.foldlM (scanBatchCall turnId) []
  pure ()

variable {calls : List ToolCallEnvelope}

theorem foldlM_scanBatchCall {turnId : String} {seen seen' : List String}
    (h : calls.foldlM (scanBatchCall turnId) seen = .ok seen') :
    (calls.map (·.id)).Nodup ∧ ∀ call ∈ calls, call.id ∉ seen := by
  induction calls generalizing seen with
  | nil => exact ⟨nodup_nil, nofun⟩
  | cons call calls ih =>
    simp only [foldlM_cons, ok_rules, scanBatchCall, bool_rules, contains_eq_mem] at h
    obtain ⟨_, ⟨hnew, rfl⟩, hrest⟩ := h
    obtain ⟨hnodup, hfr⟩ := ih hrest
    constructor
    · rw [map_cons, nodup_cons, mem_map]
      refine ⟨?_, hnodup⟩
      rintro ⟨other, hoth, heq⟩
      exact hfr other hoth (heq ▸ mem_cons_self)
    · intro other hoth
      rcases mem_cons.mp hoth with rfl | hoth
      · exact hnew
      · exact fun hseen => hfr other hoth (mem_cons_of_mem _ hseen)

/-! ### The longer conversation -/

def storedCall (call : ToolCallEnvelope) : ModelToolCallV1 := ⟨call.id, call.name, call.argsJson⟩

def turnMessages (messageId content : String) (reasoningContent : Option String)
    (calls : List ToolCallEnvelope) (results : List (String × String)) : List ModelMessageV1 :=
  ⟨messageId, .assistant, content, calls.map storedCall, none, reasoningContent⟩ ::
    (calls.map (·.id)).zipWith toolMessage results

def Prompt.PreparedPromptV1.withTurn (prompt : Prompt.PreparedPromptV1) (turn : List ModelMessageV1) :
    Prompt.PreparedPromptV1 :=
  { prompt with messages := prompt.messages ++ turn }

theorem not_isBlank_of_trimmed {id : String} (h : isTrimmedId id = true) : isBlank id = false := by
  simp only [isTrimmedId, bool_rules] at h
  by_contra hblk
  rw [Bool.not_eq_false, ← trim_eq_empty_iff, ← h.2] at hblk
  exact h.1 hblk

theorem not_isSpace_of_toolNameChar {c : Char} (h : isToolNameChar c = true) :
    isSpace c = false := by
  have hrange : 48 ≤ c.toNat ∧ c.toNat ≤ 122 := by
    simp only [isToolNameChar, Char.isLower, Char.isDigit, bool_rules] at h
    rcases h with (⟨hlow, hhigh⟩ | ⟨hlow, hhigh⟩) | rfl
    · rw [ge_iff_le, UInt32.le_iff_toNat_le] at hlow
      rw [UInt32.le_iff_toNat_le] at hhigh
      exact ⟨le_trans (by decide) hlow, hhigh⟩
    · rw [ge_iff_le, UInt32.le_iff_toNat_le] at hlow
      rw [UInt32.le_iff_toNat_le] at hhigh
      exact ⟨hlow, le_trans hhigh (by decide)⟩
    · decide
  simp only [isSpace, bool_rules, Bool.and_eq_false_iff, beq_eq_false_iff_ne]
  omega

theorem not_isBlank_of_canonical {name : String} (h : isBoundedCanonicalToolName name = true) :
    isBlank name = false := by
  simp only [isBoundedCanonicalToolName, bool_rules, all_eq_true] at h
  obtain ⟨⟨⟨⟨⟨hne, -⟩, -⟩, -⟩, -⟩, hall⟩ := h
  by_contra hblk
  rw [Bool.not_eq_false, isBlank, all_eq_true] at hblk
  -- a character that is there would be a blank and none
  have hnil : name.toList = [] := by
    rw [eq_nil_iff_forall_not_mem]
    intro c hc
    have hspace := not_isSpace_of_toolNameChar (hall c hc)
    rw [hblk c hc] at hspace
    cases hspace
  exact hne (String.toList_eq_nil_iff.mp hnil)

section

variable {readers : PromptReaders}

/-- The walk over the longer conversation. -/
theorem foldlM_turn_iff (content : String) (reasoningContent : Option String) {pairing : Pairing}
    {messageId : String} {results : List (String × String)}
    (hpend : pairing.pendingToolCallIds = [])
    (hacc : ∀ call ∈ calls, AcceptedCall readers.toModelReaders call)
    (hbatch : (calls.map (·.id)).Nodup) (hlen : results.length = calls.length)
    (hfr : ∀ id ∈ messageId :: results.map (·.1), IdFresh pairing id)
    (hdist : (messageId :: results.map (·.1)).Nodup) :
    (∃ pairing', (turnMessages messageId content reasoningContent calls results).foldlM
        (scanMessage readers) pairing = .ok pairing' ∧ pairing'.pendingToolCallIds = []) ↔
      ∀ call ∈ calls, call.id ∉ pairing.seenToolCallIds := by
  rw [nodup_cons] at hdist
  have hids : (calls.map storedCall).map (·.id) = calls.map (·.id) := by
    simp [storedCall, Function.comp_def]
  constructor
  · rintro ⟨pairing', hscan, -⟩ call hcall
    rw [turnMessages, foldlM_cons, bind_eq_ok] at hscan
    obtain ⟨mid, hans, -⟩ := hscan
    rw [scanMessage_assistant rfl hpend] at hans
    obtain ⟨-, -, hcalls⟩ := hans
    exact ((foldlM_scanCall_eq_ok.mp hcalls).1 (storedCall call)
      (mem_map_of_mem hcall)).2
  · intro hnew
    have hcalls : ∀ stored ∈ calls.map storedCall,
        CallOk readers stored ∧ stored.id ∉ pairing.seenToolCallIds := by
      intro stored hst
      obtain ⟨call, hcall, rfl⟩ := mem_map.mp hst
      have hok := hacc call hcall
      exact ⟨⟨not_isBlank_of_trimmed hok.id_trimmed, not_isBlank_of_canonical hok.name_canonical,
        hok.args_read⟩, hnew call hcall⟩
    have hans : scanMessage readers pairing
        ⟨messageId, .assistant, content, calls.map storedCall, none, reasoningContent⟩ =
        .ok ⟨messageId :: pairing.messageIds,
          ((calls.map storedCall).map (·.id)).reverse ++ pairing.seenToolCallIds,
          pairing.pendingToolCallIds ++ (calls.map storedCall).map (·.id)⟩ := by
      rw [scanMessage_assistant rfl hpend]
      exact ⟨hfr messageId mem_cons_self, rfl,
        foldlM_scanCall_eq_ok.mpr ⟨hcalls, by rwa [hids], rfl⟩⟩
    rw [turnMessages, foldlM_cons, hans, ok_bind, foldlM_toolMessages
      (by rw [hlen, length_map]) ?_ ?_ ?_ hdist.2]
    · exact ⟨_, rfl, rfl⟩
    · intro id hid
      obtain ⟨call, hcall, rfl⟩ := mem_map.mp hid
      exact (hacc call hcall).id_trimmed
    · rw [hpend, hids, nil_append]
    · -- the results' ids are new to the conversation and differ from the answer's
      intro result hres
      have hm : result.1 ∈ results.map (·.1) := mem_map_of_mem hres
      obtain ⟨hblk, hnot⟩ := hfr result.1 (mem_cons_of_mem _ hm)
      refine ⟨hblk, ?_⟩
      rw [mem_cons, not_or]
      refine ⟨?_, hnot⟩
      intro heq
      rw [heq] at hm
      exact hdist.1 hm

variable {messages : List ModelMessageV1}

/-- The walk over a conversation passes when it ends with no call waiting. -/
theorem checkPairing_eq_ok :
    Prompt.PreparedPromptV1.checkPairing readers messages = .ok () ↔
      ∃ pairing, messages.foldlM (scanMessage readers) ⟨[], [], []⟩ = .ok pairing ∧
        pairing.pendingToolCallIds = [] := by
  simp only [Prompt.PreparedPromptV1.checkPairing, bind_eq_ok]
  constructor
  · rintro ⟨pairing, hscan, hend⟩
    refine ⟨pairing, hscan, ?_⟩
    cases hpend : pairing.pendingToolCallIds with
    | nil => rfl
    | cons id rest =>
      rw [hpend] at hend
      exact absurd hend (by simp [fail])
  · rintro ⟨pairing, hscan, hpend⟩
    exact ⟨pairing, hscan, by rw [hpend]; rfl⟩

variable {turn : List ModelMessageV1}

theorem foldlM_scanImage_append {images : List Prompt.ModelInputImageV1}
    {placed placed' : List (String × String)}
    (h : images.foldlM (scanImage readers messages) placed = .ok placed') :
    images.foldlM (scanImage readers (messages ++ turn)) placed = .ok placed' := by
  induction images generalizing placed with
  | nil => exact h
  | cons image images ih =>
    rw [foldlM_cons, bind_eq_ok] at h ⊢
    obtain ⟨next, hfst, hrest⟩ := h
    refine ⟨next, ?_, ih hrest⟩
    simp only [scanImage, ok_rules] at hfst ⊢
    obtain ⟨message, hfd, hplc⟩ := hfst
    refine ⟨message, ?_, hplc⟩
    rw [find?_append, hfd]
    rfl

theorem checkHeader_withTurn {prompt : Prompt.PreparedPromptV1} (h : prompt.checkHeader = .ok ()) :
    (prompt.withTurn turn).checkHeader = .ok () := by
  simp only [Prompt.PreparedPromptV1.checkHeader, Prompt.PreparedPromptV1.withTurn, ok_rules] at h ⊢
  obtain ⟨hschema, hmax, hmsgs, hrest⟩ := h
  refine ⟨hschema, hmax, ?_, hrest⟩
  cases hlist : prompt.messages with
  | nil =>
    rw [hlist] at hmsgs
    cases hmsgs
  | cons message messages => rfl

end

/-! ### Sendable conversations -/

/-- **Sendable after an answer.** A valid prompt, extended by an accepted answer whose calls
    passed the batch check and by one result for each call, all with new message ids, is valid
    exactly when no call of the answer has the id of an earlier call. -/
theorem accepted_response_sendable_iff (readers : ProtocolReaders)
    (base64 : String → Option (List UInt8)) (protocol : Protocol)
    (prompt : Prompt.PreparedPromptV1) (response : ModelClientResponse)
    (turnId messageId content : String) (reasoningContent : Option String)
    (results : List (String × String))
    (hval : prompt.validate ⟨readers.toModelReaders, base64⟩ = .ok ())
    (hacc : protocol.Accepts readers response)
    (hbatch : checkToolBatch turnId response.generateResult.toolCalls = .ok ())
    (hlen : results.length = response.generateResult.toolCalls.length)
    (hfr : ∀ id ∈ messageId :: results.map (·.1),
      isBlank id = false ∧ id ∉ prompt.messages.map (·.messageId))
    (hdist : (messageId :: results.map (·.1)).Nodup) :
    (prompt.withTurn (turnMessages messageId content reasoningContent
        response.generateResult.toolCalls results)).validate
          ⟨readers.toModelReaders, base64⟩ = .ok () ↔
      ∀ call ∈ response.generateResult.toolCalls, call.id ∉ toolCallIds prompt.messages := by
  simp only [Prompt.PreparedPromptV1.validate, Outcome.ok_rules, checkPairing_eq_ok] at hval
  obtain ⟨hheader, ⟨pairing, hscan, hpend⟩, placed, himages, -⟩ := hval
  obtain ⟨hmessageIds, hcallIds⟩ := foldlM_scanMessage_seen hscan
  have hnew : ∀ id ∈ messageId :: results.map (·.1), IdFresh pairing id := by
    intro id hid
    obtain ⟨hblk, hoth⟩ := hfr id hid
    exact ⟨hblk, fun hm => hoth ((hmessageIds id).mp hm)⟩
  have hcalls : ∀ call ∈ response.generateResult.toolCalls,
      AcceptedCall (PromptReaders.mk readers.toModelReaders base64).toModelReaders call :=
    hacc.calls
  simp only [checkToolBatch, bind_eq_ok] at hbatch
  obtain ⟨_, hbatch, -⟩ := hbatch
  simp only [← hcallIds]
  rw [← foldlM_turn_iff content reasoningContent hpend hcalls
    (foldlM_scanBatchCall hbatch).1 hlen hnew hdist]
  simp only [Prompt.PreparedPromptV1.validate, Outcome.ok_rules, checkPairing_eq_ok]
  constructor
  · rintro ⟨-, ⟨pairing', hscan', hpend'⟩, -⟩
    obtain ⟨mid, hmid, hrest⟩ := foldlM_append_eq_ok_iff.mp hscan'
    rw [hscan] at hmid
    cases hmid
    exact ⟨pairing', hrest, hpend'⟩
  · rintro ⟨pairing', hrest, hpend'⟩
    refine ⟨checkHeader_withTurn hheader, ⟨pairing', ?_, hpend'⟩, placed, ?_, trivial⟩
    · exact foldlM_append_eq_ok_iff.mpr ⟨pairing, hscan, hrest⟩
    · exact foldlM_scanImage_append himages

/-! ### A repeated id -/

namespace RepeatedCall

def readers : ProtocolReaders := .json

/-- The text of a response with one call. -/
def responseText (id : String) : String :=
  (OpenAiCompatibleChatCompletionsResponse.toJson ⟨none, [⟨⟨none,
    some [⟨some id, ⟨"read", "\x7b\x7d"⟩, none⟩], none, none⟩, some "tool_calls"⟩], none⟩).render

def answer (id : String) : ModelClientResponse :=
  ⟨⟨"", [⟨id, "read", "\x7b\x7d"⟩], none, none, none, none, none, none⟩, none, 1⟩

/-- A conversation in which the call `a` has its result. -/
def prompt : Prompt.PreparedPromptV1 where
  schema := preparedPromptSchema
  systemPrompt := none
  messages := ⟨"question", .user, "", [], none, none⟩ ::
    turnMessages "answer" "" none (answer "a").generateResult.toolCalls [("result", "")]
  toolDefinitions := []
  toolChoice := .none
  maxOutputTokens := 1
  inputImages := []

/-- The conversation after another answer and its result. -/
def extended (id : String) : Prompt.PreparedPromptV1 :=
  prompt.withTurn (turnMessages "answer2" "" none (answer id).generateResult.toolCalls
    [("result2", "")])

def promptReaders : PromptReaders := ⟨readers.toModelReaders, fun _ => none⟩

theorem accepts_answer {id : String} (h : ((Protocol.openaiCompletions false).adapter
      readers).parseHttpResponse ⟨200, [], responseText id⟩ = .ok (answer id)) :
    (Protocol.openaiCompletions false).Accepts readers (answer id) :=
  Protocol.accepts_of_parse h

end RepeatedCall

/-- With a new id the conversation can go on. -/
theorem new_call_id_sendable :
    RepeatedCall.prompt.validate RepeatedCall.promptReaders = .ok () ∧
    (RepeatedCall.extended "b").validate RepeatedCall.promptReaders = .ok () :=
  ⟨by decide +kernel,
    (accepted_response_sendable_iff RepeatedCall.readers (fun _ => none) (.openaiCompletions false)
      RepeatedCall.prompt (RepeatedCall.answer "b") "turn" "answer2" "" none [("result2", "")]
      (by decide +kernel) (RepeatedCall.accepts_answer (by decide +kernel)) (by decide +kernel)
      rfl (by decide +kernel) (by decide +kernel)).mpr (by decide +kernel)⟩

/-- **A repeated id.** An accepted answer that passes the batch check can call a tool with the
    id of an earlier call; no request can be made from the conversation with its result. -/
theorem repeated_call_id_unsendable :
    RepeatedCall.prompt.validate RepeatedCall.promptReaders = .ok () ∧
    (Protocol.openaiCompletions false).Accepts RepeatedCall.readers (RepeatedCall.answer "a") ∧
    checkToolBatch "turn" (RepeatedCall.answer "a").generateResult.toolCalls = .ok () ∧
    ["answer2", "result2"].Nodup ∧
    (∀ id ∈ ["answer2", "result2"],
      isBlank id = false ∧ id ∉ RepeatedCall.prompt.messages.map (·.messageId)) ∧
    (RepeatedCall.extended "a").validate RepeatedCall.promptReaders =
      .error (.err "prepared_prompt_tool_call_id_duplicate:a") :=
  ⟨by decide +kernel, RepeatedCall.accepts_answer (by decide +kernel), by decide +kernel,
    by decide +kernel, by decide +kernel, by decide +kernel⟩

end Centaeris
