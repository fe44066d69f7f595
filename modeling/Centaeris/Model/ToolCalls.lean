import Centaeris.Foundation.JsonMembers
import Centaeris.Model.Streaming

namespace Centaeris

open Foundation

/-!
# What the protocol adapters share

Tool calls, errors and values of the three adapters.
-/

/-- Where and why a text is not JSON. -/
structure JsonError where
  line : Nat
  column : Nat
  text : String
deriving DecidableEq

/-- The JSON reader and the digest, as parameters. -/
structure ModelReaders where
  value : String → Except JsonError Json
  sha256 : String → String

def maxPreparingToolNameBytes : Nat := 128

def isToolNameChar (c : Char) : Bool := c.isLower || c.isDigit || c == '_'

def isBoundedCanonicalToolName (value : String) : Bool :=
  value != "" && decide (value.utf8ByteSize ≤ maxPreparingToolNameBytes) &&
    value.toList.head? != some '_' && value.toList.getLast? != some '_' &&
    (findText? ['_', '_'] value.toList).isNone && value.toList.all isToolNameChar

section

variable (readers : ModelReaders)

/-- An id as a provider must send it. -/
def isTrimmedId (value : String) : Bool := value != "" && value == trim value

def truncatedToolCall (callId toolName : Option String) (args : String) : TruncatedToolCall :=
  ⟨callId.filter isTrimmedId, toolName.filter isBoundedCanonicalToolName, args.utf8ByteSize,
    "sha256:" ++ readers.sha256 args⟩

def invalidProviderToolCallIdentity (wireApi : String) : ModelClientError where
  kind := .provider
  message := wireApi ++ " response contained an invalid tool call identity"
  retryable := false
  providerCode := some "invalid_tool_call_identity"
  providerAttempts := 0
  truncatedToolCalls := []

/-- A call needs an id and a canonical name. -/
def requiredProviderToolCallIdentity (wireApi : String) (callId toolName : Option String) :
    Client (String × String) := do
  let callId ← .orFail (callId.filter isTrimmedId) (invalidProviderToolCallIdentity wireApi)
  let toolName ← .orFail (toolName.filter isBoundedCanonicalToolName)
    (invalidProviderToolCallIdentity wireApi)
  pure (callId, toolName)

def malformedArguments (wireApi : String) (call : ToolCallEnvelope) (error : JsonError)
    (retryable : Bool) : ModelClientError where
  kind := .provider
  message := s!"{wireApi} response contained malformed tool arguments: callId={call.id} " ++
    s!"toolName={call.name} argsBytes={call.argsJson.utf8ByteSize} " ++
    s!"argsSha256=sha256:{readers.sha256 call.argsJson} errorLine={error.line} " ++
    s!"errorColumn={error.column} error={error.text}"
  retryable := retryable
  providerCode := some malformedToolCallArguments
  providerAttempts := 0
  truncatedToolCalls := []

def validateProviderToolCallArgumentsWithRetryability (wireApi : String)
    (toolCalls : List ToolCallEnvelope) (retryable : Bool) : Client Unit :=
  toolCalls.forM fun call =>
    match readers.value call.argsJson with
    | .ok _ => pure ()
    | .error error => .fail (malformedArguments readers wireApi call error retryable)

/-- The arguments are JSON. -/
def validateProviderToolCallArguments (wireApi : String) (toolCalls : List ToolCallEnvelope) :
    Client Unit :=
  validateProviderToolCallArgumentsWithRetryability readers wireApi toolCalls false

def validateRetryableProviderToolCallArguments (wireApi : String)
    (toolCalls : List ToolCallEnvelope) : Client Unit :=
  validateProviderToolCallArgumentsWithRetryability readers wireApi toolCalls true

/-! ### Arguments -/

def emptyArguments : String := "\x7b\x7d"

def normalizeToolArgumentsJson (raw : String) : String :=
  if isBlank raw then emptyArguments else trim raw

def normalizeToolArgumentsValue : Json → String
  | .string raw => normalizeToolArgumentsJson raw
  | .null => emptyArguments
  | value => value.render

/-- The arguments of a call whose text came in pieces. -/
def normalizeStreamToolArguments (accumulated : String) (itemArguments : Option Json) : String :=
  let trimmed := trim accumulated
  if trimmed ≠ "" ∧ (readers.value trimmed).isOk then trimmed
  else match itemArguments with
    | some value => normalizeToolArgumentsValue value
    | none => normalizeToolArgumentsJson accumulated

/-- The words of a text with one blank between them, cut at 240 characters. -/
def previewToolArguments (raw : String) : String :=
  let words := (raw.toList.splitOnP isSpace).filter (· ≠ [])
  let normalized := " ".intercalate (words.map String.ofList)
  if normalized.length ≤ 240 then normalized
  else String.ofList (normalized.toList.take 237) ++ "..."

def previewToolArgumentsJson (raw : String) : String :=
  match readers.value raw with
  | .ok value => previewToolArguments value.render
  | .error _ => previewToolArguments raw

/-! ### Data values -/

/-- One data value of a stream. -/
def parseSseJsonFrame (wireApi frame : String) (attempt : Nat) : Client Json :=
  match readers.value frame with
  | .ok value => .ok value
  | .error error => .fail {
      kind := .providerResponseInterrupted
      message := s!"malformed_sse_frame: wireApi={wireApi} frameBytes={frame.utf8ByteSize} " ++
        s!"frameSha256=sha256:{readers.sha256 frame} jsonLine={error.line} " ++
        s!"jsonColumn={error.column} attempt={attempt}"
      retryable := true
      providerCode := some malformedSseFrame
      providerAttempts := 0
      truncatedToolCalls := [] }

end

/-! ### Reading and writing values -/

def memberText (block : Json) (key : String) : Option String := (block.get? key).bind Json.asString?

/-- The sum of two numbers of tokens, when both are known. -/
def totalTokens? (input output : Option Int) : Option Int := do
  let input ← input
  let output ← output
  pure (wrapI64 (input + output))

/-! ### Errors -/

def containsModel (message : String) : Bool :=
  (findText? "model".toList (message.toList.map Char.toLower)).isSome

/-- Errors of the provider. -/
def httpErrorKind (statusCode : Nat) (missingModel : Bool) : ModelClientErrorKind :=
  match statusCode with
  | 400 => .invalidRequest
  | 401 | 403 => .authFailed
  | 404 => if missingModel then .modelUnavailable else .invalidRequest
  | 408 => .timeout
  | 429 => .providerBusyOrRateLimited
  | _ => if 500 ≤ statusCode ∧ statusCode ≤ 599 then .providerUnavailable else .unknown

def outputTokenLimit : ModelClientError where
  kind := .providerResponseInterrupted
  message := "provider stopped generation at the output-token limit before producing a " ++
    "complete response"
  retryable := false
  providerCode := some "incomplete_output_token_limit"
  providerAttempts := 0
  truncatedToolCalls := []

/-! ### Responses -/

/-- The id of a response: its own, or that of the header. -/
def requestId (id : Option String) (response : JsonHttpResponse) : Option String :=
  id.or (response.headers.lookup "x-request-id")

/-! ### What accepted calls have -/

variable {readers : ModelReaders}

variable {wireApi : String}

theorem requiredProviderToolCallIdentity_eq_ok {callId toolName : Option String} {id name : String} :
    requiredProviderToolCallIdentity wireApi callId toolName = .ok (id, name) ↔
      (callId = some id ∧ isTrimmedId id = true) ∧
        toolName = some name ∧ isBoundedCanonicalToolName name = true := by
  simp only [requiredProviderToolCallIdentity, Outcome.ok_rules, Client.orFail_eq_ok,
    Option.filter_eq_some_iff, Prod.mk.injEq]
  constructor
  · rintro ⟨_, hid, _, hname, rfl, rfl⟩
    exact ⟨hid, hname⟩
  · rintro ⟨hid, hname⟩
    exact ⟨id, hid, name, hname, rfl, rfl⟩

theorem validateArguments_eq_ok {toolCalls : List ToolCallEnvelope} {retryable : Bool} :
    validateProviderToolCallArgumentsWithRetryability readers wireApi toolCalls retryable =
        .ok () ↔
      ∀ call ∈ toolCalls, (readers.value call.argsJson).isOk = true := by
  unfold validateProviderToolCallArgumentsWithRetryability
  induction toolCalls with
  | nil => simp [pure, Except.pure]
  | cons call toolCalls ih =>
    rw [List.forM, Outcome.bind_eq_ok, List.forall_mem_cons, ← ih]
    cases readers.value call.argsJson with
    | error error => simp [Client.fail, Except.isOk, Except.toBool]
    | ok value => simp [Except.isOk, Except.toBool, pure, Except.pure]

theorem parseSseJsonFrame_eq_ok {frame : String} {attempt : Nat} {value : Json} :
    parseSseJsonFrame readers wireApi frame attempt = .ok value ↔
      readers.value frame = .ok value := by
  unfold parseSseJsonFrame
  cases readers.value frame <;> simp [Client.fail]

structure AcceptedCall (readers : ModelReaders) (call : ToolCallEnvelope) : Prop where
  id_trimmed : isTrimmedId call.id = true
  name_canonical : isBoundedCanonicalToolName call.name = true
  args_read : (readers.value call.argsJson).isOk = true

theorem acceptedCalls_of_mapM {α : Type} {take : α → Client ToolCallEnvelope} {items : List α}
    {calls : List ToolCallEnvelope} (htake : ∀ item call, take item = .ok call →
      isTrimmedId call.id = true ∧ isBoundedCanonicalToolName call.name = true)
    (hcalls : items.mapM take = .ok calls)
    (harguments : validateProviderToolCallArguments readers wireApi calls = .ok ()) :
    ∀ call ∈ calls, AcceptedCall readers call := by
  intro call hcall
  obtain ⟨item, -, hitem⟩ := exists_of_mem_forall₂ (mapM_eq_ok_iff.mp hcalls) hcall
  obtain ⟨hid, hname⟩ := htake item call hitem
  exact ⟨hid, hname, validateArguments_eq_ok.mp harguments call hcall⟩

end Centaeris
