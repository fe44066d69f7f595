import Centaeris.Foundation.Loops

namespace Centaeris

open Foundation

/-!
# What a model client returns

Timings and the server's advice on when to retry are left out: they decide only how long the
client waits.
-/

inductive ModelClientErrorKind where
  | timeout
  | authFailed
  | providerBusyOrRateLimited
  | providerUnavailable
  | providerResponseInterrupted
  | modelUnavailable
  | invalidRequest
  | network
  | provider
  | cancelled
  | unknown
deriving DecidableEq

def isRetryableModelClientErrorKind : ModelClientErrorKind → Bool
  | .timeout | .providerBusyOrRateLimited | .providerUnavailable | .providerResponseInterrupted
  | .network | .provider => true
  | _ => false

structure TruncatedToolCall where
  callId : Option String
  toolName : Option String
  argsBytes : Nat
  argsSha256 : String
deriving DecidableEq

/-- An error of a request, with its kind and whether it may be retried. -/
structure ModelClientError where
  kind : ModelClientErrorKind
  message : String
  retryable : Bool
  providerCode : Option String
  providerAttempts : Nat
  truncatedToolCalls : List TruncatedToolCall
deriving DecidableEq

namespace ModelClientError

def new (kind : ModelClientErrorKind) (message : String) (retryable : Bool) : ModelClientError :=
  ⟨kind, message, retryable, none, 0, []⟩

def withProviderAttempts (error : ModelClientError) (attempts : Nat) : ModelClientError :=
  { error with providerAttempts := attempts }

def withTruncatedToolCalls (error : ModelClientError) (calls : List TruncatedToolCall) :
    ModelClientError :=
  { error with truncatedToolCalls := calls }

/-- An error of the provider that another attempt will not mend. -/
def provider (message : String) : ModelClientError := new .provider message false

end ModelClientError

/-! ### Responses -/

structure ToolCallEnvelope where
  id : String
  name : String
  argsJson : String
deriving DecidableEq

/-- An accepted response. -/
structure GenerateResult where
  content : String
  toolCalls : List ToolCallEnvelope
  reasoningContent : Option String
  continuationReasoningContent : Option String
  inputTokens : Option Int
  totalTokens : Option Int
  promptCacheHitTokens : Option Int
  promptCacheMissTokens : Option Int
deriving DecidableEq

structure ModelClientResponse where
  generateResult : GenerateResult
  providerRequestId : Option String
  providerAttempts : Nat
deriving DecidableEq

/-! ### Events of a stream -/

/-- The states that a request shows while it runs. -/
inductive RuntimeProcessState where
  | thinking
  | retrying
  | providerWaiting
deriving DecidableEq

/-- What a streamed request shows while it runs. -/
inductive ModelClientStreamEvent where
  | reasoning (text : String)
  | token (content : String)
  | replaceContent (content : String)
  | status (message : Option String) (processState : RuntimeProcessState)
  | toolCallPreparing (name : String)
  | toolCallReady (callId : String) (providerItemId : Option String) (name argsJson argsPreview : String)
  | done (finishReason : Option String)
deriving DecidableEq

/-! ### Results of calls -/

/-- The result of a call: a value, an error, or a panic. -/
inductive Halt (ε : Type) where
  | failed (error : ε)
  | panicked (text : String)
deriving DecidableEq

abbrev Client (α : Type) := Except (Halt ModelClientError) α

instance {α : Type} [DecidableEq α] : DecidableEq (Client α)
  | .ok a, .ok b => decidable_of_iff (a = b) (by simp)
  | .error e, .error f => decidable_of_iff (e = f) (by simp)
  | .ok _, .error _ | .error _, .ok _ => isFalse nofun

namespace Client

variable {α : Type}

def fail (error : ModelClientError) : Client α := .error (.failed error)

/-- The value that must be there. -/
def orFail (value : Option α) (error : ModelClientError) : Client α :=
  match value with
  | some a => .ok a
  | none => fail error

variable {error : ModelClientError} {a : α}

@[simp] theorem fail_ne_ok : (fail error : Client α) ≠ .ok a := by
  simp [fail]

@[simp] theorem orFail_eq_ok {value : Option α} :
    orFail value error = .ok a ↔ value = some a := by
  cases value <;> simp [orFail]

end Client

end Centaeris
