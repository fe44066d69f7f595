import Centaeris.Foundation.Outcome

namespace Centaeris

open Foundation

/-!
# The operation client of the browser

A tab keeps the identity of a command whose answer it does not know, and forgets it when the
command was rejected or was never sent.  One scope (user, workspace, command) is modelled.

The server keeps the receipt of every accepted identity.  A request stays under way until it
is served, which may be at any time and also after its sender is gone.  Fingerprints stand for
the content of a request, and random identities are numbers that are never drawn twice.
-/

inductive Command where
  | createSession
  | submitMessage
  | respondQuestion
deriving DecidableEq

structure OperationReceipt where
  operationId : Nat
  command : Command
  sessionId : String
  agentRunId : Option String
  turnId : Option String
deriving DecidableEq

def OperationReceipt.check (item : OperationReceipt) (command : Command) (operationId : Nat) :
    Bool :=
  item.operationId = operationId && item.command = command && item.sessionId ≠ "" &&
    if command = .createSession then item.agentRunId = none && item.turnId = none
    else item.agentRunId.any (· ≠ "") && item.turnId.any (· ≠ "") &&
      item.agentRunId ≠ item.turnId

/-! ### Errors -/

/-- An `ApiError`, a failure of the transport (`TypeError`, abort, timeout), or another
    error. -/
inductive RequestError where
  | api (status : Nat) (message : String)
  | transport
  | other
deriving DecidableEq

def isUnconfirmedRequest : RequestError → Bool
  | .api status _ => status = 408 || 500 ≤ status
  | .transport => true
  | .other => false

def isWorkspacePreservationPending (error : RequestError) : Bool :=
  error = .api 409 "session_workspace_preservation_pending"

def isDefiniteSubmissionRejection (error : RequestError) : Bool :=
  isWorkspacePreservationPending error ||
    match error with
    | .api status message =>
      ([400, 401, 403, 404, 413, 422, 429].contains status && message ≠ "operation_not_found") ||
        (status = 409 && message = "session_has_active_agent_run")
    | _ => false

/-- The rejections after which `submit` forgets the identity. -/
def isRejected (command : Command) (previouslyPending : Bool) (error : RequestError) : Bool :=
  isWorkspacePreservationPending error ||
    (!previouslyPending && if command = .submitMessage then isDefiniteSubmissionRejection error
      else match error with
        | .api status _ => [400, 422, 429].contains status
        | _ => false)

/-! ### The stored item -/

/-- The stored item. -/
structure Pending where
  operationId : Nat
  fingerprint : String
  inputChanged : Bool
  receipt : Option OperationReceipt
deriving DecidableEq

def samePendingVersion (current : Option Pending) (expected : Pending) : Bool :=
  current.any fun item => item.operationId = expected.operationId &&
    item.fingerprint = expected.fingerprint && item.inputChanged = expected.inputChanged

/-- Where a running `submit` or `recover` waits. -/
inductive Call where
  | idle
  | lookup (item : Pending) (fingerprint : String) (replacing : Bool)
  | ready (item : Pending) (previouslyPending : Bool)
  | posting (item : Pending) (previouslyPending : Bool) (request : Nat)
  /-- A lookup whose result is only stored: of `recover`, after `operation_conflict`, or after
      an unconfirmed request. -/
  | lastLookup (item : Pending)
deriving DecidableEq

/-! ### Requests -/

inductive Answer where
  | receipt (item : OperationReceipt)
  | rejected (error : RequestError)
deriving DecidableEq

/-- A request that was sent, with its answer once the server has served it. -/
structure SentRequest where
  operationId : Nat
  fingerprint : String
  answer : Option Answer
deriving DecidableEq

/-- What the server accepted: the content and the receipt of an identity. -/
structure Acceptance where
  operationId : Nat
  fingerprint : String
  receipt : OperationReceipt
deriving DecidableEq

structure Operations where
  storage : Option Pending
  call : Call
  nextId : Nat
  requests : List SentRequest
  accepted : List Acceptance
deriving DecidableEq

def Operations.init : Operations := ⟨none, .idle, 0, [], []⟩

namespace Operations

def complete (ops : Operations) (operationId : Nat) : Operations :=
  if ops.storage.any (·.operationId = operationId) then { ops with storage := none } else ops

/-- `update`, or nothing where it throws `operation_result_stale`. -/
def update (ops : Operations) (expected : Pending) (change : Pending → Pending) : Operations :=
  if samePendingVersion ops.storage expected then
    { ops with storage := ops.storage.map change }
  else ops

/-- A call ends, with a result or an error. -/
def done (ops : Operations) : Operations := { ops with call := .idle }

/-- `submit` up to its first request, the digests being known. -/
def submit (ops : Operations) (command : Command) (fingerprint : String)
    (replaceUnconfirmedInput : Bool) : Operations :=
  match ops.storage with
  | some item =>
    let replacing := item.fingerprint ≠ fingerprint && replaceUnconfirmedInput &&
      item.receipt = none && command = .submitMessage
    if item.fingerprint ≠ fingerprint && !replacing then ops.done
    else if replacing then
      { ops.update item ({ · with inputChanged := true }) with
        call := .lookup { item with inputChanged := true } fingerprint replacing }
    else { ops with call := .lookup item fingerprint replacing }
  | none =>
    let item : Pending := ⟨ops.nextId, fingerprint, false, none⟩
    { ops with storage := some item, nextId := ops.nextId + 1, call := .ready item false }

/-- `lookup` stores the receipt that it reads. -/
def storeFound (ops : Operations) (command : Command) (item : Pending)
    (found : OperationReceipt) : Operations :=
  if found.check command item.operationId then
    ops.update item ({ · with receipt := some found })
  else ops

/-- `submit` after its first lookup failed. -/
def afterMissing (ops : Operations) (item : Pending) (fingerprint : String) (replacing : Bool)
    (error : RequestError) : Operations :=
  if error ≠ .api 404 "operation_not_found" || item.receipt.isSome then ops.done
  else
    let changed := { item with fingerprint, inputChanged := true }
    let (ops, item) := if replacing then
      (ops.update item ({ · with fingerprint, inputChanged := true }), changed) else (ops, item)
    if samePendingVersion ops.storage item then { ops with call := .ready item true }
    else ops.done

def stopDispatch (ops : Operations) (item : Pending) (previouslyPending : Bool) : Operations :=
  if !previouslyPending && samePendingVersion ops.storage item &&
      ops.storage.all (·.receipt = none) then
    (ops.complete item.operationId).done
  else ops.done

/-- `stop` of the submission control before the dispatch of a new identity. -/
def stop (ops : Operations) (item : Pending) (previouslyPending : Bool) : Operations :=
  if previouslyPending then ops else (ops.complete item.operationId).done

def dispatch (ops : Operations) (item : Pending) (previouslyPending : Bool) : Operations :=
  { ops with
    requests := ops.requests ++ [⟨item.operationId, item.fingerprint, none⟩]
    call := .posting item previouslyPending ops.requests.length }

/-- `submit` after the answer of its request. -/
def afterPost (ops : Operations) (command : Command) (item : Pending) (result : OperationReceipt) :
    Operations :=
  if result.check command item.operationId then
    (ops.update item ({ · with receipt := some result, inputChanged := false })).done
  else ops.done

/-- `submit` after its request failed with an error. -/
def afterError (ops : Operations) (command : Command) (item : Pending) (previouslyPending : Bool)
    (error : RequestError) : Operations :=
  if item.inputChanged && error = .api 409 "operation_conflict" then
    { ops with call := .lastLookup item }
  else
    let current := ops.storage
    let ops := if isRejected command previouslyPending error && samePendingVersion current item &&
      current.all (·.receipt = none) then ops.complete item.operationId else ops
    if !item.inputChanged && samePendingVersion current item && isUnconfirmedRequest error then
      { ops with call := .lastLookup item }
    else ops.done

/-- The server serves a request that is under way.  A new identity is accepted with a receipt,
    or the request is rejected without effect. -/
def serve (ops : Operations) (index : Nat) (verdict : Answer) : Operations :=
  match ops.requests[index]? with
  | some ⟨operationId, fingerprint, none⟩ =>
    let answered := fun answer => ops.requests.set index ⟨operationId, fingerprint, some answer⟩
    match ops.accepted.find? (·.operationId = operationId), verdict with
    | some known, _ =>
      let answer := if known.fingerprint = fingerprint then .receipt known.receipt
        else .rejected (.api 409 "operation_conflict")
      { ops with requests := answered answer }
    | none, .receipt item =>
      { ops with
        requests := answered verdict
        accepted := ⟨operationId, fingerprint, item⟩ :: ops.accepted }
    | none, .rejected error =>
      if isUnconfirmedRequest error then ops else { ops with requests := answered verdict }
  | _ => ops

end Operations

inductive OperationEvent where
  | submit (fingerprint : String) (replaceUnconfirmedInput : Bool)
  | recover
  /-- The answer of a lookup: the stored receipt, or an error. -/
  | found
  | lookupFailed (error : RequestError)
  | dispatch
  | stopDispatch
  | stop
  /-- The answer of the request arrives. -/
  | receive
  /-- The answer is lost, or says nothing about the effect of the request. -/
  | lost (error : RequestError)
  | serve (index : Nat) (verdict : Answer)
  /-- A reviewed operation is consumed: its receipt was stored. -/
  | consume
  | reload
deriving DecidableEq

/-- One event; an event that does not fit the state changes nothing. -/
def Operations.step (command : Command) (ops : Operations) : OperationEvent → Operations
  | .submit fingerprint replace =>
    if ops.call = .idle then ops.submit command fingerprint replace else ops
  | .recover =>
    match ops.call, ops.storage with
    | .idle, some item => { ops with call := .lastLookup item }
    | _, _ => ops
  | .found =>
    match ops.call with
    | .lookup item _ _ | .lastLookup item =>
      match ops.accepted.find? (·.operationId = item.operationId) with
      | some known => (ops.storeFound command item known.receipt).done
      | none => ops
    | _ => ops
  | .lookupFailed error =>
    match ops.call with
    | .lookup item fingerprint replacing => ops.afterMissing item fingerprint replacing error
    | .lastLookup _ => ops.done
    | _ => ops
  | .dispatch =>
    match ops.call with
    | .ready item previouslyPending => ops.dispatch item previouslyPending
    | _ => ops
  | .stopDispatch =>
    match ops.call with
    | .ready item previouslyPending => ops.stopDispatch item previouslyPending
    | _ => ops
  | .stop =>
    match ops.call with
    | .ready item previouslyPending => ops.stop item previouslyPending
    | _ => ops
  | .receive =>
    match ops.call with
    | .posting item previouslyPending index =>
      match ops.requests[index]?.bind (·.answer) with
      | some (.receipt result) => ops.afterPost command item result
      | some (.rejected error) => ops.afterError command item previouslyPending error
      | none => ops
    | _ => ops
  | .lost error =>
    match ops.call with
    | .posting item previouslyPending _ =>
      if isUnconfirmedRequest error || error = .other then
        ops.afterError command item previouslyPending error
      else ops
    | _ => ops
  | .serve index verdict => ops.serve index verdict
  | .consume =>
    if ops.call = .idle && ops.storage.any (·.receipt.isSome) then
      { ops with storage := none, call := .idle }
    else ops
  | .reload => ops.done

def Operations.run (command : Command) (events : List OperationEvent) : Operations :=
  events.foldl (Operations.step command) .init

end Centaeris
