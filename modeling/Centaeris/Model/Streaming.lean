import Centaeris.Model.Transport

namespace Centaeris

open Foundation

/-!
# Requests over a protocol adapter

The three protocol adapters make their requests in the same way.  What is special about one is
a `StreamAdapter`: the state of a stream, how a data value changes it, and how a response is
parsed.
-/

/-- What a data value adds to a stream. -/
inductive StreamUpdate where
  | status (message : Option String) (processState : RuntimeProcessState)
  | token (content : String)
  | toolCallPreparing (name : String)
  | toolCallReady (callId : String) (providerItemId : Option String)
      (name argsJson argsPreview : String)
  | failed (error : ModelClientError)
  | done (finishReason : Option String)
deriving DecidableEq

structure StreamAdapter where
  State : Type
  initial : State
  /-- The new state and the updates of a data value; the number of the attempt stands only in
      error texts.  After an error the state is not read again. -/
  consumeChunk : State → String → Nat → Client (State × List StreamUpdate)
  reasoningSnapshot : State → String
  /-- The error of a stream that ends with a finish reason. -/
  doneError : State → Option String → Option ModelClientError
  /-- The text of the response that the state stands for. -/
  intoResponse : State → Client String
  parseHttpResponse : JsonHttpResponse → Client ModelClientResponse
  mapHttpError : Nat → String → ModelClientError
  attempt_irrelevant : ∀ {state : State} {chunk : String} {a : Nat}
    {result : State × List StreamUpdate}, consumeChunk state chunk a = .ok result →
      ∀ b, consumeChunk state chunk b = .ok result

/-- What the listener of a streamed request keeps; `sink` is what it has shown so far. -/
structure StreamRun (State : Type) where
  streamState : State
  pendingCompletionEvents : List ModelClientStreamEvent
  attemptHasVisibleContent : Bool
  emittedReasoning : String
  sink : List ModelClientStreamEvent

namespace StreamAdapter

variable (adapter : StreamAdapter)

/-! ### The listener -/

/-- The events that take back what an earlier attempt has shown. -/
def retryEvents (attempt : Nat) (run : StreamRun adapter.State) : List ModelClientStreamEvent :=
  if 0 < attempt then
    (if run.emittedReasoning ≠ "" then [.reasoning ""] else []) ++
      (if run.attemptHasVisibleContent then [.replaceContent ""] else []) ++
      [.status none .retrying]
  else []

def startAttempt (attempt : Nat) (run : StreamRun adapter.State) : StreamRun adapter.State :=
  ⟨adapter.initial, [], false, "", run.sink ++ adapter.retryEvents attempt run⟩

/-- The reasoning is shown as a whole when it has changed. -/
def showReasoning (state : adapter.State) (run : StreamRun adapter.State) :
    StreamRun adapter.State :=
  let reasoning := adapter.reasoningSnapshot state
  if reasoning ≠ run.emittedReasoning then
    { run with
      streamState := state
      emittedReasoning := reasoning
      sink := run.sink ++ [.reasoning reasoning] }
  else { run with streamState := state }

def applyUpdate (state : StreamRun adapter.State × SseAttemptProgress) (update : StreamUpdate) :
    StreamRun adapter.State × SseAttemptProgress :=
  let (run, progress) := state
  match update with
  | .status message processState =>
    ({ run with sink := run.sink ++ [.status message processState] }, progress)
  | .token content =>
    ({ run with attemptHasVisibleContent := true, sink := run.sink ++ [.token content] }, progress)
  | .toolCallPreparing name =>
    ({ run with sink := run.sink ++ [.toolCallPreparing name] }, progress)
  | .toolCallReady callId providerItemId name argsJson argsPreview =>
    ({ run with
      pendingCompletionEvents := run.pendingCompletionEvents ++
        [.toolCallReady callId providerItemId name argsJson argsPreview] }, progress)
  | .failed error => (run, ⟨true, some error⟩)
  | .done finishReason =>
    ({ run with pendingCompletionEvents := run.pendingCompletionEvents ++ [.done finishReason] },
      ⟨true, adapter.doneError run.streamState finishReason⟩)

def onEvent : OnEvent (StreamRun adapter.State)
  | run, .start attempt => .ok (adapter.startAttempt attempt run, ⟨false, none⟩)
  | run, .data attempt chunk =>
    match adapter.consumeChunk run.streamState chunk attempt with
    | .error (.failed error) => .ok (run, ⟨true, some error⟩)
    | .error (.panicked text) => .error text
    | .ok (state, updates) =>
      .ok (updates.foldl adapter.applyUpdate (adapter.showReasoning state run, ⟨false, none⟩))

/-! ### The two requests -/

/-- A request whose response is read as a whole. -/
def generate (transport : JsonHttpTransport) (request : JsonHttpRequest) :
    Nat × Client ModelClientResponse :=
  executeJsonModelResponseWithRetries transport request adapter.parseHttpResponse

/-- The response of a stream whose last call is over. -/
def completeStream (attempted : AttemptedHttpResponse) (state : adapter.State) :
    Client ModelClientResponse :=
  if 400 ≤ attempted.response.statusCode then
    .fail ((adapter.mapHttpError attempted.response.statusCode
      attempted.response.bodyJson).withProviderAttempts attempted.attempts)
  else do
    let bodyJson ← adapter.intoResponse state
    match adapter.parseHttpResponse { attempted.response with bodyJson } with
    | .ok response => .ok { response with providerAttempts := attempted.attempts }
    | .error (.failed error) => .fail (error.withProviderAttempts attempted.attempts)
    | .error (.panicked text) => .error (.panicked text)

/-- The calls made, the events shown, and the result. -/
structure StreamEnd where
  calls : Nat
  events : List ModelClientStreamEvent
  result : Client ModelClientResponse

def startRun : StreamRun adapter.State := ⟨adapter.initial, [], false, "", []⟩

/-- The events of the completion are shown only with an accepted response. -/
def endStream (run : SseRun (StreamRun adapter.State)) :
    Except (Halt AttemptedTransportError) AttemptedHttpResponse → StreamEnd
  | .error (.panicked text) => ⟨run.calls, run.listener.sink, .error (.panicked text)⟩
  | .error (.failed error) =>
    ⟨run.calls, run.listener.sink, .fail (mapAttemptedTransportError error)⟩
  | .ok attempted =>
    match adapter.completeStream attempted run.listener.streamState with
    | .ok response =>
      ⟨run.calls, run.listener.sink ++ run.listener.pendingCompletionEvents, .ok response⟩
    | .error halt => ⟨run.calls, run.listener.sink, .error halt⟩

/-- A streamed request: a listener shows events while the data comes in (`onEvent`), keeps the
    events of the completion back, and starts anew with every attempt. -/
def generateStream (transport : JsonHttpTransport) (request : JsonHttpRequest) : StreamEnd :=
  let (run, result) := executeSseWithRetries transport request adapter.onEvent adapter.startRun
  adapter.endStream run result

/-! ### Attempts read by themselves -/

variable {adapter}

/-- A listener that has shown other events before. -/
def prependSink (pre : List ModelClientStreamEvent) (run : StreamRun adapter.State) :
    StreamRun adapter.State :=
  { run with sink := pre ++ run.sink }

def prependShown (pre : List ModelClientStreamEvent)
    (state : SseAttempt (StreamRun adapter.State)) : SseAttempt (StreamRun adapter.State) :=
  { state with listener := prependSink pre state.listener }

variable (pre : List ModelClientStreamEvent)

/-- What the listener does with the data does not depend on what it has shown. -/
theorem applyUpdate_prependSink
    (run : StreamRun adapter.State) (progress : SseAttemptProgress) (update : StreamUpdate) :
    adapter.applyUpdate (prependSink pre run, progress) update =
      (adapter.applyUpdate (run, progress) update).map (prependSink pre) id := by
  cases update <;> simp [applyUpdate, prependSink]

theorem foldl_applyUpdate_prependSink
    (updates : List StreamUpdate) (run : StreamRun adapter.State) (progress : SseAttemptProgress) :
    updates.foldl adapter.applyUpdate (prependSink pre run, progress) =
      (updates.foldl adapter.applyUpdate (run, progress)).map (prependSink pre) id := by
  induction updates generalizing run progress with
  | nil => rfl
  | cons update updates ih =>
    rw [List.foldl_cons, List.foldl_cons, applyUpdate_prependSink]
    exact ih _ _

theorem showReasoning_prependSink (state : adapter.State) (run : StreamRun adapter.State) :
    adapter.showReasoning state (prependSink pre run) =
      prependSink pre (adapter.showReasoning state run) := by
  by_cases h : adapter.reasoningSnapshot state = run.emittedReasoning
  · simp [showReasoning, prependSink, h]
  · simp [showReasoning, prependSink, h]

theorem onChunk_prependShown (attempt : Nat)
    (state : SseAttempt (StreamRun adapter.State)) (chunk : String) :
    onChunk adapter.onEvent attempt (prependShown pre state) chunk =
      prependShown pre <$> onChunk adapter.onEvent attempt state chunk := by
  obtain ⟨run, terminal, terminalError⟩ := state
  cases terminalError with
  | some error => rfl
  | none =>
    have hsta : (prependSink pre run).streamState = run.streamState := rfl
    simp only [onChunk, prependShown, onEvent, hsta]
    cases adapter.consumeChunk run.streamState chunk (satAdd32 attempt 1) with
    | error halt => cases halt <;> rfl
    | ok consumed =>
      obtain ⟨after, updates⟩ := consumed
      simp only [showReasoning_prependSink, foldl_applyUpdate_prependSink]
      rfl

/-- The data of an attempt, read by a listener that has shown nothing. -/
def readAttempt (adapter : StreamAdapter) (attempt : Nat) (frames : List String) :
    Except String (SseAttempt (StreamRun adapter.State)) :=
  frames.foldlM (onChunk adapter.onEvent attempt) ⟨adapter.startRun, false, none⟩

theorem foldlM_onChunk_prependShown (attempt : Nat)
    (frames : List String) (state : SseAttempt (StreamRun adapter.State)) :
    frames.foldlM (onChunk adapter.onEvent attempt) (prependShown pre state) =
      prependShown pre <$> frames.foldlM (onChunk adapter.onEvent attempt) state := by
  induction frames generalizing state with
  | nil => rfl
  | cons chunk frames ih =>
    rw [List.foldlM_cons, List.foldlM_cons, onChunk_prependShown]
    cases onChunk adapter.onEvent attempt state chunk with
    | error text => rfl
    | ok next => exact ih next

/-- **Fresh start.** Every attempt is read as if it were the first one, after what was shown
    before and the events that take it back. -/
theorem listen_eq (attempt : Nat) (frames : List String) (run : StreamRun adapter.State) :
    listen adapter.onEvent attempt frames run =
      prependShown (run.sink ++ adapter.retryEvents attempt run) <$>
        readAttempt adapter attempt frames := by
  have hstart : adapter.startAttempt attempt run =
      prependSink (run.sink ++ adapter.retryEvents attempt run) adapter.startRun := by
    simp [startAttempt, prependSink, startRun]
  rw [readAttempt, ← foldlM_onChunk_prependShown, prependShown, ← hstart]
  rfl

variable {attempt : Nat} {state : SseAttempt (StreamRun adapter.State)} {chunk : String}

theorem onChunk_of_terminalError (h : state.terminalError ≠ none) :
    onChunk adapter.onEvent attempt state chunk = .ok state := by
  unfold onChunk
  cases hterm : state.terminalError with
  | none => exact absurd hterm h
  | some error => rfl

variable {frames : List String} {after : SseAttempt (StreamRun adapter.State)}

theorem terminalError_of_foldlM
    (h : frames.foldlM (onChunk adapter.onEvent attempt) state = .ok after)
    (haft : after.terminalError = none) : state.terminalError = none := by
  by_contra hterm
  have hsame : after = state :=
    foldlM_invariant (· = state) (fun s s' chunk _ hs hstep => by
      subst hs
      rw [onChunk_of_terminalError hterm] at hstep
      cases hstep
      rfl) rfl h
  exact hterm (hsame ▸ haft)

variable {a : Nat}

/-- A data value without a terminal error is read in the same way in every attempt. -/
theorem onChunk_attempt (h : onChunk adapter.onEvent a state chunk = .ok after)
    (haft : after.terminalError = none) (b : Nat) :
    onChunk adapter.onEvent b state chunk = .ok after := by
  unfold onChunk at h ⊢
  cases hterm : state.terminalError with
  | some error =>
    simp only [hterm] at h ⊢
    exact h
  | none =>
    simp only [hterm, onEvent] at h ⊢
    cases hconsumed : adapter.consumeChunk state.listener.streamState chunk (satAdd32 a 1) with
    | error halt =>
      rw [hconsumed] at h
      cases halt with
      | failed error =>
        cases h
        cases haft
      | panicked text => cases h
    | ok consumed =>
      rw [hconsumed] at h
      rw [adapter.attempt_irrelevant hconsumed (satAdd32 b 1)]
      exact h

/-- **Attempts are alike.** An attempt without a terminal error is read in the same way,
    whatever its number is. -/
theorem readAttempt_attempt (h : readAttempt adapter a frames = .ok after)
    (haft : after.terminalError = none) (b : Nat) :
    readAttempt adapter b frames = .ok after := by
  unfold readAttempt at h ⊢
  generalize (⟨adapter.startRun, false, none⟩ : SseAttempt (StreamRun adapter.State)) = state at h ⊢
  induction frames generalizing state with
  | nil => exact h
  | cons chunk frames ih =>
    rw [List.foldlM_cons, Outcome.bind_eq_ok] at h ⊢
    obtain ⟨next, hnext, hrest⟩ := h
    exact ⟨next, onChunk_attempt hnext (terminalError_of_foldlM hrest haft) b, ih next hrest⟩

/-! ### Accepted streams -/

variable {request : JsonHttpRequest} {attempted : AttemptedHttpResponse}

theorem sseVerdict_ok {outcome : Except TransportError JsonHttpResponse}
    (h : sseVerdict request attempt state outcome = .stop (.ok attempted)) :
    outcome = .ok attempted.response ∧ state.terminalError = none ∧
      (attempted.response.statusCode < 400 → state.terminal = true) ∧
      attempted.attempts = satAdd32 attempt 1 := by
  unfold sseVerdict at h
  repeat' split at h
  all_goals
    try (cases h; done)
  cases h
  refine ⟨rfl, ‹_›, ?_, rfl⟩
  intro hstat
  by_contra hterm
  simp_all

variable {response : ModelClientResponse}

theorem status_of_completeStream {state : adapter.State}
    (h : adapter.completeStream attempted state = .ok response) :
    attempted.response.statusCode < 400 := by
  by_contra hstat
  rw [completeStream, if_pos (by omega)] at h
  exact Client.fail_ne_ok h

variable {transport : JsonHttpTransport}

theorem sseAttempt_ok {run final : SseRun (StreamRun adapter.State)}
    (h : sseAttempt transport request adapter.onEvent attempt run =
      (final, .stop (.ok attempted))) :
    ∃ state, readAttempt adapter attempt (transport.executeSse run.calls).frames = .ok state ∧
      (transport.executeSse run.calls).result = .ok attempted.response ∧
      state.terminalError = none ∧
      (attempted.response.statusCode < 400 → state.terminal = true) ∧
      attempted.attempts = satAdd32 attempt 1 ∧
      final = ⟨run.calls + 1, prependSink
        (run.listener.sink ++ adapter.retryEvents attempt run.listener) state.listener⟩ := by
  simp only [sseAttempt, listen_eq] at h
  cases hread : readAttempt adapter attempt (transport.executeSse run.calls).frames with
  | error text =>
    rw [hread] at h
    cases congrArg Prod.snd h
  | ok state =>
    rw [hread] at h
    obtain ⟨hfinal, hverdict⟩ := Prod.mk.inj h
    cases hstop : sseVerdict request attempt (prependShown
        (run.listener.sink ++ adapter.retryEvents attempt run.listener) state)
        (transport.executeSse run.calls).result with
    | again allowed =>
      rw [hstop] at hverdict
      cases hverdict
    | stop result =>
      rw [hstop] at hverdict
      cases result with
      | error error => cases hverdict
      | ok attempted' =>
        cases hverdict
        obtain ⟨houtcome, hnone, hterm, hattempts⟩ := sseVerdict_ok hstop
        exact ⟨state, rfl, houtcome, hnone, hterm, hattempts, hfinal.symm⟩

/-- What an accepted streamed request went through. -/
theorem generateStream_ok (h : (adapter.generateStream transport request).result = .ok response) :
    ∃ last pre state answer, last ≤ request.maxRetries ∧
      (adapter.generateStream transport request).calls = last + 1 ∧
      readAttempt adapter last (transport.executeSse last).frames = .ok state ∧
      (transport.executeSse last).result = .ok answer ∧
      state.terminalError = none ∧ state.terminal = true ∧
      adapter.completeStream ⟨answer, satAdd32 last 1⟩ state.listener.streamState = .ok response ∧
      (adapter.generateStream transport request).events =
        pre ++ state.listener.sink ++ state.listener.pendingCompletionEvents := by
  obtain ⟨last, run, hlast, hatt⟩ :=
    executeSseWithRetries_last transport request adapter.onEvent adapter.startRun
  have hstream : adapter.generateStream transport request = adapter.endStream
    (executeSseWithRetries transport request adapter.onEvent adapter.startRun).1
    (executeSseWithRetries transport request adapter.onEvent adapter.startRun).2 := rfl
  rw [hstream] at h ⊢
  generalize (executeSseWithRetries transport request adapter.onEvent adapter.startRun).1 = final,
    (executeSseWithRetries transport request adapter.onEvent adapter.startRun).2 = result at *
  cases result with
  | error halt => cases halt <;> cases h
  | ok attempted =>
    obtain ⟨state, hread, houtcome, hnone, hterm, hattempts, hfinal⟩ := sseAttempt_ok hatt
    have hattempted : attempted = ⟨attempted.response, satAdd32 last 1⟩ := by rw [← hattempts]
    subst hfinal
    cases hcomplete : adapter.completeStream attempted state.listener.streamState with
    | error halt =>
      simp only [endStream, prependSink, hcomplete] at h
      cases h
    | ok response' =>
      simp only [endStream, prependSink, hcomplete] at h ⊢
      cases h
      refine ⟨last, run.sink ++ adapter.retryEvents last run, state, attempted.response, hlast,
        rfl, hread, houtcome, hnone, hterm (status_of_completeStream hcomplete), ?_, rfl⟩
      rw [← hattempted]
      exact hcomplete

/-! ### The last attempt alone -/

theorem completeStream_attempts {answer : JsonHttpResponse} {n : Nat} {state : adapter.State}
    (h : adapter.completeStream ⟨answer, n⟩ state = .ok response) (m : Nat) :
    response.providerAttempts = n ∧
      adapter.completeStream ⟨answer, m⟩ state = .ok { response with providerAttempts := m } := by
  have hstat : ¬ 400 ≤ answer.statusCode := Nat.not_le.mpr (status_of_completeStream h)
  simp only [completeStream, hstat, if_false, Outcome.bind_eq_ok] at h ⊢
  obtain ⟨bodyJson, hbody, hparsed⟩ := h
  cases hparse : adapter.parseHttpResponse { answer with bodyJson } with
  | error halt =>
    rw [hparse] at hparsed
    cases halt <;> cases hparsed
  | ok parsed =>
    rw [hparse] at hparsed
    cases hparsed
    refine ⟨rfl, bodyJson, hbody, ?_⟩
    rw [hparse]

end StreamAdapter

def JsonHttpRequest.once : JsonHttpRequest := ⟨0, Nat.zero_le _⟩

/-- The transport whose first call is that of number `call`. -/
def JsonHttpTransport.startingAt (transport : JsonHttpTransport) (call : Nat) : JsonHttpTransport :=
  ⟨fun n => transport.executeJson (call + n), fun n => transport.executeSse (call + n)⟩

namespace StreamAdapter

variable {adapter : StreamAdapter}

/-- One call that ends with a terminal event and without an error is accepted. -/
theorem generateStream_once {transport : JsonHttpTransport} {answer : JsonHttpResponse}
    {state : SseAttempt (StreamRun adapter.State)} {response : ModelClientResponse}
    (hread : readAttempt adapter 0 (transport.executeSse 0).frames = .ok state)
    (hres : (transport.executeSse 0).result = .ok answer)
    (hnone : state.terminalError = none) (hterm : state.terminal = true)
    (hcomplete : adapter.completeStream ⟨answer, 1⟩ state.listener.streamState = .ok response) :
    (adapter.generateStream transport .once).result = .ok response := by
  have hverdict : ∀ pre, sseVerdict .once 0 (prependShown pre state) (.ok answer) =
      .stop (.ok ⟨answer, 1⟩) := by
    intro pre
    simp [sseVerdict, prependShown, hnone, hterm, JsonHttpRequest.once, satAdd32, u32Limit]
  have hatt : sseAttempt transport .once adapter.onEvent 0 ⟨0, adapter.startRun⟩ =
      (⟨1, prependSink ([] ++ []) state.listener⟩, .stop (.ok ⟨answer, 1⟩)) := by
    simp only [sseAttempt, listen_eq, hread, hres, Except.map_ok, hverdict]
    rfl
  rw [generateStream, executeSseWithRetries, retry, hatt]
  simp only [endStream]
  rw [show (prependSink ([] ++ []) state.listener).streamState = state.listener.streamState from rfl,
    hcomplete]

/-- **Last attempt alone.** The response of a streamed request is that of a request which
    makes only the last call, but for the number of attempts. -/
theorem generateStream_last {transport : JsonHttpTransport} {request : JsonHttpRequest}
    {response : ModelClientResponse}
    (h : (adapter.generateStream transport request).result = .ok response) :
    ∃ last, (adapter.generateStream transport request).calls = last + 1 ∧
      last ≤ request.maxRetries ∧ response.providerAttempts = satAdd32 last 1 ∧
      (adapter.generateStream (transport.startingAt last) .once).result =
        .ok { response with providerAttempts := 1 } := by
  obtain ⟨last, pre, state, answer, hlast, hcalls, hread, hres, hnone, hterm,
    hcomplete, -⟩ := generateStream_ok h
  obtain ⟨hattempts, honce⟩ := completeStream_attempts hcomplete 1
  refine ⟨last, hcalls, hlast, hattempts, ?_⟩
  exact generateStream_once (readAttempt_attempt hread hnone 0) hres hnone hterm honce

variable {transport transport' : JsonHttpTransport} {request : JsonHttpRequest}

/-- Two attempts of one number whose calls bring the same end alike, whatever was shown before
    them. -/
theorem endStream_determined {attempt : Nat} {pre pre' : StreamRun adapter.State}
    {final final' : SseRun (StreamRun adapter.State)}
    {result result' : Except (Halt AttemptedTransportError) AttemptedHttpResponse}
    (hsame : transport'.executeSse attempt = transport.executeSse attempt)
    (h : sseAttempt transport request adapter.onEvent attempt ⟨attempt, pre⟩ =
      (final, .stop result))
    (h' : sseAttempt transport' request adapter.onEvent attempt ⟨attempt, pre'⟩ =
      (final', .stop result')) :
    (adapter.endStream final' result').result = (adapter.endStream final result).result := by
  simp only [sseAttempt, listen_eq, hsame] at h h'
  cases hread : readAttempt adapter attempt (transport.executeSse attempt).frames with
  | error text =>
    rw [hread] at h h'
    cases h
    cases h'
    rfl
  | ok state =>
    rw [hread] at h h'
    -- the verdict reads only what the call itself brought
    have hverdict : ∀ shown, sseVerdict request attempt (prependShown shown state)
        (transport.executeSse attempt).result =
          sseVerdict request attempt state (transport.executeSse attempt).result := fun _ => rfl
    simp only [Except.map_ok, hverdict] at h h'
    cases hstop : sseVerdict request attempt state (transport.executeSse attempt).result with
    | again allowed =>
      rw [hstop] at h
      cases congrArg Prod.snd h
    | stop outcome =>
      rw [hstop] at h h'
      cases h
      cases h'
      cases outcome with
      | error error => rfl
      | ok attempted =>
        simp only [Except.mapError, endStream, prependShown, prependSink]
        cases adapter.completeStream attempted state.listener.streamState <;> rfl

theorem calls_endStream (run : SseRun (StreamRun adapter.State))
    (result : Except (Halt AttemptedTransportError) AttemptedHttpResponse) :
    (adapter.endStream run result).calls = run.calls := by
  unfold endStream
  repeat' split
  all_goals rfl

/-- **The last call decides.** The result of a streamed request, an error included, depends on
    the number of calls and on what the last one brings, and on nothing before it. -/
theorem generateStream_determined {last : Nat}
    (hcalls : (adapter.generateStream transport request).calls = last + 1)
    (hcalls' : (adapter.generateStream transport' request).calls = last + 1)
    (hsame : transport'.executeSse last = transport.executeSse last) :
    (adapter.generateStream transport' request).result =
      (adapter.generateStream transport request).result := by
  obtain ⟨n, pre, -, hlast⟩ :=
    executeSseWithRetries_last transport request adapter.onEvent adapter.startRun
  obtain ⟨m, pre', -, hlast'⟩ :=
    executeSseWithRetries_last transport' request adapter.onEvent adapter.startRun
  have hn := sseAttempt_calls transport request adapter.onEvent n ⟨n, pre⟩
  have hm := sseAttempt_calls transport' request adapter.onEvent m ⟨m, pre'⟩
  rw [hlast] at hn
  rw [hlast'] at hm
  simp only [generateStream, calls_endStream] at hcalls hcalls'
  obtain rfl : n = last := Nat.succ.inj (hn.symm.trans hcalls)
  obtain rfl : m = n := Nat.succ.inj (hm.symm.trans hcalls')
  exact endStream_determined hsame hlast hlast'

end StreamAdapter

end Centaeris
