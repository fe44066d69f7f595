import Centaeris.Foundation.Integers
import Centaeris.Foundation.Retry
import Centaeris.Model.Client

namespace Centaeris

open Foundation

/-!
# HTTP calls with retries

A transport makes one HTTP call at a time.  Two functions make calls until one is good enough.

What the transport does is a function of the number of the call: every schedule of outcomes is
one.  The functions count the calls they make apart from the attempts they report.
-/

inductive TransportError where
  | timeout (text : String)
  | connection (text : String)
  | network (text : String)
  | build (text : String)
  | invalidResponse (text : String)
  | responseTooLarge (maxBytes : Nat)
  | streamInterrupted (text : String)
deriving DecidableEq

namespace TransportError

def display : TransportError → String
  | .timeout text | .connection text | .network text | .build text | .invalidResponse text
  | .streamInterrupted text => text
  | .responseTooLarge maxBytes => s!"response body exceeds {maxBytes} bytes"

def retryable : TransportError → Bool
  | .timeout _ | .connection _ | .network _ | .streamInterrupted _ => true
  | _ => false

def modelKind : TransportError → ModelClientErrorKind
  | .timeout _ => .timeout
  | .build _ => .invalidRequest
  | .invalidResponse _ | .responseTooLarge _ | .streamInterrupted _ =>
    .providerResponseInterrupted
  | .connection _ | .network _ => .network

def intoModelError (error : TransportError) : ModelClientError :=
  .new error.modelKind error.display error.retryable

end TransportError

/-- The part of a request that the retries depend on; its number is a `u32`. -/
structure JsonHttpRequest where
  maxRetries : Nat
  fits : maxRetries ≤ u32Limit

structure JsonHttpResponse where
  statusCode : Nat
  headers : List (String × String)
  bodyJson : String
deriving DecidableEq

/-- The data values of one call and how it ends. -/
structure SseOutcome where
  frames : List String
  result : Except TransportError JsonHttpResponse

/-- What each call of a transport does, by the number of calls before it. -/
structure JsonHttpTransport where
  executeJson : Nat → Except TransportError JsonHttpResponse
  executeSse : Nat → SseOutcome

structure AttemptedHttpResponse where
  response : JsonHttpResponse
  attempts : Nat
deriving DecidableEq

structure AttemptedTransportError where
  message : String
  attempts : Nat
  providerError : Option ModelClientError
deriving DecidableEq

def isRetryableHttpStatus (statusCode : Nat) : Bool :=
  statusCode == 408 || statusCode == 429 || decide (500 ≤ statusCode)

def mapAttemptedTransportError (error : AttemptedTransportError) : ModelClientError :=
  match error.providerError with
  | some providerError => providerError.withProviderAttempts error.attempts
  | none =>
    (TransportError.streamInterrupted error.message).intoModelError.withProviderAttempts
      error.attempts

def transportFailure (attempt : Nat) (error : TransportError) : AttemptedTransportError :=
  ⟨error.display, satAdd32 attempt 1, some error.intoModelError⟩

/-! ### Whole responses -/

/-- What an attempt decides by the response or the error of its call. -/
def jsonVerdict (request : JsonHttpRequest) (attempt : Nat) :
    Except TransportError JsonHttpResponse →
      Verdict (attempt < request.maxRetries) (Except AttemptedTransportError AttemptedHttpResponse)
  | .ok response =>
    if h : isRetryableHttpStatus response.statusCode = true ∧ attempt < request.maxRetries then
      .again h.2
    else .stop (.ok ⟨response, satAdd32 attempt 1⟩)
  | .error error =>
    if h : error.retryable = true ∧ attempt < request.maxRetries then .again h.2
    else .stop (.error (transportFailure attempt error))

/-- Returns the number of calls made so far and the result. -/
def executeJsonWithRetries (transport : JsonHttpTransport) (request : JsonHttpRequest)
    (calls : Nat) : Nat × Except AttemptedTransportError AttemptedHttpResponse :=
  retry request.maxRetries
    (fun attempt calls => (calls + 1, jsonVerdict request attempt (transport.executeJson calls)))
    0 calls

def reportedAttempts : Except AttemptedTransportError AttemptedHttpResponse → Nat
  | .ok attempted => attempted.attempts
  | .error error => error.attempts

variable {request : JsonHttpRequest} {attempt : Nat}
  {outcome : Except TransportError JsonHttpResponse}
  {result : Except AttemptedTransportError AttemptedHttpResponse}

theorem reportedAttempts_of_jsonVerdict (h : jsonVerdict request attempt outcome = .stop result) :
    reportedAttempts result = satAdd32 attempt 1 := by
  unfold jsonVerdict at h
  split at h
  · split_ifs at h
    cases h
    rfl
  · split_ifs at h
    cases h
    rfl

/-- **Calls of the inner loop.** Every attempt is one call; the result reports them, up to
    the largest `u32`, and there are at most `maxRetries + 1`. -/
theorem executeJsonWithRetries_calls (transport : JsonHttpTransport) (request : JsonHttpRequest)
    (calls : Nat) :
    ∃ made, 0 < made ∧ made ≤ request.maxRetries + 1 ∧
      (executeJsonWithRetries transport request calls).1 = calls + made ∧
      reportedAttempts (executeJsonWithRetries transport request calls).2 =
        min made u32Limit := by
  obtain ⟨last, before, hretried, hlast⟩ := retry_spec request.maxRetries
    (fun attempt calls => (calls + 1, jsonVerdict request attempt (transport.executeJson calls)))
    0 calls
  have hpre : before = calls + last := by
    apply hretried.invariant fun attempt made => made = calls + attempt
    · rfl
    · intro attempt made made' _ hmade hon
      obtain ⟨hnext, -⟩ := Prod.mk.inj hon
      omega
  obtain ⟨hcalls, hverdict⟩ := Prod.mk.inj hlast
  refine ⟨last + 1, by omega, ?_, ?_, reportedAttempts_of_jsonVerdict hverdict⟩
  · have := hretried.le_limit (by omega)
    omega
  · rw [executeJsonWithRetries, ← hcalls, hpre]
    omega

variable {transport : JsonHttpTransport} {calls calls' : Nat}

theorem attempts_pos {attempted : AttemptedHttpResponse}
    (h : executeJsonWithRetries transport request calls = (calls', .ok attempted)) :
    0 < attempted.attempts := by
  obtain ⟨made, hpos, -, -, hreported⟩ := executeJsonWithRetries_calls transport request calls
  rw [h] at hreported
  have : attempted.attempts = min made u32Limit := hreported
  simp only [u32Limit] at this
  omega

def malformedToolCallArguments : String := "malformed_tool_call_arguments"

/-- The request of the next attempts: as many retries as are left. -/
def attemptRequest (request : JsonHttpRequest) (providerAttempts : Nat) : JsonHttpRequest where
  maxRetries := satAdd32 request.maxRetries 1 - providerAttempts - 1
  fits := by
    have : satAdd32 request.maxRetries 1 ≤ u32Limit := min_le_right _ _
    omega

/-- The attempts from a number of attempts on that parsing has refused. -/
def executeJsonModelResponseFrom (transport : JsonHttpTransport) (request : JsonHttpRequest)
    (parseResponse : JsonHttpResponse → Client ModelClientResponse)
    (providerAttempts calls : Nat) : Nat × Client ModelClientResponse :=
  match _hattempted :
      executeJsonWithRetries transport (attemptRequest request providerAttempts) calls with
  | (calls, .error error) =>
    (calls, .fail (mapAttemptedTransportError
      { error with attempts := satAdd32 error.attempts providerAttempts }))
  | (calls, .ok attempted) =>
    let attempts := satAdd32 providerAttempts attempted.attempts
    match parseResponse attempted.response with
    | .ok response => (calls, .ok { response with providerAttempts := attempts })
    | .error (.panicked text) => (calls, .error (.panicked text))
    | .error (.failed error) =>
      if attempts < satAdd32 request.maxRetries 1 ∧
          (error.retryable = true ∨ error.providerCode = some malformedToolCallArguments) then
        executeJsonModelResponseFrom transport request parseResponse attempts calls
      else
        let final := if error.providerCode = some malformedToolCallArguments then
          { error with retryable := false } else error
        (calls, .fail (final.withProviderAttempts attempts))
termination_by satAdd32 request.maxRetries 1 - providerAttempts
decreasing_by
  rename_i hmore
  have hpos := attempts_pos _hattempted
  have hfits : satAdd32 request.maxRetries 1 ≤ u32Limit := min_le_right _ _
  have hattempts : attempts = min (providerAttempts + attempted.attempts) u32Limit := rfl
  omega

/-- Over whole JSON responses; inside it `executeJsonWithRetries` repeats the call and the response
    is parsed. -/
def executeJsonModelResponseWithRetries (transport : JsonHttpTransport)
    (request : JsonHttpRequest) (parseResponse : JsonHttpResponse → Client ModelClientResponse) :
    Nat × Client ModelClientResponse :=
  executeJsonModelResponseFrom transport request parseResponse 0 0

/-- The number of attempts that a result reports; a panic reports none. -/
def Reports : Client ModelClientResponse → Nat → Prop
  | .ok response, attempts => response.providerAttempts = attempts
  | .error (.failed error), attempts => error.providerAttempts = attempts
  | .error (.panicked _), _ => True

/-- One round of the outer loop, when its numbers fit into a `u32`. -/
theorem round_calls {providerAttempts : Nat} (hfits : request.maxRetries < u32Limit)
    (hleft : providerAttempts ≤ request.maxRetries)
    (h : executeJsonWithRetries transport (attemptRequest request providerAttempts) calls =
      (calls', result)) :
    calls' = calls + reportedAttempts result ∧
      providerAttempts + reportedAttempts result ≤ request.maxRetries + 1 ∧
      satAdd32 providerAttempts (reportedAttempts result) =
        providerAttempts + reportedAttempts result := by
  have hmaximum : satAdd32 request.maxRetries 1 = request.maxRetries + 1 :=
    satAdd32_of_le (by omega)
  have hlim : (attemptRequest request providerAttempts).maxRetries =
      satAdd32 request.maxRetries 1 - providerAttempts - 1 := rfl
  obtain ⟨made, hpos, hmade, hcalls, hreported⟩ :=
    executeJsonWithRetries_calls transport (attemptRequest request providerAttempts) calls
  rw [h] at hcalls hreported
  have hcalls' : calls' = calls + made := hcalls
  have hsame : reportedAttempts result = made := by
    have : reportedAttempts result = min made u32Limit := hreported
    omega
  refine ⟨by omega, by omega, ?_⟩
  apply satAdd32_of_le
  omega

/-- **Calls of the outer loop.** Each call is one attempt, as long as the numbers fit. -/
theorem executeJsonModelResponseFrom_calls (transport : JsonHttpTransport)
    (request : JsonHttpRequest) (parseResponse : JsonHttpResponse → Client ModelClientResponse)
    (hfits : request.maxRetries < u32Limit) (providerAttempts calls : Nat)
    (hleft : providerAttempts ≤ request.maxRetries) :
    ∃ made, (executeJsonModelResponseFrom transport request parseResponse providerAttempts
        calls).1 = calls + made ∧
      providerAttempts + made ≤ request.maxRetries + 1 ∧
      Reports (executeJsonModelResponseFrom transport request parseResponse providerAttempts
        calls).2 (providerAttempts + made) := by
  -- along the recursion: a round that is followed by another one has used up its attempts
  fun_induction executeJsonModelResponseFrom transport request parseResponse providerAttempts calls with
  | case1 providerAttempts calls calls' error hround =>
    obtain ⟨hcalls, hbd, hsum⟩ := round_calls hfits hleft hround
    refine ⟨error.attempts, hcalls, hbd, ?_⟩
    have hsum' : satAdd32 error.attempts providerAttempts = providerAttempts + error.attempts := by
      rw [satAdd32, Nat.add_comm]
      exact hsum
    show (mapAttemptedTransportError _).providerAttempts = _
    unfold mapAttemptedTransportError
    split <;> exact hsum'
  | case2 providerAttempts calls calls' attempted hround response _ =>
    obtain ⟨hcalls, hbd, hsum⟩ := round_calls hfits hleft hround
    exact ⟨attempted.attempts, hcalls, hbd, hsum⟩
  | case3 providerAttempts calls calls' attempted hround text _ =>
    obtain ⟨hcalls, hbd, -⟩ := round_calls hfits hleft hround
    exact ⟨attempted.attempts, hcalls, hbd, trivial⟩
  | case4 providerAttempts calls calls' attempted hround attempts error _ hmore ih =>
    obtain ⟨hcalls, hbd, hsum⟩ := round_calls hfits hleft hround
    have hattempts : attempts = providerAttempts + attempted.attempts := hsum
    have hmaximum : satAdd32 request.maxRetries 1 = request.maxRetries + 1 :=
      satAdd32_of_le (by omega)
    obtain ⟨made, hlat, hlaterBound, hreports⟩ := ih (by omega)
    have hcalls' : calls' = calls + attempted.attempts := hcalls
    refine ⟨attempted.attempts + made, by omega, by omega, ?_⟩
    have htotal : providerAttempts + (attempted.attempts + made) = attempts + made := by omega
    rwa [htotal]
  | case5 providerAttempts calls calls' attempted hround attempts error _ _ =>
    obtain ⟨hcalls, hbd, hsum⟩ := round_calls hfits hleft hround
    exact ⟨attempted.attempts, hcalls, hbd, hsum⟩

/-! ### Event streams -/

inductive SseAttemptEvent where
  | start (attempt : Nat)
  | data (attempt : Nat) (frame : String)
deriving DecidableEq

structure SseAttemptProgress where
  terminal : Bool
  terminalError : Option ModelClientError
deriving DecidableEq

/-- A listener with its state; it may panic with a text. -/
abbrev OnEvent (σ : Type) := σ → SseAttemptEvent → Except String (σ × SseAttemptProgress)

/-- What is known of the call that runs: the listener's state, whether a terminal event was
    seen, and the first terminal error. -/
structure SseAttempt (σ : Type) where
  listener : σ
  terminal : Bool
  terminalError : Option ModelClientError

variable {σ : Type}

/-- One data value; after a terminal error the listener gets no more. -/
def onChunk (onEvent : OnEvent σ) (attempt : Nat) (state : SseAttempt σ) (chunk : String) :
    Except String (SseAttempt σ) :=
  match state.terminalError with
  | some _ => .ok state
  | none => do
    let (listener, progress) ← onEvent state.listener (.data (satAdd32 attempt 1) chunk)
    pure ⟨listener, state.terminal || progress.terminal, progress.terminalError⟩

/-- The data of a whole call. -/
def listen (onEvent : OnEvent σ) (attempt : Nat) (frames : List String) (listener : σ) :
    Except String (SseAttempt σ) := do
  let (listener, _) ← onEvent listener (.start attempt)
  frames.foldlM (onChunk onEvent attempt) ⟨listener, false, none⟩

def malformedSseFrame : String := "malformed_sse_frame"

def terminalFailure (attempt : Nat) (error : ModelClientError) : AttemptedTransportError :=
  let providerError := if error.providerCode = some malformedToolCallArguments ∨
    error.providerCode = some malformedSseFrame then { error with retryable := false } else error
  ⟨providerError.message, satAdd32 attempt 1, some providerError⟩

def sseVerdict (request : JsonHttpRequest) (attempt : Nat) (state : SseAttempt σ) :
    Except TransportError JsonHttpResponse →
      Verdict (attempt < request.maxRetries) (Except AttemptedTransportError AttemptedHttpResponse)
  | .ok response =>
    match state.terminalError with
    | some error =>
      if h : error.retryable = true ∧ attempt < request.maxRetries then .again h.2
      else .stop (.error (terminalFailure attempt error))
    | none =>
      if h : isRetryableHttpStatus response.statusCode = true ∧ attempt < request.maxRetries then
        .again h.2
      else if h : (response.statusCode < 400 ∧ state.terminal = false) ∧
          attempt < request.maxRetries then .again h.2
      else if response.statusCode < 400 ∧ state.terminal = false then
        .stop (.error ⟨"SSE stream ended before a terminal response event", satAdd32 attempt 1,
          none⟩)
      else .stop (.ok ⟨response, satAdd32 attempt 1⟩)
  | .error error =>
    if h : error.retryable = true ∧ attempt < request.maxRetries then .again h.2
    else .stop (.error (transportFailure attempt error))

/-- The calls made so far and the listener's state. -/
structure SseRun (σ : Type) where
  calls : Nat
  listener : σ

def sseAttempt (transport : JsonHttpTransport) (request : JsonHttpRequest) (onEvent : OnEvent σ)
    (attempt : Nat) (run : SseRun σ) :
    SseRun σ × Verdict (attempt < request.maxRetries)
      (Except (Halt AttemptedTransportError) AttemptedHttpResponse) :=
  let outcome := transport.executeSse run.calls
  match listen onEvent attempt outcome.frames run.listener with
  | .error text => (⟨run.calls + 1, run.listener⟩, .stop (.error (.panicked text)))
  | .ok state => (⟨run.calls + 1, state.listener⟩,
      (sseVerdict request attempt state outcome.result).map (Except.mapError .failed))

theorem sseAttempt_calls (transport : JsonHttpTransport) (request : JsonHttpRequest)
    (onEvent : OnEvent σ) (attempt : Nat) (run : SseRun σ) :
    (sseAttempt transport request onEvent attempt run).1.calls = run.calls + 1 := by
  simp only [sseAttempt]
  split <;> rfl

/-- Returns the calls made, the listener's state and the result. -/
def executeSseWithRetries (transport : JsonHttpTransport) (request : JsonHttpRequest)
    (onEvent : OnEvent σ) (listener : σ) :
    SseRun σ × Except (Halt AttemptedTransportError) AttemptedHttpResponse :=
  retry request.maxRetries (sseAttempt transport request onEvent) 0 ⟨0, listener⟩

theorem calls_of_retried {onEvent : OnEvent σ} {listener : σ} {run : SseRun σ}
    (h : Retried (sseAttempt transport request onEvent) 0 ⟨0, listener⟩ attempt run) :
    run.calls = attempt := by
  apply h.invariant fun attempt run => run.calls = attempt
  · rfl
  · intro attempt run run' _ hrun hon
    have hnext := sseAttempt_calls transport request onEvent attempt run
    rw [hon] at hnext
    show run'.calls = attempt + 1
    rw [← hrun]
    exact hnext

/-- **Last call.** The result is the verdict on the last call; there were as many calls before
    it as attempts. -/
theorem executeSseWithRetries_last (transport : JsonHttpTransport) (request : JsonHttpRequest)
    (onEvent : OnEvent σ) (listener : σ) :
    ∃ last before, last ≤ request.maxRetries ∧
      sseAttempt transport request onEvent last ⟨last, before⟩ =
        ((executeSseWithRetries transport request onEvent listener).1,
          .stop (executeSseWithRetries transport request onEvent listener).2) := by
  obtain ⟨last, ⟨calls, before⟩, hretried, hlast⟩ := retry_spec request.maxRetries
    (sseAttempt transport request onEvent) 0 ⟨0, listener⟩
  have hcalls : calls = last := calls_of_retried hretried
  subst hcalls
  exact ⟨calls, before, hretried.le_limit (Nat.zero_le _), hlast⟩

theorem attempts_of_sseVerdict {state : SseAttempt σ}
    (h : sseVerdict request attempt state outcome = .stop result) :
    reportedAttempts result = satAdd32 attempt 1 := by
  unfold sseVerdict at h
  repeat' split at h
  all_goals
    cases h
  all_goals rfl

/-- The number of attempts that the result of a stream reports. -/
def StreamReports : Except (Halt AttemptedTransportError) AttemptedHttpResponse → Nat → Prop
  | .ok attempted, attempts => attempted.attempts = attempts
  | .error (.failed error), attempts => error.attempts = attempts
  | .error (.panicked _), _ => True

/-- **Calls of a stream.** Each call is one attempt, as long as the numbers fit. -/
theorem executeSseWithRetries_calls (transport : JsonHttpTransport) (request : JsonHttpRequest)
    (onEvent : OnEvent σ) (listener : σ) (hfits : request.maxRetries < u32Limit) :
    (executeSseWithRetries transport request onEvent listener).1.calls ≤ request.maxRetries + 1 ∧
      StreamReports (executeSseWithRetries transport request onEvent listener).2
        (executeSseWithRetries transport request onEvent listener).1.calls := by
  obtain ⟨last, before, hlast, hatt⟩ :=
    executeSseWithRetries_last transport request onEvent listener
  generalize executeSseWithRetries transport request onEvent listener = ended at hatt ⊢
  have hcalls : ended.1.calls = last + 1 := by
    have := sseAttempt_calls transport request onEvent last ⟨last, before⟩
    rwa [hatt] at this
  refine ⟨by omega, ?_⟩
  rw [hcalls]
  simp only [sseAttempt] at hatt
  split at hatt
  · have hres := congrArg Prod.snd hatt
    injection hres with hres
    rw [← hres]
    trivial
  · cases hverdict : sseVerdict request last _ (transport.executeSse last).result with
    | again allowed =>
      rw [hverdict] at hatt
      cases congrArg Prod.snd hatt
    | stop result =>
      rw [hverdict] at hatt
      have hreported := attempts_of_sseVerdict hverdict
      rw [satAdd32_of_le (by omega)] at hreported
      have hres := congrArg Prod.snd hatt
      injection hres with hres
      rw [← hres]
      cases result with
      | ok attempted => exact hreported
      | error error => exact hreported

theorem calls_lt_retry (transport : JsonHttpTransport) (request : JsonHttpRequest)
    (onEvent : OnEvent σ) (attempt : Nat) (run : SseRun σ) :
    run.calls < (retry request.maxRetries (sseAttempt transport request onEvent) attempt
      run).1.calls := by
  induction attempt, run using retry.induct request.maxRetries
    (sseAttempt transport request onEvent) with
  | case1 attempt run run' result hbody =>
    have hcalls := sseAttempt_calls transport request onEvent attempt run
    rw [hbody] at hcalls
    rw [retry, hbody]
    exact hcalls ▸ Nat.lt_succ_self run.calls
  | case2 attempt run run' allowed hbody ih =>
    have hcalls := sseAttempt_calls transport request onEvent attempt run
    rw [hbody] at hcalls
    rw [retry, hbody]
    have hnext : run'.calls = run.calls + 1 := hcalls
    exact lt_trans (by omega) ih

/-- **Completed streams.** After an attempt with a terminal event and no terminal error the
    function returns the response without another call exactly when the connection ended
    with a response and its status is not one to try again. -/
theorem executeSseWithRetries_of_terminal (transport : JsonHttpTransport)
    (request : JsonHttpRequest) (onEvent : OnEvent σ) (listener : σ) (attempt : Nat)
    (run : SseRun σ) (state : SseAttempt σ)
    (hreached : Retried (sseAttempt transport request onEvent) 0 ⟨0, listener⟩ attempt run)
    (hlisten : listen onEvent attempt (transport.executeSse run.calls).frames run.listener =
      .ok state) (hterm : state.terminal = true) (hclean : state.terminalError = none) :
    ((executeSseWithRetries transport request onEvent listener).1.calls = attempt + 1 ∧
      ∃ response, (executeSseWithRetries transport request onEvent listener).2 =
        .ok ⟨response, satAdd32 attempt 1⟩) ↔
      ∃ response, (transport.executeSse run.calls).result = .ok response ∧
        ¬ (isRetryableHttpStatus response.statusCode = true ∧ attempt < request.maxRetries) := by
  have hcalls := calls_of_retried hreached
  have hmore : (retry request.maxRetries (sseAttempt transport request onEvent) (attempt + 1)
      ⟨run.calls + 1, state.listener⟩).1.calls ≠ attempt + 1 := by
    have hlat : run.calls + 1 < _ := calls_lt_retry transport request onEvent (attempt + 1)
      ⟨run.calls + 1, state.listener⟩
    omega
  rw [executeSseWithRetries, hreached.retry_eq, retry, sseAttempt, hlisten]
  cases (transport.executeSse run.calls).result with
  | ok response =>
    by_cases hretry : isRetryableHttpStatus response.statusCode = true ∧
        attempt < request.maxRetries
    · simp only [sseVerdict, hclean, dif_pos hretry, Verdict.map, hmore, false_and, false_iff]
      rintro ⟨_, hresponse, hnot⟩
      exact hnot (Except.ok.inj hresponse ▸ hretry)
    · simp only [sseVerdict, hclean, dif_neg hretry, hterm, Bool.true_eq_false, and_false,
        false_and, ↓reduceDIte, ↓reduceIte, Verdict.map, hcalls]
      exact ⟨fun _ => ⟨response, rfl, hretry⟩, fun _ => ⟨trivial, response, rfl⟩⟩
  | error error =>
    by_cases hretry : error.retryable = true ∧ attempt < request.maxRetries
    · simp [sseVerdict, hretry, Verdict.map, hmore]
    · simp [sseVerdict, hretry, Verdict.map, Except.mapError]

/-- A transport whose calls all send one value and end as given. -/
def endingTransport (result : Except TransportError JsonHttpResponse) : JsonHttpTransport :=
  ⟨fun _ => result, fun _ => ⟨["end"], result⟩⟩

def oneRetry : JsonHttpRequest := ⟨1, by decide⟩

/-- A listener that takes every value for the end. -/
def takesForEnd : OnEvent Unit := fun _ _ => .ok ((), ⟨true, none⟩)

theorem executeSseWithRetries_of_terminal_ok :
    (executeSseWithRetries (endingTransport (.ok ⟨200, [], ""⟩)) oneRetry takesForEnd ()).1.calls =
      1 :=
  ((executeSseWithRetries_of_terminal (endingTransport (.ok ⟨200, [], ""⟩)) oneRetry takesForEnd ()
    0 ⟨0, ()⟩ ⟨(), true, none⟩ .here rfl rfl rfl).mpr ⟨_, rfl, by decide⟩).1

/-- The first call ends with a terminal event and a lost connection, and there is a second. -/
theorem completed_stream_retried :
    listen takesForEnd 0 ["end"] () = .ok ⟨(), true, none⟩ ∧
      (executeSseWithRetries (endingTransport (.error (.connection "reset"))) oneRetry takesForEnd
        ()).1.calls = 2 := by
  have hnext : Retried (sseAttempt (endingTransport (.error (.connection "reset"))) oneRetry
      takesForEnd) 0 ⟨0, ()⟩ 1 ⟨1, ()⟩ := .next .here rfl
  refine ⟨rfl, ?_⟩
  rw [executeSseWithRetries, hnext.retry_eq, retry]
  rfl

end Centaeris
