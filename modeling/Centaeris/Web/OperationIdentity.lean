import Centaeris.Web.OperationClient

namespace Centaeris

open Foundation Operations List

/-!
# Forgotten operation identities

When the client forgets an identity whose receipt it does not have, no request with this
identity should ever be accepted.
-/

def Operations.Accepted (ops : Operations) (id : Nat) : Prop :=
  ∃ item ∈ ops.accepted, item.operationId = id

def SentRequest.Rejected (request : SentRequest) : Prop :=
  ∃ error, request.answer = some (.rejected error)

/-- The client forgets an identity without its receipt. -/
def Forgets (before after : Operations) (id : Nat) : Prop :=
  (∃ item, before.storage = some item ∧ item.operationId = id ∧ item.receipt = none) ∧
    after.storage = none

def Call.item? : Call → Option Pending
  | .idle => none
  | .lookup item _ _ | .ready item _ | .posting item _ _ | .lastLookup item => some item

/-- A call that has neither drawn an identity nor sent a request. -/
def Call.waits : Call → Bool
  | .ready _ false | .posting _ _ _ => false
  | _ => true

/-- The identity is stored, or a call works with it. -/
def Operations.Holds (ops : Operations) (id : Nat) : Prop :=
  (∃ item, ops.storage = some item ∧ item.operationId = id) ∨
    ∃ item, ops.call.item? = some item ∧ item.operationId = id

variable {command : Command} {ops ops' : Operations} {item : Pending} {id : Nat}
  {event : OperationEvent}

/-! ### What an event does -/

/-- Storage is rewritten under its identity, or loses a receipt that was stored, and the server
    sees nothing. -/
structure Keeps (ops ops' : Operations) : Prop where
  requests : ops'.requests = ops.requests
  accepted : ops'.accepted = ops.accepted
  nextId : ops'.nextId = ops.nextId
  storage : ∀ item, ops'.storage = some item →
    ∃ known, ops.storage = some known ∧ known.operationId = item.operationId
  kept : ops'.storage = none → ∀ item, ops.storage = some item → item.receipt ≠ none

theorem Keeps.refl : Keeps ops ops :=
  ⟨rfl, rfl, rfl, fun item h => ⟨item, h, rfl⟩, fun hnone _ h => nomatch hnone.symm.trans h⟩

theorem keeps_update {change : Pending → Pending}
    (h : ∀ item, (change item).operationId = item.operationId) :
    Keeps ops (ops.update item change) := by
  unfold update
  split
  · refine ⟨rfl, rfl, rfl, ?_, ?_⟩
    · intro changed hchanged
      obtain ⟨known, hkn, rfl⟩ := Option.map_eq_some_iff.mp hchanged
      exact ⟨known, hkn, (h known).symm⟩
    · intro hnone known hkn
      cases (Option.map_eq_none_iff.mp hnone).symm.trans hkn
  · exact .refl

/-- The call may forget its identity: it is new and not dispatched, or the request was
    rejected. -/
def Operations.MayForget (ops : Operations) (item : Pending) : Prop :=
  ops.call = .ready item false ∨ ∃ retry index request,
    ops.call = .posting item retry index ∧ ops.requests[index]? = some request ∧
      request.Rejected

/-- What one event can do; an identity is forgotten before the dispatch of a new one, or by a
    rejection of the request that `submit` waits for. -/
inductive OperationEffect (ops : Operations) : Operations → Prop where
  | unchanged : OperationEffect ops ops
  | settled {after : Operations} (call : Call) (h : Keeps ops after) (hwaits : call.waits)
      (hcall : ∀ item, call.item? = some item → ops.Holds item.operationId) :
      OperationEffect ops { after with call }
  | forgot {item stored : Pending} (hcall : ops.MayForget item)
      (hst : ops.storage = some stored) (hid : stored.operationId = item.operationId) :
      OperationEffect ops { ops with storage := none, call := .idle }
  | created {item : Pending} (hnone : ops.storage = none) (hid : item.operationId = ops.nextId) :
      OperationEffect ops { ops with
        storage := some item, nextId := ops.nextId + 1, call := .ready item false }
  | sent {item : Pending} {retry : Bool}
      (hcall : ops.call = .ready item retry) :
      OperationEffect ops (ops.dispatch item retry)
  | served {index : Nat} {request : SentRequest} {answer : Answer} {accepted : List Acceptance}
      (hreq : ops.requests[index]? = some request) (hopen : request.answer = none)
      (hacc : ∀ item ∈ accepted, item ∈ ops.accepted ∨
        item.operationId = request.operationId ∧ ∃ item, answer = .receipt item)
      (hkept : ops.accepted ⊆ accepted) (hans : ∀ item, answer = .receipt item →
        ∃ item ∈ accepted, item.operationId = request.operationId) :
      OperationEffect ops { ops with
        requests := ops.requests.set index { request with answer := some answer }, accepted }

theorem OperationEffect.done (h : Keeps ops ops') : OperationEffect ops ops'.done :=
  .settled .idle h rfl (fun _ h => nomatch h)

theorem OperationEffect.goesOn {call : Call} (h : Keeps ops ops') (hwaits : call.waits)
    (hitem : call.item? = some item) (hheld : ops.Holds item.operationId) :
    OperationEffect ops { ops' with call } := by
  refine .settled call h hwaits ?_
  intro other hoth
  cases hitem.symm.trans hoth
  exact hheld

theorem complete_effect (h : ops.MayForget item) :
    OperationEffect ops (ops.complete item.operationId).done := by
  unfold complete
  split
  case isTrue hid =>
    obtain ⟨stored, hst, hid⟩ := (Option.any_eq_true _ _).mp hid
    exact .forgot h hst (of_decide_eq_true hid)
  case isFalse => exact .done .refl

theorem accepted_of_find? {known : Acceptance}
    (h : ops.accepted.find? (·.operationId = id) = some known) : ops.Accepted id := by
  have hid := find?_some h
  exact ⟨known, mem_of_find?_eq_some h, of_decide_eq_true hid⟩

theorem serve_effect (index : Nat) (verdict : Answer) :
    OperationEffect ops (ops.serve index verdict) := by
  unfold serve
  split
  case h_1 operationId fingerprint hreq =>
    split
    case h_1 known hkn =>
      exact .served hreq rfl (fun _ => .inl) (Subset.refl _) fun _ _ => accepted_of_find? hkn
    case h_2 =>
      refine .served hreq rfl ?_ (subset_cons_self ..) fun _ _ => ⟨_, mem_cons_self, rfl⟩
      intro item hitem
      rcases mem_cons.mp hitem with rfl | hitem
      · exact .inr ⟨rfl, _, rfl⟩
      · exact .inl hitem
    case h_3 =>
      split
      · exact .unchanged
      · exact .served hreq rfl (fun _ => .inl) (Subset.refl _) nofun
  case h_2 => exact .unchanged

theorem submit_effect (fingerprint : String) (replace : Bool) :
    OperationEffect ops (ops.submit command fingerprint replace) := by
  unfold submit
  split
  case h_1 stored hst =>
    have hheld : ops.Holds stored.operationId := .inl ⟨stored, hst, rfl⟩
    dsimp only
    split
    · exact .done .refl
    · split
      · exact .goesOn (keeps_update fun _ => rfl) rfl rfl hheld
      · exact .goesOn .refl rfl rfl hheld
  case h_2 hnone => exact .created hnone rfl

theorem afterMissing_effect {fingerprint : String} {replacing : Bool} {error : RequestError}
    (hheld : ops.Holds item.operationId) :
    OperationEffect ops (ops.afterMissing item fingerprint replacing error) := by
  have hnext : ∀ (mid : Operations) (next : Pending), Keeps ops mid →
      next.operationId = item.operationId →
      OperationEffect ops (if samePendingVersion mid.storage next then
        { mid with call := .ready next true } else mid.done) := by
    intro mid next hkeeps hid
    split
    · exact .goesOn hkeeps rfl rfl (hid ▸ hheld)
    · exact .done hkeeps
  unfold afterMissing
  split
  · exact .done .refl
  · cases replacing
    · exact hnext ops item .refl rfl
    · exact hnext _ _ (keeps_update fun _ => rfl) rfl

/-- Only answers that settle a request make `submit` forget. -/
theorem not_unconfirmed_of_isRejected {retry : Bool} {error : RequestError}
    (h : isRejected command retry error) :
    (isUnconfirmedRequest error || error = .other) = false := by
  cases error with
  | api status message =>
    have hstat : status < 500 ∧ status ≠ 408 := by
      simp only [isRejected, isWorkspacePreservationPending, isDefiniteSubmissionRejection] at h
      split at h <;> simp at h <;> omega
    simp only [isUnconfirmedRequest, bool_rules]
    exact ⟨⟨hstat.2, by omega⟩, nofun⟩
  | transport | other => cases command <;> cases retry <;> cases h

theorem afterError_effect {retry : Bool} {error : RequestError} (hheld : ops.Holds item.operationId)
    (hforget : (isUnconfirmedRequest error || error = .other) = false → ops.MayForget item) :
    OperationEffect ops (ops.afterError command item retry error) := by
  have hlookup : OperationEffect ops { ops with call := .lastLookup item } :=
    .goesOn .refl rfl rfl hheld
  unfold afterError
  split
  · exact hlookup
  · dsimp only
    by_cases hcond : (isRejected command retry error &&
        samePendingVersion ops.storage item && ops.storage.all (·.receipt = none)) = true
    · have hrejected := not_unconfirmed_of_isRejected (Bool.and_eq_true_iff.mp
        (Bool.and_eq_true_iff.mp hcond).1).1
      rw [if_pos hcond, (Bool.or_eq_false_iff.mp hrejected).1, Bool.and_false,
        if_neg Bool.false_ne_true]
      exact complete_effect (hforget hrejected)
    · rw [if_neg hcond]
      split
      · exact hlookup
      · exact .done .refl

theorem step_effect : OperationEffect ops (ops.step command event) := by
  have hheld : ∀ item, ops.call.item? = some item → ops.Holds item.operationId :=
    fun item h => .inr ⟨item, h, rfl⟩
  cases event with
  | submit fingerprint replace =>
    simp only [step]
    split
    · exact submit_effect fingerprint replace
    · exact .unchanged
  | recover =>
    simp only [step]
    split
    case h_1 item _ hst => exact .goesOn .refl rfl rfl (.inl ⟨item, hst, rfl⟩)
    case h_2 => exact .unchanged
  | found =>
    have hstore : ∀ item receipt, OperationEffect ops (ops.storeFound command item receipt).done := by
      intro item receipt
      unfold storeFound
      split
      · exact .done (keeps_update fun _ => rfl)
      · exact .done .refl
    simp only [step]
    split
    case h_3 => exact .unchanged
    all_goals
      split
      · exact hstore _ _
      · exact .unchanged
  | lookupFailed error =>
    simp only [step]
    split
    case h_1 hcall => exact afterMissing_effect (hheld _ (by rw [hcall]; rfl))
    case h_2 => exact .done .refl
    case h_3 => exact .unchanged
  | dispatch =>
    simp only [step]
    split
    · exact .sent ‹_›
    · exact .unchanged
  | stopDispatch =>
    simp only [step, stopDispatch]
    split
    case h_1 retry hcall =>
      cases retry
      · split
        · exact complete_effect (.inl hcall)
        · exact .done .refl
      · exact .done .refl
    case h_2 => exact .unchanged
  | stop =>
    simp only [step, stop]
    split
    case h_1 retry hcall =>
      cases retry
      · exact complete_effect (.inl hcall)
      · exact .unchanged
    case h_2 => exact .unchanged
  | receive =>
    simp only [step, afterPost]
    split
    case h_1 retry index hcall =>
      split
      case h_1 =>
        split
        · exact .done (keeps_update fun _ => rfl)
        · exact .done .refl
      case h_2 error hans =>
        obtain ⟨request, hreq, hrejected⟩ := Option.bind_eq_some_iff.mp hans
        exact afterError_effect (hheld _ (by rw [hcall]; rfl)) fun _ =>
          .inr ⟨retry, index, request, hcall, hreq, error, hrejected⟩
      case h_3 => exact .unchanged
    case h_2 => exact .unchanged
  | lost error =>
    simp only [step]
    split
    case h_1 hcall =>
      split
      case isTrue hlost =>
        refine afterError_effect (hheld _ (by rw [hcall]; rfl)) fun hsettled => ?_
        cases hsettled.symm.trans hlost
      case isFalse => exact .unchanged
    case h_2 => exact .unchanged
  | serve index verdict => exact serve_effect index verdict
  | consume =>
    simp only [step]
    split
    case isTrue h =>
      obtain ⟨stored, hst, hreceipt⟩ :=
        (Option.any_eq_true _ _).mp (Bool.and_eq_true_iff.mp h).2
      have hkeeps : Keeps ops { ops with storage := none } := by
        refine ⟨rfl, rfl, rfl, nofun, ?_⟩
        intro _ item hitem
        cases hst.symm.trans hitem
        exact Option.isSome_iff_ne_none.mp hreceipt
      exact .done hkeeps
    case isFalse => exact .unchanged
  | reload => exact .done .refl

/-! ### The invariant -/

/-- Requests carry issued identities, the accepted ones are those with a receipt as an answer, and a
    new identity has no request before its dispatch. -/
structure OperationInv (ops : Operations) : Prop where
  issued : ∀ request ∈ ops.requests, request.operationId < ops.nextId
  held : ∀ id, ops.Holds id → id < ops.nextId
  /-- A new identity has no request before its dispatch. -/
  fresh : ∀ item, ops.call = .ready item false →
    ∀ request ∈ ops.requests, request.operationId ≠ item.operationId
  own : ∀ item retry index, ops.call = .posting item retry index →
    ∃ request, ops.requests[index]? = some request ∧ request.operationId = item.operationId
  receipts : ∀ item ∈ ops.accepted, ∃ request ∈ ops.requests,
    request.operationId = item.operationId ∧ ∃ item, request.answer = some (.receipt item)
  answered : ∀ request ∈ ops.requests, ∀ item, request.answer = some (.receipt item) →
    ops.Accepted request.operationId

theorem inv_step (h : OperationInv ops) : OperationInv (ops.step command event) := by
  have heff : OperationEffect ops (ops.step command event) := step_effect
  generalize ops.step command event = after at heff ⊢
  obtain ⟨hissued, hheld, hfr, hown, hreceipts, hanswered⟩ := h
  cases heff with
  | unchanged => exact ⟨hissued, hheld, hfr, hown, hreceipts, hanswered⟩
  | @settled after call hkeeps hwaits hcall =>
    obtain ⟨hrequests, hacc, hnext, hstorage, -⟩ := hkeeps
    refine ⟨by grind, by grind [Operations.Holds], ?_, ?_, by grind,
      by grind [Operations.Accepted]⟩
    · rintro item rfl
      cases hwaits
    · rintro item retry index rfl
      cases hwaits
  | forgot =>
    exact ⟨hissued, by grind [Operations.Holds, Call.item?], nofun, nofun, hreceipts, hanswered⟩
  | created hnone hid =>
    exact ⟨by grind, by grind [Operations.Holds, Call.item?], by grind, nofun, hreceipts,
      hanswered⟩
  | sent hcall =>
    have hnew : ops.Holds _ := .inr ⟨_, by rw [hcall]; rfl, rfl⟩
    refine ⟨by grind [dispatch], ?_, nofun, ?_, by grind [dispatch],
      by grind [dispatch, Operations.Accepted]⟩
    · rintro id (hst | ⟨_, ⟨⟩, rfl⟩)
      · exact hheld id (.inl hst)
      · exact hheld _ hnew
    · rintro _ _ _ ⟨⟩
      exact ⟨_, getElem?_concat_length, rfl⟩
  | @served index request answer _ hreq hopen hacc hkept hans =>
    refine ⟨by grind, hheld, by grind, by grind, ?_, by grind [Operations.Accepted]⟩
    intro item hitem
    obtain ⟨hidx, -⟩ := List.getElem?_eq_some_iff.mp hreq
    rcases hacc item hitem with hold | ⟨hid, receipt, rfl⟩
    · -- an answered request is another one
      obtain ⟨r, hr, hr'⟩ := hreceipts item hold
      obtain ⟨position, hpos⟩ := mem_iff_getElem?.mp hr
      have hne : index ≠ position := by grind
      rw [← getElem?_set_ne hne] at hpos
      exact ⟨r, mem_of_getElem? hpos, hr'⟩
    · exact ⟨_, mem_set hidx _, hid.symm, receipt, rfl⟩

theorem inv_run (events : List OperationEvent) : OperationInv (run command events) := by
  induction events using List.reverseRecOn with
  | nil =>
    refine ⟨nofun, ?_, nofun, nofun, nofun, nofun⟩
    rintro id (⟨_, ⟨⟩, -⟩ | ⟨_, ⟨⟩, -⟩)
  | append_singleton events event ih =>
    unfold run at ih ⊢
    rw [foldl_concat]
    exact inv_step ih

/-! ### Forgotten identities -/

theorem forgets_cases (h : Forgets ops (ops.step command event) id) :
    ops.step command event = { ops with storage := none, call := .idle } ∧
      ∃ item, ops.MayForget item ∧ item.operationId = id := by
  obtain ⟨⟨stored, hst, rfl, hreceipt⟩, hgone⟩ := h
  have heff : OperationEffect ops (ops.step command event) := step_effect
  generalize ops.step command event = after at heff hgone ⊢
  cases heff with
  | unchanged | sent | served => cases hst.symm.trans hgone
  | settled call hkeeps => exact absurd hreceipt (hkeeps.kept hgone stored hst)
  | @forgot item known hcall hkn hid =>
    cases hst.symm.trans hkn
    exact ⟨rfl, item, hcall, hid.symm⟩
  | created hnone => cases hgone

/-- An identity that the client does not hold and whose requests are all rejected is never
    accepted. -/
structure Dead (ops : Operations) (id : Nat) : Prop where
  issued : id < ops.nextId
  notHeld : ¬ ops.Holds id
  rejected : ∀ request ∈ ops.requests, request.operationId = id → request.Rejected

theorem Dead.not_accepted (h : Dead ops id) (hinv : OperationInv ops) : ¬ ops.Accepted id := by
  rintro ⟨item, hacc, rfl⟩
  obtain ⟨request, hm, hid, item, hitem⟩ := hinv.receipts item hacc
  obtain ⟨error, herror⟩ := h.rejected request hm hid
  cases hitem.symm.trans herror

theorem Dead.step (h : Dead ops id) : Dead (ops.step command event) id := by
  have heff : OperationEffect ops (ops.step command event) := step_effect
  generalize ops.step command event = after at heff ⊢
  obtain ⟨hissued, hheld, hrejected⟩ := h
  -- new identities are larger, and requests are sent only with identities that are held
  cases heff <;> constructor <;>
    grind [Operations.Holds, dispatch, Keeps, Call.item?, SentRequest.Rejected]

theorem run_events_concat (events : List OperationEvent) (event : OperationEvent) :
    run command (events ++ [event]) = (run command events).step command event :=
  foldl_concat ..

theorem dead_run {events : List OperationEvent} (h : Dead (run command events) id)
    (more : List OperationEvent) : Dead (run command (events ++ more)) id := by
  induction more using List.reverseRecOn with
  | nil => rwa [append_nil]
  | append_singleton more event ih =>
    rw [← append_assoc, run_events_concat]
    exact ih.step

theorem rejected_of_single (hinv : OperationInv ops) (hmay : ops.MayForget item)
    (hitem : item.operationId = id)
    (hsingle : (ops.requests.filter (·.operationId = id)).length ≤ 1) :
    ∀ request ∈ ops.requests, request.operationId = id → request.Rejected := by
  intro request hm hreq
  rcases hmay with hready | ⟨_, index, posted, hposting, hposted, hrejected⟩
  · exact absurd (hreq.trans hitem.symm) (hinv.fresh item hready request hm)
  · obtain ⟨own, hown, hownId⟩ := hinv.own _ _ _ hposting
    obtain rfl : own = posted := Option.mem_unique hown hposted
    have hfilter : ∀ r ∈ ops.requests, r.operationId = id →
        r ∈ ops.requests.filter (·.operationId = id) :=
      fun r hr h => mem_filter.mpr ⟨hr, decide_eq_true h⟩
    have hreq' := hfilter request hm hreq
    have hown' := hfilter own (mem_of_getElem? hown) (hownId.trans hitem)
    obtain ⟨only, honly⟩ := length_eq_one_iff.mp
      (Nat.le_antisymm hsingle (length_pos_of_mem hreq'))
    rw [honly, mem_singleton] at hreq' hown'
    rwa [hreq', ← hown']

/-- A request that was not rejected is accepted, or can still be. -/
theorem exists_accepted_of_not_rejected (hinv : OperationInv ops) {request : SentRequest}
    (hm : request ∈ ops.requests) (hrejected : ¬ request.Rejected) :
    ops.Accepted request.operationId ∨
      ∃ index verdict, (ops.serve index verdict).Accepted request.operationId := by
  obtain ⟨index, hreq⟩ := mem_iff_getElem?.mp hm
  obtain ⟨id, fingerprint, answer⟩ := request
  rcases answer with _ | (item | error)
  · cases hfind : ops.accepted.find? (·.operationId = id) with
    | some known => exact .inl (accepted_of_find? hfind)
    | none =>
      refine .inr ⟨index, .receipt ⟨id, .submitMessage, "session", none, none⟩, ?_⟩
      simp only [serve, hreq, hfind]
      exact ⟨_, mem_cons_self, rfl⟩
  · exact .inl (hinv.answered _ hm item rfl)
  · exact absurd ⟨error, rfl⟩ hrejected

/-- **Forgetting.** An identity that is forgotten without its receipt is never accepted if and
    only if every request that was sent with it had been rejected; this is so if at most one was
    sent. -/
theorem forgotten_never_accepted (command : Command) (events : List OperationEvent)
    (event : OperationEvent) (id : Nat) (hforgets : Forgets (run command events)
      (run command (events ++ [event])) id) :
    ((∀ more, ¬ (run command (events ++ event :: more)).Accepted id) ↔
      ∀ request ∈ (run command events).requests, request.operationId = id → request.Rejected) ∧
    (((run command events).requests.filter (·.operationId = id)).length ≤ 1 →
      ∀ more, ¬ (run command (events ++ event :: more)).Accepted id) := by
  have hinv : OperationInv (run command events) := inv_run events
  obtain ⟨stored, hst, hid, -⟩ := hforgets.1
  rw [run_events_concat] at hforgets
  obtain ⟨hlast, item, hmay, hitem⟩ := forgets_cases hforgets
  have hnever : (∀ request ∈ (run command events).requests, request.operationId = id →
      request.Rejected) → ∀ more, ¬ (run command (events ++ event :: more)).Accepted id := by
    intro hrejected more
    have hdead : Dead (run command (events ++ [event])) id := by
      rw [run_events_concat, hlast]
      refine ⟨hinv.held id (.inl ⟨stored, hst, hid⟩), ?_, hrejected⟩
      rintro (⟨_, ⟨⟩, -⟩ | ⟨_, ⟨⟩, -⟩)
    rw [← singleton_append, ← append_assoc]
    exact (dead_run hdead more).not_accepted (inv_run _)
  refine ⟨⟨?_, hnever⟩, fun hsingle => hnever (rejected_of_single hinv hmay hitem hsingle)⟩
  rintro hmore request hm rfl
  by_contra hrejected
  have haft : OperationInv ((run command events).step command event) := inv_step hinv
  rcases exists_accepted_of_not_rejected haft (hlast ▸ hm) hrejected with
    hacc | ⟨index, verdict, hacc⟩
  · exact hmore [] (by rwa [run_events_concat])
  · apply hmore [.serve index verdict]
    rw [← singleton_append, ← append_assoc, run_events_concat, run_events_concat]
    exact hacc

/-- The answer of a first request is lost, and it is rejected like the second one. -/
def limitedMessage : List OperationEvent :=
  [.submit "hello" false, .dispatch, .lost .transport,
    .lookupFailed (.api 404 "operation_not_found"),
    .submit "hello" false, .lookupFailed (.api 404 "operation_not_found"), .dispatch,
    .serve 0 (.rejected (.api 429 "rate_limited")),
    .serve 1 (.rejected (.api 409 "session_workspace_preservation_pending"))]

theorem limited_message_forgotten :
    Forgets (run .submitMessage limitedMessage)
        (run .submitMessage (limitedMessage ++ [.receive])) 0 ∧
      ((run .submitMessage limitedMessage).requests.map (·.operationId)) = [0, 0] ∧
      ∀ more, ¬ (run .submitMessage (limitedMessage ++ .receive :: more)).Accepted 0 := by
  have hforgets : Forgets (run .submitMessage limitedMessage)
      (run .submitMessage (limitedMessage ++ [.receive])) 0 :=
    ⟨⟨⟨0, "hello", false, none⟩, by decide +kernel, rfl, rfl⟩, by decide +kernel⟩
  have hreq : (run .submitMessage limitedMessage).requests =
      [⟨0, "hello", some (.rejected (.api 429 "rate_limited"))⟩,
        ⟨0, "hello", some (.rejected (.api 409 "session_workspace_preservation_pending"))⟩] := by
    decide +kernel
  refine ⟨hforgets, by rw [hreq]; rfl,
    (forgotten_never_accepted .submitMessage limitedMessage .receive 0 hforgets).1.mpr ?_⟩
  rw [hreq]
  simp [SentRequest.Rejected]

/-- The answer of a first request is lost while it is under way, and a second one is rejected
    because the workspace is being preserved. -/
def slowMessage : List OperationEvent :=
  [.submit "hello" false, .dispatch, .lost .transport,
    .lookupFailed (.api 404 "operation_not_found"),
    .submit "hello" false, .lookupFailed (.api 404 "operation_not_found"), .dispatch,
    .serve 1 (.rejected (.api 409 "session_workspace_preservation_pending"))]

def acceptance (id : Nat) (run : String) : Acceptance :=
  ⟨id, "hello", ⟨id, .submitMessage, "session", some run, some "turn"⟩⟩

/-- The identity is forgotten, the message is sent under a new one, and the server accepts
    both. -/
theorem slow_message_accepted_twice :
    Forgets (run .submitMessage slowMessage)
        (run .submitMessage (slowMessage ++ [.receive])) 0 ∧
      (run .submitMessage (slowMessage ++ [.receive, .submit "hello" false, .dispatch,
        .serve 2 (.receipt (acceptance 1 "second").receipt),
        .serve 0 (.receipt (acceptance 0 "first").receipt)])).accepted =
          [acceptance 0 "first", acceptance 1 "second"] :=
  ⟨⟨⟨⟨0, "hello", false, none⟩, by decide +kernel, rfl, rfl⟩, by decide +kernel⟩,
    by decide +kernel⟩

end Centaeris
