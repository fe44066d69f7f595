import Centaeris.Foundation.Loops
import Centaeris.Jobs.SupplementSteps

namespace Centaeris

open Foundation SupplementStore List Option

/-!
# Supplements are delivered in order and not lost

Leases change hands while messages are queued, claimed and acknowledged.  What a call can do to
a queue is `ViewStep`; here it is carried over whole runs.
-/

variable {store : SupplementStore} {sequence : Nat} {req : EnqueueTurnSupplementRequest}

section Views

variable {host : SupplementHost} {store : SupplementStore} {run : String}
  {view view' : QueueView} {call : SupplementCall}

/-! ### One call -/

variable {token owner : String} {limit : Nat}
  {entries entries' claimed : List DurableTurnSupplement}

theorem mem_claimEntries (hlim : limit ≠ 0)
    (h : claimEntries token owner limit entries = .ok (entries', claimed)) :
    (∀ entry ∈ entries', entry ∈ claimed ∨ entry ∈ entries) ∧
      ∀ entry ∈ claimed, ∃ pre ∈ entries, entry = pre.claimedBy token owner := by
  obtain ⟨front, back, rfl, rfl, rfl, -, -⟩ := claimEntries_spec hlim h
  constructor
  · intro entry hent
    rcases mem_append.mp hent with hfront | hback
    · obtain ⟨pre, hpre, rfl⟩ := mem_map.mp hfront
      by_cases htok : pre.claimToken = some token
      · rw [retag, if_pos htok]
        exact .inr (mem_append_left back hpre)
      · rw [retag, if_neg htok]
        exact .inl (mem_map_of_mem (mem_filter.mpr ⟨hpre, decide_eq_true htok⟩))
    · exact .inr (mem_append_right front hback)
  · intro entry hent
    obtain ⟨pre, hpre, rfl⟩ := mem_map.mp hent
    exact ⟨pre, mem_append_left back (mem_of_mem_filter hpre), rfl⟩

theorem keys_claimEntries (hlim : limit ≠ 0)
    (h : claimEntries token owner limit entries = .ok (entries', claimed)) :
    entries'.map (fun entry => (entry.supplementId, entry.sequence)) =
      entries.map fun entry => (entry.supplementId, entry.sequence) := by
  obtain ⟨front, back, rfl, rfl, -, -, -⟩ := claimEntries_spec hlim h
  rw [map_append, map_append, List.map_map]
  congr 1
  apply map_congr_left
  intro entry _
  show ((retag token owner entry).supplementId, (retag token owner entry).sequence) = _
  rw [retag]
  split <;> rfl

/-- Sequences grow along a queue, and every entry's id is known. -/
structure ViewSound (view : QueueView) : Prop where
  sorted : (view.entries.map (·.sequence)).Pairwise (· < ·)
  below : ∀ entry ∈ view.entries, entry.sequence < view.nextSequence
  known : ∀ entry ∈ view.entries, view.dedupe[entry.supplementId]? ≠ none

/-- Sequences are not given again, and ids are not forgotten. -/
theorem ViewStep.grows (hstep : ViewStep host store run view view' call) :
    view.nextSequence ≤ view'.nextSequence ∧
      ∀ id : String, view.dedupe[id]? ≠ none → view'.dedupe[id]? ≠ none := by
  cases hstep with
  | same | claimed | acknowledged | closed => exact ⟨le_rfl, fun id h => h⟩
  | @accepted req hrun hopen hnew haccepts =>
    refine ⟨Nat.le_succ _, ?_⟩
    intro id hkn
    show (view.dedupe.insert req.supplementId _)[id]? ≠ none
    rw [Table.getElem?_insert]
    split
    · exact some_ne_none _
    · exact hkn

/-- Where an entry of the queue after a call comes from. -/
theorem ViewStep.mem (hstep : ViewStep host store run view view' call)
    {entry : DurableTurnSupplement} (h : entry ∈ view'.entries) : entry ∈ view.entries ∨
    (∃ req, call = .enqueue req ∧ req.agentRunId = run ∧
      view.dedupe[req.supplementId]? = none ∧ AcceptsSupplement host store req ∧
      view.nextSequence < view'.nextSequence ∧ view'.dedupe[req.supplementId]? ≠ none ∧
      entry = ⟨req.supplementId, view.nextSequence, trim req.message, req.createdAtMs, none, none⟩) ∨
    ∃ req claimed, call = .claim req ∧ req.agentRunId = run ∧
      runLease store run = some req.leaseOwner ∧ HandsOutSupplements store req claimed ∧
      entry ∈ claimed ∧ ∃ pre ∈ view.entries,
        entry = pre.claimedBy req.claimToken req.leaseOwner := by
  cases hstep with
  | same => exact .inl h
  | @accepted req hrun hopen hnew haccepts =>
    rcases mem_append_last.mp h with hold | rfl
    · exact .inl hold
    · refine .inr (.inl ⟨req, rfl, hrun, hnew, haccepts, Nat.lt_succ_self _, ?_, rfl⟩)
      rw [QueueView.accept, Table.getElem?_insert, if_pos rfl]
      exact some_ne_none _
  | @claimed req entries claimed hrun hls hlim hhanded hclm =>
    obtain ⟨hleft, hhandedOut⟩ := mem_claimEntries hlim hclm
    rcases hleft entry h with hin | hold
    · exact .inr (.inr ⟨req, claimed, rfl, hrun, hls, hhanded, hin, hhandedOut entry hin⟩)
    · exact .inl hold
  | acknowledged => exact .inl (mem_of_mem_filter h)
  | closed => cases h

theorem ViewSound.step (h : ViewSound view) (hstep : ViewStep host store run view view' call) :
    ViewSound view' := by
  refine ⟨?_, ?_, ?_⟩
  · cases hstep with
    | same => exact h.sorted
    | accepted =>
      rw [QueueView.accept, map_append, map_singleton, pairwise_append]
      refine ⟨h.sorted, pairwise_singleton _ _, ?_⟩
      intro a ha b hb
      obtain ⟨entry, hent, rfl⟩ := mem_map.mp ha
      rw [mem_singleton.mp hb]
      exact h.below entry hent
    | @claimed req entries claimed hrun hls hlim hhanded hclm =>
      have hsequences : entries.map (·.sequence) = view.entries.map (·.sequence) := by
        have := congrArg (List.map Prod.snd) (keys_claimEntries hlim hclm)
        rw [List.map_map, List.map_map] at this
        exact this
      show (entries.map (·.sequence)).Pairwise (· < ·)
      rw [hsequences]
      exact h.sorted
    | acknowledged => exact h.sorted.sublist (filter_sublist.map _)
    | closed => exact List.Pairwise.nil
  · intro entry hent
    rcases hstep.mem hent with hold | ⟨_, -, -, -, -, hnext, -, rfl⟩ |
      ⟨_, _, -, -, -, -, -, pre, hpre, rfl⟩
    · exact lt_of_lt_of_le (h.below entry hold) hstep.grows.1
    · exact hnext
    · exact lt_of_lt_of_le (h.below pre hpre) hstep.grows.1
  · intro entry hent
    rcases hstep.mem hent with hold | ⟨_, -, -, -, -, -, hkn, rfl⟩ |
      ⟨_, _, -, -, -, -, -, pre, hpre, rfl⟩
    · exact hstep.grows.2 _ (h.known entry hold)
    · exact hkn
    · exact hstep.grows.2 _ (h.known pre hpre)

theorem ViewStep.stays_closed (hstep : ViewStep host store run view view' call)
    (hcl : view.accepting = false) : view'.accepting = false := by
  cases hstep with
  | same | acknowledged => exact hcl
  | accepted _ hopen _ _ =>
    rw [hcl] at hopen
    cases hopen
  | claimed =>
    show (_ && view.accepting) = false
    rw [hcl, Bool.and_false]
  | closed => rfl

/-- An id that is known and not queued does not come back. -/
theorem ViewStep.stays_gone (hstep : ViewStep host store run view view' call) {id : String}
    (hkn : view.dedupe[id]? ≠ none) (hgone : ∀ entry ∈ view.entries, entry.supplementId ≠ id) :
    ∀ entry ∈ view'.entries, entry.supplementId ≠ id := by
  intro entry hent
  rcases hstep.mem hent with hold | ⟨req, -, -, hnew, -, -, -, rfl⟩ |
    ⟨req, _, -, -, -, -, -, pre, hpre, rfl⟩
  · exact hgone entry hold
  · rintro rfl
    exact hkn hnew
  · exact hgone pre hpre

end Views

/-! ### Whole runs -/

/-- An earlier enqueue accepted a message of the run under this id and sequence. -/
def AcceptedBefore (host : SupplementHost) (calls : List SupplementCall) (run id : String)
    (sequence : Nat) : Prop :=
  ∃ front req back, calls = front ++ .enqueue req :: back ∧ req.agentRunId = run ∧
    req.supplementId = id ∧ AcceptsSupplement host (SupplementStore.after host front) req ∧
    (queueOf (SupplementStore.after host front) run).nextSequence = sequence

def HandedBefore (host : SupplementHost) (calls : List SupplementCall) (run : String)
    (req : ClaimTurnSupplementsRequest) (entry : DurableTurnSupplement) : Prop :=
  ∃ front back claimed, calls = front ++ .claim req :: back ∧ req.agentRunId = run ∧
    HandsOutSupplements (SupplementStore.after host front) req claimed ∧ entry ∈ claimed

section Runs

variable {host : SupplementHost} {calls : List SupplementCall} {run : String}

theorem queueOf_nil (host : SupplementHost) (run : String) :
    queueOf (after host []) run = ⟨true, [], 1, ∅⟩ := by
  show queueOf .empty run = _
  rw [queueOf, empty, Table.getElem?_empty]

theorem AcceptedBefore.concat {id : String} (call : SupplementCall)
    (h : AcceptedBefore host calls run id sequence) :
    AcceptedBefore host (calls ++ [call]) run id sequence := by
  obtain ⟨front, req, back, rfl, hrest⟩ := h
  exact ⟨front, req, back ++ [call], by simp, hrest⟩

variable {req : ClaimTurnSupplementsRequest} {entry : DurableTurnSupplement}

theorem HandedBefore.concat (call : SupplementCall) (h : HandedBefore host calls run req entry) :
    HandedBefore host (calls ++ [call]) run req entry := by
  obtain ⟨front, back, claimed, rfl, hrest⟩ := h
  exact ⟨front, back ++ [call], claimed, by simp, hrest⟩

theorem viewSound_after (host : SupplementHost) (calls : List SupplementCall) (run : String) :
    ViewSound (queueOf (after host calls) run) := by
  induction calls using List.reverseRecOn with
  | nil =>
    rw [queueOf_nil]
    exact ⟨List.Pairwise.nil, nofun, nofun⟩
  | append_singleton calls call ih =>
    rw [after_concat]
    exact ih.step (step_view host _ call run)

theorem view_invariant (P : QueueView → Prop) (front : List SupplementCall)
    (hfront : P (queueOf (after host front) run))
    (hstep : ∀ store view view' call, ViewStep host store run view view' call → P view → P view')
    (mid : List SupplementCall) : P (queueOf (after host (front ++ mid)) run) := by
  induction mid using List.reverseRecOn with
  | nil =>
    rw [append_nil]
    exact hfront
  | append_singleton mid call ih =>
    rw [← append_assoc, after_concat]
    exact hstep _ _ _ call (step_view host _ call run) ih

/-- Where the entries of a queue and their tags come from. -/
theorem accepted_of_mem (h : entry ∈ (queueOf (after host calls) run).entries) :
    AcceptedBefore host calls run entry.supplementId entry.sequence := by
  induction calls using List.reverseRecOn generalizing entry with
  | nil =>
    rw [queueOf_nil] at h
    cases h
  | append_singleton calls call ih =>
    rw [after_concat] at h
    rcases (step_view host (after host calls) call run).mem h with hold |
      ⟨req, rfl, hrun, -, haccepts, -, -, rfl⟩ | ⟨req, _, -, -, -, -, -, pre, hpre, rfl⟩
    · exact (ih hold).concat call
    · exact ⟨calls, req, [], rfl, hrun, rfl, haccepts, rfl⟩
    · exact (ih hpre).concat call

theorem tags_of_handsOut {claimed : List DurableTurnSupplement}
    (h : HandsOutSupplements store req claimed) :
    ∀ entry ∈ claimed, entry.claimToken = some req.claimToken ∧
      entry.claimLeaseOwner = some req.leaseOwner := by
  obtain ⟨store', hclm⟩ := h
  obtain ⟨-, hlim, -, entries, hents, -⟩ := claim_view hclm
  intro entry hent
  obtain ⟨pre, -, rfl⟩ := (mem_claimEntries hlim hents).2 entry hent
  exact ⟨rfl, rfl⟩

theorem handed_of_tagged (h : entry ∈ (queueOf (after host calls) run).entries)
    (htagged : entry.claimToken ≠ none ∨ entry.claimLeaseOwner ≠ none) :
    ∃ req, HandedBefore host calls run req entry := by
  induction calls using List.reverseRecOn generalizing entry with
  | nil =>
    obtain ⟨front, req, back, hcalls, -⟩ := accepted_of_mem h
    cases front <;> cases hcalls
  | append_singleton calls call ih =>
    rw [after_concat] at h
    rcases (step_view host (after host calls) call run).mem h with hold |
      ⟨req, -, -, -, -, -, -, rfl⟩ | ⟨req, claimed, rfl, hrun, -, hhanded, hin, -⟩
    · obtain ⟨req, hpre⟩ := ih hold htagged
      exact ⟨req, hpre.concat call⟩
    · -- a new entry has no tag
      exact absurd htagged (by simp)
    · exact ⟨req, calls, [], claimed, rfl, hrun, hhanded, hin⟩

theorem HandedBefore.tags (h : HandedBefore host calls run req entry) :
    entry.claimToken = some req.claimToken ∧ entry.claimLeaseOwner = some req.leaseOwner := by
  obtain ⟨front, back, claimed, -, -, hhanded, hin⟩ := h
  exact tags_of_handsOut hhanded entry hin

end Runs

/-! ### Accepting -/

section Accepting

variable {host : SupplementHost} {run : String}

/-- An accepted message is new, and is queued under the next sequence. -/
theorem accepts_view (h : AcceptsSupplement host store req) :
    (queueOf store req.agentRunId).accepting = true ∧
      (queueOf store req.agentRunId).dedupe[req.supplementId]? = none ∧
      queueOf (store.step host (.enqueue req)) req.agentRunId =
        (queueOf store req.agentRunId).accept host req := by
  rw [AcceptsSupplement] at h
  cases henqueue : enqueueTurnSupplement host.digest store req with
  | error failure =>
    rw [henqueue] at h
    cases h
  | ok answer =>
    rw [henqueue] at h
    have hacc : answer.2.disposition = .accepted := Except.ok.inj h
    have hstep : store.step host (.enqueue req) = answer.1 := by
      rw [step, perform, henqueue]
      rfl
    rcases enqueue_view henqueue with ⟨hduplicate, -⟩ | ⟨-, hopen, hnew, -, -, hqueues⟩
    · -- a duplicate is answered as one
      rw [hacc] at hduplicate
      cases hduplicate
    · rw [hstep, hqueues, if_pos rfl]
      exact ⟨hopen, hnew, rfl⟩

variable {front : List SupplementCall}

/-- Its sequence is not given again, and its id stays known. -/
theorem known_of_accepts
    (mid : List SupplementCall) (h : AcceptsSupplement host (after host front) req) :
    (queueOf (after host front) req.agentRunId).nextSequence <
        (queueOf (after host (front ++ .enqueue req :: mid)) req.agentRunId).nextSequence ∧
      (queueOf (after host (front ++ .enqueue req :: mid))
        req.agentRunId).dedupe[req.supplementId]? ≠ none := by
  obtain ⟨-, -, hqueued⟩ := accepts_view h
  rw [← after_concat] at hqueued
  rw [append_cons]
  apply view_invariant (fun view =>
    (queueOf (after host front) req.agentRunId).nextSequence < view.nextSequence ∧
      view.dedupe[req.supplementId]? ≠ none)
  · rw [hqueued, QueueView.accept, Table.getElem?_insert, if_pos rfl]
    exact ⟨Nat.lt_succ_self _, some_ne_none _⟩
  · rintro store view view' call hstep ⟨hbelow, hin⟩
    obtain ⟨hgrows, hkept⟩ := hstep.grows
    exact ⟨lt_of_lt_of_le hbelow hgrows, hkept _ hin⟩

theorem accepts_nothing {calls more : List SupplementCall}
    (hcl : (queueOf (after host calls) req.agentRunId).accepting = false) :
    ¬ AcceptsSupplement host (after host (calls ++ more)) req := by
  intro haccepts
  have hstill := view_invariant (fun view => view.accepting = false) calls hcl
    (fun _ _ _ _ hstep => hstep.stays_closed) more
  rw [(accepts_view haccepts).1] at hstill
  cases hstill

end Accepting

/-! ### Handing out -/

/-- A claim token is used by one lease owner only. -/
def OneOwner (calls : List SupplementCall) : Prop :=
  ∀ req req', .claim req ∈ calls → .claim req' ∈ calls → req.claimToken = req'.claimToken →
    req.leaseOwner = req'.leaseOwner

/-- What a worker was given stays marked as its own while it holds the job. -/
def TaggedUpTo (owner : String) (sequence : Nat) (view : QueueView) : Prop :=
  sequence < view.nextSequence ∧
    ∀ entry ∈ view.entries, entry.sequence ≤ sequence → entry.claimLeaseOwner = some owner

section Handing

variable {host : SupplementHost} {run owner : String}

variable {view : QueueView}

/-- While a worker holds the job, what it was given stays marked. -/
theorem TaggedUpTo.step {view' : QueueView} {call : SupplementCall}
    (h : TaggedUpTo owner sequence view) (hls : runLease store run = some owner)
    (hstep : ViewStep host store run view view' call) : TaggedUpTo owner sequence view' := by
  obtain ⟨hbelow, htagged⟩ := h
  refine ⟨lt_of_lt_of_le hbelow hstep.grows.1, ?_⟩
  intro entry hent hle
  rcases hstep.mem hent with hold | ⟨req, _, -, -, -, -, -, -, rfl⟩ |
    ⟨req, _, -, -, hls', -, -, pre, -, rfl⟩
  · exact htagged entry hold hle
  · -- the new entry has a larger sequence
    exact absurd (lt_of_lt_of_le hbelow hle) (lt_irrefl _)
  · rw [hls'] at hls
    exact hls

theorem sequence_lt_of_append {front back : List DurableTurnSupplement} (hsnd : ViewSound view)
    (hsp : view.entries = front ++ back) :
    ∀ a ∈ front, ∀ b ∈ back, a.sequence < b.sequence := by
  have hsort := hsnd.sorted
  rw [hsp, map_append, pairwise_append] at hsort
  intro a ha b hb
  exact hsort.2.2 _ (mem_map_of_mem ha) _ (mem_map_of_mem hb)

variable {calls : List SupplementCall} {req : ClaimTurnSupplementsRequest}
  {claimed : List DurableTurnSupplement}

theorem handed_of_token (hone : OneOwner (calls ++ [.claim req])) {entry : DurableTurnSupplement}
    (hent : entry ∈ (queueOf (after host calls) run).entries)
    (htok : entry.claimToken = some req.claimToken) :
    ∃ req', HandedBefore host calls run req' entry ∧ req'.leaseOwner = req.leaseOwner := by
  obtain ⟨req', hhanded⟩ := handed_of_tagged hent
    (.inl (by rw [htok]; exact some_ne_none _))
  refine ⟨req', hhanded, ?_⟩
  have hsame : req'.claimToken = req.claimToken := by
    have := hhanded.tags.1
    rw [htok] at this
    exact (Option.some.inj this).symm
  obtain ⟨front, back, _, hsp, -⟩ := hhanded
  apply hone req' req _ _ hsame
  · rw [hsp]
    simp
  · simp

theorem handsOut_sorted (h : HandsOutSupplements (after host calls) req claimed) :
    (claimed.map (·.sequence)).Pairwise (· < ·) := by
  obtain ⟨store', hclm⟩ := h
  obtain ⟨-, hlim, -, entries, hents, -⟩ := claim_view hclm
  obtain ⟨front, back, hsp, -, rfl, -, -⟩ := claimEntries_spec hlim hents
  have hsort := (viewSound_after host calls req.agentRunId).sorted
  rw [hsp, map_append, pairwise_append] at hsort
  rw [List.map_map]
  exact hsort.1.sublist (filter_sublist.map _)

theorem handsOut_all (hone : OneOwner (calls ++ [.claim req]))
    (h : HandsOutSupplements (after host calls) req claimed) {entry : DurableTurnSupplement}
    (hent : entry ∈ (queueOf (after host calls) req.agentRunId).entries) :
    (∃ req', HandedBefore host calls req.agentRunId req' entry ∧
        req'.leaseOwner = req.leaseOwner) ∨
      entry.claimedBy req.claimToken req.leaseOwner ∈ claimed ∨
      (claimed.length = req.limit ∧ ∀ given ∈ claimed, given.sequence < entry.sequence) := by
  obtain ⟨store', hclm⟩ := h
  obtain ⟨-, hlim, -, entries, hents, -⟩ := claim_view hclm
  obtain ⟨front, back, hsp, -, hclaimed, -, hend⟩ := claimEntries_spec hlim hents
  have hin := hent
  rw [hsp] at hin
  rcases mem_append.mp hin with hfront | hback
  · by_cases htok : entry.claimToken = some req.claimToken
    · exact .inl (handed_of_token hone hent htok)
    · refine .inr (.inl ?_)
      rw [hclaimed]
      exact mem_map_of_mem (mem_filter.mpr ⟨hfront, decide_eq_true htok⟩)
  · -- the loop stopped before this entry
    have hfull : claimed.length = req.limit := by
      refine hend.resolve_left ?_
      rintro rfl
      cases hback
    refine .inr (.inr ⟨hfull, ?_⟩)
    intro given hgiven
    rw [hclaimed] at hgiven
    obtain ⟨pre, hpre, rfl⟩ := mem_map.mp hgiven
    exact sequence_lt_of_append (viewSound_after host calls req.agentRunId) hsp pre
      (mem_of_mem_filter hpre) entry hback

theorem taggedUpTo_of_handsOut (hone : OneOwner (calls ++ [.claim req]))
    (h : HandsOutSupplements (after host calls) req claimed)
    {given : DurableTurnSupplement} (hgiven : given ∈ claimed) :
    TaggedUpTo req.leaseOwner given.sequence
      (queueOf (after host (calls ++ [.claim req])) req.agentRunId) := by
  have hsnd := viewSound_after host calls req.agentRunId
  obtain ⟨store', hclm⟩ := h
  obtain ⟨-, hlim, -, entries, hents, hqueues⟩ := claim_view hclm
  have haft : after host (calls ++ [.claim req]) = store' := by
    rw [after_concat, step, perform, hclm]
    rfl
  rw [haft, hqueues, if_pos rfl]
  obtain ⟨front, back, hsp, rfl, rfl, -, -⟩ := claimEntries_spec hlim hents
  obtain ⟨pre, hpre, rfl⟩ := mem_map.mp hgiven
  have hfront : pre ∈ front := mem_of_mem_filter hpre
  have hwhole : ∀ entry ∈ front ++ back,
      entry ∈ (queueOf (after host calls) req.agentRunId).entries := by
    rw [hsp]
    exact fun entry hent => hent
  refine ⟨hsnd.below pre (hwhole pre (mem_append_left back hfront)), ?_⟩
  intro entry hent hle
  rcases mem_append.mp hent with hmarked | hback
  · obtain ⟨old, hold, rfl⟩ := mem_map.mp hmarked
    by_cases htok : old.claimToken = some req.claimToken
    · rw [retag, if_pos htok]
      obtain ⟨req', hhanded, hown⟩ :=
        handed_of_token hone (hwhole old (mem_append_left back hold)) htok
      rw [hhanded.tags.2, hown]
    · rw [retag, if_neg htok]
      rfl
  · -- what the loop did not reach comes later
    have hlat := sequence_lt_of_append hsnd hsp pre hfront entry hback
    exact absurd (lt_of_lt_of_le hlat hle) (lt_irrefl _)

theorem handsOut_fresh (h : HandsOutSupplements (after host calls) req claimed)
    (htagged : TaggedUpTo req.leaseOwner sequence
      (queueOf (after host calls) req.agentRunId)) :
    ∀ entry ∈ claimed, sequence < entry.sequence := by
  obtain ⟨store', hclm⟩ := h
  obtain ⟨-, hlim, -, entries, hents, -⟩ := claim_view hclm
  obtain ⟨front, back, hsp, -, rfl, hfr, -⟩ := claimEntries_spec hlim hents
  intro entry hent
  obtain ⟨pre, hpre, rfl⟩ := mem_map.mp hent
  obtain ⟨hfront, htok⟩ := mem_filter.mp hpre
  show sequence < pre.sequence
  by_contra hnot
  apply hfr pre hfront (of_decide_eq_true htok)
  apply htagged.2 pre
  · rw [hsp]
    exact mem_append_left back hfront
  · exact not_lt.mp hnot

theorem handsOut_in_order {front mid : List SupplementCall}
    {req₀ : ClaimTurnSupplementsRequest} {claimed₀ : List DurableTurnSupplement}
    (hone : OneOwner (front ++ .claim req₀ :: mid ++ [.claim req]))
    (hrun : req₀.agentRunId = req.agentRunId) (hown : req₀.leaseOwner = req.leaseOwner)
    (h₀ : HandsOutSupplements (after host front) req₀ claimed₀)
    (h : HandsOutSupplements (after host (front ++ .claim req₀ :: mid)) req
      claimed) :
    ∀ entry₀ ∈ claimed₀, ∀ entry ∈ claimed, entry₀.sequence < entry.sequence := by
  intro entry₀ hent₀
  -- the worker held the job at both claims, and so at every moment between
  have hpre : leaseOf (after host front).jobs (runJobId req.agentRunId) =
      some req.leaseOwner := by
    obtain ⟨_, hclm⟩ := h₀
    rw [← hrun, ← hown]
    exact (claim_view hclm).1
  have haft : leaseOf (after host (front ++ .claim req₀ :: mid)).jobs
      (runJobId req.agentRunId) = some req.leaseOwner := by
    obtain ⟨_, hclm⟩ := h
    exact (claim_view hclm).1
  have hone₀ : OneOwner (front ++ [.claim req₀]) := by
    intro r r' hr hr'
    apply hone r r'
    · simp only [mem_append, mem_cons] at hr ⊢
      tauto
    · simp only [mem_append, mem_cons] at hr' ⊢
      tauto
  have htagged := taggedUpTo_of_handsOut hone₀ h₀ hent₀
  rw [hrun, hown] at htagged
  have hkept : ∀ mid' back, mid = mid' ++ back → TaggedUpTo req.leaseOwner entry₀.sequence
      (queueOf (after host (front ++ .claim req₀ :: mid')) req.agentRunId) := by
    intro mid'
    induction mid' using List.reverseRecOn with
    | nil => exact fun _ _ => htagged
    | append_singleton mid' call ih =>
      intro back hsp
      have hheld : runLease (after host (front ++ .claim req₀ :: mid'))
          req.agentRunId = some req.leaseOwner := by
        have hwhole : front ++ .claim req₀ :: mid' ++ call :: back =
            front ++ .claim req₀ :: mid := by
          rw [hsp]
          simp
        rw [← hwhole] at haft
        exact held_between hpre haft
      have hconcat : front ++ .claim req₀ :: (mid' ++ [call]) =
          (front ++ .claim req₀ :: mid') ++ [call] := by simp
      rw [hconcat, after_concat]
      exact (ih ([call] ++ back) (by rw [hsp]; simp)).step hheld (step_view host _ call _)
  exact handsOut_fresh h (hkept mid [] (by simp))

end Handing

/-! ### Leaving the queue -/

section Leaving

variable {host : SupplementHost} {run : String}

theorem leaves_only {call : SupplementCall}
    {entry : DurableTurnSupplement} (hent : entry ∈ (queueOf store run).entries)
    (hgone : ∀ left ∈ (queueOf (store.step host call) run).entries,
      left.supplementId ≠ entry.supplementId) :
    (∃ req, call = .acknowledge req ∧ req.agentRunId = run ∧
        entry.supplementId ∈ req.supplementIds ∧ entry.claimToken = some req.claimToken ∧
        entry.claimLeaseOwner = some req.leaseOwner ∧
        runLease store run = some req.leaseOwner) ∨
      ∃ req, call = .close req ∧ req.agentRunId = run := by
  have hstep := step_view host store call run
  generalize queueOf (store.step host call) run = view' at hgone hstep
  cases hstep with
  | same => exact absurd rfl (hgone entry hent)
  | accepted => exact absurd rfl (hgone entry (mem_append_left _ hent))
  | @claimed req entries claimed hrun hls hlim hhanded hclm =>
    have hin : (entry.supplementId, entry.sequence) ∈
        entries.map fun entry => (entry.supplementId, entry.sequence) := by
      rw [keys_claimEntries hlim hclm]
      exact mem_map.mpr ⟨entry, hent, rfl⟩
    obtain ⟨left, hleft, hpair⟩ := mem_map.mp hin
    exact absurd (congrArg Prod.fst hpair) (hgone left hleft)
  | @acknowledged req hrun hls htagged =>
    by_cases hin : entry.supplementId ∈ req.supplementIds
    · obtain ⟨htok, hown⟩ := htagged entry hent hin
      exact .inl ⟨req, rfl, hrun, hin, htok, hown, hls⟩
    · refine absurd rfl (hgone entry (mem_filter.mpr ⟨hent, ?_⟩))
      rw [Bool.not_eq_true', ← Bool.not_eq_true, contains_iff_mem]
      exact hin
  | closed hrun => exact .inr ⟨_, rfl, hrun⟩

/-- What was acknowledged is not handed out again. -/
theorem acknowledged_gone {front mid : List SupplementCall}
    {ack : AcknowledgeTurnSupplementsRequest} {store' : SupplementStore} {id : String}
    (hack : acknowledgeTurnSupplements (after host front) ack = .ok store')
    (hid : id ∈ ack.supplementIds)
    (hacc : AcceptedBefore host front ack.agentRunId id sequence) :
    ∀ entry ∈ (queueOf (after host (front ++ .acknowledge ack :: mid))
      ack.agentRunId).entries, entry.supplementId ≠ id := by
  obtain ⟨-, -, -, hqueues⟩ := acknowledge_view hack
  have hstep : after host (front ++ [.acknowledge ack]) = store' := by
    rw [after_concat, step, perform, hack]
  have hkn : (queueOf (after host front) ack.agentRunId).dedupe[id]? ≠
      none := by
    obtain ⟨front', req, back, rfl, hrun, rfl, haccepts, -⟩ := hacc
    rw [← hrun]
    exact (known_of_accepts back haccepts).2
  rw [append_cons]
  refine (view_invariant (fun view => view.dedupe[id]? ≠ none ∧
    ∀ entry ∈ view.entries, entry.supplementId ≠ id) (front ++ [.acknowledge ack]) ?_ ?_ mid).2
  · rw [hstep, hqueues, if_pos rfl]
    refine ⟨hkn, ?_⟩
    intro entry hent hsame
    have hkept := (mem_filter.mp hent).2
    rw [hsame, Bool.not_eq_true', ← Bool.not_eq_true, contains_iff_mem] at hkept
    exact hkept hid
  · rintro store view view' call hview ⟨hin, hgone⟩
    exact ⟨hview.grows.2 id hin, hview.stays_gone hin hgone⟩

theorem claim_closes_empty {req : ClaimTurnSupplementsRequest}
    (hopen : (queueOf store run).accepting = true)
    (hcl : (queueOf (store.step host (.claim req)) run).accepting = false) :
    (queueOf store run).entries = [] := by
  have hstep := step_view host store (.claim req) run
  generalize queueOf (store.step host (.claim req)) run = view' at hcl hstep
  cases hstep with
  | same =>
    rw [hopen] at hcl
    cases hcl
  | @claimed _ entries claimed hrun hls hlim hhanded hclm =>
    have hemp : entries = [] := by
      simp only [hopen, Bool.and_true, Bool.not_eq_false', Bool.and_eq_true,
        List.isEmpty_iff] at hcl
      exact hcl.2
    have hkeys := keys_claimEntries hlim hclm
    rw [hemp, map_nil] at hkeys
    exact map_eq_nil_iff.mp hkeys.symm

end Leaving

/-! ### Refusing a claim -/

section Refusing

/-- The failure of a claim that finds an entry which its owner has under another token. -/
def IsInProgress (failure : Failure) : Prop := failure = .err "turn_supplement_claim_in_progress"

instance (failure : Failure) : Decidable (IsInProgress failure) :=
  inferInstanceAs (Decidable (failure = _))

theorem claimEntries_avoids {token owner : String} (limit : Nat)
    {entries : List DurableTurnSupplement}
    (h : ∀ entry ∈ entries, entry.claimLeaseOwner ≠ some owner) :
    Outcome.Avoids IsInProgress (claimEntries token owner limit entries) := by
  induction entries generalizing limit with
  | nil => exact .pure _
  | cons entry rest ih =>
    have hrest : ∀ other ∈ rest, other.claimLeaseOwner ≠ some owner :=
      fun other hoth => h other (mem_cons_of_mem entry hoth)
    rw [claimEntries]
    split
    · exact .bind (ih limit hrest) fun _ _ => .pure _
    · rw [if_neg (h entry mem_cons_self)]
      split
      · exact .pure _
      · exact .bind (ih (limit - 1) hrest) fun _ _ => .pure _

theorem storeQueue_avoids {agentRunId failed : String} {queue : StoredQueue}
    (h : ¬ IsInProgress (.err (failed ++ ": out of range integral type conversion attempted"))) :
    Outcome.Avoids IsInProgress (storeQueue store agentRunId queue failed) :=
  .bind (.ensure fun _ => h) fun _ _ => .pure _

theorem validateClaimIdentity_avoids (req : ClaimTurnSupplementsRequest) :
    Outcome.Avoids IsInProgress (validateClaimIdentity req) := by
  refine .bind ?_ fun _ _ => .ensure fun _ => by decide
  refine .bind (.ensure fun _ => by decide) fun _ _ => ?_
  refine .bind ?_ fun _ _ => .ensure fun _ => by decide
  exact .bind (.ensure fun _ => by decide) fun _ _ => .pure _

theorem validateActiveJob_avoids (store : SupplementStore) (identity : RunIdentity)
    (lease : Option (String × Int)) (reject : Bool) :
    Outcome.Avoids IsInProgress (validateActiveJob store identity lease reject) := by
  refine .bind (.ensure fun _ => by decide) fun _ _ => ?_
  refine .bind (.orFail (by decide)) fun _ _ => ?_
  exact .bind (.ensure fun _ => by decide) fun _ _ => .ensure fun _ => by decide

theorem busy_of_refused {req : ClaimTurnSupplementsRequest}
    (h : claimTurnSupplements store req = fail "turn_supplement_claim_in_progress") :
    ∃ entry ∈ (queueOf store req.agentRunId).entries,
      entry.claimLeaseOwner = some req.leaseOwner := by
  by_contra hnone
  push Not at hnone
  have havoids : Outcome.Avoids IsInProgress (claimTurnSupplements store req) := by
    refine .bind (validateClaimIdentity_avoids req) fun _ _ => ?_
    refine .bind (validateActiveJob_avoids store _ _ _) fun _ _ => ?_
    cases hst : store.queues[req.agentRunId]? with
    | none =>
      show Outcome.Avoids IsInProgress (if req.closeIfEmpty then _ else _)
      split
      · refine .bind ?_ fun _ _ => .pure _
        exact .bind (.ensure fun _ => by decide) fun _ _ => storeQueue_avoids (by decide)
      · exact .pure _
    | some queue =>
      have hents : (queueOf store req.agentRunId).entries = queue.entries := by
        rw [queueOf, hst]
        rfl
      rw [hents] at hnone
      refine .bind (.ensure fun _ => by decide) fun _ _ => ?_
      refine .bind (claimEntries_avoids req.limit hnone) fun result _ => ?_
      show Outcome.Avoids IsInProgress (if _ then _ else _)
      split
      · exact .bind (storeQueue_avoids (by decide)) fun _ _ => .pure _
      · exact .pure _
  exact havoids _ h rfl

end Refusing

/-- **Supplements are delivered in order and not lost.**  In every run in which a claim token is
    used by one lease owner:
    an accepted message is queued, trimmed and under the next sequence; an id is accepted once,
    and sequences grow;
    what a claim hands out was accepted, is in order, and comes after all that its owner was
    handed before; whatever else is in the queue was handed to this owner before or comes later,
    and then the claim handed out as many as it may; and a claim is refused as in progress only
    for an entry that this owner was handed before;
    an acknowledged message is not handed out again;
    a message leaves the queue only by an acknowledgement under its token and owner, or by a
    close;
    and a claim closes an empty queue only, and a closed queue accepts nothing. -/
theorem supplements_delivered (host : SupplementHost) (calls : List SupplementCall)
    (hone : OneOwner calls) :
    (∀ (front : List SupplementCall) (req : EnqueueTurnSupplementRequest)
        (back : List SupplementCall), calls = front ++ .enqueue req :: back →
      AcceptsSupplement host (SupplementStore.after host front) req →
      (queueOf (SupplementStore.after host (front ++ [.enqueue req])) req.agentRunId).entries =
        (queueOf (SupplementStore.after host front) req.agentRunId).entries ++
          [⟨req.supplementId,
            (queueOf (SupplementStore.after host front) req.agentRunId).nextSequence,
            trim req.message, req.createdAtMs, none, none⟩]) ∧
    (∀ (front : List SupplementCall) (req : EnqueueTurnSupplementRequest)
        (mid : List SupplementCall) (req' : EnqueueTurnSupplementRequest)
        (back : List SupplementCall),
      calls = front ++ .enqueue req :: mid ++ .enqueue req' :: back →
      req'.agentRunId = req.agentRunId →
      AcceptsSupplement host (SupplementStore.after host front) req →
      AcceptsSupplement host (SupplementStore.after host (front ++ .enqueue req :: mid)) req' →
      req.supplementId ≠ req'.supplementId ∧
        (queueOf (SupplementStore.after host front) req.agentRunId).nextSequence <
          (queueOf (SupplementStore.after host (front ++ .enqueue req :: mid))
            req.agentRunId).nextSequence) ∧
    (∀ (front : List SupplementCall) (req : ClaimTurnSupplementsRequest)
        (back : List SupplementCall) (claimed : List DurableTurnSupplement),
      calls = front ++ .claim req :: back →
      HandsOutSupplements (SupplementStore.after host front) req claimed →
      (claimed.map (·.sequence)).Pairwise (· < ·) ∧
      (∀ entry ∈ claimed, AcceptedBefore host front req.agentRunId entry.supplementId
        entry.sequence) ∧
      (∀ req₀ entry₀, HandedBefore host front req.agentRunId req₀ entry₀ →
        req₀.leaseOwner = req.leaseOwner →
        ∀ entry ∈ claimed, entry₀.sequence < entry.sequence) ∧
      ∀ entry ∈ (queueOf (SupplementStore.after host front) req.agentRunId).entries,
        (∃ req₀, HandedBefore host front req.agentRunId req₀ entry ∧
          req₀.leaseOwner = req.leaseOwner) ∨
        entry.claimedBy req.claimToken req.leaseOwner ∈ claimed ∨
        (claimed.length = req.limit ∧ ∀ given ∈ claimed, given.sequence < entry.sequence)) ∧
    (∀ (front : List SupplementCall) (req : ClaimTurnSupplementsRequest)
        (back : List SupplementCall), calls = front ++ .claim req :: back →
      claimTurnSupplements (SupplementStore.after host front) req =
        fail "turn_supplement_claim_in_progress" →
      ∃ entry ∈ (queueOf (SupplementStore.after host front) req.agentRunId).entries,
        ∃ req₀, HandedBefore host front req.agentRunId req₀ entry ∧
          req₀.leaseOwner = req.leaseOwner) ∧
    (∀ (front : List SupplementCall) (ack : AcknowledgeTurnSupplementsRequest)
        (store' : SupplementStore) (mid : List SupplementCall) (req : ClaimTurnSupplementsRequest)
        (claimed : List DurableTurnSupplement) (id : String) (sequence : Nat)
        (back : List SupplementCall),
      calls = front ++ .acknowledge ack :: mid ++ .claim req :: back →
      req.agentRunId = ack.agentRunId →
      acknowledgeTurnSupplements (SupplementStore.after host front) ack = .ok store' →
      id ∈ ack.supplementIds → AcceptedBefore host front ack.agentRunId id sequence →
      HandsOutSupplements (SupplementStore.after host (front ++ .acknowledge ack :: mid)) req
        claimed →
      ∀ entry ∈ claimed, entry.supplementId ≠ id) ∧
    (∀ (front : List SupplementCall) (call : SupplementCall) (back : List SupplementCall)
        (run : String) (entry : DurableTurnSupplement), calls = front ++ call :: back →
      entry ∈ (queueOf (SupplementStore.after host front) run).entries →
      (∀ left ∈ (queueOf (SupplementStore.after host (front ++ [call])) run).entries,
        left.supplementId ≠ entry.supplementId) →
      (∃ req, call = .acknowledge req ∧ req.agentRunId = run ∧
        entry.supplementId ∈ req.supplementIds ∧ entry.claimToken = some req.claimToken ∧
        entry.claimLeaseOwner = some req.leaseOwner ∧
        runLease (SupplementStore.after host front) run = some req.leaseOwner) ∨
      ∃ req, call = .close req ∧ req.agentRunId = run) ∧
    (∀ (front : List SupplementCall) (req : ClaimTurnSupplementsRequest)
        (back : List SupplementCall) (run : String), calls = front ++ .claim req :: back →
      (queueOf (SupplementStore.after host front) run).accepting = true →
      (queueOf (SupplementStore.after host (front ++ [.claim req])) run).accepting = false →
      (queueOf (SupplementStore.after host front) run).entries = []) ∧
    ∀ (front mid : List SupplementCall) (req : EnqueueTurnSupplementRequest)
        (back : List SupplementCall), calls = front ++ mid ++ .enqueue req :: back →
      (queueOf (SupplementStore.after host front) req.agentRunId).accepting = false →
      ¬ AcceptsSupplement host (SupplementStore.after host (front ++ mid)) req := by
  -- a part of the run uses tokens as the whole run does
  have hpart : ∀ front call back, calls = front ++ call :: back → OneOwner (front ++ [call]) := by
    intro front call back hsp req req' hreq hreq'
    apply hone req req'
    · rw [hsp, append_cons]
      exact mem_append_left back hreq
    · rw [hsp, append_cons]
      exact mem_append_left back hreq'
  refine ⟨?_, ?_, ?_, ?_, ?_, ?_, ?_, ?_⟩
  · intro front req back _ h
    obtain ⟨-, -, hqueued⟩ := accepts_view h
    rw [after_concat, hqueued]
    rfl
  · intro front req mid req' back _ hrun h h'
    obtain ⟨hbelow, hkn⟩ := known_of_accepts mid h
    obtain ⟨-, hnew, -⟩ := accepts_view h'
    rw [hrun] at hnew
    refine ⟨fun hid => ?_, hbelow⟩
    rw [hid] at hkn
    exact hkn hnew
  · intro front req back claimed hsp h
    refine ⟨handsOut_sorted h, ?_, ?_, ?_⟩
    · intro entry hent
      obtain ⟨_, hclm⟩ := h
      obtain ⟨-, hlim, -, entries, hents, -⟩ := claim_view hclm
      obtain ⟨pre, hpre, rfl⟩ := (mem_claimEntries hlim hents).2 entry hent
      have hacc := accepted_of_mem hpre
      exact hacc
    · rintro req₀ entry₀ ⟨front₀, mid, claimed₀, rfl, hrun, h₀, hent₀⟩ hown
      exact handsOut_in_order (hpart _ _ back hsp) hrun hown h₀ h entry₀ hent₀
    · intro entry hent
      exact handsOut_all (hpart _ _ back hsp) h hent
  · intro front req back hsp h
    obtain ⟨entry, hent, hown⟩ := busy_of_refused h
    obtain ⟨req₀, hhanded⟩ := handed_of_tagged hent
      (.inr (by rw [hown]; exact some_ne_none _))
    have hsame := hhanded.tags.2
    rw [hown] at hsame
    exact ⟨entry, hent, req₀, hhanded, (Option.some.inj hsame).symm⟩
  · intro front ack store' mid req claimed id sequence back _ hrun hack hid hacc h entry hent
    obtain ⟨_, hclm⟩ := h
    obtain ⟨-, hlim, -, entries, hents, -⟩ := claim_view hclm
    obtain ⟨pre, hpre, rfl⟩ := (mem_claimEntries hlim hents).2 entry hent
    rw [hrun] at hpre
    exact acknowledged_gone hack hid hacc pre hpre
  · intro front call back run entry _ hent hgone
    rw [after_concat] at hgone
    exact leaves_only hent hgone
  · intro front req back run _ hopen hcl
    rw [after_concat] at hcl
    exact claim_closes_empty hopen hcl
  · intro front mid req back _ hcl
    exact accepts_nothing hcl

def supplementHostSample : SupplementHost := ⟨countingTokens, id⟩

def runIdentitySample : RunIdentity := ⟨"r", "agent_run.lifecycle:r", "s", "d"⟩

/-- A worker takes a run. -/
def takenSample : List SupplementCall :=
  [.job (.schedule ⟨"agent_run.lifecycle:r", "agent_run.lifecycle", "agent_run.lifecycle:r:d",
      some "s", some "record:agent_run:r", 0, 0, [], none, 0, 0, none⟩),
    .job (.claim ⟨5, "w", none, none, none, 1, 10⟩), .job (.start ⟨"agent_run.lifecycle:r", "w:", 6⟩)]

def firstSample : EnqueueTurnSupplementRequest := ⟨runIdentitySample, "a", " more ", 6⟩
def secondSample : EnqueueTurnSupplementRequest := ⟨runIdentitySample, "b", "and more", 7⟩
def lateSample : EnqueueTurnSupplementRequest := ⟨runIdentitySample, "c", "late", 90009⟩

def secondClaimSample : ClaimTurnSupplementsRequest :=
  ⟨runIdentitySample, "v:a", "u", 90002, true, 8⟩

/-- The first message is given to this worker, and the lease is lost. -/
def lostSample : List SupplementCall :=
  takenSample ++ [.enqueue firstSample, .enqueue secondSample,
    .claim ⟨runIdentitySample, "w:", "t", 8, true, 1⟩, .job (.reclaim 20),
    .job (.claim ⟨90000, "v", none, none, none, 1, 10⟩),
    .job (.start ⟨"agent_run.lifecycle:r", "v:a", 90001⟩)]

/-- The next worker is given both messages and acknowledges them, and closes the queue. -/
def supplementSample : List SupplementCall :=
  lostSample ++ [.claim secondClaimSample,
    .acknowledge ⟨runIdentitySample, "v:a", "u", ["a", "b"], 90002⟩,
    .claim ⟨runIdentitySample, "v:a", "u", 90003, true, 8⟩]

theorem oneOwner_sample : OneOwner (supplementSample ++ [.enqueue lateSample]) := by
  intro req req' hreq hreq' htok
  simp only [supplementSample, lostSample, takenSample, cons_append, nil_append, mem_cons,
    reduceCtorEq, SupplementCall.claim.injEq, not_mem_nil, false_or, or_false] at hreq hreq'
  rcases hreq with rfl | rfl | rfl <;> rcases hreq' with rfl | rfl | rfl <;>
    first | rfl | exact absurd htok (by decide)

theorem supplements_delivered_sample :
    (queueOf (after supplementHostSample (takenSample ++ [.enqueue firstSample])) "r").entries =
        [⟨"a", 1, "more", 6, none, none⟩] ∧
      (∃ claimed, HandsOutSupplements (after supplementHostSample lostSample) secondClaimSample
          claimed ∧ claimed.map (·.supplementId) = ["a", "b"] ∧
        (claimed.map (·.sequence)).Pairwise (· < ·)) ∧
      (queueOf (after supplementHostSample supplementSample) "r").accepting = false ∧
      ¬ AcceptsSupplement supplementHostSample (after supplementHostSample supplementSample)
        lateSample := by
  obtain ⟨hqueued, -, hhanded, -, -, -, -, hnothing⟩ := supplements_delivered
    supplementHostSample (supplementSample ++ [.enqueue lateSample]) oneOwner_sample
  have hfst : AcceptsSupplement supplementHostSample (after supplementHostSample takenSample)
      firstSample := by
    unfold AcceptsSupplement
    decide +kernel
  have hclaimed : (claimTurnSupplements (after supplementHostSample lostSample)
      secondClaimSample).map (fun answer => answer.2.map (·.supplementId)) = .ok ["a", "b"] := by
    decide +kernel
  have hcl : (queueOf (after supplementHostSample supplementSample) "r").accepting = false := by
    decide +kernel
  refine ⟨?_, ?_, hcl, ?_⟩
  · exact hqueued takenSample firstSample _ rfl hfst
  · cases hclm : claimTurnSupplements (after supplementHostSample lostSample)
      secondClaimSample with
    | error failure =>
      rw [hclm] at hclaimed
      cases hclaimed
    | ok answer =>
      rw [hclm] at hclaimed
      obtain ⟨hsort, -⟩ := hhanded lostSample secondClaimSample _ answer.2 rfl ⟨_, hclm⟩
      exact ⟨answer.2, ⟨_, hclm⟩, Except.ok.inj hclaimed, hsort⟩
  · have hlate := hnothing supplementSample [] lateSample [] (by simp) hcl
    rw [append_nil] at hlate
    exact hlate

end Centaeris
