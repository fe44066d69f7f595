import Centaeris.Foundation.Selection
import Centaeris.Session.LedgerAtomicity
import Centaeris.Session.LedgerTools

namespace Centaeris

open Foundation AgentRunSessionState Outcome SessionLogRecord List SessionProjection

/-!
# Published artifacts in the ledgers and in the reducer

A final message lists the artifacts that its run published.  The ledger of the run lists
them in the order in which the run published them.  The reducer has one order for the
whole session and takes from it what the tool calls of the run published, so an artifact
that another run published first comes earlier there.
-/

/-! ### What a run published -/

/-- The run that made a tool call. -/
def ownerOf (toolCalls : Table String ReducedToolCall) (cid : String) : Option String :=
  (toolCalls[cid]?).map (·.agentRunId)

/-- What the reducer takes from the order of the session. -/
def publishedBy (artifacts : Table String ReducedArtifact) (owner : String → Option String)
    (run reference : String) : Bool :=
  artifacts.toList.any fun entry =>
    entry.2.artifactRef == reference && owner entry.2.toolCallId == some run

variable {artifacts : Table String ReducedArtifact} {owner : String → Option String}
  {run reference : String}

theorem publishedBy_eq_true :
    publishedBy artifacts owner run reference = true ↔
      ∃ (publicationId : String) (pub : ReducedArtifact),
        artifacts[publicationId]? = some pub ∧ pub.artifactRef = reference ∧
          owner pub.toolCallId = some run := by
  simp [publishedBy, any_eq_true]

theorem artifactRefsOf_eq (proj : SessionProjection) (run : String) :
    proj.artifactRefsOf run = proj.artifactOrder.filter
      (publishedBy proj.artifacts (ownerOf proj.toolCalls) run) := by
  have hany : ∀ o : Option ReducedToolCall,
      o.any (·.agentRunId == run) = (o.map (·.agentRunId) == some run) := by
    intro o
    cases o <;> rfl
  unfold artifactRefsOf publishedBy ownerOf
  simp only [hany]

/-- The order has each artifact once, under a trimmed reference. -/
structure ArtifactState (proj : SessionProjection) : Prop where
  nodup : proj.artifactOrder.Nodup
  trimmed : ∀ reference ∈ proj.artifactOrder, trimmedText? reference = some reference
  listed : ∀ (publicationId : String) (pub : ReducedArtifact),
    proj.artifacts[publicationId]? = some pub →
      pub.artifactRef ∈ proj.artifactOrder

/-- How a record changes the published artifacts. -/
inductive ArtifactStep (proj : SessionProjection) (event : SessionLogRecord)
    (proj' : SessionProjection) : Prop
  | other (hcall : event.eventType ≠ .toolCall) (hart : event.eventType ≠ .artifactPublished)
      (hord : proj'.artifactOrder = proj.artifactOrder)
      (harts : proj'.artifacts = proj.artifacts)
      (hown : ownerOf proj'.toolCalls = ownerOf proj.toolCalls)
  | call {cid run : String} (hty : event.eventType = .toolCall)
      (hid : event.callId? = some cid) (hrun : event.run? = some run)
      (hord : proj'.artifactOrder = proj.artifactOrder)
      (harts : proj'.artifacts = proj.artifacts)
      (hown : ownerOf proj'.toolCalls =
        Function.update (ownerOf proj.toolCalls) cid (some run))
  | published {run : String} {pub : ReducedArtifact}
      (hty : event.eventType = .artifactPublished) (hrun : event.run? = some run)
      (href : event.text? "artifactRef" = some pub.artifactRef)
      (hcaller : ownerOf proj.toolCalls pub.toolCallId = some run)
      (hkn : ∀ known, proj.artifacts[pub.publicationId]? = some known →
        known = pub)
      (hord : proj'.artifactOrder =
        arrive proj.artifactOrder pub.artifactRef)
      (harts : proj'.artifacts =
        proj.artifacts.insert pub.publicationId pub)
      (hown : ownerOf proj'.toolCalls = ownerOf proj.toolCalls)

variable {ct : PayloadContracts} {sid : String} {before after : SessionReduction}
  {event : SessionLogRecord} {proj proj' : SessionProjection}

/-- A call is entered under its run; an answer leaves the run of its call. -/
theorem ownerOf_of_toolStep {toolCalls toolCalls' : Table String ReducedToolCall}
    {opens opens' : Table String OpenToolCall} (hsta : ToolState toolCalls opens)
    (hstep : ToolStep toolCalls opens event toolCalls' opens') :
    (event.isToolCall = false ∧ ownerOf toolCalls' = ownerOf toolCalls) ∨
      (event.isToolCall = true ∧ ∃ cid run, event.callId? = some cid ∧
        event.run? = some run ∧
        ownerOf toolCalls' = Function.update (ownerOf toolCalls) cid (some run)) := by
  have hinsert : ∀ (cid : String) (call : ReducedToolCall),
      ownerOf (toolCalls.insert cid call) =
        Function.update (ownerOf toolCalls) cid (some call.agentRunId) := by
    intro cid call
    funext id
    rw [ownerOf, Table.getElem?_insert, Function.update_apply]
    by_cases hid : cid = id
    · rw [if_pos hid, if_pos hid.symm]
      rfl
    · rw [if_neg hid, if_neg (Ne.symm hid)]
      rfl
  cases hstep with
  | other hcall => exact .inl ⟨hcall, rfl⟩
  | @call cid run call expected hkind hid hrun hcall =>
    refine .inr ⟨hkind, cid, run, hid, hrun, ?_⟩
    rw [hinsert, hcall]
  | @answer cid call expected resultState hkind hid hopened hcall =>
    refine .inl ⟨not_isToolCall_of_isToolAnswer hkind, ?_⟩
    obtain ⟨earlier, hearlier, hrun, -⟩ := hsta.opened cid expected hopened
    have hsame : ownerOf toolCalls cid = some call.agentRunId := by
      rw [ownerOf, hearlier, hcall, ← hrun]
      rfl
    rw [hinsert, ← hsame, Function.update_eq_self]

/-- An artifact that is published again is in the order already. -/
theorem artifactStep_of_reduceEvent (htools : ToolState before.projection.toolCalls
      before.openToolCallIds) (hsta : ArtifactState before.projection)
    (h : reduceEvent ct sid before event = .ok after) :
    ArtifactStep before.projection event after.projection := by
  have hown := ownerOf_of_toolStep htools (toolStep_of_reduceEvent h)
  obtain ⟨middle, hmid, heff⟩ := recordEffect_of_reduceEvent h
  obtain ⟨proj', seen', opens'⟩ := after
  -- a record of another type leaves the artifacts alone
  have hquiet : event.eventType ≠ .artifactPublished →
      proj'.artifactOrder = before.projection.artifactOrder →
      proj'.artifacts = before.projection.artifacts →
      ArtifactStep before.projection event proj' := by
    intro hty hord harts
    rcases hown with ⟨hcall, hown⟩ | ⟨hcall, cid, run, hid, hrun, hown⟩
    · refine .other (fun heq => ?_) hty hord harts hown
      rw [isToolCall, heq] at hcall
      cases hcall
    · exact .call (beq_iff_eq.mp hcall) hid hrun hord harts hown
  have hsame : event.eventType = .artifactPublished →
      ownerOf proj'.toolCalls = ownerOf before.projection.toolCalls := by
    intro hty
    rcases hown with ⟨-, hown⟩ | ⟨hcall, -⟩
    · exact hown
    · rw [isToolCall, hty] at hcall
      cases hcall
  cases heff with
  | other hty hled =>
    refine hquiet (fun heq => ?_) (hled.artifactOrder.trans hmid.artifactOrder)
      (hled.artifacts.trans hmid.artifacts)
    rw [heq] at hty
    cases hty
  | started hty | attempted hty | executionStarted hty | executionEnded hty
  | toolCall hty =>
    refine hquiet (fun heq => ?_) hmid.artifactOrder hmid.artifacts
    rw [hty] at heq
    cases heq
  | terminal hty | toolAnswer hty =>
    refine hquiet (fun heq => ?_) hmid.artifactOrder hmid.artifacts
    rw [heq] at hty
    cases hty
  | @republished turn run call pub hty hturn hrun htool hcall hcallTurn hcallRun hid href
      hkn =>
    rw [hmid.artifacts] at hkn
    rw [hmid.toolCalls] at hcall
    refine .published hty hrun href ?_ ?_ ?_ ?_ (hsame hty)
    · rw [ownerOf, hcall, ← hcallRun]
      rfl
    · intro known hfd
      exact Option.mem_unique hfd hkn
    · rw [arrive_of_mem (hsta.listed _ pub hkn)]
      exact hmid.artifactOrder
    · rw [Table.insert_of_getElem?_eq_some hkn]
      exact hmid.artifacts
  | @published turn run call pub hty hturn hrun htool hcall hcallTurn hcallRun hid href
      hnew =>
    rw [hmid.artifacts] at hnew
    rw [hmid.toolCalls] at hcall
    refine .published hty hrun href ?_ ?_ ?_ ?_ (hsame hty)
    · rw [ownerOf, hcall, ← hcallRun]
      rfl
    · intro known hfd
      rw [hnew] at hfd
      cases hfd
    · show (if middle.artifactOrder.contains pub.artifactRef then middle.artifactOrder
        else middle.artifactOrder ++ [pub.artifactRef]) = _
      rw [hmid.artifactOrder, arrive]
      simp only [contains_eq_mem, decide_eq_true_eq]
    · show middle.artifacts.insert pub.publicationId pub = _
      rw [hmid.artifacts]

theorem artifactState_step (hsta : ArtifactState proj)
    (hstep : ArtifactStep proj event proj') : ArtifactState proj' := by
  cases hstep with
  | other _ _ hord harts | call _ _ _ hord harts =>
    refine ⟨?_, ?_, ?_⟩
    · rw [hord]
      exact hsta.nodup
    · rw [hord]
      exact hsta.trimmed
    · rw [hord, harts]
      exact hsta.listed
  | @published run pub _ _ href _ _ hord harts =>
    refine ⟨?_, ?_, ?_⟩
    · rw [hord]
      exact nodup_arrive hsta.nodup
    · intro reference hm
      rw [hord, mem_arrive] at hm
      rcases hm with hm | rfl
      · exact hsta.trimmed reference hm
      · obtain ⟨text, -, htext⟩ := exists_statePayloadText href
        exact (trimmedText?_trimmed htext).1
    · intro publicationId found hfd
      rw [harts] at hfd
      rw [hord, mem_arrive]
      obtain ⟨-, rfl⟩ | ⟨-, hold⟩ := Table.found_of_insert hfd
      · exact .inr rfl
      · exact .inl (hsta.listed publicationId found hold)

variable {targets : Finset String}

theorem artifactState_of_reduceActive {active : List SessionLogRecord}
    (h : reduceActive ct sid targets active = .ok after) :
    ArtifactState after.projection := by
  induction active using List.reverseRecOn generalizing after with
  | nil =>
    obtain rfl := pure_eq_ok.mp h
    refine ⟨nodup_nil, ?_, ?_⟩
    · intro reference hm
      cases hm
    · intro publicationId pub hfd
      rw [show (SessionReduction.projection ⟨{ empty with
        tombstonedEventIds := targets }, ∅, ∅⟩).artifacts = ∅ from rfl,
        Table.getElem?_empty] at hfd
      cases hfd
  | append_singleton front event ih =>
    obtain ⟨before, hpre, hev⟩ := reduceActive_concat.mp h
    exact artifactState_step (ih hpre)
      (artifactStep_of_reduceEvent (toolState_of_reduceActive hpre) (ih hpre) hev)

theorem ArtifactState.mem_of_publishedBy (hsta : ArtifactState proj)
    (h : publishedBy proj.artifacts owner run reference = true) :
    reference ∈ proj.artifactOrder := by
  obtain ⟨publicationId, pub, hfd, rfl, -⟩ := publishedBy_eq_true.mp h
  exact hsta.listed publicationId pub hfd

variable {pub : ReducedArtifact} {caller : String}

theorem publishedBy_insert (hcaller : owner pub.toolCallId = some caller)
    (hkn : ∀ known, artifacts[pub.publicationId]? = some known → known = pub)
    (run reference : String) :
    publishedBy (artifacts.insert pub.publicationId pub) owner run reference =
      (publishedBy artifacts owner run reference ||
        (caller == run && reference == pub.artifactRef)) := by
  rw [Bool.eq_iff_iff, Bool.or_eq_true, publishedBy_eq_true, publishedBy_eq_true, Bool.and_eq_true,
    beq_iff_eq, beq_iff_eq]
  constructor
  · rintro ⟨publicationId, found, hfd, rfl, hown⟩
    obtain ⟨-, rfl⟩ | ⟨-, hold⟩ := Table.found_of_insert hfd
    · exact .inr ⟨Option.mem_unique hcaller hown, rfl⟩
    · exact .inl ⟨publicationId, found, hold, rfl, hown⟩
  · rintro (⟨publicationId, found, hfd, rfl, hown⟩ | ⟨rfl, rfl⟩)
    · refine ⟨publicationId, found, ?_, rfl, hown⟩
      rw [Table.getElem?_insert]
      split
      · rename_i hsame
        rw [← hsame] at hfd
        rw [hkn found hfd]
      · exact hfd
    · refine ⟨pub.publicationId, pub, ?_, rfl, hcaller⟩
      rw [Table.getElem?_insert, if_pos rfl]

/-- What the reducer expects of a run when a run `caller` has published a reference. -/
def SessionProjection.refsAfter (proj : SessionProjection) (run caller reference : String) :
    List String :=
  if caller = run then
    (arrive proj.artifactOrder reference).filter fun other =>
      publishedBy proj.artifacts (ownerOf proj.toolCalls) run other ||
        other == reference
  else proj.artifactRefsOf run

theorem artifactRefsOf_published (hsta : ArtifactState proj)
    (hcaller : ownerOf proj.toolCalls pub.toolCallId = some caller)
    (hkn : ∀ known, proj.artifacts[pub.publicationId]? = some known →
      known = pub)
    (hord : proj'.artifactOrder = arrive proj.artifactOrder pub.artifactRef)
    (harts : proj'.artifacts =
      proj.artifacts.insert pub.publicationId pub)
    (hown : ownerOf proj'.toolCalls = ownerOf proj.toolCalls) :
    proj'.artifactRefsOf run =
      proj.refsAfter run caller pub.artifactRef := by
  rw [refsAfter, artifactRefsOf_eq, artifactRefsOf_eq, hord, harts, hown]
  by_cases hrun : caller = run
  · rw [if_pos hrun]
    apply filter_congr
    intro reference _
    rw [publishedBy_insert hcaller hkn, hrun, beq_self_eq_true, Bool.true_and]
  · rw [if_neg hrun]
    have hsame : publishedBy (proj.artifacts.insert pub.publicationId pub)
        (ownerOf proj.toolCalls) run =
        publishedBy proj.artifacts (ownerOf proj.toolCalls) run := by
      funext reference
      rw [publishedBy_insert hcaller hkn, beq_false_of_ne hrun, Bool.false_and, Bool.or_false]
    rw [hsame, arrive]
    split
    · rfl
    · rename_i hnew
      -- no run published what was in no order
      have hnone : publishedBy proj.artifacts (ownerOf proj.toolCalls) run
          pub.artifactRef = false :=
        Bool.eq_false_iff.mpr fun h => hnew (hsta.mem_of_publishedBy h)
      rw [filter_append, filter_cons_of_neg (by simp [hnone]), filter_nil,
        append_nil]

/-! ### The ledger of the run -/

namespace AgentRunSessionState

variable {ledger ledger' : AgentRunSessionState}

theorem artifactRefs_of_linkArtifact {links links' : List (String × String)}
    {artifactRef filename : String} (h : linkArtifact links artifactRef filename = .ok links') :
    links'.map Prod.fst = arrive (links.map Prod.fst) artifactRef := by
  unfold linkArtifact at h
  cases hfd : links.find? (·.1 == artifactRef) with
  | some link =>
    simp only [hfd, ok_rules] at h
    obtain ⟨-, rfl⟩ := h
    have hname : link.1 = artifactRef := by simpa using find?_some hfd
    exact (arrive_of_mem (mem_map.mpr ⟨link, mem_of_find?_eq_some hfd, hname⟩)).symm
  | none =>
    simp only [hfd, pure_eq_ok] at h
    subst h
    rw [arrive_of_not_mem, map_append]
    · rfl
    · rw [mem_map]
      rintro ⟨link, hm, hname⟩
      have hnot := find?_eq_none.mp hfd link hm
      exact hnot (beq_iff_eq.mpr hname)

/-- A publication is added under its reference as it is written; no other record adds one. -/
theorem artifactRefs_of_restoreNext (h : restoreNext ct ledger event = .ok ledger') :
    (event.eventType ≠ .artifactPublished ∧ ledger'.artifactRefs = ledger.artifactRefs) ∨
      (event.eventType = .artifactPublished ∧ ∃ written,
        statePayloadText? event.payload "artifactRef" = some written ∧
        ledger'.artifactRefs = arrive ledger.artifactRefs written) := by
  by_cases hty : event.eventType = .artifactPublished
  · obtain ⟨written, filename, links, hwr, -, hlinks, hfol⟩ :=
      restoreNext_artifactPublished h hty
    refine .inr ⟨hty, written, hwr, ?_⟩
    have haft : ledger'.artifactLinks = links := congrArg (·.artifactLinks) hfol
    rw [artifactRefs, haft, artifactRefs_of_linkArtifact hlinks]
    rfl
  · refine .inl ⟨hty, ?_⟩
    rw [artifactRefs, restoreNext_artifactLinks h hty]
    rfl

end AgentRunSessionState

/-! ### Agreement -/

/-- The ledger of a run lists what the reducer expects. -/
def OrdersAgree (ct : PayloadContracts) (sid run : String)
    (events : List SessionLogRecord) (proj : SessionProjection) : Prop :=
  ∀ ledger, restoreRun ct sid run events = .ok ledger →
    ledger.artifactRefs = proj.artifactRefsOf (trim run)

/-- The ledger of the run and the reducer make the same of a record.

    A call that takes the id of an earlier one moves no artifact into the run or out of
    it.  What the run publishes has a trimmed reference, and nothing that the run
    published comes after it in the order of the session.  What is published under
    another spelling of the run was published by it before. -/
structure ArtifactFollows (proj : SessionProjection) (run : String)
    (event : SessionLogRecord) : Prop where
  call : event.eventType = .toolCall → ∀ cid caller, event.callId? = some cid →
    event.run? = some caller →
    proj.artifactOrder.filter (publishedBy proj.artifacts
      (Function.update (ownerOf proj.toolCalls) cid (some caller)) (trim run)) =
      proj.artifactRefsOf (trim run)
  own : event.eventType = .artifactPublished → event.agentRunId = some run →
    ∀ reference, event.text? "artifactRef" = some reference →
      statePayloadText? event.payload "artifactRef" = some reference ∧
      (reference ∉ proj.artifactRefsOf (trim run) →
        ∀ front back, proj.artifactOrder = front ++ reference :: back →
          ∀ later ∈ back, later ∉ proj.artifactRefsOf (trim run))
  respelled : event.eventType = .artifactPublished → event.agentRunId ≠ some run →
    event.run? = some (trim run) → ∀ reference, event.text? "artifactRef" = some reference →
      reference ∈ proj.artifactRefsOf (trim run)

/-- The run of a record that carries the id of the run, however it is spelled. -/
theorem run?_of_agentRunId (hraw : event.agentRunId = some run) (hrun : event.run? = some caller) :
    caller = trim run := by
  rw [run?, hraw] at hrun
  exact (trimmedText?_eq_some.mp hrun).2.symm

section Step

variable {run : String} {ledger ledger' : AgentRunSessionState}
  (hsta : ArtifactState proj)
  (hagree : ledger.artifactRefs = proj.artifactRefsOf (trim run))
include hsta hagree

/-- **Own publications.** The ledger adds the reference at its end. -/
theorem agree_iff_of_own {written : String} (hrun : event.run? = some caller)
    (hraw : event.agentRunId = some run) (hty : event.eventType = .artifactPublished)
    (href : event.text? "artifactRef" = some pub.artifactRef)
    (hwr : statePayloadText? event.payload "artifactRef" = some written)
    (haft : proj'.artifactRefsOf (trim run) =
      proj.refsAfter (trim run) caller pub.artifactRef)
    (hled : ledger'.artifactRefs = arrive ledger.artifactRefs written) :
    ledger'.artifactRefs = proj'.artifactRefsOf (trim run) ↔
      ArtifactFollows proj run event := by
  rw [haft, refsAfter, if_pos (run?_of_agentRunId hraw hrun), hled, hagree, artifactRefsOf_eq]
  -- a written reference that is in the order is trimmed
  have htrim : written ∈ proj.artifactOrder → written = pub.artifactRef := by
    intro hm
    obtain ⟨text, htext, htrimmed⟩ := exists_statePayloadText href
    obtain rfl : written = text := Option.mem_unique hwr htext
    exact Option.some.inj ((hsta.trimmed written hm).symm.trans htrimmed)
  rw [arrive_filter_eq_iff hsta.nodup htrim hsta.mem_of_publishedBy]
  constructor
  · rintro ⟨rfl, hlat⟩
    refine ⟨fun h => ?_, fun _ _ reference hreference => ?_, fun _ h => absurd hraw h⟩
    · rw [hty] at h
      cases h
    · obtain rfl := Option.mem_unique href hreference
      refine ⟨hwr, fun hnot first back hsp later hm hin => ?_⟩
      rw [artifactRefsOf_eq] at hnot hin
      have hfalse := hlat hnot first back hsp later hm
      rw [(mem_filter.mp hin).2] at hfalse
      cases hfalse
  · intro hfollows
    obtain ⟨hclean, hlat⟩ := hfollows.own hty hraw pub.artifactRef href
    refine ⟨Option.mem_unique hwr hclean, fun hnot first back hsp later hm => ?_⟩
    rw [artifactRefsOf_eq] at hlat
    have hout := hlat hnot first back hsp later hm
    rw [mem_filter, not_and, Bool.not_eq_true] at hout
    exact hout (by rw [hsp]; exact mem_append_right first (mem_cons_of_mem _ hm))

omit hsta in
/-- **Publications under another run id.** The ledger does not see them. -/
theorem agree_iff_of_foreign (hrun : event.run? = some caller) (hraw : event.agentRunId ≠ some run)
    (hty : event.eventType = .artifactPublished)
    (href : event.text? "artifactRef" = some pub.artifactRef)
    (haft : proj'.artifactRefsOf (trim run) =
      proj.refsAfter (trim run) caller pub.artifactRef)
    (hled : ledger'.artifactRefs = ledger.artifactRefs) :
    ledger'.artifactRefs = proj'.artifactRefsOf (trim run) ↔
      ArtifactFollows proj run event := by
  have hcall : event.eventType ≠ .toolCall := by
    rw [hty]
    decide
  rw [haft, hled, hagree, refsAfter]
  by_cases hcaller : caller = trim run
  · rw [if_pos hcaller]
    constructor
    · intro h
      rw [artifactRefsOf_eq, filter_arrive_eq_self_iff, ← artifactRefsOf_eq] at h
      refine ⟨fun h => absurd h hcall, fun _ h => absurd h hraw, fun _ _ _ reference hreference => ?_⟩
      rw [← Option.mem_unique href hreference]
      exact h
    · intro hfollows
      rw [artifactRefsOf_eq, filter_arrive_eq_self_iff, ← artifactRefsOf_eq]
      exact hfollows.respelled hty hraw (hcaller ▸ hrun) pub.artifactRef href
  · rw [if_neg hcaller]
    refine ⟨fun _ => ⟨fun h => absurd h hcall, fun _ h => absurd h hraw, fun _ _ hsame => ?_⟩,
      fun _ => rfl⟩
    exact absurd (Option.mem_unique hrun hsame) hcaller

/-- **Step.** After a record the orders still agree exactly when it is followed. -/
theorem agree_iff_artifactFollows (hstep : ArtifactStep proj event proj')
    (hlast : if event.agentRunId = some run then
        restoreNext ct ledger event = .ok ledger'
      else ledger' = ledger) :
    ledger'.artifactRefs = proj'.artifactRefsOf (trim run) ↔
      ArtifactFollows proj run event := by
  -- a record that publishes nothing leaves the ledger's list alone
  have hquiet : event.eventType ≠ .artifactPublished →
      ledger'.artifactRefs = proj.artifactRefsOf (trim run) := by
    intro hty
    rw [← hagree]
    split at hlast
    · rcases artifactRefs_of_restoreNext hlast with ⟨-, h⟩ | ⟨h, -⟩
      · exact h
      · exact absurd h hty
    · rw [hlast]
  cases hstep with
  | other hcall hart hord harts hown =>
    rw [hquiet hart, artifactRefsOf_eq, artifactRefsOf_eq, hord, harts, hown]
    exact ⟨fun _ => ⟨fun h => absurd h hcall, fun h => absurd h hart,
      fun h => absurd h hart⟩, fun _ => rfl⟩
  | @call cid caller hty hid hrun hord harts hown =>
    have hart : event.eventType ≠ .artifactPublished := by
      rw [hty]
      decide
    rw [hquiet hart, artifactRefsOf_eq proj', hord, harts, hown]
    constructor
    · intro h
      refine ⟨fun _ id run' hid' hrun' => ?_, fun h => absurd h hart,
        fun h => absurd h hart⟩
      obtain rfl := Option.mem_unique hid hid'
      obtain rfl := Option.mem_unique hrun hrun'
      exact h.symm
    · intro hfollows
      exact (hfollows.call hty cid caller hid hrun).symm
  | @published caller pub hty hrun href hcaller hkn hord harts hown =>
    have haft : proj'.artifactRefsOf (trim run) =
        proj.refsAfter (trim run) caller pub.artifactRef :=
      artifactRefsOf_published hsta hcaller hkn hord harts hown
    split at hlast
    · rename_i hraw
      rcases artifactRefs_of_restoreNext hlast with
        ⟨hnot, -⟩ | ⟨-, written, hwr, hled⟩
      · exact absurd hty hnot
      · exact agree_iff_of_own hsta hagree hrun hraw hty href hwr haft hled
    · rename_i hraw
      exact agree_iff_of_foreign hagree hrun hraw hty href haft (by rw [hlast])

end Step

/-! ### The refusal of a final message -/

def orderRefusal (event : SessionLogRecord) : Failure :=
  .err (recordError event "assistant artifactRefs do not match published order")

/-- A final message whose artifacts are compared: it is a new record of the session, and
    its run has no other final message. -/
structure ReachesOrder (sid : String) (state : SessionReduction)
    (event : SessionLogRecord) : Prop where
  session : event.sessionId = trim sid
  fresh : event.eventId ∉ state.seenEventIds
  sole : ∀ (id : String) (message : ReducedMessage), state.projection.messages[id]? = some message →
    message.role = .assistant → message.agentRunId = event.run? →
    event.text? "messageId" = some message.messageId

theorem ne_orderRefusal {text : String}
    (h : text ≠ "assistant artifactRefs do not match published order") :
    orderRefusal event ≠ .err (recordError event text) := by
  intro heq
  exact h ((String.append_right_inj _).mp (Failure.err.inj heq)).symm

theorem checkExistingAssistant_ne_refusal {existing : ReducedMessage} :
    checkExistingAssistant event existing ≠ .error (orderRefusal event) := by
  intro h
  simp only [checkExistingAssistant, bind_eq_error, ensure_eq_error, exists_unit] at h
  rcases h with h | ⟨-, h | ⟨-, h | ⟨-, h⟩⟩⟩
  all_goals exact ne_orderRefusal (by decide) h.2

variable {turnId agentRunId modelMarkdown status : String} {artifactRefs : List String}
  {createdAtMs : Int}

theorem assistantRecord_reads
    (h : sealedAssistantMessageRecordWithArtifactRefs ct sid turnId agentRunId
      modelMarkdown artifactRefs status createdAtMs = .ok event) :
    validateEventShape ct event = .ok () ∧ event.eventType = .assistantMessage ∧
      event.agentRunId = some agentRunId ∧ ∃ payload messageId text found,
        payloadObject event = .ok payload ∧
        requiredPayloadString payload "messageId" event = .ok messageId ∧
        requiredEventAgentRunId event = .ok (trim agentRunId) ∧
        requiredPayloadStringAllowEmpty payload "modelMarkdown" event = .ok text ∧
        requiredPayloadString payload "status" event = .ok found ∧
        (payload.lookup "artifactRefs").bind Json.asArray? = some (artifactRefs.map .string) := by
  rw [sealedAssistantMessageRecordWithArtifactRefs] at h
  obtain ⟨hshp, hty, -, -, -, hrun, hpay⟩ := canonicalSessionRecord_eq_ok h
  refine ⟨hshp, hty, hrun, ?_⟩
  have hparts := hshp
  simp only [validateEventShape, validateEventPayload, hty, validateAssistantMessage, ok_rules]
    at hparts
  obtain ⟨-, -, -, -, -, -, -, turn, -, run, hreadRun, payload, hobject, -, messageId, hmessage, -,
    text, htext, -, -, -, -, -, found, hstat, -⟩ := hparts
  refine ⟨payload, messageId, text, found, hobject, hmessage, ?_, htext, hstat, ?_⟩
  · rw [hreadRun]
    rw [requiredEventAgentRunId_eq_ok] at hreadRun
    rw [run?_of_agentRunId hrun hreadRun]
  · rw [payloadObject_eq_ok, hpay] at hobject
    rw [← Json.object.inj hobject, lookup_cons_self]
    rfl

/-- The references of a final message are read as they were written. -/
theorem mapM_references (artifactRefs : List String) :
    ((artifactRefs.map Json.string).mapM fun value =>
      orPanic value.asString? "validated artifact ref") = .ok artifactRefs := by
  have hread : ∀ value ∈ artifactRefs.map Json.string,
      orPanic value.asString? "validated artifact ref" = .ok (value.asString?.getD "") := by
    intro value hm
    obtain ⟨reference, -, rfl⟩ := mem_map.mp hm
    rfl
  rw [mapM_eq_ok_of_forall hread, map_map]
  exact congrArg Except.ok (map_id artifactRefs)

theorem reduceAssistantMessage_refused_iff
    (h : sealedAssistantMessageRecordWithArtifactRefs ct sid turnId agentRunId
      modelMarkdown artifactRefs status createdAtMs = .ok event) :
    reduceAssistantMessage proj event = .error (orderRefusal event) ↔
      (∀ (id : String) (message : ReducedMessage), proj.messages[id]? = some message →
        message.role = .assistant → message.agentRunId = event.run? →
        event.text? "messageId" = some message.messageId) ∧
      artifactRefs ≠ proj.artifactRefsOf (trim agentRunId) := by
  obtain ⟨-, -, -, payload, messageId, text, found, hobject, hmessage, hrun, htext, hstat, hrefs⟩ :=
    assistantRecord_reads h
  have hmessage' := (requiredPayloadString_eq_ok (payloadObject_eq_ok.mp hobject)).mp hmessage
  have hsole : (proj.messages.toList.any fun entry =>
      entry.2.role == .assistant && entry.2.agentRunId == some (trim agentRunId) &&
        entry.2.messageId != messageId) = false ↔
      ∀ (id : String) (message : ReducedMessage), proj.messages[id]? = some message →
        message.role = .assistant → message.agentRunId = event.run? →
        event.text? "messageId" = some message.messageId := by
    rw [hmessage', requiredEventAgentRunId_eq_ok.mp hrun, any_eq_false]
    simp only [Prod.forall, Table.mem_toList, bool_rules, not_and, ne_eq, not_not, and_imp,
      Option.some.injEq]
    exact forall₄_congr fun _ message _ _ => forall_congr' fun _ => eq_comm
  have hpanic : orPanic ((payload.lookup "artifactRefs").bind Json.asArray?)
      "validated artifactRefs" = .ok (artifactRefs.map Json.string) := by
    rw [orPanic_eq_ok, hrefs]
  rw [reduceAssistantMessage, ← hsole]
  simp only [hobject, hmessage, hrun, htext, hpanic, mapM_references, hstat, ok_bind,
    bind_eq_error, ensure_eq_error, ensure_eq_ok, exists_unit, bool_rules, Bool.not_eq_false',
    beq_eq_false_iff_ne, option_forM_eq_ok]
  constructor
  · rintro (⟨-, hoth⟩ | ⟨hsole, ⟨hrefused, -⟩ | ⟨-, hlat | ⟨-, hpure⟩⟩⟩)
    · exact absurd hoth (ne_orderRefusal (by decide))
    · exact ⟨hsole, hrefused⟩
    · cases hex : proj.messages[messageId]? with
      | none => simp [hex, Option.forM, pure, Except.pure] at hlat
      | some existing =>
        rw [hex] at hlat
        exact absurd hlat checkExistingAssistant_ne_refusal
    · cases hpure
  · rintro ⟨hsole, hrefused⟩
    exact .inr ⟨hsole, .inl ⟨hrefused, rfl⟩⟩

/-- The refusal names a record whose id starts with `evt:`, so it is none of the texts
    about records of another session or with a known id. -/
theorem envelopeError_ne_refusal {rest : String} (heventId : event.eventId = "evt:" ++ rest)
    (first tail : String)
    (hfst : ("evt:".toList.zip first.toList).any (fun pair => pair.1 != pair.2) = true) :
    orderRefusal event ≠ .err ("session.event.v1 " ++ (first ++ tail)) := by
  intro heq
  have htexts : "session.event.v1 " ++ event.eventId ++ " " ++
      "assistant artifactRefs do not match published order" =
      "session.event.v1 " ++ (first ++ tail) := Failure.err.inj heq
  rw [heventId, String.append_assoc, String.append_assoc, String.append_assoc] at htexts
  exact append_ne_append hfst _ _ ((String.append_right_inj _).mp htexts)

/-- **Refusal.** A final message is refused for its artifacts exactly when they are
    compared and are not those that the reducer expects. -/
theorem reduceEvent_refused_iff {state : SessionReduction} {recordSessionId : String}
    (h : sealedAssistantMessageRecordWithArtifactRefs ct recordSessionId turnId agentRunId
      modelMarkdown artifactRefs status createdAtMs = .ok event) :
    reduceEvent ct sid state event = .error (orderRefusal event) ↔
      ReachesOrder sid state event ∧
        artifactRefs ≠ state.projection.artifactRefsOf (trim agentRunId) := by
  obtain ⟨hshp, hty, -, -⟩ := assistantRecord_reads h
  have heventId : ∃ rest, event.eventId = "evt:" ++ rest := by
    rw [sealedAssistantMessageRecordWithArtifactRefs] at h
    obtain ⟨-, -, heventId, -⟩ := canonicalSessionRecord_eq_ok h
    rw [heventId, timedEventId]
    simp only [String.append_assoc]
    exact ⟨_, rfl⟩
  obtain ⟨rest, heventId⟩ := heventId
  have hreas : state.projection.reasoning.apply event = .ok state.projection.reasoning := by
    rw [ReasoningLedger.apply, hty]
    rfl
  rw [reduceEvent, hshp, ok_bind]
  simp only [bind_eq_error, ensure_eq_error, ensure_eq_ok, exists_unit, hreas, ok_bind,
    reduceRecord, hty, bool_rules, beq_eq_false_iff_ne]
  constructor
  · rintro (⟨-, hoth⟩ | ⟨hses, ⟨-, hoth⟩ | ⟨hfr, hrcd | ⟨_, -, hpure⟩⟩⟩)
    · refine absurd hoth ?_
      simp only [String.append_assoc]
      exact envelopeError_ne_refusal heventId "cross-session event " _ (by decide)
    · refine absurd hoth ?_
      exact envelopeError_ne_refusal heventId "duplicate eventId: " _ (by decide)
    · rcases hrcd with hrcd | ⟨_, -, hpure⟩
      · obtain ⟨hsole, hrefused⟩ := (reduceAssistantMessage_refused_iff h).mp hrcd
        exact ⟨⟨hses, hfr, hsole⟩, hrefused⟩
      · cases hpure
    · cases hpure
  · rintro ⟨hreaches, hrefused⟩
    exact .inr ⟨hreaches.session, .inr ⟨hreaches.fresh,
      .inl (.inl ((reduceAssistantMessage_refused_iff h).mpr ⟨hreaches.sole, hrefused⟩))⟩⟩

theorem assistant_returns {ledger ledger' : AgentRunSessionState}
    {sequenced : SequencedSessionRecord}
    (h : assistant ct turnId modelMarkdown artifactRefs status
      createdAtMs ledger = (.ok (some sequenced), ledger')) :
    sealedAssistantMessageRecordWithArtifactRefs ct ledger.sessionId turnId
      ledger.agentRunId modelMarkdown artifactRefs status createdAtMs = .ok sequenced.event := by
  rw [assistant, recordUnlessKnown] at h
  obtain ⟨offer, hoffer, h⟩ := Mutation.query_bind_eq_ok.mp h
  rw [assistantOffer] at hoffer
  cases offer with
  | none => cases (Prod.mk.inj h).1
  | some event =>
    split at hoffer
    · cases pure_eq_ok.mp hoffer
    · simp only [ok_rules, Option.some.injEq] at hoffer
      obtain ⟨_, hbuilt, rfl⟩ := hoffer
      obtain ⟨returned, middle, hrcd, hlast⟩ := Mutation.bind_eq_ok.mp h
      obtain ⟨_, _, -, hrcd⟩ := Mutation.bind_eq_ok.mp hrcd
      obtain ⟨_, _, -, hrcd⟩ := Mutation.bind_eq_ok.mp hrcd
      obtain ⟨_, _, -, hrcd⟩ := Mutation.bind_eq_ok.mp hrcd
      have hreturned := Except.ok.inj (Prod.mk.inj hrcd).1
      have hsequenced := Option.some.inj (Except.ok.inj (Prod.mk.inj hlast).1)
      rw [← hsequenced, ← hreturned]
      exact hbuilt

/-! ### Along a log -/

/-- Before the first record no artifact is published. -/
theorem ordersAgree_nil (h : reduceActive ct sid targets [] = .ok before) :
    OrdersAgree ct sid run [] before.projection := by
  obtain rfl := pure_eq_ok.mp h
  intro ledger hled
  simp only [restoreRun, new, ok_rules] at hled
  obtain ⟨_, ⟨-, -, rfl⟩, hlast⟩ := hled
  obtain rfl := pure_eq_ok.mp hlast
  rfl

/-- **Artifacts of a run.** Along an accepted log without tombstones from which the ledger
    of a run can be restored, the ledger lists what the reducer expects after every record
    exactly when every record is followed.  A final message that the ledger makes with its
    own list is refused for its artifacts exactly when they are compared at a place where
    the two do not agree. -/
theorem ordersAgree_iff_follows {events : List SessionLogRecord} {run : String}
    (hfree : ∀ event ∈ events, event.eventType ≠ .tombstone)
    (hevs : reduceEvents ct sid events = .ok proj)
    (hrst : ∃ ledger, restoreRun ct (trim sid) run events = .ok ledger) :
    ((∀ (front back : List SessionLogRecord) (reduced : SessionProjection),
        events = front ++ back → reduceEvents ct sid front = .ok reduced →
        OrdersAgree ct (trim sid) run front reduced) ↔
      ∀ (front : List SessionLogRecord) (event : SessionLogRecord)
        (back : List SessionLogRecord) (reduced : SessionProjection),
        events = front ++ event :: back → reduceEvents ct sid front = .ok reduced →
        ArtifactFollows reduced run event) ∧
    ∀ (front back : List SessionLogRecord) (state : SessionReduction)
      (ledger ledger' : AgentRunSessionState) (turnId modelMarkdown status : String)
      (createdAtMs : Int) (sequenced : SequencedSessionRecord),
      events = front ++ back →
      reduceActive ct (trim sid) ∅ front = .ok state →
      restoreRun ct (trim sid) run front = .ok ledger →
      AgentRunSessionState.assistant ct turnId modelMarkdown ledger.artifactRefs status
        createdAtMs ledger = (.ok (some sequenced), ledger') →
      (reduceEvent ct (trim sid) state sequenced.event =
          .error (orderRefusal sequenced.event) ↔
        ReachesOrder (trim sid) state sequenced.event ∧
          ¬ OrdersAgree ct (trim sid) run front state.projection) := by
  constructor
  · refine forall_fronts_iff (OrdersAgree ct (trim sid) run)
      (fun reduced event => ArtifactFollows reduced run event) hfree hevs
      (fun state hsta => ordersAgree_nil hsta) ?_
    intro front event back before after hsp hpre hev hagree
    -- the ledger can be restored up to this record
    obtain ⟨final, hfinal⟩ := hrst
    rw [hsp, ← singleton_append, ← append_assoc] at hfinal
    obtain ⟨ledger', hled'⟩ := restoreRun_append hfinal
    obtain ⟨ledger, hled, hlast⟩ := restoreRun_concat hled'
    have hsta := artifactState_of_reduceActive hpre
    have hstep := artifactStep_of_reduceEvent (toolState_of_reduceActive hpre) hsta hev
    rw [← agree_iff_artifactFollows hsta (hagree ledger hled) hstep hlast]
    constructor
    · intro h
      exact h ledger' hled'
    · intro h found hfd
      obtain rfl := Except.ok.inj (hled'.symm.trans hfd)
      exact h
  · intro front back state ledger ledger' turnId modelMarkdown status createdAtMs sequenced hsp
      hsta hled hreturned
    rw [reduceEvent_refused_iff (assistant_returns hreturned), (agentRunId_of_restoreRun hled).2]
    refine and_congr_right fun _ => not_congr ⟨fun h found hfd => ?_, fun h => h ledger hled⟩
    obtain rfl := Except.ok.inj (hled.symm.trans hfd)
    exact h

def artifactRecord (sequence : UInt64) (cid publicationId artifactRef : String) :
    SequencedSessionRecord :=
  sampleRecord sequence .artifactPublished (.object [("artifactRef", .string artifactRef),
    ("filename", .string "f"), ("publicationId", .string publicationId),
    ("sha256", .string "sha256:0000000000000000000000000000000000000000000000000000000000000000"),
    ("sizeBytes", .number (.posInt 1)), ("toolCallId", .string cid)])

/-- The run publishes an artifact. -/
def publishedLog : List SessionLogRecord :=
  answeredCallLog ++ [(artifactRecord 3 "c"
    "pub_0000000000000000000000000000000000000000000000000000000000000000" "artifact:x").event]

/-- A second run publishes another artifact, and then the one of the first run again. -/
def republishedLog : List SessionLogRecord :=
  publishedLog ++ [(toolCallRecord 4 "c2").event, (toolResultRecord 5 "c2").event,
    (artifactRecord 6 "c2" "pub_1111111111111111111111111111111111111111111111111111111111111111"
      "artifact:y").event,
    (artifactRecord 7 "c2" "pub_2222222222222222222222222222222222222222222222222222222222222222"
      "artifact:x").event].map fun event => { event with agentRunId := some "r2" }

/-- The run that publishes one artifact meets the assumptions. -/
theorem ordersAgree_iff_follows_published :
    ∃ proj ledger, reduceEvents toolContracts "s" publishedLog = .ok proj ∧
      restoreRun toolContracts (trim "s") "r" publishedLog = .ok ledger ∧
      ledger.artifactRefs = ["artifact:x"] ∧
      ((∀ (front back : List SessionLogRecord) (reduced : SessionProjection),
          publishedLog = front ++ back → reduceEvents toolContracts "s" front = .ok reduced →
          OrdersAgree toolContracts (trim "s") "r" front reduced) ↔
        ∀ (front : List SessionLogRecord) (event : SessionLogRecord)
          (back : List SessionLogRecord) (reduced : SessionProjection),
          publishedLog = front ++ event :: back →
          reduceEvents toolContracts "s" front = .ok reduced →
          ArtifactFollows reduced "r" event) := by
  have hred : (reduceActive toolContracts (trim "s") ∅ publishedLog).toOption.map
      (fun state => state.projection.artifactOrder) = some ["artifact:x"] := by decide +kernel
  have hled : (restoreRun toolContracts (trim "s") "r" publishedLog).toOption.map
      (fun ledger => ledger.artifactRefs) = some ["artifact:x"] := by decide +kernel
  obtain ⟨state, hsta, -⟩ := Outcome.exists_ok_of_map hred
  obtain ⟨ledger, hled, hrefs⟩ := Outcome.exists_ok_of_map hled
  have hevs : reduceEvents toolContracts "s" publishedLog = .ok state.projection :=
    (reduceEvents_eq_ok_of_noTombstone (by decide)).mpr ⟨by decide, state, hsta, rfl⟩
  exact ⟨state.projection, ledger, hevs, hled, hrefs,
    (ordersAgree_iff_follows (by decide) hevs ⟨ledger, hled⟩).1⟩

/-- The final message that a ledger makes with its own list is refused for its artifacts. -/
def refusesOwnList (state : SessionReduction) (ledger : AgentRunSessionState) : Bool :=
  match AgentRunSessionState.assistant toolContracts "t" "" ledger.artifactRefs "done" 0 ledger with
  | (.ok (some sequenced), _) =>
    match reduceEvent toolContracts (trim "s") state sequenced.event with
    | .error failure => failure == orderRefusal sequenced.event
    | .ok _ => false
  | _ => false

/-- The second run published `y` first, and the order of the session has `x` first. -/
theorem republished_artifact_refused :
    (∀ event ∈ republishedLog, event.eventType ≠ .tombstone) ∧
    ∃ proj state ledger ledger' sequenced,
      reduceEvents toolContracts "s" republishedLog = .ok proj ∧
      reduceActive toolContracts (trim "s") ∅ republishedLog = .ok state ∧
      restoreRun toolContracts (trim "s") "r2" republishedLog = .ok ledger ∧
      ledger.artifactRefs = ["artifact:y", "artifact:x"] ∧
      AgentRunSessionState.assistant toolContracts "t" "" ledger.artifactRefs "done" 0 ledger =
        (.ok (some sequenced), ledger') ∧
      reduceEvent toolContracts (trim "s") state sequenced.event =
        .error (.err (recordError sequenced.event
          "assistant artifactRefs do not match published order")) := by
  have hrefused : (reduceActive toolContracts (trim "s") ∅ republishedLog).toOption.map
      (fun state => (restoreRun toolContracts (trim "s") "r2" republishedLog).toOption.map
        fun ledger => (ledger.artifactRefs, refusesOwnList state ledger)) =
      some (some (["artifact:y", "artifact:x"], true)) := by
    decide +kernel
  obtain ⟨state, hsta, hrefused⟩ := Outcome.exists_ok_of_map hrefused
  have hfree : ∀ event ∈ republishedLog, event.eventType ≠ .tombstone := by decide
  have hevs : reduceEvents toolContracts "s" republishedLog = .ok state.projection :=
    (reduceEvents_eq_ok_of_noTombstone hfree).mpr ⟨by decide, state, hsta, rfl⟩
  obtain ⟨ledger, hled, hrefused⟩ := Outcome.exists_ok_of_map hrefused
  obtain ⟨hrefs, hrefused⟩ := Prod.mk.inj hrefused
  unfold refusesOwnList at hrefused
  split at hrefused
  · rename_i sequenced ledger' hreturned
    split at hrefused
    · rename_i failure hfailure
      rw [beq_iff_eq.mp hrefused] at hfailure
      exact ⟨hfree, state.projection, state, ledger, ledger', sequenced, hevs, hsta, hled,
        hrefs, hreturned, hfailure⟩
    · cases hrefused
  · cases hrefused

end Centaeris
