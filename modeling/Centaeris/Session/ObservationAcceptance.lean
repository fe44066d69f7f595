import Centaeris.Session.ObservationRuns

namespace Centaeris

open Foundation List ObservationContent Outcome

/-!
# What compaction accepts

A batch of lines is accepted when every observation of its model requests can be stored: then
each file that compaction writes passes its own check.
-/

/-! ### Manifests are read back -/

section Manifests

variable {cas : ObservationCas} {count : Nat} {changes : List ObservationChange}
  {parentDigest parentDigest' : Option String} {parent refs : List ObservationReference}

/-- The reader reads back the manifests that are written. -/
def ReadsManifests (cas : ObservationCas) : Prop :=
  ∀ parentDigest count changes, count < 2 ^ 64 →
    (∀ change ∈ changes, change.index < count) →
    cas.fromStr (manifestJson parentDigest count changes).render =
      .ok (manifestJson parentDigest count changes)

theorem properItems_changes (changes : List ObservationChange) :
    Json.properItems (changes.map ObservationChange.toJson) = true := by
  induction changes with
  | nil => rfl
  | cons change changes ih =>
    rw [map_cons, Json.properItems, ih]
    rfl

theorem manifestJson_proper (parentDigest : Option String) (count : Nat)
    (changes : List ObservationChange) :
    (manifestJson parentDigest count changes).proper = true := by
  cases parentDigest <;>
    simp [manifestJson, Json.proper, Json.properMembers, Number.proper, properItems_changes]

/-- Manifests with the same text have the same parent. -/
theorem parentDigest_of_render {count' : Nat} {changes' : List ObservationChange}
    (h : (manifestJson parentDigest count changes).render =
      (manifestJson parentDigest' count' changes').render) : parentDigest = parentDigest' := by
  have hjson := Json.render_injective (manifestJson_proper ..) (manifestJson_proper ..) h
  simp only [manifestJson, Json.object.injEq, cons.injEq, Prod.mk.injEq, true_and] at hjson
  obtain ⟨-, -, hpar, -⟩ := hjson
  cases parentDigest <;> cases parentDigest' <;> simp_all

/-- What decoding asks of a reference. -/
def ReferenceValid (reference : ObservationReference) : Prop :=
  validKind reference.kind = true ∧ validateDigest reference.digest = .ok ()

theorem decodeChange_toJson {change : ObservationChange} {previous : Option Nat}
    (hcnt : count < 2 ^ 64) (hidx : change.index < count)
    (hprev : ∀ index ∈ previous, index < change.index)
    (hval : ReferenceValid change.reference) :
    decodeChange count previous change.toJson = .ok change := by
  obtain ⟨index, kind, digest⟩ := change
  have hread : (Json.number (.posInt index)).asU64? = some index := if_pos (lt_trans hidx hcnt)
  have hordered : previous.all (fun pre => decide (pre < index)) = true := by
    cases previous with
    | none => rfl
    | some pre => exact decide_eq_true (hprev pre rfl)
  have hin : (some index).filter (fun i => decide (i < count)) = some index :=
    if_pos (decide_eq_true hidx)
  have hkind : (some kind).filter (fun k => validKind k) = some kind := if_pos hval.1
  simp [decodeChange, ObservationChange.toJson, Json.asObject?, orFail, hasKeys, memberOf,
    List.lookup, ensure, hread, hordered, hval.2, hin, hkind, Json.asString?]

theorem decodeChanges_toJson {previous : Option Nat} (hcnt : count < 2 ^ 64)
    (hchanges : ∀ change ∈ changes, change.index < count ∧ ReferenceValid change.reference)
    (hsort : changes.Pairwise fun a b => a.index < b.index)
    (hprev : ∀ index ∈ previous, ∀ change ∈ changes, index < change.index) :
    decodeChanges count previous (changes.map ObservationChange.toJson) = .ok changes := by
  induction changes generalizing previous with
  | nil => rfl
  | cons change changes ih =>
    rw [forall_mem_cons] at hchanges
    rw [pairwise_cons] at hsort
    have hfst := decodeChange_toJson hcnt hchanges.1.1
      (fun index hidx => hprev index hidx change mem_cons_self) hchanges.1.2
    have hnext : ∀ index ∈ some change.index, ∀ later ∈ changes, index < later.index := by
      intro index hidx
      cases hidx
      exact hsort.1
    rw [map_cons, decodeChanges, hfst, ok_bind, ih hchanges.2 hsort.2 hnext]
    rfl

theorem mem_changesFrom {change : ObservationChange} (h : change ∈ changesFrom parent refs) :
    refs[change.index]? = some change.reference := by
  obtain ⟨entry, hent, rfl⟩ := mem_map.mp h
  exact mk_mem_zipIdx_iff_getElem?.mp (mem_of_mem_filter hent)

theorem sorted_changesFrom (parent refs : List ObservationReference) :
    (changesFrom parent refs).Pairwise fun a b => a.index < b.index := by
  rw [changesFrom, pairwise_map]
  apply Pairwise.filter
  have hindices : (refs.zipIdx.map Prod.snd).Pairwise (· < ·) := by
    rw [zipIdx_map_snd]
    exact pairwise_lt_range'
  exact pairwise_map.mp hindices

/-- A first manifest lists every reference in its place. -/
theorem changesFrom_nil_ordered (refs : List ObservationReference) :
    (changesFrom [] refs).zipIdx.all (fun entry => entry.1.index == entry.2) = true := by
  have hall : changesFrom [] refs =
      refs.zipIdx.map fun entry => (⟨entry.2, entry.1⟩ : ObservationChange) := by
    rw [changesFrom]
    congr 1
    exact filter_eq_self.mpr fun _ _ => rfl
  rw [hall, all_eq_true]
  rintro ⟨change, i⟩ hent
  rw [mk_mem_zipIdx_iff_getElem?, getElem?_map, Option.map_eq_some_iff] at hent
  obtain ⟨⟨reference, j⟩, hj, rfl⟩ := hent
  rw [getElem?_zipIdx, Option.map_eq_some_iff] at hj
  obtain ⟨_, -, hpair⟩ := hj
  simp_all

/-- A manifest is read back from its text. -/
theorem decodeManifest_buildManifest (hread : ReadsManifests cas)
    (hroot : parentDigest = none → parent = [])
    (hpar : ∀ digest, parentDigest = some digest → validateDigest digest = .ok () ∧
      digest ≠ (buildManifest cas parentDigest parent refs).digest)
    (hreferences : ∀ reference ∈ refs, ReferenceValid reference)
    (hcnt : refs.length < 2 ^ 64) :
    decodeManifest cas (buildManifest cas parentDigest parent refs).digest
      (buildManifest cas parentDigest parent refs).contentJson =
        .ok (buildManifest cas parentDigest parent refs) := by
  have hchanges : ∀ change ∈ changesFrom parent refs,
      change.index < refs.length ∧ ReferenceValid change.reference := by
    intro change hchg
    obtain ⟨hlt, href⟩ := List.getElem?_eq_some_iff.mp (mem_changesFrom hchg)
    exact ⟨hlt, hreferences _ (href ▸ getElem_mem hlt)⟩
  have hvl := hread parentDigest refs.length (changesFrom parent refs) hcnt
    fun change hchg => (hchanges change hchg).1
  have hdecoded : decodeChanges refs.length none
      ((changesFrom parent refs).map ObservationChange.toJson) =
        .ok (changesFrom parent refs) :=
    decodeChanges_toJson hcnt hchanges (sorted_changesFrom parent refs) nofun
  have hlen : (Json.number (.posInt refs.length)).asU64? = some refs.length :=
    if_pos hcnt
  have hdig : decodeParentDigest (buildManifest cas parentDigest parent refs).digest
      (some ((parentDigest.map Json.string).getD .null)) = .ok parentDigest := by
    cases parentDigest with
    | none => rfl
    | some digest =>
      obtain ⟨hval, hne⟩ := hpar digest rfl
      simp [decodeParentDigest, hval, hne, ensure]
  have hplaces : (parentDigest.isSome || (changesFrom parent refs).zipIdx.all
      fun entry => entry.1.index == entry.2) = true := by
    cases parentDigest with
    | none =>
      rw [hroot rfl, changesFrom_nil_ordered]
      rfl
    | some digest => rfl
  simp only [decodeManifest, ok_rules, mapError_eq_ok]
  refine ⟨validateDigest_manifest cas _, beq_self_eq_true _, _, hvl, beq_self_eq_true _, _, rfl,
    rfl, parentDigest, hdig, refs.length, orFail_eq_ok.mpr hlen, _, rfl, _, hdecoded,
    hplaces, rfl⟩

end Manifests

/-! ### The manifests of a stored log -/

section Stored

variable {cas : ObservationCas} {sid : String} {hist : LogHistory} {used : List String}
  {item : Json} {content : ObservationContent}

theorem referenceValid_of_observation (h : observationContent cas item = .ok content) :
    ReferenceValid content.reference := by
  simp only [observationContent, ok_rules] at h
  obtain ⟨-, kind, hkind, rfl⟩ := h
  exact ⟨(Option.mem_filter_iff.mp hkind).2, validateDigest_content cas _⟩

theorem decodeContent_observation (h : observationContent cas item = .ok content)
    (hread : cas.fromStr item.render = .ok item) :
    decodeContent cas content.digest content.contentJson = .ok content := by
  simp only [observationContent, ok_rules, Bool.and_eq_true] at h
  obtain ⟨hobject, kind, hkind, rfl⟩ := h
  simp only [decodeContent, ok_rules, mapError_eq_ok, Bool.and_eq_true]
  exact ⟨validateDigest_content cas _, beq_self_eq_true _, item, hread, beq_self_eq_true _, kind,
    hkind, hobject, rfl⟩

theorem StoredLog.parent_valid (h : StoredLog cas sid hist) :
    ∀ digest, hist.parentDigest = some digest → validateDigest digest = .ok () := by
  induction h with
  | empty => nofun
  | plain _ _ ih => exact ih
  | request _ _ _ =>
    rintro digest hdig
    cases hdig
    exact validateDigest_manifest cas _

/-- **No manifest is its own parent.** It would have the text of its parent, which would then be
    its own parent too, and so on back to the first manifest, which has none. -/
theorem StoredLog.parent_ne (h : StoredLog cas sid hist)
    (hcol : NoCollision cas used)
    (hmans : ∀ manifest ∈ hist.manifests, manifestDigestDomain ++ manifest.contentJson ∈ used)
    (parent refs : List ObservationReference)
    (hused : manifestDigestDomain ++
      (buildManifest cas hist.parentDigest parent refs).contentJson ∈ used) :
    hist.parentDigest ≠
      some (buildManifest cas hist.parentDigest parent refs).digest := by
  induction h generalizing parent refs with
  | empty => nofun
  | plain _ _ ih => exact ih hmans parent refs hused
  | @request hist wire items contents hlog hline ih =>
    intro hself
    have hlast := hmans _ (mem_append_right _ (mem_singleton_self _))
    have hhash := (String.append_right_inj _).mp (Option.some.inj hself)
    have htext := (String.append_right_inj _).mp (hcol _ hlast _ hused hhash)
    exact ih (fun manifest hm => hmans manifest (mem_append_left _ hm)) hist.references
      (contents.map reference) hlast (parentDigest_of_render htext)

/-- The arrays of observations are not longer than memory. -/
def CountsFit (lines : List Json) : Prop :=
  ∀ wire ∈ lines, ∀ items, observationsOf wire = some (.array items) → items.length < 2 ^ 64

theorem StoredLog.decodes_manifest (h : StoredLog cas sid hist)
    (hread : ReadsManifests cas) (hcol : NoCollision cas used)
    (hmans : ∀ manifest ∈ hist.manifests, manifestDigestDomain ++ manifest.contentJson ∈ used)
    (hfits : CountsFit hist.originals) :
    ∀ manifest ∈ hist.manifests,
      decodeManifest cas manifest.digest manifest.contentJson = .ok manifest := by
  induction h with
  | empty => nofun
  | plain _ _ ih => exact ih hmans fun wire hwire => hfits wire (mem_append_left _ hwire)
  | @request hist wire items contents hlog hline ih =>
    have hearlier : ∀ manifest ∈ hist.manifests,
        manifestDigestDomain ++ manifest.contentJson ∈ used :=
      fun manifest hm => hmans manifest (mem_append_left _ hm)
    have hlast := hmans _ (mem_append_right _ (mem_singleton_self _))
    have hst := mapM_eq_ok_iff.mp hline.stored
    intro manifest hman
    rcases mem_append_last.mp hman with hold | rfl
    · exact ih hearlier (fun wire hwire => hfits wire (mem_append_left _ hwire)) manifest hold
    · apply decodeManifest_buildManifest hread hlog.references_eq_nil
      · intro digest hdig
        refine ⟨hlog.parent_valid digest hdig, ?_⟩
        rintro rfl
        exact hlog.parent_ne hcol hearlier _ _ hlast hdig
      · intro reference href
        obtain ⟨content, hcon, rfl⟩ := mem_map.mp href
        obtain ⟨item, -, hitem⟩ := exists_of_mem_forall₂ hst hcon
        exact referenceValid_of_observation hitem
      · rw [length_map, ← hst.length_eq]
        exact hfits wire (mem_append_right _ (mem_singleton_self _)) items hline.observations

end Stored

/-! ### Lines that can be stored -/

/-- What compaction asks of an observation: an object of one of five kinds, without a digest of
    its own, whose text can be read back. -/
structure StorableObservation (cas : ObservationCas) (item : Json) : Prop where
  isObject : item.isObject = true
  noDigest : item.get? "contentDigest" = none
  kind : ∃ kind, item.get? "kind" = some (.string kind) ∧ validKind kind = true
  readable : cas.fromStr item.render = .ok item

/-- A model request of the session with a list of such observations, or any other line. -/
def StorableLine (cas : ObservationCas) (sid : String) (wire : Json) : Prop :=
  isModelRequest wire = true → wire.get? "sessionId" = some (.string sid) ∧
    ∃ items, observationsOf wire = some (.array items) ∧ ∀ item ∈ items, StorableObservation cas item

section Lines

variable {cas : ObservationCas} {sid : String} {item wire : Json} {items : List Json}

theorem asString?_eq_some {value : Json} {text : String} :
    value.asString? = some text ↔ value = .string text := by
  cases value <;> simp [Json.asString?]

/-- The contents of a request are made exactly when its observations can be stored, but for the
    reading. -/
theorem observationContent_eq_ok_iff :
    (∃ content, observationContent cas item = .ok content) ↔ item.isObject = true ∧
      item.get? "contentDigest" = none ∧
      ∃ kind, item.get? "kind" = some (.string kind) ∧ validKind kind = true := by
  simp only [observationContent, ok_rules, Bool.and_eq_true, Option.isNone_iff_eq_none,
    Option.filter_eq_some_iff, Option.bind_eq_some_iff, asString?_eq_some, exists_eq_right]
  constructor
  · rintro ⟨content, ⟨hobject, hnone⟩, kind, hkind, -⟩
    exact ⟨hobject, hnone, kind, hkind⟩
  · rintro ⟨hobject, hnone, kind, hkind⟩
    exact ⟨_, ⟨hobject, hnone⟩, kind, hkind, rfl⟩

theorem requireWireSession_eq_ok :
    requireWireSession wire sid = .ok () ↔
      wire.get? "sessionId" = some (.string sid) := by
  simp only [requireWireSession, ensure_eq_ok, beq_iff_eq, Option.bind_eq_some_iff,
    asString?_eq_some, exists_eq_right]

end Lines

/-! ### One batch -/

section Batch

variable {cas : ObservationCas} {sid : String} {base hist : LogHistory}
  {state : CompactState} {done wires : List Json} {wire : Json} {used : List String}
  {files : ContentFiles}

/-- Contents that their digests tell apart do not conflict. -/
theorem addContents_eq_ok {known added : List ObservationContent}
    {table : Table String ObservationContent}
    (hunique : ∀ a ∈ known, ∀ b ∈ known, a.digest = b.digest → a = b)
    (htable : ∀ digest content, table[digest]? = some content →
      content ∈ known ∧ content.digest = digest)
    (hadded : ∀ content ∈ added, content ∈ known) :
    ∃ table', added.foldlM addContent table = .ok table' := by
  induction added generalizing table with
  | nil => exact ⟨table, rfl⟩
  | cons content added ih =>
    rw [forall_mem_cons] at hadded
    rw [foldlM_cons, addContent]
    cases hfd : table[content.digest]? with
    | some existing =>
      obtain ⟨hkn, hdig⟩ := htable _ _ hfd
      obtain rfl := hunique _ hkn _ hadded.1 hdig
      obtain ⟨table', hrest⟩ := ih htable hadded.2
      exact ⟨table', by simpa [ensure] using hrest⟩
    | none =>
      refine ih ?_ hadded.2
      intro digest other hoth
      obtain ⟨hdig, rfl⟩ | ⟨-, hold⟩ := Table.found_of_insert hoth
      · exact ⟨hadded.1, hdig⟩
      · exact htable digest other hold

theorem compactWire_accepts (h : Compacted cas sid base state done hist)
    (hcol : NoCollision cas used)
    (hhashed : ∀ content ∈ base.contents, contentDigestDomain ++ content.contentJson ∈ used)
    (hused : hashedContents (done ++ [wire]) ⊆ used) (hprop : wire.proper = true)
    (hstorable : StorableLine cas sid wire) :
    ∃ state', compactWire cas sid state wire = .ok state' := by
  unfold compactWire
  by_cases hreq : isModelRequest wire = true
  · obtain ⟨hses, items, hitems, hall⟩ := hstorable hreq
    obtain ⟨contents, hcons⟩ : ∃ contents, items.mapM (observationContent cas) = .ok contents :=
      exists_mapM_eq_ok fun item hitem => observationContent_eq_ok_iff.mpr
        ⟨(hall item hitem).isObject, (hall item hitem).noDigest, (hall item hitem).kind⟩
    have hline : RequestLine cas sid wire items contents :=
      ⟨hreq, requireWireSession_eq_ok.mpr hses, hitems,
        proper_of_mem_observations hprop hitems, hcons⟩
    rw [hashedContents_append, append_subset] at hused
    have htexts : ∀ content ∈ (hist.request cas wire contents).contents,
        contentDigestDomain ++ content.contentJson ∈ used := by
      intro content hcon
      rcases mem_append.mp hcon with hold | hnew
      · rcases h.hashed content hold with hbase | hdone
        · exact hhashed content hbase
        · exact hused.1 hdone
      · exact hused.2 (hline.mem_hashedContents content hnew)
    obtain ⟨table, hadd⟩ := addContents_eq_ok
      (fun a ha b hb => (h.log.request hline).content_unique hcol htexts ha hb)
      (fun digest content hfd => (h.table digest content hfd).imp_left (mem_append_left _))
      (fun content (hm : content ∈ newContents (hist.references.map (·.digest)) contents) =>
        mem_append_right hist.contents (mem_of_mem_newContents hm))
    rw [if_pos hreq, hline.session, ok_bind, hitems]
    simp only [Option.bind_some, Json.asArray?, orFail, ok_bind, prepareObservationManifest,
      hcons, h.references, pure_bind, hadd]
    exact ⟨_, rfl⟩
  · rw [if_neg hreq]
    exact ⟨_, rfl⟩

/-- The contents of new lines can be read, as those that were stored before can. -/
theorem Compacted.decodes_content (h : Compacted cas sid base state wires hist)
    (hst : HistoryStored cas files base) (hprop : ∀ wire ∈ wires, wire.proper = true)
    (hstorable : ∀ wire ∈ wires, StorableLine cas sid wire) :
    ∀ content ∈ hist.contents,
      decodeContent cas content.digest content.contentJson = .ok content := by
  intro content hcon
  obtain ⟨item, hitemProper, hitem⟩ := h.log.exists_observation content hcon
  rcases h.hashed content hcon with hold | hnew
  · exact (hst.contents content hold).2
  · obtain ⟨wire, hwire, htext⟩ := mem_flatMap.mp hnew
    obtain ⟨hm, hreq⟩ := mem_filter.mp hwire
    obtain ⟨-, items, hitems, hall⟩ := hstorable wire hm hreq
    rw [hitems] at htext
    obtain ⟨other, hoth, hsame⟩ := mem_map.mp htext
    rw [String.append_right_inj, (observationContent_fields hitem).2] at hsame
    have hotherProper := proper_of_mem_observations (hprop wire hm) hitems other hoth
    obtain rfl := Json.render_injective hotherProper hitemProper hsame
    exact decodeContent_observation hitem (hall other hoth).readable

variable (hinv : SessionInvariant cas sid used files hist)
  (hcol : NoCollision cas used) (hprop : ∀ wire ∈ wires, wire.proper = true)
  (hstorable : ∀ wire ∈ wires, StorableLine cas sid wire)

include hinv hcol hprop hstorable

theorem compactWires_accepts (hused : hashedContents wires ⊆ used) :
    ∃ state, compactWires cas sid hist.log files wires = .ok state := by
  rw [compactWires_eq hinv.log hinv.stored]
  obtain ⟨state, hsta, -⟩ := foldlM_progress
    (fun state done => ∃ hist', Compacted cas sid hist state done hist')
    ⟨hist, compacted_start hinv.log⟩
    (show ∀ state wire front back, wires = front ++ wire :: back →
        (∃ hist', Compacted cas sid hist state front hist') →
        ∃ state', compactWire cas sid state wire = .ok state' ∧
          ∃ hist', Compacted cas sid hist state' (front ++ [wire]) hist' by
      rintro state wire front back rfl ⟨hist', h⟩
      have hm : wire ∈ front ++ wire :: back := mem_append_right _ mem_cons_self
      rw [append_cons, hashedContents_append, append_subset] at hused
      obtain ⟨state', hstep⟩ := compactWire_accepts h hcol hinv.hashed.contents hused.1
        (hprop wire hm) (hstorable wire hm)
      exact ⟨state', hstep, compactWire_compacted h (hprop wire hm) hstep⟩)
  exact ⟨state, hsta⟩

/-- **Acceptance.** A batch of lines that can be stored is accepted. -/
theorem SessionInvariant.accepts (hread : ReadsManifests cas)
    (hpath : validateSessionLogPath cas sid = .ok ())
    (hfits : CountsFit (hist.originals ++ wires))
    (hused : hashedBatch cas sid hist.log files wires ⊆ used) :
    ∃ stored, (compactAndInstallWires cas sid hist.log files wires).1 = .ok stored := by
  rw [compactAndInstallWires, hpath]
  by_cases hany : wires.any isModelRequest = true
  · obtain ⟨state, hsta⟩ := compactWires_accepts hinv hcol hprop hstorable
      (append_subset.mp hused).1
    obtain ⟨hist', hcomp, hhashed⟩ := hinv.compacted hprop hsta hused
    have hcons := hcomp.decodes_content hinv.stored hprop hstorable
    have hmans := hcomp.log.decodes_manifest hread hcol hhashed.manifests
      (hcomp.originals ▸ hfits)
    have hverified : (state.installations cas).forM (fun file => file.verify file.contentJson) =
        .ok () := by
      apply forM_eq_ok
      intro file hfile
      rcases mem_append.mp hfile with hfile | hfile
      · obtain ⟨⟨digest, content⟩, hent, rfl⟩ := mem_map.mp hfile
        obtain ⟨hm, -⟩ := hcomp.table digest content (Table.mem_toList.mp hent)
        simp only [contentInstallation, hcons content hm, ok_bind, ensure_eq_ok,
          beq_self_eq_true]
      · obtain ⟨manifest, hman, rfl⟩ := mem_map.mp hfile
        have hm : manifest ∈ hist'.manifests := by
          rw [hcomp.manifests]
          exact mem_append_right _ hman
        simp only [manifestInstallation, hmans manifest hm, ok_bind, ensure_eq_ok,
          beq_self_eq_true]
    have hres := installAll_result hcol hinv.named (hcomp.named hhashed)
    simp only [if_pos hany, hsta, hres, hverified]
    exact ⟨state.wires, rfl⟩
  · simp only [if_neg hany]
    exact ⟨wires, rfl⟩

end Batch

/-! ### Whole sessions -/

/-- The lines of the batches that are to be appended, as they are given. -/
def appendedLines (steps : List StorageStep) : List Json :=
  steps.flatMap fun
    | .append wires => wires.unattach
    | _ => []

section Sessions

variable {cas : ObservationCas} {sid : String} {used : List String}
  {session : ObservationSession} {hist : LogHistory}

theorem appendedLines_cons (event : StorageStep) (steps : List StorageStep) :
    appendedLines (event :: steps) = appendedLines [event] ++ appendedLines steps := by
  rw [appendedLines, appendedLines, flatMap_cons, flatMap_singleton]
  rfl

section Accepted

variable (hcol : NoCollision cas used) (hread : ReadsManifests cas)
  (hpath : validateSessionLogPath cas sid = .ok ())

include hcol hread hpath

/-- One step appends what it is given. -/
theorem originals_step (h : SessionAt cas sid used session hist) (event : StorageStep)
    (hused : (session.step cas sid event).hashed ⊆ used)
    (hstorable : ∀ wire ∈ appendedLines [event], StorableLine cas sid wire)
    (hfits : CountsFit (session.originals ++ appendedLines [event])) :
    (session.step cas sid event).originals = session.originals ++ appendedLines [event] := by
  cases event with
  | install wires | cleanup listing => exact (append_nil _).symm
  | append wires =>
    have hlines : appendedLines [.append wires] = wires.unattach := append_nil _
    rw [hlines] at hstorable hfits ⊢
    rw [ObservationSession.hashed_append] at hused
    have hbatch := (append_subset.mp hused).2
    rw [← h.log] at hbatch
    rw [← h.originals] at hfits
    obtain ⟨stored, hst⟩ := h.invariant.accepts hcol proper_of_mem_unattach hstorable
      hread hpath hfits hbatch
    rw [h.log] at hst
    rw [ObservationSession.step, hst]

/-- Every step does. -/
theorem originals_run (h : SessionAt cas sid used session hist)
    (steps : List StorageStep) (hused : (session.run cas sid steps).hashed ⊆ used)
    (hstorable : ∀ wire ∈ appendedLines steps, StorableLine cas sid wire)
    (hfits : CountsFit (session.originals ++ appendedLines steps)) :
    (session.run cas sid steps).originals = session.originals ++ appendedLines steps := by
  induction steps generalizing session hist with
  | nil => exact (append_nil _).symm
  | cons event steps ih =>
    rw [appendedLines_cons] at hstorable hfits ⊢
    rw [← append_assoc] at hfits
    have hfst := List.Subset.trans
      (hashed_subset_run cas sid (session.step cas sid event) steps) hused
    have hstep := originals_step hcol hread hpath h event hfst
      (fun wire hwire => hstorable wire (mem_append_left _ hwire))
      (fun wire hwire => hfits wire (mem_append_left _ hwire))
    obtain ⟨hist', hnext⟩ := Alike.step ⟨h, h, rfl⟩ hcol event hfst
    rw [← hstep] at hfits
    have hrest := ih hnext.left hused
      (fun wire hwire => hstorable wire (mem_append_right _ hwire)) hfits
    rw [hstep, append_assoc] at hrest
    exact hrest

end Accepted

/-- Lines that were stored can be stored. -/
theorem storableLine_of_stored {wire stored : Json}
    (h : StoredAs cas sid session.files wire stored) : StorableLine cas sid wire := by
  intro hreq
  cases h with
  | plain hwire =>
    rw [hwire] at hreq
    cases hreq
  | @request items contents n digest hline hcons hresv =>
    refine ⟨requireWireSession_eq_ok.mp hline.session, items, hline.observations, ?_⟩
    intro item hitem
    obtain ⟨content, hcon, hst⟩ :=
      exists_of_mem_forall₂ (mapM_eq_ok_iff.mp hline.stored).flip hitem
    obtain ⟨hobject, hnone, hkind⟩ := observationContent_eq_ok_iff.mp ⟨content, hst⟩
    refine ⟨hobject, hnone, hkind, ?_⟩
    have hdec := (hcons content hcon).2
    simp only [decodeContent, ok_rules, mapError_eq_ok] at hdec
    obtain ⟨-, -, value, hvl, hrender, -⟩ := hdec
    rw [beq_iff_eq, (observationContent_fields hst).2] at hrender
    rw [(observationContent_fields hst).2] at hvl
    have hsame := Json.render_injective (cas.fromStr_proper _ _ hvl) (hline.proper item hitem)
      hrender
    rw [hvl, hsame]

/-! ### What is hashed -/

/-! ### A sample -/

/-- A reader of compact JSON. -/
def sampleReader (text : String) : Except String Json :=
  match (Json.read? text).filter (·.proper) with
  | some value => .ok value
  | none => .error "invalid JSON"

theorem sampleReader_proper (text : String) (value : Json) (h : sampleReader text = .ok value) :
    value.proper = true := by
  unfold sampleReader at h
  split at h
  · rename_i found hfd
    cases h
    exact (Option.mem_filter_iff.mp hfd).2
  · cases h

def sampleCas : ObservationCas where
  sha256Hex text := sampleSha256Hex (utf8Bytes text)
  sha256Hex_valid _ := isLowerHex_hexDigits _
  fromStr := sampleReader
  fromStr_proper := sampleReader_proper
  logStem := "s"
  logExtension := "jsonl"
  contentDirectory := "s.contents"
  notFound := "not found"

theorem sampleCas_reads {value : Json} (h : value.proper = true) :
    sampleCas.fromStr value.render = .ok value := by
  have hfilter : (some value).filter (fun value => value.proper) = some value := if_pos h
  simp only [sampleCas, sampleReader, Json.read?_render h, hfilter]

theorem readsManifests_sample : ReadsManifests sampleCas :=
  fun _ _ _ _ _ => sampleCas_reads (manifestJson_proper ..)

def messageSample (text : String) : Json :=
  .object [("kind", .string "message"), ("text", .string text)]

theorem properItems_messageSample (texts : List String) :
    Json.properItems (texts.map messageSample) = true := by
  induction texts with
  | nil => rfl
  | cons text texts ih =>
    rw [map_cons, Json.properItems, ih]
    rfl

/-- A model request whose observations are messages. -/
def requestJson (items : List Json) : Json :=
  .object [("payload", .object [("observations", .array items)]), ("sessionId", .string "s"),
    ("type", .string "model_request_started")]

theorem requestJson_proper (texts : List String) :
    (requestJson (texts.map messageSample)).proper = true := by
  simp [requestJson, Json.proper, Json.properMembers, properItems_messageSample]

def requestSample (texts : List String) : WireValue :=
  ⟨requestJson (texts.map messageSample), requestJson_proper texts⟩

theorem storableLine_requestSample (texts : List String) :
    StorableLine sampleCas "s" (requestSample texts) := by
  refine fun _ => ⟨rfl, texts.map messageSample, rfl, ?_⟩
  intro item hitem
  obtain ⟨text, -, rfl⟩ := mem_map.mp hitem
  have hprop : (messageSample text).proper = true := rfl
  have hnone : (messageSample text).get? "contentDigest" = none := by
    simp [messageSample, Json.get?, List.lookup]
  have hkind : (messageSample text).get? "kind" = some (.string "message") := by
    simp [messageSample, Json.get?, List.lookup]
  exact ⟨rfl, hnone, ⟨"message", hkind, by decide⟩, sampleCas_reads hprop⟩

/-- One request is compacted and not appended; the observations of the others change,
    become more and become fewer. -/
def sampleSteps : List StorageStep :=
  [.install [requestSample []],
    .append [requestSample ["a"], requestSample ["b", "a"], requestSample ["b"]]]

theorem noCollision_sample :
    NoCollision sampleCas (ObservationSession.empty.run sampleCas "s" sampleSteps).hashed := by
  rw [sampleSteps, ObservationSession.run, foldl_cons, foldl_cons, foldl_nil,
    ObservationSession.hashed_append]
  unfold NoCollision
  decide +kernel

/-- **Lossless storage.** Over any steps, in which batches are compacted and appended, or
    compacted and not appended, or the directory is cleaned up: hydration gives exactly the given
    lines back, for the whole log and for each line alone, if and only if all of them can be
    stored. -/
theorem hydrate_run_iff (cas : ObservationCas) (sid : String)
    (hpath : validateSessionLogPath cas sid = .ok ()) (hread : ReadsManifests cas)
    (steps : List StorageStep) (hfits : CountsFit (appendedLines steps))
    (hcol : NoCollision cas (ObservationSession.empty.run cas sid steps).hashed) :
    (hydrateWires cas sid (ObservationSession.empty.run cas sid steps).files
        (ObservationSession.empty.run cas sid steps).log = .ok (appendedLines steps) ∧
      List.Forall₂
        (fun original stored => hydrateWires cas sid
          (ObservationSession.empty.run cas sid steps).files [stored] = .ok [original])
        (appendedLines steps) (ObservationSession.empty.run cas sid steps).log) ↔
      ∀ wire ∈ appendedLines steps, StorableLine cas sid wire := by
  obtain ⟨hist, h⟩ := exists_sessionAt_run steps hcol (List.Subset.refl _)
  have hhydrated := hydrate_originals hpath h
  constructor
  · rintro ⟨hwhole, -⟩ wire hwire
    rw [hhydrated.1] at hwhole
    rw [← Except.ok.inj hwhole] at hwire
    obtain ⟨stored, -, hst⟩ := exists_of_mem_forall₂ h.storedAs.flip hwire
    exact storableLine_of_stored hst
  · intro hstorable
    have horiginals := originals_run hcol hread hpath (sessionAt_empty cas sid _) steps
      (List.Subset.refl _) hstorable hfits
    rw [show appendedLines steps = _ from horiginals.symm]
    exact hhydrated

/-- Observations that change are restored. -/
theorem hydrate_run_changing :
    hydrateWires sampleCas "s" (ObservationSession.empty.run sampleCas "s" sampleSteps).files
        (ObservationSession.empty.run sampleCas "s" sampleSteps).log =
      .ok ([["a"], ["b", "a"], ["b"]].map fun texts =>
        requestJson (texts.map messageSample)) := by
  have hlines : ∀ wire ∈ appendedLines sampleSteps,
      ∃ texts ∈ [["a"], ["b", "a"], ["b"]],
        requestJson (texts.map messageSample) = wire := by
    intro wire hwire
    exact mem_map.mp hwire
  have hfits : CountsFit (appendedLines sampleSteps) := by
    intro wire hwire items hitems
    obtain ⟨texts, htexts, rfl⟩ := hlines wire hwire
    cases hitems
    have hall : ∀ texts ∈ [["a"], ["b", "a"], ["b"]], texts.length < 2 ^ 64 := by decide
    rw [length_map]
    exact hall texts htexts
  refine ((hydrate_run_iff sampleCas "s" (by decide) readsManifests_sample sampleSteps hfits
    noCollision_sample).mpr ?_).1
  intro wire hwire
  obtain ⟨texts, -, rfl⟩ := hlines wire hwire
  exact storableLine_requestSample texts

def uptakeSample : WireValue :=
  ⟨requestJson [.object [("inputIds", .array [.string "i1"]), ("kind", .string "input_uptake")]],
    by decide⟩

/-- **Refused observations.** A request with an observation of a kind that the runtime writes and
    compaction does not know is refused, so hydration does not give it back. -/
theorem input_uptake_refused :
    validateSessionLogPath sampleCas "s" = .ok () ∧
      NoCollision sampleCas
        (ObservationSession.empty.run sampleCas "s" [.append [uptakeSample]]).hashed ∧
      (compactAndInstallWires sampleCas "s" [] ∅ [uptakeSample.1]).1 =
        fail "model observation storage kind is invalid" ∧
      hydrateWires sampleCas "s"
          (ObservationSession.empty.run sampleCas "s" [.append [uptakeSample]]).files
          (ObservationSession.empty.run sampleCas "s" [.append [uptakeSample]]).log ≠
        .ok (appendedLines [.append [uptakeSample]]) := by
  unfold NoCollision
  decide +kernel

/-- **Cleanups are invisible.** A cleanup at any point of a session, with any files in the
    directory and in any order, changes neither the log nor what hydration gives, then and
    after any further steps. -/
theorem cleanup_invisible (cas : ObservationCas) (sid : String)
    (pre after : List StorageStep) (listing : List String) (hcol : NoCollision cas
      (ObservationSession.empty.run cas sid (pre ++ after)).hashed) :
    (ObservationSession.empty.run cas sid (pre ++ .cleanup listing :: after)).log =
        (ObservationSession.empty.run cas sid (pre ++ after)).log ∧
      (ObservationSession.empty.run cas sid (pre ++ .cleanup listing :: after)).originals =
        (ObservationSession.empty.run cas sid (pre ++ after)).originals ∧
      hydrateWires cas sid
          (ObservationSession.empty.run cas sid (pre ++ .cleanup listing :: after)).files
          (ObservationSession.empty.run cas sid (pre ++ .cleanup listing :: after)).log =
        hydrateWires cas sid
          (ObservationSession.empty.run cas sid (pre ++ after)).files
          (ObservationSession.empty.run cas sid (pre ++ after)).log := by
  simp only [ObservationSession.run_append] at hcol ⊢
  have hpre := hashed_subset_run cas sid
    (ObservationSession.empty.run cas sid pre) after
  obtain ⟨hist, h⟩ := exists_sessionAt_run pre hcol hpre
  -- the cleaned session is like the other one, and stays so
  have hclean := h.invariant.cleanup listing
  rw [h.log] at hclean
  have hcleaned : Alike cas sid _ (ObservationSession.empty.run cas sid pre)
      ((ObservationSession.empty.run cas sid pre).step cas sid (.cleanup listing))
      hist := ⟨h, ⟨hclean, h.log, h.originals⟩, rfl⟩
  obtain ⟨hist', halike⟩ := hcleaned.run hcol after (List.Subset.refl _)
  refine ⟨halike.log.symm, ?_, ?_⟩
  · exact halike.right.originals.symm.trans halike.left.originals
  · cases hpath : validateSessionLogPath cas sid with
    | error failure => simp only [hydrateWires, hpath, Outcome.error_bind]
    | ok u =>
      have hleft := hydrateWires_eq_ok hpath halike.left.storedAs
      have hright := hydrateWires_eq_ok hpath halike.right.storedAs
      rw [← halike.left.originals] at hleft
      rw [← halike.right.originals] at hright
      exact hright.trans hleft.symm

/-- The names of all files, the orphan's among them. -/
def sampleListing : List String :=
  (ObservationSession.empty.run sampleCas "s" sampleSteps).files.keys

/-- A cleanup after the requests of a chain of manifests, with a manifest among the files that
    the log does not name. -/
theorem cleanup_invisible_sample :
    hydrateWires sampleCas "s"
        (ObservationSession.empty.run sampleCas "s" (sampleSteps ++ [.cleanup sampleListing])).files
        (ObservationSession.empty.run sampleCas "s" (sampleSteps ++ [.cleanup sampleListing])).log =
      hydrateWires sampleCas "s" (ObservationSession.empty.run sampleCas "s" sampleSteps).files
        (ObservationSession.empty.run sampleCas "s" sampleSteps).log :=
  (cleanup_invisible sampleCas "s" sampleSteps [] sampleListing noCollision_sample).2.2

end Sessions

end Centaeris
