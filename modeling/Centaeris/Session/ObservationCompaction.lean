import Centaeris.Session.ObservationLog

namespace Centaeris

open Foundation List LogHistory Outcome

/-!
# Compaction
-/

/-! ### Contents that are set aside -/

variable {contents : List ObservationContent} {cont : ObservationContent}

theorem mem_of_mem_newContents {known : List String} (h : cont ∈ newContents known contents) :
    cont ∈ contents := by
  induction contents generalizing known with
  | nil => cases h
  | cons first contents ih =>
    rw [newContents] at h
    split at h
    · exact mem_cons_of_mem first (ih h)
    · rcases mem_cons.mp h with rfl | h
      · exact mem_cons_self
      · exact mem_cons_of_mem first (ih h)

/-- Which contents are set aside to be stored. -/
theorem newContents_cover (known : List String) (h : cont ∈ contents) :
    cont.digest ∈ known ∨ ∃ added ∈ newContents known contents, added.digest = cont.digest := by
  induction contents generalizing known with
  | nil => cases h
  | cons first contents ih =>
    rw [newContents]
    split
    · rename_i hkn
      rcases mem_cons.mp h with rfl | h
      · exact .inl (contains_iff_mem.mp hkn)
      · exact ih known h
    · rcases mem_cons.mp h with rfl | h
      · exact .inr ⟨cont, mem_cons_self, rfl⟩
      · rcases ih (first.digest :: known) h with hkn | ⟨added, hadded, hdig⟩
        · rcases mem_cons.mp hkn with hfst | hkn
          · exact .inr ⟨first, mem_cons_self, hfst.symm⟩
          · exact .inl hkn
        · exact .inr ⟨added, mem_cons_of_mem first hadded, hdig⟩

variable {table : Table String ObservationContent}

/-- What the contents that are to be stored are afterwards. -/
theorem addContents_spec {table' : Table String ObservationContent}
    {added : List ObservationContent} (h : added.foldlM addContent table = .ok table') :
    (∀ (digest : String) cont, table[digest]? = some cont →
        table'[digest]? = some cont) ∧
      (∀ cont ∈ added, table'[cont.digest]? = some cont) ∧
      ∀ (digest : String) cont, table'[digest]? = some cont →
        table[digest]? = some cont ∨ (cont ∈ added ∧ cont.digest = digest) := by
  induction added generalizing table with
  | nil =>
    obtain rfl := pure_eq_ok.mp h
    exact ⟨fun _ _ h => h, nofun, fun _ _ h => .inl h⟩
  | cons first added ih =>
    rw [foldlM_cons, bind_eq_ok] at h
    obtain ⟨mid, hfst, hrest⟩ := h
    obtain ⟨hkept, hnew, hback⟩ := ih hrest
    rw [addContent] at hfst
    split at hfst
    · -- the content is there already
      rename_i existing hex
      simp only [ok_rules, beq_iff_eq] at hfst
      obtain ⟨rfl, rfl⟩ := hfst
      refine ⟨hkept, ?_, ?_⟩
      · rw [forall_mem_cons]
        exact ⟨hkept _ _ hex, hnew⟩
      · intro digest cont hcon
        rcases hback digest cont hcon with h | ⟨hm, hdig⟩
        · exact .inl h
        · exact .inr ⟨mem_cons_of_mem _ hm, hdig⟩
    · rename_i hnone
      obtain rfl := pure_eq_ok.mp hfst
      refine ⟨?_, ?_, ?_⟩
      · intro digest cont hcon
        apply hkept
        exact Table.insert_keeps hnone hcon
      · rw [forall_mem_cons]
        exact ⟨hkept _ _ (by rw [Table.getElem?_insert, if_pos rfl]), hnew⟩
      · intro digest cont hcon
        rcases hback digest cont hcon with hmid | ⟨hm, hdig⟩
        · obtain ⟨hdig, rfl⟩ | ⟨-, hold⟩ := Table.found_of_insert hmid
          · exact .inr ⟨mem_cons_self, hdig⟩
          · exact .inl hold
        · exact .inr ⟨mem_cons_of_mem _ hm, hdig⟩

/-! ### The loop over new lines -/

/-- The observations of a line, and the texts of theirs that are hashed. -/
def hashedContents (wires : List Json) : List String :=
  (wires.filter isModelRequest).flatMap fun wire =>
    (((observationsOf wire).bind Json.asArray?).getD []).map fun item =>
      contentDigestDomain ++ item.render

/-- Where the loop over new lines stands: a longer history, of which the loop has the new part. -/
structure Compacted (cas : ObservationCas) (sid : String) (base : LogHistory)
    (state : CompactState) (done : List Json) (hist : LogHistory) : Prop where
  log : StoredLog cas sid hist
  originals : hist.originals = base.originals ++ done
  wires : hist.log = base.log ++ state.wires
  parentDigest : state.parentDigest = hist.parentDigest
  references : state.parentReferences = hist.references
  manifests : hist.manifests = base.manifests ++ state.manifests
  hashed : ∀ cont ∈ hist.contents, cont ∈ base.contents ∨
    contentDigestDomain ++ cont.contentJson ∈ hashedContents done
  kept : base.contents ⊆ hist.contents
  covered : ∀ cont ∈ hist.contents,
    (∃ known ∈ base.contents, known.digest = cont.digest) ∨
      ∃ known, state.contents[cont.digest]? = some known
  table : ∀ digest cont, state.contents[digest]? = some cont →
    cont ∈ hist.contents ∧ cont.digest = digest

section Loop

variable {cas : ObservationCas} {sid : String} {base hist : LogHistory}
  {state state' : CompactState} {done : List Json} {wire : Json}

theorem compacted_start (h : StoredLog cas sid base) :
    Compacted cas sid base ⟨∅, base.parentDigest, base.references, [], []⟩ [] base where
  log := h
  originals := (append_nil _).symm
  wires := (append_nil _).symm
  parentDigest := rfl
  references := rfl
  manifests := (append_nil _).symm
  hashed _ hcon := .inl hcon
  kept := List.Subset.refl _
  covered cont hcon := .inl ⟨cont, hcon, rfl⟩
  table digest cont h := by
    rw [Table.getElem?_empty] at h
    cases h

theorem hashedContents_append (wires wires' : List Json) :
    hashedContents (wires ++ wires') = hashedContents wires ++ hashedContents wires' := by
  rw [hashedContents, filter_append, flatMap_append]
  rfl

theorem Compacted.plain (h : Compacted cas sid base state done hist)
    (hwire : isModelRequest wire = false) :
    Compacted cas sid base { state with wires := state.wires ++ [wire] } (done ++ [wire])
      (hist.plain wire) where
  log := h.log.plain hwire
  originals := by rw [LogHistory.plain, h.originals, append_assoc]
  wires := by rw [LogHistory.plain, h.wires, append_assoc]
  parentDigest := h.parentDigest
  references := h.references
  manifests := h.manifests
  hashed cont hcon := by
    rw [hashedContents_append, mem_append]
    exact (h.hashed cont hcon).imp_right .inl
  kept := h.kept
  covered := h.covered
  table := h.table

variable {items : List Json}

theorem RequestLine.mem_hashedContents (hline : RequestLine cas sid wire items contents) :
    ∀ cont ∈ contents, contentDigestDomain ++ cont.contentJson ∈ hashedContents [wire] := by
  intro cont hcon
  obtain ⟨item, hitem, hst⟩ :=
    exists_of_mem_forall₂ (mapM_eq_ok_iff.mp hline.stored) hcon
  rw [hashedContents, filter_singleton, hline.isRequest, cond_true, mem_flatMap]
  refine ⟨wire, mem_singleton_self wire, ?_⟩
  rw [hline.observations, (observationContent_fields hst).2]
  exact mem_map_of_mem hitem

theorem Compacted.request (h : Compacted cas sid base state done hist)
    (hline : RequestLine cas sid wire items contents)
    (hadd : (newContents (hist.references.map (·.digest)) contents).foldlM addContent
      state.contents = .ok table) :
    Compacted cas sid base
      ⟨table, some (hist.nextManifest cas contents).digest,
        contents.map ObservationContent.reference,
        state.manifests ++ [hist.nextManifest cas contents],
        state.wires ++ [withObservations wire
          (manifestPointer (hist.nextManifest cas contents).digest)]⟩
      (done ++ [wire]) (hist.request cas wire contents) := by
  obtain ⟨hkept, hnew, hback⟩ := addContents_spec hadd
  -- what covered an earlier content covers it still
  have hearlier : ∀ cont ∈ hist.contents,
      (∃ known ∈ base.contents, known.digest = cont.digest) ∨
        ∃ known, table[cont.digest]? = some known := by
    intro cont hcon
    refine (h.covered cont hcon).imp_right ?_
    rintro ⟨known, hkn⟩
    exact ⟨known, hkept _ _ hkn⟩
  constructor
  case log => exact h.log.request hline
  case originals => rw [LogHistory.request, h.originals, append_assoc]
  case wires => rw [LogHistory.request, h.wires, append_assoc]
  case parentDigest => rfl
  case references => rfl
  case manifests => rw [LogHistory.request, h.manifests, append_assoc]
  case hashed =>
    intro cont hcon
    rw [hashedContents_append, mem_append]
    rcases mem_append.mp hcon with hcon | hcon
    · exact (h.hashed cont hcon).imp_right .inl
    · exact .inr (.inr (hline.mem_hashedContents cont hcon))
  case kept => exact List.Subset.trans h.kept (subset_append_left _ _)
  case covered =>
    intro cont hcon
    rcases mem_append.mp hcon with hcon | hcon
    · exact hearlier cont hcon
    · rcases newContents_cover (hist.references.map (·.digest)) hcon with
        hkn | ⟨added, hadded, hdig⟩
      · -- the request before has the digest
        obtain ⟨reference, href, hdig⟩ := mem_map.mp hkn
        obtain ⟨earlier, hm, rfl⟩ := h.log.exists_content reference href
        have hcovered := hearlier earlier hm
        have hsame : earlier.digest = cont.digest := hdig
        rwa [hsame] at hcovered
      · exact .inr ⟨added, hdig ▸ hnew added hadded⟩
  case table =>
    intro digest cont hcon
    rcases hback digest cont hcon with hold | ⟨hm, hdig⟩
    · obtain ⟨hm, hdig⟩ := h.table digest cont hold
      exact ⟨mem_append_left _ hm, hdig⟩
    · exact ⟨mem_append_right _ (mem_of_mem_newContents hm), hdig⟩

/-- One line, and all of them. -/
theorem compactWire_compacted (h : Compacted cas sid base state done hist)
    (hprop : wire.proper = true) (hstep : compactWire cas sid state wire = .ok state') :
    ∃ hist', Compacted cas sid base state' (done ++ [wire]) hist' := by
  rw [compactWire] at hstep
  split at hstep
  · rename_i hreq
    simp only [prepareObservationManifest, ok_rules, Option.bind_eq_some_iff, Prod.exists] at hstep
    obtain ⟨hses, items, ⟨value, hvl, hitems⟩, added, manifest, references,
      ⟨contents, hcons, hprepared⟩, table, hadd, rfl⟩ := hstep
    cases hprepared
    obtain rfl : value = .array items := by
      cases value with
      | array values => exact congrArg Json.array (Option.some.inj hitems)
      | _ => cases hitems
    have hline : RequestLine cas sid wire items contents :=
      ⟨hreq, hses, hvl, proper_of_mem_observations hprop hvl, hcons⟩
    rw [h.references] at hadd
    refine ⟨hist.request cas wire contents, ?_⟩
    rw [h.parentDigest, h.references]
    exact h.request hline hadd
  · rename_i hplain
    obtain rfl := pure_eq_ok.mp hstep
    exact ⟨hist.plain wire, h.plain (by simpa using hplain)⟩

/-- **All lines.** -/
theorem compactWires_compacted {wires : List Json} (hbase : StoredLog cas sid base)
    (hprop : ∀ wire ∈ wires, wire.proper = true) (h : wires.foldlM (compactWire cas sid)
      ⟨∅, base.parentDigest, base.references, [], []⟩ = .ok state) :
    ∃ hist, Compacted cas sid base state wires hist := by
  have hstart : ∃ hist, Compacted cas sid base
      ⟨∅, base.parentDigest, base.references, [], []⟩ [] hist := ⟨base, compacted_start hbase⟩
  refine foldlM_invariant_trace
    (fun state done => ∃ hist, Compacted cas sid base state done hist) ?_ hstart h
  rintro state state' wire front back hsp ⟨hist, hinv⟩ hstep
  have hm : wire ∈ wires := by simp [hsp]
  exact compactWire_compacted hinv (hprop wire hm) hstep

/-- The loop does not depend on the directory. -/
theorem compactWires_eq {files : ContentFiles} (hbase : StoredLog cas sid base)
    (hst : HistoryStored cas files base) (wires : List Json) :
    compactWires cas sid base.log files wires =
      wires.foldlM (compactWire cas sid)
        ⟨∅, base.parentDigest, base.references, [], []⟩ := by
  rw [compactWires, hbase.storedManifestDigests, ok_bind, hbase.getLast?_manifests]
  cases hpar : base.parentDigest with
  | none =>
    rw [hbase.references_eq_nil hpar]
    rfl
  | some digest =>
    obtain ⟨n, hresv⟩ := hbase.resolved hst.manifests digest hpar
    obtain ⟨cache, hreferences, -⟩ := resolveManifestReferences_eq_ok cacheSound_empty hresv
    simp only [hreferences]
    rfl

end Loop

/-! ### Storing what the loop set aside -/

section Installed

variable {cas : ObservationCas} {sid : String} {base hist : LogHistory}
  {state : CompactState} {done : List Json} {used : List String} {files : ContentFiles}

theorem Compacted.named (h : Compacted cas sid base state done hist)
    (hhash : HistoryHashed used hist) :
    ∀ file ∈ state.installations cas, Named cas used file.name file.contentJson := by
  intro file hfile
  rw [CompactState.installations, mem_append] at hfile
  rcases hfile with hfile | hfile
  · obtain ⟨⟨digest, cont⟩, hent, rfl⟩ := mem_map.mp hfile
    obtain ⟨hm, -⟩ := h.table digest cont (Table.mem_toList.mp hent)
    obtain ⟨item, -, hitem⟩ := h.log.exists_observation cont hm
    obtain ⟨hdig, htext⟩ := observationContent_fields hitem
    refine .inl ⟨hhash.contents cont hm, ?_⟩
    show contentFileName cont.digest = contentFileName (digestContent cas cont.contentJson)
    rw [hdig, htext]
  · obtain ⟨manifest, hman, rfl⟩ := mem_map.mp hfile
    have hm : manifest ∈ hist.manifests := by
      rw [h.manifests]
      exact mem_append_right _ hman
    refine .inr ⟨hhash.manifests manifest hm, ?_⟩
    show manifestFileName manifest.digest =
      manifestFileName (digestManifest cas manifest.contentJson)
    rw [← h.log.digest_manifest manifest hm]

variable {files' : ContentFiles}

theorem ContentAt.kept (h : ContentAt cas files cont) (hkept : FilesKept files files') :
    ContentAt cas files' cont :=
  ⟨hkept _ _ h.1, h.2⟩

theorem ManifestAt.kept {digest : String} {manifest : ObservationManifest}
    (h : ManifestAt cas files digest manifest) (hkept : FilesKept files files') :
    ManifestAt cas files' digest manifest := by
  obtain ⟨raw, hraw, hdec⟩ := h
  exact ⟨raw, hkept _ _ hraw, hdec⟩

/-- When all files pass their check, the longer history is stored. -/
theorem installed_stored (h : Compacted cas sid base state done hist)
    (hcol : NoCollision cas used) (hhash : HistoryHashed used hist)
    (hfiles : FilesNamed cas used files) (hst : HistoryStored cas files base)
    (hinstall : (installAll files (state.installations cas)).1 = .ok ()) :
    HistoryStored cas (installAll files (state.installations cas)).2 hist := by
  obtain ⟨-, hkept⟩ := installAll_named hcol hfiles (h.named hhash)
  have hinstalled := installAll_stored hcol hfiles (h.named hhash) hinstall
  constructor
  case contents =>
    intro cont hcon
    rcases h.covered cont hcon with ⟨known, hkn, hdig⟩ | ⟨known, hkn⟩
    · obtain rfl := h.log.content_unique hcol hhash.contents (h.kept hkn) hcon hdig
      exact (hst.contents known hkn).kept hkept
    · obtain ⟨hm, hdig⟩ := h.table _ known hkn
      obtain rfl := h.log.content_unique hcol hhash.contents hm hcon hdig
      have hfile : contentInstallation cas known ∈ state.installations cas := by
        rw [CompactState.installations, mem_append]
        exact .inl (mem_map.mpr ⟨(known.digest, known), Table.mem_toList.mpr hkn, rfl⟩)
      obtain ⟨hraw, hverify⟩ := hinstalled _ hfile
      simp only [contentInstallation, ok_rules, beq_iff_eq] at hverify
      obtain ⟨stored, hdec, rfl⟩ := hverify
      exact ⟨hraw, hdec⟩
  case manifests =>
    intro manifest hman
    rw [h.manifests, mem_append] at hman
    rcases hman with hman | hman
    · exact (hst.manifests manifest hman).kept hkept
    · have hfile : manifestInstallation cas manifest ∈ state.installations cas := by
        rw [CompactState.installations, mem_append]
        exact .inr (mem_map_of_mem hman)
      obtain ⟨hraw, hverify⟩ := hinstalled _ hfile
      simp only [manifestInstallation, ok_rules, beq_iff_eq] at hverify
      obtain ⟨stored, hdec, rfl⟩ := hverify
      exact ⟨_, hraw, hdec⟩

end Installed

end Centaeris
