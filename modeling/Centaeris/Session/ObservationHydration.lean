import Centaeris.Session.ObservationLog

namespace Centaeris

open Foundation ObservationContent Outcome List

/-!
# Hydration

Hydration goes over the lines three times: it finds the references of each manifest, reads the
contents they name, and puts the observations back.
-/

section Hydration

variable {cas : ObservationCas} {sessionId : String} {files : ContentFiles}

variable {cont : ObservationContent}

theorem ContentAt.unique {cont' : ObservationContent} (h : ContentAt cas files cont)
    (h' : ContentAt cas files cont') (hdig : cont.digest = cont'.digest) :
    cont = cont' := by
  obtain ⟨hfile, hdec⟩ := h
  obtain ⟨hfile', hdec'⟩ := h'
  rw [hdig, hfile'] at hfile
  rw [hdig, ← Option.some.inj hfile, hdec'] at hdec
  exact (Except.ok.inj hdec).symm

/-! ### References -/

/-- Everything that is needed is stored. -/
def RequestedSound (cas : ObservationCas) (files : ContentFiles)
    (requested : Table String String) : Prop :=
  ∀ digest kind, requested[digest]? = some kind →
    ∃ cont, ContentAt cas files cont ∧ cont.digest = digest ∧ cont.kind = kind

variable {requested : Table String String}

theorem requestContent_eq_ok (hsnd : RequestedSound cas files requested)
    (hcon : ContentAt cas files cont) :
    ∃ requested', requestContent requested cont.reference = .ok requested' ∧
      RequestedSound cas files requested' ∧ requested'[cont.digest]? = some cont.kind ∧
      ∀ (digest kind : String), requested[digest]? = some kind →
        requested'[digest]? = some kind := by
  unfold requestContent
  cases hkn : requested[cont.reference.digest]? with
  | some kind =>
    -- what is known of the digest comes from the same content
    obtain ⟨other, hoth, hdig, rfl⟩ := hsnd _ _ hkn
    obtain rfl := hoth.unique hcon hdig
    refine ⟨requested, ?_, hsnd, hkn, fun _ _ h => h⟩
    simp [ensure, reference]
  | none =>
    refine ⟨_, rfl, ?_, ?_, ?_⟩
    · intro digest kind hfd
      obtain ⟨hdig, rfl⟩ | ⟨-, hold⟩ := Table.found_of_insert hfd
      · exact ⟨cont, hcon, hdig, rfl⟩
      · exact hsnd digest kind hold
    · rw [Table.getElem?_insert, reference, if_pos rfl]
    · exact fun _ _ hfd => Table.insert_keeps hkn hfd

theorem requestContents_eq_ok {contents : List ObservationContent}
    (hsnd : RequestedSound cas files requested)
    (hcons : ∀ cont ∈ contents, ContentAt cas files cont) :
    ∃ requested', (contents.map reference).foldlM requestContent requested =
        .ok requested' ∧
      RequestedSound cas files requested' ∧
      (∀ cont ∈ contents, requested'[cont.digest]? = some cont.kind) ∧
      ∀ (digest kind : String), requested[digest]? = some kind →
        requested'[digest]? = some kind := by
  induction contents generalizing requested with
  | nil => exact ⟨requested, rfl, hsnd, nofun, fun _ _ h => h⟩
  | cons cont contents ih =>
    rw [forall_mem_cons] at hcons
    obtain ⟨next, hfst, hnext, hnew, hkept⟩ := requestContent_eq_ok hsnd hcons.1
    obtain ⟨last, hrest, hlast, hall, hkept'⟩ := ih hnext hcons.2
    refine ⟨last, ?_, hlast, ?_, fun digest kind h => hkept' _ _ (hkept _ _ h)⟩
    · rw [map_cons, foldlM_cons, hfst]
      exact hrest
    · rw [forall_mem_cons]
      exact ⟨hkept' _ _ hnew, hall⟩

/-! ### The first pass -/

/-- What the first pass knows of the stored line of a model request. -/
def LineRequested (cas : ObservationCas) (files : ContentFiles) (state : HydrateState)
    (digest : String) : Prop :=
  ∃ n references, Resolved cas files n digest references ∧
    state.referencesByRoot[digest]? = some references ∧
    ∀ reference ∈ references, state.requested[reference.digest]? = some reference.kind

/-- What the first pass knows after some lines. -/
structure RequestInvariant (cas : ObservationCas) (files : ContentFiles) (state : HydrateState)
    (done : List Json) : Prop where
  cache : CacheSound cas files state.cache
  requested : RequestedSound cas files state.requested
  lines : ∀ stored ∈ done, isModelRequest stored = true → ∀ digest,
    observationManifestDigest stored = .ok digest → LineRequested cas files state digest

theorem requestInvariant_empty : RequestInvariant cas files ⟨∅, ∅, ∅⟩ [] where
  cache := cacheSound_empty
  requested digest kind h := by
    rw [Table.getElem?_empty] at h
    cases h
  lines := nofun

variable {state : HydrateState} {wire stored : Json}

theorem requestWire_eq_ok {done : List Json} (hinv : RequestInvariant cas files state done)
    (hst : StoredAs cas sessionId files wire stored) :
    ∃ state', requestWire cas sessionId files state stored = .ok state' ∧
      RequestInvariant cas files state' (done ++ [stored]) := by
  cases hst with
  | plain hwire =>
    refine ⟨state, by rw [requestWire, hwire]; rfl, hinv.cache, hinv.requested, ?_⟩
    intro other hoth hreq
    rcases mem_append_last.mp hoth with hoth | rfl
    · exact hinv.lines other hoth hreq
    · rw [hwire] at hreq
      cases hreq
  | @request items contents n digest hline hcons hresv =>
    have hreq := hline.isRequest
    rw [← isModelRequest_withObservations hline.observations] at hreq
    have hses := hline.session
    rw [← requireWireSession_withObservations hline.observations] at hses
    have hdig := observationManifestDigest_stored hline.observations hresv.valid
    obtain ⟨cache, hreferences, hcache⟩ := resolveManifestReferences_eq_ok hinv.cache hresv
    obtain ⟨requested, hfold, hsnd, hnew, hkept⟩ :=
      requestContents_eq_ok hinv.requested hcons
    refine ⟨⟨cache, state.referencesByRoot.insert digest
      (contents.map ObservationContent.reference), requested⟩, ?_, hcache, hsnd, ?_⟩
    · rw [requestWire, if_pos hreq, hses, Outcome.ok_bind, hdig, Outcome.ok_bind,
        hreferences, Outcome.ok_bind]
      simp only [hfold, Outcome.ok_bind]
      rfl
    · have hself : ∀ reference ∈ contents.map ObservationContent.reference,
          requested[reference.digest]? = some reference.kind := by
        intro reference href
        obtain ⟨cont, hcon, rfl⟩ := mem_map.mp href
        exact hnew cont hcon
      have hnow : (state.referencesByRoot.insert digest
          (contents.map ObservationContent.reference))[digest]? =
            some (contents.map ObservationContent.reference) := by
        rw [Table.getElem?_insert, if_pos rfl]
      intro other hoth hoth' digest' hdig'
      rcases mem_append_last.mp hoth with hearlier | rfl
      · obtain ⟨k, references, hk, hroot, hall⟩ := hinv.lines other hearlier hoth' digest' hdig'
        refine ⟨k, references, hk, ?_, fun reference hm => hkept _ _ (hall reference hm)⟩
        by_cases hsame : digest = digest'
        · -- the same manifest was met before, with the same references
          subst hsame
          rw [(hk.unique hresv).2]
          exact hnow
        · rw [Table.getElem?_insert, if_neg hsame]
          exact hroot
      · rw [hdig] at hdig'
        cases hdig'
        exact ⟨n, _, hresv, hnow, hself⟩

variable {originals log : List Json}

/-- The first pass finds the references of each line. -/
theorem requestWires_eq_ok (h : List.Forall₂ (StoredAs cas sessionId files) originals log) :
    ∃ state, log.foldlM (requestWire cas sessionId files) ⟨∅, ∅, ∅⟩ = .ok state ∧
      RequestInvariant cas files state log := by
  apply foldlM_progress (RequestInvariant cas files) requestInvariant_empty
  intro state stored front back hsp hinv
  have hm : stored ∈ log := by simp [hsp]
  obtain ⟨wire, -, hst⟩ := exists_of_mem_forall₂ h hm
  exact requestWire_eq_ok hinv hst

/-! ### The second pass -/

def ContentsRead (cas : ObservationCas) (files : ContentFiles)
    (contents : Table String ObservationContent) (done : List (String × String)) : Prop :=
  ∀ entry ∈ done, ∃ cont, contents[entry.1]? = some cont ∧
    ContentAt cas files cont ∧ cont.digest = entry.1 ∧ cont.kind = entry.2

variable {contents : Table String ObservationContent}

theorem readContent_eq_ok (hcon : ContentAt cas files cont) :
    readContent cas files contents (cont.digest, cont.kind) =
      .ok (contents.insert cont.digest cont) := by
  simp only [readContent, hcon.valid, ok_bind, readFile, hcon.1, orFail, hcon.2,
    ensure, beq_self_eq_true, if_true]
  rfl

/-- The second one reads every content. -/
theorem readContents_eq_ok (hsnd : RequestedSound cas files requested) :
    ∃ contents, requested.toList.foldlM (readContent cas files) ∅ = .ok contents ∧
      ContentsRead cas files contents requested.toList := by
  apply foldlM_progress (ContentsRead cas files) nofun
  intro contents entry front back hsp hinv
  have hm : (entry.1, entry.2) ∈ requested.toList := by simp [hsp]
  obtain ⟨cont, hcon, hdig, hkind⟩ := hsnd _ _ (Table.mem_toList.mp hm)
  obtain rfl : entry = (cont.digest, cont.kind) := by rw [hdig, hkind]
  refine ⟨_, readContent_eq_ok hcon, ?_⟩
  intro other hoth
  by_cases hsame : cont.digest = other.1
  · refine ⟨cont, by rw [Table.getElem?_insert, if_pos hsame], hcon, hsame, ?_⟩
    rcases mem_append.mp hoth with hearlier | hlast
    · obtain ⟨cont', -, hcon', hdig', hkind'⟩ := hinv other hearlier
      rw [hcon.unique hcon' (by rw [hsame, hdig'])]
      exact hkind'
    · rw [mem_singleton.mp hlast]
  · rcases mem_append.mp hoth with hearlier | hlast
    · obtain ⟨cont', hfd, hrest⟩ := hinv other hearlier
      exact ⟨cont', by rw [Table.getElem?_insert, if_neg hsame, hfd], hrest⟩
    · exact absurd (by rw [mem_singleton.mp hlast]) hsame

/-! ### The third pass -/

theorem hydrateReference_eq_ok {item : Json} (hprop : item.proper = true)
    (hitem : observationContent cas item = .ok cont) (hcon : ContentAt cas files cont)
    (hread : contents[cont.digest]? = some cont) :
    hydrateReference cas contents cont.reference = .ok item := by
  have hdec := hcon.2
  simp only [decodeContent, ok_rules, mapError_eq_ok] at hdec
  obtain ⟨-, -, value, hvl, hrender, -⟩ := hdec
  rw [beq_iff_eq, (observationContent_fields hitem).2] at hrender
  obtain rfl := Json.render_injective (cas.fromStr_proper _ _ hvl) hprop hrender
  simp only [hydrateReference, reference, hread, orFail, ok_bind,
    ensure, beq_self_eq_true, if_true, hvl, mapError]

theorem hydrateWire_eq_ok (hinv : RequestInvariant cas files state log)
    (hread : ContentsRead cas files contents state.requested.toList) (hm : stored ∈ log)
    (hst : StoredAs cas sessionId files wire stored) :
    hydrateWire cas state contents stored = .ok wire := by
  cases hst with
  | plain hwire =>
    rw [hydrateWire, hwire]
    rfl
  | @request items list n digest hline hcons hresv =>
    have hreq := hline.isRequest
    rw [← isModelRequest_withObservations hline.observations] at hreq
    have hdig := observationManifestDigest_stored hline.observations hresv.valid
    obtain ⟨k, references, hk, hroot, hall⟩ := hinv.lines _ hm hreq digest hdig
    obtain ⟨-, rfl⟩ := hk.unique hresv
    have hitems : (list.map reference).mapM (hydrateReference cas contents) =
        .ok items := by
      rw [mapM_map]
      apply mapM_eq_ok_of_forall₂ (mapM_eq_ok_iff.mp hline.stored)
      intro item hitem cont hcon hsame
      have hneeded := hall _ (mem_map_of_mem hcon)
      obtain ⟨other, hfd, hoth, hname, -⟩ := hread _ (Table.mem_toList.mpr hneeded)
      rw [hoth.unique (hcons cont hcon) hname] at hfd
      exact hydrateReference_eq_ok (hline.proper item hitem) hsame (hcons cont hcon)
        hfd
    rw [hydrateWire, if_pos hreq, hdig, ok_bind, hroot]
    simp only [orFail, ok_bind, hitems]
    rw [withObservations_restore hline.observations]
    rfl

/-- Lines that need nothing are the original ones. -/
theorem eq_of_no_request (h : List.Forall₂ (StoredAs cas sessionId files) originals log)
    (hnone : ∀ stored ∈ log, isModelRequest stored = false) : originals = log := by
  induction h with
  | nil => rfl
  | @cons wire stored originals log hfst _ ih =>
    rw [forall_mem_cons] at hnone
    rw [ih hnone.2]
    cases hfst with
    | plain _ => rfl
    | request hline _ _ =>
      have hreq := hnone.1
      rw [isModelRequest_withObservations hline.observations, hline.isRequest] at hreq
      cases hreq

/-- **The result is the list of the original lines**, for any lines that are stored. -/
theorem hydrateWires_eq_ok (hpath : validateSessionLogPath cas sessionId = .ok ())
    (h : List.Forall₂ (StoredAs cas sessionId files) originals log) :
    hydrateWires cas sessionId files log = .ok originals := by
  obtain ⟨state, hreq, hinv⟩ := requestWires_eq_ok h
  rw [hydrateWires, hpath, ok_bind, hreq, ok_bind]
  split
  · rename_i hemp
    rw [eq_of_no_request h]
    · rfl
    · intro stored hm
      obtain ⟨wire, -, hline⟩ := exists_of_mem_forall₂ h hm
      cases hline with
      | plain hwire => exact hwire
      | request hline _ hresv =>
        -- the first pass would have found its references
        have hst := hline.isRequest
        rw [← isModelRequest_withObservations hline.observations] at hst
        have hdig := observationManifestDigest_stored hline.observations hresv.valid
        obtain ⟨_, _, -, hroot, -⟩ := hinv.lines _ hm hst _ hdig
        rw [Std.ExtTreeMap.isEmpty_iff.mp hemp, Table.getElem?_empty] at hroot
        cases hroot
  · obtain ⟨contents, hcons, hread⟩ := readContents_eq_ok hinv.requested
    rw [hcons, ok_bind]
    apply mapM_eq_ok_of_forall₂ h
    intro wire _ stored hm hst
    exact hydrateWire_eq_ok hinv hread hm hst

end Hydration

end Centaeris
