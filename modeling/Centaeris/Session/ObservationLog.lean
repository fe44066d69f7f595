import Centaeris.Session.ObservationFiles

namespace Centaeris

open Foundation List ObservationContent Outcome Json

/-!
# Logs with stored observations
-/

/-! ### Lines -/

section Lines

variable {wire value old : Json} {sid : String}

theorem exists_members_of_observationsOf (h : observationsOf wire = some old) :
    ∃ members payload, wire = .object members ∧ members.lookup "payload" = some (.object payload) ∧
      payload.lookup "observations" = some old := by
  rw [observationsOf, Option.bind_eq_some_iff] at h
  obtain ⟨payload, hpay, hold⟩ := h
  cases wire with
  | object members =>
    cases payload with
    | object payload => exact ⟨members, payload, rfl, hpay, hold⟩
    | _ => cases hold
  | _ => cases hpay

theorem withObservations_object {members payload : List (String × Json)}
    (h : members.lookup "payload" = some (.object payload)) :
    withObservations (.object members) value =
      .object (replaceMember "payload"
        (.object (replaceMember "observations" value payload)) members) := by
  simp only [withObservations, get?, h]

theorem get?_withObservations {key : String} (hkey : key ≠ "payload")
    (h : observationsOf wire = some old) :
    (withObservations wire value).get? key = wire.get? key := by
  obtain ⟨members, payload, rfl, hpay, -⟩ := exists_members_of_observationsOf h
  rw [withObservations_object hpay]
  exact lookup_replaceMember_ne hkey

variable (h : observationsOf wire = some old)

include h

theorem observationsOf_withObservations :
    observationsOf (withObservations wire value) = some value := by
  obtain ⟨members, payload, rfl, hpay, hold⟩ := exists_members_of_observationsOf h
  rw [withObservations_object hpay, observationsOf, get?, lookup_replaceMember_self hpay]
  exact lookup_replaceMember_self hold

/-- Putting the observations back gives the line back. -/
theorem withObservations_restore :
    withObservations (withObservations wire value) old = wire := by
  obtain ⟨members, payload, rfl, hpay, hold⟩ := exists_members_of_observationsOf h
  rw [withObservations_object hpay,
    withObservations_object (lookup_replaceMember_self hpay),
    replaceMember_replaceMember, replaceMember_replaceMember,
    replaceMember_lookup hold, replaceMember_lookup hpay]

theorem isModelRequest_withObservations :
    isModelRequest (withObservations wire value) = isModelRequest wire := by
  rw [isModelRequest, get?_withObservations (by decide) h]
  rfl

theorem requireWireSession_withObservations :
    requireWireSession (withObservations wire value) sid =
      requireWireSession wire sid := by
  rw [requireWireSession, get?_withObservations (by decide) h]
  rfl

/-- The value that a stored line has in place of its observations. -/
def manifestPointer (digest : String) : Json := .object [("manifestDigest", .string digest)]

theorem observationManifestDigest_stored {digest : String}
    (hdig : validateDigest digest = .ok ()) :
    observationManifestDigest (withObservations wire (manifestPointer digest)) = .ok digest := by
  rw [observationManifestDigest, observationsOf_withObservations h]
  simp [manifestPointer, asObject?, orFail, hasKeys, ensure, memberOf, asString?,
    hdig, pure, Except.pure, List.lookup]

end Lines

/-! ### Contents -/

section Contents

variable {cas : ObservationCas} {observation : Json} {cont cont' : ObservationContent}

theorem observationContent_fields (h : observationContent cas observation = .ok cont) :
    cont.digest = digestContent cas observation.render ∧
      cont.contentJson = observation.render := by
  simp only [observationContent, ok_rules] at h
  obtain ⟨-, kind, -, rfl⟩ := h
  exact ⟨rfl, rfl⟩

theorem proper_of_mem_observations {wire : Json} {observations : List Json}
    (hprop : wire.proper = true) (h : observationsOf wire = some (.array observations)) :
    ∀ observation ∈ observations, observation.proper = true := by
  obtain ⟨members, payload, rfl, hpay, hold⟩ := exists_members_of_observationsOf h
  have hinner := proper_of_lookup (by simpa [proper] using hprop) hpay
  have harray := proper_of_lookup (by simpa [proper] using hinner) hold
  intro observation hm
  exact proper_of_mem (by simpa [proper] using harray) hm

end Contents

/-! ### Histories -/

/-- The lines of a log as they were given and as they are stored, and what the storing of each model
    request adds. -/
structure LogHistory where
  originals : List Json
  log : List Json
  parentDigest : Option String
  references : List ObservationReference
  manifests : List ObservationManifest
  contents : List ObservationContent

namespace LogHistory

def empty : LogHistory := ⟨[], [], none, [], [], []⟩

/-- A line that is no model request. -/
def plain (hist : LogHistory) (wire : Json) : LogHistory :=
  { hist with originals := hist.originals ++ [wire], log := hist.log ++ [wire] }

def nextManifest (cas : ObservationCas) (hist : LogHistory)
    (contents : List ObservationContent) : ObservationManifest :=
  buildManifest cas hist.parentDigest hist.references
    (contents.map ObservationContent.reference)

/-- A model request with the given contents. -/
def request (cas : ObservationCas) (hist : LogHistory) (wire : Json)
    (contents : List ObservationContent) : LogHistory :=
  ⟨hist.originals ++ [wire],
    hist.log ++ [withObservations wire (manifestPointer (hist.nextManifest cas contents).digest)],
    some (hist.nextManifest cas contents).digest, contents.map ObservationContent.reference,
    hist.manifests ++ [hist.nextManifest cas contents], hist.contents ++ contents⟩

end LogHistory

/-- A model request that can be stored, with its observations and their contents. -/
structure RequestLine (cas : ObservationCas) (sid : String) (wire : Json)
    (items : List Json) (contents : List ObservationContent) : Prop where
  isRequest : isModelRequest wire = true
  session : requireWireSession wire sid = .ok ()
  observations : observationsOf wire = some (.array items)
  proper : ∀ item ∈ items, item.proper = true
  stored : items.mapM (observationContent cas) = .ok contents

inductive StoredLog (cas : ObservationCas) (sid : String) : LogHistory → Prop
  | empty : StoredLog cas sid .empty
  | plain {hist : LogHistory} {wire : Json} (hlog : StoredLog cas sid hist)
      (hwire : isModelRequest wire = false) : StoredLog cas sid (hist.plain wire)
  | request {hist : LogHistory} {wire : Json} {items : List Json}
      {contents : List ObservationContent} (hlog : StoredLog cas sid hist)
      (hline : RequestLine cas sid wire items contents) :
      StoredLog cas sid (hist.request cas wire contents)

section History

variable {cas : ObservationCas} {sid : String} {hist : LogHistory} {wire : Json}
  {items : List Json} {contents : List ObservationContent}

theorem storedManifestDigests_append {log log' : List Json} {digests digests' : List String}
    (h : storedManifestDigests sid log = .ok digests)
    (h' : storedManifestDigests sid log' = .ok digests') :
    storedManifestDigests sid (log ++ log') = .ok (digests ++ digests') := by
  rw [storedManifestDigests, mapM_eq_ok_iff] at h h' ⊢
  rw [filter_append]
  exact rel_append h h'

theorem RequestLine.storedManifestDigests (hline : RequestLine cas sid wire items contents)
    {digest : String} (hdig : validateDigest digest = .ok ()) :
    Centaeris.storedManifestDigests sid [withObservations wire (manifestPointer digest)] =
      .ok [digest] := by
  have hreq : isModelRequest (withObservations wire (manifestPointer digest)) = true := by
    rw [isModelRequest_withObservations hline.observations, hline.isRequest]
  rw [Centaeris.storedManifestDigests, filter_singleton, hreq, cond_true, mapM_eq_ok_iff]
  refine .cons ?_ .nil
  rw [requireWireSession_withObservations hline.observations, hline.session]
  exact observationManifestDigest_stored hline.observations hdig

section

variable (h : StoredLog cas sid hist)

include h

theorem StoredLog.storedManifestDigests :
    Centaeris.storedManifestDigests sid hist.log =
      .ok (hist.manifests.map (·.digest)) := by
  induction h with
  | empty => rfl
  | @plain hist wire hlog hwire ih =>
    have hline : Centaeris.storedManifestDigests sid [wire] = .ok [] := by
      rw [Centaeris.storedManifestDigests, filter_singleton, hwire]
      rfl
    have hlog := storedManifestDigests_append ih hline
    rwa [append_nil] at hlog
  | @request hist wire items contents hlog hline ih =>
    rw [LogHistory.request, map_append]
    exact storedManifestDigests_append ih
      (hline.storedManifestDigests (validateDigest_manifest cas _))

theorem StoredLog.getLast?_manifests :
    (hist.manifests.map (·.digest)).getLast? = hist.parentDigest := by
  induction h with
  | empty => rfl
  | plain _ _ ih => exact ih
  | request _ _ _ => simp [LogHistory.request]

theorem StoredLog.exists_observation :
    ∀ cont ∈ hist.contents, ∃ item : Json, item.proper = true ∧
      observationContent cas item = .ok cont := by
  induction h with
  | empty => nofun
  | plain _ _ ih => exact ih
  | @request hist wire items contents hlog hline ih =>
    intro cont hcon
    rcases mem_append.mp hcon with hcon | hcon
    · exact ih cont hcon
    · obtain ⟨item, hitem, hst⟩ :=
        exists_of_mem_forall₂ (mapM_eq_ok_iff.mp hline.stored) hcon
      exact ⟨item, hline.proper item hitem, hst⟩

/-- A manifest is named by its text. -/
theorem StoredLog.digest_manifest :
    ∀ manifest ∈ hist.manifests, manifest.digest = digestManifest cas manifest.contentJson := by
  induction h with
  | empty => nofun
  | plain _ _ ih => exact ih
  | request _ _ ih =>
    intro manifest hman
    rcases mem_append_last.mp hman with hman | rfl
    · exact ih manifest hman
    · rfl

theorem StoredLog.exists_content :
    ∀ reference ∈ hist.references, ∃ cont ∈ hist.contents,
      cont.reference = reference := by
  induction h with
  | empty => nofun
  | plain _ _ ih => exact ih
  | request _ _ _ =>
    intro reference href
    obtain ⟨cont, hcon, rfl⟩ := mem_map.mp href
    exact ⟨cont, mem_append_right _ hcon, rfl⟩

theorem StoredLog.references_eq_nil
    (hnone : hist.parentDigest = none) : hist.references = [] := by
  induction h with
  | empty => rfl
  | plain _ _ ih => exact ih hnone
  | request _ _ _ => cases hnone

end

structure HistoryHashed (used : List String) (hist : LogHistory) : Prop where
  contents : ∀ cont ∈ hist.contents, contentDigestDomain ++ cont.contentJson ∈ used
  manifests : ∀ manifest ∈ hist.manifests, manifestDigestDomain ++ manifest.contentJson ∈ used

theorem StoredLog.content_unique {used : List String} (h : StoredLog cas sid hist)
    (hcol : NoCollision cas used)
    (hhash : ∀ cont ∈ hist.contents, contentDigestDomain ++ cont.contentJson ∈ used)
    {cont cont' : ObservationContent} (hcon : cont ∈ hist.contents)
    (hcon' : cont' ∈ hist.contents) (hdig : cont.digest = cont'.digest) :
    cont = cont' := by
  obtain ⟨item, hprop, hitem⟩ := h.exists_observation cont hcon
  obtain ⟨item', hprop', hitem'⟩ := h.exists_observation cont' hcon'
  obtain ⟨hname, htext⟩ := observationContent_fields hitem
  obtain ⟨hname', htext'⟩ := observationContent_fields hitem'
  rw [hname, hname', ← htext, ← htext'] at hdig
  have hsame := hcol _ (hhash cont hcon) _ (hhash cont' hcon')
    ((String.append_right_inj _).mp hdig)
  rw [String.append_right_inj, htext, htext'] at hsame
  obtain rfl := render_injective hprop hprop' hsame
  rw [hitem] at hitem'
  exact Except.ok.inj hitem'

end History

/-! ### What the directory has -/

/-- A content is stored and can be read. -/
def ContentAt (cas : ObservationCas) (files : ContentFiles) (cont : ObservationContent) :
    Prop :=
  files[contentFileName cont.digest]? = some cont.contentJson ∧
    decodeContent cas cont.digest cont.contentJson = .ok cont

/-- A manifest that a line names, with the contents that it lists. -/
def RootStored (cas : ObservationCas) (files : ContentFiles) (root : String)
    (contents : List ObservationContent) : Prop :=
  (∃ n, Resolved cas files n root (contents.map ObservationContent.reference)) ∧
    ∀ cont ∈ contents, ContentAt cas files cont

/-- The directory has everything that the history stored. -/
structure HistoryStored (cas : ObservationCas) (files : ContentFiles) (hist : LogHistory) :
    Prop where
  contents : ∀ cont ∈ hist.contents, ContentAt cas files cont
  manifests : ∀ manifest ∈ hist.manifests, ManifestAt cas files manifest.digest manifest

/-- A stored line that stands for the original one. -/
inductive StoredAs (cas : ObservationCas) (sid : String) (files : ContentFiles) :
    Json → Json → Prop
  | plain {wire : Json} (hwire : isModelRequest wire = false) :
      StoredAs cas sid files wire wire
  | request {wire : Json} {items : List Json} {contents : List ObservationContent} {n : Nat}
      {digest : String} (hline : RequestLine cas sid wire items contents)
      (hcons : ∀ cont ∈ contents, ContentAt cas files cont)
      (hresv : Resolved cas files n digest (contents.map ObservationContent.reference)) :
      StoredAs cas sid files wire (withObservations wire (manifestPointer digest))

section Stored

variable {cas : ObservationCas} {sid : String} {files : ContentFiles} {hist : LogHistory}

theorem ContentAt.valid {cont : ObservationContent} (h : ContentAt cas files cont) :
    validateDigest cont.digest = .ok () := by
  have hdec := h.2
  simp only [decodeContent, ok_rules] at hdec
  exact hdec.1

theorem resolved_nextManifest {contents : List ObservationContent}
    (hlog : StoredLog cas sid hist)
    (hpar : ∀ digest, hist.parentDigest = some digest →
      ∃ n, Resolved cas files n digest hist.references)
    (hman : ManifestAt cas files (hist.nextManifest cas contents).digest
      (hist.nextManifest cas contents)) :
    ∃ n, Resolved cas files n (hist.nextManifest cas contents).digest
      (contents.map reference) := by
  have happly : applyManifest (hist.nextManifest cas contents) hist.references =
      .ok (contents.map reference) :=
    applyManifest_buildManifest cas hlog.references_eq_nil _
  cases hdig : hist.parentDigest with
  | none =>
    rw [hlog.references_eq_nil hdig] at happly
    exact ⟨0, .root hman hdig happly⟩
  | some digest =>
    obtain ⟨n, hn⟩ := hpar digest hdig
    exact ⟨n + 1, .child hman hdig hn happly⟩

/-- Then the last manifest stands for the references of the last request. -/
theorem StoredLog.resolved (h : StoredLog cas sid hist)
    (hmans : ∀ manifest ∈ hist.manifests, ManifestAt cas files manifest.digest manifest) :
    ∀ digest, hist.parentDigest = some digest →
      ∃ n, Resolved cas files n digest hist.references := by
  induction h with
  | empty => nofun
  | plain _ _ ih => exact ih hmans
  | @request hist wire items contents hlog hline ih =>
    have hearlier := ih fun manifest hm => hmans manifest (mem_append_left _ hm)
    have hlast := hmans _ (mem_append_right _ (mem_singleton_self _))
    intro digest hdig
    cases hdig
    exact resolved_nextManifest hlog hearlier hlast

/-- What is stored after a request was stored before it, and for its own manifest. -/
theorem HistoryStored.of_request {wire : Json} {contents : List ObservationContent}
    (h : HistoryStored cas files (hist.request cas wire contents))
    (hlog : StoredLog cas sid hist) : HistoryStored cas files hist ∧
      RootStored cas files (hist.nextManifest cas contents).digest contents := by
  have hearlier : HistoryStored cas files hist :=
    ⟨fun cont hm => h.contents cont (mem_append_left _ hm),
      fun manifest hm => h.manifests manifest (mem_append_left _ hm)⟩
  exact ⟨hearlier, resolved_nextManifest hlog (hlog.resolved hearlier.manifests)
    (h.manifests _ (mem_append_right _ (mem_singleton_self _))),
    fun cont hm => h.contents cont (mem_append_right _ hm)⟩

theorem StoredLog.storedAs (h : StoredLog cas sid hist)
    (hst : HistoryStored cas files hist) :
    List.Forall₂ (StoredAs cas sid files) hist.originals hist.log := by
  induction h with
  | empty => exact .nil
  | plain _ hwire ih =>
    exact rel_append (ih ⟨hst.contents, hst.manifests⟩) (.cons (.plain hwire) .nil)
  | @request hist wire items contents hlog hline ih =>
    obtain ⟨hearlier, ⟨n, hresv⟩, hcons⟩ := hst.of_request hlog
    exact rel_append (ih hearlier) (.cons (.request hline hcons hresv) .nil)

end Stored

end Centaeris
