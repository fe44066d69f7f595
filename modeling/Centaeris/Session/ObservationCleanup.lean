import Centaeris.Session.ObservationCompaction

namespace Centaeris

open Foundation List Outcome

/-!
# Cleanup

A cleanup marks what the lines of the log need, and removes the other files.
-/

/-! ### Marks -/

section Marks

variable {cas : ObservationCas} {files : ContentFiles} {n : Nat} {digest : String}
  {references : List ObservationReference} {cont : ObservationContent}

theorem markReference_eq_ok (marked : List String) (h : ContentAt cas files cont) :
    ∃ marked', markReference cas files marked cont.reference = .ok marked' ∧
      marked ⊆ marked' ∧ cont.digest ∈ marked' := by
  unfold markReference
  by_cases hmarked : marked.contains cont.reference.digest = true
  · rw [if_pos hmarked]
    exact ⟨marked, rfl, List.Subset.refl _, contains_iff_mem.mp hmarked⟩
  · rw [if_neg hmarked]
    refine ⟨cont.digest :: marked, ?_, subset_cons_self _ _, mem_cons_self⟩
    simp only [ObservationContent.reference, h.valid, ok_bind, readFile, h.1, orFail, h.2,
      ensure, beq_self_eq_true, if_true]
    rfl

variable {contents : List ObservationContent}

theorem markReferences_eq_ok (marked : List String)
    (h : ∀ cont ∈ contents, ContentAt cas files cont) :
    ∃ marked', (contents.map ObservationContent.reference).foldlM (markReference cas files)
        marked = .ok marked' ∧
      marked ⊆ marked' ∧ ∀ cont ∈ contents, cont.digest ∈ marked' := by
  induction contents generalizing marked with
  | nil => exact ⟨marked, rfl, List.Subset.refl _, nofun⟩
  | cons cont contents ih =>
    rw [forall_mem_cons] at h
    obtain ⟨mid, hfst, hkept, hnew⟩ := markReference_eq_ok marked h.1
    obtain ⟨last, hrest, hkept', hall⟩ := ih mid h.2
    refine ⟨last, ?_, List.Subset.trans hkept hkept', ?_⟩
    · rw [map_cons, foldlM_cons, hfst]
      exact hrest
    · rw [forall_mem_cons]
      exact ⟨hkept' hnew, hall⟩

theorem markManifests_eq_ok (fuel : Nat) (marked : List String)
    (h : Resolved cas files n digest references) :
    ∃ marked', markManifests cas files fuel marked (some digest) = .ok marked' ∧
      marked ⊆ marked' ∧ (0 < fuel → digest ∈ marked') := by
  induction h generalizing fuel marked with
  | @root digest manifest references hread hpar happly =>
    have hval := hread.valid
    obtain ⟨raw, hraw, hdec⟩ := hread
    cases fuel with
    | zero => exact ⟨marked, rfl, List.Subset.refl _, fun h => absurd h (by decide)⟩
    | succ fuel =>
      rw [markManifests]
      by_cases hmarked : marked.contains digest = true
      · rw [if_pos hmarked]
        exact ⟨marked, rfl, List.Subset.refl _, fun _ => contains_iff_mem.mp hmarked⟩
      · rw [if_neg hmarked]
        simp only [hval, ok_bind, readFile, hraw, orFail, hdec, hpar]
        rw [markManifests]
        exact ⟨_, rfl, subset_cons_self _ _, fun _ => mem_cons_self⟩
  | @child n digest parent manifest older references hread hpar hrest happly ih =>
    have hval := hread.valid
    obtain ⟨raw, hraw, hdec⟩ := hread
    cases fuel with
    | zero => exact ⟨marked, rfl, List.Subset.refl _, fun h => absurd h (by decide)⟩
    | succ fuel =>
      rw [markManifests]
      by_cases hmarked : marked.contains digest = true
      · rw [if_pos hmarked]
        exact ⟨marked, rfl, List.Subset.refl _, fun _ => contains_iff_mem.mp hmarked⟩
      · rw [if_neg hmarked]
        simp only [hval, ok_bind, readFile, hraw, orFail, hdec, hpar]
        obtain ⟨last, hlast, hkept, -⟩ := ih fuel (digest :: marked)
        exact ⟨last, hlast, List.Subset.trans (subset_cons_self _ _) hkept,
          fun _ => hkept mem_cons_self⟩

/-- What is marked after some roots. -/
structure MarkInvariant (cas : ObservationCas) (files : ContentFiles) (state : MarkState)
    (done : List String) : Prop where
  cache : CacheSound cas files state.cache
  manifests : ∀ root ∈ done, root ∈ state.manifests
  contents : ∀ root ∈ done, ∀ contents, RootStored cas files root contents →
    ∀ cont ∈ contents, cont.digest ∈ state.contents

theorem markRoot_eq_ok {state : MarkState} {done : List String} {root : String}
    (hinv : MarkInvariant cas files state done) (hroot : RootStored cas files root contents) :
    ∃ state', markRoot cas files state root = .ok state' ∧
      MarkInvariant cas files state' (done ++ [root]) := by
  obtain ⟨⟨n, hresv⟩, hcons⟩ := hroot
  obtain ⟨cache, hreferences, hcache⟩ := resolveManifestReferences_eq_ok hinv.cache hresv
  obtain ⟨marked, hmarked, hkept, hnew⟩ := markReferences_eq_ok state.contents hcons
  obtain ⟨manifests, hmans, hkept', hself⟩ :=
    markManifests_eq_ok (files.size + 1) state.manifests hresv
  refine ⟨⟨cache, marked, manifests⟩, ?_, hcache, ?_, ?_⟩
  · rw [markRoot, hreferences, ok_bind]
    simp only [hmarked, ok_bind, hmans]
    rfl
  · intro other hoth
    rcases mem_append_last.mp hoth with hoth | rfl
    · exact hkept' (hinv.manifests other hoth)
    · exact hself (Nat.succ_pos _)
  · intro other hoth list hlist cont hcon
    rcases mem_append.mp hoth with hoth | hoth
    · exact hkept (hinv.contents other hoth list hlist cont hcon)
    · -- the references of the root are determined by the files
      obtain ⟨⟨k, hk⟩, -⟩ := hlist
      rw [mem_singleton.mp hoth] at hk
      have href := mem_map_of_mem (f := ObservationContent.reference) hcon
      rw [(hk.unique hresv).2] at href
      obtain ⟨same, hsame, heq⟩ := mem_map.mp href
      have hdig : same.digest = cont.digest := congrArg ObservationReference.digest heq
      exact hdig ▸ hnew same hsame

/-- Marking succeeds on a stored log, and marks each manifest that a line names and each content
    that it lists. -/
theorem markRoots_eq_ok {roots : List String}
    (h : ∀ root ∈ roots, ∃ contents, RootStored cas files root contents) :
    ∃ state, roots.foldlM (markRoot cas files) ⟨∅, [], []⟩ = .ok state ∧
      MarkInvariant cas files state roots := by
  apply foldlM_progress (MarkInvariant cas files) ⟨cacheSound_empty, nofun, nofun⟩
  intro state root front back hsp hinv
  obtain ⟨contents, hroot⟩ := h root (by simp [hsp])
  exact markRoot_eq_ok hinv hroot

end Marks

/-! ### Files that stay -/

section Names

/-- A text between two others is found. -/
theorem between?_append (leading inner trailing : String) :
    between? leading trailing (leading ++ inner ++ trailing) = some inner := by
  have hinner : ((leading ++ inner ++ trailing).toList.drop leading.length).take
      ((leading ++ inner ++ trailing).length - leading.length - trailing.length) =
        inner.toList := by
    rw [String.toList_append, String.toList_append, List.append_assoc,
      drop_left' String.length_toList, String.length_append, String.length_append]
    exact take_left' (by rw [String.length_toList]; omega)
  simp only [between?, hinner]
  rw [if_pos (by rw [String.toList_append, String.toList_append]), String.ofList_toList]

/-- What is found stands in the text. -/
theorem eq_of_between? {leading trailing text inner : String}
    (h : between? leading trailing text = some inner) :
    leading.toList ++ inner.toList ++ trailing.toList = text.toList := by
  simp only [between?] at h
  split at h
  · rename_i htext
    rw [← Option.some.inj h, String.toList_ofList]
    exact htext
  · cases h

variable {hex digest : String} {state : MarkState}

/-- The first character of a name that starts with digits is one of them. -/
theorem head?_of_lowerHex (h : isLowerHex 64 hex = true) (rest : String) :
    ∃ c, (hex ++ rest).toList.head? = some c ∧ c ≠ '.' ∧ c ≠ 'm' := by
  rw [isLowerHex, Bool.and_eq_true, all_eq_true, beq_iff_eq] at h
  obtain ⟨hsize, hdigits⟩ := h
  rw [utf8Bytes_eq_flatMap] at hdigits
  rw [String.toList_append]
  cases hhex : hex.toList with
  | nil =>
    rw [← utf8Bytes_length, utf8Bytes_eq_flatMap, hhex] at hsize
    cases hsize
  | cons c cs =>
    rw [hhex] at hdigits
    refine ⟨c, rfl, ?_, ?_⟩
    · rintro rfl
      exact absurd (hdigits 46 (by simp [String.utf8EncodeChar])) (by decide)
    · rintro rfl
      exact absurd (hdigits 109 (by simp [String.utf8EncodeChar])) (by decide)

/-- The file of a marked digest is no orphan. -/
theorem isOrphan_content (h : validateDigest digest = .ok ()) (hmarked : digest ∈ state.contents) :
    isOrphan state (contentFileName digest) = .ok false := by
  have hdig := eq_of_validateDigest h
  rw [validateDigest, ensure_eq_ok] at h
  obtain ⟨c, hhead, hdot, hm⟩ := head?_of_lowerHex h ".json"
  have hman : between? "manifest-" ".json" (contentFileName digest) = none := by
    cases hbetween : between? "manifest-" ".json" (contentFileName digest) with
    | none => rfl
    | some inner =>
      have htext := congrArg List.head? (eq_of_between? hbetween)
      rw [contentFileName, hhead] at htext
      exact absurd (Option.some.inj htext).symm hm
  have hcon : between? "" ".json" (contentFileName digest) = some (hexOf digest) := by
    have := between?_append "" (hexOf digest) ".json"
    rwa [String.empty_append] at this
  have hstays : state.contents.contains ("sha256:" ++ hexOf digest) = true := by
    rw [← hdig]
    exact contains_iff_mem.mpr hmarked
  rw [isOrphan, if_neg, hman]
  · simp only [hcon, h, ensure, if_true, ok_bind, hstays]
    rfl
  · rw [contentFileName, hhead]
    simp [hdot]

theorem isOrphan_manifest (h : validateDigest digest = .ok ())
    (hmarked : digest ∈ state.manifests) :
    isOrphan state (manifestFileName digest) = .ok false := by
  have hdig := eq_of_validateDigest h
  rw [validateDigest, ensure_eq_ok] at h
  have hman : between? "manifest-" ".json" (manifestFileName digest) =
      some (hexOf digest) := by
    rw [manifestFileName, ← String.append_assoc]
    exact between?_append "manifest-" (hexOf digest) ".json"
  have hstays : state.manifests.contains ("sha256:" ++ hexOf digest) = true := by
    rw [← hdig]
    exact contains_iff_mem.mpr hmarked
  rw [isOrphan, if_neg, hman]
  · simp only [h, ensure, if_true, ok_bind, hstays]
    rfl
  · rw [manifestFileName, String.toList_append]
    simp

end Names

section Sweep

variable {state : MarkState} {files : ContentFiles}

theorem sweep_subset (files : ContentFiles) (listing : List String) :
    FilesKept (sweep state files listing).2 files := by
  induction listing generalizing files with
  | nil => exact .refl files
  | cons name listing ih =>
    rw [sweep]
    split
    · exact .refl files
    · intro other text hoth
      exact (Table.found_of_erase (ih (files.erase name) other text hoth)).2
    · exact ih files

/-- A file that is no orphan stays. -/
theorem sweep_keeps {name text : String} (horphan : isOrphan state name = .ok false)
    (h : files[name]? = some text) (listing : List String) :
    (sweep state files listing).2[name]? = some text := by
  induction listing generalizing files with
  | nil => exact h
  | cons other listing ih =>
    rw [sweep]
    split
    · exact h
    · rename_i hoth
      apply ih
      rw [Table.getElem?_erase, if_neg]
      · exact h
      · rintro rfl
        rw [horphan] at hoth
        cases hoth
    · exact ih h

end Sweep

/-! ### The whole cleanup -/

section Cleanup

variable {cas : ObservationCas} {sessionId : String} {history : LogHistory}
  {files : ContentFiles}

theorem StoredLog.roots (h : StoredLog cas sessionId history)
    (hst : HistoryStored cas files history) :
    (∀ root ∈ history.manifests.map (·.digest), ∃ contents, RootStored cas files root contents) ∧
      ∀ cont ∈ history.contents, ∃ root ∈ history.manifests.map (·.digest), ∃ contents,
        RootStored cas files root contents ∧ cont ∈ contents := by
  induction h with
  | empty => constructor <;> rintro _ ⟨⟩
  | plain _ _ ih => exact ih ⟨hst.contents, hst.manifests⟩
  | @request history wire items contents hlog hline ih =>
    obtain ⟨hearlier, hlast⟩ := hst.of_request hlog
    obtain ⟨hroots, hcons⟩ := ih hearlier
    rw [LogHistory.request, map_append]
    constructor
    · intro root hroot
      rcases mem_append_last.mp hroot with hroot | rfl
      · exact hroots root hroot
      · exact ⟨contents, hlast⟩
    · intro cont hcon
      rcases mem_append.mp hcon with hcon | hcon
      · obtain ⟨root, hroot, hrest⟩ := hcons cont hcon
        exact ⟨root, mem_append_left _ hroot, hrest⟩
      · exact ⟨_, mem_append_right _ (mem_singleton_self _), contents, hlast, hcon⟩

theorem cleanup_subset (cas : ObservationCas) (sessionId : String) (log : List Json)
    (files : ContentFiles) (listing : List String) :
    FilesKept (cleanupSessionContentDirectory cas sessionId log files listing).2 files := by
  unfold cleanupSessionContentDirectory
  split
  · exact .refl files
  · split
    · intro name text hname
      rw [Table.getElem?_empty] at hname
      cases hname
    · split
      · exact .refl files
      · exact sweep_subset files listing

/-- **The directory still has everything that the history stored**, whatever files it had beside
    that, in whatever order they are listed, and whether or not the cleanup gets to its end. -/
theorem cleanup_stored (h : StoredLog cas sessionId history)
    (hst : HistoryStored cas files history) (listing : List String) :
    HistoryStored cas
      (cleanupSessionContentDirectory cas sessionId history.log files listing).2 history := by
  obtain ⟨hroots, hexists⟩ := h.roots hst
  unfold cleanupSessionContentDirectory
  rw [h.storedManifestDigests]
  obtain ⟨state, hmark, hinv⟩ := markRoots_eq_ok hroots
  by_cases hemp : (history.manifests.map (·.digest)).isEmpty = true
  · -- a log without manifests has stored nothing
    rw [List.isEmpty_iff] at hemp
    constructor
    · intro cont hcon
      obtain ⟨root, hroot, -⟩ := hexists cont hcon
      rw [hemp] at hroot
      cases hroot
    · intro manifest hman
      rw [List.map_eq_nil_iff.mp hemp] at hman
      cases hman
  · simp only [if_neg hemp, hmark]
    constructor
    · intro cont hcon
      obtain ⟨root, hroot, contents, hlisted, hmem⟩ := hexists cont hcon
      have hmarked := hinv.contents root hroot contents hlisted cont hmem
      obtain ⟨hfile, hdec⟩ := hst.contents cont hcon
      exact ⟨sweep_keeps (isOrphan_content (hst.contents cont hcon).valid hmarked)
        hfile listing, hdec⟩
    · intro manifest hman
      have hmarked := hinv.manifests _ (List.mem_map_of_mem hman)
      have hval := (hst.manifests manifest hman).valid
      obtain ⟨raw, hraw, hdec⟩ := hst.manifests manifest hman
      exact ⟨raw, sweep_keeps (isOrphan_manifest hval hmarked) hraw listing, hdec⟩

end Cleanup

end Centaeris
