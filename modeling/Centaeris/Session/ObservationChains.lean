import Centaeris.Session.Observations

namespace Centaeris

open Foundation List Outcome

/-!
# Chains of manifests
-/

/-! ### One manifest -/

section Changes

variable {parent : List ObservationReference}

theorem foldlM_applyChange (done rest : List ObservationReference) :
    (((rest.zipIdx done.length).filter fun entry => parent[entry.2]? != some entry.1).map
      fun entry => (⟨entry.2, entry.1⟩ : ObservationChange)).foldlM applyChange
        (done ++ (parent.drop done.length).take rest.length) = .ok (done ++ rest) := by
  induction rest generalizing done with
  | nil => simp [pure, Except.pure]
  | cons reference rest ih =>
    have hnext := ih (done ++ [reference])
    rw [length_append, length_singleton] at hnext
    rw [zipIdx_cons, filter_cons]
    cases hpar : parent[done.length]? with
    | none =>
      -- the parent is shorter: the reference is appended
      have hdrop : parent.drop done.length = [] :=
        drop_eq_nil_of_le (List.getElem?_eq_none_iff.mp hpar)
      have hdrop' : parent.drop (done.length + 1) = [] :=
        drop_eq_nil_of_le (Nat.le_succ_of_le (List.getElem?_eq_none_iff.mp hpar))
      rw [hdrop', take_nil, append_nil, append_assoc] at hnext
      have hchg : applyChange done ⟨done.length, reference⟩ = .ok (done ++ [reference]) := by
        simp [applyChange, ensure, pure, Except.pure]
      rw [hdrop, take_nil, append_nil, if_pos (by rfl), map_cons, foldlM_cons, hchg]
      exact hnext
    | some old =>
      obtain ⟨hlt, hold⟩ := List.getElem?_eq_some_iff.mp hpar
      have hdrop : parent.drop done.length = old :: parent.drop (done.length + 1) := by
        rw [drop_eq_getElem_cons hlt, hold]
      rw [hdrop, length_cons, take_succ_cons]
      rw [append_assoc, singleton_append] at hnext
      by_cases hsame : old = reference
      · subst hsame
        rw [if_neg (by simp)]
        simpa using hnext
      · rw [if_pos (by simpa using hsame), map_cons, foldlM_cons]
        simpa [applyChange, hsame, ensure, pure, Except.pure] using hnext

/-- A manifest applied to the references of its parent gives the references it was built from. -/
theorem applyManifest_buildManifest (cas : ObservationCas) {parentDigest : Option String}
    (hroot : parentDigest = none → parent = []) (refs : List ObservationReference) :
    applyManifest (buildManifest cas parentDigest parent refs) parent = .ok refs := by
  have hchanges := @foldlM_applyChange parent [] refs
  simp only [length_nil, drop_zero, nil_append] at hchanges
  have hcheck : (parentDigest.isSome || parent.isEmpty) = true := by
    cases parentDigest with
    | none => simp [hroot rfl]
    | some digest => rfl
  simp only [applyManifest, buildManifest, changesFrom, hcheck, hchanges, ensure, if_true,
    ok_bind, beq_self_eq_true]
  rfl

end Changes

/-! ### Chains -/

/-- The directory has a manifest file under a digest. -/
def ManifestAt (cas : ObservationCas) (files : ContentFiles) (digest : String)
    (manifest : ObservationManifest) : Prop :=
  ∃ raw, files[manifestFileName digest]? = some raw ∧ decodeManifest cas digest raw = .ok manifest

/-- What a digest stands for in a directory: a manifest file, and its parents back to the first
    one. -/
inductive Resolved (cas : ObservationCas) (files : ContentFiles) :
    Nat → String → List ObservationReference → Prop
  | root {digest : String} {manifest : ObservationManifest}
      {refs : List ObservationReference} (hread : ManifestAt cas files digest manifest)
      (hpar : manifest.parentDigest = none)
      (happly : applyManifest manifest [] = .ok refs) : Resolved cas files 0 digest refs
  | child {n : Nat} {digest parent : String} {manifest : ObservationManifest}
      {older refs : List ObservationReference} (hread : ManifestAt cas files digest manifest)
      (hpar : manifest.parentDigest = some parent) (hrest : Resolved cas files n parent older)
      (happly : applyManifest manifest older = .ok refs) :
      Resolved cas files (n + 1) digest refs

section Chains

variable {cas : ObservationCas} {files files' : ContentFiles} {n m : Nat} {digest : String}
  {manifest manifest' : ObservationManifest} {refs refs' : List ObservationReference}

theorem ManifestAt.valid (h : ManifestAt cas files digest manifest) :
    validateDigest digest = .ok () := by
  obtain ⟨raw, -, hdec⟩ := h
  simp only [decodeManifest, ok_rules] at hdec
  exact hdec.1

/-- This is determined by the files, the number of parents included. -/
theorem ManifestAt.unique (h : ManifestAt cas files digest manifest)
    (h' : ManifestAt cas files digest manifest') : manifest = manifest' := by
  obtain ⟨raw, hraw, hdec⟩ := h
  obtain ⟨raw', hraw', hdec'⟩ := h'
  cases hraw.symm.trans hraw'
  exact Except.ok.inj (hdec.symm.trans hdec')

theorem Resolved.valid (h : Resolved cas files n digest refs) :
    validateDigest digest = .ok () := by
  cases h with
  | root hread _ _ | child hread _ _ _ => exact hread.valid

theorem Resolved.unique (h : Resolved cas files n digest refs)
    (h' : Resolved cas files m digest refs') : n = m ∧ refs = refs' := by
  induction h generalizing m refs' with
  | root hread hpar happly =>
    cases h' with
    | root hread' hpar' happly' =>
      obtain rfl := hread.unique hread'
      rw [happly] at happly'
      exact ⟨rfl, Except.ok.inj happly'⟩
    | child hread' hpar' _ _ =>
      obtain rfl := hread.unique hread'
      cases hpar.symm.trans hpar'
  | child hread hpar _ happly ih =>
    cases h' with
    | root hread' hpar' _ =>
      obtain rfl := hread.unique hread'
      cases hpar.symm.trans hpar'
    | child hread' hpar' hrest' happly' =>
      obtain rfl := hread.unique hread'
      cases hpar.symm.trans hpar'
      obtain ⟨rfl, rfl⟩ := ih hrest'
      rw [happly] at happly'
      exact ⟨rfl, Except.ok.inj happly'⟩

theorem eq_of_validateDigest (h : validateDigest digest = .ok ()) :
    digest = "sha256:" ++ hexOf digest := by
  rw [validateDigest, ensure_eq_ok, hexOf, stripLeading] at h
  rw [hexOf, stripLeading]
  split at h
  · rename_i hleading
    rw [if_pos hleading]
    obtain ⟨rest, hrest⟩ := isPrefixOf_iff_prefix.mp hleading
    have hdrop : digest.toList.drop "sha256:".length = rest := by
      rw [← hrest]
      exact drop_left' rfl
    apply String.toList_inj.mp
    rw [hdrop, String.toList_append, ← hrest]
    exact congrArg ("sha256:".toList ++ ·) String.toList_ofList.symm
  · exact absurd h (by decide)

theorem manifestFileName_injective {digest digest' : String}
    (h : validateDigest digest = .ok ()) (h' : validateDigest digest' = .ok ())
    (hname : manifestFileName digest = manifestFileName digest') : digest = digest' := by
  have hhex : hexOf digest = hexOf digest' :=
    (String.append_left_inj _).mp ((String.append_right_inj _).mp hname)
  rw [eq_of_validateDigest h, eq_of_validateDigest h', hhex]

/-- The files of a chain, all different. -/
theorem Resolved.exists_names (h : Resolved cas files n digest refs) :
    ∃ names : List String, names.length = n + 1 ∧ names.Nodup ∧
      (∀ name ∈ names, name ∈ files) ∧
      ∀ name ∈ names, ∃ k ≤ n, ∃ digest refs, Resolved cas files k digest refs ∧
        name = manifestFileName digest := by
  induction h with
  | @root digest manifest refs hread hpar happly =>
    have hself : Resolved cas files 0 digest refs := .root hread hpar happly
    obtain ⟨raw, hraw, -⟩ := hread
    refine ⟨[manifestFileName digest], rfl, nodup_singleton _, ?_, ?_⟩
    · intro name hname
      rw [mem_singleton.mp hname]
      exact Table.mem_of_getElem?_eq_some hraw
    · intro name hname
      exact ⟨0, le_rfl, digest, refs, hself, mem_singleton.mp hname⟩
  | @child n digest parent manifest older refs hread hpar hrest happly ih =>
    have hself : Resolved cas files (n + 1) digest refs := .child hread hpar hrest happly
    obtain ⟨names, hlen, hnodup, hfiles, hchain⟩ := ih
    obtain ⟨raw, hraw, -⟩ := hread
    refine ⟨manifestFileName digest :: names, by rw [length_cons, hlen], ?_, ?_, ?_⟩
    · rw [nodup_cons]
      refine ⟨?_, hnodup⟩
      intro hm
      -- a parent has fewer parents of its own
      obtain ⟨k, hk, other, otherReferences, hoth, hname⟩ := hchain _ hm
      obtain rfl := manifestFileName_injective hself.valid hoth.valid hname
      have := (hself.unique hoth).1
      omega
    · intro name hname
      rcases mem_cons.mp hname with rfl | hname
      · exact Table.mem_of_getElem?_eq_some hraw
      · exact hfiles name hname
    · intro name hname
      rcases mem_cons.mp hname with rfl | hname
      · exact ⟨n + 1, le_rfl, digest, refs, hself, rfl⟩
      · obtain ⟨k, hk, hexists⟩ := hchain name hname
        exact ⟨k, Nat.le_succ_of_le hk, hexists⟩

/-- So a chain has no more manifests than there are files. -/
theorem Resolved.lt_size (h : Resolved cas files n digest refs) : n < files.size := by
  obtain ⟨names, hlen, hnodup, hfiles, -⟩ := h.exists_names
  have hsize := Table.length_le_size hnodup hfiles
  omega

/-! ### Reading a chain -/

/-- The references of the manifests that were read before are right. -/
def CacheSound (cas : ObservationCas) (files : ContentFiles) (cache : ManifestCache) : Prop :=
  ∀ digest refs, cache[digest]? = some refs →
    ∃ n, Resolved cas files n digest refs

theorem not_visiting {visiting : List String} (h : Resolved cas files n digest refs)
    (hvisiting : ∀ visited ∈ visiting, ∃ k refs, n < k ∧
      Resolved cas files k visited refs) : visiting.contains digest = false := by
  rw [contains_eq_mem, decide_eq_false_iff_not]
  intro hm
  obtain ⟨k, other, hk, hoth⟩ := hvisiting digest hm
  have := (h.unique hoth).1
  omega

/-- The loop over the parents, from a digest that none of the visited ones has as a parent of
    its own. -/
theorem manifestChain_eq_ok {cache : ManifestCache} (hcache : CacheSound cas files cache)
    {fuel : Nat} {visiting : List String}
    (h : Resolved cas files n digest refs) (hfuel : n < fuel)
    (hvisiting : ∀ visited ∈ visiting, ∃ k refs, n < k ∧
      Resolved cas files k visited refs) :
    ∃ chain known, manifestChain cas files cache fuel visiting (some digest) =
        .ok (chain, known) ∧
      chain.reverse.foldlM (fun refs manifest => applyManifest manifest refs) known =
        .ok refs := by
  induction h generalizing fuel visiting with
  | @root digest manifest refs hread hpar happly =>
    have hself : Resolved cas files 0 digest refs := .root hread hpar happly
    obtain ⟨fuel, rfl⟩ : ∃ fuel', fuel = fuel' + 1 := ⟨fuel - 1, by omega⟩
    rw [manifestChain]
    cases hcached : cache[digest]? with
    | some cached =>
      obtain ⟨k, hk⟩ := hcache digest cached hcached
      obtain ⟨-, rfl⟩ := hself.unique hk
      exact ⟨[], refs, rfl, rfl⟩
    | none =>
      obtain ⟨raw, hraw, hdec⟩ := hread
      have hfr := not_visiting hself hvisiting
      simp only [hfr, hself.valid, readFile, hraw, orFail, hdec, hpar, ensure, if_true,
        ok_bind, Bool.not_false]
      exact ⟨[manifest], [], by rw [manifestChain]; rfl, by simpa [pure, Except.pure] using happly⟩
  | @child n digest parent manifest older refs hread hpar hrest happly ih =>
    have hself : Resolved cas files (n + 1) digest refs := .child hread hpar hrest happly
    obtain ⟨fuel, rfl⟩ : ∃ fuel', fuel = fuel' + 1 := ⟨fuel - 1, by omega⟩
    rw [manifestChain]
    cases hcached : cache[digest]? with
    | some cached =>
      obtain ⟨k, hk⟩ := hcache digest cached hcached
      obtain ⟨-, rfl⟩ := hself.unique hk
      exact ⟨[], refs, rfl, rfl⟩
    | none =>
      obtain ⟨raw, hraw, hdec⟩ := hread
      have hfr := not_visiting hself hvisiting
      obtain ⟨chain, known, hchain, hfold⟩ := @ih fuel (digest :: visiting) (by omega) (by
        intro visited hm
        rcases mem_cons.mp hm with rfl | hm
        · exact ⟨n + 1, refs, Nat.lt_succ_self n, hself⟩
        · obtain ⟨k, other, hk, hoth⟩ := hvisiting visited hm
          exact ⟨k, other, by omega, hoth⟩)
      simp only [hfr, hself.valid, readFile, hraw, orFail, hdec, hpar, ensure, if_true,
        ok_bind, Bool.not_false, hchain]
      refine ⟨manifest :: chain, known, rfl, ?_⟩
      rw [reverse_cons, foldlM_append_eq_ok_iff]
      exact ⟨older, hfold, by simpa using happly⟩

/-- The reader finds it, whatever it has read before. -/
theorem resolveManifestReferences_eq_ok {cache : ManifestCache}
    (hcache : CacheSound cas files cache) (h : Resolved cas files n digest refs) :
    ∃ cache', resolveManifestReferences cas files digest cache = .ok (refs, cache') ∧
      CacheSound cas files cache' := by
  rw [resolveManifestReferences, h.valid, ok_bind]
  cases hcached : cache[digest]? with
  | some cached =>
    obtain ⟨k, hk⟩ := hcache digest cached hcached
    obtain ⟨-, rfl⟩ := h.unique hk
    exact ⟨cache, rfl, hcache⟩
  | none =>
    have hnone : ∀ visited ∈ ([] : List String), ∃ k refs, n < k ∧
        Resolved cas files k visited refs := nofun
    obtain ⟨chain, known, hchain, hfold⟩ := manifestChain_eq_ok hcache h
      (Nat.lt_succ_of_lt h.lt_size) hnone
    refine ⟨cache.insert digest refs, ?_, ?_⟩
    · simp only [hchain, ok_bind, hfold]
      rfl
    · intro other found hfd
      obtain ⟨rfl, rfl⟩ | ⟨-, hold⟩ := Table.found_of_insert hfd
      · exact ⟨n, h⟩
      · exact hcache other found hold

theorem cacheSound_empty : CacheSound cas files ∅ := by
  intro digest refs h
  rw [Table.getElem?_empty] at h
  cases h

end Chains

end Centaeris
