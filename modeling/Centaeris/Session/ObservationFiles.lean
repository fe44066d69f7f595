import Centaeris.Session.ObservationChains

namespace Centaeris

open Foundation List

/-!
# The files of stored observations

Files are named by the digests of their texts.  As long as the hash has no collision on the
texts that were hashed, a name determines its text.
-/

/-! ### Names -/

section Names

variable {cas : ObservationCas} {digest digest' text text' : String}

@[simp] theorem hexOf_append (hex : String) : hexOf ("sha256:" ++ hex) = hex := by
  have hleading : "sha256:".toList.isPrefixOf ("sha256:" ++ hex).toList = true := by
    rw [String.toList_append, isPrefixOf_iff_prefix]
    exact prefix_append _ _
  have hdrop : ("sha256:" ++ hex).toList.drop "sha256:".length = hex.toList := by
    rw [String.toList_append]
    exact drop_left' rfl
  rw [hexOf, stripLeading, if_pos hleading, hdrop, String.ofList_toList]

theorem validateDigest_content (cas : ObservationCas) (text : String) :
    validateDigest (digestContent cas text) = .ok () := by
  rw [validateDigest, digestContent, hexOf_append, ensure_eq_ok]
  exact cas.sha256Hex_valid _

theorem validateDigest_manifest (cas : ObservationCas) (text : String) :
    validateDigest (digestManifest cas text) = .ok () := by
  rw [validateDigest, digestManifest, hexOf_append, ensure_eq_ok]
  exact cas.sha256Hex_valid _

theorem contentFileName_ne_manifestFileName (h : validateDigest digest = .ok ()) :
    contentFileName digest ≠ manifestFileName digest' := by
  intro hname
  have hhex : hexOf digest = "manifest-" ++ hexOf digest' := by
    apply (String.append_left_inj ".json").mp
    rw [String.append_assoc]
    exact hname
  rw [validateDigest, ensure_eq_ok, isLowerHex, Bool.and_eq_true, all_eq_true, hhex] at h
  have hm : (109 : UInt8) ∈ utf8Bytes ("manifest-" ++ hexOf digest') := by
    rw [utf8Bytes_eq_flatMap, mem_flatMap]
    exact ⟨'m', by simp, by decide⟩
  exact absurd (h.2 109 hm) (by decide)

/-- The name of a content or of a manifest, and its text. -/
def Named (cas : ObservationCas) (used : List String) (name text : String) : Prop :=
  (contentDigestDomain ++ text ∈ used ∧ name = contentFileName (digestContent cas text)) ∨
    (manifestDigestDomain ++ text ∈ used ∧ name = manifestFileName (digestManifest cas text))

/-- The hash has no collision on the texts that were hashed. -/
def NoCollision (cas : ObservationCas) (used : List String) : Prop :=
  ∀ a ∈ used, ∀ b ∈ used, cas.sha256Hex a = cas.sha256Hex b → a = b

theorem Named.unique {used : List String} {name : String} (hcol : NoCollision cas used)
    (h : Named cas used name text) (h' : Named cas used name text') : text = text' := by
  rcases h with ⟨hused, rfl⟩ | ⟨hused, rfl⟩
  · rcases h' with ⟨hused', hname⟩ | ⟨-, hname⟩
    · rw [contentFileName, contentFileName, String.append_left_inj, digestContent, digestContent,
        hexOf_append, hexOf_append] at hname
      exact (String.append_right_inj _).mp (hcol _ hused _ hused' hname)
    · exact absurd hname (contentFileName_ne_manifestFileName (validateDigest_content cas text))
  · rcases h' with ⟨-, hname⟩ | ⟨hused', hname⟩
    · exact absurd hname.symm
        (contentFileName_ne_manifestFileName (validateDigest_content cas text'))
    · rw [manifestFileName, manifestFileName, String.append_right_inj, String.append_left_inj,
        digestManifest, digestManifest, hexOf_append, hexOf_append] at hname
      exact (String.append_right_inj _).mp (hcol _ hused _ hused' hname)

end Names

/-! ### Storing files -/

/-- A directory in which every file has its name. -/
def FilesNamed (cas : ObservationCas) (used : List String) (files : ContentFiles) : Prop :=
  ∀ name text, files[name]? = some text → Named cas used name text

/-- Every file of one directory is in another one. -/
def FilesKept (files files' : ContentFiles) : Prop :=
  ∀ (name text : String), files[name]? = some text → files'[name]? = some text

section Install

variable {cas : ObservationCas} {used : List String} {files files' : ContentFiles}
  {list : List Installation}

theorem FilesKept.refl (files : ContentFiles) : FilesKept files files := fun _ _ h => h

theorem FilesKept.trans {files'' : ContentFiles} (h : FilesKept files files')
    (h' : FilesKept files' files'') : FilesKept files files'' :=
  fun name text hfile => h' name text (h name text hfile)

theorem FilesNamed.insert {name text : String} (h : FilesNamed cas used files)
    (hnamed : Named cas used name text) : FilesNamed cas used (files.insert name text) := by
  intro other found hfd
  obtain ⟨rfl, rfl⟩ | ⟨-, hold⟩ := Table.found_of_insert hfd
  · exact hnamed
  · exact h other found hold

section

variable (hcol : NoCollision cas used) (hfiles : FilesNamed cas used files)

include hcol hfiles

/-- A file that is to be stored already has its text, or is not there. -/
theorem getD_of_named {name text : String} (hnamed : Named cas used name text) :
    (files[name]?).getD text = text := by
  cases hfile : files[name]? with
  | none => rfl
  | some raw => exact (hfiles name raw hfile).unique hcol hnamed

theorem storeFile_spec {file : Installation} (hnamed : Named cas used file.name file.contentJson) :
    FilesNamed cas used (storeFile files file) ∧ FilesKept files (storeFile files file) ∧
      (storeFile files file)[file.name]? = some file.contentJson := by
  unfold storeFile
  cases hfile : files[file.name]? with
  | some raw =>
    obtain rfl := (hfiles file.name raw hfile).unique hcol hnamed
    exact ⟨hfiles, .refl files, hfile⟩
  | none =>
    refine ⟨hfiles.insert hnamed, fun _ _ => Table.insert_keeps hfile, ?_⟩
    rw [Table.getElem?_insert, if_pos rfl]

variable (hnamed : ∀ file ∈ list, Named cas used file.name file.contentJson)

include hnamed

theorem installAll_named :
    FilesNamed cas used (installAll files list).2 ∧ FilesKept files (installAll files list).2 := by
  induction list generalizing files with
  | nil => exact ⟨hfiles, .refl files⟩
  | cons file rest ih =>
    rw [forall_mem_cons] at hnamed
    obtain ⟨hst, hkept, -⟩ := storeFile_spec hcol hfiles hnamed.1
    rw [installAll]
    split
    · obtain ⟨hnext, hrest⟩ := ih hst hnamed.2
      exact ⟨hnext, hkept.trans hrest⟩
    · exact ⟨hst, hkept⟩

/-- Storing files has the same result whatever is there already, keeps every file, and leaves what
    it checked. -/
theorem installAll_result :
    (installAll files list).1 = list.forM fun file => file.verify file.contentJson := by
  induction list generalizing files with
  | nil => rfl
  | cons file rest ih =>
    rw [forall_mem_cons] at hnamed
    obtain ⟨hst, -, -⟩ := storeFile_spec hcol hfiles hnamed.1
    rw [installAll, getD_of_named hcol hfiles hnamed.1, List.forM]
    cases hverify : file.verify file.contentJson with
    | error failure => rfl
    | ok u => exact ih hst hnamed.2

/-- What was stored is there and passed its check. -/
theorem installAll_stored (h : (installAll files list).1 = .ok ()) :
    ∀ file ∈ list, (installAll files list).2[file.name]? = some file.contentJson ∧
      file.verify file.contentJson = .ok () := by
  induction list generalizing files with
  | nil => nofun
  | cons file rest ih =>
    rw [forall_mem_cons] at hnamed
    obtain ⟨hst, -, hfile⟩ := storeFile_spec hcol hfiles hnamed.1
    rw [installAll, getD_of_named hcol hfiles hnamed.1] at h ⊢
    cases hverify : file.verify file.contentJson with
    | error failure =>
      rw [hverify] at h
      cases h
    | ok u =>
      rw [hverify] at h
      rw [forall_mem_cons]
      obtain ⟨-, hkept⟩ := installAll_named hcol hst hnamed.2
      exact ⟨⟨hkept _ _ hfile, hverify⟩, ih hst hnamed.2 h⟩

end

end Install

end Centaeris
