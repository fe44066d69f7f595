import Centaeris.Session.ObservationCleanup
import Centaeris.Session.ObservationHydration

namespace Centaeris

open Foundation List

/-!
# Sessions with stored observations

A session appends batches of lines, each compacted first, and cleans its directory up at times.
A batch may also be compacted without being appended afterwards.
-/

/-- A JSON value as the program has them: the text of a double is not that of an integer. -/
abbrev WireValue := { wire : Json // wire.proper = true }

/-- A session: its log and its directory.  The lines as they were given and the texts that were
    hashed are kept for the statements only. -/
structure ObservationSession where
  log : List Json
  files : ContentFiles
  originals : List Json
  hashed : List String

/-- What happens to a session. -/
inductive StorageStep where
  /-- New lines are compacted and appended. -/
  | append (wires : List WireValue)
  /-- New lines are compacted, but appending them fails. -/
  | install (wires : List WireValue)
  /-- The directory is cleaned up; it is listed in some order. -/
  | cleanup (listing : List String)

/-- The texts that are hashed for new lines. -/
def hashedBatch (cas : ObservationCas) (sid : String) (log : List Json)
    (files : ContentFiles) (wires : List Json) : List String :=
  hashedContents wires ++
    match compactWires cas sid log files wires with
    | .ok state => state.manifests.map fun manifest => manifestDigestDomain ++ manifest.contentJson
    | .error _ => []

namespace ObservationSession

def empty : ObservationSession := ⟨[], ∅, [], []⟩

/-- The session after new lines were compacted. -/
def install (cas : ObservationCas) (sid : String) (session : ObservationSession)
    (wires : List Json) : ObservationSession :=
  { session with
    files := (compactAndInstallWires cas sid session.log session.files wires).2
    hashed := session.hashed ++ hashedBatch cas sid session.log session.files wires }

def step (cas : ObservationCas) (sid : String) (session : ObservationSession) :
    StorageStep → ObservationSession
  | .append wires =>
    match (compactAndInstallWires cas sid session.log session.files wires.unattach).1 with
    | .ok stored =>
      { session.install cas sid wires.unattach with
        log := session.log ++ stored
        originals := session.originals ++ wires.unattach }
    | .error _ => session.install cas sid wires.unattach
  | .install wires => session.install cas sid wires.unattach
  | .cleanup listing =>
    { session with
      files := (cleanupSessionContentDirectory cas sid session.log session.files listing).2 }

/-- A session after any such steps. -/
def run (cas : ObservationCas) (sid : String) (session : ObservationSession)
    (steps : List StorageStep) : ObservationSession :=
  steps.foldl (step cas sid) session

theorem run_append (cas : ObservationCas) (sid : String) (session : ObservationSession)
    (steps steps' : List StorageStep) :
    session.run cas sid (steps ++ steps') =
      (session.run cas sid steps).run cas sid steps' :=
  foldl_append

/-- The texts of a batch are hashed whether it is accepted or not. -/
theorem hashed_append (cas : ObservationCas) (sid : String) (session : ObservationSession)
    (wires : List WireValue) : (session.step cas sid (.append wires)).hashed =
      (session.install cas sid wires.unattach).hashed := by
  rw [step]
  split <;> rfl

end ObservationSession

/-! ### One batch -/

section Batch

variable {cas : ObservationCas} {sid : String} {hist : LogHistory} {used : List String}
  {files files' : ContentFiles} {wires : List Json}

theorem StoredLog.plains (h : StoredLog cas sid hist)
    (hwires : ∀ wire ∈ wires, isModelRequest wire = false) :
    StoredLog cas sid { hist with
      originals := hist.originals ++ wires
      log := hist.log ++ wires } := by
  induction wires generalizing hist with
  | nil =>
    rw [append_nil, append_nil]
    exact h
  | cons wire wires ih =>
    rw [forall_mem_cons] at hwires
    have hrest := ih (h.plain hwires.1) hwires.2
    simpa [LogHistory.plain] using hrest

variable {state : CompactState}

theorem Compacted.historyHashed {hist' : LogHistory}
    (h : Compacted cas sid hist state wires hist')
    (hhash : HistoryHashed used hist)
    (hsta : compactWires cas sid hist.log files wires = .ok state)
    (hused : hashedBatch cas sid hist.log files wires ⊆ used) :
    HistoryHashed used hist' := by
  rw [hashedBatch, hsta, append_subset] at hused
  constructor
  · intro content hcon
    rcases h.hashed content hcon with hold | hnew
    · exact hhash.contents content hold
    · exact hused.1 hnew
  · intro manifest hman
    rw [h.manifests, mem_append] at hman
    rcases hman with hold | hnew
    · exact hhash.manifests manifest hold
    · exact hused.2 (mem_map_of_mem hnew)

theorem HistoryStored.kept (h : HistoryStored cas files hist) (hkept : FilesKept files files') :
    HistoryStored cas files' hist where
  contents content hm := (h.contents content hm).kept hkept
  manifests manifest hm := (h.manifests manifest hm).kept hkept

/-- What a log and its directory are together. -/
structure SessionInvariant (cas : ObservationCas) (sid : String) (used : List String)
    (files : ContentFiles) (hist : LogHistory) : Prop where
  log : StoredLog cas sid hist
  stored : HistoryStored cas files hist
  hashed : HistoryHashed used hist
  named : FilesNamed cas used files

section

variable (hinv : SessionInvariant cas sid used files hist)

include hinv

theorem compactWires_congr
    (hinv' : SessionInvariant cas sid used files' hist) (wires : List Json) :
    compactWires cas sid hist.log files wires =
      compactWires cas sid hist.log files' wires := by
  rw [compactWires_eq hinv.log hinv.stored, compactWires_eq hinv'.log hinv'.stored]

/-- What the loop over the lines of a batch ends with. -/
theorem SessionInvariant.compacted (hprop : ∀ wire ∈ wires, wire.proper = true)
    (hsta : compactWires cas sid hist.log files wires = .ok state)
    (hused : hashedBatch cas sid hist.log files wires ⊆ used) :
    ∃ hist', Compacted cas sid hist state wires hist' ∧
      HistoryHashed used hist' := by
  have hloop := hsta
  rw [compactWires_eq hinv.log hinv.stored] at hloop
  obtain ⟨hist', hcomp⟩ := compactWires_compacted hinv.log hprop hloop
  exact ⟨hist', hcomp, hcomp.historyHashed hinv.hashed hsta hused⟩

section

variable (hcol : NoCollision cas used)
  (hprop : ∀ wire ∈ wires, wire.proper = true)
  (hused : hashedBatch cas sid hist.log files wires ⊆ used)

include hcol hprop hused

/-- A batch keeps what the directory has, also when it fails. -/
theorem SessionInvariant.installed :
    SessionInvariant cas sid used
      (compactAndInstallWires cas sid hist.log files wires).2 hist := by
  unfold compactAndInstallWires
  split
  · exact hinv
  · split
    · split
      · exact hinv
      · rename_i state hsta
        obtain ⟨hist', hcomp, hhash⟩ := hinv.compacted hprop hsta hused
        obtain ⟨hnamed, hkept⟩ :=
          installAll_named hcol hinv.named (hcomp.named hhash)
        exact ⟨hinv.log, hinv.stored.kept hkept, hinv.hashed, hnamed⟩
    · exact hinv

/-- Two directories that both have the history give the same answer to a batch. -/
theorem compactAndInstallWires_congr (hinv' : SessionInvariant cas sid used files' hist) :
    (compactAndInstallWires cas sid hist.log files wires).1 =
      (compactAndInstallWires cas sid hist.log files' wires).1 := by
  unfold compactAndInstallWires
  rw [← compactWires_congr hinv hinv' wires]
  split
  · rfl
  · split
    · split
      · rfl
      · rename_i state hsta
        obtain ⟨hist', hcomp, hhash⟩ := hinv.compacted hprop hsta hused
        have hres := installAll_result hcol hinv.named (hcomp.named hhash)
        have hres' := installAll_result hcol hinv'.named (hcomp.named hhash)
        simp only [hres, hres']
    · rfl

/-- **One batch.** An accepted batch makes the history longer, in the same way for every
    directory that has what was stored before. -/
theorem exists_history_of_accepted {stored : List Json}
    (h : (compactAndInstallWires cas sid hist.log files wires).1 = .ok stored) :
    ∃ hist', hist'.originals = hist.originals ++ wires ∧
      hist'.log = hist.log ++ stored ∧
      ∀ files', SessionInvariant cas sid used files' hist →
        SessionInvariant cas sid used
          (compactAndInstallWires cas sid hist.log files' wires).2 hist' := by
  unfold compactAndInstallWires at h ⊢
  split at h
  · cases h
  · split at h
    · rename_i hreq
      split at h
      · cases h
      · rename_i state hsta
        obtain ⟨hist', hcomp, hhash⟩ := hinv.compacted hprop hsta hused
        cases hinstall : (installAll files (state.installations cas)).1 with
        | error failure =>
          simp only [hinstall] at h
          cases h
        | ok u =>
          simp only [hinstall] at h
          cases h
          refine ⟨hist', hcomp.originals, hcomp.wires, fun files' hinv' => ?_⟩
          have hagain := installAll_result hcol hinv'.named (hcomp.named hhash)
          rw [← installAll_result hcol hinv.named (hcomp.named hhash)] at hagain
          obtain ⟨hnamed, -⟩ :=
            installAll_named hcol hinv'.named (hcomp.named hhash)
          rw [if_pos hreq, ← compactWires_congr hinv hinv' wires, hsta]
          exact ⟨hcomp.log, installed_stored hcomp hcol hhash hinv'.named
            hinv'.stored (hagain.trans hinstall), hhash, hnamed⟩
    · -- no line is a model request
      rename_i hplain
      cases h
      have hwires : ∀ wire ∈ wires, isModelRequest wire = false := by simpa using hplain
      refine ⟨{ hist with
        originals := hist.originals ++ wires
        log := hist.log ++ wires }, rfl, rfl, fun files' hinv' => ?_⟩
      rw [if_neg hplain]
      exact ⟨hinv.log.plains hwires, ⟨hinv'.stored.contents, hinv'.stored.manifests⟩,
        ⟨hinv.hashed.contents, hinv.hashed.manifests⟩, hinv'.named⟩

end

theorem SessionInvariant.cleanup (listing : List String) :
    SessionInvariant cas sid used
      (cleanupSessionContentDirectory cas sid hist.log files listing).2 hist where
  log := hinv.log
  stored := cleanup_stored hinv.log hinv.stored listing
  hashed := hinv.hashed
  named name text h := hinv.named name text (cleanup_subset cas sid _ files listing name text h)

end

end Batch

/-! ### Whole sessions -/

/-- The log of a session has the given history, which is stored. -/
structure SessionAt (cas : ObservationCas) (sid : String) (used : List String)
    (session : ObservationSession) (hist : LogHistory) : Prop where
  invariant : SessionInvariant cas sid used session.files hist
  log : hist.log = session.log
  originals : hist.originals = session.originals

section Sessions

variable {cas : ObservationCas} {sid : String} {used : List String}
  {session session' : ObservationSession} {hist : LogHistory}

theorem sessionAt_empty (cas : ObservationCas) (sid : String) (used : List String) :
    SessionAt cas sid used .empty .empty where
  invariant := ⟨.empty, ⟨nofun, nofun⟩, ⟨nofun, nofun⟩, fun name text h => by
    rw [ObservationSession.empty, Table.getElem?_empty] at h
    cases h⟩
  log := rfl
  originals := rfl

theorem proper_of_mem_unattach {wires : List WireValue} :
    ∀ wire ∈ wires.unattach, wire.proper = true := by
  intro wire hwire
  obtain ⟨hprop, -⟩ := mem_unattach.mp hwire
  exact hprop

theorem install_sessionAt (h : SessionAt cas sid used session hist)
    (hcol : NoCollision cas used) (wires : List WireValue)
    (hused : (session.install cas sid wires.unattach).hashed ⊆ used) :
    SessionAt cas sid used (session.install cas sid wires.unattach) hist := by
  obtain ⟨-, hbatch⟩ := append_subset.mp hused
  rw [← h.log] at hbatch
  have hinv := h.invariant.installed hcol proper_of_mem_unattach hbatch
  rw [h.log] at hinv
  exact ⟨hinv, h.log, h.originals⟩

/-- Two sessions that differ in their directories only, both of which have the history. -/
structure Alike (cas : ObservationCas) (sid : String) (used : List String)
    (session session' : ObservationSession) (hist : LogHistory) : Prop where
  left : SessionAt cas sid used session hist
  right : SessionAt cas sid used session' hist
  hashed : session.hashed = session'.hashed

theorem Alike.log (h : Alike cas sid used session session' hist) :
    session.log = session'.log := by
  rw [← h.left.log, h.right.log]

theorem Alike.hashedBatch (h : Alike cas sid used session session' hist)
    (wires : List Json) :
    Centaeris.hashedBatch cas sid session.log session.files wires =
      Centaeris.hashedBatch cas sid session'.log session'.files wires := by
  rw [← h.left.log, ← h.right.log, Centaeris.hashedBatch, Centaeris.hashedBatch,
    compactWires_congr h.left.invariant h.right.invariant wires]

theorem Alike.install (h : Alike cas sid used session session' hist)
    (hcol : NoCollision cas used) (wires : List WireValue)
    (hused : (session.install cas sid wires.unattach).hashed ⊆ used) :
    Alike cas sid used (session.install cas sid wires.unattach)
      (session'.install cas sid wires.unattach) hist := by
  have hhash : (session.install cas sid wires.unattach).hashed =
      (session'.install cas sid wires.unattach).hashed := by
    rw [ObservationSession.install, ObservationSession.install, h.hashed, h.hashedBatch]
  exact ⟨install_sessionAt h.left hcol wires hused,
    install_sessionAt h.right hcol wires (hhash ▸ hused), hhash⟩

/-- **One step** of two sessions that are alike. -/
theorem Alike.step (h : Alike cas sid used session session' hist)
    (hcol : NoCollision cas used) (event : StorageStep)
    (hused : (session.step cas sid event).hashed ⊆ used) :
    ∃ hist', Alike cas sid used (session.step cas sid event)
      (session'.step cas sid event) hist' := by
  cases event with
  | install wires => exact ⟨hist, h.install hcol wires hused⟩
  | cleanup listing =>
    have hleft := h.left.invariant.cleanup listing
    have hright := h.right.invariant.cleanup listing
    rw [h.left.log] at hleft
    rw [h.right.log] at hright
    exact ⟨hist, ⟨hleft, h.left.log, h.left.originals⟩,
      ⟨hright, h.right.log, h.right.originals⟩, h.hashed⟩
  | append wires =>
    rw [ObservationSession.hashed_append] at hused
    have halike := h.install hcol wires hused
    obtain ⟨-, hbatch⟩ := append_subset.mp hused
    rw [← h.left.log] at hbatch
    have hres := compactAndInstallWires_congr h.left.invariant hcol
      proper_of_mem_unattach hbatch h.right.invariant
    rw [ObservationSession.step, ObservationSession.step, ← h.left.log, ← h.right.log, ← hres]
    split
    · rename_i stored hst
      obtain ⟨hist', horiginals, hlog, hfiles⟩ := exists_history_of_accepted h.left.invariant
        hcol proper_of_mem_unattach hbatch hst
      have hleft := hfiles _ h.left.invariant
      have hright := hfiles _ h.right.invariant
      rw [h.left.log] at hleft
      rw [h.right.log] at hright
      refine ⟨hist', ⟨hleft, hlog, ?_⟩, ⟨hright, hlog, ?_⟩, halike.hashed⟩
      · rw [horiginals, h.left.originals]
      · rw [horiginals, h.right.originals]
    · exact ⟨hist, halike⟩

theorem hashed_subset_step (cas : ObservationCas) (sid : String)
    (session : ObservationSession) (event : StorageStep) :
    session.hashed ⊆ (session.step cas sid event).hashed := by
  cases event with
  | install wires => exact subset_append_left _ _
  | cleanup listing => exact List.Subset.refl _
  | append wires =>
    rw [ObservationSession.hashed_append]
    exact subset_append_left _ _

theorem hashed_subset_run (cas : ObservationCas) (sid : String)
    (session : ObservationSession) (steps : List StorageStep) :
    session.hashed ⊆ (session.run cas sid steps).hashed := by
  induction steps generalizing session with
  | nil => exact List.Subset.refl _
  | cons event steps ih => exact List.Subset.trans (hashed_subset_step cas sid session event) (ih _)

theorem Alike.run (h : Alike cas sid used session session' hist)
    (hcol : NoCollision cas used) (steps : List StorageStep)
    (hused : (session.run cas sid steps).hashed ⊆ used) :
    ∃ hist', Alike cas sid used (session.run cas sid steps)
      (session'.run cas sid steps) hist' := by
  induction steps generalizing session session' hist with
  | nil => exact ⟨hist, h⟩
  | cons event steps ih =>
    have hstep := List.Subset.trans
      (hashed_subset_run cas sid (session.step cas sid event) steps) hused
    obtain ⟨next, hnext⟩ := h.step hcol event hstep
    exact ih hnext hused

theorem exists_sessionAt_run (steps : List StorageStep) (hcol : NoCollision cas used)
    (hused : (ObservationSession.empty.run cas sid steps).hashed ⊆ used) :
    ∃ hist, SessionAt cas sid used
      (ObservationSession.empty.run cas sid steps) hist := by
  have hemp := sessionAt_empty cas sid used
  obtain ⟨hist, h⟩ := Alike.run ⟨hemp, hemp, rfl⟩ hcol steps hused
  exact ⟨hist, h.left⟩

theorem SessionAt.storedAs (h : SessionAt cas sid used session hist) :
    List.Forall₂ (StoredAs cas sid session.files) session.originals session.log := by
  have hlines := h.invariant.log.storedAs h.invariant.stored
  rwa [h.log, h.originals] at hlines

/-- Hydration gives the lines of the accepted batches back, for the whole log and for each line
    alone. -/
theorem hydrate_originals (hpath : validateSessionLogPath cas sid = .ok ())
    (h : SessionAt cas sid used session hist) :
    hydrateWires cas sid session.files session.log = .ok session.originals ∧
      List.Forall₂ (fun original stored =>
        hydrateWires cas sid session.files [stored] = .ok [original])
        session.originals session.log := by
  refine ⟨hydrateWires_eq_ok hpath h.storedAs, h.storedAs.imp ?_⟩
  intro original stored hst
  exact hydrateWires_eq_ok hpath (.cons hst .nil)

end Sessions

end Centaeris
