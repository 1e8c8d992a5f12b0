import TypedClient.Proofs.Files.Commit
import TypedClient.Proofs.Files.Staging
import Mathlib

/-!
# All or nothing

Files with different places, none of them a directory, are written all or not at all: when writing them
fails, every file is as it was (`commit_error_restores`). Without this a file can be lost. A directory
whose place a file takes goes with all that is in it, and a file that is staged twice takes the older
version down when it is refused: `keepsFiles_commit_iff` says exactly when this happens, and
`Prepared.spares_of_distinct` that it does not happen to files as above.
-/

namespace TypedClient.Files.Batch

variable {batch fresh : Batch} {before after : Node} {path p target : Path} {files : List Generated}
  {world started staged : World} {result : Except BatchFault Summary} {fault : BatchFault}

/-! ## Files with different places -/

/-- When a file with a place of its own cannot be moved, all that were moved are taken back. -/
theorem Prepared.restored_of_distinct (h : batch.Prepared before)
    (hdistinct : (batch.paths.map Path.steps).Nodup)
    (hplain : ∀ path ∈ batch.paths, ¬ before.IsDirectory (batch.spot path))
    (hfailed : (batch.course before).failed = some path) :
    (batch.course before).stays batch before = [] ∧ (batch.course before).hollow batch = none := by
  obtain ⟨hp, hnew⟩ := not_taken_of_course_failed hdistinct hfailed
  -- a file is stuck only where a directory was, or if it shares the place of the one that failed
  have hstuck : ∀ p ∈ (batch.course before).taken, batch.isStuck before path p = false := by
    intro p hmem
    by_contra hstuck
    rcases isStuck_iff.mp (Bool.not_eq_false _ ▸ hstuck) with hdir | ⟨hsteps, -⟩
    · exact hplain p (mem_paths_of_course_taken hmem) hdir
    · exact hnew p hmem hsteps
  have hdeep : ¬ batch.isDeep path := fun hdeep =>
    hplain path hp (isDirectory_of_isEntered h.paved (isEntered_of_isDeep hdeep))
  simp only [Course.stays, Course.hollow, hfailed]
  refine ⟨List.dropWhile_eq_nil_iff.mpr fun p hmem => ?_, ?_⟩
  · rw [hstuck p hmem, Bool.not_false]
  · simpa [Option.filter] using hdeep

/-- A batch that is not written for a file with a place of its own leaves all files as they were. -/
theorem Ended.restored (hended : batch.Ended before after (batch.course before) result)
    (h : batch.Prepared before) (hdistinct : (batch.paths.map Path.steps).Nodup)
    (hplain : ∀ path ∈ batch.paths, ¬ before.IsDirectory (batch.spot path))
    (herror : result = .error fault) :
    (∃ path cause, fault = .promote path cause) ∧
      ∀ a, ¬ batch.area <+: a → batch.Intact before after a := by
  obtain ⟨cause, hresult⟩ := hended.result
  cases hfailed : (batch.course before).failed with
  | none => simp [hresult, Course.result, hfailed] at herror
  | some path =>
    obtain ⟨hstays, hhollow⟩ := h.restored_of_distinct hdistinct hplain hfailed
    have ht := hended.traced
    rw [hstays, hhollow] at ht
    refine ⟨⟨batch.place path, cause, ?_⟩, fun a ha => ht.elsewhere a ha (by simp) (by simp)⟩
    have hdeep : batch.isDeep path = false := by
      simpa [Course.hollow, hfailed, Option.filter] using hhollow
    rw [hresult] at herror
    simpa [Course.result, hfailed, hstays, hdeep, eq_comm] using herror

/-! ## Files that are lost -/

/-- Every file outside the staging directory is still there with its content, or it was written. -/
def KeepsFiles (batch : Batch) (before after : Node) (result : Except BatchFault Summary) : Prop :=
  ∀ a content, ¬ batch.area <+: a → before.fileAt? a = some content →
    after.fileAt? a = some content ∨
      ∃ summary, result = .ok summary ∧ ∃ path ∈ summary.written, batch.spot path = a

/-- No file is below a place at which it is not as before in the end, and if the batch fails, none is at
such a place but with the content that was staged for it. -/
def Spares (batch : Batch) (before : Node) : Prop :=
  ∀ path ∈ batch.standing before,
    (∀ r, r ≠ [] → before.fileAt? (batch.spot path ++ r) = none) ∧
    ((batch.course before).failed ≠ none → ∀ content,
      before.fileAt? (batch.spot path) = some content →
        before.fileAt? (batch.readyAt path) = some content)

/-- Where it is not as it was before, a file stayed or a directory was moved aside for one. -/
theorem mem_standing : path ∈ batch.standing before ↔
    path ∈ (batch.course before).stays batch before ∨ path ∈ (batch.course before).hollow batch := by
  simp [standing]

namespace Ended

variable (hended : batch.Ended before after (batch.course before) result) (h : batch.Prepared before)

include hended

theorem mem_paths_of_standing (hp : path ∈ batch.standing before) : path ∈ batch.paths :=
  (mem_standing.mp hp).elim (hended.traced.listed path) (hended.traced.hollow_listed path)

include h

/-- No file is below a place at which it is not as before. -/
theorem fileAt?_below (hp : path ∈ batch.standing before) {r : Address} (hr : r ≠ []) :
    after.fileAt? (batch.spot path ++ r) = none := by
  rcases mem_standing.mp hp with hp | hp
  · obtain ⟨content, hfile⟩ := hended.traced.exists_file h hp
    exact Node.fileAt?_of_missing (Node.kindAt?_below_file hfile hr)
  · exact hended.traced.hollow_place path hp r

/-- A place at which there was a file has the new version, if it is not as before. -/
theorem fileAt?_standing (hp : path ∈ batch.standing before)
    (hfile : before.fileAt? (batch.spot path) ≠ none) :
    after.fileAt? (batch.spot path) = before.fileAt? (batch.readyAt path) := by
  rcases mem_standing.mp hp with hp | hp
  · have hplace := hended.traced.place path hp []
    rw [List.append_nil, List.append_nil] at hplace
    rw [Node.fileAt?, hplace, Node.fileAt?]
  · have hdeep := (Course.mem_hollow.mp hp).2
    exact absurd (Node.fileAt?_of_directory
      (isDirectory_of_isEntered h.paved (isEntered_of_isDeep hdeep))) hfile

/-- Exactly these batches keep all files. -/
theorem keepsFiles_iff : batch.KeepsFiles before after result ↔ batch.Spares before := by
  obtain ⟨cause, hresult⟩ := hended.result
  constructor
  · intro hkeeps path hp
    have hpath := hended.mem_paths_of_standing hp
    refine ⟨fun r hr => ?_, fun hfailed content hcontent => ?_⟩
    · by_contra hfile
      obtain ⟨content, hcontent⟩ := Option.ne_none_iff_exists'.mp hfile
      rcases hkeeps _ content ((h.apart_area_spot hpath).not_prefix_append r) hcontent with
        hafter | ⟨summary, hsummary, q, hq, hspot⟩
      · simp [hended.fileAt?_below h hp hr] at hafter
      · -- what was written has its place below none of the others
        obtain ⟨-, rfl⟩ := Course.result_eq_ok.mp (hresult.symm.trans hsummary)
        have hqpath := mem_paths_of_course_taken (List.mem_reverse.mp hq)
        have hpre : batch.spot path <+: batch.spot q := hspot ▸ List.prefix_append _ r
        have hsteps := (h.spot_prefix_iff hpath hqpath).mp hpre
        rw [h.spot_congr hpath hqpath hsteps] at hspot
        exact hr (by simpa using hspot)
    · rcases hkeeps _ content (h.outside path hpath) hcontent with hafter | ⟨summary, hsummary, -⟩
      · rwa [← hended.fileAt?_standing h hp (by simp [hcontent])]
      · exact absurd (Course.result_eq_ok.mp (hresult.symm.trans hsummary)).1 hfailed
  · intro hspares a content harea hcontent
    -- a file that is not at or below a standing place is as it was
    by_cases hstanding : ∃ path ∈ batch.standing before, batch.spot path <+: a
    · obtain ⟨path, hp, r, rfl⟩ := hstanding
      obtain ⟨hbelow, hat⟩ := hspares path hp
      obtain rfl : r = [] := by
        by_contra hr
        simp [hbelow r hr] at hcontent
      rw [List.append_nil] at hcontent ⊢
      cases hfailed : (batch.course before).failed with
      | none =>
        refine .inr ⟨_, hresult.trans (Course.result_eq_ok.mpr ⟨hfailed, rfl⟩), path, ?_, rfl⟩
        simpa [standing, Course.stays, Course.hollow, hfailed] using hp
      | some failed =>
        left
        rw [hended.fileAt?_standing h hp (by simp [hcontent])]
        exact hat (by simp [hfailed]) content hcontent
    · have hnot : ∀ path ∈ batch.standing before, ¬ batch.spot path <+: a :=
        fun path hp hpre => hstanding ⟨path, hp, hpre⟩
      have hintact := hended.traced.elsewhere a harea (fun p hp => hnot p (mem_standing.mpr (.inl hp)))
        (fun p hp => hnot p (mem_standing.mpr (.inr hp)))
      exact .inl (hintact.fileAt?_eq.trans hcontent)

end Ended

/-- Files with different places, none of them a directory, cost no other file. -/
theorem Prepared.spares_of_distinct (h : batch.Prepared before)
    (hdistinct : (batch.paths.map Path.steps).Nodup)
    (hplain : ∀ path ∈ batch.paths, ¬ before.IsDirectory (batch.spot path)) : batch.Spares before := by
  intro path hp
  cases hfailed : (batch.course before).failed with
  | none =>
    refine ⟨fun r hr => ?_, fun hne => absurd rfl hne⟩
    have htaken : path ∈ (batch.course before).taken := by
      simpa [standing, Course.stays, Course.hollow, hfailed] using hp
    have hpath := mem_paths_of_course_taken htaken
    -- a file below the place would make it a directory
    by_contra hfile
    refine hplain path hpath (Node.isDirectory_above (List.prefix_append _ r) (by simpa using hr) ?_)
    exact fun hnone => hfile (Node.fileAt?_of_missing hnone)
  | some failed =>
    obtain ⟨hstays, hhollow⟩ := h.restored_of_distinct hdistinct hplain hfailed
    simp [standing, hstays, hhollow] at hp

/-! ## No files -/

/-- A batch without files removes its staging directory. -/
theorem gives_commit_nil (hnil : batch.staged = []) :
    world.Gives batch.commit (.ok ⟨[], []⟩) (world.files.removeTree batch.staging) := by
  rw [commit, hnil]
  exact (World.gives_pure _).bind ((World.gives_removeTree _).bind (World.gives_pure _))

/-- A batch without files keeps all files. -/
theorem keepsFiles_of_nil (hnil : batch.staged = []) :
    batch.KeepsFiles world.files (world.run batch.commit).2.files (world.run batch.commit).1 := by
  intro a content harea hcontent
  rw [gives_commit_nil hnil, Node.fileAt?, Node.kindAt?_removeTree harea]
  exact .inl hcontent

theorem spares_of_nil (hnil : batch.staged = []) : batch.Spares before := by
  intro path hp
  simp [standing, course, hnil, courseFrom, Course.stays, Course.hollow] at hp

/-! ## Batches that were started and staged -/

/-- If files with different places are not written, none of which was a directory, one of them could not
be moved to its place; all files are as they were, the staging directory is gone, and what is new is
directories on the way to places. -/
theorem commit_error_restores
    (hstart : world.run (Batch.start target) = (.ok fresh, started))
    (hstage : started.run (fresh.stageAll files) = ((batch, .ok ()), staged))
    (hord : ∀ file ∈ files, (Path.ofString file.name).IsOrdinary)
    (houtside : ∀ file ∈ files, ¬ batch.area <+: batch.spot (.ofString file.name))
    (hdistinct : (files.map fun file => (Path.ofString file.name).steps).Nodup)
    (hplain : ∀ file ∈ files, ¬ staged.files.IsDirectory (batch.spot (.ofString file.name)))
    (herror : (staged.run batch.commit).1 = .error fault) :
    (∃ path cause, fault = .promote path cause) ∧
      (∀ a, ¬ batch.area <+: a →
        (staged.run batch.commit).2.files.fileAt? a = staged.files.fileAt? a) ∧
      (∀ a, batch.area <+: a → (staged.run batch.commit).2.files.kindAt? a = none) ∧
      ∀ a, ¬ batch.area <+: a → batch.Intact staged.files (staged.run batch.commit).2.files a := by
  have hpaths := paths_of_run hstart hstage
  -- an empty batch is always written
  have hfiles : files ≠ [] := by
    rintro rfl
    rw [gives_commit_nil (List.map_eq_nil_iff.mp hpaths)] at herror
    simp at herror
  have h := prepared_of_run hstart hstage hfiles hord houtside
  obtain ⟨result, after, hgives, hended, hgone⟩ := h.commit
  rw [hgives] at herror ⊢
  obtain ⟨hfault, hintact⟩ := hended.restored h (by simpa [hpaths, Function.comp_def] using hdistinct)
    (by simpa [hpaths] using hplain) herror
  refine ⟨hfault, fun a ha => (hintact a ha).fileAt?_eq, ?_, hintact⟩
  rintro a ⟨r, rfl⟩
  exact hgone r

/-- A world with two files in the directory that is written to. -/
def sampleWorld : World :=
  .ofFiles (.directory [("out", .directory [("a.ts", .file "old".toUTF8), ("b", .file "other".toUTF8)])])

/-- The batch that has staged the files there. -/
def sampleBatch (files : List Generated) : Batch :=
  ⟨.ofString "out", .ofString "out/.acg-staging-0",
    files.map fun file => ⟨.ofString file.name, file.policy⟩⟩

/-- The world in which the batch has been started. -/
def sampleStarted : World :=
  (sampleWorld.run (Batch.start (.ofString "out"))).2

/-- The world in which the files have been staged. -/
def sampleStaged (files : List Generated) : World :=
  (sampleStarted.run ((sampleBatch []).stageAll files)).2

/-- A new version of one file, and a file for which the other one would have to be a directory. -/
def blockedFiles : List Generated :=
  [⟨"a.ts", "new", .always⟩, ⟨"b/c.ts", "new", .always⟩]

theorem run_start_sample :
    sampleWorld.run (Batch.start (.ofString "out")) = (.ok (sampleBatch []), sampleStarted) := by
  have hresult : (sampleWorld.run (Batch.start (.ofString "out"))).1 = .ok (sampleBatch []) := by cbv
  rw [sampleStarted, ← hresult]

theorem run_stageAll_blocked : sampleStarted.run ((sampleBatch []).stageAll blockedFiles) =
    ((sampleBatch blockedFiles, .ok ()), sampleStaged blockedFiles) := by
  have hresult : (sampleStarted.run ((sampleBatch []).stageAll blockedFiles)).1 =
    (sampleBatch blockedFiles, .ok ()) := by cbv
  rw [sampleStaged, ← hresult]

theorem isOrdinary_blocked : ∀ file ∈ blockedFiles, (Path.ofString file.name).IsOrdinary := by
  decide +kernel

theorem outside_blocked : ∀ file ∈ blockedFiles,
    ¬ (sampleBatch blockedFiles).area <+: (sampleBatch blockedFiles).spot (.ofString file.name) := by
  decide +kernel

/-- The second file cannot be written, so the older version of the first one returns. -/
theorem commit_error_restores_blocked :
    ((sampleStaged blockedFiles).run (sampleBatch blockedFiles).commit).2.files.fileAt? ["out", "a.ts"] =
      some "old".toUTF8 := by
  have hplain : ∀ file ∈ blockedFiles, ¬ (sampleStaged blockedFiles).files.IsDirectory
      ((sampleBatch blockedFiles).spot (.ofString file.name)) := by decide +kernel
  have herror : ((sampleStaged blockedFiles).run (sampleBatch blockedFiles).commit).1 =
      .error (.promote (.ofString "out/b/c.ts") .occupied) := by cbv
  have hall := commit_error_restores run_start_sample run_stageAll_blocked isOrdinary_blocked
    outside_blocked (by decide +kernel) hplain herror
  have hbefore : (sampleStaged blockedFiles).files.fileAt? ["out", "a.ts"] = some "old".toUTF8 := by cbv
  exact (hall.2.1 ["out", "a.ts"] (by decide +kernel)).trans hbefore

/-- No file is lost by writing a batch, whatever comes of it, exactly if none was below a place at which
it is not as before in the end, or at such a place when the batch fails. -/
theorem keepsFiles_commit_iff
    (hstart : world.run (Batch.start target) = (.ok fresh, started))
    (hstage : started.run (fresh.stageAll files) = ((batch, .ok ()), staged))
    (hord : ∀ file ∈ files, (Path.ofString file.name).IsOrdinary)
    (houtside : ∀ file ∈ files, ¬ batch.area <+: batch.spot (.ofString file.name)) :
    batch.KeepsFiles staged.files (staged.run batch.commit).2.files (staged.run batch.commit).1 ↔
      batch.Spares staged.files := by
  by_cases hfiles : files = []
  · subst hfiles
    have hnil : batch.staged = [] := List.map_eq_nil_iff.mp (paths_of_run hstart hstage)
    exact iff_of_true (keepsFiles_of_nil hnil) (spares_of_nil hnil)
  · have h := prepared_of_run hstart hstage hfiles hord houtside
    obtain ⟨result, after, hgives, hended, -⟩ := h.commit
    rw [hgives]
    exact hended.keepsFiles_iff h

/-- Nothing is lost if a file cannot be written because another one is in the way. -/
theorem keepsFiles_commit_blocked :
    (sampleBatch blockedFiles).KeepsFiles (sampleStaged blockedFiles).files
      ((sampleStaged blockedFiles).run (sampleBatch blockedFiles).commit).2.files
      ((sampleStaged blockedFiles).run (sampleBatch blockedFiles).commit).1 := by
  have hstanding : (sampleBatch blockedFiles).standing (sampleStaged blockedFiles).files = [] := by
    decide +kernel
  have hspares : (sampleBatch blockedFiles).Spares (sampleStaged blockedFiles).files := by
    intro path hp
    rw [hstanding] at hp
    exact absurd hp List.not_mem_nil
  exact (keepsFiles_commit_iff run_start_sample run_stageAll_blocked isOrdinary_blocked
    outside_blocked).mpr hspares

/-- Two versions of one file. -/
def repeatedFiles : List Generated :=
  [⟨"a.ts", "one", .always⟩, ⟨"a.ts", "two", .always⟩]

theorem run_stageAll_repeated : (sampleStarted.run ((sampleBatch []).stageAll repeatedFiles)).1 =
    (sampleBatch repeatedFiles, .ok ()) := by
  cbv

theorem run_commit_repeated :
    ((sampleStaged repeatedFiles).run (sampleBatch repeatedFiles).commit).1 =
      .error (.rollback (.ofString "out/a.ts") .notFound) := by
  cbv

/-- A file that is staged twice is lost although the batch fails: the older version is no longer kept when
the first of the two has to be taken back. -/
theorem not_keepsFiles_commit_repeated :
    (sampleStarted.run ((sampleBatch []).stageAll repeatedFiles)).1 =
        (sampleBatch repeatedFiles, .ok ()) ∧
      ¬ (sampleBatch repeatedFiles).KeepsFiles (sampleStaged repeatedFiles).files
        ((sampleStaged repeatedFiles).run (sampleBatch repeatedFiles).commit).2.files
        ((sampleStaged repeatedFiles).run (sampleBatch repeatedFiles).commit).1 := by
  refine ⟨run_stageAll_repeated, fun hkeeps => ?_⟩
  have hbefore : (sampleStaged repeatedFiles).files.fileAt? ["out", "a.ts"] = some "old".toUTF8 := by cbv
  have hafter : ((sampleStaged repeatedFiles).run (sampleBatch repeatedFiles).commit).2.files.fileAt?
      ["out", "a.ts"] = some "two".toUTF8 := by cbv
  have houtside : ¬ (sampleBatch repeatedFiles).area <+: ["out", "a.ts"] := by decide +kernel
  rcases hkeeps ["out", "a.ts"] _ houtside hbefore with hsame | ⟨summary, hok, -⟩
  · have hne : some "two".toUTF8 ≠ some "old".toUTF8 := by decide +kernel
    exact hne (hafter.symm.trans hsame)
  · rw [run_commit_repeated] at hok
    cases hok

end TypedClient.Files.Batch
