import TypedClient.Proofs.Files.AllOrNothing
import TypedClient.Proofs.Files.Plain

/-!
# Files that a batch spares

Whether a batch of files with plain names is written or fails, a file that is to be left alone stays as it
is (`Batch.kindAt?_of_ifMissing`), and no file changes but at the places of the batch, as long as none of
the files to be replaced is a directory (`Batch.fileAt?_elsewhere`).
-/

namespace TypedClient.Files.Batch

variable {batch fresh : Batch} {target path : Path} {file : Generated} {files : List Generated}
  {result : Except BatchFault Summary} {world started staged finished : World}

theorem mem_taken_of_mem_stays {before : Node} {course : Course} (h : path ∈ course.stays batch before) :
    path ∈ course.taken := by
  unfold Course.stays at h
  split at h
  · exact h
  · exact (List.dropWhile_sublist _).subset h

section

variable (hplain : Plain files) (hfiles : files ≠ [])
  (hstart : world.run (Batch.start target) = (.ok fresh, started))
  (hstage : started.run (fresh.stageAll files) = ((batch, .ok ()), staged))

include hplain hfiles hstart hstage

/-- Before the batch is written, its places are as they were before it was started, but for directories
that are new. -/
theorem spot_of_staged (hfile : file ∈ files) :
    staged.files.kindAt? (target.address ++ [file.name]) =
        world.files.kindAt? (target.address ++ [file.name]) ∨
      world.files.kindAt? (target.address ++ [file.name]) = none ∧
        staged.files.IsDirectory (target.address ++ [file.name]) := by
  have hroot := isDirectory_nil_of_run hstart hstage hfiles hplain.ordinary
  have hprepared := prepared_of_plain hplain hstart hstage hfiles
  obtain ⟨hready, -⟩ := changed_of_staged hstart hstage hplain.ordinary hplain.steps hroot
  have houtside := hprepared.outside (.ofString file.name) (by
    rw [paths_of_run hstart hstage]
    exact List.mem_map.mpr ⟨file, hfile, rfl⟩)
  rw [spot_of_name hstart hstage hplain.ordinary hplain.steps hfile] at houtside
  exact (hready _ (List.forall_mem_singleton.mpr houtside)).imp_right fun hnew => hnew.2

/-- Where it is not as before in the end, there is a file that was to be replaced, or nothing was there. -/
theorem exists_of_mem_standing (hp : path ∈ batch.standing staged.files) :
    ∃ file ∈ files, path = .ofString file.name ∧
      (file.policy = .always ∨ world.files.kindAt? (target.address ++ [file.name]) = none) := by
  rcases mem_standing.mp hp with hstays | hhollow
  · obtain ⟨own, hown, rfl, hrule⟩ :=
      (exists_of_mem_courseFrom_taken (mem_taken_of_mem_stays hstays)).resolve_left List.not_mem_nil
    obtain ⟨file, hfile, rfl⟩ := exists_of_mem_staged hstart hstage hown
    refine ⟨file, hfile, rfl, hrule.imp_right fun hnone => ?_⟩
    rw [spot_of_name hstart hstage hplain.ordinary hplain.steps hfile] at hnone
    rcases spot_of_staged hplain hfiles hstart hstage hfile with hsame | ⟨hmissing, -⟩
    · exact hsame.symm.trans hnone
    · exact hmissing
  · obtain ⟨file, hfile, rfl, halways, -⟩ :=
      exists_of_course_failed hplain hstart hstage hfiles (Course.mem_hollow.mp hhollow).1
    exact ⟨file, hfile, rfl, .inl halways⟩

variable (hcommit : staged.run batch.commit = (result, finished))

include hcommit

/-- The tree when a batch is over. -/
theorem ended_of_commit :
    batch.Ended staged.files finished.files (batch.course staged.files) result ∧
      ∀ r, finished.files.kindAt? (batch.area ++ r) = none := by
  have hprepared := prepared_of_plain hplain hstart hstage hfiles
  obtain ⟨own, after, hgives, hended, hgone⟩ := hprepared.commit
  rw [World.Gives, hcommit] at hgives
  obtain ⟨rfl, rfl⟩ := Prod.mk.inj hgives
  exact ⟨hended, hgone⟩

/-- What is at the place of a file that is to be left alone stays there. -/
theorem kindAt?_of_ifMissing (hfile : file ∈ files) (hpolicy : file.policy = .ifMissing)
    (hthere : world.files.kindAt? (target.address ++ [file.name]) ≠ none) :
    finished.files.kindAt? (target.address ++ [file.name]) =
      world.files.kindAt? (target.address ++ [file.name]) := by
  have hprepared := prepared_of_plain hplain hstart hstage hfiles
  obtain ⟨hended, -⟩ := ended_of_commit hplain hfiles hstart hstage hcommit
  have hspot := spot_of_name hstart hstage hplain.ordinary hplain.steps hfile
  have hp : Path.ofString file.name ∈ batch.paths := by
    rw [paths_of_run hstart hstage]
    exact List.mem_map.mpr ⟨file, hfile, rfl⟩
  have hsame := (spot_of_staged hplain hfiles hstart hstage hfile).resolve_right fun hnew =>
    hthere hnew.1
  -- a place at which it is not as before is that of another file
  have happart : ∀ path ∈ batch.standing staged.files,
      ¬ batch.spot path <+: target.address ++ [file.name] := by
    intro path hstanding hpre
    obtain ⟨other, hother, rfl, hrule⟩ :=
      exists_of_mem_standing hplain hfiles hstart hstage hstanding
    rw [← hspot, hprepared.spot_prefix_iff (hended.mem_paths_of_standing hstanding) hp,
      hplain.steps other hother, hplain.steps file hfile, List.singleton_inj] at hpre
    have heq := List.inj_on_of_nodup_map hplain.nodup hother hfile hpre
    rw [heq, hpolicy] at hrule
    exact hrule.elim (fun h => Files.Policy.noConfusion h) hthere
  rw [← hsame] at hthere ⊢
  refine (hended.traced.elsewhere _ (hspot ▸ hprepared.outside _ hp)
    (fun path hpath => happart path (mem_standing.mpr (.inl hpath)))
    (fun path hpath => happart path (mem_standing.mpr (.inr hpath)))).resolve_right fun hnew => ?_
  exact hthere hnew.2.1

/-- No file changes but at the places of the batch, if those that are to be replaced are no
directories. -/
theorem fileAt?_elsewhere {a : Address}
    (hdirs : ∀ file ∈ files, file.policy = .always →
      ¬ world.files.IsDirectory (target.address ++ [file.name]))
    (ha : ∀ file ∈ files, a ≠ target.address ++ [file.name]) :
    finished.files.fileAt? a = world.files.fileAt? a := by
  have hroot := isDirectory_nil_of_run hstart hstage hfiles hplain.ordinary
  have hprepared := prepared_of_plain hplain hstart hstage hfiles
  obtain ⟨hended, hgone⟩ := ended_of_commit hplain hfiles hstart hstage hcommit
  obtain ⟨hready, hmissing⟩ := changed_of_staged hstart hstage hplain.ordinary hplain.steps hroot
  by_cases harea : batch.area <+: a
  · -- the staging directory is new, and it is gone in the end
    obtain ⟨r, rfl⟩ := harea
    rw [Node.fileAt?_of_missing (hgone r), Node.fileAt?_of_missing (Node.kindAt?_below_missing hmissing)]
  have hstaged : staged.files.fileAt? a = world.files.fileAt? a := by
    rcases hready a (List.forall_mem_singleton.mpr harea) with hsame | ⟨-, hnone, hdir⟩
    · rw [Node.fileAt?, hsame, Node.fileAt?]
    · rw [Node.fileAt?_of_directory hdir, Node.fileAt?_of_missing hnone]
  by_cases hstanding : ∃ path ∈ batch.standing staged.files, batch.spot path <+: a
  · -- below a place there is no file, neither in the end nor from the start
    obtain ⟨path, hpath, r, rfl⟩ := hstanding
    obtain ⟨file, hfile, rfl, hrule⟩ := exists_of_mem_standing hplain hfiles hstart hstage hpath
    rw [spot_of_name hstart hstage hplain.ordinary hplain.steps hfile] at ha ⊢
    have hr : r ≠ [] := by
      rintro rfl
      exact ha file hfile (List.append_nil _)
    have hafter := hended.fileAt?_below hprepared hpath hr
    rw [spot_of_name hstart hstage hplain.ordinary hplain.steps hfile] at hafter
    rw [hafter]
    have hnotdir : ¬ world.files.IsDirectory (target.address ++ [file.name]) :=
      hrule.elim (hdirs file hfile) fun hnone hdir => hdir.ne_none hnone
    refine (Node.fileAt?_of_missing ?_).symm
    by_contra hthere
    exact hnotdir (Node.isDirectory_above (List.prefix_append _ r) (by simpa using hr) hthere)
  · simp only [not_exists, not_and] at hstanding
    rw [← hstaged]
    exact (hended.traced.elsewhere a harea
      (fun path hpath => hstanding path (mem_standing.mpr (.inl hpath)))
      (fun path hpath => hstanding path (mem_standing.mpr (.inr hpath)))).fileAt?_eq

end

end TypedClient.Files.Batch
