import TypedClient.Proofs.Files.AllOrNothing
import TypedClient.Proofs.Files.Plain

/-!
# When a batch is written

Files with different places, none of them a directory, are written exactly if no file is on the way to
the place of one that is due (`Batch.commit_writesExactly`). Which ones are due, and what is on their way,
can be told from the tree before: no file that is moved to its place changes it for those after it
(`Batch.courseFrom_cases`).
-/

namespace TypedClient.Files.Batch

variable {batch fresh : Batch} {before after : Node} {path target : Path} {taken preserved : List Path}
  {file : Generated} {files : List Generated} {summary : Summary}
  {world started staged : World}

section

variable (batch : Batch) (before : Node)

/-- A file has to be written: it always is, or nothing is at its place. -/
def IsDue (file : Generated) : Prop :=
  file.policy = .always ∨ before.kindAt? (batch.spot (.ofString file.name)) = none

instance : DecidablePred (batch.IsDue before) :=
  fun _ => inferInstanceAs (Decidable (_ ∨ _))

/-- A file is on the way from the target to a place. -/
def IsObstructed (path : Path) : Prop :=
  ∃ q, q <+: path.steps ∧ q ≠ path.steps ∧ before.fileAt? (batch.target.address ++ q) ≠ none

/-- The paths of the files that have to be written, in order. -/
def duePaths (files : List Generated) : List Path :=
  (files.filter fun file => batch.IsDue before file).map fun file => .ofString file.name

/-- The paths of the files that are to be left alone, in order. -/
def sparedPaths (files : List Generated) : List Path :=
  (files.filter fun file => ¬ batch.IsDue before file).map fun file => .ofString file.name

end

theorem mem_duePaths : path ∈ batch.duePaths before files ↔
    ∃ file ∈ files, batch.IsDue before file ∧ Path.ofString file.name = path := by
  simp [duePaths, and_assoc]

/-! ## Courses -/

/-- The next file of a course, if its place is no other's and not on the way to the target: it is left
alone unless it is due, and then it fails if it is blocked. -/
theorem courseFrom_cons_of_new {rest : List Staged}
    (hnew : ∀ p ∈ taken, p.steps ≠ (Path.ofString file.name).steps)
    (hshallow : batch.isEntered (.ofString file.name) = false) :
    batch.courseFrom before taken preserved (⟨.ofString file.name, file.policy⟩ :: rest) =
      if batch.IsDue before file then
        if batch.isBlocked before (.ofString file.name) then
          ⟨taken, preserved, some (.ofString file.name)⟩
        else batch.courseFrom before (.ofString file.name :: taken) preserved rest
      else batch.courseFrom before taken (preserved ++ [.ofString file.name]) rest := by
  have hleft : (file.policy = .ifMissing ∧ batch.isThere before taken (.ofString file.name)) ↔
      ¬ batch.IsDue before file := by
    rw [isThere, isTaken_eq_false.mpr hnew, Bool.false_or, Option.isSome_iff_ne_none, IsDue, not_or]
    refine and_congr_left fun _ => ?_
    cases file.policy <;> simp
  have hrefused : batch.isRefused before taken (.ofString file.name) =
      batch.isBlocked before (.ofString file.name) := by
    rw [isRefused, isTaken_eq_false.mpr hnew, hshallow, Bool.false_or, Bool.or_false]
  rw [courseFrom]
  simp only [hleft, hrefused, ite_not]

/-- A course either takes all files that are due, in order, or ends at one of them that is blocked. -/
theorem courseFrom_cases (before : Node) (taken preserved : List Path)
    (hnew : ∀ file ∈ files, ∀ p ∈ taken, p.steps ≠ (Path.ofString file.name).steps)
    (hdistinct : (files.map fun file => (Path.ofString file.name).steps).Nodup)
    (hshallow : ∀ file ∈ files, batch.isEntered (.ofString file.name) = false) :
    (∀ file ∈ files, batch.IsDue before file → batch.isBlocked before (.ofString file.name) = false) ∧
        batch.courseFrom before taken preserved
            (files.map fun file => ⟨.ofString file.name, file.policy⟩) =
          ⟨(batch.duePaths before files).reverse ++ taken, preserved ++ batch.sparedPaths before files,
            none⟩ ∨
      (∃ file ∈ files, batch.IsDue before file ∧ batch.isBlocked before (.ofString file.name)) ∧
        (batch.courseFrom before taken preserved
          (files.map fun file => ⟨.ofString file.name, file.policy⟩)).failed ≠ none := by
  induction files generalizing taken preserved with
  | nil => exact .inl ⟨by simp, by simp [courseFrom, duePaths, sparedPaths]⟩
  | cons file rest ih =>
    obtain ⟨hown, hrest⟩ := List.forall_mem_cons.mp hnew
    obtain ⟨hfirst, hdistinct⟩ := List.nodup_cons.mp hdistinct
    obtain ⟨hfree, hshallow⟩ := List.forall_mem_cons.mp hshallow
    rw [List.map_cons, courseFrom_cons_of_new hown hfree]
    by_cases hdue : batch.IsDue before file
    · cases hblocked : batch.isBlocked before (.ofString file.name) with
      | true =>
        rw [if_pos hdue, if_pos rfl]
        exact .inr ⟨⟨file, List.mem_cons_self, hdue, hblocked⟩, Option.some_ne_none _⟩
      | false =>
        -- the places of the files that are left are not that of this one
        have hlater : ∀ other ∈ rest, ∀ p ∈ Path.ofString file.name :: taken,
            p.steps ≠ (Path.ofString other.name).steps := by
          intro other hother
          refine List.forall_mem_cons.mpr ⟨fun heq => hfirst ?_, hrest other hother⟩
          exact List.mem_map.mpr ⟨other, hother, heq.symm⟩
        rw [if_pos hdue, if_neg Bool.false_ne_true]
        rcases ih _ preserved hlater hdistinct hshallow with
          ⟨hclear, hcourse⟩ | ⟨⟨other, hother, hall⟩, hfailed⟩
        · refine .inl ⟨List.forall_mem_cons.mpr ⟨fun _ => hblocked, hclear⟩, ?_⟩
          rw [hcourse]
          simp [duePaths, sparedPaths, hdue]
        · exact .inr ⟨⟨other, List.mem_cons_of_mem _ hother, hall⟩, hfailed⟩
    · rw [if_neg hdue]
      rcases ih taken (preserved ++ [.ofString file.name]) hrest hdistinct hshallow with
        ⟨hclear, hcourse⟩ | ⟨⟨other, hother, hall⟩, hfailed⟩
      · refine .inl ⟨List.forall_mem_cons.mpr ⟨fun h => absurd h hdue, hclear⟩, ?_⟩
        rw [hcourse]
        simp [duePaths, sparedPaths, hdue]
      · exact .inr ⟨⟨other, List.mem_cons_of_mem _ hother, hall⟩, hfailed⟩

/-- A place is blocked if a file is on the way there from the target, for those to the target are
directories. -/
theorem Prepared.isBlocked_iff_isObstructed (h : batch.Prepared before) (hp : path ∈ batch.paths) :
    batch.isBlocked before path ↔ batch.IsObstructed before path := by
  rw [isBlocked_iff]
  constructor
  · rintro ⟨v, hv, hfile⟩
    rcases (h.mem_trail_place hp).mp hv with hv | ⟨q, -, hpre, hne, rfl⟩
    · exact absurd (Node.fileAt?_of_directory (h.paved.trail v hv)) hfile
    · exact ⟨q, hpre, hne, hfile⟩
  · rintro ⟨q, hpre, hne, hfile⟩
    have hq : q ≠ [] := by
      rintro rfl
      rw [List.append_nil] at hfile
      exact hfile (Node.fileAt?_of_directory h.paved.address)
    exact ⟨_, (h.mem_trail_place hp).mpr (.inr ⟨q, hq, hpre, hne, rfl⟩), hfile⟩

/-- A batch whose files have places of their own, none of them a directory, takes all that are due unless
a file is on the way to one of them. -/
theorem Prepared.course_cases (h : batch.Prepared before)
    (hstaged : batch.staged = files.map fun file => ⟨.ofString file.name, file.policy⟩)
    (hdistinct : (files.map fun file => (Path.ofString file.name).steps).Nodup)
    (hplain : ∀ file ∈ files, ¬ before.IsDirectory (batch.spot (.ofString file.name))) :
    (∀ file ∈ files, batch.IsDue before file → ¬ batch.IsObstructed before (.ofString file.name)) ∧
        batch.course before =
          ⟨(batch.duePaths before files).reverse, batch.sparedPaths before files, none⟩ ∨
      (∃ file ∈ files, batch.IsDue before file ∧ batch.IsObstructed before (.ofString file.name)) ∧
        (batch.course before).failed ≠ none := by
  have hblocked : ∀ file ∈ files, batch.isBlocked before (.ofString file.name) ↔
      batch.IsObstructed before (.ofString file.name) := by
    intro file hfile
    refine h.isBlocked_iff_isObstructed ?_
    rw [paths, hstaged, List.map_map]
    exact List.mem_map.mpr ⟨file, hfile, rfl⟩
  have hshallow : ∀ file ∈ files, batch.isEntered (.ofString file.name) = false := by
    intro file hfile
    by_contra hentered
    exact hplain file hfile (isDirectory_of_isEntered h.paved (by simpa using hentered))
  rw [course, hstaged]
  rcases courseFrom_cases before [] [] (by simp) hdistinct hshallow with
    ⟨hclear, hcourse⟩ | ⟨⟨file, hfile, hdue, hown⟩, hfailed⟩
  · refine .inl ⟨fun file hfile hdue => ?_, by simpa using hcourse⟩
    rw [← hblocked file hfile, hclear file hfile hdue]
    exact Bool.false_ne_true
  · exact .inr ⟨⟨file, hfile, hdue, (hblocked file hfile).mp hown⟩, hfailed⟩

/-! ## Batches that were written -/

/-- What a batch that was written has done: the files that were due have their contents, the others were
left alone, and the tree is otherwise as it was, but for directories on the way to places and for the
staging directory, which is gone. -/
structure Delivered (batch : Batch) (files : List Generated) (before after : Node) (summary : Summary) :
    Prop where
  written : summary.written = batch.duePaths before files
  preserved : summary.preserved = batch.sparedPaths before files
  content : ∀ file ∈ files, batch.IsDue before file →
    after.fileAt? (batch.spot (.ofString file.name)) = some file.content.toUTF8
  unchanged : ∀ a, ¬ batch.area <+: a → (∀ path ∈ summary.written, a ≠ batch.spot path) →
    after.fileAt? a = before.fileAt? a
  intact : ∀ a, ¬ batch.area <+: a → (∀ path ∈ summary.written, a ≠ batch.spot path) →
    batch.Intact before after a
  gone : ∀ a, batch.area <+: a → after.kindAt? a = none

/-- The batch is written exactly if no file is on the way to the place of one that is due, and then it has
done all it should. -/
structure WritesExactly (batch : Batch) (files : List Generated) (before after : Node)
    (result : Except BatchFault Summary) : Prop where
  ok_iff : (∃ summary, result = .ok summary) ↔
    ∀ file ∈ files, batch.IsDue before file → ¬ batch.IsObstructed before (.ofString file.name)
  delivered : ∀ summary, result = .ok summary → batch.Delivered files before after summary

section

variable (ht : batch.Traced before after (batch.duePaths before files).reverse none)
  (h : batch.Prepared before)
  (hplain : ∀ file ∈ files, ¬ before.IsDirectory (batch.spot (.ofString file.name)))

include ht h hplain

/-- When all files that were due have been moved to their places, nothing else has changed. -/
theorem Traced.intact_of_plain {a : Address} (harea : ¬ batch.area <+: a)
    (hspots : ∀ path ∈ batch.duePaths before files, a ≠ batch.spot path) :
    batch.Intact before after a := by
  by_cases hbelow : ∃ path ∈ batch.duePaths before files, batch.spot path <+: a
  · -- nothing was below the place of a file, for that was no directory, and nothing is below a file
    obtain ⟨path, hpath, r, rfl⟩ := hbelow
    have hr : r ≠ [] := by
      rintro rfl
      exact hspots path hpath (List.append_nil _)
    obtain ⟨content, hfile⟩ := ht.exists_file h (List.mem_reverse.mpr hpath)
    obtain ⟨file, hmem, -, rfl⟩ := mem_duePaths.mp hpath
    left
    rw [Node.kindAt?_below_file hfile hr]
    by_contra hthere
    exact hplain file hmem
      (Node.isDirectory_above (List.prefix_append _ r) (by simpa using hr) (Ne.symm hthere))
  · simp only [not_exists, not_and] at hbelow
    exact ht.elsewhere a harea (fun path hpath => hbelow path (List.mem_reverse.mp hpath)) (by simp)

/-- When all files that were due have been moved to their places and the staging directory is gone, the
batch has done all it should. -/
theorem Traced.delivered
    (hready : ∀ file ∈ files,
      before.fileAt? (batch.readyAt (.ofString file.name)) = some file.content.toUTF8)
    (hgone : ∀ r, after.kindAt? (batch.area ++ r) = none) :
    batch.Delivered files before after
      ⟨batch.duePaths before files, batch.sparedPaths before files⟩ where
  written := rfl
  preserved := rfl
  content file hfile hdue := by
    have htaken : Path.ofString file.name ∈ (batch.duePaths before files).reverse :=
      List.mem_reverse.mpr (mem_duePaths.mpr ⟨file, hfile, hdue, rfl⟩)
    have hplace := ht.place _ htaken []
    rw [List.append_nil, List.append_nil] at hplace
    rw [Node.fileAt?, hplace]
    exact hready file hfile
  unchanged _ harea hspots := (ht.intact_of_plain h hplain harea hspots).fileAt?_eq
  intact _ harea hspots := ht.intact_of_plain h hplain harea hspots
  gone := by
    rintro a ⟨r, rfl⟩
    exact hgone r

end

/-- A batch that has staged files with places of their own, none of them a directory, is written exactly
if nothing is in the way. -/
theorem Prepared.writesExactly (h : batch.Prepared staged.files)
    (hstaged : batch.staged = files.map fun file => ⟨.ofString file.name, file.policy⟩)
    (hready : ∀ file ∈ files,
      staged.files.fileAt? (batch.readyAt (.ofString file.name)) = some file.content.toUTF8)
    (hdistinct : (files.map fun file => (Path.ofString file.name).steps).Nodup)
    (hplain : ∀ file ∈ files, ¬ staged.files.IsDirectory (batch.spot (.ofString file.name))) :
    batch.WritesExactly files staged.files (staged.run batch.commit).2.files
      (staged.run batch.commit).1 := by
  obtain ⟨result, after, hgives, hended, hgone⟩ := h.commit
  obtain ⟨cause, hresult⟩ := hended.result
  rw [hgives]
  rcases h.course_cases hstaged hdistinct hplain with
    ⟨hclear, hcourse⟩ | ⟨⟨file, hfile, hdue, hobstructed⟩, hfailed⟩
  · have ht := hended.traced
    rw [hcourse] at hresult ht
    refine ⟨iff_of_true ⟨_, hresult.trans (Course.result_eq_ok.mpr ⟨rfl, rfl⟩)⟩ hclear,
      fun summary hok => ?_⟩
    obtain ⟨-, rfl⟩ := Course.result_eq_ok.mp (hresult.symm.trans hok)
    rw [List.reverse_reverse]
    exact ht.delivered h hplain hready hgone
  · have hnot : ∀ summary, result ≠ .ok summary := fun summary hok =>
      hfailed (Course.result_eq_ok.mp (hresult.symm.trans hok)).1
    refine ⟨iff_of_false ?_ fun hclear => hclear file hfile hdue hobstructed,
      fun summary hok => absurd hok (hnot summary)⟩
    rintro ⟨summary, hok⟩
    exact hnot summary hok

/-- Without files, in a tree that is a file, nothing is done and nothing is there. -/
theorem writesExactly_of_file (hnil : batch.staged = []) (harea : batch.area ≠ [])
    (hfile : ¬ staged.files.IsDirectory []) :
    batch.WritesExactly [] staged.files (staged.run batch.commit).2.files
      (staged.run batch.commit).1 := by
  obtain ⟨content, hcontent⟩ := Node.exists_file_of_not_isDirectory hfile
  have hsame : staged.files.removeTree batch.staging = staged.files := by
    rw [hcontent, Node.removeTree_file]
  have hroot : staged.files.kindAt? [] = some (.file content) := by
    rw [hcontent]
    rfl
  rw [gives_commit_nil hnil, hsame]
  refine ⟨iff_of_true ⟨_, rfl⟩ (by simp), ?_⟩
  rintro summary ⟨⟩
  exact {
    written := rfl
    preserved := rfl
    content := by simp
    unchanged := fun _ _ _ => rfl
    intact := fun _ _ _ => .inl rfl
    gone := fun a hpre => Node.kindAt?_below_file hroot (hpre.ne_nil harea) }

/-- Files with different places, none of them a directory, are written exactly if no file is on the way to
the place of one that has to be written. -/
theorem commit_writesExactly
    (hstart : world.run (Batch.start target) = (.ok fresh, started))
    (hstage : started.run (fresh.stageAll files) = ((batch, .ok ()), staged))
    (hord : ∀ file ∈ files, (Path.ofString file.name).IsOrdinary)
    (houtside : ∀ file ∈ files, ¬ batch.area <+: batch.spot (.ofString file.name))
    (hdistinct : (files.map fun file => (Path.ofString file.name).steps).Nodup)
    (hplain : ∀ file ∈ files, ¬ staged.files.IsDirectory (batch.spot (.ofString file.name))) :
    batch.WritesExactly files staged.files (staged.run batch.commit).2.files
      (staged.run batch.commit).1 := by
  have hstaged := staged_of_stageAll hstage
  obtain ⟨_, used, -, -, hfresh, -⟩ := run_start_ok hstart
  by_cases hroot : world.files.IsDirectory []
  · have hready := (fileAt?_of_stageAll (filling_of_start hroot hstart).paved.start hord hdistinct
      hstage).1
    refine (prepared_of_root hstart hstage hroot hord houtside).writesExactly ?_ (fun file hfile => ?_)
      hdistinct hplain
    · rw [hstaged, hfresh]
      rfl
    · have hsame : batch.readyAt (.ofString file.name) = fresh.readyAt (.ofString file.name) := by
        rw [hstaged]
        rfl
      rw [hsame]
      exact hready file hfile
  · obtain rfl : files = [] := by
      by_contra hfiles
      exact hroot (isDirectory_nil_of_run hstart hstage hfiles hord)
    cases hstage
    subst hfresh
    refine writesExactly_of_file rfl ?_ fun hstarted => hroot (isDirectory_nil_of_start hstart hstarted)
    rw [area, address_child (World.isIdle_stagingName _) (World.stagingName_ne_short ".." (by decide) _)]
    exact List.concat_ne_nil _ _

/-- A file to be replaced, one that is there and to be left alone, and one in a new directory. -/
def mixedFiles : List Generated :=
  [⟨"a.ts", "new", .always⟩, ⟨"b", "own", .ifMissing⟩, ⟨"n/c.ts", "new", .ifMissing⟩]

theorem run_stageAll_mixed : sampleStarted.run ((sampleBatch []).stageAll mixedFiles) =
    ((sampleBatch mixedFiles, .ok ()), sampleStaged mixedFiles) := by
  have hresult : (sampleStarted.run ((sampleBatch []).stageAll mixedFiles)).1 =
    (sampleBatch mixedFiles, .ok ()) := by cbv
  rw [sampleStaged, ← hresult]

/-- The first and the last file are written, and the other one has kept its content. -/
theorem commit_writesExactly_mixed :
    ((sampleStaged mixedFiles).run (sampleBatch mixedFiles).commit).1 =
        .ok ⟨[.ofString "a.ts", .ofString "n/c.ts"], [.ofString "b"]⟩ ∧
      ((sampleStaged mixedFiles).run (sampleBatch mixedFiles).commit).2.files.fileAt?
        ["out", "n", "c.ts"] = some "new".toUTF8 ∧
      ((sampleStaged mixedFiles).run (sampleBatch mixedFiles).commit).2.files.fileAt? ["out", "b"] =
        some "other".toUTF8 := by
  have hok : ((sampleStaged mixedFiles).run (sampleBatch mixedFiles).commit).1 =
      .ok ⟨[.ofString "a.ts", .ofString "n/c.ts"], [.ofString "b"]⟩ := by cbv
  have hexact := commit_writesExactly run_start_sample run_stageAll_mixed (by decide +kernel)
    (by decide +kernel) (by decide +kernel) (by decide +kernel)
  have hdelivered := hexact.delivered _ hok
  have hbefore : (sampleStaged mixedFiles).files.fileAt? ["out", "b"] = some "other".toUTF8 := by cbv
  refine ⟨hok, ?_, ?_⟩
  · exact hdelivered.content ⟨"n/c.ts", "new", .ifMissing⟩ (by decide +kernel) (by decide +kernel)
  · exact (hdelivered.unchanged ["out", "b"] (by decide +kernel) (by decide +kernel)).trans hbefore

end TypedClient.Files.Batch
