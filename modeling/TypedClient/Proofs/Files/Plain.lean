import TypedClient.Proofs.Files.Changed

/-!
# Files with plain names

A batch of files with plain names needs no directories but its target. It is started unless a file is in
the way there (`Batch.run_start_cases`), it then stages all its files (`Batch.exists_stageAll`), and it is
written unless the way to its target leads through the place of one of them
(`Batch.exists_of_course_failed`).
-/

namespace TypedClient.Files

namespace Node

variable {root : Node} {here : Address} {steps : List String} {path : Path} {content : ByteArray}
  {fault : Fault}

/-! ## Directories that cannot be made -/

/-- Without two dots, directories cannot be made only where a file is in the way from the start, and then
none is made. -/
theorem ensure_eq_of_error (hhere : root.IsDirectory here) (hdown : ".." ∉ steps)
    (h : (root.ensure false here steps).1 = .error fault) : (root.ensure false here steps).2 = root := by
  induction steps generalizing root here with
  | nil => rfl
  | cons step rest ih =>
    have hstep : step ≠ ".." := fun heq => hdown (heq ▸ List.mem_cons_self)
    have hrest : ".." ∉ rest := fun hmem => hdown (List.mem_cons_of_mem _ hmem)
    rw [ensure, if_neg hstep, Bool.and_false] at h ⊢
    rcases hnode : root.get? (here ++ [step]) with _ | own | entries
    · -- below a directory that is new nothing is in the way
      rw [hnode] at h
      have hparent : here ++ [step] = [] ∨ root.IsDirectory (here ++ [step]).dropLast := by
        rw [List.dropLast_concat]
        exact .inr hhere
      have hmade : (root.put (here ++ [step]) empty).IsDirectory (here ++ [step]) :=
        kindAt?_put_self empty hparent
      have hfree : ∀ v ∈ Files.trail (here ++ [step]) rest,
          (root.put (here ++ [step]) empty).fileAt? v = none := by
        intro v hv
        obtain ⟨q, hq, -, rfl⟩ := (mem_trail_of_ordinary hrest).mp hv
        have hbelow := kindAt?_put_append q empty hparent
        rw [empty] at hbelow
        cases q with
        | nil => exact absurd rfl hq
        | cons name more => exact fileAt?_of_missing hbelow
      have hok := ensure_ok_of_no_file hmade hfree (fun hthere => absurd hthere Bool.false_ne_true)
      cases hok.symm.trans h
    · rfl
    · rw [hnode] at h
      exact ih (isDirectory_of_get? hnode) hrest h

/-- If directories cannot be made for a path without two dots and without a dot at its end, none is made. -/
theorem createDirectories_eq_of_error (hroot : root.IsDirectory []) (hdown : ".." ∉ path.steps)
    (hdot : path.endsInDot = false) (h : (root.createDirectories path).1 = .error fault) :
    (root.createDirectories path).2 = root := by
  rw [createDirectories, hdot] at h ⊢
  exact ensure_eq_of_error hroot hdown h

/-- A directory that cannot be made is not there. -/
theorem not_isDirectory_of_createDirectories (hroot : root.IsDirectory []) (hdown : ".." ∉ path.steps)
    (h : (root.createDirectories path).1 = .error fault) : ¬ root.IsDirectory path.address := by
  intro hdir
  have hpaved : root.Paved path := by
    refine ⟨hroot, fun v hv => ?_⟩
    obtain ⟨q, -, hq, hvq⟩ := (mem_trail_of_ordinary hdown).mp hv
    rw [List.nil_append] at hvq
    rw [Path.address, walk_of_ordinary hdown, List.nil_append] at hdir
    by_cases hlast : v = path.steps
    · rwa [hlast]
    · exact isDirectory_above (hvq ▸ hq) hlast hdir.ne_none
  rw [hpaved.createDirectories_ok] at h
  cases h

/-! ## A file in place of a tree -/

/-- A root that is no directory is a file. -/
theorem exists_file_of_not_isDirectory (h : ¬ root.IsDirectory []) : ∃ content, root = .file content := by
  cases root with
  | file content => exact ⟨content, rfl⟩
  | directory entries => exact absurd rfl h

/-- Nothing can be made below a file. -/
theorem ensure_file (there : Bool) (here : Address) (steps : List String) :
    ((file content).ensure there here steps).2 = file content := by
  induction steps generalizing here with
  | nil => rfl
  | cons step rest ih =>
    rw [ensure]
    split
    · exact ih _
    · cases hhere : here ++ [step] with
      | nil => exact absurd hhere (List.concat_ne_nil _ _)
      | cons name more =>
        rw [get?, put, ← hhere]
        dsimp only
        split
        · rfl
        · exact ih _

/-- No path leads below a file. -/
theorem locate_file (h : path.steps ≠ []) : (file content).locate path = .error .notDirectory := by
  rw [locate, Path.isEmpty_eq_false_of_steps h, if_neg Bool.false_ne_true]
  cases hsteps : path.steps with
  | nil => exact absurd hsteps h
  | cons step rest => rfl

/-- Nothing can be written below a file. -/
theorem writeFile_file {own : ByteArray} (h : path.steps ≠ []) :
    (file content).writeFile path own = .error .notDirectory := by
  rw [writeFile, locate_file h]
  rfl

/-- Nothing can be removed below a file. -/
theorem removeTree_file (path : Path) : (file content).removeTree path = file content := by
  rw [removeTree]
  split
  next address _ => cases address <;> rfl
  next => rfl

end Node

/-- Files with plain names that are all different, none of them the name of a staging directory. -/
structure Plain (files : List Generated) : Prop where
  ordinary : ∀ file ∈ files, (Path.ofString file.name).IsOrdinary
  steps : ∀ file ∈ files, (Path.ofString file.name).steps = [file.name]
  file : ∀ file ∈ files, (Path.ofString file.name).demandsDirectory = false
  nodup : (files.map Generated.name).Nodup
  fresh : ∀ file ∈ files, ∀ n, file.name ≠ stagingName n

namespace Plain

variable {files rest : List Generated} {file : Generated}

/-- All but the first of files with plain names have plain names. -/
theorem tail (h : Plain (file :: rest)) : Plain rest where
  ordinary := (List.forall_mem_cons.mp h.ordinary).2
  steps := (List.forall_mem_cons.mp h.steps).2
  file := (List.forall_mem_cons.mp h.file).2
  nodup := (List.nodup_cons.mp h.nodup).2
  fresh := (List.forall_mem_cons.mp h.fresh).2

theorem head (h : Plain (file :: rest)) : Plain [file] where
  ordinary := List.forall_mem_singleton.mpr (h.ordinary file List.mem_cons_self)
  steps := List.forall_mem_singleton.mpr (h.steps file List.mem_cons_self)
  file := List.forall_mem_singleton.mpr (h.file file List.mem_cons_self)
  nodup := List.nodup_singleton file.name
  fresh := List.forall_mem_singleton.mpr (h.fresh file List.mem_cons_self)

/-- Plain names lead to different places. -/
theorem nodup_steps (h : Plain files) :
    (files.map fun file => (Path.ofString file.name).steps).Nodup := by
  have hsteps : (files.map fun file => (Path.ofString file.name).steps) =
      (files.map Generated.name).map fun name => [name] := by
    rw [List.map_map]
    exact List.map_congr_left h.steps
  rw [hsteps]
  exact h.nodup.map fun _ _ heq => List.singleton_inj.mp heq

end Plain

namespace Batch

variable {batch fresh last : Batch} {before : Node} {target path p : Path} {file : Generated}
  {files : List Generated} {taken preserved : List Path} {world started staged : World}

/-! ## Starting and staging -/

/-- A batch is started unless a file is in the way of its target. -/
theorem run_start_cases (hroot : world.files.IsDirectory []) (target : Path) :
    (∃ fault own, (world.files.createDirectories target).1 = .error own ∧
      world.Gives (Batch.start target) (.error fault) (world.files.createDirectories target).2) ∨
    ∃ batch started, world.run (Batch.start target) = (.ok batch, started) := by
  cases hmake : (world.files.createDirectories target).1 with
  | error fault =>
    refine .inl ⟨.stage target fault, fault, rfl, (World.gives_createDirectories target).bind ?_⟩
    rw [hmake]
    exact World.gives_pure _
  | ok _ =>
    right
    have hpaved := Node.paved_of_createDirectories hroot hmake
    obtain ⟨found, hfound⟩ :
        ∃ found, World.directory (world.files.createDirectories target).2 target = .ok found := by
      rw [World.directory]
      by_cases hempty : target.isEmpty
      · exact ⟨_, if_pos hempty⟩
      · obtain ⟨entries, hfind⟩ := hpaved.find (by simpa using hempty)
        rw [if_neg hempty, hfind]
        exact ⟨_, rfl⟩
    rw [start, World.run_bind, World.gives_createDirectories, hmake]
    dsimp only
    rw [World.run_bind, World.run_createStaging, World.createStaging, hfound]
    exact ⟨_, _, rfl⟩

/-- The tree in which a batch stages files with plain names: nothing is in the way of them. -/
structure Level (batch : Batch) (root : Node) : Prop where
  unblocked : root.fileAt? (batch.area ++ ["staged"]) = none
  flat : ∀ name, ¬ root.IsDirectory (batch.area ++ ["staged", name])

/-- The staging directory is a child of the target. -/
theorem area_of_staging {n : Nat} (h : batch.staging = target.child (stagingName n)) :
    batch.area = target.address ++ [stagingName n] := by
  rw [area, h]
  exact address_child (World.isIdle_stagingName n) (World.stagingName_ne_short ".." (by decide) n)

/-- A staging directory is empty when it is new. -/
theorem kindAt?_area_of_start (hroot : world.files.IsDirectory [])
    (h : world.run (Batch.start target) = (.ok batch, started)) (r : Address) :
    started.files.kindAt? (batch.area ++ r) = Node.empty.kindAt? r := by
  obtain ⟨a, used, hmake, hdir, rfl, hfiles⟩ := run_start_ok h
  obtain ⟨rfl, hpave, -⟩ := Node.directory_eq_ok hdir
  have hpaved := hpave ((Node.createDirectories_extends hroot target).isDirectory hroot)
  have harea : Batch.area ⟨target, target.child
      (stagingName (World.freshStaging used world.nextStaging)), []⟩ =
      target.address ++ [stagingName (World.freshStaging used world.nextStaging)] := area_of_staging rfl
  rw [harea, hfiles, Node.kindAt?_put_append r .empty (.inr (by simpa using hpaved.address))]

/-- A staging directory that was made is level, for nothing is in it. -/
theorem level_of_start (hroot : world.files.IsDirectory [])
    (h : world.run (Batch.start target) = (.ok batch, started)) : batch.Level started.files := by
  have hnew := kindAt?_area_of_start hroot h
  exact ⟨Node.fileAt?_of_missing (hnew ["staged"]), fun name hdir => hdir.ne_none (hnew ["staged", name])⟩

/-- The way to a staged file with a plain name is that to the target, then the staging directory and the
one in it. -/
theorem Filling.mem_trail_stagedPath_of_name {root : Node} {name : String} {v : Address}
    (h : batch.Filling root) (hord : path.IsOrdinary) (hsteps : path.steps = [name])
    (hv : v ∈ (batch.stagedPath path).parent.trail) :
    v ∈ batch.target.trail ∨ v = batch.area ∨ v = batch.area ++ ["staged"] := by
  have hproper : path.steps ≠ [] := hsteps ▸ List.cons_ne_nil _ _
  refine ((h.mem_trail_stored rfl (by decide) hord hproper).mp hv).imp_right (Or.imp_right ?_)
  rintro ⟨q, hpre, hne, rfl⟩
  rw [hsteps] at hpre hne
  rcases List.prefix_cons_iff.mp hpre with rfl | ⟨r, rfl, hr⟩
  · rfl
  · exact absurd (List.prefix_nil.mp hr ▸ rfl) hne

namespace Level

/-- The directories for a file with a plain name are made, and nothing is in the way of others then. -/
theorem createDirectories {root : Node} {name : String} (hl : batch.Level root) (h : batch.Filling root)
    (hord : path.IsOrdinary) (hsteps : path.steps = [name]) :
    (root.createDirectories (batch.stagedPath path).parent).1 = .ok () ∧
      batch.Level (root.createDirectories (batch.stagedPath path).parent).2 := by
  have hmade := Node.createDirectories_extends h.paved.start (batch.stagedPath path).parent
  refine ⟨(Node.createDirectories_parent_ok_iff h.paved.start).mpr fun v hv => ?_, ?_, fun name hdir => ?_⟩
  · rcases h.mem_trail_stagedPath_of_name hord hsteps hv with hv | rfl | rfl
    · exact Node.fileAt?_of_directory (h.paved.trail v hv)
    · exact Node.fileAt?_of_directory h.area
    · exact hl.unblocked
  · rcases hmade (batch.area ++ ["staged"]) with hsame | ⟨-, -, hdir⟩
    · rw [Node.fileAt?, hsame]
      exact hl.unblocked
    · exact Node.fileAt?_of_directory hdir
  · rcases hmade (batch.area ++ ["staged", name]) with hsame | ⟨hmem, -⟩
    · exact hl.flat name (hsame.symm.trans hdir)
    · rcases h.mem_trail_stagedPath_of_name hord hsteps hmem with hv | heq | heq
      · exact h.separate _ hv (List.prefix_append _ _)
      · simp at heq
      · simp at heq

/-- A file that is put among the staged ones leaves the directory level. -/
theorem put {root : Node} (hl : batch.Level root) (hdir : root.IsDirectory (batch.area ++ ["staged"]))
    (name : String) (content : ByteArray) :
    batch.Level (root.put (batch.area ++ ["staged", name]) (.file content)) := by
  constructor
  · have hbelow : ¬ batch.area ++ ["staged", name] <+: batch.area ++ ["staged"] := by simp
    refine Node.fileAt?_of_directory ?_
    rw [Node.IsDirectory, Node.kindAt?_put_elsewhere hbelow]
    exact hdir
  · intro other
    by_cases hname : other = name
    · rw [hname]
      have hparent : root.IsDirectory (batch.area ++ ["staged", name]).dropLast := by simpa using hdir
      exact Node.not_isDirectory_of_file (Node.kindAt?_put_self (.file content) (.inr hparent))
    · rw [Node.IsDirectory, Node.kindAt?_put_elsewhere (by simp [Ne.symm hname])]
      exact hl.flat other

/-- A file with a plain name is staged, and nothing is in the way of others afterwards. -/
theorem exists_stage (hl : batch.Level world.files) (h : batch.Filling world.files)
    (hplain : Plain [file]) :
    ∃ next staged, world.run (batch.stage file) = (.ok next, staged) ∧ next.Level staged.files := by
  have hord := List.forall_mem_singleton.mp hplain.ordinary
  have hsteps := List.forall_mem_singleton.mp hplain.steps
  have hproper : (Path.ofString file.name).steps ≠ [] := hsteps ▸ List.cons_ne_nil _ _
  obtain ⟨hmake, hlevel⟩ := hl.createDirectories h hord hsteps
  have hpaved := Node.paved_of_createDirectories h.paved.start hmake
  have hready : batch.readyAt (.ofString file.name) = batch.area ++ ["staged", file.name] := by
    rw [readyAt_eq hord, hsteps]
  have hdir : (world.files.createDirectories (batch.stagedPath (.ofString file.name)).parent).2.IsDirectory
      (batch.area ++ ["staged"]) := by
    have hparent := hpaved.address
    rw [stagedPath, Node.address_parent_join hord hproper, ← stagedPath] at hparent
    change Node.IsDirectory _ (batch.readyAt _).dropLast at hparent
    rw [hready] at hparent
    simpa using hparent
  have hdemands : (batch.stagedPath (.ofString file.name)).demandsDirectory = false := by
    rw [stagedPath, Path.demandsDirectory_join hord.relative (Path.segments_ofString_ne_nil file.name)]
    exact hplain.file file List.mem_cons_self
  have hfree := hlevel.flat file.name
  rw [← hready] at hfree
  have hlocate := Node.locate_of_paved (steps_stagedPath_ne_nil hord) hpaved
  have hput := hlevel.put hdir file.name file.content.toUTF8
  rw [← hready] at hput
  -- the batch has its staging directory where it was before
  exact ⟨_, _, gives_stage hmake ((Node.writeFile_eq_ok_iff hlocate).mpr ⟨hfree, hdemands, rfl⟩),
    hput.unblocked, hput.flat⟩

end Level

/-- Files with plain names are all staged. -/
theorem Level.exists_stageAll (hl : batch.Level world.files) (h : batch.Filling world.files)
    (hplain : Plain files) :
    ∃ last staged, world.run (batch.stageAll files) = ((last, .ok ()), staged) := by
  induction files generalizing world batch with
  | nil => exact ⟨_, _, rfl⟩
  | cons file rest ih =>
    obtain ⟨next, between, hstage, hlevel⟩ := hl.exists_stage h hplain.head
    obtain ⟨last, staged, hrest⟩ := ih hlevel
      (h.stage (hplain.ordinary file List.mem_cons_self) hstage) hplain.tail
    refine ⟨last, staged, ?_⟩
    rw [stageAll, World.run_bind, hstage]
    exact hrest

/-! ## Courses of files with different places -/

/-- What was found out about a file that cannot be moved: it is refused, and it is not to be left alone. -/
theorem exists_of_courseFrom_failed {rest : List Staged}
    (h : (batch.courseFrom before taken preserved rest).failed = some path) :
    ∃ file ∈ rest, file.path = path ∧
      batch.isRefused before (batch.courseFrom before taken preserved rest).taken path ∧
      (file.policy = .always ∨ before.kindAt? (batch.spot path) = none) := by
  induction rest generalizing taken preserved with
  | nil => cases h
  | cons file rest ih =>
    rw [courseFrom] at h ⊢
    split at h
    next hleft =>
      rw [if_pos hleft]
      obtain ⟨later, hmem, hlater⟩ := ih h
      exact ⟨later, List.mem_cons_of_mem _ hmem, hlater⟩
    next hleft =>
      rw [if_neg hleft]
      split at h
      next hrefused =>
        obtain rfl := Option.some.inj h
        rw [if_pos hrefused]
        refine ⟨file, List.mem_cons_self, rfl, hrefused, ?_⟩
        cases hpolicy : file.policy with
        | always => exact .inl rfl
        | ifMissing =>
          right
          by_contra hthere
          refine hleft ⟨hpolicy, ?_⟩
          rw [isThere, Option.isSome_iff_ne_none.mpr hthere, Bool.or_true]
      next hrefused =>
        rw [if_neg hrefused]
        obtain ⟨later, hmem, hlater⟩ := ih h
        exact ⟨later, List.mem_cons_of_mem _ hmem, hlater⟩

/-! ## Writing -/

/-- A file that is staged is one of those that the batch was asked for. -/
theorem exists_of_mem_staged {own : Staged} (hstart : world.run (Batch.start target) = (.ok fresh, started))
    (hstage : started.run (fresh.stageAll files) = ((batch, .ok ()), staged)) (h : own ∈ batch.staged) :
    ∃ file ∈ files, own = ⟨.ofString file.name, file.policy⟩ := by
  obtain ⟨_, _, _, _, rfl, _⟩ := run_start_ok hstart
  rw [staged_of_stageAll hstage] at h
  obtain ⟨file, hfile, rfl⟩ := List.mem_map.mp h
  exact ⟨file, hfile, rfl⟩

section

variable (hplain : Plain files)
  (hstart : world.run (Batch.start target) = (.ok fresh, started))
  (hstage : started.run (fresh.stageAll files) = ((batch, .ok ()), staged))

include hplain hstart hstage

/-- Files with plain names are prepared once they are staged. -/
theorem prepared_of_plain (hfiles : files ≠ []) : batch.Prepared staged.files := by
  refine prepared_of_names hstart hstage hfiles hplain.ordinary fun file hfile n heq => ?_
  rw [hplain.steps file hfile] at heq
  exact hplain.fresh file hfile n (Option.some.inj heq)

/-- They have different places. -/
theorem nodup_steps_of_plain : (batch.paths.map Path.steps).Nodup := by
  rw [paths_of_run hstart hstage, List.map_map]
  exact hplain.nodup_steps

/-- On the way to a plain name in a target that was made there is no file. -/
theorem isBlocked_of_plain (hp : path ∈ batch.paths) (hprepared : batch.Prepared staged.files) :
    batch.isBlocked staged.files path = false := by
  by_contra hblocked
  obtain ⟨v, hv, hfile⟩ := isBlocked_iff.mp (by simpa using hblocked)
  have hsteps : ∃ name, path.steps = [name] := by
    rw [paths_of_run hstart hstage, List.mem_map] at hp
    obtain ⟨file, hfile, rfl⟩ := hp
    exact ⟨file.name, hplain.steps file hfile⟩
  obtain ⟨name, hsteps⟩ := hsteps
  rcases (hprepared.mem_trail_place hp).mp hv with hv | ⟨q, hq, hpre, hne, -⟩
  · exact hfile (Node.fileAt?_of_directory (hprepared.paved.trail v hv))
  · rw [hsteps] at hpre hne
    rcases List.prefix_cons_iff.mp hpre with rfl | ⟨r, rfl, hr⟩
    · exact hq rfl
    · exact hne (by rw [List.prefix_nil.mp hr])

/-- A file with a plain name fails only if the way to the target leads through its place, and only if it
is to be replaced. -/
theorem exists_of_course_failed (hfiles : files ≠ [])
    (hfailed : (batch.course staged.files).failed = some path) :
    ∃ file ∈ files, path = .ofString file.name ∧ file.policy = .always ∧ batch.isEntered path := by
  have hprepared := prepared_of_plain hplain hstart hstage hfiles
  obtain ⟨hp, hnew⟩ :=
    not_taken_of_course_failed (nodup_steps_of_plain hplain hstart hstage) hfailed
  obtain ⟨own, hown, rfl, hrefused, hrule⟩ := exists_of_courseFrom_failed hfailed
  have htaken : isTaken (batch.course staged.files).taken own.path = false :=
    isTaken_eq_false.mpr hnew
  have hentered : batch.isEntered own.path := by
    rw [course] at htaken
    rw [isRefused, htaken, isBlocked_of_plain hplain hstart hstage hp hprepared] at hrefused
    simpa using hrefused
  obtain ⟨file, hfile, rfl⟩ := exists_of_mem_staged hstart hstage hown
  refine ⟨file, hfile, rfl, hrule.resolve_right fun hnone => ?_, hentered⟩
  exact (isDirectory_of_isEntered hprepared.paved hentered).ne_none hnone

/-- Without two dots in the way to the target, files with plain names are written. -/
theorem commit_ok_of_plain (hfiles : files ≠ []) (hdown : ".." ∉ target.steps) :
    ∃ summary finished, staged.run batch.commit = (.ok summary, finished) := by
  have hprepared := prepared_of_plain hplain hstart hstage hfiles
  have hnone : (batch.course staged.files).failed = none := by
    by_contra hsome
    obtain ⟨path, hfailed⟩ := Option.ne_none_iff_exists'.mp hsome
    obtain ⟨file, hfile, rfl, -, hentered⟩ :=
      exists_of_course_failed hplain hstart hstage hfiles hfailed
    obtain ⟨v, hv, hpre⟩ := isEntered_iff.mp hentered
    -- the way to the target goes down to it, and no further
    rw [target_of_run hstart hstage] at hv
    obtain ⟨q, -, hq, rfl⟩ := (mem_trail_of_ordinary hdown).mp hv
    rw [spot_of_name hstart hstage hplain.ordinary hplain.steps hfile, Path.address,
      walk_of_ordinary hdown] at hpre
    exact not_below_self (hpre.trans hq)
  obtain ⟨result, after, hgives, hended, -⟩ := hprepared.commit
  obtain ⟨cause, hresult⟩ := hended.result
  have hok : (batch.course staged.files).result batch staged.files cause = .ok _ :=
    Course.result_eq_ok.mpr ⟨hnone, rfl⟩
  exact ⟨_, _, hgives.trans (by rw [hresult, hok])⟩

end

end Batch

end TypedClient.Files
