import TypedClient.Proofs.Command.Generate
import TypedClient.Proofs.Files.Spared

/-!
# However a run ends

A run of `generate` that does not get to its job leaves all files as they are
(`Command.generate_cases`). The job first writes a client: the batch for it is not even started where a file
is in the way, or it is written or fails as a whole (`Command.tried_of_writeFiles`).
-/

namespace TypedClient

open Files (Batch Generated Node Path Plain Store)

namespace World

variable {α β : Type} {content : ByteArray}

/-- An action that leaves a file alone which is there in place of a tree. -/
def LeavesFile (content : ByteArray) (action : StateM World α) : Prop :=
  ∀ world : World, world.files = .file content → (world.run action).2.files = .file content

theorem leavesFile_pure (a : α) : LeavesFile content (pure a : StateM World α) :=
  fun _ h => h

theorem LeavesFile.bind {x : StateM World α} {f : α → StateM World β} (hx : LeavesFile content x)
    (hf : ∀ a, LeavesFile content (f a)) : LeavesFile content (x >>= f) := fun world h =>
  hf _ _ (hx world h)

theorem leavesFile_createDirectories (path : Path) :
    LeavesFile content (Store.createDirectories path : StateM World (Except Files.Fault Unit)) := by
  intro world h
  rw [gives_createDirectories]
  change (world.files.createDirectories path).2 = _
  rw [h, Node.createDirectories, Node.ensure_file]

theorem leavesFile_createStaging (path : Path) :
    LeavesFile content (Store.createStaging path : StateM World (Except Files.Fault Path)) := by
  intro world h
  rw [run_createStaging, createStaging]
  split
  · exact h
  next a _ _ =>
    dsimp only
    rw [h]
    cases a <;> rfl

theorem leavesFile_removeTree (path : Path) :
    LeavesFile content (Store.removeTree path : StateM World Unit) := by
  intro world h
  rw [gives_removeTree, h]
  exact Node.removeTree_file path

theorem leavesFile_writeText {path : Path} (hne : path.steps ≠ []) (text : String) :
    LeavesFile content (Store.writeText path text : StateM World (Except Files.Fault Unit)) := by
  intro world h
  have hwrite : world.files.writeFile path text.toUTF8 = .error .notDirectory := by
    rw [h, Node.writeFile_file hne]
  have hgives : world.Gives (Store.writeText path text) (.error .notDirectory) world.files :=
    gives_change_error (f := (·.writeFile path text.toUTF8)) hwrite
  rw [hgives]
  exact h

theorem leavesFile_start (target : Path) :
    LeavesFile content (Batch.start target : StateM World (Except Files.BatchFault Batch)) := by
  apply (leavesFile_createDirectories target).bind
  intro result
  split
  · exact leavesFile_pure _
  · apply (leavesFile_createStaging target).bind
    intro result
    split <;> exact leavesFile_pure _

theorem leavesFile_stageAll {files : List Generated} (hplain : Plain files) (batch : Batch) :
    LeavesFile content (batch.stageAll files : StateM World (Batch × Except Files.BatchFault Unit)) := by
  induction files generalizing batch with
  | nil => exact leavesFile_pure _
  | cons file rest ih =>
    have hne : (batch.stagedPath (.ofString file.name)).steps ≠ [] :=
      Batch.steps_stagedPath_ne_nil (hplain.ordinary file List.mem_cons_self)
    have hstage : LeavesFile content (batch.stage file : StateM World (Except Files.BatchFault Batch)) := by
      refine LeavesFile.bind ((leavesFile_createDirectories _).bind fun result => ?_) fun result => ?_
      · split
        · exact leavesFile_pure _
        · exact leavesFile_writeText hne _
      · split <;> exact leavesFile_pure _
    apply hstage.bind
    intro result
    split
    · exact leavesFile_pure _
    · exact ih hplain.tail _

end World

namespace Command

open TypeScript (clientFiles)

variable {world after : World} {output : Path} {files : List Generated} {options : Generation}
  {result : Except Files.BatchFault Files.Summary}

/-! ## Writing a client -/

/-- The files of a client have plain names. -/
theorem plain_clientFiles (ops : List Operation) (settings : TypeScript.ClientSettings) :
    Plain (clientFiles ops settings) where
  ordinary _ := isOrdinary_of_mem_clientFiles
  steps _ := steps_of_mem_clientFiles
  file file hfile := by
    have hfiles : ∀ name ∈ clientNames, (Path.ofString name).demandsDirectory = false := by
      decide +kernel
    exact hfiles _ (mem_clientNames hfile)
  nodup := by
    rw [map_name_clientFiles]
    decide
  fresh _ hfile := ne_stagingName_of_mem_clientNames (mem_clientNames hfile)

/-- How the writing of files can end. -/
inductive Tried (world after : World) (output : Path) (files : List Generated)
    (result : Except Files.BatchFault Files.Summary) : Prop
  /-- There is no tree to write to. -/
  | nowhere (hresult : ∃ fault, result = .error fault) (hfiles : after.files = world.files)
  /-- A file is in the way of the output directory. -/
  | blocked (hresult : ∃ fault, result = .error fault) (hroot : world.files.IsDirectory [])
      (hmake : ∃ fault, (world.files.createDirectories output).1 = .error fault)
      (hfiles : after.files = (world.files.createDirectories output).2)
  /-- The batch was staged, and written or not. -/
  | committed {fresh started batch staged} (hstart : world.run (Batch.start output) = (.ok fresh, started))
      (hstage : World.run started (fresh.stageAll files) = ((batch, .ok ()), staged))
      (hcommit : World.run staged batch.commit = (result, after))

/-- Files with plain names are staged whenever the batch for them was started. -/
theorem tried_of_writeFiles (hplain : Plain files) (hfiles : files ≠ [])
    (h : world.run (writeFiles output files) = (result, after)) :
    Tried world after output files result := by
  rw [writeFiles, World.run_bind] at h
  by_cases hroot : world.files.IsDirectory []
  · rcases Batch.run_start_cases hroot output with ⟨fault, own, hmake, hgives⟩ | ⟨fresh, started, hstart⟩
    · rw [hgives] at h
      obtain ⟨rfl, rfl⟩ := Prod.mk.inj h
      exact .blocked ⟨_, rfl⟩ hroot ⟨own, hmake⟩ rfl
    · obtain ⟨batch, staged, hstage⟩ := (Batch.level_of_start hroot hstart).exists_stageAll
        (Batch.filling_of_start hroot hstart) hplain
      rw [hstart] at h
      dsimp only at h
      rw [World.run_bind, hstage] at h
      exact .committed hstart hstage h
  · obtain ⟨content, hcontent⟩ := Node.exists_file_of_not_isDirectory hroot
    have hbegun := World.leavesFile_start output world hcontent
    cases hstart : world.run (Batch.start output) with
    | mk started begun =>
      rw [hstart] at h hbegun
      cases started with
      | error fault =>
        obtain ⟨rfl, rfl⟩ := Prod.mk.inj h
        exact .nowhere ⟨_, rfl⟩ (hbegun.trans hcontent.symm)
      | ok fresh =>
        have hfilled := World.leavesFile_stageAll hplain fresh begun hbegun
        dsimp only at h
        rw [World.run_bind] at h
        cases hstage : World.run begun (fresh.stageAll files) with
        | mk filled staged =>
          rw [hstage] at h hfilled
          obtain ⟨batch, filled⟩ := filled
          cases filled with
          | error fault =>
            have hgone := World.leavesFile_removeTree batch.staging staged hfilled
            obtain ⟨rfl, rfl⟩ := Prod.mk.inj h
            exact .nowhere ⟨_, rfl⟩ (hgone.trans hcontent.symm)
          | ok _ =>
            exact absurd (Batch.isDirectory_nil_of_run hstart hstage hfiles hplain.ordinary) hroot

/-! ## A run -/

/-- A run leaves all files as they are, or it gets to its job. -/
theorem generate_cases {finish : Except Stop Unit}
    (h : world.run (generateClient options : Run (StateM World) Unit).run = (finish, after)) :
    after.files = world.files ∨
      ∃ config doc started, options.dryRun = false ∧
        (world.run Config.ofProject).1 = .ok config ∧ started.files = world.files ∧
        World.run started ((options.toJob config doc).run : Run (StateM World) Unit).run =
          (finish, after) := by
  obtain ⟨config, doc, hstarts⟩ | ⟨-, hfiles⟩ := starts_or_stops h
  · obtain ⟨ready, hit, hready, hknown, hrun⟩ := hstarts.exists_proceed
    rw [hrun] at h
    cases hdry : options.dryRun with
    | true =>
      obtain ⟨shown, hshown, hfiles⟩ := run_proceed_of_dryRun hdry
      obtain rfl : shown = after := (Prod.mk.inj (hshown.symm.trans h)).2
      exact .inl (hfiles.trans hready)
    | false =>
      by_cases hidle : NothingToDo config options doc ready.files
      · obtain ⟨told, htold, hfiles⟩ := run_proceed_of_nothingToDo hknown hdry hidle
        obtain rfl : told = after := (Prod.mk.inj (htold.symm.trans h)).2
        exact .inl (hfiles.trans hready)
      · obtain ⟨started, hfiles, hjob⟩ := run_proceed_of_work hknown hdry hidle
        exact .inr ⟨config, doc, started, rfl, hstarts.uses, hfiles.trans hready, hjob.symm.trans h⟩
  · exact .inl hfiles

end Command

end TypedClient
