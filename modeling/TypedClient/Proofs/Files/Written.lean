import TypedClient.Proofs.Files.Commit
import TypedClient.Proofs.Files.Staging

/-!
# Files that were written

Writing a file gives it its content and leaves all other files as they are (`Node.wrote_of_writeFile`). A
batch that was written has the content of each file at its place, unless the file was to be left alone
(`Batch.fileAt?_of_commit`).
-/

namespace TypedClient.Files

namespace Node

variable {root before middle after : Node} {path : Path} {a b : Address} {content : ByteArray}

/-! ## One file -/

/-- The second tree is the first one with this content in the file at the address. There may be new
directories. -/
structure Wrote (before after : Node) (a : Address) (content : ByteArray) : Prop where
  there : after.fileAt? a = some content
  elsewhere : ∀ b, b ≠ a → after.fileAt? b = before.fileAt? b
  directory : ∀ b, before.IsDirectory b → after.IsDirectory b

/-- Directories may be made first. -/
theorem Wrote.of_extended {new : List Address} (hw : Wrote middle after a content)
    (h : Extended before middle new) : Wrote before after a content where
  there := hw.there
  elsewhere b hb := by rw [hw.elsewhere b hb, h.fileAt?_eq]
  directory b hb := hw.directory b (h.isDirectory hb)

theorem Wrote.paved (hw : Wrote before after a content) (hpaved : before.Paved path) :
    after.Paved path :=
  ⟨hw.directory [] hpaved.start, fun v hv => hw.directory v (hpaved.trail v hv)⟩

/-- A path that can be followed leads to the root or to an address in a directory. -/
theorem parent_of_locate (h : root.locate path = .ok a) :
    a = path.address ∧ (a = [] ∨ root.IsDirectory a.dropLast) := by
  obtain ⟨-, rfl, hparent⟩ := locate_eq_ok_iff.mp h
  refine ⟨rfl, ?_⟩
  rcases List.eq_nil_or_concat path.steps with hnil | ⟨front, last, hconcat⟩
  · left
    rw [Path.address, hnil]
    rfl
  · right
    have hsteps : path.steps = front ++ [last] := by rw [hconcat, List.concat_eq_append]
    have hpaved := hparent (by rw [hsteps]; simp)
    have hfront : path.parent.address = walk [] front := by
      rw [Path.address, Path.steps_parent, hsteps, List.dropLast_concat]
    have haddress : path.address = takeStep (walk [] front) last := by
      rw [Path.address, hsteps, walk_append]
      rfl
    have hdir := hpaved.address
    rw [hfront] at hdir
    rw [haddress, takeStep]
    split
    · exact hdir.dropLast.dropLast
    · rw [List.dropLast_concat]
      exact hdir

/-- Writing a file gives it its content and leaves all other files as they are. -/
theorem wrote_of_writeFile (h : root.writeFile path content = .ok after) :
    Wrote root after path.address content := by
  cases hlocate : root.locate path with
  | error fault => simp [writeFile, hlocate, bind, Except.bind] at h
  | ok a =>
    obtain ⟨hnotdir, -, rfl⟩ := (writeFile_eq_ok_iff hlocate).mp h
    obtain ⟨rfl, hparent⟩ := parent_of_locate hlocate
    -- nothing is below the address before, for it is no directory there, nor after, for it is a file
    have hbelow : ∀ b, path.address <+: b → b ≠ path.address →
        root.kindAt? b = none ∧ (root.put path.address (.file content)).kindAt? b = none := by
      intro b hpre hne
      refine ⟨?_, ?_⟩
      · by_contra hthere
        exact hnotdir (isDirectory_above hpre hne.symm hthere)
      · obtain ⟨r, rfl⟩ := hpre
        have hr : r ≠ [] := by
          rintro rfl
          exact hne (List.append_nil _)
        exact kindAt?_below_file (kindAt?_put_self (.file content) hparent) hr
    refine ⟨?_, fun b hne => ?_, fun b hdir => ?_⟩
    · rw [fileAt?_eq_some, kindAt?_put_self (.file content) hparent]
      rfl
    · by_cases hpre : path.address <+: b
      · obtain ⟨hbefore, hafter⟩ := hbelow b hpre hne
        rw [fileAt?_of_missing hbefore, fileAt?_of_missing hafter]
      · rw [fileAt?, fileAt?, kindAt?_put_elsewhere hpre]
    · have hpre : ¬ path.address <+: b := by
        intro hpre
        by_cases heq : b = path.address
        · exact hnotdir (heq ▸ hdir)
        · exact hdir.ne_none (hbelow b hpre heq).1
      rw [IsDirectory, kindAt?_put_elsewhere hpre]
      exact hdir

/-- A path that names a directory visits directories only. -/
theorem paved_of_hasPath (h : root.hasPath path) (hdir : root.IsDirectory path.address) :
    root.Paved path := by
  rw [hasPath] at h
  split at h
  next found hfind =>
    obtain ⟨a, node⟩ := found
    obtain ⟨-, -, hparent⟩ := locate_eq_ok_iff.mp (find_eq_ok hfind).1
    by_cases hsteps : path.steps = []
    · rw [Path.address, hsteps] at hdir
      refine ⟨hdir, fun v hv => ?_⟩
      rw [Path.trail, hsteps] at hv
      exact absurd hv List.not_mem_nil
    · refine ⟨(hparent hsteps).start, fun v hv => ?_⟩
      rcases Path.mem_trail_parent_or_eq hv with hv | rfl
      · exact (hparent hsteps).trail v hv
      · exact hdir
  next => cases h

/-! ## Reading -/

theorem fromUTF8?_toUTF8 (text : String) : String.fromUTF8? text.toUTF8 = some text := by
  have hvalid : text.toUTF8.IsValidUTF8 := text.isValidUTF8
  rw [String.fromUTF8?, dif_pos hvalid]
  rfl

/-! A name in a directory that a path leads to. -/

section

variable {name : String} (hidle : Path.isIdle name = false) (hdots : name ≠ "..")

include hidle hdots

theorem demandsDirectory_child : (path.child name).demandsDirectory = false := by
  rw [Path.child, Path.demandsDirectory_join (Batch.isOrdinary_name hidle hdots).relative (by simp)]
  simp [Path.demandsDirectory, hidle, hdots]

theorem locate_child (hpaved : root.Paved path) :
    root.locate (path.child name) = .ok (path.address ++ [name]) := by
  have hsteps : (path.child name).steps = path.steps ++ [name] := Path.steps_child hidle
  have hparent : root.Paved (path.child name).parent := by
    refine ⟨hpaved.start, fun v hv => hpaved.trail v ?_⟩
    rwa [Path.trail, Path.steps_parent, hsteps, List.dropLast_concat] at hv
  rw [locate_of_paved (by rw [hsteps]; simp) hparent, Batch.address_child hidle hdots]

theorem find_child (hpaved : root.Paved path)
    (h : root.fileAt? (path.address ++ [name]) = some content) :
    root.find (path.child name) = .ok (path.address ++ [name], .file content) := by
  have hnode : root.get? (path.address ++ [name]) = some (.file content) :=
    get?_eq_file_iff.mpr (fileAt?_eq_some.mp h)
  simp [find, locate_child hidle hdots hpaved, hnode, demandsDirectory_child hidle hdots, bind,
    Except.bind, pure, Except.pure]

/-- The text in a file of a directory that a path leads to. -/
theorem readText_child {text : String} (hpaved : root.Paved path)
    (h : root.fileAt? (path.address ++ [name]) = some text.toUTF8) :
    root.readText (path.child name) = .ok text := by
  rw [readText, find_child hidle hdots hpaved h]
  dsimp only [bind, Except.bind]
  rw [fromUTF8?_toUTF8]
  rfl

end

/-- A text that is read is in the file that the path leads to. -/
theorem fileAt?_of_readText {text : String} (h : root.readText path = .ok text) :
    ∃ content, root.fileAt? path.address = some content ∧ String.fromUTF8? content = some text := by
  rw [readText] at h
  cases hfind : root.find path with
  | error fault => simp [hfind, bind, Except.bind] at h
  | ok found =>
    obtain ⟨a, node⟩ := found
    obtain ⟨hlocate, hnode⟩ := find_eq_ok hfind
    obtain ⟨-, rfl, -⟩ := locate_eq_ok_iff.mp hlocate
    cases node with
    | directory entries => simp [hfind, bind, Except.bind, throw, throwThe, MonadExceptOf.throw] at h
    | file content =>
      refine ⟨content, fileAt?_eq_some.mpr (get?_eq_file_iff.mp hnode), ?_⟩
      cases htext : String.fromUTF8? content with
      | none =>
        simp [hfind, htext, bind, Except.bind, throw, throwThe, MonadExceptOf.throw] at h
      | some own =>
        simp [hfind, htext, bind, Except.bind, pure, Except.pure] at h
        rw [h]

end Node

namespace Batch

variable {batch fresh next last : Batch} {before : Node} {target path : Path} {file : Generated}
  {files : List Generated} {summary : Summary} {world started staged after : World}

/-! ## Staged files -/

/-- A file that is staged is written where the batch keeps it ready. -/
theorem wrote_of_stage (hroot : world.files.IsDirectory [])
    (hrun : world.run (batch.stage file) = (.ok next, staged)) :
    Node.Wrote world.files staged.files (batch.readyAt (.ofString file.name))
      file.content.toUTF8 := by
  obtain ⟨-, hwrite, -⟩ := run_stage_ok hrun
  have hmade := Node.createDirectories_extends hroot
    (batch.stagedPath (.ofString file.name)).parent
  exact (Node.wrote_of_writeFile hwrite).of_extended hmade

theorem readyAt_inj {q : Path} (hpath : path.IsOrdinary) (hq : q.IsOrdinary) :
    batch.readyAt path = batch.readyAt q ↔ path.steps = q.steps := by
  rw [readyAt_eq hpath, readyAt_eq hq]
  simp

/-- Files with different places are staged with their contents, and all other files stay as they are. -/
theorem fileAt?_of_stageAll (hroot : world.files.IsDirectory [])
    (hord : ∀ file ∈ files, (Path.ofString file.name).IsOrdinary)
    (hdistinct : (files.map fun file => (Path.ofString file.name).steps).Nodup)
    (hrun : world.run (batch.stageAll files) = ((last, .ok ()), staged)) :
    (∀ file ∈ files, staged.files.fileAt? (batch.readyAt (.ofString file.name)) =
      some file.content.toUTF8) ∧
    ∀ a, (∀ file ∈ files, a ≠ batch.readyAt (.ofString file.name)) →
      staged.files.fileAt? a = world.files.fileAt? a := by
  induction files generalizing world batch with
  | nil =>
    cases hrun
    exact ⟨fun file hfile => absurd hfile List.not_mem_nil, fun _ _ => rfl⟩
  | cons file rest ih =>
    obtain ⟨next, between, hfirst, hrest⟩ := run_stageAll_cons hrun
    obtain ⟨-, -, hnext⟩ := run_stage_ok hfirst
    have hwrote := wrote_of_stage hroot hfirst
    obtain ⟨hown, hord⟩ := List.forall_mem_cons.mp hord
    obtain ⟨hnew, hdistinct⟩ := List.nodup_cons.mp hdistinct
    obtain ⟨hready, hother⟩ := ih (hwrote.directory [] hroot) hord hdistinct hrest
    -- where a batch keeps its files does not depend on which it has staged
    have hsame : ∀ q, next.readyAt q = batch.readyAt q := by
      intro q
      rw [hnext]
      rfl
    simp only [hsame] at hready hother
    have hapart : ∀ other ∈ rest, batch.readyAt (.ofString file.name) ≠
        batch.readyAt (.ofString other.name) := by
      intro other hmem heq
      rw [readyAt_inj hown (hord other hmem)] at heq
      exact hnew (List.mem_map.mpr ⟨other, hmem, heq.symm⟩)
    refine ⟨List.forall_mem_cons.mpr ⟨?_, hready⟩, fun a ha => ?_⟩
    · rw [hother _ hapart, hwrote.there]
    · obtain ⟨hfile, hrest⟩ := List.forall_mem_cons.mp ha
      rw [hother a hrest, hwrote.elsewhere a hfile]

/-! ## Batches that were written -/

section

variable (hstart : world.run (Batch.start target) = (.ok fresh, started))
  (hstage : started.run (fresh.stageAll files) = ((batch, .ok ()), staged))

include hstart hstage

theorem target_of_run : batch.target = target := by
  obtain ⟨_, _, _, _, rfl, _⟩ := run_start_ok hstart
  rw [staged_of_stageAll hstage]

/-- Files whose names are not those of staging directories are outside that of their batch. -/
theorem prepared_of_names (hfiles : files ≠ [])
    (hord : ∀ file ∈ files, (Path.ofString file.name).IsOrdinary)
    (hnames : ∀ file ∈ files, ∀ n, (Path.ofString file.name).steps.head? ≠ some (stagingName n)) :
    batch.Prepared staged.files := by
  obtain ⟨n, harea⟩ : ∃ n, batch.area = target.address ++ [stagingName n] := by
    obtain ⟨a, used, -, -, hfresh, -⟩ := run_start_ok hstart
    refine ⟨World.freshStaging used world.nextStaging, ?_⟩
    rw [area, staged_of_stageAll hstage, hfresh]
    exact address_child (World.isIdle_stagingName _) (World.stagingName_ne_short ".." (by decide) _)
  refine prepared_of_run hstart hstage hfiles hord fun file hfile hpre => ?_
  rw [harea, spot_eq (hord file hfile), target_of_run hstart hstage, List.prefix_append_right_inj]
    at hpre
  obtain ⟨rest, hrest⟩ := hpre
  apply hnames file hfile n
  rw [← hrest]
  rfl

end

/-- A batch that was written has followed its course to the end. -/
theorem Prepared.traced_of_commit (h : batch.Prepared staged.files)
    (hcommit : staged.run batch.commit = (.ok summary, after)) :
    (batch.course staged.files).failed = none ∧
      batch.Traced staged.files after.files (batch.course staged.files).taken none ∧
      ∀ r, after.files.kindAt? (batch.area ++ r) = none := by
  obtain ⟨result, last, hgives, hended, hgone⟩ := h.commit
  rw [World.Gives, hcommit] at hgives
  obtain ⟨rfl, rfl⟩ := Prod.mk.inj hgives
  obtain ⟨cause, hresult⟩ := hended.result
  have hnone := (Course.result_eq_ok.mp hresult.symm).1
  have htraced := hended.traced
  rw [Course.stays, Course.hollow, hnone] at htraced
  exact ⟨hnone, htraced, hgone⟩

/-- A batch that was written has each file that it had to write at its place, with its content. -/
theorem fileAt?_of_commit (hstart : world.run (Batch.start target) = (.ok fresh, started))
    (hstage : started.run (fresh.stageAll files) = ((batch, .ok ()), staged))
    (hcommit : staged.run batch.commit = (.ok summary, after)) (hfiles : files ≠ [])
    (hord : ∀ file ∈ files, (Path.ofString file.name).IsOrdinary)
    (hdistinct : (files.map fun file => (Path.ofString file.name).steps).Nodup)
    (hnames : ∀ file ∈ files, ∀ n, (Path.ofString file.name).steps.head? ≠ some (stagingName n)) :
    after.files.Paved target ∧ ∀ file ∈ files, file.policy = .always →
      after.files.fileAt? (target.address ++ (Path.ofString file.name).steps) =
        some file.content.toUTF8 := by
  have hroot := isDirectory_nil_of_run hstart hstage hfiles hord
  have hfilling := filling_of_start hroot hstart
  have hready := (fileAt?_of_stageAll hfilling.paved.start hord hdistinct hstage).1
  have hstaged := staged_of_stageAll hstage
  have htarget := target_of_run hstart hstage
  have hareas : ∀ q, batch.readyAt q = fresh.readyAt q := by
    intro q
    rw [hstaged]
    rfl
  obtain ⟨hnone, htraced, -⟩ :=
    (prepared_of_names hstart hstage hfiles hord hnames).traced_of_commit hcommit
  refine ⟨htarget ▸ htraced.paved, fun file hfile halways => ?_⟩
  have hmem : (⟨.ofString file.name, file.policy⟩ : Staged) ∈ batch.staged := by
    rw [hstaged]
    exact List.mem_append_right _ (List.mem_map.mpr ⟨file, hfile, rfl⟩)
  have htaken : Path.ofString file.name ∈ (batch.course staged.files).taken :=
    mem_courseFrom_of_always hmem halways hnone
  have hplace := htraced.place _ htaken []
  rw [List.append_nil, List.append_nil, spot_eq (hord file hfile), htarget, hareas] at hplace
  rw [Node.fileAt?, hplace]
  exact hready file hfile

end Batch

end TypedClient.Files
