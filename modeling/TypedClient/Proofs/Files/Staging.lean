import TypedClient.Proofs.Files.Run
import TypedClient.Proofs.Files.Traced
import Mathlib.Data.List.Nodup
import Mathlib.Data.List.Perm.Subperm

/-!
# Staging files

A batch starts with a new directory in its target and writes its files there. `Batch.Filling` holds of
the batch and the tree when it has started and after each file it has staged; a batch that has staged
files outside its own directory is prepared (`Batch.Filling.prepared`).
-/

namespace TypedClient

open Files

namespace World

/-! ## New names -/

/-- No two numbers give one name. -/
theorem stagingName_injective : Function.Injective stagingName := by
  intro m n h
  have hlists := congrArg String.toList h
  simp only [stagingName, String.toList_append, List.append_cancel_left_eq] at hlists
  have hdigits : Nat.toDigits 10 m = Nat.toDigits 10 n := by
    simpa only [Nat.toString_eq_repr, Nat.toList_repr] using hlists
  simpa using congrArg (fun digits => Nat.ofDigitChars 10 digits 0) hdigits

/-- One more candidate than there are used names is enough to find one that is not used. -/
theorem freshStaging_not_mem (used : List String) (n : Nat) :
    stagingName (freshStaging used n) ∉ used := by
  unfold freshStaging
  split
  next k hk => simpa using List.find?_some hk
  next hk =>
    intro hlast
    -- otherwise all candidates are used, and they are more than the used names
    rw [List.find?_eq_none] at hk
    have hall : (List.range (used.length + 1)).map (fun k => stagingName (n + k)) ⊆ used := by
      intro name hname
      obtain ⟨k, hmem, rfl⟩ := List.mem_map.mp hname
      rcases Nat.lt_or_eq_of_le (Nat.lt_succ_iff.mp (List.mem_range.mp hmem)) with hlt | rfl
      · simpa using hk k (List.mem_range.mpr hlt)
      · exact hlast
    have hnodup : ((List.range (used.length + 1)).map fun k => stagingName (n + k)).Nodup := by
      refine List.Nodup.map (fun i j hij => ?_) List.nodup_range
      exact Nat.add_left_cancel (stagingName_injective hij)
    have hlength := (hnodup.subperm hall).length_le
    rw [List.length_map, List.length_range] at hlength
    omega

/-- No short name is that of a staging directory. -/
theorem stagingName_ne_short (short : String) (h : short.length < 13) (n : Nat) :
    stagingName n ≠ short := by
  rintro rfl
  rw [stagingName, String.length_append] at h
  exact absurd h (Nat.not_lt.mpr (Nat.le_add_right 13 _))

/-- Its name is no idle step. -/
theorem isIdle_stagingName (n : Nat) : Path.isIdle (stagingName n) = false := by
  simp [Path.isIdle, stagingName_ne_short "" (by decide), stagingName_ne_short "." (by decide)]

theorem run_createStaging (world : World) (path : Path) :
    world.run (Store.createStaging path) = createStaging path world :=
  rfl

end World

namespace Files

namespace Node

variable {root : Node} {path : Path} {a : Address}

/-! ## Directories and what is in them -/

/-- What a path finds is at its address. -/
theorem find_eq_ok {node : Node} (h : root.find path = .ok (a, node)) :
    root.locate path = .ok a ∧ root.get? a = some node := by
  cases hl : root.locate path with
  | error fault => simp [find, hl, bind, Except.bind] at h
  | ok b =>
    rcases hnode : root.get? b with _ | content | entries
    · simp [find, hl, hnode, bind, Except.bind, throw, throwThe, MonadExceptOf.throw] at h
    · cases hd : path.demandsDirectory <;>
        simp [find, hl, hnode, hd, bind, Except.bind, pure, Except.pure, throw, throwThe,
          MonadExceptOf.throw] at h
      obtain ⟨rfl, rfl⟩ := h
      exact ⟨rfl, hnode⟩
    · simp [find, hl, hnode, bind, Except.bind, pure, Except.pure] at h
      obtain ⟨rfl, rfl⟩ := h
      exact ⟨rfl, hnode⟩

/-- Nothing is in a directory under a name that it does not have. -/
theorem kindAt?_of_not_mem_names {node : Node} {name : String} (h : root.get? a = some node)
    (hname : name ∉ node.names) : root.kindAt? (a ++ [name]) = none := by
  rw [← get?_eq_none_iff, get?_append, h]
  cases node with
  | file content => rfl
  | directory entries =>
    have hlookup : entries.lookup name = none := by
      refine List.lookup_eq_none_iff.mpr fun entry hentry => bne_iff_ne.mpr ?_
      rintro rfl
      exact hname (List.mem_map_of_mem hentry)
    simp [get?, hlookup]

/-- What the names in a directory say about the tree. -/
theorem directory_eq_ok {used : List String} (h : World.directory root path = .ok (a, used)) :
    a = path.address ∧ (root.IsDirectory [] → root.Paved path) ∧
      ∀ name, name ∉ used → root.kindAt? (a ++ [name]) = none := by
  rw [World.directory] at h
  split at h
  next hempty =>
    have hsteps : path.steps = [] := by
      by_contra hne
      simp [Path.isEmpty_eq_false_of_steps hne] at hempty
    obtain ⟨rfl, rfl⟩ : [] = a ∧ root.names = used := by simpa using h
    have htrail : path.trail = [] := by rw [Path.trail, hsteps, trail]
    refine ⟨by simp [Path.address, hsteps, walk], fun hroot => ⟨hroot, by simp [htrail]⟩,
      fun name => kindAt?_of_not_mem_names (get?_nil root)⟩
  next =>
    split at h
    next => simp at h
    next => simp at h
    next b node hnot hfind =>
      obtain ⟨rfl, rfl⟩ : b = a ∧ node.names = used := by simpa using h
      obtain ⟨hlocate, hnode⟩ := find_eq_ok hfind
      obtain ⟨-, haddress, hparent⟩ := locate_eq_ok_iff.mp hlocate
      refine ⟨haddress, fun hroot => ⟨hroot, fun v hv => ?_⟩,
        fun name => kindAt?_of_not_mem_names hnode⟩
      have hsteps : path.steps ≠ [] := by
        intro hnil
        simp [Path.trail, hnil, Files.trail] at hv
      rcases Path.mem_trail_parent_or_eq hv with hv | rfl
      · exact (hparent hsteps).trail v hv
      · cases node with
        | file content => exact (hnot content rfl).elim
        | directory entries => exact haddress ▸ isDirectory_of_get? hnode

/-! ## The root of a tree -/

theorem isDirectory_nil_iff : root.IsDirectory [] ↔ root.kind = .directory := by
  simp [IsDirectory, kindAt?]

/-- Making directories does not change what the root is. -/
theorem kind_ensure (root : Node) (there : Bool) (here : Address) (steps : List String) :
    (root.ensure there here steps).2.kind = root.kind := by
  induction steps generalizing root here with
  | nil => rfl
  | cons step rest ih =>
    rw [ensure]
    split
    · exact ih _ _
    · split
      · exact ih _ _
      · rfl
      · split
        · rfl
        · exact (ih _ _).trans (kind_put (by simp) root empty)

/-- Making directories does not make the root one. -/
theorem isDirectory_nil_of_createDirectories (h : (root.createDirectories path).2.IsDirectory []) :
    root.IsDirectory [] := by
  rw [isDirectory_nil_iff] at h ⊢
  rw [← h, createDirectories, kind_ensure]

end Node

namespace Batch

variable {batch fresh : Batch} {root : Node} {target path q : Path} {file : Generated}
  {files : List Generated} {world started staged : World}

theorem steps_stagedPath_ne_nil (hord : path.IsOrdinary) : (batch.stagedPath path).steps ≠ [] := by
  rw [stagedPath, Path.steps_join hord.relative, Path.steps_child rfl]
  simp

/-! ## What was run -/

/-- A batch that was started has a target and a new, empty directory in it. -/
theorem run_start_ok (h : world.run (Batch.start target) = (.ok batch, started)) :
    ∃ a used, (world.files.createDirectories target).1 = .ok () ∧
      World.directory (world.files.createDirectories target).2 target = .ok (a, used) ∧
      batch = ⟨target, target.child (stagingName (World.freshStaging used world.nextStaging)), []⟩ ∧
      started.files = (world.files.createDirectories target).2.put
        (a ++ [stagingName (World.freshStaging used world.nextStaging)]) .empty := by
  rw [start, World.run_bind, World.gives_createDirectories] at h
  cases hmake : (world.files.createDirectories target).1 with
  | error fault =>
    rw [hmake] at h
    cases h
  | ok _ =>
    rw [hmake] at h
    dsimp only at h
    rw [World.run_bind, World.run_createStaging, World.createStaging] at h
    dsimp only at h
    cases hdir : World.directory (world.files.createDirectories target).2 target with
    | error fault =>
      rw [hdir] at h
      cases h
    | ok found =>
      obtain ⟨a, used⟩ := found
      rw [hdir] at h
      cases h
      exact ⟨a, used, rfl, rfl, rfl, rfl⟩

/-- A file is staged if the directories over it can be made and it can be written there. -/
theorem gives_stage {made : Node}
    (hmake : (world.files.createDirectories (batch.stagedPath (.ofString file.name)).parent).1 = .ok ())
    (hwrite : (world.files.createDirectories (batch.stagedPath (.ofString file.name)).parent).2.writeFile
      (batch.stagedPath (.ofString file.name)) file.content.toUTF8 = .ok made) :
    world.Gives (batch.stage file)
      (.ok { batch with staged := batch.staged ++ [⟨.ofString file.name, file.policy⟩] }) made :=
  (World.gives_writeWithParents hmake hwrite).bind (World.gives_pure _)

/-- If it cannot be written, the batch stays as it was. -/
theorem gives_stage_error {made : Node} {fault : Fault}
    (hwrite : world.Gives (writeWithParents (batch.stagedPath (.ofString file.name)) file.content)
      (.error fault) made) :
    world.Gives (batch.stage file) (.error (.stage (.ofString file.name) fault)) made :=
  hwrite.bind (World.gives_pure _)

/-- A file is staged, or its directories are left without it. -/
theorem stage_cases (world : World) (batch : Batch) (file : Generated) :
    (∃ made, (world.files.createDirectories (batch.stagedPath (.ofString file.name)).parent).1 = .ok () ∧
      (world.files.createDirectories (batch.stagedPath (.ofString file.name)).parent).2.writeFile
        (batch.stagedPath (.ofString file.name)) file.content.toUTF8 = .ok made ∧
      world.Gives (batch.stage file)
        (.ok { batch with staged := batch.staged ++ [⟨.ofString file.name, file.policy⟩] }) made) ∨
    ∃ fault, world.Gives (batch.stage file) (.error fault)
      (world.files.createDirectories (batch.stagedPath (.ofString file.name)).parent).2 := by
  cases hmake :
      (world.files.createDirectories (batch.stagedPath (.ofString file.name)).parent).1 with
  | error fault =>
    exact .inr ⟨_, gives_stage_error (World.gives_writeWithParents_blocked hmake)⟩
  | ok _ =>
    cases hwrite :
        (world.files.createDirectories (batch.stagedPath (.ofString file.name)).parent).2.writeFile
          (batch.stagedPath (.ofString file.name)) file.content.toUTF8 with
    | error fault =>
      exact .inr ⟨_, gives_stage_error (World.gives_writeWithParents_error hmake hwrite)⟩
    | ok made => exact .inl ⟨made, rfl, rfl, gives_stage hmake hwrite⟩

/-- A file that was staged was written below the staging directory. -/
theorem run_stage_ok {next : Batch} (h : world.run (batch.stage file) = (.ok next, staged)) :
    (world.files.createDirectories (batch.stagedPath (.ofString file.name)).parent).1 = .ok () ∧
      (world.files.createDirectories (batch.stagedPath (.ofString file.name)).parent).2.writeFile
        (batch.stagedPath (.ofString file.name)) file.content.toUTF8 = .ok staged.files ∧
      next = { batch with staged := batch.staged ++ [⟨.ofString file.name, file.policy⟩] } := by
  obtain ⟨made, hmake, hwrite, hgives⟩ | ⟨fault, hgives⟩ := stage_cases world batch file
  · cases hgives.symm.trans h
    exact ⟨hmake, hwrite, rfl⟩
  · cases hgives.symm.trans h

/-- A file that is not staged leaves some directories for it. -/
theorem run_stage_error {fault : BatchFault} (h : world.run (batch.stage file) = (.error fault, staged)) :
    staged.files = (world.files.createDirectories (batch.stagedPath (.ofString file.name)).parent).2 := by
  obtain ⟨made, hmake, hwrite, hgives⟩ | ⟨fault, hgives⟩ := stage_cases world batch file
  · cases hgives.symm.trans h
  · cases hgives.symm.trans h
    dsimp only

/-- Several files are staged one after the other. -/
theorem run_stageAll_cons {last : Batch}
    (h : world.run (batch.stageAll (file :: files)) = ((last, .ok ()), staged)) :
    ∃ next between, world.run (batch.stage file) = (.ok next, between) ∧
      between.run (next.stageAll files) = ((last, .ok ()), staged) := by
  rw [stageAll, World.run_bind] at h
  cases hstage : world.run (batch.stage file) with
  | mk result between =>
    rw [hstage] at h
    cases result with
    | error fault => simp [World.run_pure] at h
    | ok next => exact ⟨next, between, rfl, h⟩

/-! ## A batch that stages files -/

/-- A batch and the tree in which it stages files: those staged so far are there. -/
structure Filling (batch : Batch) (root : Node) : Prop extends Housed batch where
  paved : root.Paved batch.target
  area : root.IsDirectory batch.area
  unused : root.kindAt? (batch.area ++ ["backup"]) = none
  ordinary : ∀ path ∈ batch.paths, path.IsOrdinary
  file : ∀ path ∈ batch.paths, path.demandsDirectory = false
  proper : ∀ path ∈ batch.paths, path.steps ≠ []
  ready : ∀ path ∈ batch.paths, ∃ content, root.kindAt? (batch.readyAt path) = some (.file content)

/-- A batch that has staged files outside its own directory is prepared. None of them is on the way to
another one, for then it would be a directory where it is staged. -/
theorem Filling.prepared (h : batch.Filling root)
    (houtside : ∀ path ∈ batch.paths, ¬ batch.area <+: batch.spot path) : batch.Prepared root where
  staging := h.staging
  separate := h.separate
  ordinary := h.ordinary
  proper := h.proper
  file := h.file
  outside := houtside
  antichain p hp q hq hpre := by
    by_contra hne
    obtain ⟨content, hfile⟩ := h.ready p hp
    obtain ⟨own, hown⟩ := h.ready q hq
    rw [readyAt_eq (h.ordinary p hp)] at hfile
    rw [readyAt_eq (h.ordinary q hq)] at hown
    have hbelow : batch.area ++ "staged" :: p.steps <+: batch.area ++ "staged" :: q.steps := by
      simpa using hpre
    have hthere : root.kindAt? (batch.area ++ "staged" :: q.steps) ≠ none := by simp [hown]
    exact Node.not_isDirectory_of_file hfile
      (Node.isDirectory_above hbelow (by simpa using hne) hthere)
  paved := h.paved
  ready := h.ready
  unused := h.unused

/-- Starting a batch does not make the root a directory. -/
theorem isDirectory_nil_of_start (h : world.run (Batch.start target) = (.ok batch, started))
    (hstarted : started.files.IsDirectory []) : world.files.IsDirectory [] := by
  obtain ⟨_, _, -, -, -, hput⟩ := run_start_ok h
  have hmade : (world.files.createDirectories target).2.IsDirectory [] := by
    rw [Node.isDirectory_nil_iff] at hstarted ⊢
    rw [← hstarted, hput, Node.kind_put (by simp)]
  exact Node.isDirectory_nil_of_createDirectories hmade

/-- A batch that was started has an empty staging directory. -/
theorem filling_of_start (hroot : world.files.IsDirectory [])
    (h : world.run (Batch.start target) = (.ok batch, started)) : batch.Filling started.files := by
  obtain ⟨a, used, hmake, hdir, rfl, hfiles⟩ := run_start_ok h
  obtain ⟨haddress, hpave, hnames⟩ := Node.directory_eq_ok hdir
  have hmade := Node.createDirectories_extends hroot target
  generalize (world.files.createDirectories target).2 = made at *
  have hpaved := hpave (hmade.isDirectory hroot)
  have hmissing := hnames _ (World.freshStaging_not_mem used world.nextStaging)
  generalize hname : stagingName (World.freshStaging used world.nextStaging) = name at *
  have hidle : Path.isIdle name = false := hname ▸ World.isIdle_stagingName _
  have hdots : name ≠ ".." := hname ▸ World.stagingName_ne_short ".." (by decide) _
  have harea : Batch.area ⟨target, target.child name, []⟩ = target.address ++ [name] :=
    address_child hidle hdots
  rw [haddress] at hfiles hmissing
  have hparent : target.address ++ [name] = [] ∨
      made.IsDirectory (target.address ++ [name]).dropLast := by
    rw [List.dropLast_concat]
    exact .inr hpaved.address
  -- nothing is below a name that is not used
  have hseparate : ∀ {v}, made.IsDirectory v → ¬ target.address ++ [name] <+: v := by
    rintro v hv ⟨r, rfl⟩
    exact hv.ne_none (Node.kindAt?_below_missing hmissing)
  have hkeep : ∀ {v}, made.IsDirectory v → started.files.IsDirectory v := by
    intro v hv
    rw [Node.IsDirectory, hfiles, Node.kindAt?_put_elsewhere (hseparate hv)]
    exact hv
  refine {
    staging := ⟨name, hidle, hdots, rfl⟩
    separate := fun v hv => harea ▸ hseparate (hpaved.trail v hv)
    paved := ⟨hkeep hpaved.start, fun v hv => hkeep (hpaved.trail v hv)⟩
    area := ?_
    unused := ?_
    ordinary := by simp [paths]
    file := by simp [paths]
    proper := by simp [paths]
    ready := by simp [paths] }
  · rw [harea, Node.IsDirectory, hfiles, Node.kindAt?_put_self _ hparent]
    rfl
  · rw [harea, hfiles, Node.kindAt?_put_append _ _ hparent]
    rfl

namespace Filling

/-- What is on the way to a staged file is on the way to the target or in the staging directory. -/
theorem mem_trail_stagedPath {root : Node} {v : Address} (h : batch.Filling root) (hord : path.IsOrdinary)
    (hv : v ∈ (batch.stagedPath path).parent.trail) :
    v ∈ batch.target.trail ∨ v = batch.area ∨ ∃ q, v = batch.area ++ "staged" :: q := by
  by_cases hsteps : path.steps = []
  · have hparent : (batch.stagedPath path).parent.trail = batch.staging.trail := by
      rw [Path.trail, Path.steps_parent, stagedPath, Path.steps_join hord.relative, Path.steps_child rfl,
        hsteps, List.append_nil, List.dropLast_concat, Path.trail]
    obtain ⟨name, hidle, hdots, hstaging⟩ := h.staging
    rw [hparent, hstaging, trail_child hidle hdots, List.mem_append, List.mem_singleton] at hv
    refine hv.imp_right fun heq => .inl ?_
    rw [heq, Batch.area, hstaging, address_child hidle hdots]
  · refine ((h.mem_trail_stored rfl (by decide) hord hsteps).mp hv).imp_right (Or.imp_right ?_)
    rintro ⟨q, -, -, rfl⟩
    exact ⟨q, rfl⟩

/-- The directories that are made for a staged file are in the staging directory. -/
theorem kindAt?_made {a : Address} (h : batch.Filling root) (hord : path.IsOrdinary)
    (ha : ∀ q, a ≠ batch.area ++ "staged" :: q) :
    (root.createDirectories (batch.stagedPath path).parent).2.kindAt? a = root.kindAt? a := by
  refine (Node.createDirectories_extends h.paved.start _ a).resolve_right fun hnew => ?_
  rcases h.mem_trail_stagedPath hord hnew.1 with hv | rfl | ⟨q, rfl⟩
  · exact (h.paved.trail a hv).ne_none hnew.2.1
  · exact h.area.ne_none hnew.2.1
  · exact ha q rfl

/-- Directories are made for one more file. -/
theorem createDirectories (h : batch.Filling root) (hord : path.IsOrdinary) :
    batch.Filling (root.createDirectories (batch.stagedPath path).parent).2 := by
  have hmade := Node.createDirectories_extends h.paved.start (batch.stagedPath path).parent
  have hbackup := h.kindAt?_made hord (a := batch.area ++ ["backup"]) (by simp)
  exact {
    staging := h.staging
    separate := h.separate
    paved := hmade.paved h.paved
    area := hmade.isDirectory h.area
    unused := hbackup.trans h.unused
    ordinary := h.ordinary
    file := h.file
    proper := h.proper
    ready := fun path hp => by
      obtain ⟨content, hcontent⟩ := h.ready path hp
      exact ⟨content, (hmade.kindAt?_eq (hcontent ▸ Option.some_ne_none _)).trans hcontent⟩ }

/-- One more file is put where it is staged. -/
theorem put {policy : Policy} {content : ByteArray} (h : batch.Filling root) (hord : path.IsOrdinary)
    (hproper : path.steps ≠ []) (hfile : path.demandsDirectory = false)
    (hparent : root.IsDirectory (batch.readyAt path).dropLast)
    (hfree : ¬ root.IsDirectory (batch.readyAt path)) :
    Filling { batch with staged := batch.staged ++ [⟨path, policy⟩] }
      (root.put (batch.readyAt path) (.file content)) := by
  have hready : batch.readyAt path = batch.area ++ "staged" :: path.steps := readyAt_eq hord
  have hself : (root.put (batch.readyAt path) (.file content)).kindAt? (batch.readyAt path) =
      some (.file content) := Node.kindAt?_put_self _ (.inr hparent)
  have hsame : ∀ {v}, ¬ batch.readyAt path <+: v →
      (root.put (batch.readyAt path) (.file content)).kindAt? v = root.kindAt? v :=
    Node.kindAt?_put_elsewhere
  have hpaths : paths { batch with staged := batch.staged ++ [⟨path, policy⟩] } =
      batch.paths ++ [path] := by
    simp [paths]
  have hbackup : ¬ batch.readyAt path <+: batch.area ++ ["backup"] := by simp [hready]
  refine {
    staging := h.staging
    separate := h.separate
    paved := ⟨(hsame (by simp [hready])).trans h.paved.start,
      fun v hv => (hsame fun hpre => ?_).trans (h.paved.trail v hv)⟩
    area := (hsame fun hpre => ?_).trans h.area
    unused := (hsame hbackup).trans h.unused
    ordinary := ?_
    file := ?_
    proper := ?_
    ready := ?_ }
  · exact h.separate v hv ((area_prefix_readyAt hord).trans hpre)
  · change batch.readyAt path <+: batch.area at hpre
    rw [hready] at hpre
    exact not_below_self hpre
  · rw [hpaths, List.forall_mem_append]
    exact ⟨h.ordinary, by simpa using hord⟩
  · rw [hpaths, List.forall_mem_append]
    exact ⟨h.file, by simpa using hfile⟩
  · rw [hpaths, List.forall_mem_append]
    exact ⟨h.proper, by simpa using hproper⟩
  · rw [hpaths, List.forall_mem_append]
    refine ⟨fun q hq => ?_, by simpa using ⟨_, hself⟩⟩
    obtain ⟨own, hown⟩ := h.ready q hq
    change ∃ content, Node.kindAt? _ (batch.readyAt q) = some (.file content)
    -- a file staged before is written over if it has the same steps
    by_cases heq : batch.readyAt path = batch.readyAt q
    · exact ⟨content, heq ▸ hself⟩
    · refine ⟨own, (hsame fun hpre => ?_).trans hown⟩
      exact hfree (Node.isDirectory_above hpre heq (by simp [hown]))

/-- One more file is staged. -/
theorem stage {next : Batch} (h : batch.Filling world.files)
    (hord : (Path.ofString file.name).IsOrdinary)
    (hrun : world.run (batch.stage file) = (.ok next, staged)) : next.Filling staged.files := by
  obtain ⟨hmake, hwrite, rfl⟩ := run_stage_ok hrun
  have hsegments := Path.segments_ofString_ne_nil file.name
  have hway := Node.paved_of_createDirectories h.paved.start hmake
  obtain ⟨hfree, hdemands, hfiles⟩ :=
    (Node.writeFile_eq_ok_iff (Node.locate_of_paved (steps_stagedPath_ne_nil hord) hway)).mp hwrite
  rw [stagedPath, Path.demandsDirectory_join hord.relative hsegments] at hdemands
  have hproper := Path.steps_ne_nil_of_file hsegments hdemands
  have hparent := hway.address
  rw [stagedPath, Node.address_parent_join hord hproper] at hparent
  rw [hfiles]
  exact (h.createDirectories hord).put hord hproper hdemands hparent hfree

/-- What has been staged when all files have been. -/
theorem stageAll {last : Batch} (h : batch.Filling world.files)
    (hord : ∀ file ∈ files, (Path.ofString file.name).IsOrdinary)
    (hrun : world.run (batch.stageAll files) = ((last, .ok ()), staged)) :
    last.Filling staged.files := by
  induction files generalizing world batch with
  | nil =>
    cases hrun
    exact h
  | cons file rest ih =>
    obtain ⟨next, between, hfirst, hrest⟩ := run_stageAll_cons hrun
    obtain ⟨hown, hord⟩ := List.forall_mem_cons.mp hord
    exact ih (h.stage hown hfirst) hord hrest

end Filling

/-- A batch lists its files in the order in which they were staged. -/
theorem staged_of_stageAll {last : Batch}
    (hrun : world.run (batch.stageAll files) = ((last, .ok ()), staged)) :
    last = { batch with
      staged := batch.staged ++ files.map fun file => ⟨.ofString file.name, file.policy⟩ } := by
  induction files generalizing world batch with
  | nil =>
    cases hrun
    simp
  | cons file rest ih =>
    obtain ⟨next, between, hfirst, hrest⟩ := run_stageAll_cons hrun
    obtain ⟨-, -, rfl⟩ := run_stage_ok hfirst
    rw [ih hrest]
    simp

section

variable (hstart : world.run (Batch.start target) = (.ok fresh, started))
  (hstage : started.run (fresh.stageAll files) = ((batch, .ok ()), staged))

include hstart hstage

/-- The staged files of a batch are those that it was to stage. -/
theorem paths_of_run : batch.paths = files.map fun file => Path.ofString file.name := by
  obtain ⟨_, _, _, _, rfl, _⟩ := run_start_ok hstart
  rw [staged_of_stageAll hstage]
  simp [paths]

/-- A file is staged only in a tree whose root is a directory. -/
theorem isDirectory_nil_of_run (hfiles : files ≠ [])
    (hord : ∀ file ∈ files, (Path.ofString file.name).IsOrdinary) : world.files.IsDirectory [] := by
  obtain ⟨file, rest, rfl⟩ := List.exists_cons_of_ne_nil hfiles
  obtain ⟨next, between, hfirst, -⟩ := run_stageAll_cons hstage
  obtain ⟨-, hwrite, -⟩ := run_stage_ok hfirst
  have hstarted := Node.isDirectory_nil_of_createDirectories (Node.isDirectory_nil_of_writeFile
    (steps_stagedPath_ne_nil (hord file List.mem_cons_self)) hwrite)
  exact isDirectory_nil_of_start hstart hstarted

/-- A batch that was started in a directory and has staged files outside its staging directory is
prepared. -/
theorem prepared_of_root (hroot : world.files.IsDirectory [])
    (hord : ∀ file ∈ files, (Path.ofString file.name).IsOrdinary)
    (houtside : ∀ file ∈ files, ¬ batch.area <+: batch.spot (.ofString file.name)) :
    batch.Prepared staged.files := by
  refine ((filling_of_start hroot hstart).stageAll hord hstage).prepared fun path hp => ?_
  rw [paths_of_run hstart hstage, List.mem_map] at hp
  obtain ⟨file, hfile, rfl⟩ := hp
  exact houtside file hfile

/-- A batch that has staged a file was started in a directory. -/
theorem prepared_of_run (hfiles : files ≠ [])
    (hord : ∀ file ∈ files, (Path.ofString file.name).IsOrdinary)
    (houtside : ∀ file ∈ files, ¬ batch.area <+: batch.spot (.ofString file.name)) :
    batch.Prepared staged.files :=
  prepared_of_root hstart hstage (isDirectory_nil_of_run hstart hstage hfiles hord) hord houtside

end

end Batch

end Files

end TypedClient
