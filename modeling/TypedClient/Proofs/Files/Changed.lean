import TypedClient.Proofs.Files.Written

/-!
# What a batch leaves alone

Writing changes a tree at some places and below them, and makes directories on some ways; all else is as
before (`Node.Changed`). What a path names is the same afterwards if it visits none of the places
(`Node.Changed.readText`). The places of a batch that was written are those of its files, less the files
that were to be left alone (`Batch.changed_of_commit`).
-/

namespace TypedClient.Files

/-! ## Above the way of a path -/

/-- What lies over the end of a step lies over its start, or is its end. -/
theorem prefix_takeStep {here p : Address} {step : String} (h : p <+: takeStep here step) :
    p <+: here ∨ p = takeStep here step := by
  rw [takeStep] at h ⊢
  split at h
  · exact .inl (h.trans (List.dropLast_prefix here))
  next hstep =>
    rw [if_neg hstep]
    exact (List.prefix_concat_iff.mp h).symm

/-- Steps visit what is above an address that they visit, or start below it. -/
theorem mem_trail_of_prefix {here v p : Address} {steps : List String} (hv : v ∈ trail here steps)
    (hp : p <+: v) : p <+: here ∨ p ∈ trail here steps := by
  induction steps generalizing here with
  | nil => exact absurd hv List.not_mem_nil
  | cons step rest ih =>
    have hnext : p <+: takeStep here step → p <+: here ∨ p ∈ trail here (step :: rest) := by
      intro hpre
      refine (prefix_takeStep hpre).imp_right ?_
      rintro rfl
      exact List.mem_cons_self
    rcases List.mem_cons.mp hv with rfl | hv
    · exact hnext hp
    · rcases ih hv with hpre | hmem
      · exact hnext hpre
      · exact .inr (List.mem_cons_of_mem _ hmem)

namespace Node

variable {root before middle after : Node} {path : Path} {a : Address} {places ways : List Address}

/-! ## What a path names -/

/-- The trees are the same at all addresses that a path visits, apart from what directories hold. -/
structure Agree (before after : Node) (path : Path) : Prop where
  start : after.kindAt? [] = before.kindAt? []
  trail : ∀ v ∈ path.trail, after.kindAt? v = before.kindAt? v

/-- Steps lead to the same address if all on the way is of the same kind. -/
theorem follow_congr {here : Address} {steps : List String}
    (hhere : after.kindAt? here = before.kindAt? here)
    (htrail : ∀ v ∈ Files.trail here steps, after.kindAt? v = before.kindAt? v) :
    after.follow here steps = before.follow here steps := by
  induction steps generalizing here with
  | nil => rfl
  | cons step rest ih =>
    obtain ⟨hstep, hrest⟩ := List.forall_mem_cons.mp htrail
    have hnext : after.follow (takeStep here step) rest = before.follow (takeStep here step) rest :=
      ih hstep hrest
    rw [follow, follow]
    rcases hb : before.get? here with _ | content | entries <;>
      rcases ha : after.get? here with _ | own | others <;>
      simp [kindAt?, hb, ha, kind] at hhere ⊢
    exact hnext

/-- The node that a path names is the same where the trees agree, apart from what directories hold. -/
theorem Agree.find_congr (h : Agree before after path) :
    (after.find path).map (fun found => (found.1, found.2.kind)) =
      (before.find path).map fun found => (found.1, found.2.kind) := by
  have hlocate : after.locate path = before.locate path := by
    rw [locate, locate, follow_congr h.start h.trail]
  cases hpath : before.locate path with
  | error fault =>
    rw [hpath] at hlocate
    simp [find, hlocate, hpath, bind, Except.bind, Except.map]
  | ok a =>
    rw [hpath] at hlocate
    have hsame : after.kindAt? a = before.kindAt? a := by
      obtain ⟨-, rfl, -⟩ := locate_eq_ok_iff.mp hpath
      by_cases hsteps : path.steps = []
      · rw [Path.address, hsteps]
        exact h.start
      · exact h.trail _ (walk_mem_trail hsteps)
    rcases hb : before.get? a with _ | content | entries <;>
      rcases ha : after.get? a with _ | own | others <;>
      simp [kindAt?, hb, ha, kind] at hsame
    all_goals simp only [find, hlocate, hpath, hb, ha, bind, Except.bind]
    · rw [hsame]
    · rfl

theorem Agree.hasPath (h : Agree before after path) : after.hasPath path = before.hasPath path := by
  have hfind := h.find_congr
  rw [Node.hasPath, Node.hasPath]
  cases hb : before.find path <;> cases ha : after.find path <;> simp [hb, ha, Except.map] at hfind ⊢

theorem Agree.readText (h : Agree before after path) : after.readText path = before.readText path := by
  have hfind := h.find_congr
  rw [Node.readText, Node.readText]
  rcases hb : before.find path with fault | ⟨a, content | entries⟩ <;>
    rcases ha : after.find path with fault' | ⟨b, content' | entries'⟩ <;>
    simp [hb, ha, Except.map, kind] at hfind
  · rw [hfind]
  · rw [hfind.2]
    rfl
  · rfl

/-- Over a paved way a path finds a directory. -/
theorem Paved.find (h : root.Paved path) (hne : path.isEmpty = false) :
    ∃ entries, root.find path = .ok (path.address, .directory entries) := by
  have hlocate : root.locate path = .ok path.address :=
    locate_eq_ok_iff.mpr ⟨hne, rfl, fun _ => h.parent⟩
  obtain ⟨entries, hnode⟩ := h.address.exists_entries
  exact ⟨entries, by simp [Node.find, hlocate, hnode, bind, Except.bind, pure, Except.pure]⟩

theorem Paved.hasPath (h : root.Paved path) (hne : path.isEmpty = false) : root.hasPath path := by
  obtain ⟨entries, hfind⟩ := h.find hne
  rw [Node.hasPath, hfind]

/-- A directory cannot be read. -/
theorem Paved.readText (h : root.Paved path) (hne : path.isEmpty = false) :
    root.readText path = .error .isDirectory := by
  obtain ⟨entries, hfind⟩ := h.find hne
  rw [Node.readText, hfind]
  rfl

/-- A path to a text visits only what is there. -/
theorem ne_none_of_readText {text : String} (h : root.readText path = .ok text) :
    ∀ v ∈ path.trail, root.kindAt? v ≠ none := by
  obtain ⟨content, hcontent, -⟩ := fileAt?_of_readText h
  intro v hv
  rcases Path.mem_trail_parent_or_eq hv with hv | rfl
  · rw [Node.readText] at h
    cases hfind : root.find path with
    | error fault => simp [hfind, bind, Except.bind] at h
    | ok found =>
      obtain ⟨a, node⟩ := found
      obtain ⟨-, -, hparent⟩ := locate_eq_ok_iff.mp (find_eq_ok hfind).1
      have hsteps : path.steps ≠ [] := by
        intro hnil
        rw [Path.trail, Path.steps_parent, hnil] at hv
        exact absurd hv List.not_mem_nil
      exact ((hparent hsteps).trail v hv).ne_none
  · rw [fileAt?_eq_some.mp hcontent]
    exact Option.some_ne_none _

/-! ## Changes -/

/-- The second tree is the first one with changes at some places and below them, and with new directories
on some ways. -/
def Changed (before after : Node) (places ways : List Address) : Prop :=
  ∀ a, (∀ p ∈ places, ¬ p <+: a) →
    after.kindAt? a = before.kindAt? a ∨ a ∈ ways ∧ before.kindAt? a = none ∧ after.IsDirectory a

/-- Where a tree is extended, it changed on ways only. -/
theorem Extended.changed {new : List Address} (h : Extended before after new) :
    Changed before after [] new :=
  fun a _ => h a

namespace Changed

theorem refl (root : Node) (places ways : List Address) : Changed root root places ways :=
  fun _ _ => .inl rfl

/-- A change at some places and on some ways is one at more. -/
theorem mono {places' ways' : List Address} (h : Changed before after places ways)
    (hplaces : ∀ p ∈ places, p ∈ places') (hways : ∀ v ∈ ways, v ∈ ways') :
    Changed before after places' ways' := fun a ha =>
  (h a fun p hp => ha p (hplaces p hp)).imp_right fun hnew => ⟨hways a hnew.1, hnew.2⟩

/-- Changes at the same places and on the same ways add up to such a change. -/
theorem trans (h : Changed before middle places ways) (h' : Changed middle after places ways) :
    Changed before after places ways := by
  intro a ha
  rcases h a ha with hsame | ⟨hmem, hnone, hdir⟩ <;> rcases h' a ha with hsame' | ⟨hmem', hnone', hdir'⟩
  · exact .inl (hsame'.trans hsame)
  · exact .inr ⟨hmem', hsame ▸ hnone', hdir'⟩
  · exact .inr ⟨hmem, hnone, hsame'.trans hdir⟩
  · exact .inr ⟨hmem, hnone, hdir'⟩

/-- Two changes add up to one at the places and on the ways of both. -/
theorem append {places' ways' : List Address} (h : Changed before middle places ways)
    (h' : Changed middle after places' ways') :
    Changed before after (places ++ places') (ways ++ ways') :=
  (h.mono (fun _ => List.mem_append_left _) fun _ => List.mem_append_left _).trans
    (h'.mono (fun _ => List.mem_append_right _) fun _ => List.mem_append_right _)

/-- A place at which nothing was before or is afterwards does not count. -/
theorem of_missing (h : Changed before after (a :: places) ways) (hbefore : before.kindAt? a = none)
    (hafter : after.kindAt? a = none) : Changed before after places ways := by
  intro b hb
  by_cases hpre : a <+: b
  · obtain ⟨r, rfl⟩ := hpre
    rw [kindAt?_below_missing hbefore, kindAt?_below_missing hafter]
    exact .inl rfl
  · exact h b (List.forall_mem_cons.mpr ⟨hpre, hb⟩)

section

variable (h : Changed before after places ways) (hroot : [] ∉ places)

include h hroot

theorem start : after.kindAt? [] = before.kindAt? [] := by
  refine (h [] fun p hp hpre => ?_).resolve_right fun hnew => ?_
  · exact hroot (List.prefix_nil.mp hpre ▸ hp)
  · have hthere : before.kindAt? [] = some before.kind := by simp [kindAt?]
    rw [hthere] at hnew
    exact absurd hnew.2.1 (Option.some_ne_none _)

/-- What a path visits is as before if it visits no place, and nothing that is new. -/
theorem agree (hapart : ∀ v ∈ path.trail, v ∉ places)
    (hold : ∀ v ∈ path.trail, v ∈ ways → before.kindAt? v ≠ none) : Agree before after path where
  start := h.start hroot
  trail v hv := by
    refine (h v fun p hp hpre => ?_).resolve_right fun hnew => hold v hv hnew.1 hnew.2.1
    rcases mem_trail_of_prefix hv hpre with hnil | hmem
    · exact hroot (List.prefix_nil.mp hnil ▸ hp)
    · exact hapart p hmem hp

/-- A text is read as before if the path to it visits no place. -/
theorem readText {text : String} (hapart : ∀ v ∈ path.trail, v ∉ places)
    (hread : before.readText path = .ok text) : after.readText path = .ok text := by
  rw [(h.agree hroot hapart fun v hv _ => ne_none_of_readText hread v hv).readText, hread]

end

end Changed

/-- Writing a file changes its place. -/
theorem changed_of_writeFile {content : ByteArray} (h : root.writeFile path content = .ok after) :
    Changed root after [path.address] [] := by
  cases hlocate : root.locate path with
  | error fault => simp [writeFile, hlocate, bind, Except.bind] at h
  | ok a =>
    obtain ⟨-, -, rfl⟩ := (writeFile_eq_ok_iff hlocate).mp h
    obtain ⟨-, rfl, -⟩ := locate_eq_ok_iff.mp hlocate
    exact fun b hb => .inl (kindAt?_put_elsewhere (hb _ List.mem_cons_self))

end Node

/-- The places at which files with these names and rules are written in a directory. -/
def replaced (before : Node) (directory : Address) (files : List (String × Policy)) : List Address :=
  (files.filter fun file => file.2 = .always || (before.kindAt? (directory ++ [file.1])).isNone).map
    fun file => directory ++ [file.1]

namespace Batch

open Node (Changed)

variable {batch fresh next last : Batch} {before after : Node} {target path : Path} {file : Generated}
  {files : List Generated} {summary : Summary} {world started staged finished : World}

/-! ## Batches -/

/-- A batch that is started makes its target and a directory inside it that is new. -/
theorem changed_of_start (hroot : world.files.IsDirectory [])
    (h : world.run (Batch.start target) = (.ok batch, started)) :
    Changed world.files started.files [batch.area] target.trail ∧
      world.files.kindAt? batch.area = none := by
  obtain ⟨a, used, hmake, hdir, rfl, hfiles⟩ := run_start_ok h
  obtain ⟨rfl, -, hnames⟩ := Node.directory_eq_ok hdir
  have hmade := Node.createDirectories_extends hroot target
  have hmissing := hnames _ (World.freshStaging_not_mem used world.nextStaging)
  have harea : Batch.area ⟨target, target.child
      (stagingName (World.freshStaging used world.nextStaging)), []⟩ =
      target.address ++ [stagingName (World.freshStaging used world.nextStaging)] :=
    address_child (World.isIdle_stagingName _) (World.stagingName_ne_short ".." (by decide) _)
  rw [harea, hfiles]
  refine ⟨fun b hb => ?_, ?_⟩
  · rw [Node.IsDirectory, Node.kindAt?_put_elsewhere (hb _ List.mem_cons_self)]
    exact hmade b
  · by_contra hthere
    rw [← hmade.kindAt?_eq hthere] at hthere
    exact hthere hmissing

/-- A file is staged inside the directory of the batch. -/
theorem Filling.changed_of_stage (h : batch.Filling world.files)
    (hord : (Path.ofString file.name).IsOrdinary) (hproper : (Path.ofString file.name).steps ≠ [])
    (hrun : world.run (batch.stage file) = (.ok next, staged)) :
    Changed world.files staged.files [batch.area] [] := by
  obtain ⟨-, hwrite, -⟩ := run_stage_ok hrun
  have hmade := Node.createDirectories_extends h.paved.start
    (batch.stagedPath (.ofString file.name)).parent
  have hwritten := Node.changed_of_writeFile hwrite
  intro a ha
  have harea := ha _ List.mem_cons_self
  have hready : ∀ p ∈ [batch.readyAt (.ofString file.name)], ¬ p <+: a :=
    List.forall_mem_singleton.mpr fun hpre => harea ((area_prefix_readyAt hord).trans hpre)
  rw [(hwritten a hready).resolve_right fun hnew => List.not_mem_nil hnew.1]
  refine .inl ((hmade a).resolve_right fun hnew => ?_)
  -- the way to a staged file is that to the target and then inside the directory of the batch
  rcases (h.mem_trail_stored rfl (by decide) hord hproper).mp hnew.1 with hmem | rfl | ⟨r, -, -, rfl⟩
  · exact (h.paved.trail a hmem).ne_none hnew.2.1
  · exact harea List.prefix_rfl
  · exact harea (List.prefix_append _ _)

/-- Files are staged inside the directory of the batch. -/
theorem Filling.changed_of_stageAll (h : batch.Filling world.files)
    (hord : ∀ file ∈ files, (Path.ofString file.name).IsOrdinary)
    (hproper : ∀ file ∈ files, (Path.ofString file.name).steps ≠ [])
    (hrun : world.run (batch.stageAll files) = ((last, .ok ()), staged)) :
    Changed world.files staged.files [batch.area] [] := by
  induction files generalizing world batch with
  | nil =>
    cases hrun
    exact .refl _ _ _
  | cons file rest ih =>
    obtain ⟨next, between, hfirst, hrest⟩ := run_stageAll_cons hrun
    obtain ⟨hown, hord⟩ := List.forall_mem_cons.mp hord
    obtain ⟨hsteps, hproper⟩ := List.forall_mem_cons.mp hproper
    obtain ⟨-, -, hnext⟩ := run_stage_ok hfirst
    have harea : next.area = batch.area := by
      rw [hnext]
      rfl
    have hlater := ih (h.stage hown hfirst) hord hproper hrest
    rw [harea] at hlater
    exact (h.changed_of_stage hown hsteps hfirst).trans hlater

/-- Files that are written to the target itself need no other directories. -/
theorem Traced.changed {taken : List Path} (ht : batch.Traced before after taken none)
    (hpaved : before.Paved batch.target)
    (hflat : ∀ path ∈ batch.paths, ∃ name, batch.spot path = batch.target.address ++ [name]) :
    Changed before after (batch.area :: taken.map batch.spot) [] := by
  intro a ha
  obtain ⟨harea, htaken⟩ := List.forall_mem_cons.mp ha
  refine .inl ((ht.elsewhere a harea (fun path hpath => htaken _ (List.mem_map_of_mem hpath))
    (by simp)).resolve_right ?_)
  rintro ⟨⟨path, hpath, hpre, hne⟩, hnone, -⟩
  obtain ⟨name, hspot⟩ := hflat path hpath
  rw [hspot] at hpre hne
  -- what is above a place is the target or above it
  rcases List.prefix_concat_iff.mp hpre with heq | habove
  · exact hne heq
  · by_cases heq : a = batch.target.address
    · exact hpaved.address.ne_none (heq ▸ hnone)
    · exact (Node.isDirectory_above habove heq hpaved.address.ne_none).ne_none hnone

section

variable (hstart : world.run (Batch.start target) = (.ok fresh, started))
  (hstage : started.run (fresh.stageAll files) = ((batch, .ok ()), staged))
  (hord : ∀ file ∈ files, (Path.ofString file.name).IsOrdinary)
  (hnames : ∀ file ∈ files, (Path.ofString file.name).steps = [file.name])

include hstart hstage hord hnames

/-- The places of files with plain names are in the target. -/
theorem spot_of_name (hfile : file ∈ files) :
    batch.spot (.ofString file.name) = target.address ++ [file.name] := by
  rw [spot_eq (hord file hfile), target_of_run hstart hstage, hnames file hfile]

/-- Until it is committed, a batch changes its own directory, which is new, and makes its target. -/
theorem changed_of_staged (hroot : world.files.IsDirectory []) :
    Changed world.files staged.files [batch.area] target.trail ∧
      world.files.kindAt? batch.area = none := by
  have harea : batch.area = fresh.area := by
    rw [staged_of_stageAll hstage]
    rfl
  obtain ⟨hbegun, hmissing⟩ := changed_of_start hroot hstart
  have hfilled := (filling_of_start hroot hstart).changed_of_stageAll hord
    (fun file hfile => hnames file hfile ▸ List.cons_ne_nil _ _) hstage
  rw [harea]
  exact ⟨hbegun.trans (hfilled.mono (fun _ => id) fun _ hv => absurd hv List.not_mem_nil), hmissing⟩

/-- A place that a file of the batch takes is that of a file that was to be replaced, or nothing was
there. -/
theorem mem_replaced_of_taken (hroot : world.files.IsDirectory []) (hprepared : batch.Prepared staged.files)
    (htaken : path ∈ (batch.course staged.files).taken) :
    batch.spot path ∈
      replaced world.files target.address (files.map fun file => (file.name, file.policy)) := by
  obtain ⟨own, hown, rfl, hrule⟩ :=
    (exists_of_mem_courseFrom_taken htaken).resolve_left List.not_mem_nil
  have hlisted : own ∈ files.map fun file => (⟨.ofString file.name, file.policy⟩ : Staged) := by
    obtain ⟨_, _, _, _, rfl, _⟩ := run_start_ok hstart
    rw [staged_of_stageAll hstage] at hown
    exact hown
  obtain ⟨file, hfile, rfl⟩ := List.mem_map.mp hlisted
  have hspot := spot_of_name hstart hstage hord hnames hfile
  dsimp only at hrule ⊢
  have houtside := hprepared.outside (.ofString file.name) (by
    rw [paths_of_run hstart hstage]
    exact List.mem_map.mpr ⟨file, hfile, rfl⟩)
  rw [hspot] at hrule houtside ⊢
  -- what is missing before the commit was missing from the start
  have hmissing : staged.files.kindAt? (target.address ++ [file.name]) = none →
      world.files.kindAt? (target.address ++ [file.name]) = none := by
    intro hnone
    by_contra hthere
    obtain ⟨hready, -⟩ := changed_of_staged hstart hstage hord hnames hroot
    have hsame := (hready _ (List.forall_mem_singleton.mpr houtside)).resolve_right
      fun hnew => hthere hnew.2.1
    exact hthere (hsame.symm.trans hnone)
  refine List.mem_map.mpr ⟨(file.name, file.policy), List.mem_filter.mpr
    ⟨List.mem_map.mpr ⟨file, hfile, rfl⟩, ?_⟩, rfl⟩
  simpa using hrule.imp_right hmissing

/-- A batch of files with plain names changes the places of those that are not left alone, and makes its
target. -/
theorem changed_of_commit (hcommit : staged.run batch.commit = (.ok summary, finished))
    (hfiles : files ≠ []) (hfresh : ∀ file ∈ files, ∀ n, file.name ≠ stagingName n) :
    Changed world.files finished.files
      (replaced world.files target.address (files.map fun file => (file.name, file.policy)))
      target.trail := by
  have hroot := isDirectory_nil_of_run hstart hstage hfiles hord
  have hprepared : batch.Prepared staged.files := by
    refine prepared_of_names hstart hstage hfiles hord fun file hfile n heq => hfresh file hfile n ?_
    rw [hnames file hfile] at heq
    exact Option.some.inj heq
  obtain ⟨-, htraced, hgone⟩ := hprepared.traced_of_commit hcommit
  obtain ⟨hready, hmissing⟩ := changed_of_staged hstart hstage hord hnames hroot
  have hmoved := htraced.changed hprepared.paved fun path hpath => by
    rw [paths_of_run hstart hstage, List.mem_map] at hpath
    obtain ⟨file, hfile, rfl⟩ := hpath
    rw [target_of_run hstart hstage]
    exact ⟨file.name, spot_of_name hstart hstage hord hnames hfile⟩
  have hall : Changed world.files finished.files
      (batch.area :: (batch.course staged.files).taken.map batch.spot) target.trail :=
    (hready.mono (fun p hp => List.mem_singleton.mp hp ▸ List.mem_cons_self) fun _ => id).trans
      (hmoved.mono (fun _ => id) fun _ hv => absurd hv List.not_mem_nil)
  have hafter := hgone []
  rw [List.append_nil] at hafter
  refine (hall.of_missing hmissing hafter).mono (fun p hp => ?_) fun _ => id
  obtain ⟨path, htaken, rfl⟩ := List.mem_map.mp hp
  exact mem_replaced_of_taken hstart hstage hord hnames hroot hprepared htaken

end

end Batch

end TypedClient.Files
