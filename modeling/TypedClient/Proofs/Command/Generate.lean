import TypedClient.Proofs.Command.Steps

/-!
# One run of `generate`

A run of `generate` that ends well shows a plan, finds nothing to do for a document that the cache knows
already, or writes a client (`Command.endsWell_of_generate`). In the first two cases it leaves all files as
they are. In the last one the client for the document that was loaded is in the output directory
afterwards (`Command.Settled`), the document and its record are in the cache, and nothing else has changed
but for new directories (`Command.Written`).
-/

namespace TypedClient.Command

open Files (Address Batch Generated Node Path Store)
open TypeScript (clientFiles unlines)

variable {world after : World} {config : Config} {doc : Document} {options : Generation} {job : Job}
  {output : Path} {files : List Generated} {summary : Files.Summary} {stamp : String}

/-! ## What a run depends on -/

/-- The source of the document. -/
def Generation.source (options : Generation) (config : Config) : String :=
  options.input.getD config.input

/-- The output directory. -/
def Generation.target (options : Generation) (config : Config) : Path :=
  options.output.getD (.ofString config.output)

/-- The text of the module with the operations of a document. -/
def operationsText (config : Config) (doc : Document) (stamp : String) : String :=
  unlines (TypeScript.Module.operations doc.operations stamp config.typesImport)

/-- The cache of a project. -/
def cacheDir (config : Config) : Path :=
  .ofString config.cacheDir

/-- The tree has the operations of a document in a directory, and the record of that document in the
cache. -/
structure Settled (config : Config) (doc : Document) (directory : Address) (files : Node) : Prop where
  operations : ∃ stamp, files.fileAt? (directory ++ ["operations.ts"]) =
    some (operationsText config doc stamp).toUTF8
  record : ∃ record : Cache.Record, record.hash = doc.fingerprint ∧
    files.fileAt? (Cache.recordPath (cacheDir config)).address = some record.render.toUTF8

/-- The work of a run that writes a client for a document. -/
def Generation.toJob (options : Generation) (config : Config) (doc : Document) : Job :=
  ⟨config, options.source config, options.target config, options.force, doc, doc.operations⟩

/-! ## The names of the files -/

/-- The names of the files of a client. -/
def clientNames : List String :=
  ["operations.ts", "errors.ts", "instance.ts", "helpers.ts", "client.ts", "index.ts"]

/-- The names of the files are fixed. -/
theorem map_name_clientFiles (ops : List Operation) (settings : TypeScript.ClientSettings) :
    (clientFiles ops settings).map Generated.name = clientNames :=
  rfl

/-- The names of the files of a client, with what happens to those that are there. -/
def clientRules (force : Bool) : List (String × Files.Policy) :=
  let editable := if force then Files.Policy.always else .ifMissing
  [("operations.ts", .always), ("errors.ts", .always), ("instance.ts", .always), ("helpers.ts", editable),
    ("client.ts", editable), ("index.ts", .always)]

/-- So are their policies, but for the force of a run. -/
theorem map_rule_clientFiles (ops : List Operation) (settings : TypeScript.ClientSettings) :
    ((clientFiles ops settings).map fun file => (file.name, file.policy)) = clientRules settings.force :=
  rfl

/-- The files that the run of a job writes: those of the client, less those that are there and left alone,
and the two of the cache. -/
def Job.places (job : Job) (before : Node) : List Address :=
  Files.replaced before job.output.address (clientRules job.force) ++
    [(Cache.specPath (cacheDir job.config)).address, (Cache.recordPath (cacheDir job.config)).address]

/-- The directories that the run of a job makes, as far as they are missing. -/
def Job.ways (job : Job) : List Address :=
  job.output.trail ++ (cacheDir job.config).trail

/-- Each name is one step. -/
theorem steps_of_mem_clientNames : ∀ name ∈ clientNames,
    (Path.ofString name).isAbsolute = false ∧ (Path.ofString name).steps = [name] := by
  decide +kernel

/-- No file has the name of a staging directory. -/
theorem ne_stagingName_of_mem_clientNames {name : String} (h : name ∈ clientNames) (n : Nat) :
    name ≠ Files.stagingName n := by
  have hfirst : ∀ name ∈ clientNames, name.toList.head? ≠ some '.' := by decide +kernel
  rintro rfl
  apply hfirst _ h
  rw [Files.stagingName, String.toList_append]
  rfl

/-- A place of a job is that of a file with a name, and none of these names is that of the file with the
configuration. -/
theorem Job.exists_name_of_mem_places {before : Node} {p : Address} (h : p ∈ job.places before) :
    ∃ directory name, p = directory ++ [name] ∧ name ≠ Config.fileName := by
  have hrules : ∀ force, ∀ rule ∈ clientRules force, rule.1 ≠ Config.fileName := by decide
  rcases List.mem_append.mp h with hp | hp
  · obtain ⟨rule, hrule, rfl⟩ := List.mem_map.mp hp
    exact ⟨_, _, rfl, hrules job.force rule (List.mem_of_mem_filter hrule)⟩
  · rcases List.mem_cons.mp hp with rfl | hp
    · exact ⟨_, _, Cache.address_specPath _, by decide⟩
    · obtain rfl := List.mem_singleton.mp hp
      exact ⟨_, _, Cache.address_recordPath _, by decide⟩

theorem Job.nil_not_mem_places (job : Job) (before : Node) : [] ∉ job.places before := by
  intro hmem
  obtain ⟨directory, name, heq, -⟩ := exists_name_of_mem_places hmem
  exact List.concat_ne_nil _ _ heq.symm

/-- No job writes the configuration. -/
theorem Job.fileName_not_mem_places (job : Job) (before : Node) :
    [Config.fileName] ∉ job.places before := by
  intro hmem
  obtain ⟨directory, name, heq, hname⟩ := exists_name_of_mem_places hmem
  have hconcat : ([] : Address) ++ [Config.fileName] = directory ++ [name] := heq
  exact hname (List.singleton_inj.mp (List.append_inj' hconcat rfl).2).symm

section

variable {file : Generated} {ops : List Operation} {settings : TypeScript.ClientSettings}

theorem mem_clientNames (h : file ∈ clientFiles ops settings) : file.name ∈ clientNames := by
  rw [← map_name_clientFiles ops settings]
  exact List.mem_map_of_mem h

theorem steps_of_mem_clientFiles (h : file ∈ clientFiles ops settings) :
    (Path.ofString file.name).steps = [file.name] :=
  (steps_of_mem_clientNames _ (mem_clientNames h)).2

/-- The files have ordinary paths. -/
theorem isOrdinary_of_mem_clientFiles (h : file ∈ clientFiles ops settings) :
    (Path.ofString file.name).IsOrdinary := by
  refine ⟨(steps_of_mem_clientNames _ (mem_clientNames h)).1, ?_⟩
  have hup : ∀ name ∈ clientNames, ".." ≠ name := by decide
  rw [steps_of_mem_clientFiles h, List.mem_singleton]
  exact hup _ (mem_clientNames h)

theorem head?_steps_ne_stagingName (h : file ∈ clientFiles ops settings) (n : Nat) :
    (Path.ofString file.name).steps.head? ≠ some (Files.stagingName n) := by
  intro heq
  rw [steps_of_mem_clientFiles h] at heq
  exact ne_stagingName_of_mem_clientNames (mem_clientNames h) n (Option.some.inj heq)

/-- No two files have one place. -/
theorem nodup_steps_clientFiles (ops : List Operation) (settings : TypeScript.ClientSettings) :
    ((clientFiles ops settings).map fun file => (Path.ofString file.name).steps).Nodup := by
  have hall : ((clientFiles ops settings).map fun file => (Path.ofString file.name).steps) =
      clientNames.map fun name => [name] := by
    rw [← map_name_clientFiles ops settings, List.map_map]
    exact List.map_congr_left fun file hfile => steps_of_mem_clientFiles hfile
  rw [hall]
  decide

end

/-! ## Writing -/

/-- What was run when files were written. -/
theorem run_writeFiles_ok (h : world.run (writeFiles output files) = (.ok summary, after)) :
    ∃ fresh started batch staged, world.run (Batch.start output) = (.ok fresh, started) ∧
      World.run started (fresh.stageAll files) = ((batch, .ok ()), staged) ∧
      World.run staged batch.commit = (.ok summary, after) := by
  rw [writeFiles, World.run_bind] at h
  cases hstart : world.run (Batch.start output) with
  | mk result started =>
    rw [hstart] at h
    cases result with
    | error fault => cases h
    | ok fresh =>
      dsimp only at h
      rw [World.run_bind] at h
      cases hstage : World.run started (fresh.stageAll files) with
      | mk result staged =>
        rw [hstage] at h
        obtain ⟨batch, result⟩ := result
        cases result with
        | error fault =>
          dsimp only at h
          rw [World.run_bind, World.run_pure] at h
          cases h
        | ok _ => exact ⟨fresh, started, batch, staged, rfl, hstage, h⟩

section

variable {ops : List Operation} {settings : TypeScript.ClientSettings}
  (h : world.run (writeFiles output (clientFiles ops settings)) = (.ok summary, after))

include h

/-- A client that was written has its operations in the output directory, all of which is there. -/
theorem operations_of_writeFiles :
    after.files.Paved output ∧ after.files.fileAt? (output.address ++ ["operations.ts"]) =
      some (unlines (TypeScript.Module.operations ops settings.stamp settings.typesImport)).toUTF8 := by
  obtain ⟨fresh, started, batch, staged, hstart, hstage, hcommit⟩ := run_writeFiles_ok h
  obtain ⟨hpaved, hfiles⟩ := Batch.fileAt?_of_commit hstart hstage hcommit (List.cons_ne_nil _ _)
    (fun file => isOrdinary_of_mem_clientFiles) (nodup_steps_clientFiles ops settings)
    (fun file => head?_steps_ne_stagingName)
  generalize htext : unlines (TypeScript.Module.operations ops settings.stamp settings.typesImport) = text
  have hfile : (⟨"operations.ts", text, .always⟩ : Generated) ∈ clientFiles ops settings := by
    rw [clientFiles, htext]
    exact List.mem_cons_self
  have hoperations := hfiles _ hfile rfl
  rw [steps_of_mem_clientFiles hfile] at hoperations
  exact ⟨hpaved, hoperations⟩

/-- A client that was written has changed its files alone. -/
theorem changed_of_writeFiles : world.files.Changed after.files
    (Files.replaced world.files output.address (clientRules settings.force)) output.trail := by
  obtain ⟨fresh, started, batch, staged, hstart, hstage, hcommit⟩ := run_writeFiles_ok h
  rw [← map_rule_clientFiles ops settings]
  exact Batch.changed_of_commit hstart hstage (fun file => isOrdinary_of_mem_clientFiles)
    (fun file => steps_of_mem_clientFiles) hcommit (List.cons_ne_nil _ _)
    (fun file hfile => ne_stagingName_of_mem_clientNames (mem_clientNames hfile))

end

theorem concat_ne {a b : Address} {name other : String} (h : name ≠ other) : a ++ [name] ≠ b ++ [other] :=
  fun heq => h (List.singleton_inj.mp (List.append_inj' heq rfl).2)

/-- What a job that ended well has left: its client, and its document with a record in the cache. Nothing
else has changed but for new directories. -/
structure Written (job : Job) (before after : Node) : Prop where
  paved : after.Paved job.output
  settled : Settled job.config job.doc job.output.address after
  stored : ∃ record middle, record.hash = job.doc.fingerprint ∧
    Cache.Stored (cacheDir job.config) job.doc record middle after
  changed : before.Changed after (job.places before) job.ways

/-- A job first writes a client, and then the cache if that ended well. -/
theorem Job.run_cases {finish : Except Stop Unit}
    (h : world.run (job.run : Run (StateM World) Unit).run = (finish, after)) :
    ∃ started tried written stamp, started.files = world.files ∧
      World.run started (writeFiles job.output (job.files stamp)) = (tried, written) ∧
      ((∃ fault, tried = .error fault ∧ finish = .error (.failed (.output fault)) ∧
          after.files = written.files) ∨
        ∃ summary shown kept cached, tried = .ok summary ∧ shown.files = written.files ∧
          World.run shown (Cache.store (cacheDir job.config) job.doc
            ⟨job.doc.fingerprint, stamp, job.input⟩) = (kept, cached) ∧
          after.files = cached.files ∧ finish = kept.mapError fun fault => .failed (.cache fault)) := by
  rw [Job.run, run_lift_bind, run_lift_bind] at h
  have hlog := World.quiet_log (Log.started "generate") world
  generalize (world.run (Host.log (Log.started "generate") : StateM World Unit)).2 = started at h hlog
  have hstarted : started.files = world.files := congrArg Prod.fst hlog
  have hnow : (started.run (Host.now : StateM World String)).2 = started := rfl
  rw [Job.write, World.run_bind, hnow] at h
  generalize (started.run (Host.now : StateM World String)).1 = stamp at h
  rw [World.run_bind] at h
  cases hwrite : started.run (writeFiles job.output (job.files stamp)) with
  | mk tried written =>
    rw [hwrite] at h
    refine ⟨started, tried, written, stamp, hstarted, hwrite, ?_⟩
    cases tried with
    | error fault =>
      obtain ⟨rfl, rfl⟩ := Prod.mk.inj h
      exact .inl ⟨fault, rfl, rfl, rfl⟩
    | ok summary =>
      right
      dsimp only at h
      rw [World.run_bind] at h
      have hshown := (quiet_showSummary job.output summary).leavesFiles written
      generalize (World.run written (showSummary job.output summary)).2 = shown at h hshown
      rw [World.run_bind] at h
      cases hstore : World.run shown (Cache.store (Path.ofString job.config.cacheDir) job.doc
          ⟨job.doc.fingerprint, stamp, job.input⟩) with
      | mk kept cached =>
        rw [hstore] at h
        refine ⟨summary, shown, kept, cached, rfl, hshown, hstore, ?_⟩
        cases kept with
        | error fault =>
          obtain ⟨rfl, rfl⟩ := Prod.mk.inj h
          exact ⟨rfl, rfl⟩
        | ok _ =>
          obtain ⟨rfl, rfl⟩ := Prod.mk.inj h
          exact ⟨rfl, rfl⟩

/-- A job that was run to its end has left its client and its document. -/
theorem written_of_run (h : world.run (job.run : Run (StateM World) Unit).run = (.ok (), after))
    (hops : job.operations = job.doc.operations) : Written job world.files after.files := by
  obtain ⟨started, tried, written, stamp, hstarted, hwrite, hcases⟩ := Job.run_cases h
  rcases hcases with ⟨_, _, hfinish, _⟩ | ⟨summary, shown, kept, cached, rfl, hshown, hstore, hafter, hfinish⟩
  · cases hfinish
  · cases kept with
    | error fault => cases hfinish
    | ok _ =>
      obtain ⟨hpaved, hoperations⟩ := operations_of_writeFiles hwrite
      have hchanged := changed_of_writeFiles hwrite
      rw [← hshown] at hpaved hoperations hchanged
      rw [hstarted] at hchanged
      have hkept := Cache.stored_of_store hstore
      rw [hafter]
      refine ⟨hkept.toKept.paved hpaved, ⟨⟨stamp, ?_⟩, ⟨_, rfl, hkept.record⟩⟩, ⟨_, _, rfl, hkept⟩,
        hchanged.append hkept.changed⟩
      rw [hkept.elsewhere, hoperations, hops]
      · rfl
      · rw [Cache.address_specPath]
        exact concat_ne (by decide)
      · rw [Cache.address_recordPath]
        exact concat_ne (by decide)

/-! ## The ways to end well -/

/-- Nothing is to do for a document: no option asks for work, the output directory is there, and the cache
knows the document. -/
structure NothingToDo (config : Config) (options : Generation) (doc : Document) (files : Node) :
    Prop where
  force : options.force = false
  refresh : options.refresh = false
  there : files.hasPath (options.target config)
  known : Cache.Knows files (cacheDir config) doc.fingerprint

/-- How a run that loads a document ends well. -/
inductive EndsWell (config : Config) (options : Generation) (doc : Document) (before after : Node) : Prop
  /-- A plan is shown. -/
  | planned (hdry : options.dryRun) (hfiles : after = before)
  /-- Nothing is to do. -/
  | idle (hdry : options.dryRun = false) (hidle : NothingToDo config options doc before)
    (hfiles : after = before)
  /-- A client is written. -/
  | written (hdry : options.dryRun = false) (hwork : ¬ NothingToDo config options doc before)
    (hwritten : Written (options.toJob config doc) before after)

/-- What a run does once it has its document and has asked the cache for it. -/
def proceed (options : Generation) (config : Config) (doc : Document) (hit : Cache.Hit) :
    Run (StateM World) Unit := do
  let previous := hit.previous.map Document.operations
  if options.dryRun then
    showPlan (m := StateM World) previous doc.operations
  else if hit.unchanged && !options.force && !options.refresh &&
      (← (Store.hasPath (options.target config) : StateM World Bool)) then
    Host.log (m := StateM World)
      ⟨.info, "spec unchanged since the last run, nothing to do (use --refresh to regenerate)"⟩
  else
    if let some previous := previous then
      Host.log (m := StateM World)
        ⟨.info, "changes since the last run: " ++ (difference previous doc.operations).summary⟩
    (options.toJob config doc).run

/-- What a run needs before it asks the cache: its configuration, a document, and no issue of it that
stops the run. -/
structure Starts (world : World) (options : Generation) (config : Config) (doc : Document) : Prop where
  uses : (world.run Config.ofProject).1 = .ok config
  loads : (world.run
    (loadDocument (options.source config) config : Run (StateM World) Document).run).1 = .ok doc
  passes : ∃ issues, Issue.verdict doc.issues (options.strict || config.strict) = .ok issues

/-- A run that starts goes on with what the cache knows of its document, and until then it has written
nothing but messages. -/
theorem Starts.run_generateClient (h : Starts world options config doc) :
    ∃ asked ready : World, asked.results = world.results ∧ ready.results = world.results ∧
      world.run (generateClient options : Run (StateM World) Unit).run =
        ready.run (proceed options config doc
          (asked.run (Cache.lookup (cacheDir config) doc.fingerprint)).1.1).run := by
  obtain ⟨issues, hverdict⟩ := h.passes
  have hconfig : world.run (orStop Config.ofProject : Run (StateM World) Config).run = (.ok config, world) :=
    run_orStop_of_ok (by rw [Config.run_ofProject, h.uses])
  have hload := quiet_loadDocument (options.source config) config world
  have hloaded := h.loads
  generalize hrun : world.run
    (loadDocument (options.source config) config : Run (StateM World) Document).run = loaded at hload hloaded
  obtain ⟨result, loaded⟩ := loaded
  obtain rfl : result = .ok doc := hloaded
  have hcheck := quiet_check doc (options.strict || config.strict) loaded
  have hchecked := result_check loaded doc (options.strict || config.strict)
  rw [hverdict] at hchecked
  generalize hissues : loaded.run
    (check doc (options.strict || config.strict) : Run (StateM World) (List Issue)).run = checked at hcheck hchecked
  obtain ⟨result, checked⟩ := checked
  obtain rfl : result = .ok issues := hchecked
  have hextract := quiet_extract doc checked
  have hops : (checked.run (extract doc : StateM World (List Operation))).1 = doc.operations := rfl
  rw [generateClient, run_bind_of_ok hconfig]
  dsimp only
  rw [Generation.source] at hrun
  rw [run_bind_of_ok hrun, run_bind_of_ok hissues, run_lift_bind, hops]
  generalize (checked.run (extract doc : StateM World (List Operation))).2 = extracted at hextract
  have hsame := hextract.trans (hcheck.trans hload)
  obtain ⟨⟨hit, warnings⟩, hlookup, -⟩ := Cache.run_lookup extracted (cacheDir config) doc.fingerprint
  refine ⟨extracted, (extracted.run (each Host.log warnings : StateM World Unit)).2, hsame,
    (leaves_each World.quiet_log warnings extracted).trans hsame, ?_⟩
  rw [hlookup]
  change World.run extracted (Cache.lookup (Path.ofString config.cacheDir) doc.fingerprint) = _ at hlookup
  rw [run_lift_bind, hlookup]
  rfl

/-! ## Going on with what the cache knows -/

section

variable {hit : Cache.Hit}

/-- A dry run shows a plan and leaves all files as they are. -/
theorem run_proceed_of_dryRun (hdry : options.dryRun) :
    ∃ after : World, world.run (proceed options config doc hit).run = (.ok (), after) ∧
      after.files = world.files := by
  rw [proceed, if_pos hdry]
  exact ⟨_, rfl, leavesFiles_showPlan (hit.previous.map Document.operations) doc.operations world⟩

/-- Without a dry run it is decided, after a look at the output directory, whether the job is run. -/
theorem run_proceed (hdry : options.dryRun = false) :
    world.run (proceed options config doc hit).run =
      world.run (ExceptT.run (if hit.unchanged && !options.force && !options.refresh &&
          world.files.hasPath (options.target config) then
        Host.log (m := StateM World)
          ⟨.info, "spec unchanged since the last run, nothing to do (use --refresh to regenerate)"⟩
      else do
        if let some previous := hit.previous.map Document.operations then
          Host.log (m := StateM World)
            ⟨.info, "changes since the last run: " ++ (difference previous doc.operations).summary⟩
        (options.toJob config doc).run : Run (StateM World) Unit)) := by
  rw [proceed, if_neg (by simp [hdry]), run_lift_bind]
  rfl

variable (hknown : hit.unchanged ↔ Cache.Knows world.files (cacheDir config) doc.fingerprint)

include hknown

/-- The test in front of a run says whether there is something to do. -/
theorem nothingToDo_iff : (hit.unchanged && !options.force && !options.refresh &&
    world.files.hasPath (options.target config)) = true ↔ NothingToDo config options doc world.files := by
  simp only [Bool.and_eq_true, Bool.not_eq_true', hknown]
  constructor
  · rintro ⟨⟨⟨known, force⟩, refresh⟩, there⟩
    exact ⟨force, refresh, there, known⟩
  · rintro ⟨force, refresh, there, known⟩
    exact ⟨⟨⟨known, force⟩, refresh⟩, there⟩

/-- If nothing is to do, all files are left as they are. -/
theorem run_proceed_of_nothingToDo (hdry : options.dryRun = false)
    (hidle : NothingToDo config options doc world.files) :
    ∃ after : World, world.run (proceed options config doc hit).run = (.ok (), after) ∧
      after.files = world.files := by
  rw [run_proceed hdry, if_pos ((nothingToDo_iff hknown).mpr hidle)]
  exact ⟨_, rfl, rfl⟩

/-- Else the job is run, after what changed was told. -/
theorem run_proceed_of_work (hdry : options.dryRun = false)
    (hwork : ¬ NothingToDo config options doc world.files) :
    ∃ started : World, started.files = world.files ∧
      world.run (proceed options config doc hit).run =
        started.run ((options.toJob config doc).run : Run (StateM World) Unit).run := by
  rw [run_proceed hdry, if_neg fun hnothing => hwork ((nothingToDo_iff hknown).mp hnothing)]
  split
  next previous _ =>
    rw [run_lift_bind]
    exact ⟨_, congrArg Prod.fst (World.quiet_log _ world), rfl⟩
  next => exact ⟨world, rfl, rfl⟩

end

/-- A run that starts goes on with all files as they were, and knows whether the document is the same. -/
theorem Starts.exists_proceed (h : Starts world options config doc) :
    ∃ (ready : World) (hit : Cache.Hit), ready.files = world.files ∧
      (hit.unchanged ↔ Cache.Knows ready.files (cacheDir config) doc.fingerprint) ∧
      world.run (generateClient options : Run (StateM World) Unit).run =
        ready.run (proceed options config doc hit).run := by
  obtain ⟨asked, ready, hasked, hready, hrun⟩ := h.run_generateClient
  have hasked : asked.files = world.files := congrArg Prod.fst hasked
  have hready : ready.files = world.files := congrArg Prod.fst hready
  obtain ⟨found, hlookup, hknown⟩ := Cache.run_lookup asked (cacheDir config) doc.fingerprint
  rw [hasked, ← hready] at hknown
  rw [hlookup] at hrun
  exact ⟨ready, found.1, hready, hknown, hrun⟩

/-- A run that starts and finds nothing to do ends well and leaves all files as they are. -/
theorem Starts.run_of_nothingToDo (h : Starts world options config doc)
    (hidle : NothingToDo config options doc world.files) :
    ∃ after : World, world.run (generateClient options : Run (StateM World) Unit).run = (.ok (), after) ∧
      after.files = world.files := by
  obtain ⟨ready, hit, hready, hknown, hrun⟩ := h.exists_proceed
  rw [← hready] at hidle ⊢
  rw [hrun]
  cases hdry : options.dryRun with
  | true => exact run_proceed_of_dryRun hdry
  | false => exact run_proceed_of_nothingToDo hknown hdry hidle

/-- A run starts, or it stops before it has written anything but messages. -/
theorem starts_or_stops {finish : Except Stop Unit}
    (h : world.run (generateClient options : Run (StateM World) Unit).run = (finish, after)) :
    (∃ config doc, Starts world options config doc) ∨
      (∃ stop, finish = .error stop) ∧ after.files = world.files := by
  rw [generateClient] at h
  obtain ⟨stop, hconfig, rfl⟩ | ⟨config, between, hconfig, h⟩ := run_bind_cases h
  · have hleft := leavesFiles_config world
    rw [hconfig] at hleft
    exact .inr ⟨⟨stop, rfl⟩, hleft⟩
  have hconfig := run_orStop_ok hconfig
  obtain rfl : world = between := by
    rw [Config.run_ofProject] at hconfig
    exact (Prod.mk.inj hconfig).2
  dsimp only at h
  have hleft := (quiet_loadDocument (options.source config) config).leavesFiles world
  obtain ⟨stop, hload, rfl⟩ | ⟨doc, loaded, hload, h⟩ := run_bind_cases h
  · rw [Generation.source, hload] at hleft
    exact .inr ⟨⟨stop, rfl⟩, hleft⟩
  rw [Generation.source, hload] at hleft
  obtain ⟨stop, hcheck, rfl⟩ | ⟨issues, checked, hcheck, -⟩ := run_bind_cases h
  · have hlast := (quiet_check doc (options.strict || config.strict)).leavesFiles loaded
    rw [hcheck] at hlast
    exact .inr ⟨⟨stop, rfl⟩, hlast.trans hleft⟩
  left
  have hverdict := result_check loaded doc (options.strict || config.strict)
  rw [hcheck] at hverdict
  refine ⟨config, doc, by rw [hconfig], congrArg Prod.fst hload, ?_⟩
  cases hissues : Issue.verdict doc.issues (options.strict || config.strict) with
  | ok issues => exact ⟨issues, rfl⟩
  | error failure =>
    rw [hissues] at hverdict
    cases hverdict

/-- A run that ends well has started. -/
theorem starts_of_generate
    (h : world.run (generateClient options : Run (StateM World) Unit).run = (.ok (), after)) :
    ∃ config doc, Starts world options config doc := by
  obtain hstarts | ⟨⟨stop, hstop⟩, -⟩ := starts_or_stops h
  · exact hstarts
  · cases hstop

/-- There are three ways for a run to end well. -/
theorem endsWell_of_proceed {hit : Cache.Hit}
    (hknown : hit.unchanged ↔ Cache.Knows world.files (cacheDir config) doc.fingerprint)
    (h : world.run (proceed options config doc hit).run = (.ok (), after)) :
    EndsWell config options doc world.files after.files := by
  cases hdry : options.dryRun with
  | true =>
    obtain ⟨shown, hshown, hfiles⟩ := run_proceed_of_dryRun hdry
    obtain rfl : shown = after := (Prod.mk.inj (hshown.symm.trans h)).2
    exact .planned hdry hfiles
  | false =>
    by_cases hidle : NothingToDo config options doc world.files
    · obtain ⟨told, htold, hfiles⟩ := run_proceed_of_nothingToDo hknown hdry hidle
      obtain rfl : told = after := (Prod.mk.inj (htold.symm.trans h)).2
      exact .idle hdry hidle hfiles
    · obtain ⟨started, hfiles, hrun⟩ := run_proceed_of_work hknown hdry hidle
      have hwritten := written_of_run (hrun.symm.trans h) rfl
      rw [hfiles] at hwritten
      exact .written hdry hidle hwritten

/-- A run that ends well has started, and then there are three ways. -/
theorem endsWell_of_generate
    (h : world.run (generateClient options : Run (StateM World) Unit).run = (.ok (), after)) :
    ∃ config doc, Starts world options config doc ∧
      EndsWell config options doc world.files after.files := by
  obtain ⟨config, doc, hstarts⟩ := starts_of_generate h
  obtain ⟨ready, hit, hready, hknown, hrun⟩ := hstarts.exists_proceed
  rw [hrun] at h
  have hends := endsWell_of_proceed hknown h
  rw [hready] at hends
  exact ⟨config, doc, hstarts, hends⟩

end TypedClient.Command
