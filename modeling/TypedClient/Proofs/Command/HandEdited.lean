import TypedClient.Proofs.Cache.Attempt
import TypedClient.Proofs.Command.Traceless

/-!
# Files that are edited by hand

A run of `generate` that is not told to overwrite them leaves the files alone that are made for editing, and
all files but those of the client and the cache (`Command.spares_of_generate`). So does each run of a
session in which such runs and arbitrary changes to the world take turns (`Command.sparedSession`).
-/

namespace TypedClient

open Files (Address Generated Node Path Store)

/-- What is there stays as it is if it stays a directory, or the same file. -/
theorem Files.Node.kindAt?_eq_of_fileAt? {before after : Node} {a : Address}
    (hthere : before.kindAt? a ≠ none) (hfile : after.fileAt? a = before.fileAt? a)
    (hdir : before.IsDirectory a → after.IsDirectory a) : after.kindAt? a = before.kindAt? a := by
  rcases Node.kindAt?_cases before a with hnone | hdirectory | ⟨content, hcontent⟩
  · exact absurd hnone hthere
  · exact (hdir hdirectory).trans hdirectory.symm
  · rw [Node.fileAt?_eq_some.mpr hcontent] at hfile
    rw [hcontent, Node.fileAt?_eq_some.mp hfile]

/-! ## Keeping a document -/

namespace Cache

variable {world : World} {dir : Path} {doc : Document} {record : Record}

theorem leavesFile_store {content : ByteArray} :
    World.LeavesFile content (store dir doc record : StateM World (Except Fault Unit)) := by
  have hspec : (specPath dir).steps ≠ [] := by simp [specPath, Path.steps_child, Path.isIdle]
  have hrecord : (recordPath dir).steps ≠ [] := by simp [recordPath, Path.steps_child, Path.isIdle]
  refine (World.leavesFile_createDirectories dir).bind fun result => ?_
  cases result with
  | error fault => exact World.leavesFile_pure _
  | ok _ =>
    refine (World.leavesFile_writeText hspec _).bind fun result => ?_
    cases result with
    | error fault => exact World.leavesFile_pure _
    | ok _ =>
      refine (World.leavesFile_writeText hrecord _).bind fun result => ?_
      cases result <;> exact World.leavesFile_pure _

/-- However keeping a document ends, all other files stay as they are, and the directories stay. -/
theorem spares_of_store (world : World) (dir : Path) (doc : Document) (record : Record) :
    (∀ a, a ≠ (specPath dir).address → a ≠ (recordPath dir).address →
      (world.run (store dir doc record)).2.files.fileAt? a = world.files.fileAt? a) ∧
    ∀ a, world.files.IsDirectory a → (world.run (store dir doc record)).2.files.IsDirectory a := by
  by_cases hroot : world.files.IsDirectory []
  · let attempt : Attempt := ⟨doc, record, 2⟩
    have hfinish : (world.run (store dir doc record)).2 = attempt.finish dir world := by
      rw [Attempt.finish, Attempt.action_eq_store (Nat.le_refl 2)]
    rw [hfinish]
    refine ⟨fun a hspec hrecord => ?_, (attempt.leaves_of_root dir hroot).directory⟩
    obtain ⟨start, hmade, hcases⟩ := attempt.count_cases dir hroot
    rcases hcases with ⟨-, hstart⟩ | ⟨-, middle, hfirst, ⟨-, hmiddle⟩ | ⟨-, hsecond⟩⟩
    · rw [hstart, hmade.fileAt?_eq]
    · rw [hmiddle, hfirst.elsewhere a hspec, hmade.fileAt?_eq]
    · rw [hsecond.elsewhere a hrecord, hfirst.elsewhere a hspec, hmade.fileAt?_eq]
  · obtain ⟨content, hcontent⟩ := Node.exists_file_of_not_isDirectory hroot
    rw [leavesFile_store world hcontent, hcontent]
    exact ⟨fun _ _ _ => rfl, fun _ h => h⟩

end Cache

namespace Command

variable {world after : World} {config : Config} {options : Generation} {doc : Document}
  {job : Job} {ending : Except Stop Unit} {output : Path} {files : List Generated}
  {result : Except Files.BatchFault Files.Summary}

/-- The names of the files of a client that are made for editing. -/
def editableNames : List String :=
  ["client.ts", "helpers.ts"]

/-- The names of the files of a client that are made anew each time. -/
def generatedNames : List String :=
  ["operations.ts", "errors.ts", "instance.ts", "index.ts"]

/-! ## Writing a client -/

/-- However the writing of files ends, what is to be left alone stays as it is. -/
theorem Tried.kindAt?_of_ifMissing {file : Generated} (hplain : Files.Plain files) (hfile : file ∈ files)
    (h : Tried world after output files result) (hpolicy : file.policy = .ifMissing)
    (hthere : world.files.kindAt? (output.address ++ [file.name]) ≠ none) :
    after.files.kindAt? (output.address ++ [file.name]) =
      world.files.kindAt? (output.address ++ [file.name]) := by
  cases h with
  | nowhere _ hfiles => rw [hfiles]
  | blocked _ hroot _ hfiles =>
    rw [hfiles]
    exact (Node.createDirectories_extends hroot output).kindAt?_eq hthere
  | committed hstart hstage hcommit =>
    exact Files.Batch.kindAt?_of_ifMissing hplain (List.ne_nil_of_mem hfile) hstart hstage hcommit hfile
      hpolicy hthere

/-- However the writing of files ends, all other files stay as they are, if those that are to be replaced
are no directories. -/
theorem Tried.fileAt?_elsewhere {a : Address} (hplain : Files.Plain files) (hfiles : files ≠ [])
    (h : Tried world after output files result)
    (hdirs : ∀ file ∈ files, file.policy = .always →
      ¬ world.files.IsDirectory (output.address ++ [file.name]))
    (ha : ∀ file ∈ files, a ≠ output.address ++ [file.name]) :
    after.files.fileAt? a = world.files.fileAt? a := by
  cases h with
  | nowhere _ hsame => rw [hsame]
  | blocked _ hroot _ hsame =>
    rw [hsame]
    exact (Node.createDirectories_extends hroot output).fileAt?_eq a
  | committed hstart hstage hcommit =>
    exact Files.Batch.fileAt?_elsewhere hplain hfiles hstart hstage hcommit hdirs ha

/-! ## A run -/

/-- Where the files of a run may be: those of the client, and those of the cache. -/
def Generation.places (options : Generation) (config : Config) : List Address :=
  clientNames.map ((options.target config).address ++ [·]) ++
    [(Cache.specPath (cacheDir config)).address, (Cache.recordPath (cacheDir config)).address]

/-- What a run leaves alone. -/
structure Spares (options : Generation) (before after : World) : Prop where
  /-- The files that are made for editing, if there are some. -/
  edited : ∀ config, (before.run Config.ofProject).1 = .ok config → ∀ name ∈ editableNames,
    before.files.kindAt? ((options.target config).address ++ [name]) ≠ none →
    after.files.kindAt? ((options.target config).address ++ [name]) =
      before.files.kindAt? ((options.target config).address ++ [name])
  /-- All files but its own, if those that are made anew are no directories. -/
  elsewhere : ∀ config, (before.run Config.ofProject).1 = .ok config →
    (∀ name ∈ generatedNames, ¬ before.files.IsDirectory ((options.target config).address ++ [name])) →
    ∀ a ∉ options.places config, after.files.fileAt? a = before.files.fileAt? a
  /-- All there is, without a configuration. -/
  unconfigured : (∀ config, (before.run Config.ofProject).1 ≠ .ok config) → after.files = before.files

theorem spares_of_files_eq (h : after.files = world.files) : Spares options world after where
  edited _ _ _ _ _ := by rw [h]
  elsewhere _ _ _ _ _ := by rw [h]
  unconfigured _ := h

/-- After its client, a job writes the files of the cache alone. -/
theorem Job.tried_of_run (h : world.run (job.run : Run (StateM World) Unit).run = (ending, after)) :
    ∃ (started written : World) (tried : Except Files.BatchFault Files.Summary) (stamp : String),
      started.files = world.files ∧ Tried started written job.output (job.files stamp) tried ∧
      (∀ a, a ≠ (Cache.specPath (cacheDir job.config)).address →
        a ≠ (Cache.recordPath (cacheDir job.config)).address →
        after.files.fileAt? a = written.files.fileAt? a) ∧
      ∀ a, written.files.IsDirectory a → after.files.IsDirectory a := by
  obtain ⟨started, tried, written, stamp, hstarted, hwrite, hcases⟩ := Job.run_cases h
  refine ⟨started, written, tried, stamp, hstarted,
    tried_of_writeFiles (plain_clientFiles _ _) (List.cons_ne_nil _ _) hwrite, ?_⟩
  rcases hcases with ⟨_, -, -, hsame⟩ | ⟨_, shown, _, cached, -, hshown, hstore, hsame, -⟩
  · rw [hsame]
    exact ⟨fun _ _ _ => rfl, fun _ hdir => hdir⟩
  · have hspares := Cache.spares_of_store shown (cacheDir job.config) job.doc
      ⟨job.doc.fingerprint, stamp, job.input⟩
    rw [hstore, hshown] at hspares
    rwa [hsame]

/-- What a job leaves alone that is not to overwrite the files that are made for editing. -/
theorem Job.spares_of_run (hforce : job.force = false)
    (h : world.run (job.run : Run (StateM World) Unit).run = (ending, after)) :
    (∀ name ∈ editableNames, world.files.kindAt? (job.output.address ++ [name]) ≠ none →
      after.files.kindAt? (job.output.address ++ [name]) =
        world.files.kindAt? (job.output.address ++ [name])) ∧
    ((∀ name ∈ generatedNames, ¬ world.files.IsDirectory (job.output.address ++ [name])) →
      ∀ a ∉ clientNames.map (job.output.address ++ [·]) ++
        [(Cache.specPath (cacheDir job.config)).address, (Cache.recordPath (cacheDir job.config)).address],
      after.files.fileAt? a = world.files.fileAt? a) := by
  obtain ⟨started, written, tried, stamp, hstarted, htried, hlast, hdirectories⟩ := Job.tried_of_run h
  have hplain : Files.Plain (job.files stamp) := plain_clientFiles _ _
  have hrules : (job.files stamp).map (fun file => (file.name, file.policy)) = clientRules false :=
    hforce ▸ map_rule_clientFiles _ _
  rw [← hstarted]
  refine ⟨fun name hname hthere => ?_, fun hdirs a ha => ?_⟩
  · obtain ⟨file, hfile, hrule⟩ : ∃ file ∈ job.files stamp,
        (file.name, file.policy) = (name, Files.Policy.ifMissing) := by
      have hlisted : ∀ name ∈ editableNames, (name, Files.Policy.ifMissing) ∈ clientRules false := by
        decide
      exact List.mem_map.mp (hrules ▸ hlisted name hname)
    obtain ⟨rfl, hpolicy⟩ := Prod.mk.inj hrule
    have hsame := htried.kindAt?_of_ifMissing hplain hfile hpolicy hthere
    have hcache : ∀ name ∈ editableNames, name ≠ "spec.json" ∧ name ≠ "cache.json" := by decide
    have hkept := hlast (job.output.address ++ [file.name])
      (Cache.address_specPath _ ▸ concat_ne (hcache _ hname).1)
      (Cache.address_recordPath _ ▸ concat_ne (hcache _ hname).2)
    rw [← hsame] at hthere ⊢
    exact Node.kindAt?_eq_of_fileAt? hthere hkept (hdirectories _)
  · rw [List.mem_append, not_or, List.mem_cons, List.mem_singleton, not_or] at ha
    obtain ⟨hclient, hspec, hrecord⟩ := ha
    rw [hlast a hspec hrecord]
    refine htried.fileAt?_elsewhere hplain (List.cons_ne_nil _ _)
      (fun file hfile hpolicy => hdirs _ ?_)
      fun file hfile heq => hclient (List.mem_map.mpr ⟨file.name, mem_clientNames hfile, heq.symm⟩)
    have hlisted : ∀ rule ∈ clientRules false, rule.2 = .always → rule.1 ∈ generatedNames := by decide
    exact hlisted (file.name, file.policy) (hrules ▸ List.mem_map_of_mem hfile) hpolicy

/-- A run that is not told to overwrite them spares the files that are made for editing. -/
theorem spares_of_generate (hforce : options.force = false)
    (h : world.run (generateClient options : Run (StateM World) Unit).run = (ending, after)) :
    Spares options world after := by
  rcases generate_cases h with hfiles | ⟨config, doc, started, -, hconfig, hstarted, hjob⟩
  · exact spares_of_files_eq hfiles
  have hjobForce : (options.toJob config doc).force = false := hforce
  obtain ⟨hedited, helsewhere⟩ := Job.spares_of_run hjobForce hjob
  rw [hstarted] at hedited helsewhere
  -- the run has one configuration
  have hone : ∀ other, (world.run Config.ofProject).1 = .ok other → other = config := fun other hother =>
    Except.ok.inj (hother.symm.trans hconfig)
  constructor
  · intro other hother
    rw [hone other hother]
    exact hedited
  · intro other hother
    rw [hone other hother]
    exact helsewhere
  · exact fun hnone => absurd hconfig (hnone config)

/-! ## Sessions -/

/-- A command line of `generate` that does not ask to overwrite the files that are made for editing. -/
structure Unforced where
  words : List String
  options : Generation
  reads : ofWords words = some (.generate options)
  unforced : options.force = false

/-- What happens in a session: something is done to the world, or a client is generated there. -/
inductive Event
  | edit (change : World → World)
  | generate (line : Unforced)

/-- The world after an event. -/
def Event.finish (world : World) : Event → World
  | edit change => change world
  | generate line => (world.run (run line.words : StateM World UInt32)).2

/-- What a run among the events leaves alone. -/
def Event.Spares (world : World) : Event → Prop
  | edit _ => True
  | generate line => Command.Spares line.options world (Event.finish world (generate line))

/-- Each run of a session, in the world that it starts in, spares the files that are made for editing. -/
def SparedSession : World → List Event → Prop
  | _, [] => True
  | world, event :: rest => event.Spares world ∧ SparedSession (event.finish world) rest

theorem Event.spares (world : World) (event : Event) : event.Spares world := by
  cases event with
  | edit change => trivial
  | generate line =>
    have hfiles : (world.run (run line.words : StateM World UInt32)).2.files =
        (world.run (perform (.generate line.options) : Run (StateM World) Unit).run).2.files :=
      files_run line.reads
    have hspares := spares_of_generate line.unforced
      (Prod.eta (world.run (generateClient line.options : Run (StateM World) Unit).run)).symm
    constructor
    · rw [Event.finish, hfiles]
      exact hspares.edited
    · rw [Event.finish, hfiles]
      exact hspares.elsewhere
    · rw [Event.finish, hfiles]
      exact hspares.unconfigured

/-- Whatever was done between them, each run of a session spares the files that are made for editing. -/
theorem sparedSession (world : World) (events : List Event) : SparedSession world events := by
  induction events generalizing world with
  | nil => trivial
  | cons event rest ih => exact ⟨event.spares world, ih (event.finish world)⟩

end Command

end TypedClient
