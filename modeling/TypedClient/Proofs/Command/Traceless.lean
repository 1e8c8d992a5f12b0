import TypedClient.Proofs.Command.History
import TypedClient.Proofs.Command.Outcome

/-!
# Runs without a trace

Commands that only read leave the tree as it was, however they end. So does a run of `generate` that fails
before it gets to the cache, if the path of its output directory has no two dots: its batch cannot fail once
it was started, and where a file keeps it from being started no directory is made. Only an output directory
that is missing and whose path ends in a dot leaves something behind, namely the directories over it
(`Command.remains_of_traceless`).
-/

namespace TypedClient.Command

open Files (Node Path Plain)
open World (Leaves LeavesFiles)

variable {α β γ : Type} {world : World} {words : List String} {command : Command}

/-- A command that is not meant to write files. -/
def isReading : Command → Bool
  | generate options => options.dryRun
  | validate _ _ | diff _ _ | inspect _ _ | version => true
  | init _ => false

/-- A command line whose run is to leave no trace in a world: it is none, its command only reads, or it is
one of `generate` that stops there for another reason than the cache, with an output directory whose path
has no two dots. -/
inductive Traceless (world : World) (words : List String) : Prop
  | reading (hreads : ∀ command, ofWords words = some command → command.isReading)
  | stopped {options : Generation} (hreads : ofWords words = some (.generate options))
      (hdown : ∀ config, (world.run Config.ofProject).1 = .ok config →
        ".." ∉ (options.target config).steps)
      (hexit : (world.run (run words : StateM World UInt32)).1 ≠ 0)
      (hcause : ∀ fault, (world.run (generateClient options : Run (StateM World) Unit).run).1 ≠
        .error (.failed (.cache fault)))

/-! ## Commands that read -/

theorem leavesFiles_lift {x : StateM World Unit} (hx : LeavesFiles x) :
    LeavesFiles (liftM x : Run (StateM World) Unit).run :=
  hx

theorem leavesFiles_checkDocument (input : Option String) (strict : Bool) :
    LeavesFiles (checkDocument input strict : Run (StateM World) Unit).run := by
  refine leaves_bind leavesFiles_config fun config => ?_
  refine leaves_bind (quiet_loadDocument _ config).leavesFiles fun doc => ?_
  refine leaves_bind (quiet_check doc _).leavesFiles fun issues => ?_
  refine leaves_lift_bind (quiet_errLine _).leavesFiles fun _ => ?_
  refine leaves_lift_bind (quiet_extract doc).leavesFiles fun operations => ?_
  refine leaves_lift_bind (quiet_errLine _).leavesFiles fun _ => ?_
  exact leavesFiles_lift (quiet_errLine _).leavesFiles

theorem leavesFiles_compareDocuments (old new : String) :
    LeavesFiles (compareDocuments old new : Run (StateM World) Unit).run := by
  refine leaves_bind leavesFiles_config fun config => ?_
  refine leaves_bind (quiet_loadDocument old config).leavesFiles fun doc => ?_
  refine leaves_lift_bind (quiet_extract doc).leavesFiles fun before => ?_
  refine leaves_bind (quiet_loadDocument new config).leavesFiles fun other => ?_
  refine leaves_lift_bind (quiet_extract other).leavesFiles fun after => ?_
  exact leavesFiles_lift (leaves_each leavesFiles_outLine _)

theorem leavesFiles_showOverview (input : Option String) (format : Format) :
    LeavesFiles (showOverview input format : Run (StateM World) Unit).run := by
  refine leaves_bind leavesFiles_config fun config => ?_
  refine leaves_bind (quiet_loadDocument _ config).leavesFiles fun doc => ?_
  refine leaves_lift_bind (quiet_extract doc).leavesFiles fun operations => ?_
  cases format with
  | yaml => exact leavesFiles_lift fun _ => rfl
  | json => exact leavesFiles_lift (leavesFiles_outLine _)

/-- A dry run does not get to its job. -/
theorem leavesFiles_dryRun {options : Generation} (hdry : options.dryRun) :
    LeavesFiles (generateClient options : Run (StateM World) Unit).run := by
  intro world
  rcases generate_cases (Prod.eta (world.run (generateClient options : Run (StateM World) Unit).run)).symm
    with hfiles | ⟨_, _, _, hwet, -⟩
  · exact hfiles
  · rw [hdry] at hwet
    cases hwet

theorem leavesFiles_of_isReading (h : command.isReading) :
    LeavesFiles (perform command : Run (StateM World) Unit).run := by
  cases command with
  | generate options => exact leavesFiles_dryRun h
  | validate input strict => exact leavesFiles_checkDocument input strict
  | diff old new => exact leavesFiles_compareDocuments old new
  | inspect input format => exact leavesFiles_showOverview input format
  | init force => cases h
  | version => exact leavesFiles_lift (leavesFiles_outLine versionText)

/-! ## Runs that stop -/

/-- Telling why a command stops changes no file. -/
theorem files_run (hreads : ofWords words = some command) :
    (world.run (run words : StateM World UInt32)).2.files =
      (world.run (perform command : Run (StateM World) Unit).run).2.files := by
  cases hperform : world.run (perform command : Run (StateM World) Unit).run with
  | mk result after =>
    cases result with
    | ok _ => rw [run_of_perform hreads hperform]
    | error stop => rw [run_of_perform_error hreads hperform]

/-- What is there after a failure to write to an output directory: all is as it was, or the path of the
directory ends in a dot and names none, and what is new are directories over it that were missing. -/
structure Remains (before after : Node) (output : Path) : Prop where
  dot : output.endsInDot
  missing : ¬ before.IsDirectory output.address
  files : after = (before.createDirectories output.parent).2
  extended : Node.Extended before after output.parent.trail

/-- A job that stops before the cache leaves all files as they are, if the path of its output directory has
no two dots; but for directories over one that cannot be made. -/
theorem remains_of_job {job : Job} {stop : Stop} {after : World} (hdown : ".." ∉ job.output.steps)
    (h : world.run (job.run : Run (StateM World) Unit).run = (.error stop, after))
    (hcause : ∀ fault, stop ≠ .failed (.cache fault)) :
    after.files = world.files ∨ Remains world.files after.files job.output := by
  obtain ⟨started, tried, written, stamp, hstarted, hwrite, hcases⟩ := Job.run_cases h
  have hplain : Plain (job.files stamp) := plain_clientFiles _ _
  have hsome : job.files stamp ≠ [] := List.cons_ne_nil _ _
  rcases hcases with ⟨fault, rfl, -, hafter⟩ | ⟨_, _, kept, _, _, _, _, _, hfinish⟩
  · rw [hafter, ← hstarted]
    cases tried_of_writeFiles hplain hsome hwrite with
    | nowhere _ hfiles => exact .inl hfiles
    | blocked _ hroot hmake hfiles =>
      obtain ⟨own, hmake⟩ := hmake
      cases hdot : job.output.endsInDot with
      | false =>
        left
        rw [hfiles, Node.createDirectories_eq_of_error hroot hdown hdot hmake]
      | true =>
        rw [hfiles, Node.createDirectories_of_endsInDot hdot]
        exact .inr ⟨hdot, Node.not_isDirectory_of_createDirectories hroot hdown hmake, rfl,
          Node.createDirectories_extends hroot _⟩
    | committed hstart hstage hcommit =>
      -- a batch that was staged would have been written
      obtain ⟨summary, finished, hok⟩ :=
        Files.Batch.commit_ok_of_plain hplain hstart hstage hsome hdown
      rw [hok] at hcommit
      cases hcommit
  · cases kept with
    | ok _ => cases hfinish
    | error fault => exact absurd (Except.error.inj hfinish) (hcause fault)

/-- A run of `generate` that stops before the cache leaves all files as they are, if the path of its output
directory has no two dots; but for directories over one that cannot be made. -/
theorem remains_of_generateClient {options : Generation} {stop : Stop} {after : World}
    (hdown : ∀ config, (world.run Config.ofProject).1 = .ok config → ".." ∉ (options.target config).steps)
    (h : world.run (generateClient options : Run (StateM World) Unit).run = (.error stop, after))
    (hcause : ∀ fault, stop ≠ .failed (.cache fault)) :
    after.files = world.files ∨ ∃ config, options.dryRun = false ∧
      (world.run Config.ofProject).1 = .ok config ∧
      Remains world.files after.files (options.target config) := by
  rcases generate_cases h with hfiles | ⟨config, doc, started, hwet, hconfig, hstarted, hjob⟩
  · exact .inl hfiles
  · rcases remains_of_job (hdown config hconfig) hjob hcause with hfiles | hremains
    · exact .inl (hfiles.trans hstarted)
    · rw [hstarted] at hremains
      exact .inr ⟨config, hwet, hconfig, hremains⟩

/-- A run that is to leave no trace leaves all files and directories as they are. The one exception is a run
of `generate` whose output directory is missing and cannot be made, since its path ends in a dot: it leaves
the directories over that one which were missing. -/
theorem remains_of_traceless (h : Traceless world words) :
    (world.run (run words : StateM World UInt32)).2.files = world.files ∨
      ∃ options config, ofWords words = some (.generate options) ∧ options.dryRun = false ∧
        (world.run Config.ofProject).1 = .ok config ∧
        Remains world.files (world.run (run words : StateM World UInt32)).2.files
          (options.target config) := by
  cases h with
  | reading hreads =>
    left
    cases hwords : ofWords words with
    | none => rw [run, hwords]; rfl
    | some command =>
      rw [files_run hwords]
      exact leavesFiles_of_isReading (hreads command hwords) world
  | @stopped options hreads hdown hexit hcause =>
    cases hperform : world.run (generateClient options : Run (StateM World) Unit).run with
    | mk result after =>
      cases result with
      | ok done =>
        rw [run_of_perform hreads hperform] at hexit
        exact absurd rfl hexit
      | error stop =>
        rw [run_of_perform_error hreads hperform]
        have hother : ∀ fault, stop ≠ .failed (.cache fault) := by
          rintro fault rfl
          rw [hperform] at hcause
          exact hcause fault rfl
        rcases remains_of_generateClient hdown hperform hother with hfiles | hremains
        · exact .inl hfiles
        · obtain ⟨config, hwet, hconfig, hremains⟩ := hremains
          exact .inr ⟨options, config, hreads, hwet, hconfig, hremains⟩

/-! ## Runs that stop at their output directory -/

/-- Whether a command stopped at its output directory. -/
def isOutputFault : Except Stop Unit → Bool
  | .error (.failed (.output _)) => true
  | _ => false

/-- A run that stops at its output directory is to leave no trace. -/
theorem traceless_of_isOutputFault {options : Generation} {config : Config}
    (hreads : ofWords words = some (.generate options))
    (hconfig : (world.run Config.ofProject).1.toOption = some config)
    (hdown : ".." ∉ (options.target config).steps)
    (hfault : isOutputFault (world.run (generateClient options : Run (StateM World) Unit).run).1) :
    Traceless world words := by
  refine .stopped hreads (fun own hown => ?_) (fun hexit => ?_) fun fault hcause => ?_
  · rw [hown] at hconfig
    obtain rfl : own = config := Option.some.inj hconfig
    exact hdown
  · cases hperform : world.run (generateClient options : Run (StateM World) Unit).run with
    | mk result after =>
      rw [hperform] at hfault
      cases result with
      | ok done => cases hfault
      | error stop =>
        rw [run_of_perform_error hreads hperform] at hexit
        cases hexit
  · rw [hcause] at hfault
    cases hfault

/-- A world with a document and a file where the output directory is to be made. -/
def blockedWorld : World :=
  .ofFiles (.directory [("openapi.json", .file bareText.toUTF8), ("src", .file bareText.toUTF8)])

set_option maxRecDepth 10000 in
theorem blocked_run : (blockedWorld.run Config.ofProject).1.toOption = some .default ∧
    isOutputFault
      (blockedWorld.run (generateClient noOptions : Run (StateM World) Unit).run).1 = true := by
  decide +kernel

/-- A run that cannot make its output directory since a file is in the way leaves no trace. -/
theorem remains_of_blocked_run : Traceless blockedWorld ["generate"] ∧
    (blockedWorld.run (run ["generate"] : StateM World UInt32)).2.files = blockedWorld.files := by
  obtain ⟨hconfig, hfault⟩ := blocked_run
  have hreads : ofWords ["generate"] = some (.generate noOptions) := by decide
  have htraceless : Traceless blockedWorld ["generate"] :=
    traceless_of_isOutputFault hreads hconfig (by decide +kernel) hfault
  refine ⟨htraceless, (remains_of_traceless htraceless).resolve_right ?_⟩
  rintro ⟨options, config, hown, -, hresult, hremains⟩
  obtain rfl : noOptions = options := Command.generate.inj (Option.some.inj (hreads.symm.trans hown))
  rw [hresult] at hconfig
  obtain rfl : config = .default := Option.some.inj hconfig
  exact absurd hremains.dot (by decide +kernel)

/-- A world with a document and nothing else. -/
def bareProject : World :=
  .ofFiles (.directory [("openapi.json", .file bareText.toUTF8)])

/-- The options of a run whose output directory is written with a dot behind it. -/
def dottedOptions : Generation :=
  { noOptions with output := some ⟨["new", "api", "."]⟩ }

set_option maxRecDepth 10000 in
theorem dotted_run : (bareProject.run Config.ofProject).1.toOption = some .default ∧
    isOutputFault
      (bareProject.run (generateClient dottedOptions : Run (StateM World) Unit).run).1 = true ∧
    ((bareProject.run (run ["generate", "-o", "new/api/."] : StateM World UInt32)).2.files.get?
      ["new"]).isSome = true := by
  decide +kernel

/-- A run that cannot make its output directory since its path ends in a dot leaves the one over it. -/
theorem files_ne_of_dotted_run : Traceless bareProject ["generate", "-o", "new/api/."] ∧
    (bareProject.run (run ["generate", "-o", "new/api/."] : StateM World UInt32)).2.files ≠
      bareProject.files := by
  obtain ⟨hconfig, hfault, hnew⟩ := dotted_run
  have hreads : ofWords ["generate", "-o", "new/api/."] = some (.generate dottedOptions) := by decide
  refine ⟨traceless_of_isOutputFault hreads hconfig (by decide +kernel) hfault, fun hsame => ?_⟩
  rw [hsame] at hnew
  cases hnew

end TypedClient.Command
