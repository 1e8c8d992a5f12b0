import TypedClient.World
import TypedClient.Command.Run
import TypedClient.Proofs.Cache.Store

/-!
# Steps of a command

All that a command does before it writes leaves the files and the standard output as they are
(`World.Quiet`): it reads files, reports and fetches. A command that ran to its end ran each of its steps to
the end (`Command.run_bind_ok`).
-/

namespace TypedClient

open Files (Node Path Store)

namespace World

variable {α β γ : Type} {part : World → γ}

/-- An action after which a part of the world is as it was, in every world. -/
def Leaves (part : World → γ) (action : StateM World α) : Prop :=
  ∀ world, part (World.run world action).2 = part world

/-- An action that leaves the files as they are, in every world. -/
abbrev LeavesFiles (action : StateM World α) : Prop :=
  Leaves World.files action

/-- What a command is run for: the files, and what it writes to the standard output. -/
def results (world : World) : Node × String :=
  (world.files, world.out)

/-- An action that leaves the files and the standard output as they are, in every world. -/
abbrev Quiet (action : StateM World α) : Prop :=
  Leaves results action

theorem leaves_pure (a : α) : Leaves part (pure a : StateM World α) :=
  fun _ => rfl

/-- Actions one after the other leave what each of them leaves, whatever the first one gives. -/
theorem Leaves.bind {x : StateM World α} {f : α → StateM World β} (hx : Leaves part x)
    (hf : ∀ a, Leaves part (f a)) : Leaves part (x >>= f) := by
  intro world
  rw [run_bind, hf, hx]

/-- A quiet action leaves the files as they are. -/
theorem Quiet.leavesFiles {action : StateM World α} (h : Quiet action) : LeavesFiles action :=
  fun world => congrArg Prod.fst (h world)

theorem quiet_log (message : Log.Message) : Quiet (Host.log message : StateM World Unit) :=
  fun _ => rfl

theorem quiet_err (text : String) : Quiet (Host.err text : StateM World Unit) :=
  fun _ => rfl

theorem quiet_sleep (milliseconds : Nat) : Quiet (Host.sleep milliseconds : StateM World Unit) :=
  fun _ => rfl

/-- Fetching uses up a reply, and nothing else. -/
theorem quiet_fetch (url : String) (timeoutMs : Nat) :
    Quiet (Host.fetch url timeoutMs : StateM World Reply) := by
  rintro ⟨files, nextStaging, out, err, messages, time, replies⟩
  cases replies <;> rfl

theorem quiet_readText (path : Path) :
    Quiet (Store.readText path : StateM World (Except Files.Fault String)) :=
  fun _ => rfl

end World

open World (Leaves LeavesFiles Quiet leaves_pure)

/-! ## Loading -/

/-- Attempts leave what a single one and the pauses between them leave, however many there are. -/
theorem Retry.leaves_attempts {α γ : Type} {part : World → γ}
    {attempt : StateM World (Except Failure α)} {pause : Log.Message → Nat → StateM World Unit}
    (hattempt : Leaves part attempt) (hpause : ∀ message delay, Leaves part (pause message delay))
    (fetch : Config.Fetch) (left : Nat) : Leaves part (attempts attempt pause fetch left) := by
  induction left with
  | zero => exact hattempt
  | succ left ih =>
    rw [attempts]
    apply hattempt.bind
    intro result
    split
    · exact leaves_pure _
    · split
      · exact (hpause _ _).bind fun _ => ih
      · exact leaves_pure _

/-- Reading the text of a source is quiet, from a file as well as over the network. -/
theorem Source.quiet_readText (source : Source) (fetch : Config.Fetch) :
    Quiet (source.readText fetch : StateM World (Except Failure String)) := by
  cases source with
  | file path =>
    apply (World.quiet_readText path).bind
    intro result
    split <;> exact leaves_pure _
  | url address =>
    refine Retry.leaves_attempts ?_ (fun message delay => ?_) fetch _
    · exact (World.quiet_fetch address _).bind fun reply => leaves_pure _
    · exact (World.quiet_log message).bind fun _ => World.quiet_sleep delay

/-- So is loading a document. -/
theorem Source.quiet_load (source : Source) (fetch : Config.Fetch) :
    Quiet (source.load fetch : StateM World (Except Failure Document)) := by
  apply (source.quiet_readText fetch).bind
  intro result
  split
  · exact leaves_pure _
  · split
    · exact leaves_pure _
    · exact (World.quiet_log _).bind fun _ => leaves_pure _

/-- A document is loaded from a file if the text there is one. -/
theorem Source.load_file_ok_iff {world : World} {path : Path} {doc : Document} (fetch : Config.Fetch) :
    (world.run ((Source.file path).load fetch)).1 = .ok doc ↔
      ∃ text, world.files.readText path = .ok text ∧ Document.ofText text = .ok doc := by
  have hread : world.run (Store.readText path) = (world.files.readText path, world) := rfl
  rw [load, World.run_bind, readText, readFile, World.run_bind, hread]
  cases htext : world.files.readText path with
  | error fault => cases fault <;> simp [World.run_pure]
  | ok text =>
    simp only [World.run_pure, Except.ok.injEq, exists_eq_left']
    cases Document.ofText text with
    | error fault => simp [World.run_pure]
    | ok own =>
      change Except.ok own = Except.ok doc ↔ _
      rw [Except.ok.injEq, Except.ok.injEq]

/-! ## The configuration -/

namespace Config

variable {world again : World}

/-- The path of the file that holds the configuration. -/
def path : Path :=
  .ofString fileName

theorem trail_path : path.trail = [[fileName]] := by
  decide +kernel

theorem address_path : path.address = [fileName] := by
  decide +kernel

/-- The configuration in what was read of its file. -/
def ofRead : Except Files.Fault String → Except Failure (Option Config)
  | .error fault => .error (.config ("failed to read " ++ path.text ++ ": " ++ fault.message))
  | .ok text =>
    match parse text with
    | .ok config => .ok (some config)
    | .error fault => .error (.config (path.text ++ ": " ++ fault.message))

/-- The configuration of a project is the default one if its file gives none. -/
theorem run_ofProject_of_load {result : Except Failure (Option Config)}
    (h : world.run (load path) = (result, world)) :
    world.run ofProject = (result.map (·.getD .default), world) := by
  change world.run (load path >>= _) = _
  rw [World.run_bind, h]
  cases result <;> rfl

/-- A project without a configuration has the defaults. -/
theorem run_ofProject_of_missing (h : world.files.hasPath path = false) :
    world.run ofProject = (.ok .default, world) := by
  have hload : world.run (load path) = (.ok none, world) := by
    rw [load, World.run_bind, World.gives_hasPath, h]
    rfl
  exact run_ofProject_of_load hload

/-- If the file is there, its text decides. -/
theorem run_load_of_there (hthere : world.files.hasPath path) :
    world.run (load path) = (ofRead (world.files.readText path), world) := by
  have hread : world.run (Store.readText path) = (world.files.readText path, world) := rfl
  rw [load, World.run_bind, World.gives_hasPath, hthere]
  change world.run (Store.readText path >>= _) = _
  rw [World.run_bind, hread]
  cases world.files.readText path with
  | error fault => rfl
  | ok text =>
    rw [ofRead]
    dsimp only
    cases parse text <;> rfl

/-- A configuration that cannot be read is a failure. -/
theorem run_ofProject_of_fault {fault : Files.Fault} (hthere : world.files.hasPath path)
    (hread : world.files.readText path = .error fault) :
    ∃ failure, world.run ofProject = (.error failure, world) := by
  have hload := run_load_of_there hthere
  rw [hread] at hload
  exact ⟨_, run_ofProject_of_load hload⟩

/-- Reading the configuration changes nothing. -/
theorem run_ofProject (world : World) :
    world.run ofProject = ((world.run ofProject).1, world) := by
  obtain ⟨result, hrun⟩ : ∃ result, world.run ofProject = (result, world) := by
    cases hthere : world.files.hasPath path with
    | false => exact ⟨_, run_ofProject_of_missing hthere⟩
    | true => exact ⟨_, run_ofProject_of_load (run_load_of_there hthere)⟩
  rw [hrun]

/-- The configuration is the same where what is read of it is. -/
theorem ofProject_congr (h : world.files.Agree again.files path) :
    (again.run ofProject).1 = (world.run ofProject).1 := by
  cases hthere : world.files.hasPath path with
  | false =>
    rw [run_ofProject_of_missing hthere, run_ofProject_of_missing (h.hasPath.trans hthere)]
  | true =>
    rw [run_ofProject_of_load (run_load_of_there hthere),
      run_ofProject_of_load (run_load_of_there (h.hasPath.trans hthere)), h.readText]

end Config

/-! ## Steps that may stop -/

namespace Command

variable {α β γ : Type} {world after : World}

/-- Doing an action for each of several items leaves what each of them leaves. -/
theorem leaves_each {part : World → γ} {action : α → StateM World Unit}
    (h : ∀ item, Leaves part (action item)) (items : List α) : Leaves part (each action items) := by
  induction items with
  | nil => exact leaves_pure ()
  | cons item rest ih => exact (h item).bind fun _ => ih

theorem leavesFiles_outLine (line : String) : LeavesFiles (outLine line : StateM World Unit) :=
  fun _ => rfl

theorem quiet_errLine (line : String) : Quiet (errLine line : StateM World Unit) :=
  World.quiet_err _

/-- The warnings of an extraction go to the log only. -/
theorem quiet_extract (doc : Document) : Quiet (extract doc : StateM World (List Operation)) :=
  (leaves_each World.quiet_log _).bind fun _ => leaves_pure _

/-- A plan is only printed. -/
theorem leavesFiles_showPlan (previous : Option (List Operation)) (operations : List Operation) :
    LeavesFiles (showPlan previous operations : StateM World Unit) := by
  cases previous with
  | none => exact leavesFiles_outLine _
  | some previous => exact leaves_each leavesFiles_outLine _

theorem quiet_showSummary (output : Path) (summary : Files.Summary) :
    Quiet (showSummary output summary : StateM World Unit) :=
  (leaves_each (fun _ => quiet_errLine _) _).bind fun _ => leaves_each (fun _ => quiet_errLine _) _

/-- A step that runs to its end is followed by the next one. -/
theorem run_bind_of_ok {x : Run (StateM World) α} {f : α → Run (StateM World) β} {a : α}
    (h : world.run x.run = (.ok a, after)) :
    world.run (x >>= f).run = after.run (f a).run := by
  change world.run (x.run >>= ExceptT.bindCont f) = _
  rw [World.run_bind, h]
  rfl

/-- A step that stops is followed by none. -/
theorem run_bind_of_error {x : Run (StateM World) α} {f : α → Run (StateM World) β} {stop : Stop}
    (h : world.run x.run = (.error stop, after)) :
    world.run (x >>= f).run = (.error stop, after) := by
  change world.run (x.run >>= ExceptT.bindCont f) = _
  rw [World.run_bind, h]
  rfl

/-- Two steps stop where the first one does, or they end as the second one does. -/
theorem run_bind_cases {x : Run (StateM World) α} {f : α → Run (StateM World) β} {finish : Except Stop β}
    (h : world.run (x >>= f).run = (finish, after)) :
    (∃ stop, world.run x.run = (.error stop, after) ∧ finish = .error stop) ∨
      ∃ a between, world.run x.run = (.ok a, between) ∧ World.run between (f a).run = (finish, after) := by
  cases hx : world.run x.run with
  | mk result between =>
    cases result with
    | error stop =>
      rw [run_bind_of_error hx] at h
      obtain ⟨rfl, rfl⟩ := Prod.mk.inj h
      exact .inl ⟨stop, rfl, rfl⟩
    | ok a =>
      rw [run_bind_of_ok hx] at h
      exact .inr ⟨a, between, rfl, h⟩

/-- Steps of a run leave what each of them leaves, also where one of them stops it. -/
theorem leaves_bind {part : World → γ} {x : Run (StateM World) α} {f : α → Run (StateM World) β}
    (hx : Leaves part x.run) (hf : ∀ a, Leaves part (f a).run) : Leaves part (x >>= f).run := by
  intro world
  have hfirst := hx world
  obtain ⟨stop, hstop, -⟩ | ⟨a, between, ha, hlast⟩ :=
    run_bind_cases (Prod.eta (world.run (x >>= f).run)).symm
  · rw [hstop] at hfirst
    exact hfirst
  · have hsecond := hf a between
    rw [ha] at hfirst
    rw [hlast] at hsecond
    exact hsecond.trans hfirst

/-- A step that cannot stop is followed by the next one. -/
theorem run_lift_bind {x : StateM World α} {f : α → Run (StateM World) β} :
    world.run ((liftM x : Run (StateM World) α) >>= f).run =
      (world.run x).2.run (f (world.run x).1).run :=
  rfl

/-- If a run goes on behind a step, the step gave what it goes on with. -/
theorem run_orStop_ok {step : StateM World (Except Failure α)} {a : α}
    (h : world.run (orStop step : Run (StateM World) α).run = (.ok a, after)) :
    world.run step = (.ok a, after) := by
  rw [orStop, run_lift_bind] at h
  cases hstep : world.run step with
  | mk result between =>
    rw [hstep] at h
    cases result with
    | error failure => cases h
    | ok own =>
      cases h
      rfl

/-- A run goes on with what a step gives. -/
theorem run_orStop_of_ok {step : StateM World (Except Failure α)} {a : α}
    (h : world.run step = (.ok a, after)) :
    world.run (orStop step : Run (StateM World) α).run = (.ok a, after) := by
  rw [orStop, run_lift_bind, h]
  rfl

/-- A run stops where a step fails. -/
theorem run_orStop_of_error {step : StateM World (Except Failure α)} {failure : Failure}
    (h : world.run step = (.error failure, after)) :
    world.run (orStop step : Run (StateM World) α).run = (.error (.failed failure), after) := by
  rw [orStop, run_lift_bind, h]
  rfl

/-- Reading the configuration changes no file. -/
theorem leavesFiles_config : LeavesFiles (orStop Config.ofProject : Run (StateM World) Config).run := by
  intro world
  have hrun := Config.run_ofProject world
  generalize (world.run Config.ofProject).1 = result at hrun
  cases result with
  | ok config => rw [run_orStop_of_ok hrun]
  | error failure => rw [run_orStop_of_error hrun]

/-- A command whose exit code is zero ran to its end. -/
theorem perform_of_run_eq_zero {words : List String} {command : Command}
    (hreads : ofWords words = some command)
    (hexit : (world.run (run words : StateM World UInt32)).1 = 0) :
    world.run (perform command : Run (StateM World) Unit).run =
      (.ok (), (world.run (run words : StateM World UInt32)).2) := by
  rw [run, hreads] at hexit ⊢
  dsimp only at hexit ⊢
  rw [World.run_bind] at hexit ⊢
  cases hresult : world.run (perform command : Run (StateM World) Unit).run with
  | mk result after =>
    rw [hresult] at hexit
    cases result with
    | error stop => exact absurd hexit (show (1 : UInt32) ≠ 0 by decide)
    | ok _ => rfl

/-- A command that runs to its end has the exit code zero. -/
theorem run_of_perform {words : List String} {command : Command} (hreads : ofWords words = some command)
    (h : world.run (perform command : Run (StateM World) Unit).run = (.ok (), after)) :
    world.run (run words : StateM World UInt32) = (0, after) := by
  rw [run, hreads]
  dsimp only
  rw [World.run_bind, h]
  rfl

/-- A command that stops says why and has the exit code one. -/
theorem run_of_perform_error {words : List String} {command : Command} {stop : Stop}
    (hreads : ofWords words = some command)
    (h : world.run (perform command : Run (StateM World) Unit).run = (.error stop, after)) :
    world.run (run words : StateM World UInt32) = (1, { after with err := after.err ++ stop.text }) := by
  rw [run, hreads]
  dsimp only
  rw [World.run_bind, h]
  rfl

/-- An action in front of a run cannot stop it, so what both leave is left. -/
theorem leaves_lift_bind {part : World → γ} {x : StateM World α} {f : α → Run (StateM World) β}
    (hx : Leaves part x) (hf : ∀ a, Leaves part (f a).run) :
    Leaves part ((liftM x : Run (StateM World) α) >>= f).run := by
  intro world
  rw [run_lift_bind, hf, hx]

/-- Loading the document of a command is quiet. -/
theorem quiet_loadDocument (input : String) (config : Config) :
    Quiet (loadDocument input config : Run (StateM World) Document).run := by
  apply leaves_lift_bind (Source.quiet_load _ config.fetch)
  intro result
  cases result with
  | error failure => exact leaves_pure _
  | ok doc => exact leaves_pure _

/-- A document is loaded from a file if the text there is one. -/
theorem loadDocument_ok_iff {input : String} {path : Path} {config : Config} {doc : Document}
    (hsource : Source.ofString input = .file path) :
    (world.run (loadDocument input config : Run (StateM World) Document).run).1 = .ok doc ↔
      ∃ text, world.files.readText path = .ok text ∧ Document.ofText text = .ok doc := by
  rw [← Source.load_file_ok_iff config.fetch, loadDocument, hsource, run_lift_bind]
  cases (world.run ((Source.file path).load config.fetch)).1 with
  | error failure =>
    change Except.error _ = Except.ok doc ↔ _
    simp
  | ok own =>
    change Except.ok own = Except.ok doc ↔ _
    rw [Except.ok.injEq, Except.ok.injEq]

/-- The issues of a document go to the log only. -/
theorem quiet_check (doc : Document) (strict : Bool) :
    Quiet (check doc strict : Run (StateM World) (List Issue)).run := by
  apply leaves_lift_bind (leaves_each (fun issue => quiet_errLine _) doc.issues)
  intro _
  split
  · exact leaves_pure _
  · exact leaves_pure _

/-- Whether the issues of a document stop a command is settled by the verdict on them. -/
theorem result_check (world : World) (doc : Document) (strict : Bool) :
    (world.run (check doc strict : Run (StateM World) (List Issue)).run).1 =
      (Issue.verdict doc.issues strict).mapError Stop.failed := by
  rw [check, run_lift_bind]
  cases Issue.verdict doc.issues strict <;> rfl

end Command

end TypedClient
