import TypedClient.Proofs.Command.Again

/-!
# What a plan shows

A dry run of `generate` shows what would change against the document that the cache has. After a run that
wrote the client for one document, a dry run on another one prints what `diff` prints for the two files
(`Command.Turn.Writes.plan_prints_difference`): the document that the cache gives back is the one that is
in the file.
-/

namespace TypedClient.Command

open Files (Address Node Path)

variable {config : Config} {old new : Document} {options : Generation} {world after : World}
  {words : List String} {text : String} {failure : Failure}

/-! ## What is printed -/

/-- Lines as they are printed. -/
def printed : List String → String
  | [] => ""
  | line :: rest => line ++ "\n" ++ printed rest

theorem out_each_outLine (lines : List String) (world : World) :
    (world.run (each outLine lines : StateM World Unit)).2.out = world.out ++ printed lines := by
  induction lines generalizing world with
  | nil => exact String.append_empty.symm
  | cons line rest ih =>
    rw [each, World.run_bind, ih, printed, ← String.append_assoc]
    rfl

/-- A command line that is run in the world prints a text and exits with a code. -/
structure Prints (world : World) (words : List String) (code : UInt32) (text : String) : Prop where
  code : (world.run (run words : StateM World UInt32)).1 = code
  out : (world.run (run words : StateM World UInt32)).2.out = world.out ++ text

theorem prints_of_perform {command : Command} (hreads : ofWords words = some command)
    (h : world.run (perform command : Run (StateM World) Unit).run = (.ok (), after))
    (hout : after.out = world.out ++ text) : Prints world words 0 text := by
  have hrun := run_of_perform hreads h
  exact ⟨by rw [hrun], by rw [hrun, hout]⟩

/-- Without a configuration that can be read nothing is printed. -/
theorem prints_of_config_fails {command : Command} {rest : Config → Run (StateM World) Unit}
    (hreads : ofWords words = some command)
    (hbegins : (perform command : Run (StateM World) Unit) = orStop Config.ofProject >>= rest)
    (hconfig : world.run Config.ofProject = (.error failure, world)) : Prints world words 1 "" := by
  have hstop : world.run (perform command : Run (StateM World) Unit).run =
      (.error (.failed failure), world) := by
    rw [hbegins]
    exact run_bind_of_error (run_orStop_of_error hconfig)
  have hrun := run_of_perform_error hreads hstop
  exact ⟨by rw [hrun], by rw [hrun, String.append_empty]⟩

/-! ## Showing a difference -/

/-- What is printed for the change from one document to another. -/
def printedDifference (old new : Document) : String :=
  printed (differenceLines (difference old.operations new.operations))

/-- A dry run shows the difference to the document in the cache. -/
theorem Starts.prints_plan {record : Cache.Record} (h : Starts world options config new)
    (hreads : ofWords words = some (.generate options)) (hdry : options.dryRun)
    (hfinds : Cache.Finds world.files (cacheDir config) old record) :
    Prints world words 0 (printedDifference old new) := by
  obtain ⟨asked, ready, hasked, hready, hrun⟩ := h.run_generateClient
  have hfiles : asked.files = world.files := congrArg Prod.fst hasked
  have hout : ready.out = world.out := congrArg Prod.snd hready
  rw [← hfiles] at hfinds
  rw [hfinds.run_lookup, proceed, if_pos hdry] at hrun
  refine prints_of_perform hreads hrun ?_
  rw [← hout]
  exact out_each_outLine _ ready

/-- Comparing two files shows the difference of their documents. -/
theorem prints_diff {a b : String} (hreads : ofWords words = some (.diff a b))
    (hconfig : (world.run Config.ofProject).1 = .ok config)
    (hold : ∀ now : World, now.files = world.files →
      (now.run (loadDocument a config : Run (StateM World) Document).run).1 = .ok old)
    (hnew : ∀ now : World, now.files = world.files →
      (now.run (loadDocument b config : Run (StateM World) Document).run).1 = .ok new) :
    Prints world words 0 (printedDifference old new) := by
  -- until the difference is shown, all steps leave the files and the output as they are
  have hload : ∀ {input doc}, (∀ now : World, now.files = world.files →
      (now.run (loadDocument input config : Run (StateM World) Document).run).1 = .ok doc) →
      ∀ now : World, now.results = world.results → ∃ loaded : World, loaded.results = world.results ∧
        now.run (loadDocument input config : Run (StateM World) Document).run = (.ok doc, loaded) := by
    intro input doc hdoc now hnow
    refine ⟨_, (quiet_loadDocument input config now).trans hnow, ?_⟩
    rw [← hdoc now (congrArg Prod.fst hnow)]
  have hstarted : world.run (orStop Config.ofProject : Run (StateM World) Config).run =
      (.ok config, world) := run_orStop_of_ok (by rw [Config.run_ofProject, hconfig])
  obtain ⟨first, hfirst, hrunOld⟩ := hload hold world rfl
  have hextracted := (quiet_extract old first).trans hfirst
  obtain ⟨second, hsecond, hrunNew⟩ := hload hnew _ hextracted
  have hready := (quiet_extract new second).trans hsecond
  have hops : (first.run (extract old : StateM World (List Operation))).1 = old.operations := rfl
  have hopsNew : (second.run (extract new : StateM World (List Operation))).1 = new.operations := rfl
  have hrun : world.run (perform (.diff a b) : Run (StateM World) Unit).run =
      (second.run (extract new : StateM World (List Operation))).2.run
        (liftM (showDifference (difference old.operations new.operations) : StateM World Unit) :
          Run (StateM World) Unit).run := by
    rw [perform, compareDocuments, run_bind_of_ok hstarted, run_bind_of_ok hrunOld, run_lift_bind, hops,
      run_bind_of_ok hrunNew, run_lift_bind, hopsNew]
  generalize (second.run (extract new : StateM World (List Operation))).2 = ready at hready hrun
  refine prints_of_perform hreads hrun ?_
  have hout : ready.out = world.out := congrArg Prod.snd hready
  rw [← hout]
  exact out_each_outLine _ ready

/-! ## After a run -/

/-- A run with its output directory in the place of the configuration leaves none that can be read. -/
theorem Written.config_fails {job : Job} {before : Node} (h : Written job before world.files)
    (hplace : [Config.fileName] ∈ job.output.trail) :
    ∃ failure, world.run Config.ofProject = (.error failure, world) := by
  have hpaved : world.files.Paved Config.path := by
    refine ⟨h.paved.start, fun v hv => ?_⟩
    rw [Config.trail_path, List.mem_singleton] at hv
    exact h.paved.trail v (hv ▸ hplace)
  have hne : Config.path.isEmpty = false := by decide +kernel
  exact Config.run_ofProject_of_fault (hpaved.hasPath hne) (hpaved.readText hne)

namespace Turn

variable {turn plan : Turn} {beside : World} {path next : Path} {a b : String}

/-- After a run that wrote the client for one document, a dry run on another one prints what comparing the
two files prints, and exits with the same code: with zero, unless the output directory is in the place of
the configuration. -/
theorem Writes.plan_prints_difference (hwrites : turn.Writes config) (huses : turn.Uses config)
    (hold : turn.Loads config old) (hsource : Source.ofString (turn.options.source config) = .file path)
    (hdepth : old.root.depth ≤ Json.maxDepth)
    (hreals : old.root.AllNumbers Json.Number.RealReadsBack)
    (hnew : ∃ text, turn.start.files.readText next = .ok text ∧ Document.ofText text = .ok new)
    (hkeepsOld : turn.finish.files.readText path = turn.start.files.readText path)
    (hkeepsNew : turn.finish.files.readText next = turn.start.files.readText next)
    (hplan : plan.start.files = turn.finish.files) (hdry : plan.options.dryRun)
    (hplanned : Source.ofString (plan.options.source config) = .file next)
    (hpasses : ∃ issues, Issue.verdict new.issues (plan.options.strict || config.strict) = .ok issues)
    (hbeside : beside.files = turn.finish.files) (hreads : ofWords words = some (.diff a b))
    (ha : Source.ofString a = .file path) (hb : Source.ofString b = .file next) :
    ∃ code text, Prints plan.start plan.words code text ∧ Prints beside words code text ∧
      ([Config.fileName] ∉ (turn.options.target config).trail →
        code = 0 ∧ text = printedDifference old new) := by
  obtain ⟨own, hstarts, hwritten⟩ := hwrites.written huses
  obtain rfl : own = old := Except.ok.inj (hstarts.loads.symm.trans hold)
  by_cases hplace : [Config.fileName] ∈ (turn.options.target config).trail
  · -- the directory cannot be read as a configuration
    have hfails : ∀ world : World, world.files = turn.finish.files →
        ∃ failure, world.run Config.ofProject = (.error failure, world) := by
      intro world hfiles
      rw [← hfiles] at hwritten
      exact hwritten.config_fails hplace
    obtain ⟨failure, hplanFails⟩ := hfails plan.start hplan
    obtain ⟨failure', hbesideFails⟩ := hfails beside hbeside
    exact ⟨1, "", prints_of_config_fails plan.reads rfl hplanFails,
      prints_of_config_fails hreads rfl hbesideFails, fun hnot => absurd hplace hnot⟩
  · have hconfig : ∀ world : World, world.files = turn.finish.files →
        (world.run Config.ofProject).1 = .ok config := by
      intro world hfiles
      have hagree := hwritten.agree_config huses hplace
      rw [← hfiles] at hagree
      rw [Config.ofProject_congr hagree, huses]
    have hloads : ∀ {input}, Source.ofString input = .file next → ∀ world : World,
        world.files = turn.finish.files →
        (world.run (loadDocument input config : Run (StateM World) Document).run).1 = .ok new := by
      intro input hinput world hfiles
      rw [loadDocument_ok_iff hinput, hfiles, hkeepsNew]
      exact hnew
    obtain ⟨text, htext, hdoc⟩ := (loadDocument_ok_iff hsource).mp hold
    have hreloads : ∀ world : World, world.files = turn.finish.files →
        (world.run (loadDocument a config : Run (StateM World) Document).run).1 = .ok own := by
      intro world hfiles
      rw [loadDocument_ok_iff ha, hfiles, hkeepsOld]
      exact ⟨text, htext, hdoc⟩
    -- the cache gives back the very document that is in the file
    obtain ⟨record, middle, -, hstored⟩ := hwritten.stored
    have hexact : own.Exact := ⟨Document.formed_of_ofText hdoc, hreals⟩
    have hfinds := hstored.finds (hexact.ofJsonText_canonical hdepth)
    have hbegins : Starts plan.start plan.options config new :=
      ⟨hconfig plan.start hplan, hloads hplanned plan.start hplan, hpasses⟩
    rw [← hplan] at hfinds
    exact ⟨0, printedDifference own new, hbegins.prints_plan plan.reads hdry hfinds,
      prints_diff hreads (hconfig beside hbeside) (fun now hnow => hreloads now (hnow.trans hbeside))
        fun now hnow => hloads hb now (hnow.trans hbeside), fun _ => ⟨rfl, rfl⟩⟩

end Turn

/-! ## A plan for one of two documents -/

/-- A document with one operation. -/
def singleText : String :=
  "\x7b\"openapi\":\"3.1.0\",\"info\":\x7b\"title\":\"t\",\"version\":\"1\"\x7d,\"paths\":" ++
    "\x7b\"/x\":\x7b\"get\":\x7b\"operationId\":\"x\"\x7d\x7d\x7d\x7d"

/-- The document of that text. -/
def singleDocument : Document where
  root := .object [("openapi", .string "3.1.0"),
    ("info", .object [("title", .string "t"), ("version", .string "1")]),
    ("paths", .object [("/x", .object [("get", .object [("operationId", .string "x")])])])]

theorem ofText_singleText : Document.ofText singleText = .ok singleDocument := by
  cbv

/-- A run for the document without paths, with the other document beside it. -/
def pairedTurn : Turn :=
  ⟨["generate"], noOptions, plainTurn.reads,
    .ofFiles (.directory [("openapi.json", .file bareText.toUTF8), ("two.json", .file singleText.toUTF8)])⟩

/-- A dry run for the other document after that run. -/
def plannedTurn : Turn :=
  ⟨["generate", "-i", "two.json", "--dry-run"],
    { noOptions with input := some "two.json", dryRun := true }, by decide, pairedTurn.finish⟩

-- all in one, so that the world after the first run is computed once
set_option maxRecDepth 10000 in
theorem isBare_pairedTurn :
    pairedTurn.IsBare ⟨["openapi.json"]⟩ ∧
      pairedTurn.start.files.hasPath (noOptions.target .default) = false ∧
      pairedTurn.start.files.readText ⟨["two.json"]⟩ = .ok singleText ∧
      pairedTurn.finish.files.readText ⟨["openapi.json"]⟩ = .ok bareText ∧
      pairedTurn.finish.files.readText ⟨["two.json"]⟩ = .ok singleText := by
  decide +kernel

/-- The dry run prints the line for the operation that is new, as comparing the two files does. -/
theorem plan_prints_difference_paired :
    Prints plannedTurn.start plannedTurn.words 0 "+ x\n+1 added, -0 removed, ~0 modified\n" ∧
      Prints pairedTurn.finish ["diff", "--old", "openapi.json", "--new", "two.json"] 0
        "+ x\n+1 added, -0 removed, ~0 modified\n" := by
  obtain ⟨hbare, hthere, hnew, hold, hkept⟩ := isBare_pairedTurn
  have hsucceeds := hbare.succeeds
  have hwrites : pairedTurn.Writes .default := by
    refine ⟨hbare.exit, hbare.dryRun, ?_⟩
    rintro ⟨doc, -, hidle⟩
    have hfound : pairedTurn.start.files.hasPath (noOptions.target .default) := hidle.there
    rw [hthere] at hfound
    cases hfound
  have hreals : bareDocument.root.AllNumbers Json.Number.RealReadsBack := by
    simp [bareDocument, Json.AllNumbers, Json.AllNumbersEntries]
  have hverdict : ∃ issues, Issue.verdict singleDocument.issues
      (plannedTurn.options.strict || Config.default.strict) = .ok issues := by
    have hnot : ¬ Issue.blocking singleDocument.issues
        (plannedTurn.options.strict || Config.default.strict) := by decide +kernel
    exact ⟨_, if_neg hnot⟩
  have hreads : ofWords ["diff", "--old", "openapi.json", "--new", "two.json"] =
      some (.diff "openapi.json" "two.json") := by decide
  have hstart : plannedTurn.start.files = pairedTurn.finish.files := by rw [plannedTurn]
  have hdry : plannedTurn.options.dryRun := by
    rw [plannedTurn]
  have hplanned : Source.ofString (plannedTurn.options.source .default) = .file ⟨["two.json"]⟩ := by
    rw [plannedTurn]
    decide +kernel
  have hplace : [Config.fileName] ∉ (pairedTurn.options.target .default).trail := by decide +kernel
  obtain ⟨code, text, hplan, hdiff, hall⟩ := Turn.Writes.plan_prints_difference hwrites hsucceeds.uses
    hsucceeds.loads hsucceeds.source hsucceeds.depth hreals ⟨singleText, hnew, ofText_singleText⟩
    (hold.trans hbare.text.symm) (hkept.trans hnew.symm) hstart hdry hplanned hverdict rfl hreads
    (by decide +kernel) (by decide +kernel)
  obtain ⟨rfl, rfl⟩ := hall hplace
  have htext : printedDifference bareDocument singleDocument =
      "+ x\n+1 added, -0 removed, ~0 modified\n" := by decide +kernel
  rw [htext] at hplan hdiff
  exact ⟨hplan, hdiff⟩

end TypedClient.Command
