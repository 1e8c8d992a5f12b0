import TypedClient.Proofs.Cache.Found
import TypedClient.Proofs.Command.History
import TypedClient.Proofs.Spec.Formed
import Mathlib.Data.List.Permutation

/-!
# A run of `generate` and the same run again

A run that has written a client leaves what the next run needs to find nothing to do: the output directory,
and the document with its record in the cache. So the same run again ends well and leaves all files as they
are (`Command.Turn.Repeats.idle`), provided that it still finds its configuration and its document, which
the first run may have replaced without writing them (`Command.not_idle_blocked_buried`).
-/

namespace TypedClient.Command

open Files (Address Node Path)

variable {config : Config} {doc : Document} {options : Generation} {world : World} {after : Node}

/-! ## What a run that has written leaves to be read -/

namespace Written

variable (h : Written (options.toJob config doc) world.files after)

include h

/-- The output directory is there. -/
theorem there (hne : (options.target config).isEmpty = false) : after.hasPath (options.target config) :=
  h.paved.hasPath hne

/-- The document is known, if the fractions in it can be read from what is printed for them. -/
theorem known (hdoc : doc.Formed) (hdepth : doc.root.depth ≤ Json.maxDepth)
    (hreals : doc.root.AllNumbers Json.Number.RealReads) :
    Cache.Knows after (cacheDir config) doc.fingerprint := by
  obtain ⟨record, middle, hhash, hstored⟩ := h.stored
  have hknows := hstored.knows (hdoc.exists_ofJsonText_canonical hdepth hreals)
  rw [hhash] at hknows
  exact hknows

/-- A text is read as before if the path to it visits no file that was written. -/
theorem readText {path : Path} {text : String}
    (hapart : ∀ v ∈ path.trail, v ∉ (options.toJob config doc).places world.files)
    (hread : world.files.readText path = .ok text) : after.readText path = .ok text :=
  h.changed.readText (Job.nil_not_mem_places _ _) hapart hread

/-- The configuration is read as before, unless the output directory is in its place. -/
theorem agree_config (huses : (world.run Config.ofProject).1 = .ok config)
    (hapart : [Config.fileName] ∉ (options.target config).trail) :
    world.files.Agree after Config.path := by
  refine h.changed.agree (Job.nil_not_mem_places _ _) (fun v hv => ?_) fun v hv hways hnone => ?_
  · rw [Config.trail_path, List.mem_singleton] at hv
    exact hv ▸ Job.fileName_not_mem_places _ _
  · rw [Config.trail_path, List.mem_singleton] at hv
    subst hv
    -- without a configuration the cache is where it is by default
    have hmissing : world.files.hasPath Config.path = false :=
      Node.hasPath_of_missing (by rwa [Config.address_path])
    rw [Config.run_ofProject_of_missing hmissing] at huses
    obtain rfl : Config.default = config := Except.ok.inj huses
    have hcache : [Config.fileName] ∉ (cacheDir .default).trail := by decide +kernel
    exact (List.mem_append.mp hways).elim hapart hcache

end Written

/-! ## The same run again -/

namespace Turn

variable {turn again : Turn} {path : Path}

/-- The second run comes after the first one, and has the same options but for those that ask for work. -/
structure Repeats (turn again : Turn) : Prop where
  start : again.start.files = turn.finish.files
  input : again.options.input = turn.options.input
  output : again.options.output = turn.options.output
  strict : again.options.strict = turn.options.strict
  force : again.options.force = false
  refresh : again.options.refresh = false

theorem source_eq (h : turn.Repeats again) : again.options.source config = turn.options.source config := by
  rw [Generation.source, Generation.source, h.input]

theorem target_eq (h : turn.Repeats again) : again.options.target config = turn.options.target config := by
  rw [Generation.target, Generation.target, h.output]

/-- A run that starts and finds nothing to do exits with zero and leaves all files as they are. -/
theorem exit_of_nothingToDo (hstarts : Starts turn.start turn.options config doc)
    (hidle : NothingToDo config turn.options doc turn.start.files) :
    turn.exit = 0 ∧ turn.finish.files = turn.start.files := by
  obtain ⟨after, hrun, hfiles⟩ := hstarts.run_of_nothingToDo hidle
  have hall := run_of_perform turn.reads hrun
  rw [exit, finish, hall]
  exact ⟨rfl, hfiles⟩

/-- The same run again starts with the same document if it finds the configuration and the text of the
document again. -/
theorem Repeats.starts (h : turn.Repeats again) (hstarts : Starts turn.start turn.options config doc)
    (hsource : Source.ofString (turn.options.source config) = .file path)
    (hconfig : turn.start.files.Agree turn.finish.files Config.path)
    (hread : ∀ text, turn.start.files.readText path = .ok text →
      turn.finish.files.readText path = .ok text) :
    Starts again.start again.options config doc where
  uses := by
    rw [← h.start] at hconfig
    rw [Config.ofProject_congr hconfig, hstarts.uses]
  loads := by
    obtain ⟨text, htext, hdoc⟩ := (loadDocument_ok_iff hsource).mp hstarts.loads
    rw [source_eq h, loadDocument_ok_iff hsource, h.start]
    exact ⟨text, hread text htext, hdoc⟩
  passes := by
    rw [h.strict]
    exact hstarts.passes

/-- A run that exits with zero and was to write a client, to a path that is not empty, for a document in a
file; the text that is printed for that document can be read. -/
structure Succeeds (turn : Turn) (config : Config) (doc : Document) (path : Path) : Prop where
  exit : turn.exit = 0
  dryRun : turn.options.dryRun = false
  uses : turn.Uses config
  loads : turn.Loads config doc
  source : Source.ofString (turn.options.source config) = .file path
  depth : doc.root.depth ≤ Json.maxDepth
  reals : doc.root.AllNumbers Json.Number.RealReads
  output : (turn.options.target config).isEmpty = false

/-- A run that ends well leaves nothing to do for the same run again: that exits with zero and leaves all
files as they are. If the first run writes, the path to the document must not visit a file that it writes,
and the path of the output must not visit the place of the configuration. -/
theorem Repeats.idle (h : turn.Repeats again) (hturn : turn.Succeeds config doc path)
    (hspec : turn.Writes config →
      ∀ v ∈ path.trail, v ∉ (turn.options.toJob config doc).places turn.start.files)
    (hconfig : turn.Writes config → [Config.fileName] ∉ (turn.options.target config).trail) :
    again.exit = 0 ∧ again.finish.files = turn.finish.files := by
  obtain ⟨own, hstarts, hends⟩ := turn.endsWell hturn.uses hturn.exit
  obtain rfl : own = doc := Except.ok.inj (hstarts.loads.symm.trans hturn.loads)
  suffices hfound : Starts again.start again.options config own ∧
      NothingToDo config again.options own again.start.files by
    obtain ⟨hagain, hfiles⟩ := exit_of_nothingToDo hfound.1 hfound.2
    exact ⟨hagain, hfiles.trans h.start⟩
  cases hends with
  | planned hplan _ =>
    rw [hturn.dryRun] at hplan
    cases hplan
  | idle _ hidle hfiles =>
    refine ⟨h.starts hstarts hturn.source ?_ ?_, ⟨h.force, h.refresh, ?_, ?_⟩⟩
    · rw [hfiles]
      exact ⟨rfl, fun _ _ => rfl⟩
    · rw [hfiles]
      exact fun _ => id
    · rw [h.start, hfiles, target_eq h]
      exact hidle.there
    · rw [h.start, hfiles]
      exact hidle.known
  | written _ hwork hwritten =>
    have hwrites : turn.Writes config := by
      refine ⟨hturn.exit, hturn.dryRun, ?_⟩
      rintro ⟨other, hother, hidle⟩
      obtain rfl : other = own := Except.ok.inj (hother.symm.trans hturn.loads)
      exact hwork hidle
    have hformed : own.Formed := by
      obtain ⟨text, -, hdoc⟩ := (loadDocument_ok_iff hturn.source).mp hturn.loads
      exact Document.formed_of_ofText hdoc
    refine ⟨h.starts hstarts hturn.source (hwritten.agree_config hturn.uses (hconfig hwrites))
      fun text => hwritten.readText (hspec hwrites), ⟨h.force, h.refresh, ?_, ?_⟩⟩
    · rw [h.start, target_eq h]
      exact hwritten.there hturn.output
    · rw [h.start]
      exact hwritten.known hformed hturn.depth hturn.reals

/-- The same command line once more. -/
def rerun (turn : Turn) : Turn :=
  { turn with start := turn.finish }

theorem repeats_rerun (hforce : turn.options.force = false) (hrefresh : turn.options.refresh = false) :
    turn.Repeats turn.rerun :=
  ⟨rfl, rfl, rfl, rfl, hforce, hrefresh⟩

/-- Neither the document nor the configuration is among the files that the run writes. -/
structure Spares (turn : Turn) (config : Config) (doc : Document) (path : Path) : Prop where
  document : path.address ∉ (turn.options.toJob config doc).places turn.start.files
  config : Config.path.address ∉ (turn.options.toJob config doc).places turn.start.files

instance (turn : Turn) (config : Config) (doc : Document) (path : Path) :
    Decidable (turn.Spares config doc path) :=
  decidable_of_iff (_ ∧ _) ⟨fun h => ⟨h.1, h.2⟩, fun h => ⟨h.document, h.config⟩⟩

/-- The run exits with zero in a project without a configuration, where the path leads to the document
without paths. -/
structure IsBare (turn : Turn) (path : Path) : Prop where
  exit : turn.exit = 0
  dryRun : turn.options.dryRun = false
  missing : turn.start.files.hasPath Config.path = false
  source : Source.ofString (turn.options.source .default) = .file path
  text : turn.start.files.readText path = .ok bareText
  output : (turn.options.target .default).isEmpty = false

instance (turn : Turn) (path : Path) : Decidable (turn.IsBare path) :=
  decidable_of_iff (_ ∧ _ ∧ _ ∧ _ ∧ _ ∧ _)
    ⟨fun h => ⟨h.1, h.2.1, h.2.2.1, h.2.2.2.1, h.2.2.2.2.1, h.2.2.2.2.2⟩,
      fun h => ⟨h.exit, h.dryRun, h.missing, h.source, h.text, h.output⟩⟩

end Turn

/-! ## Some runs and the same runs again -/

/-- The document without paths. -/
def bareDocument : Document where
  root := .object [("openapi", .string "3.1.0"),
    ("info", .object [("title", .string "t"), ("version", .string "1")]), ("paths", .object [])]

theorem ofText_bareText : Document.ofText bareText = .ok bareDocument := by
  cbv

theorem Turn.IsBare.succeeds {turn : Turn} {path : Path} (h : turn.IsBare path) :
    turn.Succeeds .default bareDocument path where
  exit := h.exit
  dryRun := h.dryRun
  uses := by rw [Turn.Uses, Config.run_ofProject_of_missing h.missing]
  loads := (loadDocument_ok_iff h.source).mpr ⟨bareText, h.text, ofText_bareText⟩
  source := h.source
  depth := by decide
  reals := by simp [bareDocument, Json.AllNumbers, Json.AllNumbersEntries]
  output := h.output

/-- A run whose output directory is where the configuration would be. -/
def blockedTurn : Turn :=
  ⟨["generate", "-o", ".acg.yaml"], { noOptions with output := some ⟨[".acg.yaml"]⟩ }, by decide, bareWorld⟩

/-- A world with the document in a directory that has the name of a file of the client. -/
def buriedWorld : World :=
  .ofFiles (.directory [("out", .directory [("operations.ts", .directory [("openapi.json",
    .file bareText.toUTF8)])])])

/-- A run that replaces that directory. -/
def buriedTurn : Turn :=
  ⟨["generate", "-i", "out/operations.ts/openapi.json", "-o", "out"],
    { noOptions with input := some "out/operations.ts/openapi.json", output := some ⟨["out"]⟩ }, by decide,
    buriedWorld⟩

-- all in one, so that the world after each run is computed once
set_option maxRecDepth 10000 in
theorem isBare_turns :
    plainTurn.IsBare ⟨["openapi.json"]⟩ ∧
    (blockedTurn.IsBare ⟨["openapi.json"]⟩ ∧ blockedTurn.rerun.exit ≠ 0) ∧
    buriedTurn.IsBare ⟨["out", "operations.ts", "openapi.json"]⟩ ∧ buriedTurn.rerun.exit ≠ 0 := by
  decide +kernel

/-- The plain run again finds nothing to do. -/
theorem idle_plainTurn :
    plainTurn.Repeats plainTurn.rerun ∧
      plainTurn.Succeeds .default bareDocument ⟨["openapi.json"]⟩ ∧
      (plainTurn.Writes .default → ∀ v ∈ (Files.Path.mk ["openapi.json"]).trail,
        v ∉ (plainTurn.options.toJob .default bareDocument).places plainTurn.start.files) ∧
      (plainTurn.Writes .default → [Config.fileName] ∉ (plainTurn.options.target .default).trail) ∧
      plainTurn.rerun.exit = 0 ∧ plainTurn.rerun.finish.files = plainTurn.finish.files := by
  have hrepeats : plainTurn.Repeats plainTurn.rerun :=
    Turn.repeats_rerun (by decide +kernel) (by decide +kernel)
  have hsucceeds := isBare_turns.1.succeeds
  have hspec : ∀ v ∈ (Files.Path.mk ["openapi.json"]).trail,
      v ∉ (plainTurn.options.toJob .default bareDocument).places plainTurn.start.files := by
    decide +kernel
  have hconfig : [Config.fileName] ∉ (plainTurn.options.target .default).trail := by decide +kernel
  exact ⟨hrepeats, hsucceeds, fun _ => hspec, fun _ => hconfig,
    Turn.Repeats.idle hrepeats hsucceeds (fun _ => hspec) fun _ => hconfig⟩

/-- A run may leave the configuration and the document unwritten and yet keep the same run again from
exiting with zero: its output directory is in the place of the configuration, or it replaces the directory
with the document in it by a file. -/
theorem not_idle_blocked_buried :
    (blockedTurn.Succeeds .default bareDocument ⟨["openapi.json"]⟩ ∧
      blockedTurn.Spares .default bareDocument ⟨["openapi.json"]⟩ ∧
      blockedTurn.Repeats blockedTurn.rerun ∧ blockedTurn.rerun.exit ≠ 0) ∧
    (buriedTurn.Succeeds .default bareDocument ⟨["out", "operations.ts", "openapi.json"]⟩ ∧
      buriedTurn.Spares .default bareDocument ⟨["out", "operations.ts", "openapi.json"]⟩ ∧
      buriedTurn.Repeats buriedTurn.rerun ∧ buriedTurn.rerun.exit ≠ 0) := by
  obtain ⟨-, ⟨hblocked, hblockedExit⟩, hburied, hburiedExit⟩ := isBare_turns
  exact ⟨⟨hblocked.succeeds, by decide +kernel,
      Turn.repeats_rerun (by decide +kernel) (by decide +kernel), hblockedExit⟩,
    hburied.succeeds, by decide +kernel,
    Turn.repeats_rerun (by decide +kernel) (by decide +kernel), hburiedExit⟩

end TypedClient.Command
