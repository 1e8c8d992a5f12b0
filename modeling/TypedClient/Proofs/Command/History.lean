import TypedClient.Proofs.Command.Generate
import TypedClient.Proofs.Operation.Shape
import Mathlib.Data.List.Chain

/-!
# Runs of `generate` one after the other

A run of `generate` in a project may find that nothing is to do, because its directory is there and the
cache has a record of a document with the same digest. Its output is current then if the directory was last
written for the document of that record (`Command.Turn.isCurrent_of_exit`). If another directory was
written for that document, the output need not be current, although the run ends well
(`Command.not_isCurrent_elsewhere`).
-/

namespace TypedClient.Command

open Files (Address Node Path)

variable {config : Config} {a : Address}

/-- A run of `generate`: its command line and the world in which it starts. -/
structure Turn where
  words : List String
  options : Generation
  reads : ofWords words = some (.generate options)
  start : World

namespace Turn

variable (turn : Turn)

/-- The exit code. -/
def exit : UInt32 :=
  (turn.start.run (run turn.words : StateM World UInt32)).1

/-- The world afterwards. -/
def finish : World :=
  (turn.start.run (run turn.words : StateM World UInt32)).2

/-- The run has this configuration. -/
def Uses (config : Config) : Prop :=
  (turn.start.run Config.ofProject).1 = .ok config

/-- The run loads this document. -/
def Loads (config : Config) (doc : Document) : Prop :=
  (turn.start.run
    (loadDocument (turn.options.source config) config : Run (StateM World) Document).run).1 = .ok doc

/-- The address of the output directory. -/
def directory (config : Config) : Address :=
  (turn.options.target config).address

/-- The run finds nothing to do for the document that it loads. -/
def Skips (config : Config) : Prop :=
  ∃ doc, turn.Loads config doc ∧ NothingToDo config turn.options doc turn.start.files

/-- The run writes a client to its end. -/
structure Writes (config : Config) : Prop where
  exit : turn.exit = 0
  dryRun : turn.options.dryRun = false
  work : ¬ turn.Skips config

/-- The run leaves the file at an address as it is. -/
def Leaves (a : Address) : Prop :=
  turn.finish.files.fileAt? a = turn.start.files.fileAt? a

/-- Afterwards the module with the operations of the document that the run loads is in the output
directory, as of some time. -/
def IsCurrent (config : Config) : Prop :=
  ∃ doc stamp, turn.Loads config doc ∧
    turn.finish.files.readText ((turn.options.target config).child "operations.ts") =
      .ok (operationsText config doc stamp)

variable {turn}

/-- A run that exits with zero ends well. -/
theorem endsWell (huses : turn.Uses config) (hexit : turn.exit = 0) :
    ∃ doc, Starts turn.start turn.options config doc ∧
      EndsWell config turn.options doc turn.start.files turn.finish.files := by
  have hrun := perform_of_run_eq_zero turn.reads hexit
  obtain ⟨own, doc, hstarts, hends⟩ := endsWell_of_generate hrun
  obtain rfl : own = config := Except.ok.inj (hstarts.uses.symm.trans huses)
  exact ⟨doc, hstarts, hends⟩

/-- A run that writes a client leaves it in its output directory, and its document in the cache. -/
theorem Writes.written (hwrites : turn.Writes config) (huses : turn.Uses config) :
    ∃ doc, Starts turn.start turn.options config doc ∧
      Written (turn.options.toJob config doc) turn.start.files turn.finish.files := by
  obtain ⟨doc, hstarts, hends⟩ := turn.endsWell huses hwrites.exit
  refine ⟨doc, hstarts, ?_⟩
  cases hends with
  | planned hdry _ =>
    rw [hwrites.dryRun] at hdry
    cases hdry
  | idle _ hidle _ => exact absurd ⟨doc, hstarts.loads, hidle⟩ hwrites.work
  | written _ _ hwritten => exact hwritten

end Turn

/-! ## Histories -/

/-- The files that the runs own, as far as they matter here: the record in the cache, and the operations
in each output directory. -/
def ownedFiles (config : Config) (turns : List Turn) : List Address :=
  (Cache.recordPath (cacheDir config)).address ::
    turns.map fun turn => turn.directory config ++ ["operations.ts"]

/-- Runs of `generate` in one project, one after the other. -/
structure History (config : Config) (turns : List Turn) : Prop where
  uses : ∀ turn ∈ turns, turn.Uses config
  /-- Between two runs nothing else writes their files. -/
  undisturbed : turns.IsChain fun earlier later => ∀ a ∈ ownedFiles config turns,
    later.start.files.fileAt? a = earlier.finish.files.fileAt? a
  /-- Of the documents that are loaded, no two with different texts have the same digest. -/
  distinguished : ∀ turn ∈ turns, ∀ next ∈ turns, ∀ doc other, turn.Loads config doc →
    next.Loads config other → doc.fingerprint = other.fingerprint → doc.canonical = other.canonical

/-- One of the runs writes a client, and those after it leave the file at an address as it is. -/
def LastWriter (config : Config) (turns : List Turn) (a : Address) (writer : Turn) : Prop :=
  ∃ before since, turns = before ++ writer :: since ∧ writer.Writes config ∧
    ∀ turn ∈ since, turn.Leaves a

/-- While the runs leave a file as it is, and nothing else writes it, it stays as the first of them
found it. -/
theorem fileAt?_of_leaves {since : List Turn} {first turn : Turn}
    (hchain : (since ++ [turn]).IsChain fun earlier later =>
      later.start.files.fileAt? a = earlier.finish.files.fileAt? a)
    (hleaves : ∀ turn ∈ since, turn.Leaves a) (hfirst : (since ++ [turn]).head? = some first) :
    turn.start.files.fileAt? a = first.start.files.fileAt? a := by
  induction since generalizing first with
  | nil =>
    obtain rfl := Option.some.inj hfirst
    rfl
  | cons next rest ih =>
    obtain rfl := Option.some.inj hfirst
    rw [List.cons_append, List.isChain_cons] at hchain
    obtain ⟨hnext, hrest⟩ := hchain
    obtain ⟨hown, hleaves⟩ := List.forall_mem_cons.mp hleaves
    obtain ⟨second, hsecond⟩ : ∃ second, (rest ++ [turn]).head? = some second := by
      cases rest <;> exact ⟨_, rfl⟩
    rw [ih hrest hleaves hsecond, hnext second hsecond, hown]

namespace History

variable {earlier later turns : List Turn} {turn writer : Turn}

/-- A run finds a file as the last writer has left it. -/
theorem fileAt?_of_lastWriter (h : History config (earlier ++ turn :: later))
    (hlast : LastWriter config earlier a writer)
    (ha : a ∈ ownedFiles config (earlier ++ turn :: later)) :
    turn.start.files.fileAt? a = writer.finish.files.fileAt? a := by
  obtain ⟨before, since, rfl, -, hleaves⟩ := hlast
  have hall : (before ++ writer :: since ++ turn :: later).IsChain fun earlier later =>
      later.start.files.fileAt? a = earlier.finish.files.fileAt? a :=
    h.undisturbed.imp fun _ _ hsame => hsame a ha
  have hpart : writer :: (since ++ [turn]) <:+: before ++ writer :: since ++ turn :: later :=
    ⟨before, later, by simp⟩
  have hchain := hall.infix hpart
  rw [List.isChain_cons] at hchain
  obtain ⟨first, hfirst⟩ : ∃ first, (since ++ [turn]).head? = some first := by
    cases since <;> exact ⟨_, rfl⟩
  rw [fileAt?_of_leaves hchain.2 hleaves hfirst, hchain.1 first hfirst]

/-- What the last writer has written for its document. -/
theorem settled_of_lastWriter (h : History config (earlier ++ turn :: later))
    (hlast : LastWriter config earlier a writer) :
    writer ∈ earlier ++ turn :: later ∧ ∃ doc, writer.Loads config doc ∧
      Settled config doc (writer.directory config) writer.finish.files := by
  obtain ⟨before, since, rfl, hwrites, -⟩ := hlast
  have hmem : writer ∈ before ++ writer :: since ++ turn :: later := by simp
  obtain ⟨doc, hstarts, hwritten⟩ := hwrites.written (h.uses writer hmem)
  exact ⟨hmem, doc, hstarts.loads, hwritten.settled⟩

end History

/-- A run that writes exits with zero only if the output is current afterwards, provided that if it finds
nothing to do, the last writers of that output and of the record in the cache have loaded the same
document. -/
theorem Turn.isCurrent_of_exit {earlier later : List Turn} {turn : Turn}
    (h : History config (earlier ++ turn :: later)) (hexit : turn.exit = 0)
    (hdry : turn.options.dryRun = false)
    (hskips : turn.Skips config → ∃ writer keeper,
      LastWriter config earlier (turn.directory config ++ ["operations.ts"]) writer ∧
      writer.directory config = turn.directory config ∧
      LastWriter config earlier (Cache.recordPath (cacheDir config)).address keeper ∧
      ∀ doc kept, writer.Loads config doc → keeper.Loads config kept →
        doc.canonical = kept.canonical) :
    turn.IsCurrent config := by
  have hturn : turn ∈ earlier ++ turn :: later := by simp
  obtain ⟨doc, hstarts, hends⟩ := turn.endsWell (h.uses turn hturn) hexit
  have hloads := hstarts.loads
  cases hends with
  | planned hplan _ =>
    rw [hdry] at hplan
    cases hplan
  | written _ _ hwritten =>
    obtain ⟨stamp, hoperations⟩ := hwritten.settled.operations
    exact ⟨doc, stamp, hloads, Files.Node.readText_child rfl (by decide) hwritten.paved hoperations⟩
  | idle _ hidle hfiles =>
    obtain ⟨writer, keeper, hwriter, hsame, hkeeper, hagree⟩ := hskips ⟨doc, hloads, hidle⟩
    obtain ⟨-, written, hwritten, houtput⟩ := h.settled_of_lastWriter hwriter
    obtain ⟨hmem, kept, hkept, hcache⟩ := h.settled_of_lastWriter hkeeper
    -- the digest in the record is that of the document, so the record was made for the same text
    have hcanonical : doc.canonical = kept.canonical := by
      obtain ⟨record, hhash, hrecord⟩ := hcache.record
      rw [← h.fileAt?_of_lastWriter hkeeper List.mem_cons_self] at hrecord
      have hdigest : doc.fingerprint = kept.fingerprint := by
        rw [← hhash, hidle.known.record.hash_eq hrecord]
      exact h.distinguished turn hturn keeper hmem doc kept hloads hkept hdigest
    obtain ⟨stamp, hoperations⟩ := houtput.operations
    rw [hsame, ← h.fileAt?_of_lastWriter hwriter (List.mem_cons_of_mem _ (List.mem_map.mpr
      ⟨turn, hturn, rfl⟩))] at hoperations
    have hdir : turn.start.files.IsDirectory (turn.directory config) := by
      refine Files.Node.isDirectory_above (List.prefix_append _ ["operations.ts"]) (by simp) ?_
      rw [Files.Node.fileAt?_eq_some.mp hoperations]
      exact Option.some_ne_none _
    refine ⟨doc, stamp, hloads, ?_⟩
    rw [hfiles]
    refine Files.Node.readText_child rfl (by decide) (Files.Node.paved_of_hasPath hidle.there hdir) ?_
    rw [operationsText,
      Document.operations_eq_of_canonical (hcanonical.trans (hagree written kept hwritten hkept).symm)]
    exact hoperations

/-! ## Some runs after each other -/

/-- A document without paths. -/
def bareText : String :=
  "\x7b\"openapi\":\"3.1.0\",\"info\":\x7b\"title\":\"t\",\"version\":\"1\"\x7d,\"paths\":\x7b\x7d\x7d"

/-- A world with that document and an empty directory. -/
def bareWorld : World :=
  .ofFiles (.directory [("openapi.json", .file bareText.toUTF8), ("b", .directory [])])

/-- No options. -/
def noOptions : Generation :=
  ⟨none, none, false, false, false, false⟩

/-- A run without options in that world. -/
def plainTurn : Turn :=
  ⟨["generate"], noOptions, by decide, bareWorld⟩

/-- Another run, which names the empty directory. -/
def elsewhereTurn : Turn :=
  ⟨["generate", "-o", "b"], { noOptions with output := some ⟨["b"]⟩ }, by decide, plainTurn.finish⟩

/-- The same run once more. -/
def repeatedTurn : Turn :=
  ⟨["generate"], noOptions, by decide, plainTurn.finish⟩

/-- What a run has for a configuration, and the text of the document that it loads. -/
def Turn.given (turn : Turn) : Option Config × Option String :=
  ((turn.start.run Config.ofProject).1.toOption,
    (turn.start.run (loadDocument (turn.options.source .default) .default :
      Run (StateM World) Document).run).1.toOption.map Document.canonical)

theorem Turn.uses_of_given {turn : Turn} (h : turn.given = (some .default, some bareText)) :
    turn.Uses .default := by
  have hconfig := congrArg Prod.fst h
  unfold Uses
  cases hresult : (turn.start.run Config.ofProject).1 with
  | error failure =>
    rw [given, hresult] at hconfig
    cases hconfig
  | ok config =>
    rw [given, hresult] at hconfig
    rw [Option.some.inj hconfig]

theorem Turn.canonical_of_given {turn : Turn} (h : turn.given = (some .default, some bareText))
    {doc : Document} (hloads : turn.Loads .default doc) : doc.canonical = bareText := by
  have htext := congrArg Prod.snd h
  rw [given, hloads] at htext
  exact Option.some.inj htext

theorem Turn.exists_loads_of_given {turn : Turn} (h : turn.given = (some .default, some bareText)) :
    ∃ doc, turn.Loads .default doc := by
  have htext := congrArg Prod.snd h
  unfold Loads
  cases hresult : (turn.start.run (loadDocument (turn.options.source .default) .default :
      Run (StateM World) Document).run).1 with
  | error stop =>
    rw [given, hresult] at htext
    cases htext
  | ok doc => exact ⟨doc, rfl⟩

/-- Runs with that document, each of which starts where the one before it ended, are a history. -/
theorem history_of_given {turns : List Turn}
    (hgiven : ∀ turn ∈ turns, turn.given = (some .default, some bareText))
    (hnext : turns.IsChain fun earlier later => later.start = earlier.finish) :
    History .default turns where
  uses turn hturn := Turn.uses_of_given (hgiven turn hturn)
  undisturbed := hnext.imp fun _ _ hstart _ _ => by rw [hstart]
  distinguished turn hturn next hother doc other hdoc hloads _ := by
    rw [Turn.canonical_of_given (hgiven turn hturn) hdoc,
      Turn.canonical_of_given (hgiven next hother) hloads]

theorem start_elsewhereTurn : elsewhereTurn.start = plainTurn.finish := by
  rw [elsewhereTurn]

theorem start_repeatedTurn : repeatedTurn.start = plainTurn.finish := by
  rw [repeatedTurn]

theorem directory_plainTurn : plainTurn.directory .default = (noOptions.target .default).address := by
  rw [Turn.directory, plainTurn]

theorem directory_repeatedTurn :
    repeatedTurn.directory .default = (noOptions.target .default).address := by
  rw [Turn.directory, repeatedTurn]

-- all in one, so that the world after the first run is computed once
set_option maxRecDepth 10000 in
theorem given_turns :
    (plainTurn.given = (some .default, some bareText) ∧ plainTurn.exit = 0 ∧
      plainTurn.start.files.hasPath (noOptions.target .default) = false) ∧
    (repeatedTurn.given = (some .default, some bareText) ∧ repeatedTurn.exit = 0 ∧
      repeatedTurn.start.files.hasPath (noOptions.target .default) ∧
      (repeatedTurn.start.run
        (Cache.lookup (cacheDir .default) (Digest.sha256 bareText))).1.1.unchanged) ∧
    elsewhereTurn.given = (some .default, some bareText) ∧ elsewhereTurn.exit = 0 ∧
      (elsewhereTurn.finish.files.readText
        ((elsewhereTurn.options.target .default).child "operations.ts")).toOption = none := by
  decide +kernel

/-- The first run writes a client, for its output directory is not there yet. -/
theorem writes_plainTurn : plainTurn.Writes .default where
  exit := given_turns.1.2.1
  dryRun := by
    rw [plainTurn]
    rfl
  work := by
    rintro ⟨doc, -, hidle⟩
    have hthere : plainTurn.start.files.hasPath (noOptions.target .default) := hidle.there
    rw [given_turns.1.2.2] at hthere
    cases hthere

/-- The second run finds nothing to do. -/
theorem skips_repeatedTurn : repeatedTurn.Skips .default := by
  obtain ⟨-, ⟨hgiven, -, hthere, hunchanged⟩, -⟩ := given_turns
  obtain ⟨doc, hloads⟩ := Turn.exists_loads_of_given hgiven
  have hoptions : repeatedTurn.options = noOptions := by rw [repeatedTurn]
  refine ⟨doc, hloads, ?_⟩
  rw [hoptions]
  obtain ⟨found, hlookup, hknown⟩ :=
    Cache.run_lookup repeatedTurn.start (cacheDir .default) (Digest.sha256 bareText)
  rw [hlookup] at hunchanged
  have hknows := hknown.mp hunchanged
  rw [← Turn.canonical_of_given hgiven hloads] at hknows
  exact ⟨rfl, rfl, hthere, hknows⟩

/-- The second of two equal runs leaves the output as the first one wrote it. -/
theorem isCurrent_of_exit_repeated :
    History .default ([plainTurn] ++ repeatedTurn :: []) ∧ repeatedTurn.exit = 0 ∧
      repeatedTurn.options.dryRun = false ∧ repeatedTurn.Skips .default ∧
      (repeatedTurn.Skips .default → ∃ writer keeper,
        LastWriter .default [plainTurn] (repeatedTurn.directory .default ++ ["operations.ts"]) writer ∧
        writer.directory .default = repeatedTurn.directory .default ∧
        LastWriter .default [plainTurn] (Cache.recordPath (cacheDir .default)).address keeper ∧
        ∀ doc kept, writer.Loads .default doc → keeper.Loads .default kept →
          doc.canonical = kept.canonical) ∧
      repeatedTurn.IsCurrent .default := by
  obtain ⟨⟨hfirst, -, -⟩, ⟨hsecond, hexit, -, -⟩, -⟩ := given_turns
  have hhistory : History .default ([plainTurn] ++ repeatedTurn :: []) :=
    history_of_given (List.forall_mem_cons.mpr ⟨hfirst, List.forall_mem_singleton.mpr hsecond⟩)
      (List.isChain_pair.mpr start_repeatedTurn)
  have hdry : repeatedTurn.options.dryRun = false := by
    rw [repeatedTurn]
    rfl
  have hlast : ∀ a, LastWriter .default [plainTurn] a plainTurn := fun a =>
    ⟨[], [], rfl, writes_plainTurn, fun turn hturn => absurd hturn List.not_mem_nil⟩
  have hskips : repeatedTurn.Skips .default → ∃ writer keeper,
      LastWriter .default [plainTurn] (repeatedTurn.directory .default ++ ["operations.ts"]) writer ∧
      writer.directory .default = repeatedTurn.directory .default ∧
      LastWriter .default [plainTurn] (Cache.recordPath (cacheDir .default)).address keeper ∧
      ∀ doc kept, writer.Loads .default doc → keeper.Loads .default kept →
        doc.canonical = kept.canonical := by
    refine fun _ => ⟨plainTurn, plainTurn, hlast _, ?_, hlast _, fun doc kept hdoc hkept => ?_⟩
    · exact directory_plainTurn.trans directory_repeatedTurn.symm
    · rw [Turn.canonical_of_given hfirst hdoc, Turn.canonical_of_given hfirst hkept]
  exact ⟨hhistory, hexit, hdry, skips_repeatedTurn, hskips, Turn.isCurrent_of_exit hhistory hexit hdry hskips⟩

/-- A run that names another directory than the one before it finds nothing to do there, exits with zero,
and leaves that directory empty. -/
theorem not_isCurrent_elsewhere :
    History .default ([plainTurn] ++ elsewhereTurn :: []) ∧ elsewhereTurn.exit = 0 ∧
      elsewhereTurn.options.dryRun = false ∧ ¬ elsewhereTurn.IsCurrent .default := by
  obtain ⟨⟨hfirst, -, -⟩, -, hsecond, hexit, hnone⟩ := given_turns
  have hhistory : History .default ([plainTurn] ++ elsewhereTurn :: []) :=
    history_of_given (List.forall_mem_cons.mpr ⟨hfirst, List.forall_mem_singleton.mpr hsecond⟩)
      (List.isChain_pair.mpr start_elsewhereTurn)
  have hdry : elsewhereTurn.options.dryRun = false := by
    rw [elsewhereTurn]
    rfl
  refine ⟨hhistory, hexit, hdry, ?_⟩
  rintro ⟨doc, stamp, -, hread⟩
  rw [hread] at hnone
  cases hnone

end TypedClient.Command
