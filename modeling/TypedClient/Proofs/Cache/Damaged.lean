import TypedClient.Proofs.Cache.Found
import TypedClient.Proofs.Files.Unblocked
import TypedClient.Proofs.Spec.Formed

/-!
# Damaged caches

What the two files of a cache are taken for is a matter of their bytes alone: each of them is missing,
cannot be read, or says something. From this alone follows what the cache answers, and how often it
warns (`Cache.answers_lookup`). Nothing that is in the files keeps a document from being kept anew, and
then the cache is whole (`Cache.mends_of_usable`).
-/

namespace TypedClient.Cache

open Files (Node Path Store)

variable {world : World} {files : Node} {dir path : Path} {doc : Document} {record : Record}
  {hash : String}

/-! ## What the files say -/

/-- What is read from a file with these bytes, or from none: nothing if it is missing, and a fault if its
bytes are no text or its text cannot be read. -/
def reading {α ε : Type} (path : Path) (read : String → Except ε α) (blame : ε → Fault) :
    Option ByteArray → Except Fault (Option α)
  | none => .ok none
  | some content =>
    match String.fromUTF8? content with
    | none => .error (.io path .notText)
    | some text =>
      match read text with
      | .ok value => .ok (some value)
      | .error fault => .error (blame fault)

/-- What is read was read from a text. -/
theorem exists_text_of_reading {α ε : Type} {read : String → Except ε α} {blame : ε → Fault}
    {bytes : Option ByteArray} {value : α} (h : reading path read blame bytes = .ok (some value)) :
    ∃ text, read text = .ok value := by
  unfold reading at h
  split at h
  next => cases h
  next content =>
    split at h
    next => cases h
    next text _ =>
      split at h
      next own hown =>
        cases h
        exact ⟨text, hown⟩
      next => cases h

/-- What the file of the document says. -/
def documentIn (files : Node) (dir : Path) : Except Fault (Option Document) :=
  reading (specPath dir) Document.ofJsonText .spec (files.fileAt? (specPath dir).address)

/-- What the file of the record says. -/
def recordIn (files : Node) (dir : Path) : Except Fault (Option Record) :=
  reading (recordPath dir) Record.parse (.record (recordPath dir))
    (files.fileAt? (recordPath dir).address)

/-- The directory of a cache is there or no file is in its way, and at the places of its two files is
nothing or a file, whatever is in it. -/
structure Usable (files : Node) (dir : Path) : Prop where
  directory : files.Unblocked dir
  document : ¬ files.IsDirectory (specPath dir).address
  record : ¬ files.IsDirectory (recordPath dir).address

/-! ## Reading -/

/-- Reads a file that may be missing. -/
def readFile {α ε : Type} (path : Path) (read : String → Except ε α) (blame : ε → Fault) :
    StateM World (Except Fault (Option α)) := do
  match ← readOptional path with
  | .error fault => return .error fault
  | .ok none => return .ok none
  | .ok (some text) =>
    match read text with
    | .ok value => return .ok (some value)
    | .error fault => return .error (blame fault)

/-- The document of a cache is read from one file. -/
theorem previous_eq (dir : Path) :
    previous dir = readFile (specPath dir) Document.ofJsonText .spec := by
  refine bind_congr fun found => ?_
  match found with
  | .error fault => rfl
  | .ok none => rfl
  | .ok (some text) =>
    dsimp only
    cases Document.ofJsonText text <;> rfl

/-- The record of a cache is read from the other file. -/
theorem load_eq (dir : Path) :
    load dir = readFile (recordPath dir) Record.parse (.record (recordPath dir)) := by
  refine bind_congr fun found => ?_
  match found with
  | .error fault => rfl
  | .ok none => rfl
  | .ok (some text) =>
    dsimp only
    cases Record.parse text <;> rfl

/-- What is read of a file depends on its bytes only. -/
theorem run_readFile {α ε : Type} {bytes : Option ByteArray} (read : String → Except ε α)
    (blame : ε → Fault) (h : world.files.readText path = Files.textOf bytes) :
    world.run (readFile path read blame) = (reading path read blame bytes, world) := by
  have hread : world.run (Store.readText path) = (Files.textOf bytes, world) := by
    rw [← h]
    rfl
  rw [readFile, World.run_bind, readOptional, World.run_bind, hread]
  cases bytes with
  | none => rfl
  | some content =>
    rw [Files.textOf, reading]
    cases String.fromUTF8? content with
    | none => rfl
    | some text =>
      dsimp only
      rw [World.run_pure]
      dsimp only
      cases read text <;> rfl

/-- Reading the document of a usable cache changes nothing. -/
theorem Usable.run_previous (h : Usable world.files dir) :
    world.run (previous dir) = (documentIn world.files dir, world) := by
  rw [previous_eq]
  exact run_readFile _ _ (h.directory.readText_child rfl (by decide) h.document)

/-- Neither does reading its record. -/
theorem Usable.run_load (h : Usable world.files dir) :
    world.run (load dir) = (recordIn world.files dir, world) := by
  rw [load_eq]
  exact run_readFile _ _ (h.directory.readText_child rfl (by decide) h.record)

/-- The answer of a cache for a digest, and its warnings, by what its files say. -/
structure Answers (files : Node) (dir : Path) (hash : String) (hit : Hit)
    (warnings : List Log.Message) : Prop where
  /-- The document is the one in its file. -/
  previous : ∀ doc, hit.previous = some doc ↔ documentIn files dir = .ok (some doc)
  formed : ∀ doc, hit.previous = some doc → doc.Formed
  unchanged : hit.unchanged ↔ ∃ doc record, documentIn files dir = .ok (some doc) ∧
    recordIn files dir = .ok (some record) ∧ record.hash = hash
  /-- One warning if the document cannot be read. -/
  document_fault : ∀ fault, documentIn files dir = .error fault →
    warnings = [⟨.warn, "ignoring cached spec: " ++ fault.message⟩]
  /-- One warning if the document can be read and the record cannot. -/
  record_fault : ∀ doc fault, documentIn files dir = .ok (some doc) →
    recordIn files dir = .error fault →
      warnings = [⟨.warn, "ignoring cache metadata: " ++ fault.message⟩]
  /-- No warning for a document that is missing. -/
  silent_missing : documentIn files dir = .ok none → warnings = []
  /-- No warning where both can be read, or the record is missing. -/
  silent_read : ∀ doc found, documentIn files dir = .ok (some doc) →
    recordIn files dir = .ok found → warnings = []

theorem formed_of_documentIn (h : documentIn files dir = .ok (some doc)) : doc.Formed := by
  obtain ⟨text, hread⟩ := exists_text_of_reading h
  exact Document.formed_of_ofJsonText hread

/-- Looking for a document changes nothing, and the answer is that for what the files say. -/
theorem answers_lookup (h : Usable world.files dir) (hash : String) :
    ∃ hit warnings, world.run (lookup dir hash) = ((hit, warnings), world) ∧
      Answers world.files dir hash hit warnings := by
  rw [lookup, World.run_bind, h.run_previous]
  cases hdoc : documentIn world.files dir with
  | error fault =>
    refine ⟨_, _, rfl, ?_⟩
    constructor <;> simp [hdoc]
  | ok found =>
    cases found with
    | none =>
      refine ⟨_, _, rfl, ?_⟩
      constructor <;> simp [hdoc]
    | some doc =>
      have hformed := formed_of_documentIn hdoc
      dsimp only
      rw [World.run_bind, isUnchanged, World.run_bind, h.run_load]
      cases hrecord : recordIn world.files dir with
      | error fault =>
        refine ⟨_, _, rfl, ?_⟩
        constructor <;> simp [hdoc, hrecord, hformed, eq_comm]
      | ok found =>
        refine ⟨_, _, rfl, ?_⟩
        cases found <;> constructor <;> simp [hdoc, hrecord, hformed, eq_comm]

/-! ## Keeping a document -/

/-- A file that can be written is, before the rest. -/
theorem run_writeAll_of_writeFile {text : String} {next : Node} (rest : List (Path × String))
    (h : world.files.writeFile path text.toUTF8 = .ok next) :
    world.run (writeAll ((path, text) :: rest)) =
      ({ world with files := next } : World).run (writeAll rest) := by
  rw [writeAll, World.run_bind, World.gives_writeText h]

/-- A document can be kept whatever is in the files, if the directory is there or can be made. -/
theorem Usable.exists_store (h : Usable world.files dir) (hmake : world.files.Makeable dir)
    (doc : Document) (record : Record) :
    ∃ after, world.run (store dir doc record) = (.ok (), after) := by
  obtain ⟨middle, hfirst, hpaved, hkept⟩ := Node.exists_writeFile_child rfl (by decide)
    (h.directory.paved_createDirectories hmake)
    (h.directory.not_isDirectory_createDirectories rfl (by decide) h.document) doc.canonical.toUTF8
  have hplain : ¬ middle.IsDirectory (recordPath dir).address := by
    have hapart : ¬ (specPath dir).address <+: (recordPath dir).address := by
      rw [address_specPath, address_recordPath]
      simp
    rw [Node.IsDirectory, hkept _ hapart]
    exact h.directory.not_isDirectory_createDirectories rfl (by decide) h.record
  obtain ⟨last, hlast, -, -⟩ := Node.exists_writeFile_child rfl (by decide) hpaved hplain
    record.render.toUTF8
  refine ⟨{ world with files := last }, ?_⟩
  rw [store, World.run_bind, World.gives_createDirectories, h.directory.createDirectories_ok_iff.mpr hmake]
  dsimp only
  rw [contents, run_writeAll_of_writeFile _ hfirst, run_writeAll_of_writeFile _ hlast]
  rfl

/-- A document was kept in a directory that was there or could be made. -/
theorem Usable.makeable_of_store {after : World} (h : Usable world.files dir)
    (hstore : world.run (store dir doc record) = (.ok (), after)) : world.files.Makeable dir := by
  rw [store, World.run_bind, World.gives_createDirectories] at hstore
  cases hmake : (world.files.createDirectories dir).1 with
  | error fault =>
    rw [hmake] at hstore
    cases hstore
  | ok _ => exact h.directory.createDirectories_ok_iff.mp hmake

/-- After a document was kept, the cache has it, with the digest in its record and without a warning. -/
def Heals (world : World) (dir : Path) (doc : Document) (record : Record) : Prop :=
  ∃ after, world.run (store dir doc record) = (.ok (), after) ∧
    after.run (lookup dir record.hash) = ((⟨some doc, true⟩, []), after)

/-- After a document was stored, a usable cache answers with it. -/
theorem Usable.heals (h : Usable world.files dir) (hmake : world.files.Makeable dir) (hdoc : doc.Exact)
    (hdepth : doc.root.depth ≤ Json.maxDepth) (record : Record) : Heals world dir doc record := by
  obtain ⟨after, hstore⟩ := h.exists_store hmake doc record
  have hfinds := (stored_of_store hstore).finds (hdoc.ofJsonText_canonical hdepth)
  refine ⟨after, hstore, ?_⟩
  rw [hfinds.run_lookup, decide_eq_true rfl]

/-- A cache in which something was stored is usable. -/
theorem Stored.usable {before after : Node} (h : Stored dir doc record before after) :
    Usable after dir where
  directory := .inl h.paved
  document := Node.not_isDirectory_of_file (Node.fileAt?_eq_some.mp h.document)
  record := Node.not_isDirectory_of_file (Node.fileAt?_eq_some.mp h.record)

/-- What is not an object is kept as well, but it is not given back. -/
theorem Heals.object (h : Heals world dir doc record) : ∃ entries, doc.root = .object entries := by
  obtain ⟨after, hstore, hlookup⟩ := h
  obtain ⟨hit, warnings, hrun, hanswers⟩ :=
    answers_lookup (stored_of_store hstore).usable record.hash
  obtain ⟨rfl, -⟩ := Prod.mk.inj (Prod.mk.inj (hrun.symm.trans hlookup)).1
  exact (hanswers.formed doc rfl).object

/-- A cache answers by what its files say and changes nothing thereby. Any document can be kept in it, and
one that can be read again is found afterwards if it is an object; only a directory that is missing and
cannot be made, since its path ends in a dot, stands in the way. -/
structure Mends (world : World) (dir : Path) : Prop where
  answers : ∀ hash, ∃ hit warnings, world.run (lookup dir hash) = ((hit, warnings), world) ∧
    Answers world.files dir hash hit warnings
  stores : ∀ doc record,
    (∃ after, world.run (store dir doc record) = (.ok (), after)) ↔ world.files.Makeable dir
  heals : ∀ doc record, doc.root.Formed → doc.root.AllNumbers Json.Number.RealReadsBack →
    doc.root.depth ≤ Json.maxDepth →
      (Heals world dir doc record ↔
        (∃ entries, doc.root = .object entries) ∧ world.files.Makeable dir)

/-- A cache mends however its files are damaged. -/
theorem mends_of_usable (h : Usable world.files dir) : Mends world dir where
  answers := answers_lookup h
  stores doc record :=
    ⟨fun ⟨_, hstore⟩ => h.makeable_of_store hstore, fun hmake => h.exists_store hmake doc record⟩
  heals _ record hroot hreals hdepth := by
    refine ⟨fun hheals => ⟨hheals.object, ?_⟩, fun ⟨hobject, hmake⟩ => ?_⟩
    · obtain ⟨after, hstore, -⟩ := hheals
      exact h.makeable_of_store hstore
    · exact h.heals hmake ⟨⟨hobject, hroot⟩, hreals⟩ hdepth record

/-- A world with a cache of which both files are damaged: one is no text, and the other one ends early. -/
def tornWorld : World :=
  .ofFiles (.directory [(".acg", .directory
    [("spec.json", .file ⟨#[0xff]⟩), ("cache.json", .file "\x7b\"hash\":\"h".toUTF8)])])

theorem paved_cacheDirectory (entries : List (String × Node)) :
    (Node.directory [(".acg", .directory entries)]).Paved ⟨[".acg"]⟩ := by
  have htrail : Path.trail ⟨[".acg"]⟩ = [[".acg"]] := by decide
  refine ⟨rfl, ?_⟩
  rw [htrail, List.forall_mem_singleton]
  rfl

theorem usable_tornWorld : Usable tornWorld.files ⟨[".acg"]⟩ where
  directory := .inl (paved_cacheDirectory _)
  document := Node.not_isDirectory_of_file rfl
  record := Node.not_isDirectory_of_file rfl

theorem documentIn_tornWorld :
    documentIn tornWorld.files ⟨[".acg"]⟩ = .error (.io (specPath ⟨[".acg"]⟩) .notText) := by
  have hbytes : tornWorld.files.fileAt? (specPath ⟨[".acg"]⟩).address = some ⟨#[0xff]⟩ := rfl
  have htext : String.fromUTF8? ⟨#[0xff]⟩ = none := by decide +kernel
  rw [documentIn, hbytes, reading, htext]

/-- A cache of which both files are damaged warns once, and has a document after it was kept. -/
theorem mends_tornWorld :
    Usable tornWorld.files ⟨[".acg"]⟩ ∧
      (∀ hash, ∃ hit, tornWorld.run (lookup ⟨[".acg"]⟩ hash) = ((hit,
          [⟨.warn, "ignoring cached spec: cache I/O error at .acg/spec.json: stream did not " ++
            "contain valid UTF-8"⟩]), tornWorld) ∧ hit.previous = none ∧ ¬ hit.unchanged) ∧
      Heals tornWorld ⟨[".acg"]⟩ sampleDocument ⟨"h", "\x01", "\"/"⟩ := by
  have hmends := mends_of_usable usable_tornWorld
  have hdoc := documentIn_tornWorld
  refine ⟨usable_tornWorld, fun hash => ?_, ?_⟩
  · obtain ⟨hit, warnings, hrun, hanswers⟩ := hmends.answers hash
    obtain rfl := hanswers.document_fault _ hdoc
    refine ⟨hit, hrun, Option.eq_none_iff_forall_ne_some.mpr fun doc hprevious => ?_,
      fun hunchanged => ?_⟩
    · rw [hanswers.previous, hdoc] at hprevious
      cases hprevious
    · obtain ⟨doc, -, hthere, -⟩ := hanswers.unchanged.mp hunchanged
      rw [hdoc] at hthere
      cases hthere
  · exact (hmends.heals _ _ exact_sampleDocument.root exact_sampleDocument.reals (by decide)).mpr
      ⟨exact_sampleDocument.object, (paved_cacheDirectory _).makeable⟩

/-- A world with a cache that is empty. -/
def bareWorld : World :=
  .ofFiles (.directory [(".acg", .directory [])])

/-- A document that is no object can be kept, but then the cache does not have it. -/
theorem not_heals_array :
    Usable bareWorld.files ⟨[".acg"]⟩ ∧ Json.Formed (.array []) ∧
      Json.AllNumbers Json.Number.RealReadsBack (.array []) ∧ Json.depth (.array []) ≤ Json.maxDepth ∧
      (∃ after, bareWorld.run (store ⟨[".acg"]⟩ ⟨.array []⟩ ⟨"h", "", ""⟩) = (.ok (), after)) ∧
      ¬ Heals bareWorld ⟨[".acg"]⟩ ⟨.array []⟩ ⟨"h", "", ""⟩ := by
  have husable : Usable bareWorld.files ⟨[".acg"]⟩ :=
    ⟨.inl (paved_cacheDirectory _), fun hdir => hdir.ne_none rfl, fun hdir => hdir.ne_none rfl⟩
  have hformed : Json.Formed (.array []) := by
    refine ⟨?_, ?_⟩
    · simp [Json.DistinctKeys, Json.DistinctKeysItems]
    · simp [Json.AllNumbers, Json.AllNumbersItems]
  refine ⟨husable, hformed, trivial, by decide,
    husable.exists_store (paved_cacheDirectory _).makeable _ _, fun hheals => ?_⟩
  obtain ⟨entries, hentries⟩ := hheals.object
  cases hentries

end TypedClient.Cache
