import TypedClient.Proofs.Cache.Attempt
import TypedClient.Proofs.Json.Reread

/-!
# What the cache gives back

After a document was kept, the cache gives back that document and its record, whatever was in the cache
before and whatever became of earlier calls (`Cache.found_of_store`).
-/

namespace TypedClient.Cache

open Files (Node Path)

variable {world after : World} {dir : Path} {doc : Document} {record : Record}

/-! ## Reading -/

/-- The cache of the tree has this document and this record, and both can be read. -/
structure Finds (files : Node) (dir : Path) (doc : Document) (record : Record) : Prop where
  document : ∃ text, files.readText (specPath dir) = .ok text ∧ Document.ofJsonText text = .ok doc
  record : ∃ text, files.readText (recordPath dir) = .ok text ∧ Record.parse text = .ok record

namespace Finds

theorem run_load (h : Finds world.files dir doc record) :
    world.run (load dir) = (.ok (some record), world) := by
  obtain ⟨result, hrun, hresult⟩ := Cache.run_load world dir
  rw [hrun, (hresult record).mpr h.record]

theorem run_previous (h : Finds world.files dir doc record) :
    world.run (previous dir) = (.ok (some doc), world) := by
  obtain ⟨text, htext, hparse⟩ := h.document
  obtain ⟨result, hrun, hresult⟩ := run_readOptional world (specPath dir)
  rw [previous, World.run_bind, hrun, (hresult text).mpr htext]
  dsimp only
  rw [hparse]
  rfl

theorem run_isUnchanged (h : Finds world.files dir doc record) (hash : String) :
    world.run (isUnchanged dir hash) = (.ok (decide (hash = record.hash)), world) := by
  have hany : (some record).any (fun record => decide (record.hash = hash)) =
      decide (hash = record.hash) := by
    rw [Option.any_some]
    exact decide_eq_decide.mpr eq_comm
  rw [isUnchanged, World.run_bind, h.run_load, ← hany]
  rfl

theorem run_lookup (h : Finds world.files dir doc record) (hash : String) :
    world.run (lookup dir hash) = ((⟨some doc, decide (hash = record.hash)⟩, []), world) := by
  rw [lookup, World.run_bind, h.run_previous]
  dsimp only
  rw [World.run_bind, h.run_isUnchanged]
  rfl

end Finds

/-! ## What was kept -/

section

variable {files : Node}

theorem readText_specPath (hpaved : files.Paved dir)
    (h : files.fileAt? (specPath dir).address = some doc.canonical.toUTF8) :
    files.readText (specPath dir) = .ok doc.canonical := by
  rw [address_specPath] at h
  exact Node.readText_child rfl (by decide) hpaved h

theorem readText_recordPath (hpaved : files.Paved dir)
    (h : files.fileAt? (recordPath dir).address = some record.render.toUTF8) :
    files.readText (recordPath dir) = .ok record.render := by
  rw [address_recordPath] at h
  exact Node.readText_child rfl (by decide) hpaved h

end

/-- What was kept is found. -/
theorem Stored.finds {before after : Node} (h : Stored dir doc record before after)
    (hread : Document.ofJsonText doc.canonical = .ok doc) : Finds after dir doc record where
  document := ⟨doc.canonical, readText_specPath h.paved h.document, hread⟩
  record := ⟨record.render, readText_recordPath h.paved h.record, record.parse_render⟩

/-- A document that was kept is known as that of its record, if its text can be read. -/
theorem Stored.knows {before after : Node} (h : Stored dir doc record before after)
    (hread : ∃ own, Document.ofJsonText doc.canonical = .ok own) : Knows after dir record.hash := by
  obtain ⟨own, hown⟩ := hread
  exact ⟨⟨doc.canonical, own, readText_specPath h.paved h.document, hown⟩,
    record.render, record, readText_recordPath h.paved h.record, record.parse_render, rfl⟩

/-- After a document was kept, the cache gives back its record and the document with its keys in their
order, without a warning, and counts as unchanged what has the digest in that record. -/
theorem found_of_store (earlier : List Attempt) (hdoc : doc.Exact) (hdepth : doc.root.depth ≤ Json.maxDepth)
    (h : (finishAll dir world earlier).run (store dir doc record) = (.ok (), after)) :
    after.run (load dir) = (.ok (some record), after) ∧
      after.run (previous dir) = (.ok (some doc), after) ∧
      ∀ hash, after.run (lookup dir hash) =
        ((⟨some doc, decide (hash = record.hash)⟩, []), after) := by
  have hfinds := (stored_of_store h).finds (hdoc.ofJsonText_canonical hdepth)
  exact ⟨hfinds.run_load, hfinds.run_previous, hfinds.run_lookup⟩

/-- A document with an escape, a fraction and the greatest of its integers. -/
def sampleDocument : Document where
  root := .object [
    ("openapi", .string "3.1.0\n"),
    ("x", .array [.number (.real ⟨false, 6755399441055744, -52⟩),
      .number (.int 18446744073709551615)]),
    ("paths", .object [])]

/-- A world with a damaged cache. -/
def damagedWorld : World :=
  .ofFiles (.directory [(".acg", .directory [("cache.json", .file "x".toUTF8)])])

/-- A call that was cut short in that world, between its two writes. -/
def cutShort : Attempt :=
  ⟨⟨.object []⟩, ⟨"", "", ""⟩, 1⟩

theorem exact_sampleDocument : sampleDocument.Exact where
  object := ⟨_, rfl⟩
  root := by
    refine ⟨?_, ?_⟩
    · simp [sampleDocument, Json.DistinctKeys, Json.DistinctKeysItems, Json.DistinctKeysEntries]
    · simp [sampleDocument, Json.AllNumbers, Json.AllNumbersItems, Json.AllNumbersEntries,
        Json.Number.Fits, Json.Number.IsWord]
  reals := by
    have hreal : Json.Number.RealReadsBack (.real ⟨false, 6755399441055744, -52⟩) :=
      Json.Number.realReadsBack_of_reread (by decide +kernel) (by decide +kernel)
    exact ⟨trivial, ⟨hreal, trivial, trivial⟩, trivial, trivial⟩

/-- The cache gives back a document that was kept over what a call that was cut short has left. -/
theorem found_of_store_damaged :
    ∃ after : World, sampleDocument.Exact ∧ sampleDocument.root.depth ≤ Json.maxDepth ∧
      (finishAll ⟨[".acg"]⟩ damagedWorld [cutShort]).run
        (store ⟨[".acg"]⟩ sampleDocument ⟨"h", "\x01", "\"/"⟩) = (.ok (), after) ∧
      after.run (load ⟨[".acg"]⟩) = (.ok (some ⟨"h", "\x01", "\"/"⟩), after) ∧
      after.run (previous ⟨[".acg"]⟩) = (.ok (some sampleDocument), after) ∧
      ∀ hash, after.run (lookup ⟨[".acg"]⟩ hash) =
        ((⟨some sampleDocument, decide (hash = "h")⟩, []), after) := by
  have hok : ((finishAll ⟨[".acg"]⟩ damagedWorld [cutShort]).run
      (store ⟨[".acg"]⟩ sampleDocument ⟨"h", "\x01", "\"/"⟩)).1.isOk := by decide +kernel
  cases hrun : (finishAll ⟨[".acg"]⟩ damagedWorld [cutShort]).run
      (store ⟨[".acg"]⟩ sampleDocument ⟨"h", "\x01", "\"/"⟩) with
  | mk result after =>
    rw [hrun] at hok
    cases result with
    | error fault => cases hok
    | ok _ =>
      have hdepth : sampleDocument.root.depth ≤ Json.maxDepth := by decide
      exact ⟨after, exact_sampleDocument, hdepth, rfl,
        found_of_store [cutShort] exact_sampleDocument hdepth hrun⟩

end TypedClient.Cache
