import TypedClient.Cache.Basic
import TypedClient.Proofs.Cache.Record
import TypedClient.Proofs.Files.Changed

/-!
# Keeping and finding records

When a document was kept, its record is in the cache and no other file of the tree has changed
(`Cache.stored_of_store`). A document counts as unchanged if the record in the cache has its digest and a
document is kept with it (`Cache.run_lookup`); looking for it changes nothing.
-/

namespace TypedClient.Cache

open Files (Node Path Store Address)

variable {world after : World} {dir path : Path} {doc : Document} {record : Record} {hash : String}

theorem address_specPath (dir : Path) : (specPath dir).address = dir.address ++ ["spec.json"] :=
  Files.Batch.address_child rfl (by decide)

theorem address_recordPath (dir : Path) : (recordPath dir).address = dir.address ++ ["cache.json"] :=
  Files.Batch.address_child rfl (by decide)

/-! ## Keeping -/

/-- The files of the second world are those of the first one and the two of the cache, with this record
in it. -/
structure Kept (dir : Path) (record : Record) (before after : Node) : Prop where
  record : after.fileAt? (recordPath dir).address = some record.render.toUTF8
  elsewhere : ∀ a, a ≠ (specPath dir).address → a ≠ (recordPath dir).address →
    after.fileAt? a = before.fileAt? a
  directory : ∀ a, before.IsDirectory a → after.IsDirectory a

theorem run_writeText (path : Path) (text : String) :
    world.run (Store.writeText path text) = World.change (·.writeFile path text.toUTF8) world :=
  rfl

theorem run_change_ok {f : Node → Except Files.Fault Node}
    (h : World.change f world = (.ok (), after)) : f world.files = .ok after.files := by
  rw [World.change] at h
  split at h
  next files heq =>
    cases h
    exact heq
  next => cases h

/-- The first file was written if all were. -/
theorem run_writeAll_cons {text : String} {rest : List (Path × String)}
    (h : world.run (writeAll ((path, text) :: rest)) = (.ok (), after)) :
    ∃ between : World, world.files.writeFile path text.toUTF8 = .ok between.files ∧
      between.run (writeAll rest) = (.ok (), after) := by
  rw [writeAll, World.run_bind, run_writeText] at h
  cases hwrite : World.change (·.writeFile path text.toUTF8) world with
  | mk result between =>
    rw [hwrite] at h
    cases result with
    | error fault => cases h
    | ok _ => exact ⟨between, run_change_ok hwrite, h⟩

/-- The two files of the cache have this document and this record, and nothing else has changed. -/
structure Stored (dir : Path) (doc : Document) (record : Record) (before after : Node) : Prop
    extends Kept dir record before after where
  paved : after.Paved dir
  document : after.fileAt? (specPath dir).address = some doc.canonical.toUTF8
  changed : before.Changed after [(specPath dir).address, (recordPath dir).address] dir.trail

theorem specPath_ne_recordPath (dir : Path) : (specPath dir).address ≠ (recordPath dir).address := by
  rw [address_specPath, address_recordPath]
  simp

/-- A document that was kept is in the cache with its record. -/
theorem stored_of_store (h : world.run (store dir doc record) = (.ok (), after)) :
    Stored dir doc record world.files after.files := by
  rw [store, World.run_bind, World.gives_createDirectories] at h
  cases hmake : (world.files.createDirectories dir).1 with
  | error fault =>
    rw [hmake] at h
    cases h
  | ok _ =>
    rw [hmake] at h
    obtain ⟨between, hwrite, h⟩ := run_writeAll_cons h
    obtain ⟨last, hlast, h⟩ := run_writeAll_cons h
    obtain rfl : last = after := (Prod.mk.inj h).2
    have hsteps : (specPath dir).steps ≠ [] := by
      rw [specPath, Path.steps_child rfl]
      exact List.concat_ne_nil _ _
    have hroot := Node.isDirectory_nil_of_createDirectories
      (Node.isDirectory_nil_of_writeFile hsteps hwrite)
    have hspec := Node.wrote_of_writeFile hwrite
    have hrecord := Node.wrote_of_writeFile hlast
    have hmade := Node.createDirectories_extends hroot dir
    have hpaved := Node.paved_of_createDirectories hroot hmake
    have hwrote := hspec.of_extended hmade
    refine ⟨⟨hrecord.there, fun a hnotspec hnotrecord => ?_, fun a hdir => ?_⟩,
      hrecord.paved (hspec.paved hpaved), ?_, ?_⟩
    · rw [hrecord.elsewhere a hnotrecord, hwrote.elsewhere a hnotspec]
    · exact hrecord.directory a (hwrote.directory a hdir)
    · rw [hrecord.elsewhere _ (specPath_ne_recordPath dir), hspec.there]
    · have hboth := (Node.changed_of_writeFile hwrite).append (Node.changed_of_writeFile hlast)
      have hall := hmade.changed.append hboth
      simpa only [List.nil_append, List.append_nil, List.cons_append] using hall

theorem Kept.paved {before after : Node} (h : Kept dir record before after) (hpaved : before.Paved path) :
    after.Paved path :=
  ⟨h.directory [] hpaved.start, fun v hv => h.directory v (hpaved.trail v hv)⟩

/-! ## Finding -/

/-- The cache of the tree has a record with this digest. -/
def HasRecord (files : Node) (dir : Path) (hash : String) : Prop :=
  ∃ text record, files.readText (recordPath dir) = .ok text ∧ Record.parse text = .ok record ∧
    record.hash = hash

/-- A record that was kept is the one that is found. -/
theorem HasRecord.hash_eq {files : Node} (h : HasRecord files dir hash)
    (hkept : files.fileAt? (recordPath dir).address = some record.render.toUTF8) :
    record.hash = hash := by
  obtain ⟨text, found, htext, hparse, hhash⟩ := h
  obtain ⟨content, hcontent, hutf⟩ := Node.fileAt?_of_readText htext
  obtain rfl : record.render.toUTF8 = content := Option.some.inj (hkept.symm.trans hcontent)
  obtain rfl : record.render = text :=
    Option.some.inj ((Node.fromUTF8?_toUTF8 record.render).symm.trans hutf)
  obtain rfl : record = found := Except.ok.inj (record.parse_render.symm.trans hparse)
  exact hhash

/-- The cache of the tree has a document that can be read, and a record with this digest. -/
structure Knows (files : Node) (dir : Path) (hash : String) : Prop where
  document : ∃ text doc, files.readText (specPath dir) = .ok text ∧ Document.ofJsonText text = .ok doc
  record : HasRecord files dir hash

/-- Reading a file that may be missing changes nothing, and gives the text that is in it. -/
theorem run_readOptional (world : World) (path : Path) :
    ∃ result, world.run (readOptional path) = (result, world) ∧
      ∀ text, result = .ok (some text) ↔ world.files.readText path = .ok text := by
  have hread : world.run (Store.readText path) = (world.files.readText path, world) := rfl
  rw [readOptional, World.run_bind, hread]
  cases htext : world.files.readText path with
  | ok text => exact ⟨.ok (some text), rfl, fun own => by simp⟩
  | error fault =>
    cases fault
    case notFound => exact ⟨.ok none, rfl, fun own => by simp⟩
    all_goals exact ⟨_, rfl, fun own => by simp⟩

/-- Reading the record changes nothing, and gives the one that is in the cache. -/
theorem run_load (world : World) (dir : Path) :
    ∃ result, world.run (load dir) = (result, world) ∧
      ∀ record, result = .ok (some record) ↔
        ∃ text, world.files.readText (recordPath dir) = .ok text ∧ Record.parse text = .ok record := by
  obtain ⟨result, hrun, hresult⟩ := run_readOptional world (recordPath dir)
  rw [load, World.run_bind, hrun]
  simp only [← hresult]
  match result with
  | .error fault => exact ⟨_, rfl, fun record => by simp⟩
  | .ok none => exact ⟨_, rfl, fun record => by simp⟩
  | .ok (some text) =>
    dsimp only
    cases hparse : Record.parse text with
    | error fault => exact ⟨_, rfl, fun record => by simp [hparse]⟩
    | ok own => exact ⟨.ok (some own), rfl, fun record => by simp [hparse]⟩

/-- Reading the document that was kept changes nothing, and gives one if one can be read. -/
theorem run_previous (world : World) (dir : Path) :
    ∃ result, world.run (previous dir) = (result, world) ∧
      ((∃ doc, result = .ok (some doc)) ↔
        ∃ text doc, world.files.readText (specPath dir) = .ok text ∧
          Document.ofJsonText text = .ok doc) := by
  obtain ⟨result, hrun, hresult⟩ := run_readOptional world (specPath dir)
  rw [previous, World.run_bind, hrun]
  simp only [← hresult]
  match result with
  | .error fault => exact ⟨_, rfl, by simp⟩
  | .ok none => exact ⟨_, rfl, by simp⟩
  | .ok (some text) =>
    dsimp only
    cases hparse : Document.ofJsonText text with
    | error fault => exact ⟨_, rfl, by simp [hparse]⟩
    | ok doc => exact ⟨.ok (some doc), rfl, by simp [hparse]⟩

/-- Comparing a digest with the record changes nothing, and the two are equal if the record in the cache
has that digest. -/
theorem run_isUnchanged (world : World) (dir : Path) (hash : String) :
    ∃ result, world.run (isUnchanged dir hash) = (result, world) ∧
      (result = .ok true ↔ HasRecord world.files dir hash) := by
  obtain ⟨result, hrun, hresult⟩ := run_load world dir
  have hrecord : HasRecord world.files dir hash ↔
      ∃ record, result = .ok (some record) ∧ record.hash = hash := by
    simp only [hresult, HasRecord]
    constructor
    · rintro ⟨text, record, htext, hparse, hhash⟩
      exact ⟨record, ⟨text, htext, hparse⟩, hhash⟩
    · rintro ⟨record, ⟨text, htext, hparse⟩, hhash⟩
      exact ⟨text, record, htext, hparse, hhash⟩
  rw [isUnchanged, World.run_bind, hrun, hrecord]
  match result with
  | .error fault => exact ⟨_, rfl, by simp⟩
  | .ok none => exact ⟨.ok false, rfl, by simp⟩
  | .ok (some record) => exact ⟨.ok (decide (record.hash = hash)), rfl, by simp⟩

/-- Looking for a document changes nothing, and one counts as unchanged if the cache has a document and a
record with its digest. -/
theorem run_lookup (world : World) (dir : Path) (hash : String) :
    ∃ found, world.run (lookup dir hash) = (found, world) ∧
      (found.1.unchanged ↔ Knows world.files dir hash) := by
  obtain ⟨result, hrun, hdocument⟩ := run_previous world dir
  have hknows : Knows world.files dir hash ↔
      (∃ doc, result = .ok (some doc)) ∧ HasRecord world.files dir hash :=
    ⟨fun h => ⟨hdocument.mpr h.document, h.record⟩, fun h => ⟨hdocument.mp h.1, h.2⟩⟩
  rw [lookup, World.run_bind, hrun, hknows]
  match result with
  | .error fault => exact ⟨_, rfl, by simp⟩
  | .ok none => exact ⟨_, rfl, by simp⟩
  | .ok (some doc) =>
    obtain ⟨result, hrun, hrecord⟩ := run_isUnchanged world dir hash
    dsimp only
    rw [World.run_bind, hrun, ← hrecord]
    match result with
    | .error fault => exact ⟨_, rfl, by simp⟩
    | .ok unchanged => exact ⟨(⟨some doc, unchanged⟩, []), rfl, by simp⟩

end TypedClient.Cache
