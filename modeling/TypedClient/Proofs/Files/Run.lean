import TypedClient.World
import TypedClient.Files.Batch

/-!
# Batches in a world

Of all that is in a world, a batch that is written changes the files alone. `World.Gives` says what an
action results in and what it leaves of the files; the lemmas below take the actions of a batch apart into
operations on a tree.
-/

namespace TypedClient

open Files

namespace World

variable {α β : Type}

theorem run_pure (world : World) (a : α) : world.run (pure a) = (a, world) :=
  rfl

theorem run_bind (world : World) (x : StateM World α) (f : α → StateM World β) :
    world.run (x >>= f) = (world.run x).2.run (f (world.run x).1) :=
  rfl

/-- Running the action gives the result and these files, and changes nothing else. -/
def Gives (world : World) (action : StateM World α) (result : α) (files : Node) : Prop :=
  world.run action = (result, { world with files })

variable {world : World} {files : Node}

/-- Two actions give what the second one gives in the tree that the first one leaves. -/
theorem Gives.bind {x : StateM World α} {f : α → StateM World β} {a : α} {b : β} {middle : Node}
    (hx : world.Gives x a middle) (hf : { world with files := middle }.Gives (f a) b files) :
    world.Gives (x >>= f) b files := by
  rw [Gives, run_bind, hx]
  exact hf

theorem gives_pure (a : α) : world.Gives (pure a) a world.files :=
  rfl

theorem gives_hasPath (path : Path) :
    world.Gives (Store.hasPath path) (world.files.hasPath path) world.files :=
  rfl

/-- In a world, directories are made as on its tree. -/
theorem gives_createDirectories (path : Path) :
    world.Gives (Store.createDirectories path) (world.files.createDirectories path).1
      (world.files.createDirectories path).2 :=
  rfl

theorem gives_removeTree (path : Path) :
    world.Gives (Store.removeTree path) () (world.files.removeTree path) :=
  rfl

/-- A change of the tree that works out is made. -/
theorem gives_change {f : Node → Except Fault Node} (h : f world.files = .ok files) :
    world.Gives (change f) (.ok ()) files := by
  simp [Gives, run, change, h]

/-- One that fails leaves the tree as it was. -/
theorem gives_change_error {f : Node → Except Fault Node} {fault : Fault}
    (h : f world.files = .error fault) : world.Gives (change f) (.error fault) world.files := by
  simp [Gives, run, change, h]

theorem gives_rename {source target : Path} (h : world.files.rename source target = .ok files) :
    world.Gives (Store.rename source target) (.ok ()) files :=
  gives_change (f := (·.rename source target)) h

theorem gives_rename_error {source target : Path} {fault : Fault}
    (h : world.files.rename source target = .error fault) :
    world.Gives (Store.rename source target) (.error fault) world.files :=
  gives_change_error (f := (·.rename source target)) h

theorem gives_removeFile {path : Path} (h : world.files.removeFile path = .ok files) :
    world.Gives (Store.removeFile path) (.ok ()) files :=
  gives_change (f := (·.removeFile path)) h

theorem gives_writeText {path : Path} {content : String}
    (h : world.files.writeFile path content.toUTF8 = .ok files) :
    world.Gives (Store.writeText path content) (.ok ()) files :=
  gives_change (f := (·.writeFile path content.toUTF8)) h

theorem gives_writeText_error {path : Path} {content : String} {fault : Fault}
    (h : world.files.writeFile path content.toUTF8 = .error fault) :
    world.Gives (Store.writeText path content) (.error fault) world.files :=
  gives_change_error (f := (·.writeFile path content.toUTF8)) h

/-! ## Writing with parents -/

section

variable {path : Path} {content : String}

/-- A file is written once the directories over it were made. -/
theorem gives_writeWithParents (hmake : (world.files.createDirectories path.parent).1 = .ok ())
    (hwrite : (world.files.createDirectories path.parent).2.writeFile path content.toUTF8 = .ok files) :
    world.Gives (writeWithParents path content) (.ok ()) files := by
  refine (gives_createDirectories path.parent).bind ?_
  rw [hmake]
  exact gives_writeText hwrite

/-- Directories that cannot be made stop the writing of a file. -/
theorem gives_writeWithParents_blocked {fault : Fault}
    (hmake : (world.files.createDirectories path.parent).1 = .error fault) :
    world.Gives (writeWithParents path content) (.error fault)
      (world.files.createDirectories path.parent).2 := by
  refine (gives_createDirectories path.parent).bind ?_
  rw [hmake]
  exact gives_pure _

/-- A file that cannot be written leaves the directories made for it. -/
theorem gives_writeWithParents_error {fault : Fault}
    (hmake : (world.files.createDirectories path.parent).1 = .ok ())
    (hwrite : (world.files.createDirectories path.parent).2.writeFile path content.toUTF8 = .error fault) :
    world.Gives (writeWithParents path content) (.error fault)
      (world.files.createDirectories path.parent).2 := by
  refine (gives_createDirectories path.parent).bind ?_
  rw [hmake]
  exact gives_writeText_error hwrite

end

/-! ## Moving with parents -/

variable {source target : Path}

/-- A file is moved once the directories over its target are made. -/
theorem gives_renameWithParents
    (hmake : (world.files.createDirectories target.parent).1 = .ok ())
    (hmove : (world.files.createDirectories target.parent).2.rename source target = .ok files) :
    world.Gives (renameWithParents source target) (.ok ()) files := by
  refine (gives_createDirectories target.parent).bind ?_
  rw [hmake]
  exact gives_rename hmove

/-- If these cannot be made, some of them may have been. -/
theorem gives_renameWithParents_blocked {fault : Fault}
    (hmake : (world.files.createDirectories target.parent).1 = .error fault) :
    world.Gives (renameWithParents source target) (.error fault)
      (world.files.createDirectories target.parent).2 := by
  refine (gives_createDirectories target.parent).bind ?_
  rw [hmake]
  exact gives_pure _

/-- If the file cannot be moved, all of them are there. -/
theorem gives_renameWithParents_error {fault : Fault}
    (hmake : (world.files.createDirectories target.parent).1 = .ok ())
    (hmove : (world.files.createDirectories target.parent).2.rename source target = .error fault) :
    world.Gives (renameWithParents source target) (.error fault)
      (world.files.createDirectories target.parent).2 := by
  refine (gives_createDirectories target.parent).bind ?_
  rw [hmake]
  exact gives_rename_error hmove

/-! ## Moving one file of a batch to its place -/

variable {batch : Batch} {path : Path} {middle : Node} {fault : Fault}

/-- If nothing is at its place, a file is moved there. -/
theorem gives_promote_missing (hfree : world.files.hasPath (batch.place path) = false)
    (hmove : world.Gives (renameWithParents (batch.stagedPath path) (batch.place path)) (.ok ()) files) :
    world.Gives (batch.promote path) (.ok ⟨path, false⟩) files := by
  refine (gives_hasPath _).bind ?_
  rw [hfree]
  exact (gives_pure (Except.ok ())).bind (hmove.bind (gives_pure _))

/-- If that fails, there is nothing to take back. -/
theorem gives_promote_missing_error (hfree : world.files.hasPath (batch.place path) = false)
    (hmove : world.Gives (renameWithParents (batch.stagedPath path) (batch.place path))
      (.error fault) files) :
    world.Gives (batch.promote path) (.error (.promote (batch.place path) fault)) files := by
  refine (gives_hasPath _).bind ?_
  rw [hfree]
  exact (gives_pure (Except.ok ())).bind (hmove.bind (gives_pure _))

/-- What cannot be moved aside stays at its place. -/
theorem gives_promote_aside_error (hthere : world.files.hasPath (batch.place path) = true)
    (haside : world.Gives (renameWithParents (batch.place path) (batch.backupPath path))
      (.error fault) files) :
    world.Gives (batch.promote path) (.error (.promote (batch.place path) fault)) files := by
  refine (gives_hasPath _).bind ?_
  rw [hthere]
  exact haside.bind (gives_pure _)

section

variable (hthere : world.files.hasPath (batch.place path) = true)
  (haside : world.Gives (renameWithParents (batch.place path) (batch.backupPath path)) (.ok ()) middle)

include hthere haside

/-- What is at the place of a file is moved aside first, and the file counts as backed up. -/
theorem gives_promote_existing
    (hmove : { world with files := middle }.Gives
      (renameWithParents (batch.stagedPath path) (batch.place path)) (.ok ()) files) :
    world.Gives (batch.promote path) (.ok ⟨path, true⟩) files := by
  refine (gives_hasPath _).bind ?_
  rw [hthere]
  exact haside.bind (hmove.bind (gives_pure _))

variable {made : Node}
  (hmove : { world with files := middle }.Gives
    (renameWithParents (batch.stagedPath path) (batch.place path)) (.error fault) made)

include hmove

/-- If the file cannot be moved to its place after that, what was moved aside is moved back. -/
theorem gives_promote_back (hback : made.rename (batch.backupPath path) (batch.place path) = .ok files) :
    world.Gives (batch.promote path) (.error (.promote (batch.place path) fault)) files := by
  refine (gives_hasPath _).bind ?_
  rw [hthere]
  refine haside.bind (hmove.bind ?_)
  have hthen : ({ world with files := made } : World).Gives
      (Store.rename (batch.backupPath path) (batch.place path)) (.ok ()) files := gives_rename hback
  exact hthen.bind (gives_pure _)

/-- If that fails as well, the fault is one of rolling back. -/
theorem gives_promote_back_error {worse : Fault}
    (hback : made.rename (batch.backupPath path) (batch.place path) = .error worse) :
    world.Gives (batch.promote path) (.error (.rollback (batch.place path) worse)) made := by
  refine (gives_hasPath _).bind ?_
  rw [hthere]
  refine haside.bind (hmove.bind ?_)
  have hthen : ({ world with files := made } : World).Gives
      (Store.rename (batch.backupPath path) (batch.place path)) (.error worse) made :=
    gives_rename_error hback
  exact hthen.bind (gives_pure _)

end

end World

end TypedClient
