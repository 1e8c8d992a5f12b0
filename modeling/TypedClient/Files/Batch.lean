import TypedClient.Files.Store
import TypedClient.Files.Generated

/-!
# Batches of files

Generated files are written all or not at all. They are first staged in a directory of their own inside
the target and then moved to their places together. What was there before is moved aside; when a file
cannot be moved to its place, those that were moved already are taken back.
-/

namespace TypedClient.Files

/-- Why a batch was not written. -/
inductive BatchFault
  /-- A file, or the place for staged files, could not be made. -/
  | stage (path : Path) (fault : Fault)
  /-- A staged file could not be moved to its place. -/
  | promote (path : Path) (fault : Fault)
  /-- A file that was moved aside or to its place could not be taken back. -/
  | rollback (path : Path) (fault : Fault)

/-- What went wrong, in words. -/
def BatchFault.message : BatchFault → String
  | stage path fault => "failed to stage " ++ path.text ++ ": " ++ fault.message
  | promote path fault => "failed to promote " ++ path.text ++ ": " ++ fault.message
  | rollback path fault =>
    "rollback failed after promote error, " ++ path.text ++ " may be stale: " ++ fault.message

/-- A staged file, by its path below the target. -/
structure Staged where
  path : Path
  policy : Policy

/-- A file that was moved to its place, and whether an older one was moved aside for it. -/
structure Promoted where
  path : Path
  backedUp : Bool

/-- What a batch did, by paths below the target. -/
structure Summary where
  /-- The files that were written. -/
  written : List Path
  /-- The files that were left as they were. -/
  preserved : List Path

/-- A batch of files on their way to a target directory. -/
structure Batch where
  target : Path
  staging : Path
  /-- The staged files in order. -/
  staged : List Staged

namespace Batch

/-- Where a file is staged. -/
def stagedPath (batch : Batch) (path : Path) : Path :=
  (batch.staging.child "staged").join path

/-- Where the older version of a file is kept. -/
def backupPath (batch : Batch) (path : Path) : Path :=
  (batch.staging.child "backup").join path

/-- The place of a file. -/
def place (batch : Batch) (path : Path) : Path :=
  batch.target.join path

section

variable {m : Type → Type} [Monad m] [Store m]

/-! ## Staging -/

/-- Starts an empty batch for a directory, which is made if it is missing. -/
def start (target : Path) : m (Except BatchFault Batch) := do
  match ← Store.createDirectories target with
  | .error fault => return .error (.stage target fault)
  | .ok () =>
    match ← Store.createStaging target with
    | .error fault => return .error (.stage target fault)
    | .ok staging => return .ok ⟨target, staging, []⟩

/-- Stages a file. -/
def stage (batch : Batch) (file : Generated) : m (Except BatchFault Batch) := do
  let path := Path.ofString file.name
  match ← writeWithParents (batch.stagedPath path) file.content with
  | .error fault => return .error (.stage path fault)
  | .ok () => return .ok { batch with staged := batch.staged ++ [⟨path, file.policy⟩] }

/-- Stages files up to the first that cannot be staged; the batch keeps those before it. -/
def stageAll (batch : Batch) : List Generated → m (Batch × Except BatchFault Unit)
  | [] => return (batch, .ok ())
  | file :: rest => do
    match ← batch.stage file with
    | .error fault => return (batch, .error fault)
    | .ok batch => batch.stageAll rest

/-- Gives a batch up: nothing of it is left. -/
def discard (batch : Batch) : m Unit :=
  Store.removeTree batch.staging

/-! ## Writing -/

/-- Moves what is at the place of a file aside and the staged file there. -/
def promote (batch : Batch) (path : Path) : m (Except BatchFault Promoted) := do
  let place := batch.place path
  let backedUp ← Store.hasPath place
  let movedAside ←
    if backedUp then renameWithParents place (batch.backupPath path) else pure (.ok ())
  match movedAside with
  | .error fault => return .error (.promote place fault)
  | .ok () =>
    match ← renameWithParents (batch.stagedPath path) place with
    | .ok () => return .ok ⟨path, backedUp⟩
    | .error fault =>
      if backedUp then
        match ← Store.rename (batch.backupPath path) place with
        | .error worse => return .error (.rollback place worse)
        | .ok () => return .error (.promote place fault)
      else return .error (.promote place fault)

/-- Takes one file back: the older one returns, or the new one is removed. -/
def restore (batch : Batch) (file : Promoted) : m (Except Fault Unit) :=
  if file.backedUp then Store.rename (batch.backupPath file.path) (batch.place file.path)
  else Store.removeFile (batch.place file.path)

/-- Takes files back up to the first that cannot be taken back. -/
def rollback (batch : Batch) : List Promoted → m (Except BatchFault Unit)
  | [] => return .ok ()
  | file :: rest => do
    match ← batch.restore file with
    | .error fault => return .error (.rollback (batch.place file.path) fault)
    | .ok () => batch.rollback rest

/-- Whether a file stays as it is because its policy says so and it is there. -/
def isPreserved (batch : Batch) (file : Staged) : m Bool :=
  match file.policy with
  | .always => pure false
  | .ifMissing => Store.hasPath (batch.place file.path)

/-- Writes the files that are left. `promoted` holds those written so far, the last one first, and
`summary` what was done so far. -/
def promoteAll (batch : Batch) (promoted : List Promoted) (summary : Summary) :
    List Staged → m (Except BatchFault Summary)
  | [] => return .ok summary
  | file :: rest => do
    if ← batch.isPreserved file then
      batch.promoteAll promoted
        { summary with preserved := summary.preserved ++ [file.path] } rest
    else
      match ← batch.promote file.path with
      | .ok done =>
        batch.promoteAll (done :: promoted)
          { summary with written := summary.written ++ [file.path] } rest
      | .error fault =>
        match ← batch.rollback promoted with
        | .error worse => return .error worse
        | .ok () => return .error fault

/-- Writes the batch and removes the place of its staged files. -/
def commit (batch : Batch) : m (Except BatchFault Summary) := do
  let result ← batch.promoteAll [] ⟨[], []⟩ batch.staged
  batch.discard
  return result

end

end Batch

end TypedClient.Files
