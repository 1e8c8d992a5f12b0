import TypedClient.Host

/-!
# Surroundings as a value

A world is a tree of files, what was written to the streams and the log so far, a time, and the replies
that the next attempts to fetch will get. Running the program in a world gives the world afterwards.
-/

namespace TypedClient

open Files (Fault Node Path)

/-- Surroundings as a value. -/
structure World where
  /-- The files, with the working directory as the root. What lies above it is not part of the world. -/
  files : Node
  /-- A number above those of all directories that were made for staged files. -/
  nextStaging : Nat
  out : String
  err : String
  /-- The messages that were reported. -/
  messages : List Log.Message
  time : String
  /-- The replies that are still to come. -/
  replies : List Reply

namespace World

/-- A world with the given files. -/
def ofFiles (files : Node) : World :=
  ⟨files, 0, "", "", [], "1970-01-01T00:00:00Z", []⟩

/-- Changes the files, unless that fails. -/
def change (f : Node → Except Fault Node) : StateM World (Except Fault Unit) := fun world =>
  match f world.files with
  | .ok files => (.ok (), { world with files })
  | .error fault => (.error fault, world)

/-- A number from `n` on whose name is not used. -/
def freshStaging (used : List String) (n : Nat) : Nat :=
  match (List.range used.length).find? fun k => Files.stagingName (n + k) ∉ used with
  | some k => n + k
  | none => n + used.length

/-- The address of a directory and the names in it. -/
def directory (files : Node) (path : Path) : Except Fault (Files.Address × List String) :=
  if path.isEmpty then .ok ([], files.names)
  else
    match files.find path with
    | .error fault => .error fault
    | .ok (_, .file _) => .error .notDirectory
    | .ok (address, node) => .ok (address, node.names)

/-- Makes a new directory for staged files. -/
def createStaging (path : Path) : StateM World (Except Fault Path) := fun world =>
  match directory world.files path with
  | .error fault => (.error fault, world)
  | .ok (address, used) =>
    let n := freshStaging used world.nextStaging
    (.ok (path.child (Files.stagingName n)),
      { world with
        files := world.files.put (address ++ [Files.stagingName n]) .empty
        nextStaging := n + 1 })

instance : Host (StateM World) where
  hasPath path := fun world => (world.files.hasPath path, world)
  readText path := fun world => (world.files.readText path, world)
  writeText path content := change (·.writeFile path content.toUTF8)
  createDirectories path := fun world =>
    let (result, files) := world.files.createDirectories path
    (result, { world with files })
  createStaging := createStaging
  rename source target := change (·.rename source target)
  removeFile path := change (·.removeFile path)
  removeTree path := fun world => ((), { world with files := world.files.removeTree path })
  out text := fun world => ((), { world with out := world.out ++ text })
  err text := fun world => ((), { world with err := world.err ++ text })
  log message := fun world =>
    ((), { world with
      messages := world.messages ++ [message]
      err := if message.level.isShown then world.err ++ message.line world.time else world.err })
  now := fun world => (world.time, world)
  fetch _ _ := fun world =>
    match world.replies with
    | [] => (.refused, world)
    | reply :: rest => (reply, { world with replies := rest })
  sleep _ := fun world => ((), world)

/-- Does something in a world and gives its result and the world afterwards. -/
def run {α : Type} (world : World) (action : StateM World α) : α × World :=
  action world

end World

end TypedClient
