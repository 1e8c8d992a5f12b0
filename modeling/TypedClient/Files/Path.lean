import TypedClient.Text.Split

/-!
# Paths

A path is a text cut at its slashes. Empty segments and single dots lead nowhere; the other segments
are the steps of the path, of which two dots lead back up. A path that ends with a slash or a dot
can only name a directory, and with a dot only one that is there.
-/

namespace TypedClient.Files

/-- A path as the segments between its slashes. -/
structure Path where
  segments : List String
deriving DecidableEq, Repr

namespace Path

/-- The path that a text spells. -/
def ofString (text : String) : Path :=
  ⟨(Text.split '/' text.toList).map String.ofList⟩

/-- The text of a path. -/
def text (path : Path) : String :=
  "/".intercalate path.segments

/-- Whether nothing is written. -/
def isEmpty (path : Path) : Bool :=
  path.segments.all (· = "") && path.segments.length < 2

/-- Whether a path starts at the root, whatever it is joined to. -/
def isAbsolute (path : Path) : Bool :=
  path.segments.head? = some "" && path.segments.length > 1

/-- Whether a segment leads nowhere. -/
def isIdle (segment : String) : Bool :=
  segment = "" || segment = "."

/-- The steps of a path. -/
def steps (path : Path) : List String :=
  path.segments.filter fun segment => !isIdle segment

/-- Whether a path can only name a directory. -/
def demandsDirectory (path : Path) : Bool :=
  match path.segments.getLast? with
  | some segment => isIdle segment || segment = ".."
  | none => false

/-- Whether the last thing that is written is a dot. No directory can be made under such a path. -/
def endsInDot (path : Path) : Bool :=
  (path.segments.reverse.find? fun segment => segment ≠ "") = some "."

/-- The second path seen from the first one. -/
def join (base path : Path) : Path :=
  if path.isAbsolute then path
  else if base.segments.getLast? = some "" then ⟨base.segments.dropLast ++ path.segments⟩
  else ⟨base.segments ++ path.segments⟩

/-- Segments without those at their end that lead nowhere. -/
def trimIdle (segments : List String) : List String :=
  (segments.reverse.dropWhile isIdle).reverse

/-- The path of the directory that holds what the path names. -/
def parent (path : Path) : Path :=
  ⟨trimIdle (trimIdle path.segments).dropLast⟩

end Path

end TypedClient.Files
