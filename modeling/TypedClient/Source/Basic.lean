import TypedClient.Files.Path

/-!
# Where a document comes from

A document comes from a file or from a URL.
-/

namespace TypedClient

/-- Where a document comes from. -/
inductive Source
  | file (path : Files.Path)
  | url (address : String)
deriving DecidableEq, Repr

namespace Source

/-- The source that a text names: a URL if it starts like one, else a path. -/
def ofString (text : String) : Source :=
  if "http://".toList.isPrefixOf text.toList || "https://".toList.isPrefixOf text.toList then
    .url text
  else .file (.ofString text)

/-- The text of a source. -/
def text : Source → String
  | file path => path.text
  | url address => address

end Source

end TypedClient
