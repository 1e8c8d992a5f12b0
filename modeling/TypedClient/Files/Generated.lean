/-!
# Generated files

A generated file has a name, a content and a rule for what happens to a file that is there already.
-/

namespace TypedClient.Files

/-- What happens to a file that is there already. -/
inductive Policy
  /-- It is replaced. -/
  | always
  /-- It stays as it is, for it may have been edited by hand. -/
  | ifMissing
deriving DecidableEq, Repr

/-- The word for a policy. -/
def Policy.word : Policy → String
  | always => "always"
  | ifMissing => "ifMissing"

/-- A file to be written. -/
structure Generated where
  name : String
  content : String
  policy : Policy
deriving DecidableEq, Repr

end TypedClient.Files
