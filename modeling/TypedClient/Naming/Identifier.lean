import TypedClient.Text.Quoted

/-!
# Identifiers

Names from a document become identifiers in camel case: a hyphen or an underscore in front of a
lower-case ASCII letter is dropped and the letter capitalized. Nothing else changes, so a converted
name stays as it is when it is converted again.
-/

namespace TypedClient.Naming

/-- Characters that separate the words of a name. -/
def isSeparator (c : Char) : Bool :=
  c = '-' || c = '_'

/-- Camel case on characters. -/
def camelCase : List Char → List Char
  | [] => []
  | [c] => [c]
  | c :: d :: rest =>
    if isSeparator c && d.isLower then d.toUpper :: camelCase rest else c :: camelCase (d :: rest)

/-- A name in camel case. -/
def toIdentifier (name : String) : String :=
  String.ofList (camelCase name.toList)

/-- Characters that may open an identifier: ASCII letters, the underscore and the dollar sign. -/
def opensIdentifier (c : Char) : Bool :=
  c.isAlpha || c = '_' || c = '$'

/-- Characters of an identifier: those that may open it, and ASCII digits. -/
def isIdentifierChar (c : Char) : Bool :=
  c.isAlphanum || c = '_' || c = '$'

/-- Whether characters make up an identifier. -/
def isIdentifierChars : List Char → Bool
  | [] => false
  | c :: cs => opensIdentifier c && cs.all isIdentifierChar

/-- Whether a name can be written bare, as an identifier or as an object key. -/
def isIdentifier (name : String) : Bool :=
  isIdentifierChars name.toList

/-- A name as an object key: bare if it is an identifier, else between quotes. -/
def propertyKey (name : String) : String :=
  if isIdentifier name then name else String.ofList (Text.quoted name.toList)

example : toIdentifier "org_member-id" = "orgMemberId" := by decide
example : toIdentifier "a--b" = "a-B" := by decide

end TypedClient.Naming
