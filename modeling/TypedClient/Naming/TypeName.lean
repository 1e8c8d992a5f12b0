import TypedClient.Text.Word

/-!
# Names of types

The name of a type comes from an operation's id in Pascal case. An id without letters and digits gives
`Unnamed`, and a name that would open with an ASCII digit is preceded by `Op`.
-/

namespace TypedClient.Naming

/-- The name for types of an operation, on characters. -/
def typeNameChars (id : List Char) : List Char :=
  match Text.pascalCase id with
  | [] => "Unnamed".toList
  | c :: cs => if c.isDigit then 'O' :: 'p' :: c :: cs else c :: cs

/-- The name for types of an operation. -/
def typeName (id : String) : String :=
  String.ofList (typeNameChars id.toList)

end TypedClient.Naming
