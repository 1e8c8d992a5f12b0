import TypedClient.Naming.Identifier

/-!
# TypeScript syntax

The types and expressions that a generated module needs, and their text. Signatures and calls are
built from these nodes and never from pieces of text.
-/

namespace TypedClient.TypeScript

mutual

/-- A type. -/
inductive Ty
  /-- A named type. -/
  | ref (name : String)
  /-- A generic type with its arguments. -/
  | generic (name : String) (args : List Ty)
  /-- The type of one string. -/
  | literal (value : String)
  | union (types : List Ty)
  | object (properties : List Property)

/-- A property of an object type. -/
inductive Property
  | mk (name : String) (optional : Bool) (type : Ty)

end

/-- A parameter of a function. -/
structure Parameter where
  name : String
  optional : Bool
  type : Ty

/-- An expression. -/
inductive Expr
  | ident (name : String)
  | string (value : String)
  | undefined
  | member (object : Expr) (property : String)
  | call (callee : Expr) (typeArgs : List Ty) (args : List Expr)
  | arrow (params : List Parameter) (result : Option Ty) (body : Expr)

/-- The type of a path parameter's value. -/
def Ty.stringOrNumber : Ty := .union [.ref "string", .ref "number"]

/-! ## Text -/

/-- A string literal. -/
def literal (value : String) : String :=
  String.ofList (Text.quoted value.toList)

/-- Texts with a separator between them. -/
def join (separator : String) (texts : List String) : String :=
  separator.intercalate texts

/-- The mark behind the name of something that may be left out. -/
def optionalMark (optional : Bool) : String :=
  if optional then "?" else ""

mutual

/-- The text of a type. -/
def Ty.text : Ty → String
  | .ref name => name
  | .generic name args => name ++ "<" ++ join ", " (textOfTypes args) ++ ">"
  | .literal value => literal value
  | .union types => join " | " (textOfTypes types)
  | .object [] => "\x7b\x7d"
  | .object (first :: rest) =>
    "\x7b " ++ join "; " (first.text :: textOfProperties rest) ++ " \x7d"

/-- The texts of types. -/
def textOfTypes : List Ty → List String
  | [] => []
  | type :: rest => type.text :: textOfTypes rest

/-- The text of a property. -/
def Property.text : Property → String
  | .mk name optional type =>
    Naming.propertyKey name ++ optionalMark optional ++ ": " ++ type.text

/-- The texts of properties. -/
def textOfProperties : List Property → List String
  | [] => []
  | property :: rest => property.text :: textOfProperties rest

end

/-- The text of a parameter. -/
def Parameter.text (parameter : Parameter) : String :=
  parameter.name ++ optionalMark parameter.optional ++ ": " ++ parameter.type.text

/-- The text of type arguments in a call. -/
def typeArgsText : List Ty → String
  | [] => ""
  | args => "<" ++ join ", " (textOfTypes args) ++ ">"

mutual

/-- The text of an expression. -/
def Expr.text : Expr → String
  | .ident name => name
  | .string value => literal value
  | .undefined => "undefined"
  | .member object property => object.text ++ "." ++ property
  | .call callee typeArgs args =>
    callee.text ++ typeArgsText typeArgs ++ "(" ++ join ", " (textOfExprs args) ++ ")"
  | .arrow params result body =>
    "(" ++ join ", " (params.map Parameter.text) ++ ")" ++
      (match result with
        | some type => ": " ++ type.text
        | none => "") ++ " => " ++ body.text

/-- The texts of expressions. -/
def textOfExprs : List Expr → List String
  | [] => []
  | expr :: rest => expr.text :: textOfExprs rest

end

end TypedClient.TypeScript
