import TypedClient.TypeScript.Syntax
import TypedClient.Operation.Basic

/-!
# Calls of the transport

The transport takes the path, for some methods a body, the path parameters if there are any, and the
configuration last. The shape of a call says which of these positions it has; signature and call are
both made from it.
-/

namespace TypedClient.TypeScript

/-- What stands in the body's position. -/
inductive BodyPosition
  /-- There is no such position. -/
  | omitted
  /-- The caller's data. -/
  | data
  /-- Nothing, written out so that later positions stay where they are. -/
  | undefined
deriving DecidableEq, Repr

/-- The shape of a call. -/
structure CallShape where
  body : BodyPosition
  pathParams : Bool
deriving DecidableEq, Repr

namespace CallShape

/-- The name of the parameter for path parameters. -/
def pathParamsName : String := "pathParams"

/-- The name of the parameter for the body. -/
def dataName : String := "data"

/-- The name of the parameter for the configuration. -/
def configName : String := "config"

/-- The shape for a method. Only `post`, `put` and `patch` have a position for the body. -/
def of (method : Method) (hasBody hasPathParams : Bool) : CallShape where
  body :=
    match method with
    | .get | .delete => .omitted
    | .post | .put | .patch => if hasBody then .data else .undefined
  pathParams := hasPathParams

/-- The shape for an operation. -/
def ofOperation (op : Operation) : CallShape :=
  .of op.method op.hasBody op.hasPathParams

/-- Whether the caller passes data. -/
def takesData (shape : CallShape) : Bool :=
  shape.body = .data

/-- The arguments of a call for a path. -/
def arguments (shape : CallShape) (path : String) : List Expr :=
  [.string path] ++
  (match shape.body with
    | .omitted => []
    | .data => [.ident dataName]
    | .undefined => [.undefined]) ++
  (if shape.pathParams then [.ident pathParamsName] else []) ++
  [.ident configName]

end CallShape

end TypedClient.TypeScript
