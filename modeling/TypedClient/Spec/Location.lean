import TypedClient.Json.Basic
import TypedClient.Text.Split

/-!
# Locations in a tree

A location is a path of steps from the root of a tree, each an object key or an array index. Its
pointer, in the form of RFC 6901, is a text with a slash before every step; a tilde in a step is
written `~0` and a slash `~1`. `Json.resolve` goes the other way, from a pointer to the value.
-/

namespace TypedClient

/-- One step down a tree. -/
inductive Step
  | key (name : String)
  | index (position : Nat)

/-- A path of steps from the root of a tree. -/
abbrev Location := List Step

namespace Step

/-- The text of a step before it is escaped. -/
def text : Step → List Char
  | key name => name.toList
  | index position => position.repr.toList

/-- What is written in a pointer for one character of a step. -/
def escapeChar (c : Char) : List Char :=
  if c = '~' then ['~', '0'] else if c = '/' then ['~', '1'] else [c]

end Step

/-- The pointer of a location. -/
def Location.pointer : Location → List Char
  | [] => []
  | step :: rest => '/' :: step.text.flatMap Step.escapeChar ++ Location.pointer rest

namespace Json

/-- The value one step down, if the step leads anywhere. -/
def step? : Json → Step → Option Json
  | .object entries, .key name => Entries.get? entries name
  | .array items, .index position => items[position]?
  | _, _ => none

/-- The value at a location, if the location leads anywhere. -/
def at? (root : Json) : Location → Option Json
  | [] => some root
  | step :: rest =>
    match root.step? step with
    | some value => value.at? rest
    | none => none

/-! ## Resolving a pointer -/

/-- Undoes the escapes of a step. -/
def unescapeToken : List Char → List Char
  | '~' :: '0' :: cs => '~' :: unescapeToken cs
  | '~' :: '1' :: cs => '/' :: unescapeToken cs
  | c :: cs => c :: unescapeToken cs
  | [] => []

/-- The steps of a pointer as texts, or `none` if a text is no pointer. -/
def pointerTokens : List Char → Option (List (List Char))
  | [] => some []
  | '/' :: cs => some ((Text.split '/' cs).map unescapeToken)
  | _ => none

/-- The array index that a step spells: decimal digits without a leading zero. -/
def indexOfToken (token : List Char) : Option Nat :=
  if token = [] || !token.all Char.isDigit then none
  else if token.head? = some '0' && token.length ≠ 1 then none
  else some (token.foldl (fun n c => n * 10 + (c.toNat - 48)) 0)

/-- Follows the steps of a pointer; on an array a step has to spell an index. -/
def follow (value : Json) : List (List Char) → Option Json
  | [] => some value
  | token :: rest =>
    match value with
    | .object entries =>
      match Entries.get? entries (String.ofList token) with
      | some next => next.follow rest
      | none => none
    | .array items =>
      match indexOfToken token with
      | none => none
      | some position =>
        match items[position]? with
        | some next => next.follow rest
        | none => none
    | _ => none

/-- The value that a pointer names. -/
def resolve (root : Json) (pointer : List Char) : Option Json :=
  match pointerTokens pointer with
  | some tokens => root.follow tokens
  | none => none

end Json

end TypedClient
