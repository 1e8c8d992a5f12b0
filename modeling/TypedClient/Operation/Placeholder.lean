import TypedClient.Naming.Identifier

/-!
# Placeholders of a path template

A placeholder is an opening brace, one or more characters other than a closing brace, and a closing
brace. Placeholders are read from left to right, each as early as possible.
-/

namespace TypedClient.Placeholder

/-- The names of the placeholders. Inside a placeholder, `opened` holds its characters so far in
reverse; a pair of braces with nothing between them is no placeholder, and neither is what stands
after an opening brace that is never closed. -/
def namesFrom (opened : Option (List Char)) : List Char → List (List Char)
  | [] => []
  | c :: cs =>
    match opened with
    | none => namesFrom (if c = '\x7b' then some [] else none) cs
    | some name =>
      if c = '\x7d' then
        if name.isEmpty then namesFrom none cs else name.reverse :: namesFrom none cs
      else namesFrom (some (c :: name)) cs

/-- The names of the placeholders of a path, from left to right, with repeats. -/
def names (path : String) : List String :=
  (namesFrom none path.toList).map String.ofList

/-- The distinct items of a list, each where it first occurs. -/
def distinct (items : List String) : List String :=
  items.foldl (fun kept item => if item ∈ kept then kept else kept ++ [item]) []

/-- The fields of the record that fills the placeholders of a path: their names as identifiers, each
once. Without placeholders there is no record. -/
def record? (names : List String) : Option (List String) :=
  if names.isEmpty then none else some (distinct (names.map Naming.toIdentifier))

end TypedClient.Placeholder
