import TypedClient.Text.Blank

/-!
# Documentation comments

A comment says what a summary and a description say. One line makes a comment of one line, several
lines one with a star in front of each. A star and a slash next to each other are kept apart by a
backslash, so the text cannot end its comment.
-/

namespace TypedClient.TypeScript.Comment

/-- Puts a backslash between every star and a slash right after it. -/
def escape : List Char → List Char
  | '*' :: '/' :: cs => '*' :: '\\' :: '/' :: escape cs
  | c :: cs => c :: escape cs
  | [] => []

/-- The lines of the summary that are not blank. -/
def summaryLines (summary : List Char) : List (List Char) :=
  ((Text.lines summary).map Text.trimEnd).filter fun line => !line.isEmpty

/-- The lines of the comment: those of the summary and, unless the description is blank or says the
same, an empty line and those of the description. -/
def lines (summary description : List Char) : List (List Char) :=
  let opening := summaryLines summary
  let description' := Text.trim description
  if description'.isEmpty || description' = Text.trim summary then opening
  else
    opening ++ (if opening.isEmpty then [] else [[]]) ++
      (Text.lines description').map Text.trimEnd

/-- A line of a longer comment. -/
def starred (indent line : List Char) : List Char :=
  if line.isEmpty then indent ++ " *\n".toList
  else indent ++ " * ".toList ++ escape line ++ ['\n']

/-- The comment with the given indentation, if there is anything to say. -/
def chars? (summary description indent : List Char) : Option (List Char) :=
  match lines summary description with
  | [] => none
  | [line] => some (indent ++ "/** ".toList ++ escape line ++ " */".toList)
  | several =>
    some (indent ++ "/**\n".toList ++ several.flatMap (starred indent) ++ indent ++ " */".toList)

/-- The comment with the given indentation, if there is anything to say. -/
def text? (summary description indent : String) : Option String :=
  (chars? summary.toList description.toList indent.toList).map String.ofList

end TypedClient.TypeScript.Comment
