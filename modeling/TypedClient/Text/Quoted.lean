/-!
# Quoted names

A quoted name stands between double quotes, with a backslash before every quote and every backslash
in it. All other characters stay as they are.
-/

namespace TypedClient.Text

/-- What is written for one character of a quoted name. -/
def quotedChar (c : Char) : List Char :=
  if c = '\\' then ['\\', '\\'] else if c = '"' then ['\\', '"'] else [c]

/-- A name between quotes. -/
def quoted (cs : List Char) : List Char :=
  '"' :: cs.flatMap quotedChar ++ ['"']

end TypedClient.Text
