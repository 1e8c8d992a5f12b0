import TypedClient.Text.Letter

/-!
# Words in a name

A name is cut at everything that is neither a letter nor a number, and each piece at its humps: after
a lower-case character that an upper-case one follows (`fooBar`), and before the last capital of a run
of capitals that goes on in lower case (`XMLHttp`).
-/

namespace TypedClient.Text

/-- What the last cased character of a word was. A character without case does not change it. -/
inductive Hump
  /-- No cased character so far. -/
  | start
  | lower
  | upper
deriving DecidableEq

namespace Hump

/-- What holds after one more character. -/
def next (hump : Hump) (c : Char) : Hump :=
  if isLower c then .lower else if isUpper c then .upper else hump

end Hump

/-- The words of a piece without separators; `word` collects the current one in reverse. -/
def humps (hump : Hump) (word : List Char) : List Char → List (List Char)
  | [] => if word.isEmpty then [] else [word.reverse]
  | [c] => [(c :: word).reverse]
  | c :: d :: rest =>
    if hump.next c = .lower && isUpper d then
      (c :: word).reverse :: humps .start [] (d :: rest)
    else if hump = .upper && isUpper c && isLower d then
      word.reverse :: humps .start [c] (d :: rest)
    else humps (hump.next c) (c :: word) (d :: rest)

/-- The stretches of letters and numbers; `piece` collects the current one in reverse. -/
def piecesFrom (piece : List Char) : List Char → List (List Char)
  | [] => if piece.isEmpty then [] else [piece.reverse]
  | c :: cs =>
    if isAlphanumeric c then piecesFrom (c :: piece) cs
    else if piece.isEmpty then piecesFrom [] cs
    else piece.reverse :: piecesFrom [] cs

/-- The words of a name. -/
def words (cs : List Char) : List (List Char) :=
  (piecesFrom [] cs).flatMap (humps .start [])

/-- Characters in lower case. A sigma at the end of a word has its final form. -/
def lowered : List Char → List Char
  | [] => []
  | [c] => if c = 'Σ' then ['ς'] else toLower c
  | c :: cs => toLower c ++ lowered cs

/-- A word with its first character in upper case and the others in lower case. -/
def capitalized : List Char → List Char
  | [] => []
  | c :: cs => toUpper c ++ lowered cs

/-- A name in one piece, each word capitalized. -/
def pascalCase (cs : List Char) : List Char :=
  (words cs).flatMap capitalized

example : words "XMLHttp_request2Go".toList =
    ["XML".toList, "Http".toList, "request2".toList, "Go".toList] := by decide

end TypedClient.Text
