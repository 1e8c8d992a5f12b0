/-!
# Cutting a text at a separator

Every separator cuts: a text has one piece more than separators, and empty pieces count.
-/

namespace TypedClient.Text

/-- The pieces of a text; `piece` collects the current one in reverse. -/
def splitFrom (separator : Char) (piece : List Char) : List Char → List (List Char)
  | [] => [piece.reverse]
  | c :: cs =>
    if c = separator then piece.reverse :: splitFrom separator [] cs
    else splitFrom separator (c :: piece) cs

/-- The pieces of a text. -/
def split (separator : Char) (cs : List Char) : List (List Char) :=
  splitFrom separator [] cs

example : split '/' "a//b/".toList = ["a".toList, [], "b".toList, []] := by decide

/-! ## The first piece -/

variable {separator : Char} {cs : List Char}

theorem splitFrom_of_not_mem (h : separator ∉ cs) (piece : List Char) :
    splitFrom separator piece cs = [piece.reverse ++ cs] := by
  induction cs generalizing piece with
  | nil => simp [splitFrom]
  | cons c cs ih =>
    rw [List.mem_cons, not_or] at h
    rw [splitFrom, if_neg (Ne.symm h.1), ih h.2]
    simp

theorem splitFrom_append (h : separator ∉ cs) (piece rest : List Char) :
    splitFrom separator piece (cs ++ separator :: rest) = (piece.reverse ++ cs) :: split separator rest := by
  induction cs generalizing piece with
  | nil => simp [splitFrom, split]
  | cons c cs ih =>
    rw [List.mem_cons, not_or] at h
    rw [List.cons_append, splitFrom, if_neg (Ne.symm h.1), ih h.2]
    simp

end TypedClient.Text
