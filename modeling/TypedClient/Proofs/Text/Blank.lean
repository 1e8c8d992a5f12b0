import TypedClient.Text.Blank
import Mathlib.Data.List.TakeWhile

/-!
# Blank texts

A text is blank if nothing is left of it when it is trimmed (`Text.trim_eq_nil_iff`), and this can be
told from its lines as well (`Text.allBlank_lines_iff`), since the characters that end a line are blank
themselves.
-/

namespace TypedClient.Text

variable {c : Char} {cs line : List Char}

/-- There is nothing but white space in the text. -/
def AllBlank (cs : List Char) : Prop :=
  ∀ c ∈ cs, isBlank c

theorem allBlank_nil : AllBlank [] := by
  simp [AllBlank]

theorem allBlank_cons : AllBlank (c :: cs) ↔ isBlank c ∧ AllBlank cs :=
  List.forall_mem_cons

theorem allBlank_append {ds : List Char} : AllBlank (cs ++ ds) ↔ AllBlank cs ∧ AllBlank ds :=
  List.forall_mem_append

theorem allBlank_reverse : AllBlank cs.reverse ↔ AllBlank cs := by
  simp [AllBlank]

/-! ## Trimming -/

/-- Trimming leaves nothing of blanks only. -/
theorem trimEnd_eq_nil_iff : trimEnd cs = [] ↔ AllBlank cs := by
  rw [trimEnd, List.reverse_eq_nil_iff, List.dropWhile_eq_nil_iff]
  exact allBlank_reverse

theorem allBlank_trimStart : AllBlank (trimStart cs) ↔ AllBlank cs := by
  induction cs with
  | nil => rfl
  | cons c cs ih =>
    by_cases hc : isBlank c
    · rw [trimStart, List.dropWhile_cons_of_pos hc, allBlank_cons]
      exact ih.trans (and_iff_right hc).symm
    · rw [trimStart, List.dropWhile_cons_of_neg hc]

/-- So does trimming on both sides. -/
theorem trim_eq_nil_iff : trim cs = [] ↔ AllBlank cs := by
  rw [trim, trimEnd_eq_nil_iff, allBlank_trimStart]

/-! ## Lines -/

/-- What is dropped at the end of a line is blank. -/
theorem allBlank_dropReturn : AllBlank (dropReturn line) ↔ AllBlank line := by
  rw [dropReturn]
  split
  next hreturn =>
    obtain ⟨front, rfl⟩ := List.getLast?_eq_some_iff.mp hreturn
    have hblank : AllBlank ['\r'] := List.forall_mem_singleton.mpr (by decide)
    rw [List.dropLast_concat, allBlank_append, and_iff_left hblank]
  next => rfl

theorem linesFrom_eq_nil_iff : linesFrom line cs = [] ↔ line = [] ∧ cs = [] := by
  induction cs generalizing line with
  | nil => cases line <;> simp [linesFrom]
  | cons c cs ih =>
    rw [linesFrom]
    split
    next => simp
    next => simp [ih]

/-- Only the empty text has no lines. -/
theorem lines_eq_nil_iff : lines cs = [] ↔ cs = [] := by
  rw [lines, linesFrom_eq_nil_iff, and_iff_right rfl]

/-- The lines of a text are blank if the text is. -/
theorem allBlank_linesFrom :
    (∀ own ∈ linesFrom line cs, AllBlank own) ↔ AllBlank line ∧ AllBlank cs := by
  induction cs generalizing line with
  | nil =>
    have hnil : AllBlank ([] : List Char) := allBlank_nil
    cases line with
    | nil => simp [linesFrom, hnil]
    | cons c line => simp [linesFrom, hnil, ← @allBlank_reverse (c :: line)]
  | cons c cs ih =>
    rw [linesFrom, allBlank_cons]
    split
    next hfeed =>
      have hblank : isBlank c := hfeed ▸ (by decide)
      rw [List.forall_mem_cons, allBlank_dropReturn, allBlank_reverse, ih, and_iff_right allBlank_nil,
        and_iff_right hblank]
    next =>
      rw [ih, allBlank_cons, and_assoc, and_left_comm]

/-- A text is blank if all of its lines are. -/
theorem allBlank_lines_iff : (∀ line ∈ lines cs, AllBlank line) ↔ AllBlank cs := by
  rw [lines, allBlank_linesFrom, and_iff_right allBlank_nil]

end TypedClient.Text
