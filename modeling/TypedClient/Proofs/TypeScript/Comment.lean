import TypedClient.TypeScript.Comment
import TypedClient.Proofs.Text.Blank
import Mathlib.Data.List.Chain

/-!
# Comments end where they should

No text can end its comment early: a star and a slash stand next to each other at the end of a comment and
nowhere else (`Comment.text?_closed`). Everything in front of that last slash is a chain in which no
star has a slash behind it, so only the places where two parts of a comment meet have to be looked at.
-/

namespace TypedClient.TypeScript.Comment

open Text (AllBlank)

variable {c : Char} {cs summary description indent : List Char}

/-! ## Whether there is a comment -/

/-- A summary gives no lines if it is blank. -/
theorem summaryLines_eq_nil_iff : summaryLines summary = [] ↔ AllBlank summary := by
  rw [summaryLines, List.filter_eq_nil_iff, List.forall_mem_map, ← Text.allBlank_lines_iff]
  simp only [Bool.not_eq_true', Bool.not_eq_false, List.isEmpty_iff, Text.trimEnd_eq_nil_iff]

/-- A description that is not blank adds lines, unless it says the same as a summary, which has lines
then. -/
theorem lines_eq_nil_iff : lines summary description = [] ↔ AllBlank summary ∧ AllBlank description := by
  rw [lines, ← summaryLines_eq_nil_iff, ← @Text.trim_eq_nil_iff description]
  by_cases hblank : Text.trim description = []
  · simp [hblank]
  by_cases hsame : Text.trim description = Text.trim summary
  · have hsummary : summaryLines summary ≠ [] := by
      rw [Ne, summaryLines_eq_nil_iff, ← Text.trim_eq_nil_iff, ← hsame]
      exact hblank
    simp [hsame, hsummary]
  · simp [hblank, hsame, Text.lines_eq_nil_iff]

/-- There is no comment if there is nothing to say. -/
theorem chars?_eq_none_iff :
    chars? summary description indent = none ↔ AllBlank summary ∧ AllBlank description := by
  rw [chars?, ← lines_eq_nil_iff]
  split
  next hlines => simp [hlines]
  next hlines => simp [hlines]
  next hnil _ => exact ⟨fun h => absurd h (Option.some_ne_none _), fun h => absurd h hnil⟩

/-! ## No star before a slash -/

/-- The second character may stand right behind the first one inside a comment. -/
def MayFollow (c d : Char) : Prop :=
  ¬ (c = '*' ∧ d = '/')

instance : DecidableRel MayFollow :=
  fun c d => inferInstanceAs (Decidable (¬ (c = '*' ∧ d = '/')))

theorem mayFollow_of_left {d : Char} (h : c ≠ '*') : MayFollow c d :=
  fun hboth => h hboth.1

theorem mayFollow_of_right {d : Char} (h : d ≠ '/') : MayFollow c d :=
  fun hboth => h hboth.2

/-- Two parts can be joined if the first one does not end with a star. -/
theorem isChain_append_of_last {ds : List Char} (hcs : cs.IsChain MayFollow)
    (hds : ds.IsChain MayFollow) (h : cs.getLast? ≠ some '*') : (cs ++ ds).IsChain MayFollow :=
  hcs.append hds fun _ hc _ _ => mayFollow_of_left fun hstar => h (hstar ▸ hc)

/-- Two parts can be joined if the second one does not start with a slash. -/
theorem isChain_append_of_head {ds : List Char} (hcs : cs.IsChain MayFollow)
    (hds : ds.IsChain MayFollow) (h : ds.head? ≠ some '/') : (cs ++ ds).IsChain MayFollow :=
  hcs.append hds fun _ _ _ hd => mayFollow_of_right fun hslash => h (hslash ▸ hd)

/-! ## Indentation -/

theorem ne_star_of_isBlank (h : Text.isBlank c) : c ≠ '*' := by
  rintro rfl
  exact absurd h (by decide)

theorem ne_slash_of_isBlank (h : Text.isBlank c) : c ≠ '/' := by
  rintro rfl
  exact absurd h (by decide)

/-- Blanks are neither stars nor slashes. -/
theorem isChain_of_allBlank (h : AllBlank cs) : cs.IsChain MayFollow := by
  induction cs with
  | nil => exact .nil
  | cons c cs ih =>
    obtain ⟨hc, hcs⟩ := Text.allBlank_cons.mp h
    exact (ih hcs).cons fun d _ => mayFollow_of_left (ne_star_of_isBlank hc)

theorem isChain_indent (hindent : AllBlank indent) (hcs : cs.IsChain MayFollow) :
    (indent ++ cs).IsChain MayFollow :=
  isChain_append_of_last (isChain_of_allBlank hindent) hcs fun hlast =>
    ne_star_of_isBlank (hindent _ (List.mem_of_getLast? hlast)) rfl

/-! ## The parts of a comment -/

/-- A text keeps its first character. -/
theorem head?_escape (cs : List Char) : (escape cs).head? = cs.head? := by
  fun_cases escape cs <;> rfl

/-- After escaping no star stands before a slash. -/
theorem isChain_escape (cs : List Char) : (escape cs).IsChain MayFollow := by
  fun_induction escape cs with
  | case1 cs ih =>
    have hslash := ih.cons fun d _ => mayFollow_of_left (show '/' ≠ '*' by decide)
    exact (hslash.cons_cons (by decide)).cons_cons (by decide)
  | case2 c cs hpair ih =>
    refine ih.cons fun d hd => ?_
    rintro ⟨rfl, rfl⟩
    -- the slash was there before, and the pair is one that is taken apart
    rw [head?_escape] at hd
    obtain ⟨rest, rfl⟩ := List.head?_eq_some_iff.mp hd
    exact hpair rest rfl rfl
  | case3 => exact .nil

/-- The star in front of a line has a blank or the end of the line behind it. -/
theorem isChain_starred (hindent : AllBlank indent) (line : List Char) :
    (starred indent line).IsChain MayFollow := by
  rw [starred]
  split
  next => exact isChain_indent hindent (by decide)
  next =>
    rw [List.append_assoc, List.append_assoc]
    refine isChain_indent hindent (isChain_append_of_last (by decide) ?_ (by decide))
    exact isChain_append_of_head (isChain_escape line) (by decide) (by decide)

theorem getLast?_starred (indent line : List Char) : (starred indent line).getLast? = some '\n' := by
  rw [starred]
  split
  next => exact List.getLast?_append_of_ne_nil _ (by decide)
  next => exact List.getLast?_concat

/-- Each line ends with a line feed, so the next one may start with anything. -/
theorem isChain_starred_lines (hindent : AllBlank indent) (several : List (List Char)) :
    (several.flatMap (starred indent)).IsChain MayFollow := by
  induction several with
  | nil => exact .nil
  | cons line rest ih =>
    rw [List.flatMap_cons]
    refine isChain_append_of_last (isChain_starred hindent line) ih ?_
    rw [getLast?_starred]
    decide

/-! ## Comments -/

/-- A star and a slash stand next to each other at the end of the text, and nowhere else. -/
def ClosesOnce (cs : List Char) : Prop :=
  (∃ body, cs = body ++ ['*', '/']) ∧ ∀ before after, cs = before ++ '*' :: '/' :: after → after = []

/-- Where no star stands before a slash, the slash that is added closes the comment. -/
theorem closesOnce_of_isChain (body : List Char) (h : (body ++ ['*']).IsChain MayFollow) :
    ClosesOnce (body ++ ['*', '/']) := by
  refine ⟨⟨body, rfl⟩, fun before after heq => ?_⟩
  rcases List.eq_nil_or_concat' after with rfl | ⟨rest, last, rfl⟩
  · rfl
  · -- the pair would stand in front of the last slash
    have hsplit : (body ++ ['*']) ++ ['/'] = (before ++ '*' :: '/' :: rest) ++ [last] := by
      simpa using heq
    obtain ⟨hfront, -⟩ := List.append_inj' hsplit rfl
    rw [hfront] at h
    exact absurd ⟨rfl, rfl⟩ (List.isChain_append_cons_cons.mp h).2.1

/-- A comment opens behind its indentation, and closes at its end and nowhere else. -/
theorem chars?_closesOnce {comment : List Char} (hindent : AllBlank indent)
    (h : chars? summary description indent = some comment) :
    indent ++ "/**".toList <+: comment ∧ ClosesOnce comment := by
  rw [chars?] at h
  generalize lines summary description = several at h
  split at h
  next => cases h
  next line =>
    obtain rfl := Option.some.inj h
    refine ⟨⟨" ".toList ++ escape line ++ " */".toList, by simp⟩, ?_⟩
    have hbody : (indent ++ ("/** ".toList ++ (escape line ++ " *".toList))).IsChain MayFollow := by
      refine isChain_indent hindent (isChain_append_of_last (by decide) ?_ (by decide))
      exact isChain_append_of_head (isChain_escape line) (by decide) (by decide)
    have hcloses := closesOnce_of_isChain (indent ++ "/** ".toList ++ escape line ++ [' '])
      (by simpa using hbody)
    simpa using hcloses
  next =>
    obtain rfl := Option.some.inj h
    refine ⟨⟨"\n".toList ++ several.flatMap (starred indent) ++ indent ++ " */".toList, by simp⟩, ?_⟩
    have hclosing : (indent ++ " *".toList).IsChain MayFollow := isChain_indent hindent (by decide)
    have hbody : (indent ++ ("/**\n".toList ++
        (several.flatMap (starred indent) ++ (indent ++ " *".toList)))).IsChain MayFollow := by
      refine isChain_indent hindent (isChain_append_of_last (by decide) ?_ (by decide))
      refine isChain_append_of_head (isChain_starred_lines hindent several) hclosing fun hhead => ?_
      -- what stands behind the lines is a blank, be it the first of the indentation or the one behind it
      rcases List.mem_append.mp (List.mem_of_head? hhead) with hslash | hslash
      · exact ne_slash_of_isBlank (hindent _ hslash) rfl
      · exact absurd hslash (by decide)
    have hcloses := closesOnce_of_isChain
      (indent ++ "/**\n".toList ++ several.flatMap (starred indent) ++ indent ++ [' '])
      (by simpa using hbody)
    simpa using hcloses

/-- There is no comment exactly if both texts are blank. A comment starts with its indentation, a slash
and two stars, and a star and a slash stand next to each other at its end and nowhere else. -/
theorem text?_closed {indent : String} (hindent : AllBlank indent.toList)
    (summary description : String) :
    (text? summary description indent = none ↔
        AllBlank summary.toList ∧ AllBlank description.toList) ∧
      ∀ comment, text? summary description indent = some comment →
        (indent ++ "/**").toList <+: comment.toList ∧ ClosesOnce comment.toList := by
  refine ⟨?_, fun comment h => ?_⟩
  · rw [text?, Option.map_eq_none_iff, chars?_eq_none_iff]
  · obtain ⟨cs, hcs, rfl⟩ := Option.map_eq_some_iff.mp h
    rw [String.toList_append, @String.toList_ofList cs]
    exact chars?_closesOnce hindent hcs

/-- Texts that try to close their comment, in the middle of a line, at its end and at the start of the
next one. -/
theorem text?_closed_hostile :
    AllBlank "  ".toList ∧
      text? "a **/ b *" "/ c\n */" "  " =
        some "  /**\n   * a **\\/ b *\n   *\n   * / c\n   *  *\\/\n   */" ∧
      ClosesOnce "  /**\n   * a **\\/ b *\n   *\n   * / c\n   *  *\\/\n   */".toList := by
  have hindent : AllBlank "  ".toList :=
    Text.allBlank_cons.mpr ⟨by decide, Text.allBlank_cons.mpr ⟨by decide, Text.allBlank_nil⟩⟩
  have htext : text? "a **/ b *" "/ c\n */" "  " =
      some "  /**\n   * a **\\/ b *\n   *\n   * / c\n   *  *\\/\n   */" := by decide +kernel
  exact ⟨hindent, htext, ((text?_closed hindent _ _).2 _ htext).2⟩

end TypedClient.TypeScript.Comment
