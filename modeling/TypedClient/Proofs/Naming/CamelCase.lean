import TypedClient.Naming.Identifier
import Mathlib

/-!
# Camel case as a normal form

Joining two words of a name replaces a separator and the lower-case letter behind it by the capital letter.
`camelCase` joins all words in one pass. It ends where joining them one at a time ends, in whatever order:
in the only name without a break that can be reached (`joins_and_not_hasBreak_iff`). What it gives is
therefore not changed by another pass (`toIdentifier_normalizes`).
-/

namespace TypedClient.Naming

variable {b c d : Char} {cs ds : List Char}

theorem isUpper_toUpper (h : d.isLower) : d.toUpper.isUpper := by
  rw [Char.isUpper_toUpper_eq_isAlpha, Char.isAlpha, h, Bool.or_true]

/-! ## Breaks between words -/

/-- A separator in front of an ASCII lower-case letter. -/
def IsBreak (c d : Char) : Prop :=
  (c = '-' ∨ c = '_') ∧ 'a' ≤ d ∧ d ≤ 'z'

/-- Somewhere in the characters there is a break. -/
def HasBreak (cs : List Char) : Prop :=
  ∃ c d, [c, d] <:+: cs ∧ IsBreak c d

theorem isBreak_iff : IsBreak c d ↔ (isSeparator c && d.isLower) = true := by
  have hlower : 'a' ≤ d ∧ d ≤ 'z' ↔ d.isLower := by
    simp [Char.isLower, Char.le_def]
  rw [IsBreak, hlower]
  simp [isSeparator]

theorem IsBreak.isLower (h : IsBreak c d) : d.isLower :=
  (Bool.and_eq_true_iff.mp (isBreak_iff.mp h)).2

/-- A break does not end in the separator of another one. -/
theorem IsBreak.not_isBreak_left (h : IsBreak c d) : ¬ IsBreak b c := by
  rintro ⟨-, hlower⟩
  rcases h.1 with rfl | rfl <;> exact absurd hlower (by decide)

/-- A capital letter is no part of a break. -/
theorem IsBreak.not_isUpper (h : IsBreak c d) : ¬ c.isUpper ∧ ¬ d.isUpper := by
  refine ⟨fun hupper => ?_, fun hupper => ?_⟩
  · rcases h.1 with rfl | rfl <;> exact absurd hupper (by decide)
  · exact Char.not_isLower_of_isUpper hupper h.isLower

theorem hasBreak_nil : ¬ HasBreak [] := by
  rintro ⟨c, d, hinfix, -⟩
  cases List.infix_nil.mp hinfix

/-- A break starts at the first character or stands behind it. -/
theorem hasBreak_cons :
    HasBreak (c :: cs) ↔ (∃ d ∈ cs.head?, IsBreak c d) ∨ HasBreak cs := by
  constructor
  · rintro ⟨c', d, hinfix, hbreak⟩
    rcases List.infix_cons_iff.mp hinfix with hprefix | hinfix
    · obtain ⟨rfl, hrest⟩ := List.cons_prefix_cons.mp hprefix
      obtain ⟨after, rfl⟩ := hrest
      exact .inl ⟨d, rfl, hbreak⟩
    · exact .inr ⟨c', d, hinfix, hbreak⟩
  · rintro (⟨d, hhead, hbreak⟩ | ⟨c', d, hinfix, hbreak⟩)
    · obtain ⟨after, rfl⟩ := List.head?_eq_some_iff.mp hhead
      exact ⟨c, d, ⟨[], after, rfl⟩, hbreak⟩
    · exact ⟨c', d, hinfix.trans (List.suffix_cons c cs).isInfix, hbreak⟩

/-! ## The conversion -/

/-- At a break the separator is dropped, and the letter behind it is not looked at again. -/
theorem camelCase_break (h : IsBreak c d) : camelCase (c :: d :: cs) = d.toUpper :: camelCase cs := by
  rw [camelCase, if_pos (isBreak_iff.mp h)]

/-- Without a break the first character is kept. -/
theorem camelCase_keep (h : ∀ d ∈ cs.head?, ¬ IsBreak c d) :
    camelCase (c :: cs) = c :: camelCase cs := by
  cases cs with
  | nil => rfl
  | cons d rest => rw [camelCase, if_neg fun hbreak => h d rfl (isBreak_iff.mpr hbreak)]

/-- Recursion on the characters as the conversion goes through them: two at a break, else one. -/
theorem break_induction {motive : List Char → Prop} (nil : motive [])
    (join : ∀ c d cs, IsBreak c d → motive cs → motive (c :: d :: cs))
    (keep : ∀ c cs, (∀ d ∈ cs.head?, ¬ IsBreak c d) → motive cs → motive (c :: cs)) (cs : List Char) :
    motive cs := by
  induction cs using camelCase.induct with
  | case1 => exact nil
  | case2 c => exact keep c [] (by simp) nil
  | case3 c d rest hbreak ih => exact join c d rest (isBreak_iff.mpr hbreak) ih
  | case4 c d rest hkeep ih =>
    refine keep c (d :: rest) (fun e he hbreak => hkeep ?_) ih
    obtain rfl : d = e := by simpa using he
    exact isBreak_iff.mp hbreak

/-- What opens a converted name has opened the name, or is a capital letter. -/
theorem head?_camelCase (h : c ∈ (camelCase cs).head?) : c ∈ cs.head? ∨ c.isUpper := by
  induction cs using break_induction with
  | nil => exact .inl h
  | join b d rest hbreak ih =>
    rw [camelCase_break hbreak] at h
    obtain rfl : d.toUpper = c := by simpa using h
    exact .inr (isUpper_toUpper hbreak.isLower)
  | keep b rest hkeep ih =>
    rw [camelCase_keep hkeep] at h
    exact .inl h

/-! ## One pass is enough -/

/-- Camel case leaves no break. -/
theorem not_hasBreak_camelCase (cs : List Char) : ¬ HasBreak (camelCase cs) := by
  induction cs using break_induction with
  | nil => exact hasBreak_nil
  | join c d rest hbreak ih =>
    rw [camelCase_break hbreak, hasBreak_cons]
    rintro (⟨e, -, hnew⟩ | hrest)
    · exact hnew.not_isUpper.1 (isUpper_toUpper hbreak.isLower)
    · exact ih hrest
  | keep c rest hkeep ih =>
    rw [camelCase_keep hkeep, hasBreak_cons]
    rintro (⟨e, hhead, hnew⟩ | hrest)
    · -- what stands behind the kept character was there before, or is a capital letter
      rcases head?_camelCase hhead with hhead | hupper
      · exact hkeep e hhead hnew
      · exact hnew.not_isUpper.2 hupper
    · exact ih hrest

/-- Without a break nothing is changed. -/
theorem camelCase_of_not_hasBreak (h : ¬ HasBreak cs) : camelCase cs = cs := by
  induction cs with
  | nil => rfl
  | cons c rest ih =>
    rw [hasBreak_cons, not_or] at h
    rw [camelCase_keep fun d hhead hbreak => h.1 ⟨d, hhead, hbreak⟩, ih h.2]

/-- The fixed points are the names without breaks. -/
theorem camelCase_eq_self_iff : camelCase cs = cs ↔ ¬ HasBreak cs := by
  refine ⟨fun h => ?_, camelCase_of_not_hasBreak⟩
  rw [← h]
  exact not_hasBreak_camelCase cs

/-! ## Joining words one at a time -/

/-- Two words of a name are joined: the separator between them goes, and the letter behind it becomes a
capital. -/
inductive Joins : List Char → List Char → Prop
  | join (before after : List Char) {c d : Char} (h : IsBreak c d) :
    Joins (before ++ c :: d :: after) (before ++ d.toUpper :: after)

/-- A break can be joined behind any character. -/
theorem Joins.cons (c : Char) (h : Joins cs ds) : Joins (c :: cs) (c :: ds) := by
  obtain ⟨before, after, hbreak⟩ := h
  exact .join (c :: before) after hbreak

/-- The conversion joins words. -/
theorem joins_camelCase (cs : List Char) : Relation.ReflTransGen Joins cs (camelCase cs) := by
  induction cs using break_induction with
  | nil => exact .refl
  | join c d rest hbreak ih =>
    rw [camelCase_break hbreak]
    exact .head (.join [] rest hbreak) (ih.lift (d.toUpper :: ·) fun _ _ => Joins.cons d.toUpper)
  | keep c rest hkeep ih =>
    rw [camelCase_keep hkeep]
    exact ih.lift (c :: ·) fun _ _ => Joins.cons c

/-- Words that have been joined on the way make no difference to the conversion. -/
theorem camelCase_eq_of_joins (h : Joins cs ds) : camelCase cs = camelCase ds := by
  obtain ⟨before, after, hbreak⟩ := h
  rename_i c d
  have hupper := isUpper_toUpper hbreak.isLower
  induction before using break_induction with
  | nil =>
    rw [List.nil_append, List.nil_append, camelCase_break hbreak,
      camelCase_keep fun e _ hnew => hnew.not_isUpper.1 hupper]
  | join a b before hfirst ih =>
    rw [List.cons_append, List.cons_append, List.cons_append, List.cons_append,
      camelCase_break hfirst, camelCase_break hfirst, ih]
  | keep a before hkeep ih =>
    -- the separator and the capital letter both leave the character in front of them alone
    have hsplit : ∀ rest e, (∀ b ∈ before.head?, ¬ IsBreak a b) → ¬ IsBreak a e →
        camelCase (a :: (before ++ e :: rest)) = a :: camelCase (before ++ e :: rest) := by
      intro rest e hbefore he
      apply camelCase_keep
      cases before with
      | nil => exact fun b hb => Option.mem_some_iff.mp hb ▸ he
      | cons b before => exact hbefore
    rw [List.cons_append, List.cons_append, hsplit _ c hkeep hbreak.not_isBreak_left,
      hsplit _ d.toUpper hkeep fun hnew => hnew.not_isUpper.2 hupper, ih]

/-- Joining breaks does not change the camel case of a name. -/
theorem camelCase_eq_of_reflTransGen (h : Relation.ReflTransGen Joins cs ds) :
    camelCase cs = camelCase ds := by
  induction h with
  | refl => rfl
  | tail _ hjoins ih => exact ih.trans (camelCase_eq_of_joins hjoins)

/-- The conversion is what joining words ends in. -/
theorem joins_and_not_hasBreak_iff :
    Relation.ReflTransGen Joins cs ds ∧ ¬ HasBreak ds ↔ ds = camelCase cs := by
  constructor
  · rintro ⟨hjoins, hbreak⟩
    rw [camelCase_eq_of_reflTransGen hjoins, camelCase_of_not_hasBreak hbreak]
  · rintro rfl
    exact ⟨joins_camelCase cs, not_hasBreak_camelCase cs⟩

/-! ## Identifiers -/

/-- A character that camel case adds is a capital letter. -/
theorem mem_camelCase (h : c ∈ camelCase cs) : c ∈ cs ∨ c.isUpper := by
  induction cs using break_induction with
  | nil => exact .inl h
  | join b d rest hbreak ih =>
    rw [camelCase_break hbreak, List.mem_cons] at h
    rcases h with rfl | hrest
    · exact .inr (isUpper_toUpper hbreak.isLower)
    · exact (ih hrest).imp_left fun hmem => List.mem_cons_of_mem b (List.mem_cons_of_mem d hmem)
  | keep b rest hkeep ih =>
    rw [camelCase_keep hkeep, List.mem_cons] at h
    rcases h with rfl | hrest
    · exact .inl List.mem_cons_self
    · exact (ih hrest).imp_left (List.mem_cons_of_mem b)

/-- The conversion leaves an identifier one. -/
theorem isIdentifierChars_camelCase (h : isIdentifierChars cs) : isIdentifierChars (camelCase cs) := by
  have hchars (rest : List Char) (hrest : rest.all isIdentifierChar) :
      (camelCase rest).all isIdentifierChar := by
    refine List.all_eq_true.mpr fun c hmem => ?_
    rcases mem_camelCase hmem with hmem | hupper
    · exact List.all_eq_true.mp hrest c hmem
    · simp [isIdentifierChar, Char.isAlphanum, Char.isAlpha, hupper]
  induction cs using break_induction with
  | nil => exact h
  | join c d rest hbreak _ =>
    simp only [isIdentifierChars, List.all_cons, Bool.and_eq_true] at h
    rw [camelCase_break hbreak, isIdentifierChars, hchars rest h.2.2]
    simp [opensIdentifier, Char.isAlpha, isUpper_toUpper hbreak.isLower]
  | keep c rest hkeep _ =>
    simp only [isIdentifierChars, Bool.and_eq_true] at h
    rw [camelCase_keep hkeep, isIdentifierChars, h.1, hchars rest h.2, Bool.and_self]

/-- The conversion of a name ends in its normal form: it has no break, a name without one stays as it is,
and whichever words of the name are joined first, no other name without a break comes out. An identifier
stays one. -/
theorem toIdentifier_normalizes (name : String) :
    ¬ HasBreak (toIdentifier name).toList ∧
      toIdentifier (toIdentifier name) = toIdentifier name ∧
      (toIdentifier name = name ↔ ¬ HasBreak name.toList) ∧
      (isIdentifier name → isIdentifier (toIdentifier name)) ∧
      ∀ cs, Relation.ReflTransGen Joins name.toList cs ∧ ¬ HasBreak cs ↔
        cs = (toIdentifier name).toList := by
  have hfixed (name : String) : toIdentifier name = name ↔ ¬ HasBreak name.toList := by
    rw [← camelCase_eq_self_iff, ← String.toList_inj, toIdentifier, String.toList_ofList]
  have hbreak : ¬ HasBreak (toIdentifier name).toList := by
    rw [toIdentifier, String.toList_ofList]
    exact not_hasBreak_camelCase name.toList
  refine ⟨hbreak, (hfixed _).mpr hbreak, hfixed name, fun h => ?_, fun cs => ?_⟩
  · rw [isIdentifier, toIdentifier, String.toList_ofList]
    exact isIdentifierChars_camelCase h
  · rw [toIdentifier, String.toList_ofList]
    exact joins_and_not_hasBreak_iff

/-- An identifier with a break at its head and a run of separators. -/
theorem toIdentifier_normalizes_private :
    isIdentifier "_user__id_2" ∧ isIdentifier (toIdentifier "_user__id_2") :=
  ⟨by decide, (toIdentifier_normalizes "_user__id_2").2.2.2.1 (by decide)⟩

end TypedClient.Naming
