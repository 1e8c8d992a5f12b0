import TypedClient.Operation.Placeholder
import TypedClient.TypeScript.Module.Transport
import Mathlib.Data.List.Basic
import Mathlib.Data.List.Induction
import Mathlib.Data.List.Nodup

/-!
# Placeholders and the pattern that substitutes them

The transport substitutes the matches of a regular expression in a path template. The names that are read
off a template are what this pattern captures, from left to right (`Placeholder.finds_iff`), so a
template made of literal pieces and names gives the names back (`Placeholder.names_template`). The record
that fills them has each name once, as an identifier, where it first occurs
(`Placeholder.listsOnce_distinct`).
-/

namespace TypedClient

/-! ## Patterns -/

/-- A regular expression, as far as the transport has one for placeholders. -/
inductive Pattern
  /-- A character that has a meaning of its own without a backslash. -/
  | char (c : Char)
  /-- Any character but one. -/
  | noneOf (c : Char)
  /-- One time or more. -/
  | many (pattern : Pattern)
  /-- What is captured. -/
  | group (pattern : Pattern)
  | seq (first second : Pattern)

namespace Pattern

/-- The text of a pattern. -/
def text : Pattern → String
  | char c => "\\" ++ String.singleton c
  | noneOf c => "[^" ++ String.singleton c ++ "]"
  | many pattern => pattern.text ++ "+"
  | group pattern => "(" ++ pattern.text ++ ")"
  | seq first second => first.text ++ second.text

/-- The characters that a pattern matches, with what it captures. -/
inductive Matches : Pattern → List Char → List (List Char) → Prop
  | char (c : Char) : Matches (.char c) [c] []
  | noneOf {c d : Char} (h : d ≠ c) : Matches (.noneOf c) [d] []
  | once {pattern : Pattern} {cs : List Char} {gs : List (List Char)} (h : Matches pattern cs gs) :
      Matches (.many pattern) cs gs
  /-- Of a group that matches repeatedly, the last match is captured. -/
  | more {pattern : Pattern} {cs ds : List Char} {fs gs : List (List Char)} (h : Matches pattern cs fs)
      (hmore : Matches (.many pattern) ds gs) : Matches (.many pattern) (cs ++ ds) gs
  | group {pattern : Pattern} {cs : List Char} {gs : List (List Char)} (h : Matches pattern cs gs) :
      Matches (.group pattern) cs (cs :: gs)
  | seq {first second : Pattern} {cs ds : List Char} {fs gs : List (List Char)}
      (hfirst : Matches first cs fs) (hsecond : Matches second ds gs) :
      Matches (.seq first second) (cs ++ ds) (fs ++ gs)

/-- What a pattern that matches no empty text captures in a text, from left to right: the next match starts
as early as one can, and not before the last one has ended. -/
inductive Finds (pattern : Pattern) : List Char → List (List Char) → Prop
  | nil : Finds pattern [] []
  | skip {c : Char} {rest : List Char} {captures : List (List Char)}
      (hnone : ∀ cs ds gs, cs ++ ds = c :: rest → ¬ pattern.Matches cs gs)
      (hrest : Finds pattern rest captures) : Finds pattern (c :: rest) captures
  | next {cs rest : List Char} {gs captures : List (List Char)} (h : pattern.Matches cs gs)
      (hrest : Finds pattern rest captures) : Finds pattern (cs ++ rest) (gs ++ captures)

end Pattern

namespace Placeholder

variable {name cs gs rest text : List Char} {captures : List (List Char)} {items : List String}
  {item opening : String}

/-- The pattern of a placeholder: a brace, other characters than the closing brace, and this. -/
def pattern : Pattern :=
  .seq (.char '\x7b') (.seq (.group (.many (.noneOf '\x7d'))) (.char '\x7d'))

/-- The line with which the transport substitutes placeholders. -/
def substitution : String :=
  "  return template.replace(/" ++ pattern.text ++ "/g, (placeholder, name: string) => \x7b"

theorem substitution_mem (settings : Config.Transport) (stamp : String) :
    substitution ∈ TypeScript.Module.transport settings stamp := by
  have htext : substitution = "  return template.replace(/\\\x7b([^\x7d]+)\\\x7d/g, " ++
      "(placeholder, name: string) => \x7b" := by decide
  have hline : (TypeScript.Module.transport settings stamp)[48]? = some substitution := by
    rw [htext]
    rfl
  exact List.mem_of_getElem? hline

/-! ## Matches -/

theorem matches_noneOf_iff {c : Char} {gs : List (List Char)} :
    Pattern.Matches (.many (.noneOf c)) cs gs ↔ cs ≠ [] ∧ c ∉ cs ∧ gs = [] := by
  constructor
  · generalize hmany : Pattern.many (.noneOf c) = many
    intro h
    induction h with
    | once h =>
      cases hmany
      cases h with
      | noneOf hne => simp [hne.symm]
    | more h hmore _ ih =>
      cases hmany
      cases h with
      | noneOf hne =>
        obtain ⟨-, hnot, rfl⟩ := ih rfl
        simp [hne.symm, hnot]
    | _ => cases hmany
  · rintro ⟨hne, hnot, rfl⟩
    induction cs with
    | nil => exact absurd rfl hne
    | cons d ds ih =>
      obtain ⟨hd, hds⟩ := not_or.mp (List.mem_cons.not.mp hnot)
      cases ds with
      | nil => exact .once (.noneOf (Ne.symm hd))
      | cons e es => exact .more (.noneOf (Ne.symm hd)) (ih (List.cons_ne_nil _ _) hds)

/-- A placeholder has a name in braces, of one character or more. -/
theorem matches_pattern_iff {gs : List (List Char)} :
    pattern.Matches cs gs ↔
      ∃ name, name ≠ [] ∧ '\x7d' ∉ name ∧ cs = '\x7b' :: name ++ ['\x7d'] ∧ gs = [name] := by
  constructor
  · rintro (_ | _ | _ | _ | _ | ⟨⟨⟩, hrest⟩)
    cases hrest with
    | seq hgroup hclose =>
      cases hclose
      cases hgroup with
      | group hname =>
        obtain ⟨hne, hnot, rfl⟩ := matches_noneOf_iff.mp hname
        exact ⟨_, hne, hnot, rfl, rfl⟩
  · rintro ⟨name, hne, hnot, rfl, rfl⟩
    exact .seq (.char _) (.seq (.group (matches_noneOf_iff.mpr ⟨hne, hnot, rfl⟩)) (.char _))

/-! ## Names -/

/-- Outside a placeholder, characters other than the opening brace are passed over. -/
theorem namesFrom_append (h : '\x7b' ∉ cs) : namesFrom none (cs ++ rest) = namesFrom none rest := by
  induction cs with
  | nil => rfl
  | cons c cs ih =>
    obtain ⟨hc, hcs⟩ := not_or.mp (List.mem_cons.not.mp h)
    rw [List.cons_append, namesFrom]
    simpa [Ne.symm hc] using ih hcs

/-- Inside a placeholder, characters other than the closing brace belong to the name. -/
theorem namesFrom_inside (h : '\x7d' ∉ cs) (name : List Char) :
    namesFrom (some name) (cs ++ rest) = namesFrom (some (cs.reverse ++ name)) rest := by
  induction cs generalizing name with
  | nil => rfl
  | cons c cs ih =>
    obtain ⟨hc, hcs⟩ := not_or.mp (List.mem_cons.not.mp h)
    rw [List.cons_append, namesFrom]
    simpa [Ne.symm hc] using ih hcs (c :: name)

/-- A placeholder that is not closed has no name, and neither has one that is opened later. -/
theorem namesFrom_unclosed (h : '\x7d' ∉ cs) (opened : Option (List Char)) :
    namesFrom opened cs = [] := by
  induction cs generalizing opened with
  | nil => rw [namesFrom]
  | cons c cs ih =>
    obtain ⟨hc, hcs⟩ := not_or.mp (List.mem_cons.not.mp h)
    cases opened with
    | none => rw [namesFrom, ih hcs]
    | some name => rw [namesFrom, if_neg (Ne.symm hc), ih hcs]

theorem namesFrom_placeholder (hne : name ≠ []) (hnot : '\x7d' ∉ name) :
    namesFrom none ('\x7b' :: name ++ '\x7d' :: rest) = name :: namesFrom none rest := by
  rw [List.cons_append, namesFrom, if_pos rfl, namesFrom_inside hnot, List.append_nil, namesFrom]
  simp [hne]

/-- Where no placeholder starts, a character is passed over. -/
theorem namesFrom_cons {c : Char}
    (hnone : ∀ cs ds gs, cs ++ ds = c :: rest → ¬ pattern.Matches cs gs) :
    namesFrom none (c :: rest) = namesFrom none rest := by
  by_cases hc : c = '\x7b'
  · subst hc
    rw [namesFrom]
    by_cases hclose : '\x7d' ∈ rest
    · -- the braces have nothing between them, or this would be a placeholder
      obtain ⟨name, after, rfl, hnot⟩ := List.eq_append_cons_of_mem hclose
      have hname : name = [] := by
        by_contra hne
        refine hnone ('\x7b' :: name ++ ['\x7d']) after [name] (by simp) ?_
        exact matches_pattern_iff.mpr ⟨name, hne, hnot, rfl, rfl⟩
      subst hname
      simp [namesFrom]
    · rw [namesFrom_unclosed hclose, namesFrom_unclosed hclose]
  · have hother : '\x7b' ∉ [c] := by simpa using Ne.symm hc
    exact namesFrom_append hother

/-- What the pattern captures is what is read. -/
theorem eq_namesFrom_of_finds (h : pattern.Finds text captures) : captures = namesFrom none text := by
  induction h with
  | nil => rw [namesFrom]
  | skip hnone _ ih => rw [namesFrom_cons hnone, ih]
  | next hmatch _ ih =>
    obtain ⟨name, hne, hnot, rfl, rfl⟩ := matches_pattern_iff.mp hmatch
    rw [List.append_assoc, List.singleton_append, List.singleton_append,
      namesFrom_placeholder hne hnot, ih]

/-- The pattern finds something in every text, if only nothing to capture. -/
theorem exists_finds (text : List Char) : ∃ captures, pattern.Finds text captures := by
  induction hlength : text.length using Nat.strongRecOn generalizing text with
  | ind n ih =>
    subst hlength
    cases text with
    | nil => exact ⟨[], .nil⟩
    | cons c rest =>
      by_cases hmatch : ∃ cs ds gs, cs ++ ds = c :: rest ∧ pattern.Matches cs gs
      · obtain ⟨cs, ds, gs, htext, hmatch⟩ := hmatch
        obtain ⟨name, -, -, rfl, -⟩ := matches_pattern_iff.mp hmatch
        have hshorter : ds.length < (c :: rest).length := by simp [← htext]; omega
        obtain ⟨captures, hrest⟩ := ih _ hshorter ds rfl
        rw [← htext]
        exact ⟨_, .next hmatch hrest⟩
      · obtain ⟨captures, hrest⟩ := ih _ (Nat.lt_succ_self _) rest rfl
        exact ⟨captures, .skip (fun cs ds gs htext h => hmatch ⟨cs, ds, gs, htext, h⟩) hrest⟩

/-- The names of the placeholders are what the pattern captures. -/
theorem finds_iff {path : String} :
    pattern.Finds path.toList captures ↔ captures = (names path).map String.toList := by
  have hnames : (names path).map String.toList = namesFrom none path.toList := by
    simp [names, Function.comp_def]
  rw [hnames]
  constructor
  · exact eq_namesFrom_of_finds
  · rintro rfl
    obtain ⟨captures, hfinds⟩ := exists_finds path.toList
    exact eq_namesFrom_of_finds hfinds ▸ hfinds

/-! ## Templates -/

/-- The template in which literal pieces and names in braces alternate. -/
def template (opening : String) : List (String × String) → String
  | [] => opening
  | (name, literal) :: rest => opening ++ "\x7b" ++ name ++ "\x7d" ++ template literal rest

/-- A template gives its names back. -/
theorem names_template {pieces : List (String × String)} (hopening : '\x7b' ∉ opening.toList)
    (hpieces : ∀ piece ∈ pieces, piece.1 ≠ "" ∧ '\x7d' ∉ piece.1.toList ∧ '\x7b' ∉ piece.2.toList) :
    names (template opening pieces) = pieces.map Prod.fst := by
  induction pieces generalizing opening with
  | nil =>
    have hnone : namesFrom none (opening.toList ++ []) = namesFrom none [] := namesFrom_append hopening
    rw [List.append_nil] at hnone
    rw [template, names, hnone, namesFrom]
    rfl
  | cons piece rest ih =>
    obtain ⟨name, literal⟩ := piece
    obtain ⟨⟨hne, hnot, hliteral⟩, hrest⟩ := List.forall_mem_cons.mp hpieces
    have hchars : (template opening ((name, literal) :: rest)).toList =
        opening.toList ++ ('\x7b' :: name.toList ++ '\x7d' :: (template literal rest).toList) := by
      simp [template]
    have hname : name.toList ≠ [] := by simpa using hne
    rw [names, hchars, namesFrom_append hopening, namesFrom_placeholder hname hnot, List.map_cons,
      ← names, ih hliteral hrest, String.ofList_toList]
    rfl

/-! ## The record -/

/-- A list has the items of another one, each once, in the order in which they first occur there. -/
structure ListsOnce (fields items : List String) : Prop where
  nodup : fields.Nodup
  mem_iff : ∀ item, item ∈ fields ↔ item ∈ items
  ordered : fields.Pairwise fun first second => items.idxOf first < items.idxOf second

theorem distinct_concat (items : List String) (item : String) :
    distinct (items ++ [item]) =
      if item ∈ distinct items then distinct items else distinct items ++ [item] :=
  List.foldl_concat ..

theorem listsOnce_distinct (items : List String) : ListsOnce (distinct items) items := by
  induction items using List.reverseRecOn with
  | nil => exact ⟨.nil, by simp [distinct], .nil⟩
  | append_singleton items item ih =>
    have hlater {other : String} (h : other ∈ distinct items) :
        (items ++ [item]).idxOf other = items.idxOf other :=
      List.idxOf_append_of_mem ((ih.mem_iff other).mp h)
    have hordered : (distinct items).Pairwise fun first second =>
        (items ++ [item]).idxOf first < (items ++ [item]).idxOf second :=
      ih.ordered.imp_of_mem fun hfirst hsecond hlt => by rwa [hlater hfirst, hlater hsecond]
    rw [distinct_concat]
    split
    next hknown =>
      refine ⟨ih.nodup, fun other => ?_, hordered⟩
      rw [ih.mem_iff, List.mem_append, List.mem_singleton]
      exact ⟨.inl, fun h => h.elim id fun heq => heq ▸ (ih.mem_iff item).mp hknown⟩
    next hnew =>
      refine ⟨ih.nodup.append (List.nodup_singleton item) (by simpa using hnew), fun other => ?_, ?_⟩
      · rw [List.mem_append, List.mem_append, ih.mem_iff]
      · refine List.pairwise_append.mpr ⟨hordered, List.pairwise_singleton _ _, ?_⟩
        intro other hother _ hitem
        rw [List.mem_singleton.mp hitem]
        have hfirst := List.idxOf_lt_length_of_mem ((ih.mem_iff other).mp hother)
        rw [hlater hother, List.idxOf_append_of_notMem ((ih.mem_iff item).not.mp hnew)]
        omega

theorem record?_eq_none_iff {names : List String} : record? names = none ↔ names = [] := by
  simp [record?]

theorem record?_eq_some {names fields : List String} (h : record? names = some fields) :
    ListsOnce fields (names.map Naming.toIdentifier) := by
  rw [record?] at h
  split at h
  · cases h
  · obtain rfl := Option.some.inj h
    exact listsOnce_distinct _

/-- Placeholders are read where the transport substitutes them: their names are what its pattern captures,
and those of which a template was made. The record that fills them is missing only if there are none, and
has each of them once, as an identifier. -/
theorem read_as_substituted (path : String) (list : List String) :
    (∀ settings stamp, substitution ∈ TypeScript.Module.transport settings stamp) ∧
      (∀ captures, pattern.Finds path.toList captures ↔ captures = (names path).map String.toList) ∧
      (∀ opening pieces, '\x7b' ∉ opening.toList →
        (∀ piece ∈ pieces, piece.1 ≠ "" ∧ '\x7d' ∉ piece.1.toList ∧ '\x7b' ∉ piece.2.toList) →
        path = template opening pieces → names path = pieces.map Prod.fst) ∧
      (record? list = none ↔ list = []) ∧
      ∀ fields, record? list = some fields → ListsOnce fields (list.map Naming.toIdentifier) := by
  refine ⟨substitution_mem, fun captures => finds_iff, ?_, record?_eq_none_iff,
    fun fields => record?_eq_some⟩
  rintro opening pieces hopening hpieces rfl
  exact names_template hopening hpieces

/-- A closing brace between two placeholders, and two spellings of one field. -/
theorem read_as_substituted_spellings :
    names "/a\x7d/\x7buser_id\x7d.\x7buser-id\x7d" = ["user_id", "user-id"] ∧
      ListsOnce ["userId"] (["user_id", "user-id"].map Naming.toIdentifier) := by
  have hread := read_as_substituted "/a\x7d/\x7buser_id\x7d.\x7buser-id\x7d" ["user_id", "user-id"]
  refine ⟨?_, hread.2.2.2.2 ["userId"] (by decide)⟩
  exact hread.2.2.1 "/a\x7d/" [("user_id", "."), ("user-id", "")] (by decide) (by decide) (by decide)

end Placeholder

end TypedClient
