import TypedClient.Proofs.Json.Shape
import TypedClient.Proofs.Text.Blank
import TypedClient.Spec.Reader

/-!
# Which format a text is in

The first character behind the blanks of JSON tells of what kind a value is (`Json.opens_of_value`). These
blanks are white space, of which there is more, so the text of an object is taken for JSON
(`Document.looksLikeJson_of_ofJsonText`). No document is lost by going by the first character
(`Document.choosesReader`).
-/

namespace TypedClient

/-! ## The first character -/

namespace Text

variable {c : Char} {cs : List Char}

/-- The first character of a text that is no white space. -/
def first? (cs : List Char) : Option Char :=
  cs.find? fun c => !isBlank c

theorem first?_eq_head?_trimStart (cs : List Char) : first? cs = (trimStart cs).head? :=
  List.find?_not_eq_head?_dropWhile isBlank cs

theorem isBlank_of_isSpace (h : Json.isSpace c) : isBlank c := by
  simp only [Json.isSpace, Bool.or_eq_true, decide_eq_true_eq] at h
  rcases h with ((rfl | rfl) | rfl) | rfl <;> decide

/-- The blanks of JSON are white space. -/
theorem trimStart_skipSpace (cs : List Char) : trimStart (Json.skipSpace cs) = trimStart cs := by
  induction cs with
  | nil => rfl
  | cons c cs ih =>
    by_cases hspace : Json.isSpace c
    · have hblank : trimStart (c :: cs) = trimStart cs :=
        List.dropWhile_cons_of_pos (isBlank_of_isSpace hspace)
      rw [hblank, Json.skipSpace, List.dropWhile_cons_of_pos hspace]
      exact ih
    · rw [Json.skipSpace, List.dropWhile_cons_of_neg hspace]

end Text

/-! ## First characters of values -/

namespace Json

variable {cs rest : List Char} {v : Json}

/-- A value starts with a character of its kind. -/
def Opens (v : Json) (cs : List Char) : Prop :=
  ∃ c tail, cs = c :: tail ∧ kindOf c = leading v

theorem opens_of_keyword (h : keyword cs = some (v, rest)) : Opens v cs := by
  rw [keyword.eq_def] at h
  split at h
  all_goals cases h
  all_goals exact ⟨_, _, rfl, rfl⟩

/-- A value is read where a character of its kind stands. -/
theorem opens_of_value {fuel room : Nat} (h : value fuel room cs = .ok (v, rest)) :
    Opens v (skipSpace cs) := by
  cases fuel with
  | zero => cases h
  | succ fuel =>
    rw [value.eq_def] at h
    dsimp only at h
    split at h
    -- a string
    next hspace =>
      split at h
      · cases h
        exact ⟨_, _, hspace, rfl⟩
      · cases h
    -- an array
    next hspace =>
      split at h
      · cases h
      · split at h
        · cases h
          exact ⟨_, _, hspace, rfl⟩
        · split at h
          · cases h
            exact ⟨_, _, hspace, rfl⟩
          · cases h
    -- an object
    next hspace =>
      split at h
      · cases h
      · split at h
        · cases h
          exact ⟨_, _, hspace, rfl⟩
        · split at h
          · cases h
            exact ⟨_, _, hspace, rfl⟩
          · cases h
    -- a keyword or a number
    next =>
      split at h
      next hkeyword =>
        cases h
        exact opens_of_keyword hkeyword
      next =>
        split at h
        next hstart =>
          obtain ⟨c, hhead, hc⟩ := (Option.any_eq_true _ _).mp hstart
          obtain ⟨tail, hcs⟩ := List.head?_eq_some_iff.mp hhead
          refine ⟨c, tail, hcs, ?_⟩
          have hkind : kindOf c = '0' := if_pos hc
          split at h
          · cases h
          · split at h
            · cases h
              exact hkind
            · cases h
        · cases h

/-- What is read as an object has a brace in front. -/
theorem exists_skipSpace_of_object {fuel room : Nat} {entries : Entries}
    (h : value fuel room cs = .ok (.object entries, rest)) : ∃ tail, skipSpace cs = '\x7b' :: tail := by
  obtain ⟨c, tail, hspace, hkind⟩ := opens_of_value h
  have hbrace : kindOf c = '\x7b' := hkind
  have hc : c = '\x7b' := by
    rw [kindOf] at hbrace
    split at hbrace
    · exact absurd hbrace (by decide)
    · exact hbrace
  exact ⟨tail, hc ▸ hspace⟩

end Json

/-! ## Choosing a reader -/

namespace Document

variable {text : String} {doc : Document}

/-- An object that is read from a text is the first thing in it that is no white space. -/
theorem first?_of_ofJsonText (h : ofJsonText text = .ok doc) :
    Text.first? text.toList = some '\x7b' := by
  rw [ofJsonText] at h
  split at h
  next root hparse =>
    rw [Json.parse, Json.parseChars] at hparse
    split at hparse
    next => cases hparse
    next v rest hvalue =>
      split at hparse
      next =>
        cases hparse
        cases root with
        | object entries =>
          obtain ⟨tail, htail⟩ := Json.exists_skipSpace_of_object hvalue
          rw [Text.first?_eq_head?_trimStart, ← Text.trimStart_skipSpace, htail]
          rfl
        | _ => cases h
      next => cases hparse
  next => cases h

theorem looksLikeJson_iff :
    looksLikeJson text ↔ ∃ c, Text.first? text.toList = some c ∧ (c = '\x7b' ∨ c = '[') := by
  rw [Text.first?_eq_head?_trimStart, looksLikeJson]
  split
  next c cs hcs => simp [hcs]
  next hcs => simp [hcs]

/-- The text of an object is taken for JSON. -/
theorem looksLikeJson_of_ofJsonText (h : ofJsonText text = .ok doc) : looksLikeJson text :=
  looksLikeJson_iff.mpr ⟨_, first?_of_ofJsonText h, .inl rfl⟩

/-- Reads a document from a text of either format, with a given reader for texts that do not look like
JSON. -/
def ofTextBy (other : String → Except ParseFault Document) (text : String) : Except ParseFault Document :=
  if looksLikeJson text then ofJsonText text else other text

/-- The text is no document in JSON. -/
def IsNoJson (text : String) : Prop :=
  ∃ fault, ofJsonText text = .error fault

/-- The first character of a text is enough to choose the reader. -/
structure ChoosesReader (text : String) : Prop where
  /-- A document in JSON is read as such. -/
  kept : ∀ doc, ofJsonText text = .ok doc → ofText text = .ok doc
  /-- A text that has neither a brace nor a bracket in front, white space aside, is no document in JSON. -/
  refused : (∀ c, Text.first? text.toList = some c → c ≠ '\x7b' ∧ c ≠ '[') → IsNoJson text
  /-- Texts that do not look like JSON are left to the reader of YAML. -/
  split : ofText text = ofTextBy ofYamlText text
  /-- That reader, whatever it does, has no say unless the text is no document in JSON. -/
  asked : (∀ other, ofTextBy other text = ofJsonText text) ∨
    IsNoJson text ∧ ∀ other, ofTextBy other text = other text

theorem isNoJson_of_looksLikeJson_eq_false (h : looksLikeJson text = false) : IsNoJson text := by
  cases hjson : ofJsonText text with
  | error fault => exact ⟨fault, hjson⟩
  | ok doc =>
    rw [looksLikeJson_of_ofJsonText hjson] at h
    cases h

/-- No document in JSON is lost by going by the first character of its text. -/
theorem choosesReader (text : String) : ChoosesReader text := by
  refine ⟨fun doc hjson => ?_, fun hfirst => ?_, rfl, ?_⟩
  · rw [ofText, if_pos (looksLikeJson_of_ofJsonText hjson), hjson]
  · refine isNoJson_of_looksLikeJson_eq_false (Bool.eq_false_iff.mpr fun hlooks => ?_)
    obtain ⟨c, hc, hkind⟩ := looksLikeJson_iff.mp hlooks
    exact hkind.elim (hfirst c hc).1 (hfirst c hc).2
  · cases hlooks : looksLikeJson text with
    | true => exact .inl fun other => if_pos hlooks
    | false =>
      exact .inr ⟨isNoJson_of_looksLikeJson_eq_false hlooks, fun other => if_neg (by simp [hlooks])⟩

/-- An object behind a blank of JSON, and one behind a mark that is no blank at all. -/
theorem choosesReader_marked :
    ofText "\t\x7b\x7d" = .ok ⟨.object []⟩ ∧
      Text.first? "\ufeff\x7b\x7d".toList = some '\ufeff' ∧ IsNoJson "\ufeff\x7b\x7d" := by
  have hread : ofJsonText "\t\x7b\x7d" = .ok ⟨.object []⟩ := by cbv
  have hfirst : Text.first? "\ufeff\x7b\x7d".toList = some '\ufeff' := by decide +kernel
  refine ⟨(choosesReader _).kept _ hread, hfirst, (choosesReader _).refused fun c hc => ?_⟩
  obtain rfl := Option.some.inj (hfirst.symm.trans hc)
  decide

end Document

end TypedClient
