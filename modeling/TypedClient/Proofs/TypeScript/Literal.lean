import TypedClient.Json.Reader
import TypedClient.TypeScript.Syntax

/-!
# String literals

What TypeScript takes for a string literal between double quotes, and which string it denotes
(`IsLiteral`): a quote that no backslash escapes ends it, escapes stand for other characters, and a line
may not end inside. What is written for a string denotes just this string, but only if no line ends in it:
line feeds and carriage returns are written as they are (`isLiteral_literal_iff`).
-/

namespace TypedClient.TypeScript

/-! ## The grammar -/

/-- The letters that stand for a control character behind a backslash. -/
def letterEscapes : List (Char × Char) :=
  [('b', '\x08'), ('f', '\x0c'), ('n', '\n'), ('r', '\r'), ('t', '\t'), ('v', '\x0b')]

/-- The ends of lines that a backslash makes disappear. -/
def lineEnds : List (List Char) :=
  [['\r', '\n'], ['\n'], ['\r'], ['\u2028'], ['\u2029']]

/-- Whether a character behind a backslash has a meaning of its own. -/
def isEscapeChar (c : Char) : Bool :=
  c.isDigit || c = 'x' || c = 'u' || letterEscapes.any (·.1 = c) || lineEnds.any (·.contains c)

/-- The number that hexadecimal digits spell. -/
def hexNumber (digits : List Char) : Option Nat :=
  digits.foldlM (fun n digit => (Json.hexValue digit).map (16 * n + ·)) 0

/-- What stands behind a backslash, and the characters for which it does. -/
inductive Escape : List Char → List Char → Prop
  | letter {c d : Char} (h : (c, d) ∈ letterEscapes) : Escape [c] [d]
  | itself {c : Char} (h : isEscapeChar c = false) : Escape [c] [c]
  | lineEnd {written : List Char} (h : written ∈ lineEnds) : Escape written []
  /-- Two digits for a character. -/
  | byte {digits : List Char} {n : Nat} (hlength : digits.length = 2) (hdigits : hexNumber digits = some n) :
      Escape ('x' :: digits) [Char.ofNat n]
  /-- Four digits for a character of one UTF-16 unit. -/
  | unit {digits : List Char} {n : Nat} (hlength : digits.length = 4) (hdigits : hexNumber digits = some n)
      (hvalid : n.isValidChar) : Escape ('u' :: digits) [Char.ofNat n]
  /-- Twice four digits for a character of two UTF-16 units. -/
  | pair {first second : List Char} {high low : Nat} (hfirst : first.length = 4)
      (hsecond : second.length = 4) (hhigh : hexNumber first = some high)
      (hlow : hexNumber second = some low) (hpair : Json.isHighSurrogate high ∧ Json.isLowSurrogate low) :
      Escape ('u' :: first ++ '\\' :: 'u' :: second) [Json.joinSurrogates high low]
  /-- Any number of digits in braces. -/
  | point {digits : List Char} {n : Nat} (hdigits : hexNumber digits = some n) (hsome : digits ≠ [])
      (hvalid : n.isValidChar) : Escape ('u' :: '\x7b' :: digits ++ ['\x7d']) [Char.ofNat n]

/-- Whether a character ends a line. -/
def isLineEnd (c : Char) : Bool :=
  c = '\n' || c = '\r'

/-- What stands between the quotes of a literal, and the characters that it denotes. With `lines`, lines
may end in it. -/
inductive Denotes (lines : Bool) : List Char → List Char → Prop
  | nil : Denotes lines [] []
  | plain {c : Char} {body value : List Char} (hquote : c ≠ '"') (hslash : c ≠ '\\')
      (hline : lines ∨ isLineEnd c = false) (hrest : Denotes lines body value) :
      Denotes lines (c :: body) (c :: value)
  | escape {written text body value : List Char} (h : Escape written text)
      (hrest : Denotes lines body value) : Denotes lines ('\\' :: written ++ body) (text ++ value)
  | null {body value : List Char} (hnext : ∀ c ∈ body.head?, c.isDigit = false)
      (hrest : Denotes lines body value) : Denotes lines ('\\' :: '0' :: body) ('\x00' :: value)

/-- A text that is one string literal, which denotes this string, lines that end in it apart. -/
def IsLiteralOfLines (lines : Bool) (text value : String) : Prop :=
  ∃ body, text.toList = '"' :: body ++ ['"'] ∧ Denotes lines body value.toList

/-- A text that is one string literal, which denotes this string. -/
def IsLiteral (text value : String) : Prop :=
  IsLiteralOfLines false text value

/-! ## Quoted strings -/

variable {lines : Bool} {c : Char} {cs body written text value : List Char} {s : String}

/-- Behind a backslash, quotes and backslashes stand for themselves. -/
theorem Escape.eq_of_cons (h : Escape written text) (hc : c = '\\' ∨ c = '"')
    (heq : written ++ cs = c :: body) : text = [c] ∧ cs = body := by
  have hother : isEscapeChar c = false := by
    rcases hc with rfl | rfl <;> decide
  cases h with
  | letter h =>
    obtain ⟨rfl, -⟩ := List.cons.inj heq
    simp [letterEscapes] at h
    rcases hc with rfl | rfl <;> simp at h
  | itself h =>
    obtain ⟨rfl, rfl⟩ := List.cons.inj heq
    exact ⟨rfl, rfl⟩
  | lineEnd h =>
    simp only [lineEnds, List.mem_cons, List.not_mem_nil, or_false] at h
    rcases hc with rfl | rfl <;> rcases h with rfl | rfl | rfl | rfl | rfl <;> simp at heq
  | byte | unit | pair | point =>
    rcases hc with rfl | rfl <;> simp at heq

theorem denotes_escaped (hc : c = '\\' ∨ c = '"') :
    Denotes lines ('\\' :: c :: body) value ↔ ∃ rest, value = c :: rest ∧ Denotes lines body rest := by
  constructor
  · generalize hwhole : '\\' :: c :: body = whole
    rintro (_ | ⟨_, hslash, _, _⟩ | ⟨hescape, hrest⟩ | _)
    · cases hwhole
    · exact absurd (List.cons.inj hwhole).1.symm hslash
    · obtain ⟨rfl, rfl⟩ := hescape.eq_of_cons hc (List.cons.inj hwhole).2.symm
      exact ⟨_, rfl, hrest⟩
    · rcases hc with rfl | rfl <;> simp at hwhole
  · rintro ⟨rest, rfl, hrest⟩
    refine .escape (.itself ?_) hrest
    rcases hc with rfl | rfl <;> decide

theorem denotes_plain (hquote : c ≠ '"') (hslash : c ≠ '\\') :
    Denotes lines (c :: body) value ↔
      (lines ∨ isLineEnd c = false) ∧ ∃ rest, value = c :: rest ∧ Denotes lines body rest := by
  constructor
  · generalize hwhole : c :: body = whole
    rintro (_ | ⟨_, _, hline, hrest⟩ | _ | _)
    · cases hwhole
    · obtain ⟨rfl, rfl⟩ := List.cons.inj hwhole
      exact ⟨hline, _, rfl, hrest⟩
    all_goals exact absurd (List.cons.inj hwhole).1 hslash
  · rintro ⟨hline, rest, rfl, hrest⟩
    exact .plain hquote hslash hline hrest

/-- What is written for a character denotes this character, but for ends of lines. -/
theorem denotes_quotedChar :
    Denotes lines (Text.quotedChar c ++ body) value ↔
      (lines ∨ isLineEnd c = false) ∧ ∃ rest, value = c :: rest ∧ Denotes lines body rest := by
  unfold Text.quotedChar
  split
  next hslash =>
    have hline : isLineEnd c = false := hslash ▸ rfl
    subst hslash
    rw [List.cons_append, List.singleton_append, denotes_escaped (.inl rfl)]
    simp [hline]
  next hslash =>
    split
    next hquote =>
      have hline : isLineEnd c = false := hquote ▸ rfl
      subst hquote
      rw [List.cons_append, List.singleton_append, denotes_escaped (.inr rfl)]
      simp [hline]
    next hquote => exact denotes_plain hquote hslash

/-- What is written for characters denotes just them, but for ends of lines. -/
theorem denotes_quotedChars :
    Denotes lines (cs.flatMap Text.quotedChar) value ↔
      value = cs ∧ (lines ∨ ∀ c ∈ cs, isLineEnd c = false) := by
  induction cs generalizing value with
  | nil =>
    constructor
    · rintro ⟨⟩
      simp
    · rintro ⟨rfl, -⟩
      exact .nil
  | cons c cs ih =>
    rw [List.flatMap_cons, denotes_quotedChar, List.forall_mem_cons]
    simp only [ih]
    constructor
    · rintro ⟨hline, rest, rfl, rfl, hlines⟩
      exact ⟨rfl, or_and_left.mpr ⟨hline, hlines⟩⟩
    · rintro ⟨rfl, hlines⟩
      exact ⟨hlines.imp_right And.left, cs, rfl, rfl, hlines.imp_right And.right⟩

/-- What is written for a string is a literal that denotes just this string, but for ends of lines. -/
theorem isLiteralOfLines_literal_iff {value : String} :
    IsLiteralOfLines lines (literal s) value ↔
      value = s ∧ (lines ∨ ∀ c ∈ s.toList, isLineEnd c = false) := by
  have hbody : ∀ body, (literal s).toList = '"' :: body ++ ['"'] ↔
      s.toList.flatMap Text.quotedChar = body := by
    intro body
    rw [literal, String.toList_ofList, Text.quoted, List.cons_append, List.cons_append, List.cons.injEq,
      List.append_left_inj]
    exact and_iff_right rfl
  simp only [IsLiteralOfLines, hbody, exists_eq_left', denotes_quotedChars, String.toList_inj]

/-- The texts in which a string is quoted: as the key of a property, unless it is an identifier, as a
type, and as an expression. -/
inductive Quotes (s : String) : String → Prop
  | key (h : Naming.isIdentifier s = false) : Quotes s (Naming.propertyKey s)
  | type : Quotes s (Ty.literal s).text
  | expr : Quotes s (Expr.string s).text

theorem Quotes.eq_literal {text : String} (h : Quotes s text) : text = literal s := by
  cases h with
  | key h =>
    rw [Naming.propertyKey, h]
    rfl
  | type => rw [Ty.text]
  | expr => rw [Expr.text]

/-- Wherever a string is quoted, this is a string literal if no line ends in the string, and denotes the
string and no other. Apart from the lines that end in it, it always is. -/
theorem isLiteral_of_quotes {text : String} (h : Quotes s text) (value : String) :
    (IsLiteral text value ↔ value = s ∧ ∀ c ∈ s.toList, c ≠ '\n' ∧ c ≠ '\r') ∧
      (IsLiteralOfLines true text value ↔ value = s) := by
  rw [h.eq_literal, IsLiteral, isLiteralOfLines_literal_iff, isLiteralOfLines_literal_iff]
  simp [isLineEnd]

/-- A quote behind a backslash, and a backslash in front of the closing quote. -/
theorem isLiteral_mixed : IsLiteral (Naming.propertyKey "a\\\"b\\") "a\\\"b\\" := by
  exact (isLiteral_of_quotes (.key (by decide)) _).1.mpr ⟨rfl, by simp⟩

/-- A string with a line feed is written over two lines. -/
theorem not_isLiteral_lineFeed :
    ¬ IsLiteral (Naming.propertyKey "a\nb") "a\nb" ∧ ¬ IsLiteral (Ty.literal "a\nb").text "a\nb" ∧
      ¬ IsLiteral (Expr.string "a\nb").text "a\nb" := by
  have hnot : ∀ text, Quotes "a\nb" text → ¬ IsLiteral text "a\nb" := by
    intro text hquotes hliteral
    rw [hquotes.eq_literal, IsLiteral, isLiteralOfLines_literal_iff] at hliteral
    simp [isLineEnd] at hliteral
  exact ⟨hnot _ (.key (by decide)), hnot _ .type, hnot _ .expr⟩

end TypedClient.TypeScript
