import TypedClient.Naming.Identifier
import TypedClient.Proofs.Text.Word
import TypedClient.Proofs.TypeScript.Stem

/-!
# Names of types can be written

Whatever characters an id in ASCII has, the name for its types is made of letters and digits and opens with
a capital letter (`Naming.isTypeName_typeNameChars`). Letters and digits can follow it, so each name that is
made from a stem for the id is an identifier (`Naming.usable_of_isAscii`). Whatever the id is, a name made
from its stem has no other characters of ASCII (`Naming.isWordChar_of_mem_names`).
-/

namespace TypedClient.Naming

open TypeScript

variable {c : Char} {cs ending : List Char} {id base stem : String}

/-- Letters and digits of ASCII that open with a capital letter. -/
structure IsTypeName (cs : List Char) : Prop where
  opens : ∃ c tail, cs = c :: tail ∧ c.isUpper
  chars : ∀ c ∈ cs, c.isAlphanum

theorem isAlphanum_of_isUpper (h : c.isUpper) : c.isAlphanum := by
  rw [Char.isAlphanum, Char.isAlpha, h]
  rfl

theorem isAlphanum_of_isDigit (h : c.isDigit) : c.isAlphanum := by
  rw [Char.isAlphanum, h, Bool.or_true]

namespace IsTypeName

theorem cons (hc : c.isUpper) (hcs : ∀ d ∈ cs, d.isAlphanum) : IsTypeName (c :: cs) :=
  ⟨⟨c, cs, rfl, hc⟩, List.forall_mem_cons.mpr ⟨isAlphanum_of_isUpper hc, hcs⟩⟩

/-- Letters and digits can follow. -/
theorem append (h : IsTypeName cs) (hending : ∀ c ∈ ending, c.isAlphanum) :
    IsTypeName (cs ++ ending) := by
  obtain ⟨⟨c, tail, rfl, hc⟩, hchars⟩ := h
  exact ⟨⟨c, tail ++ ending, rfl, hc⟩, List.forall_mem_append.mpr ⟨hchars, hending⟩⟩

theorem isIdentifierChars (h : IsTypeName cs) : isIdentifierChars cs := by
  obtain ⟨⟨c, tail, rfl, hc⟩, hchars⟩ := h
  have hopens : opensIdentifier c := by
    rw [opensIdentifier, Char.isAlpha, hc]
    rfl
  have htail : tail.all isIdentifierChar := by
    refine List.all_eq_true.mpr fun d hd => ?_
    rw [isIdentifierChar, hchars d (List.mem_cons_of_mem c hd)]
    rfl
  rw [Naming.isIdentifierChars, hopens, htail]
  rfl

end IsTypeName

/-! ## Names for ids in ASCII -/

theorem isTypeName_typeNameChars (h : Text.IsAscii cs) : IsTypeName (typeNameChars cs) := by
  rw [typeNameChars]
  split
  next => exact .cons (by decide) (by simp : ∀ d ∈ "nnamed".toList, d.isAlphanum)
  next c tail hpascal =>
    have hchars : ∀ d ∈ c :: tail, d.isAlphanum := fun d hd =>
      Text.isAlphanum_of_mem_pascalCase h (hpascal ▸ hd)
    split
    next hdigit =>
      have hp : 'p'.isAlphanum := by decide
      exact .cons (by decide) (List.forall_mem_cons.mpr ⟨hp, hchars⟩)
    next hdigit =>
      have halpha : c.isAlpha := by
        simpa [Char.isAlphanum, hdigit] using hchars c List.mem_cons_self
      have hupper : c.toUpper = c := Text.head?_pascalCase h (by rw [hpascal]; rfl)
      rw [← Char.isUpper_toUpper_eq_isAlpha, hupper] at halpha
      exact .cons halpha fun d hd => hchars d (List.mem_cons_of_mem c hd)

/-- The name tells the letters and digits of the id, in their order and up to the case of the letters. -/
theorem typeNameChars_cases (h : Text.IsAscii cs) :
    Text.folded cs = [] ∧ typeNameChars cs = "Unnamed".toList ∨
      ∃ front ∈ ["", "Op"], ∃ rest, typeNameChars cs = front.toList ++ rest ∧ rest ≠ [] ∧
        rest.map Char.toLower = Text.folded cs := by
  have hfolded := Text.map_toLower_pascalCase h
  rw [typeNameChars]
  split
  next hpascal =>
    rw [hpascal] at hfolded
    exact .inl ⟨hfolded.symm, rfl⟩
  next c tail hpascal =>
    rw [hpascal] at hfolded
    refine .inr ?_
    split
    next => exact ⟨"Op", by decide, c :: tail, rfl, List.cons_ne_nil c tail, hfolded⟩
    next => exact ⟨"", by decide, c :: tail, rfl, List.cons_ne_nil c tail, hfolded⟩

/-! ## Names made from a stem -/

theorem isAlphanum_of_mem_endings :
    ∀ x ∈ Stem.endings, ∀ c ∈ x.toList, c.isAlphanum := by
  simp [Stem.endings, Stem.suffixes]

theorem isAlphanum_of_mem_toString {n : Nat} (h : c ∈ (toString n).toList) : c.isAlphanum := by
  rw [Nat.toString_eq_repr, Nat.toList_repr] at h
  exact isAlphanum_of_isDigit (Nat.isDigit_of_mem_toDigits (by decide) (by decide) h)

/-- The names made from a candidate open with the name of the type. -/
theorem isIdentifier_of_mem_names {name : String} (hbase : IsTypeName base.toList)
    (hstem : Stem.IsCandidate base stem) (hname : name ∈ Stem.names stem) : isIdentifier name := by
  obtain ⟨x, hx, rfl⟩ := Stem.mem_names_iff.mp hname
  have hchars : IsTypeName stem.toList := by
    rcases hstem with rfl | ⟨n, rfl⟩
    · exact hbase
    · rw [Stem.numbered, String.toList_append]
      exact hbase.append fun _ => isAlphanum_of_mem_toString
  rw [isIdentifier, String.toList_append]
  exact (hchars.append (isAlphanum_of_mem_endings x hx)).isIdentifierChars

/-- Of ASCII only letters and digits get into the name of a type, whatever the id is. -/
theorem isWordChar_of_mem_typeNameChars (h : c ∈ typeNameChars cs) : Text.IsWordChar c := by
  rw [typeNameChars] at h
  split at h
  next =>
    have hletters : ∀ d ∈ "Unnamed".toList, d.isAlphanum := by simp
    exact Text.isWordChar_of_isAlphanum (hletters c h)
  next d tail hpascal =>
    have hchars : ∀ e ∈ d :: tail, Text.IsWordChar e := fun e he =>
      Text.isWordChar_of_mem_pascalCase (hpascal ▸ he)
    split at h
    next =>
      simp only [List.mem_cons] at h
      rcases h with rfl | rfl | h
      · exact Text.isWordChar_of_isAlphanum (by decide)
      · exact Text.isWordChar_of_isAlphanum (by decide)
      · exact hchars c (List.mem_cons.mpr h)
    next => exact hchars c h

/-- So it is with all names that are made from a candidate for the stem of an id. -/
theorem isWordChar_of_mem_names {name : String} (hstem : Stem.IsCandidate (typeName id) stem)
    (hname : name ∈ Stem.names stem) (h : c ∈ name.toList) : Text.IsWordChar c := by
  obtain ⟨x, hx, rfl⟩ := Stem.mem_names_iff.mp hname
  have hbase : ∀ d ∈ (typeName id).toList, Text.IsWordChar d := fun d hd => by
    rw [typeName, String.toList_ofList] at hd
    exact isWordChar_of_mem_typeNameChars hd
  have hchars : ∀ d ∈ stem.toList, Text.IsWordChar d := by
    rcases hstem with rfl | ⟨n, rfl⟩
    · exact hbase
    · rw [Stem.numbered, String.toList_append]
      exact List.forall_mem_append.mpr
        ⟨hbase, fun d hd => Text.isWordChar_of_isAlphanum (isAlphanum_of_mem_toString hd)⟩
  rw [String.toList_append, List.mem_append] at h
  rcases h with h | h
  · exact hchars c h
  · exact Text.isWordChar_of_isAlphanum (isAlphanum_of_mem_endings x hx c h)

/-- The types of an operation with the id can be named. -/
structure Usable (id : String) : Prop where
  /-- The name of a type has letters and digits only, and a capital letter in front. -/
  word : IsTypeName (typeName id).toList
  /-- The letters and digits are those of the id, if there are any. -/
  letters : Text.folded id.toList = [] ∧ typeName id = "Unnamed" ∨
    ∃ front ∈ ["", "Op"], ∃ rest, (typeName id).toList = front.toList ++ rest ∧ rest ≠ [] ∧
      rest.map Char.toLower = Text.folded id.toList
  /-- With any number and any suffix behind it, the name is an identifier. -/
  names : ∀ stem, Stem.IsCandidate (typeName id) stem → ∀ name ∈ Stem.names stem, isIdentifier name
  /-- So are the names that are made from its stem, whatever names are used. -/
  allocated : ∀ used, ∀ name ∈ Stem.names (Stem.allocate used id), isIdentifier name

/-- The types of an operation can be named whatever ASCII characters its id is made of. -/
theorem usable_of_isAscii (h : Text.IsAscii id.toList) : Usable id := by
  have hword : IsTypeName (typeName id).toList := by
    rw [typeName, String.toList_ofList]
    exact isTypeName_typeNameChars h
  have hnames : ∀ stem, Stem.IsCandidate (typeName id) stem →
      ∀ name ∈ Stem.names stem, isIdentifier name :=
    fun stem hstem name => isIdentifier_of_mem_names hword hstem
  refine ⟨hword, ?_, hnames, fun used => hnames _ (Stem.isCandidate_allocate used id)⟩
  rw [typeName, String.toList_ofList, ← String.toList_inj, String.toList_ofList]
  exact typeNameChars_cases h

/-- An id with separators in front, a digit as its first word, and words without separators. -/
theorem usable_of_isAscii_digit :
    Text.IsAscii "\t-2fa__XMLHttp\x7f v2!".toList ∧ typeName "\t-2fa__XMLHttp\x7f v2!" = "Op2faXmlHttpV2" ∧
      Usable "\t-2fa__XMLHttp\x7f v2!" := by
  have hascii : Text.IsAscii "\t-2fa__XMLHttp\x7f v2!".toList := by
    simp [Text.IsAscii]
  exact ⟨hascii, by decide +kernel, usable_of_isAscii hascii⟩

end TypedClient.Naming
