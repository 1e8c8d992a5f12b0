import TypedClient.Naming.Identifier

/-!
# Object keys

The name that an object key stands for can be read off it, also where the value follows
(`Naming.keyName_propertyKey`): a bare name goes as far as an identifier does, and a quoted one up to the
first quote without a backslash before it. So different names have different keys.
-/

namespace TypedClient

namespace Text

/-- What is quoted, from behind the quote that opens it. -/
def quotation : List Char → List Char
  | '\\' :: c :: cs => c :: quotation cs
  | '"' :: _ => []
  | c :: cs => c :: quotation cs
  | [] => []

theorem quotation_quotedChar (c : Char) (rest : List Char) :
    quotation (quotedChar c ++ rest) = c :: quotation rest := by
  unfold quotedChar
  split
  next h => rw [h]; rfl
  next hslash =>
    split
    next h => rw [h]; rfl
    next hquote => exact quotation.eq_3 c rest (fun _ _ h _ => hslash h) hquote

/-- What is quoted is read back up to the closing quote, whatever stands behind it. -/
theorem quotation_quotedChars (cs rest : List Char) :
    quotation (cs.flatMap quotedChar ++ '"' :: rest) = cs := by
  induction cs with
  | nil => rfl
  | cons c cs ih => rw [List.flatMap_cons, List.append_assoc, quotation_quotedChar, ih]

end Text

namespace Naming

/-- The name of the key that stands in front of other text. -/
def keyName : List Char → List Char
  | '"' :: cs => Text.quotation cs
  | cs => cs.takeWhile isIdentifierChar

theorem isIdentifierChar_of_opensIdentifier {c : Char} (h : opensIdentifier c) : isIdentifierChar c := by
  rw [opensIdentifier, Bool.or_assoc, Bool.or_eq_true] at h
  rw [isIdentifierChar, Char.isAlphanum, Bool.or_assoc, Bool.or_eq_true, Bool.or_eq_true]
  exact h.imp_left .inl

/-- The name of a key is read back, whatever value follows the colon behind it. -/
theorem keyName_propertyKey (name : String) (behind : List Char) :
    keyName ((propertyKey name).toList ++ ':' :: behind) = name.toList := by
  unfold propertyKey
  split
  next hbare =>
    rw [isIdentifier] at hbare
    cases hname : name.toList with
    | nil =>
      rw [hname] at hbare
      cases hbare
    | cons c cs =>
      rw [hname, isIdentifierChars, Bool.and_eq_true] at hbare
      obtain ⟨hopens, hcs⟩ := hbare
      have hquote : c ≠ '"' := by
        rintro rfl
        cases hopens
      have hchars : ∀ d ∈ c :: cs, isIdentifierChar d :=
        List.forall_mem_cons.mpr ⟨isIdentifierChar_of_opensIdentifier hopens, List.all_eq_true.mp hcs⟩
      rw [List.cons_append, keyName.eq_2 _ fun _ h => hquote (List.cons.inj h).1, ← List.cons_append,
        List.takeWhile_append_of_pos hchars, List.takeWhile_cons_of_neg (by decide), List.append_nil]
  next =>
    rw [String.toList_ofList, Text.quoted, List.append_assoc, List.singleton_append, List.cons_append]
    exact Text.quotation_quotedChars name.toList (':' :: behind)

end Naming

end TypedClient
