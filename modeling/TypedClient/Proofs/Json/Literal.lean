import TypedClient.Json.Printer
import TypedClient.Json.Reader
import Mathlib.Data.List.Basic

/-!
# String literals

A string literal is read as the string it was written for, whatever stands behind it
(`Json.stringBody_escape`). The reader takes one character at a time, so it is enough to look at what is
written for one character.
-/

namespace TypedClient.Json

variable {c : Char} {cs : List Char} {n : Nat}

/-! ## Characters -/

theorem hexValue_hexDigit : ∀ n < 16, hexValue (hexDigit n) = some n := by decide

theorem hexValue4_of_control (h : n < 0x20) :
    hexValue4 '0' '0' (hexDigit (n / 16)) (hexDigit (n % 16)) = some n := by
  have hhigh := hexValue_hexDigit (n / 16) (by omega)
  have hlow := hexValue_hexDigit (n % 16) (by omega)
  have hzero : hexValue '0' = some 0 := by decide
  simp only [hexValue4, hzero, hhigh, hlow, Option.bind_eq_bind, Option.bind_some, Option.pure_def]
  congr 1
  omega

/-- What is read when one more character comes first. -/
def withChar (c : Char) (result : Except Fault (List Char × List Char)) :
    Except Fault (List Char × List Char) :=
  match result with
  | .ok (text, rest) => .ok (c :: text, rest)
  | .error fault => .error fault

theorem stringBody_control (h : c.toNat < 0x20) :
    stringBody ('\\' :: 'u' :: '0' :: '0' :: hexDigit (c.toNat / 16) :: hexDigit (c.toNat % 16) ::
      cs) = withChar c (stringBody cs) := by
  have hlow : isLowSurrogate c.toNat = false := by simp [isLowSurrogate]; omega
  have hhigh : isHighSurrogate c.toNat = false := by simp [isHighSurrogate]; omega
  rw [stringBody]
  simp only [hexValue4_of_control h, hlow, hhigh, Bool.false_eq_true, if_false, Char.ofNat_toNat]
  rfl

theorem stringBody_plain (hquote : c ≠ '"') (hslash : c ≠ '\\') (hcontrol : ¬ c.toNat < 0x20) :
    stringBody (c :: cs) = withChar c (stringBody cs) := by
  rw [stringBody]
  · rw [if_neg hcontrol]
    rfl
  · simpa using hquote
  all_goals simp [hslash]

/-- What is written for a character is read as that character. -/
theorem stringBody_escapeChar : stringBody (escapeChar c ++ cs) = withChar c (stringBody cs) := by
  by_cases hshort : c ∈ ['"', '\\', '\n', '\r', '\t', '\x08', '\x0c']
  · simp only [List.mem_cons, List.not_mem_nil, or_false] at hshort
    rcases hshort with rfl | rfl | rfl | rfl | rfl | rfl | rfl <;> rfl
  simp only [List.mem_cons, List.not_mem_nil, or_false, not_or] at hshort
  obtain ⟨hquote, hslash, hfeed, hreturn, htab, hback, hform⟩ := hshort
  by_cases hcontrol : c.toNat < 0x20
  · rw [escapeChar, if_neg hquote, if_neg hslash, if_neg hfeed, if_neg hreturn, if_neg htab,
      if_neg hback, if_neg hform, if_pos hcontrol]
    exact stringBody_control hcontrol
  · rw [escapeChar, if_neg hquote, if_neg hslash, if_neg hfeed, if_neg hreturn, if_neg htab,
      if_neg hback, if_neg hform, if_neg hcontrol]
    exact stringBody_plain hquote hslash hcontrol

/-! ## Strings -/

/-- A string literal is read as the string it was written for, whatever stands behind it. -/
theorem stringBody_escape (text rest : List Char) :
    stringBody (escape text ++ '"' :: rest) = .ok (text, rest) := by
  induction text with
  | nil => rfl
  | cons c text ih =>
    rw [escape, List.flatMap_cons, List.append_assoc, stringBody_escapeChar]
    change withChar c (stringBody (escape text ++ '"' :: rest)) = _
    rw [ih]
    rfl

end TypedClient.Json
