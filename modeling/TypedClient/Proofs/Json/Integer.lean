import TypedClient.Json.Printer
import TypedClient.Json.Reader
import Mathlib.Data.List.Basic

/-!
# Integers

An integer that fits 64 bits, signed or unsigned, is read as it was written
(`Json.Number.readsBack_of_isWord`), if no character behind it goes on with a numeral.
-/

namespace TypedClient.Json

open TypedClient.Number (twoTo)

variable {c : Char} {cs digits rest : List Char} {n : Nat}

/-- Whether a text cannot go on with a numeral. -/
def EndsNumeral (rest : List Char) : Prop :=
  ∀ c ∈ rest.head?, c.isDigit = false ∧ c ≠ '.' ∧ c ≠ 'e' ∧ c ≠ 'E'

theorem endsNumeral_nil : EndsNumeral [] := by
  intro c hc
  simp at hc

theorem endsNumeral_cons (h : c.isDigit = false ∧ c ≠ '.' ∧ c ≠ 'e' ∧ c ≠ 'E') :
    EndsNumeral (c :: cs) := by
  intro d hd
  obtain rfl : c = d := by simpa using hd
  exact h

/-! ## Rows of digits -/

/-- The digits of a number spell it. -/
theorem digitsValue_toDigits (n : Nat) : digitsValue (Nat.toDigits 10 n) = n := by
  have hfold : digitsValue (Nat.toDigits 10 n) = Nat.ofDigitChars 10 (Nat.toDigits 10 n) 0 := by
    simp only [digitsValue, digitValue, Nat.ofDigitChars_eq_foldl, Nat.mul_comm]
    rfl
  rw [hfold, Nat.ofDigitChars_ten_toDigits]

theorem isDigit_of_mem_digits (h : c ∈ Nat.toDigits 10 n) : c.isDigit :=
  Nat.isDigit_of_mem_toDigits (by decide) (by decide) h

/-- Something is written, and a digit comes first. -/
theorem exists_toDigits_eq_cons (n : Nat) : ∃ c cs, Nat.toDigits 10 n = c :: cs ∧ c.isDigit := by
  obtain ⟨c, cs, hcs⟩ := List.exists_cons_of_ne_nil (Nat.toDigits_ne_nil (n := n) (b := 10))
  exact ⟨c, cs, hcs, isDigit_of_mem_digits (n := n) (by rw [hcs]; exact List.mem_cons_self)⟩

/-- Only zero is written with a zero in front. -/
theorem head?_toDigits (n : Nat) (h : (Nat.toDigits 10 n).head? = some '0') :
    Nat.toDigits 10 n = ['0'] := by
  induction n using Nat.strongRecOn with
  | ind n ih =>
    rcases Nat.lt_or_ge n 10 with hsmall | hlarge
    · rw [Nat.toDigits_of_lt_base hsmall] at h ⊢
      simpa using h
    · rw [Nat.toDigits_of_base_le (by decide) hlarge,
        List.head?_append_of_ne_nil _ Nat.toDigits_ne_nil] at h
      have hfront := ih (n / 10) (by omega) h
      have hvalue := digitsValue_toDigits (n / 10)
      rw [hfront] at hvalue
      have hpositive : 0 < n / 10 := Nat.div_pos hlarge (by decide)
      exact absurd hvalue.symm (Nat.ne_of_gt hpositive)

/-- Digits are taken as far as they go. -/
theorem takeDigits_append (hdigits : ∀ c ∈ digits, c.isDigit) (hrest : EndsNumeral rest) :
    takeDigits (digits ++ rest) = (digits, rest) := by
  cases rest with
  | nil =>
    rw [takeDigits, List.takeWhile_append_of_pos hdigits, List.dropWhile_append_of_pos hdigits]
    simp
  | cons c cs =>
    have hc := (hrest c rfl).1
    simp [takeDigits, List.takeWhile_append_of_pos hdigits, List.dropWhile_append_of_pos hdigits, hc]

/-! ## Numerals of integers -/

theorem takeFraction_of_ends (hrest : EndsNumeral rest) : takeFraction rest = .ok (none, rest) := by
  cases rest with
  | nil => rfl
  | cons c cs =>
    rw [takeFraction]
    rintro ds ⟨rfl, rfl⟩
    exact (hrest '.' rfl).2.1 rfl

theorem takeExponent_of_ends (hrest : EndsNumeral rest) : takeExponent rest = .ok (none, rest) := by
  cases rest with
  | nil => rfl
  | cons c cs =>
    obtain ⟨-, -, hlower, hupper⟩ := hrest c rfl
    rw [takeExponent, if_neg (by simp [hlower, hupper])]

/-- What is written for an integer of the given sign and size. -/
def signedDigits (negative : Bool) (n : Nat) : List Char :=
  (if negative then ['-'] else []) ++ Nat.toDigits 10 n

/-- The digits of a number with a sign before them are a whole numeral. -/
theorem takeNumeral_signedDigits (negative : Bool) (n : Nat) (hrest : EndsNumeral rest) :
    takeNumeral (signedDigits negative n ++ rest) =
      .ok (⟨negative, Nat.toDigits 10 n, none, none⟩, rest) := by
  have hdigits : takeDigits (Nat.toDigits 10 n ++ rest) = (Nat.toDigits 10 n, rest) :=
    takeDigits_append (fun c => isDigit_of_mem_digits) hrest
  have hzero : ¬ ((Nat.toDigits 10 n).head? = some '0' ∧ (Nat.toDigits 10 n).length > 1) := by
    rintro ⟨hhead, hlength⟩
    rw [head?_toDigits n hhead] at hlength
    simp at hlength
  have hfraction := takeFraction_of_ends hrest
  have hexponent := takeExponent_of_ends hrest
  cases negative with
  | true =>
    simp [signedDigits, takeNumeral, hdigits, hzero, hfraction, hexponent, Nat.toDigits_ne_nil, bind,
      Except.bind, pure, Except.pure]
  | false =>
    -- the first digit is no sign
    have hplain : ∀ cs, signedDigits false n ++ rest ≠ '-' :: cs := by
      intro cs hminus
      obtain ⟨c, ds, hcons, hc⟩ := exists_toDigits_eq_cons n
      obtain rfl : c = '-' := by simpa [signedDigits, hcons] using congrArg List.head? hminus
      exact absurd hc (by decide)
    rw [takeNumeral]
    · simp [signedDigits, hdigits, hzero, hfraction, hexponent, Nat.toDigits_ne_nil, bind, Except.bind,
        pure, Except.pure]
    · exact hplain

/-- The first character of a written integer starts a numeral. -/
theorem head?_signedDigits (negative : Bool) (n : Nat) :
    (signedDigits negative n).head?.any startsNumeral := by
  cases negative with
  | true => rfl
  | false =>
    obtain ⟨c, ds, hcons, hc⟩ := exists_toDigits_eq_cons n
    simp [signedDigits, hcons, startsNumeral, hc]

/-! ## Integers -/

namespace Number

/-- A number is an integer that fits 64 bits, signed or unsigned. -/
def IsWord : Json.Number → Prop
  | .int n => -9223372036854775808 ≤ n ∧ n ≤ 18446744073709551615
  | .real _ => False

/-- The text of the first number is a numeral with the value of the second one, and nothing in front of
what cannot go on with a numeral. -/
def ReadsAs (number read : Json.Number) : Prop :=
  number.text.toList.head?.any startsNumeral ∧
    ∃ numeral : Numeral, numeral.value = .ok read ∧
      ∀ rest, EndsNumeral rest → takeNumeral (number.text.toList ++ rest) = .ok (numeral, rest)

/-- The text of a number has the value of that number. -/
def ReadsBack (number : Json.Number) : Prop :=
  number.ReadsAs number

/-- An integer is written as its sign and its digits. -/
theorem toList_text_int (n : Int) :
    (Number.int n).text.toList = signedDigits (decide (n < 0)) n.natAbs := by
  rw [Number.text, Int.toString_eq_repr, Int.repr_eq_if]
  split
  next hpos =>
    have habs : n.toNat = n.natAbs := by omega
    simp [signedDigits, Int.not_lt.mpr hpos, habs]
  next hneg =>
    have habs : (-n).toNat = n.natAbs := by omega
    simp [signedDigits, Int.not_le.mp hneg, habs]

/-- The digits of a small integer are read as that integer. -/
theorem value_signedDigits {negative : Bool} (hsmall : n ≤ maxUnsigned)
    (hneg : negative → 0 < n ∧ n ≤ twoTo 63) :
    Numeral.value ⟨negative, Nat.toDigits 10 n, none, none⟩ =
      .ok (.int (if negative then -(n : Int) else n)) := by
  cases negative with
  | false => simp [Numeral.value, digitsValue_toDigits, hsmall]
  | true =>
    obtain ⟨hpos, hle⟩ := hneg rfl
    simp [Numeral.value, digitsValue_toDigits, hpos, hle]

/-- An integer that fits a word is read back. -/
theorem readsBack_of_isWord {number : Json.Number} (h : number.IsWord) : number.ReadsBack := by
  cases number with
  | real x => exact h.elim
  | int n =>
    obtain ⟨hlow, hhigh⟩ := h
    rw [ReadsBack, ReadsAs, toList_text_int]
    refine ⟨head?_signedDigits _ _, ⟨_, _, none, none⟩, ?_,
      fun rest hrest => takeNumeral_signedDigits _ _ hrest⟩
    have hmax : n.natAbs ≤ 18446744073709551615 := by omega
    have hsize : n < 0 → 0 < n.natAbs ∧ n.natAbs ≤ 9223372036854775808 := fun hneg => by omega
    rw [value_signedDigits hmax (fun hneg => hsize (of_decide_eq_true hneg))]
    congr 2
    split
    next hneg =>
      have hneg : n < 0 := of_decide_eq_true hneg
      omega
    next hpos =>
      have hpos : ¬ n < 0 := fun hneg => hpos (decide_eq_true hneg)
      omega

end Number

end TypedClient.Json
