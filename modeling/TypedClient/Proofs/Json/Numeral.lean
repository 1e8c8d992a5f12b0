import TypedClient.Proofs.Json.Integer

/-!
# Texts of numbers

Whatever number is written, integer or not, its text consists of the characters of numerals and starts
like one, and it has a digit other than zero exactly if the number is not zero (`Json.Number.told`).
-/

namespace TypedClient

open Number (Decimal Binary64 Layout twoTo tenTo)

/-! ## Digits -/

/-- A digit other than zero. -/
def isNonzeroDigit (c : Char) : Bool :=
  c.isDigit && c != '0'

/-- The characters that numbers are written with. -/
def isNumeralChar (c : Char) : Bool :=
  c.isDigit || c = '-' || c = '+' || c = '.' || c = 'e'

theorem isNumeralChar_of_isDigit {c : Char} (h : c.isDigit) : isNumeralChar c := by
  simp [isNumeralChar, h]

theorem all_repr (n : Nat) : n.repr.toList.all Char.isDigit := by
  rw [Nat.toList_repr, List.all_eq_true]
  exact fun c => Json.isDigit_of_mem_digits

/-- A number that is not zero is written with a digit other than zero in front. -/
theorem head?_repr {n : Nat} (h : n ≠ 0) : n.repr.toList.head?.any isNonzeroDigit := by
  obtain ⟨c, cs, hcs, hdigit⟩ := Json.exists_toDigits_eq_cons n
  have hzero : c ≠ '0' := by
    rintro rfl
    have hall := Json.head?_toDigits n (by simp [hcs])
    have hvalue := Json.digitsValue_toDigits n
    rw [hall] at hvalue
    exact h hvalue.symm
  simp [Nat.toList_repr, hcs, isNonzeroDigit, hdigit, hzero]

/-! ## Decimals -/

namespace Number

variable {x : Binary64} {d : Decimal}

theorem stripZeros_ne_zero {fuel : Nat} (h : d.coefficient ≠ 0) :
    (d.stripZeros fuel).coefficient ≠ 0 := by
  induction fuel generalizing d with
  | zero => exact h
  | succ fuel ih =>
    rw [Decimal.stripZeros]
    split
    next hdivides =>
      simp only [Bool.and_eq_true, decide_eq_true_eq] at hdivides
      exact ih (d := ⟨d.coefficient / 10, d.exponent + 1⟩) (by simp only; omega)
    next => exact h

/-- A point of a grid that is taken has a coefficient other than zero. -/
theorem gridPoint_ne_zero {i : Binary64.Interval} {place : Int} (h : i.gridPoint place = some d) :
    d.coefficient ≠ 0 := by
  unfold Binary64.Interval.gridPoint at h
  -- only whether the two points are inside matters, and that the lower one is not zero
  generalize (if 0 ≤ place then (tenTo place.toNat, 1) else (1, tenTo (-place).toNat)) = pair at h
  obtain ⟨unit, scale⟩ := pair
  dsimp only at h
  generalize i.value * scale / (unit * i.den) = down at h
  split at h
  next hdown _ =>
    rw [Bool.and_eq_true, bne_iff_ne] at hdown
    split at h
    · obtain rfl := Option.some.inj h
      exact Nat.succ_ne_zero down
    · obtain rfl := Option.some.inj h
      exact hdown.2
  next hdown _ =>
    rw [Bool.and_eq_true, bne_iff_ne] at hdown
    obtain rfl := Option.some.inj h
    exact hdown.2
  next =>
    obtain rfl := Option.some.inj h
    exact Nat.succ_ne_zero down
  next => exact absurd h.symm (Option.some_ne_none d)

theorem value_interval_ne_zero (h : x.isZero = false) : x.interval.value ≠ 0 := by
  have hmantissa : x.mantissa ≠ 0 := by
    intro hzero
    rw [Binary64.isZero, hzero] at h
    cases h
  have hup : ∀ n, twoTo n ≠ 0 := fun n => Nat.ne_of_gt (Nat.pow_pos (by decide))
  have hvalue : x.interval.value =
      4 * x.mantissa * (if 0 ≤ x.exponent - 2 then twoTo (x.exponent - 2).toNat else 1) := by
    by_cases hscale : 0 ≤ x.exponent - 2
    · simp only [Binary64.interval, if_pos hscale]
    · simp only [Binary64.interval, if_neg hscale]
  rw [hvalue]
  apply Nat.mul_ne_zero (Nat.mul_ne_zero (by decide) hmantissa)
  split
  · exact hup _
  · decide

/-- A number other than zero has no zero for its shortest decimal. -/
theorem shortest_ne_zero (h : x.isZero = false) : x.shortest.coefficient ≠ 0 := by
  rw [Binary64.shortest, h, if_neg (by decide)]
  apply stripZeros_ne_zero
  cases hfound : (List.range 18).findSome? fun (n : Nat) =>
      x.interval.gridPoint (decimalOrder x.interval.value x.interval.den - n) with
  | none => exact value_interval_ne_zero h
  | some found =>
    obtain ⟨n, -, hpoint⟩ := List.exists_of_findSome?_eq_some hfound
    exact gridPoint_ne_zero hpoint

/-! ## Texts of decimals -/

/-- A text of numeral characters that starts with a digit, and has one other than zero if asked for. -/
structure IsDecimalText (nonzero : Prop) (cs : List Char) : Prop where
  all : cs.all isNumeralChar
  head : cs.head?.any Char.isDigit
  any : nonzero → cs.any isNonzeroDigit

theorem all_isNumeralChar_repr (n : Nat) : n.repr.toList.all isNumeralChar := by
  rw [List.all_eq_true]
  exact fun c hc => isNumeralChar_of_isDigit (List.all_eq_true.mp (all_repr n) c hc)

/-- A decimal is written with its digits, the first one of which comes before a point or an exponent. -/
theorem isDecimalText_render (d : Decimal) :
    IsDecimalText (d.coefficient ≠ 0) (d.render Json.numberLayout).toList := by
  obtain ⟨c, cs, hcs, hdigit⟩ := Json.exists_toDigits_eq_cons d.coefficient
  rw [← Nat.toList_repr] at hcs
  have hfirst : d.coefficient ≠ 0 → isNonzeroDigit c := by
    intro hne
    have hhead := head?_repr hne
    rwa [hcs] at hhead
  have hall := all_isNumeralChar_repr d.coefficient
  rw [hcs, List.all_cons, Bool.and_eq_true] at hall
  obtain ⟨hc, hrest⟩ := hall
  have htake : ∀ n, (cs.take n).all isNumeralChar := fun n => List.all_eq_true.mpr fun x hx =>
    List.all_eq_true.mp hrest x (List.mem_of_mem_take hx)
  have hdrop : ∀ n, (cs.drop n).all isNumeralChar := fun n => List.all_eq_true.mpr fun x hx =>
    List.all_eq_true.mp hrest x (List.mem_of_mem_drop hx)
  have hzero : isNumeralChar '0' := by decide
  have hpoint : isNumeralChar '.' := by decide
  unfold Decimal.render
  dsimp only
  split
  · split
    -- all digits come first
    · refine ⟨?_, ?_, fun hne => ?_⟩
      · simp [hcs, hc, hrest, hzero, hpoint]
      · simp [hcs, hdigit]
      · simp [hcs, hfirst hne]
    · split
      -- the point is among the digits
      · refine ⟨?_, ?_, fun hne => ?_⟩
        · simp [hcs, hc, htake, hdrop, hpoint]
        · simp [hcs, hdigit]
        · simp [hcs, hfirst hne]
      -- all digits come last
      · refine ⟨?_, ?_, fun hne => ?_⟩
        · simp [hcs, hc, hrest, hzero, hpoint]
        · simp
        · simp [hcs, hfirst hne]
  -- the first digit comes before the point
  · have hexponent : isNumeralChar 'e' := by decide
    have hminus : isNumeralChar '-' := by decide
    have hplus : Json.numberLayout.positiveMark.toList.all isNumeralChar := by decide
    refine ⟨?_, ?_, fun hne => ?_⟩
    · have hmark : (if 0 ≤ d.exponent + (d.coefficient.repr.length : Int) - 1
          then Json.numberLayout.positiveMark else "-").toList.all isNumeralChar := by
        split
        · exact hplus
        · decide
      have hfraction : (if d.coefficient.repr.length = 1 then ""
          else "." ++ String.ofList (d.coefficient.repr.toList.drop 1)).toList.all isNumeralChar := by
        split
        · decide
        · simp [hcs, hpoint, hrest]
      simp only [String.toList_append, List.all_append, Bool.and_eq_true]
      refine ⟨⟨⟨⟨?_, hfraction⟩, by decide⟩, hmark⟩, all_isNumeralChar_repr _⟩
      simp [hcs, hc]
    · simp [hcs, hdigit]
    · simp [hcs, hfirst hne]

end Number

/-! ## Texts of numbers -/

namespace Json.Number

/-- What the text of a number tells by its characters: it is a numeral, and whether the number is zero. -/
structure Told (number : Json.Number) (cs : List Char) : Prop where
  all : cs.all isNumeralChar
  head : cs.head?.any startsNumeral
  zero : cs.any isNonzeroDigit = !number.isZero

theorem told_int (n : Int) : Told (.int n) (Number.int n).text.toList := by
  rw [toList_text_int]
  have hdigits : ∀ k : Nat, (Nat.toDigits 10 k).all isNumeralChar := by
    intro k
    rw [← Nat.toList_repr]
    exact Number.all_isNumeralChar_repr k
  refine ⟨?_, head?_signedDigits _ _, ?_⟩
  · rw [signedDigits, List.all_append, hdigits, Bool.and_true]
    split <;> decide
  · rw [signedDigits, List.any_append]
    have hsign : (if decide (n < 0) = true then ['-'] else []).any isNonzeroDigit = false := by
      split <;> decide
    rw [hsign, Bool.false_or, isZero]
    by_cases hn : n = 0
    · rw [hn]
      decide
    · have hhead := head?_repr (Int.natAbs_ne_zero.mpr hn)
      obtain ⟨c, cs, hcs, -⟩ := exists_toDigits_eq_cons n.natAbs
      rw [Nat.toList_repr, hcs] at hhead
      have hc : isNonzeroDigit c := hhead
      rw [hcs, List.any_cons, hc, Bool.true_or]
      simp [hn]

theorem told_real (x : Binary64) : Told (.real x) (Number.real x).text.toList := by
  have hsign : ∀ cs : List Char, (if x.negative then "-" else "").toList ++ cs =
      if x.negative then '-' :: cs else cs := by
    intro cs
    split <;> rfl
  have hdecimal := Number.isDecimalText_render x.shortest
  rw [text, Binary64.render, String.toList_append, hsign]
  have hzero : (x.shortest.render numberLayout).toList.any isNonzeroDigit = !x.isZero := by
    cases hx : x.isZero with
    | false => exact hdecimal.any (Number.shortest_ne_zero hx)
    | true =>
      rw [Binary64.shortest, hx, if_pos rfl]
      decide
  split
  · refine ⟨?_, rfl, ?_⟩
    · rw [List.all_cons, hdecimal.all]
      decide
    · rw [List.any_cons, hzero]
      rfl
  · refine ⟨hdecimal.all, ?_, hzero⟩
    have hdigit := hdecimal.head
    cases hhead : (x.shortest.render numberLayout).toList.head? with
    | none =>
      rw [hhead] at hdigit
      cases hdigit
    | some c =>
      rw [hhead] at hdigit
      have hc : c.isDigit := hdigit
      rw [Option.any_some, startsNumeral, hc, Bool.or_true]

theorem told (number : Json.Number) : Told number number.text.toList := by
  cases number with
  | int n => exact told_int n
  | real x => exact told_real x

end Json.Number

end TypedClient
