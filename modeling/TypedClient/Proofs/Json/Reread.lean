import TypedClient.Proofs.Json.Numeral
import TypedClient.Proofs.Json.Room
import TypedClient.Proofs.Json.RoundTrip

/-!
# Numbers that are read again

A numeral that is cut off a text is cut off as well if something stands behind the text that cannot go on
with a numeral (`Json.takeNumeral_append`). So it is enough to know how the text of a number is read as a
document of its own to know how it is read in any document (`Json.Number.readsAs_of_parse`).
-/

namespace TypedClient

namespace Json

variable {c : Char} {cs r rest : List Char} {numeral : Numeral}

/-! ## Parts of numerals -/

/-- What is left behind digits is the end of the text. -/
theorem takeDigits_suffix (cs : List Char) : (takeDigits cs).2 <:+ cs :=
  List.dropWhile_suffix _

/-- More text behind the end of a numeral does not add digits. -/
theorem takeDigits_append_rest (cs : List Char) (hrest : EndsNumeral rest) :
    takeDigits (cs ++ rest) = ((takeDigits cs).1, (takeDigits cs).2 ++ rest) := by
  induction cs with
  | nil =>
    have hnone : takeDigits ([] ++ rest) = ([], rest) :=
      takeDigits_append (fun c hc => absurd hc List.not_mem_nil) hrest
    exact hnone
  | cons c cs ih =>
    by_cases hc : c.isDigit
    · simpa [takeDigits, hc] using ih
    · simp [takeDigits, hc]

theorem takeFraction_suffix {fraction : Option (List Char)} (h : takeFraction cs = .ok (fraction, r)) :
    r <:+ cs := by
  rw [takeFraction.eq_def] at h
  split at h
  next digits =>
    have hdigits := takeDigits_suffix digits
    split at h
    next => cases h
    next heq =>
      cases h
      rw [heq] at hdigits
      exact hdigits.trans (List.suffix_cons _ _)
  next =>
    cases h
    exact List.suffix_rfl

/-- More text behind the end of a numeral does not change its fraction. -/
theorem takeFraction_append {fraction : Option (List Char)} (h : takeFraction cs = .ok (fraction, r))
    (hrest : EndsNumeral rest) : takeFraction (cs ++ rest) = .ok (fraction, r ++ rest) := by
  rw [takeFraction.eq_def] at h
  split at h
  next digits =>
    rw [List.cons_append, takeFraction, takeDigits_append_rest digits hrest]
    split at h
    next => cases h
    next hne heq =>
      cases h
      simp only [heq]
  next hpoint =>
    cases h
    cases cs with
    | nil => exact takeFraction_of_ends hrest
    | cons c cs =>
      rw [List.cons_append, takeFraction]
      rintro ds ⟨rfl, rfl⟩
      exact hpoint cs rfl

theorem takeSign_suffix (cs : List Char) : (takeSign cs).2 <:+ cs := by
  rw [takeSign.eq_def]
  split
  · exact List.suffix_cons _ _
  · exact List.suffix_cons _ _
  · exact List.suffix_rfl

/-- More text does not change a sign. -/
theorem takeSign_append (hne : cs ≠ []) :
    takeSign (cs ++ rest) = ((takeSign cs).1, (takeSign cs).2 ++ rest) := by
  obtain ⟨c, cs, rfl⟩ := List.exists_cons_of_ne_nil hne
  rw [List.cons_append, takeSign.eq_def, takeSign.eq_def]
  by_cases hminus : c = '-'
  · subst hminus
    rfl
  by_cases hplus : c = '+'
  · subst hplus
    rfl
  simp [hminus, hplus]

theorem takeExponent_suffix {exponent : Option (Bool × List Char)}
    (h : takeExponent cs = .ok (exponent, r)) : r <:+ cs := by
  cases cs with
  | nil =>
    cases h
    exact List.suffix_rfl
  | cons c cs =>
    rw [takeExponent] at h
    split at h
    · have hdigits := (takeDigits_suffix (takeSign cs).2).trans (takeSign_suffix cs)
      dsimp only at h
      split at h
      next => cases h
      next heq =>
        cases h
        rw [heq] at hdigits
        exact hdigits.trans (List.suffix_cons _ _)
    · cases h
      exact List.suffix_rfl

/-- More text behind the end of a numeral does not change its exponent. -/
theorem takeExponent_append {exponent : Option (Bool × List Char)}
    (h : takeExponent cs = .ok (exponent, r)) (hrest : EndsNumeral rest) :
    takeExponent (cs ++ rest) = .ok (exponent, r ++ rest) := by
  cases cs with
  | nil =>
    cases h
    exact takeExponent_of_ends hrest
  | cons c cs =>
    rw [List.cons_append]
    rw [takeExponent] at h ⊢
    split at h
    next hmark =>
      rw [if_pos hmark]
      -- without a digit behind the mark there is no exponent
      have hne : cs ≠ [] := by
        rintro rfl
        cases h
      dsimp only at h ⊢
      rw [takeSign_append hne, takeDigits_append_rest _ hrest]
      split at h
      next => cases h
      next heq =>
        cases h
        simp only [heq]
    next hmark =>
      cases h
      rw [if_neg hmark]
      rfl

/-! ## Numerals -/

/-- Whether a numeral has a minus sign, and what comes after it. -/
def takeMinus : List Char → Bool × List Char
  | '-' :: cs => (true, cs)
  | cs => (false, cs)

/-- Cuts a numeral off the start of a text whose sign is known. -/
def takeUnsigned (negative : Bool) (cs : List Char) : Except Fault (Numeral × List Char) := do
  let (whole, cs) := takeDigits cs
  if whole = [] then throw .badNumber
  if whole.head? = some '0' && whole.length > 1 then throw .badNumber
  let (fraction, cs) ← takeFraction cs
  let (exponent, cs) ← takeExponent cs
  return (⟨negative, whole, fraction, exponent⟩, cs)

/-- A numeral is its sign and what is cut off behind it. -/
theorem takeNumeral_eq (cs : List Char) :
    takeNumeral cs = takeUnsigned (takeMinus cs).1 (takeMinus cs).2 :=
  rfl

theorem takeMinus_suffix (cs : List Char) : (takeMinus cs).2 <:+ cs := by
  rw [takeMinus.eq_def]
  split
  · exact List.suffix_cons _ _
  · exact List.suffix_rfl

/-- More text does not change whether there is a minus sign. -/
theorem takeMinus_append (hne : cs ≠ []) :
    takeMinus (cs ++ rest) = ((takeMinus cs).1, (takeMinus cs).2 ++ rest) := by
  obtain ⟨c, cs, rfl⟩ := List.exists_cons_of_ne_nil hne
  rw [List.cons_append, takeMinus.eq_def, takeMinus.eq_def]
  by_cases hminus : c = '-'
  · subst hminus
    rfl
  · simp [hminus]

/-- What stands behind a numeral is cut off with nothing of it. -/
theorem takeUnsigned_append {negative : Bool} (h : takeUnsigned negative cs = .ok (numeral, r))
    (hrest : EndsNumeral rest) :
    cs ≠ [] ∧ r <:+ cs ∧ takeUnsigned negative (cs ++ rest) = .ok (numeral, r ++ rest) := by
  have hsuffix := takeDigits_suffix cs
  rw [takeUnsigned] at h ⊢
  rw [takeDigits_append_rest cs hrest]
  have hempty : (takeDigits cs).1 ≠ [] → cs ≠ [] := by
    rintro hne rfl
    exact hne rfl
  generalize takeDigits cs = cut at h hsuffix hempty ⊢
  obtain ⟨whole, behind⟩ := cut
  dsimp only at h hsuffix hempty ⊢
  by_cases hwhole : whole = []
  · rw [if_pos hwhole] at h
    cases h
  by_cases hzero : whole.head? = some '0' && whole.length > 1
  · rw [if_neg hwhole, if_pos hzero] at h
    cases h
  rw [if_neg hwhole, if_neg hzero] at h ⊢
  cases hfraction : takeFraction behind with
  | error fault =>
    rw [hfraction] at h
    cases h
  | ok found =>
    obtain ⟨fraction, middle⟩ := found
    rw [hfraction] at h
    cases hexponent : takeExponent middle with
    | error fault =>
      simp [hexponent, bind, Except.bind] at h
    | ok found =>
      obtain ⟨exponent, last⟩ := found
      have hlast := ((takeExponent_suffix hexponent).trans (takeFraction_suffix hfraction)).trans hsuffix
      have hresult : Except.ok (⟨negative, whole, fraction, exponent⟩, last) =
          (Except.ok (numeral, r) : Except Fault (Numeral × List Char)) := by
        simpa [hexponent, bind, Except.bind, pure, Except.pure] using h
      cases hresult
      refine ⟨hempty hwhole, hlast, ?_⟩
      simp [takeFraction_append hfraction hrest, takeExponent_append hexponent hrest, bind, Except.bind,
        pure, Except.pure]

/-- A numeral at the start of a text is cut off as well if something stands behind the text that cannot
go on with a numeral. -/
theorem takeNumeral_append (h : takeNumeral cs = .ok (numeral, r)) (hrest : EndsNumeral rest) :
    r <:+ cs ∧ takeNumeral (cs ++ rest) = .ok (numeral, r ++ rest) := by
  rw [takeNumeral_eq] at h
  obtain ⟨hne, hsuffix, happend⟩ := takeUnsigned_append h hrest
  have hcs : cs ≠ [] := by
    rintro rfl
    exact hne rfl
  refine ⟨hsuffix.trans (takeMinus_suffix cs), ?_⟩
  rw [takeNumeral_eq, takeMinus_append hcs]
  exact happend

/-! ## Numbers -/

namespace Number

/-- The number that the text of a number is read as; a text that is none leaves it as it is. -/
def reread (number : Json.Number) : Json.Number :=
  match parse number.text with
  | .ok (.number read) => read
  | _ => number

/-- The text of a number that is read as a document is read as a number, and as the same one wherever it
stands. -/
theorem readsAs_of_parse {number : Json.Number} {v : Json} (h : parse number.text = .ok v) :
    v = .number number.reread ∧ number.ReadsAs number.reread := by
  obtain ⟨hall, hhead, -⟩ := number.told
  obtain ⟨c, cs, hcs, hstarts⟩ : ∃ c cs, number.text.toList = c :: cs ∧ startsNumeral c := by
    cases htext : number.text.toList with
    | nil => simp [htext] at hhead
    | cons c cs => exact ⟨c, cs, rfl, by simpa [htext] using hhead⟩
  have hread := h
  rw [parse, parseChars, hcs, value_of_startsNumeral hstarts, ← hcs] at hread
  cases htake : takeNumeral number.text.toList with
  | error fault =>
    simp only [htake] at hread
    cases hread
  | ok found =>
    obtain ⟨numeral, rest⟩ := found
    simp only [htake] at hread
    cases hvalue : numeral.value with
    | error fault =>
      simp only [hvalue] at hread
      cases hread
    | ok read =>
      simp only [hvalue] at hread
      split at hread
      next hblank =>
        obtain rfl : Json.number read = v := Except.ok.inj hread
        have hreread : number.reread = read := by rw [reread, h]
        -- what is left over is blank, but no character of the text is
        obtain rfl : rest = [] := by
          have hsuffix := (takeNumeral_append htake endsNumeral_nil).1
          cases rest with
          | nil => rfl
          | cons d ds =>
            have hd : isNumeralChar d :=
              List.all_eq_true.mp hall d (hsuffix.subset List.mem_cons_self)
            rw [skipSpace_cons (isSpace_of_holds rfl hd)] at hblank
            cases hblank
        rw [hreread]
        exact ⟨rfl, hhead, numeral, hvalue, fun rest hrest => (takeNumeral_append htake hrest).2⟩
      next => cases hread

/-! ## Numbers of a document -/

/-- An integer fits 64 bits, signed or unsigned. -/
def Fits : Json.Number → Prop
  | .int n => IsWord (.int n)
  | .real _ => True

/-- The text of a number is read as that number, if it is no integer. -/
def RealReadsBack : Json.Number → Prop
  | .int _ => True
  | .real x => parse (Number.real x).text = .ok (.number (.real x))

/-- The text of a number can be read, if it is no integer. -/
def RealReads : Json.Number → Prop
  | .int _ => True
  | .real x => ∃ read, parse (Number.real x).text = .ok read

variable {number : Json.Number}

/-- A real number is read back if its text can be read and gives the same number. -/
theorem realReadsBack_of_reread {x : TypedClient.Number.Binary64}
    (hread : (parse (Number.real x).text).isOk) (hsame : (Number.real x).reread = .real x) :
    RealReadsBack (.real x) := by
  cases hparse : parse (Number.real x).text with
  | error fault =>
    rw [hparse] at hread
    cases hread
  | ok v =>
    obtain ⟨rfl, -⟩ := readsAs_of_parse hparse
    rw [RealReadsBack, hparse, hsame]

/-- Integers that fit a word are read back, so only real numbers have to be looked at. -/
theorem readsBack_of_fits (h : number.Fits) (hreal : number.RealReadsBack) : number.ReadsBack := by
  cases number with
  | int n => exact readsBack_of_isWord h
  | real x =>
    obtain ⟨hread, hreads⟩ := readsAs_of_parse hreal
    have hsame : (Number.real x).reread = .real x := (Json.number.inj hread).symm
    rwa [hsame] at hreads

/-- The text of an integer that fits a word is read as that integer. -/
theorem parse_text_of_isWord (h : number.IsWord) : parse number.text = .ok (.number number) := by
  have hread := parse_compact (.number number) (readsBack_of_isWord h) trivial (Nat.zero_le _)
  rwa [compact, compactChars, String.ofList_toList] at hread

/-- A number is read as something, if not as itself. -/
theorem readsAs_reread (h : number.Fits) (hreal : number.RealReads) :
    number.ReadsAs number.reread := by
  cases number with
  | int n =>
    have hword : IsWord (.int n) := h
    exact (readsAs_of_parse (parse_text_of_isWord hword)).2
  | real x =>
    obtain ⟨read, hread⟩ := hreal
    exact (readsAs_of_parse hread).2

end Number

mutual

/-- Two properties of every number inside the value. -/
theorem AllNumbers.and {p q : Json.Number → Prop} (v : Json) (hp : v.AllNumbers p)
    (hq : v.AllNumbers q) : v.AllNumbers fun n => p n ∧ q n := by
  match v with
  | .number n => exact ⟨hp, hq⟩
  | .array items => exact AllNumbersItems.and items hp hq
  | .object entries => exact AllNumbersEntries.and entries hp hq
  | .null | .bool _ | .string _ => trivial

theorem AllNumbersItems.and {p q : Json.Number → Prop} (list : List Json)
    (hp : AllNumbersItems p list) (hq : AllNumbersItems q list) :
    AllNumbersItems (fun n => p n ∧ q n) list := by
  match list with
  | [] => trivial
  | item :: others =>
    exact ⟨AllNumbers.and item hp.1 hq.1, AllNumbersItems.and others hp.2 hq.2⟩

theorem AllNumbersEntries.and {p q : Json.Number → Prop} (list : Entries)
    (hp : AllNumbersEntries p list) (hq : AllNumbersEntries q list) :
    AllNumbersEntries (fun n => p n ∧ q n) list := by
  match list with
  | [] => trivial
  | (_, item) :: others =>
    exact ⟨AllNumbers.and item hp.1 hq.1, AllNumbersEntries.and others hp.2 hq.2⟩

end

/-! ## Values of any depth -/

/-- With room enough a value of any depth is read from its compact text. -/
theorem value_compact {room : Nat} (v : Json) (hnumbers : v.AllNumbers Number.ReadsBack)
    (hkeys : v.DistinctKeys) (hdepth : v.depth ≤ room) :
    value (2 * v.compact.toList.length + 2) room v.compact.toList = .ok (v, []) := by
  have hvalue : value (2 * (compactChars v).length + 2) room (compactChars v ++ []) =
      .ok (v.renumber id, []) :=
    value_compactChars v hnumbers hkeys hdepth (by omega) endsNumeral_nil
  rw [List.append_nil, renumber_id] at hvalue
  rwa [compact, String.toList_ofList]

/-- What is read from the compact text of a value is that value. -/
theorem eq_of_parse_compact {v w : Json} (hnumbers : v.AllNumbers Number.ReadsBack)
    (hkeys : v.DistinctKeys) (h : parse v.compact = .ok w) : w = v := by
  rw [parse, parseChars] at h
  split at h
  next => cases h
  next hvalue =>
    have hmore := value_of_le (Nat.le_max_left maxDepth v.depth) hvalue
    rw [value_compact v hnumbers hkeys (Nat.le_max_right maxDepth v.depth)] at hmore
    cases hmore
    split at h
    · exact (Except.ok.inj h).symm
    · cases h

/-- Different values have different compact texts. -/
theorem compact_injective {v w : Json} (hv : v.AllNumbers Number.ReadsBack) (hvkeys : v.DistinctKeys)
    (hw : w.AllNumbers Number.ReadsBack) (hwkeys : w.DistinctKeys) (h : v.compact = w.compact) :
    v = w := by
  have hread := value_compact v hv hvkeys (Nat.le_max_left v.depth w.depth)
  rw [h, value_compact w hw hwkeys (Nat.le_max_right v.depth w.depth)] at hread
  cases hread
  rfl

/-- A value as a reader makes it: no object has a key twice, and integers fit 64 bits. -/
structure Formed (v : Json) : Prop where
  keys : v.DistinctKeys
  numbers : v.AllNumbers Number.Fits

end Json

/-! ## Documents -/

namespace Document

/-- A document as a reader makes it: an object in which no key stands twice and integers fit 64 bits. -/
structure Formed (doc : Document) : Prop where
  object : ∃ entries, doc.root = .object entries
  root : doc.root.Formed

/-- A document whose canonical text tells it apart: as a reader makes it, and the text of each of its
floating-point numbers is read as that number. -/
structure Exact (doc : Document) : Prop extends Formed doc where
  reals : doc.root.AllNumbers Json.Number.RealReadsBack

variable {doc other : Document}

/-- All numbers of an exact document are read back. -/
theorem Exact.readsBack (h : doc.Exact) : doc.root.AllNumbers Json.Number.ReadsBack :=
  Json.AllNumbers.imp (fun _ hn => Json.Number.readsBack_of_fits hn.1 hn.2) _
    (Json.AllNumbers.and _ h.root.numbers h.reals)

/-- Different documents have different canonical texts. -/
theorem Exact.eq_of_canonical (h : doc.Exact) (hother : other.Exact)
    (hcanonical : doc.canonical = other.canonical) : doc = other := by
  have hroot := Json.compact_injective h.readsBack h.root.keys hother.readsBack hother.root.keys
    hcanonical
  cases doc
  cases other
  exact congrArg Document.mk hroot

/-- What is read from the canonical text of a document is that document. -/
theorem Exact.eq_of_ofJsonText (h : doc.Exact) (hread : ofJsonText doc.canonical = .ok other) :
    other = doc := by
  rw [ofJsonText, canonical] at hread
  split at hread
  next root hroot =>
    rw [Json.eq_of_parse_compact h.readsBack h.root.keys hroot] at hread
    cases doc
    rw [ofRoot.eq_def] at hread
    split at hread
    next heq =>
      cases hread
      exact congrArg Document.mk heq.symm
    next => cases hread
  next => cases hread

/-- A document is read from its canonical text as it was, with its keys in their order. -/
theorem Exact.ofJsonText_canonical (h : doc.Exact) (hdepth : doc.root.depth ≤ Json.maxDepth) :
    ofJsonText doc.canonical = .ok doc := by
  obtain ⟨entries, hentries⟩ := h.object
  rw [ofJsonText, canonical, Json.parse_compact _ h.readsBack h.root.keys hdepth]
  cases doc
  obtain rfl := hentries
  rfl

/-- A document can be read from its canonical text, if its numbers can. -/
theorem Formed.exists_ofJsonText_canonical (h : doc.Formed)
    (hdepth : doc.root.depth ≤ Json.maxDepth)
    (hreals : doc.root.AllNumbers Json.Number.RealReads) :
    ∃ read, ofJsonText doc.canonical = .ok read := by
  obtain ⟨root⟩ := doc
  obtain ⟨entries, rfl⟩ : ∃ entries, root = .object entries := h.object
  have hnumbers := Json.AllNumbers.imp (fun n hn => Json.Number.readsAs_reread hn.1 hn.2) _
    (Json.AllNumbers.and _ h.root.numbers hreals)
  rw [ofJsonText, canonical, Json.parse_compact_renumber _ hnumbers h.root.keys hdepth]
  exact ⟨_, rfl⟩

end Document

end TypedClient
