import TypedClient.Proofs.Json.Literal
import TypedClient.Proofs.Json.Numeral

/-!
# What a compact text tells of a value

Numbers apart, the compact text of a value determines the value; of a number it tells at least whether it
is zero. Values with the same compact text have the same shape (`Json.shape_of_compact`).
-/

namespace TypedClient.Json

variable {r s : List Char} {v : Json}

/-! ## Shapes -/

mutual

/-- A value in which each number other than zero has become one. -/
def shape : Json → Json
  | .null => .null
  | .bool b => .bool b
  | .number n => .number (.int (if n.isZero then 0 else 1))
  | .string text => .string text
  | .array items => .array (shapeItems items)
  | .object entries => .object (shapeEntries entries)

/-- The shape of each item. -/
def shapeItems : List Json → List Json
  | [] => []
  | item :: rest => shape item :: shapeItems rest

/-- The shape of each entry's value. -/
def shapeEntries : Entries → Entries
  | [] => []
  | (key, value) :: rest => (key, shape value) :: shapeEntries rest

end

/-! ## First characters -/

/-- Nothing is there that a numeral could go on with. -/
def Closed (cs : List Char) : Prop :=
  ∀ c ∈ cs.head?, isNumeralChar c = false

theorem closed_cons {c : Char} (h : isNumeralChar c = false) (cs : List Char) : Closed (c :: cs) := by
  intro d hd
  obtain rfl := Option.some.inj hd
  exact h

theorem closed_compactItems (items : List Json) : Closed (compactItems items ++ r) := by
  cases items with
  | nil => exact closed_cons (by decide) _
  | cons item rest => exact closed_cons (by decide) _

theorem closed_compactEntries (entries : Entries) : Closed (compactEntries entries ++ r) := by
  cases entries with
  | nil => exact closed_cons (by decide) _
  | cons entry rest => exact closed_cons (by decide) _

/-- A character, with all those alike that start a numeral. -/
def kindOf (c : Char) : Char :=
  if startsNumeral c then '0' else c

/-- What the compact text of a value starts with. -/
def leading : Json → Char
  | .null => 'n'
  | .bool true => 't'
  | .bool false => 'f'
  | .number _ => '0'
  | .string _ => '"'
  | .array _ => '['
  | .object _ => '\x7b'

theorem exists_compactChars_eq (v : Json) : ∃ c cs, compactChars v = c :: cs ∧ kindOf c = leading v := by
  match v with
  | .null => exact ⟨_, _, rfl, rfl⟩
  | .bool true => exact ⟨_, _, rfl, rfl⟩
  | .bool false => exact ⟨_, _, rfl, rfl⟩
  | .number n =>
    have hhead := n.told.head
    cases htext : n.text.toList with
    | nil =>
      rw [htext] at hhead
      cases hhead
    | cons c cs =>
      rw [htext] at hhead
      have hc : startsNumeral c := hhead
      exact ⟨c, cs, htext, if_pos hc⟩
  | .string text => exact ⟨_, _, rfl, rfl⟩
  | .array [] => exact ⟨_, _, rfl, rfl⟩
  | .array (_ :: _) => exact ⟨_, _, rfl, rfl⟩
  | .object [] => exact ⟨_, _, rfl, rfl⟩
  | .object (_ :: _) => exact ⟨_, _, rfl, rfl⟩

/-- Texts that are equal start alike. -/
theorem leading_eq {v w : Json} (h : compactChars v ++ r = compactChars w ++ s) :
    leading v = leading w := by
  obtain ⟨c, cs, hv, hc⟩ := exists_compactChars_eq v
  obtain ⟨d, ds, hw, hd⟩ := exists_compactChars_eq w
  rw [hv, hw] at h
  obtain rfl : c = d := (List.cons.inj h).1
  rw [← hc, hd]

/-- Two values that start alike: equal words, or both numbers, strings, arrays or objects. -/
inductive Alike : Json → Json → Prop
  | null : Alike .null .null
  | bool (b : Bool) : Alike (.bool b) (.bool b)
  | number (n m : Json.Number) : Alike (.number n) (.number m)
  | string (text other : String) : Alike (.string text) (.string other)
  | array (items others : List Json) : Alike (.array items) (.array others)
  | object (entries others : Entries) : Alike (.object entries) (.object others)

theorem alike_of_leading {v w : Json} (h : leading v = leading w) : Alike v w := by
  rcases v with _ | (_ | _) | n | text | items | entries <;>
    rcases w with _ | (_ | _) | m | other | others | others <;>
    first
    | constructor
    | cases h

/-- No value starts with the bracket that ends an array. -/
theorem ne_bracket {cs : List Char} (h : compactChars v ++ r = ']' :: cs) : False := by
  obtain ⟨c, ds, hv, hc⟩ := exists_compactChars_eq v
  rw [hv] at h
  obtain rfl : c = ']' := (List.cons.inj h).1
  have hne : leading v ≠ ']' := by
    unfold leading
    split <;> decide
  exact hne hc.symm

/-! ## Parts of texts -/

theorem quote_cancel {text other : String} (h : quote text ++ r = quote other ++ s) :
    text = other ∧ r = s := by
  have hbody : escape text.toList ++ '"' :: r = escape other.toList ++ '"' :: s := by
    simpa [quote] using h
  have hread := congrArg stringBody hbody
  rw [stringBody_escape, stringBody_escape] at hread
  obtain ⟨htext, hrest⟩ := Prod.mk.inj (Except.ok.inj hread)
  exact ⟨String.toList_inj.mp htext, hrest⟩

/-- What is at the front of a text up to the first character of another kind is unique. -/
theorem append_cancel_of_all {p : Char → Bool} {front other : List Char} (hfront : front.all p)
    (hother : other.all p) (hr : ∀ c ∈ r.head?, p c = false) (hs : ∀ c ∈ s.head?, p c = false)
    (h : front ++ r = other ++ s) : front = other ∧ r = s := by
  have htake : ∀ {cs t : List Char}, cs.all p → (∀ c ∈ t.head?, p c = false) →
      (cs ++ t).takeWhile p = cs := by
    intro cs t hcs ht
    rw [List.takeWhile_append_of_pos (List.all_eq_true.mp hcs)]
    cases t with
    | nil => simp
    | cons c t => rw [List.takeWhile_cons, ht c rfl, if_neg (by decide), List.append_nil]
  have hsame : front = other := by
    rw [← htake hfront hr, h, htake hother hs]
  rw [hsame] at h
  exact ⟨hsame, List.append_cancel_left h⟩

theorem number_cancel {n m : Json.Number} (hr : Closed r) (hs : Closed s)
    (h : n.text.toList ++ r = m.text.toList ++ s) : n.isZero = m.isZero ∧ r = s := by
  obtain ⟨htext, hrest⟩ := append_cancel_of_all n.told.all m.told.all hr hs h
  have hzero := n.told.zero
  rw [htext, m.told.zero] at hzero
  exact ⟨(Bool.not_inj hzero).symm, hrest⟩

/-! ## Values -/

mutual

/-- Values with the same text in front of what no numeral goes on with have the same shape. -/
theorem shape_of_append (v w : Json) (r s : List Char) (hr : Closed r) (hs : Closed s)
    (h : compactChars v ++ r = compactChars w ++ s) : shape v = shape w ∧ r = s := by
  match v, w, alike_of_leading (leading_eq h) with
  | _, _, .null => exact ⟨rfl, List.append_cancel_left h⟩
  | _, _, .bool b => exact ⟨rfl, List.append_cancel_left h⟩
  | _, _, .number n m =>
    obtain ⟨hzero, hrest⟩ := number_cancel hr hs h
    exact ⟨by rw [shape, shape, hzero], hrest⟩
  | _, _, .string text other =>
    obtain ⟨rfl, hrest⟩ := quote_cancel h
    exact ⟨rfl, hrest⟩
  | _, _, .array [] [] => exact ⟨rfl, List.append_cancel_left h⟩
  | _, _, .array [] (item :: rest) =>
    have htail : ']' :: r = compactChars item ++ (compactItems rest ++ s) := by
      simpa [compactChars] using h
    exact (ne_bracket htail.symm).elim
  | _, _, .array (item :: rest) [] =>
    have htail : compactChars item ++ (compactItems rest ++ r) = ']' :: s := by
      simpa [compactChars] using h
    exact (ne_bracket htail).elim
  | _, _, .array (item :: rest) (other :: others) =>
    have htail : compactChars item ++ (compactItems rest ++ r) =
        compactChars other ++ (compactItems others ++ s) := by
      simpa [compactChars] using h
    obtain ⟨hitem, hrest⟩ := shape_of_append item other _ _ (closed_compactItems rest)
      (closed_compactItems others) htail
    obtain ⟨hitems, hend⟩ := shapeItems_of_append rest others r s hrest
    exact ⟨by rw [shape, shape, shapeItems, shapeItems, hitem, hitems], hend⟩
  | _, _, .object [] [] => exact ⟨rfl, List.append_cancel_left h⟩
  | _, _, .object [] ((key, item) :: rest) =>
    exact absurd (List.cons.inj (List.cons.inj h).2).1 (by decide)
  | _, _, .object ((key, item) :: rest) [] =>
    exact absurd (List.cons.inj (List.cons.inj h).2).1 (by decide)
  | _, _, .object ((key, item) :: rest) ((name, other) :: others) =>
    have htail : quote key ++ (':' :: (compactChars item ++ (compactEntries rest ++ r))) =
        quote name ++ (':' :: (compactChars other ++ (compactEntries others ++ s))) := by
      simpa [compactChars] using h
    obtain ⟨rfl, hcolon⟩ := quote_cancel htail
    obtain ⟨hitem, hrest⟩ := shape_of_append item other _ _ (closed_compactEntries rest)
      (closed_compactEntries others) (List.cons.inj hcolon).2
    obtain ⟨hentries, hend⟩ := shapeEntries_of_append rest others r s hrest
    exact ⟨by rw [shape, shape, shapeEntries, shapeEntries, hitem, hentries], hend⟩

/-- Items with the same text have the same shapes. -/
theorem shapeItems_of_append (items others : List Json) (r s : List Char)
    (h : compactItems items ++ r = compactItems others ++ s) :
    shapeItems items = shapeItems others ∧ r = s := by
  match items, others with
  | [], [] => exact ⟨rfl, List.append_cancel_left h⟩
  | [], other :: others => exact absurd (List.cons.inj h).1 (by decide)
  | item :: rest, [] => exact absurd (List.cons.inj h).1 (by decide)
  | item :: rest, other :: others =>
    have htail : compactChars item ++ (compactItems rest ++ r) =
        compactChars other ++ (compactItems others ++ s) := by
      simpa [compactItems] using h
    obtain ⟨hitem, hrest⟩ := shape_of_append item other _ _ (closed_compactItems rest)
      (closed_compactItems others) htail
    obtain ⟨hitems, hend⟩ := shapeItems_of_append rest others r s hrest
    exact ⟨by rw [shapeItems, shapeItems, hitem, hitems], hend⟩

/-- Entries with the same text have the same keys and shapes. -/
theorem shapeEntries_of_append (entries others : Entries) (r s : List Char)
    (h : compactEntries entries ++ r = compactEntries others ++ s) :
    shapeEntries entries = shapeEntries others ∧ r = s := by
  match entries, others with
  | [], [] => exact ⟨rfl, List.append_cancel_left h⟩
  | [], (name, other) :: others => exact absurd (List.cons.inj h).1 (by decide)
  | (key, item) :: rest, [] => exact absurd (List.cons.inj h).1 (by decide)
  | (key, item) :: rest, (name, other) :: others =>
    have htail : quote key ++ (':' :: (compactChars item ++ (compactEntries rest ++ r))) =
        quote name ++ (':' :: (compactChars other ++ (compactEntries others ++ s))) := by
      simpa [compactEntries] using h
    obtain ⟨rfl, hcolon⟩ := quote_cancel htail
    obtain ⟨hitem, hrest⟩ := shape_of_append item other _ _ (closed_compactEntries rest)
      (closed_compactEntries others) (List.cons.inj hcolon).2
    obtain ⟨hentries, hend⟩ := shapeEntries_of_append rest others r s hrest
    exact ⟨by rw [shapeEntries, shapeEntries, hitem, hentries], hend⟩

end

/-- Values with the same compact text have the same shape. -/
theorem shape_of_compact {v w : Json} (h : v.compact = w.compact) : shape v = shape w := by
  have hchars : compactChars v ++ [] = compactChars w ++ [] := by
    rw [List.append_nil, List.append_nil]
    exact String.ofList_injective h
  exact (shape_of_append v w [] [] (by simp [Closed]) (by simp [Closed]) hchars).1

end TypedClient.Json
