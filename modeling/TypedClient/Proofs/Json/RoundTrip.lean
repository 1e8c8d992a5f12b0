import TypedClient.Proofs.Json.Integer
import TypedClient.Proofs.Json.Literal
import TypedClient.Spec.Reader

/-!
# Reading what was written

The compact text of a value is read as that value, with its keys in the same order, if every number in it
is read back, no object has a key twice, and not too many containers lie within one another
(`Json.parse_compact`). So documents whose numbers are integers of 64 bits are read from their
canonical text, and different ones have different texts (`Document.canonical_faithful`).
-/

namespace TypedClient

namespace Json

variable {c : Char} {cs rest tail : List Char} {fuel room : Nat} {f : Json.Number → Json.Number}

mutual

/-- Every number inside the value has the property. -/
def AllNumbers (p : Json.Number → Prop) : Json → Prop
  | .number n => p n
  | .array items => AllNumbersItems p items
  | .object entries => AllNumbersEntries p entries
  | _ => True

/-- `AllNumbers` of each item. -/
def AllNumbersItems (p : Json.Number → Prop) : List Json → Prop
  | [] => True
  | item :: rest => AllNumbers p item ∧ AllNumbersItems p rest

/-- `AllNumbers` of each entry's value. -/
def AllNumbersEntries (p : Json.Number → Prop) : List (String × Json) → Prop
  | [] => True
  | (_, value) :: rest => AllNumbers p value ∧ AllNumbersEntries p rest

end

mutual

/-- What follows from the property holds of every number as well. -/
theorem AllNumbers.imp {p q : Json.Number → Prop} (h : ∀ n, p n → q n) (v : Json)
    (hv : v.AllNumbers p) : v.AllNumbers q := by
  match v with
  | .number n => exact h n hv
  | .array items => exact AllNumbersItems.imp h items hv
  | .object entries => exact AllNumbersEntries.imp h entries hv
  | .null | .bool _ | .string _ => trivial

theorem AllNumbersItems.imp {p q : Json.Number → Prop} (h : ∀ n, p n → q n) (list : List Json)
    (hlist : AllNumbersItems p list) : AllNumbersItems q list := by
  match list with
  | [] => trivial
  | item :: others => exact ⟨AllNumbers.imp h item hlist.1, AllNumbersItems.imp h others hlist.2⟩

theorem AllNumbersEntries.imp {p q : Json.Number → Prop} (h : ∀ n, p n → q n) (list : Entries)
    (hlist : AllNumbersEntries p list) : AllNumbersEntries q list := by
  match list with
  | [] => trivial
  | (_, item) :: others => exact ⟨AllNumbers.imp h item hlist.1, AllNumbersEntries.imp h others hlist.2⟩

end

mutual

/-- The value with another number in the place of each one. -/
def renumber (f : Json.Number → Json.Number) : Json → Json
  | .number n => .number (f n)
  | .array items => .array (renumberItems f items)
  | .object entries => .object (renumberEntries f entries)
  | v => v

/-- `renumber` for each item. -/
def renumberItems (f : Json.Number → Json.Number) : List Json → List Json
  | [] => []
  | item :: rest => renumber f item :: renumberItems f rest

/-- `renumber` for each entry's value. -/
def renumberEntries (f : Json.Number → Json.Number) : List (String × Json) → List (String × Json)
  | [] => []
  | (key, value) :: rest => (key, renumber f value) :: renumberEntries f rest

end

mutual

/-- Leaving each number as it is changes nothing. -/
theorem renumber_id (v : Json) : v.renumber id = v := by
  match v with
  | .array items => rw [renumber, renumberItems_id items]
  | .object entries => rw [renumber, renumberEntries_id entries]
  | .null | .bool _ | .number _ | .string _ => rfl

theorem renumberItems_id (list : List Json) : renumberItems id list = list := by
  match list with
  | [] => rfl
  | item :: others => rw [renumberItems, renumber_id item, renumberItems_id others]

theorem renumberEntries_id (list : Entries) : renumberEntries id list = list := by
  match list with
  | [] => rfl
  | (_, item) :: others => rw [renumberEntries, renumber_id item, renumberEntries_id others]

end

/-- Changing numbers does not change keys. -/
theorem keys_renumberEntries (list : Entries) :
    (renumberEntries f list).map Prod.fst = list.map Prod.fst := by
  induction list with
  | nil => rfl
  | cons entry others ih =>
    obtain ⟨key, item⟩ := entry
    rw [renumberEntries, List.map_cons, List.map_cons, ih]

/-! ## Entries -/

/-- An entry with a new key goes to the end. -/
theorem Entries.insert_of_not_mem {known : Entries} {key : String} {value : Json}
    (h : key ∉ known.map Prod.fst) : known.insert key value = known ++ [(key, value)] := by
  induction known with
  | nil => rfl
  | cons entry rest ih =>
    rw [List.map_cons, List.mem_cons, not_or] at h
    rw [Entries.insert, if_neg (Ne.symm h.1), ih h.2]
    rfl

/-- Entries with different keys stay as they are. -/
theorem Entries.foldl_insert {known entries : Entries}
    (h : ((known ++ entries).map Prod.fst).Nodup) :
    entries.foldl (fun known entry => known.insert entry.1 entry.2) known = known ++ entries := by
  induction entries generalizing known with
  | nil => simp
  | cons entry rest ih =>
    have hnew : entry.1 ∉ known.map Prod.fst := by
      rw [List.map_append, List.nodup_append] at h
      exact fun hmem => h.2.2 _ hmem entry.1 (by simp) rfl
    rw [List.foldl_cons, Entries.insert_of_not_mem hnew, ih (by simpa using h), List.append_assoc,
      List.singleton_append]

/-- Entries with different keys stay as they are when they are read into an object one by one. -/
theorem Entries.ofList_of_nodup {entries : Entries} (h : (entries.map Prod.fst).Nodup) :
    Entries.ofList entries = entries := by
  show entries.foldl (fun known entry => Entries.insert known entry.1 entry.2) [] = [] ++ entries
  exact Entries.foldl_insert h

/-! ## First characters -/

theorem skipSpace_cons (h : isSpace c = false) : skipSpace (c :: cs) = c :: cs := by
  simp [skipSpace, h]

/-- A character with a property that no space has is no space. -/
theorem isSpace_of_holds {p : Char → Bool} (hp : [' ', '\n', '\t', '\r'].any p = false) (h : p c) :
    isSpace c = false := by
  by_contra hspace
  simp only [isSpace, Bool.not_eq_false, Bool.or_eq_true, decide_eq_true_eq, or_assoc] at hspace
  have hmem : c ∈ [' ', '\n', '\t', '\r'] := by simpa using hspace
  exact List.any_eq_false.mp hp c hmem h

theorem isSpace_of_startsNumeral (h : startsNumeral c) : isSpace c = false :=
  isSpace_of_holds rfl h

/-- The text of a number starts like a numeral. -/
theorem Number.ReadsAs.exists_text {n m : Json.Number} (h : n.ReadsAs m) :
    ∃ c cs, n.text.toList = c :: cs ∧ startsNumeral c := by
  obtain ⟨c, hc, hstarts⟩ : ∃ c, n.text.toList.head? = some c ∧ startsNumeral c := by
    simpa [Option.any_eq_true] using h.1
  obtain ⟨cs, hcs⟩ := List.head?_eq_some_iff.mp hc
  exact ⟨c, cs, hcs, hstarts⟩

/-- A written value starts with a character that is no blank and ends no container. -/
theorem exists_compactChars (v : Json) (h : v.AllNumbers fun n => n.ReadsAs (f n)) :
    ∃ c cs, compactChars v = c :: cs ∧ isSpace c = false ∧ c ≠ ']' := by
  cases v with
  | null => exact ⟨'n', _, rfl, by decide, by decide⟩
  | bool b =>
    cases b with
    | false => exact ⟨'f', _, rfl, by decide, by decide⟩
    | true => exact ⟨'t', _, rfl, by decide, by decide⟩
  | number n =>
    obtain ⟨c, cs, hcs, hstarts⟩ := Number.ReadsAs.exists_text h
    refine ⟨c, cs, hcs, isSpace_of_startsNumeral hstarts, ?_⟩
    rintro rfl
    exact absurd hstarts (by decide)
  | string text => exact ⟨'"', _, rfl, by decide, by decide⟩
  | array items => cases items <;> exact ⟨'[', _, rfl, by decide, by decide⟩
  | object entries =>
    rcases entries with _ | ⟨⟨key, value⟩, others⟩ <;> exact ⟨'\x7b', _, rfl, by decide, by decide⟩

/-- No value is written as nothing, so that a reader has something left to consume. -/
theorem length_compactChars_pos (v : Json) (h : v.AllNumbers fun n => n.ReadsAs (f n)) :
    0 < (compactChars v).length := by
  obtain ⟨c, cs, hcons, -⟩ := exists_compactChars v h
  simp [hcons]

/-! ## One step of the reader -/

/-- What starts like a numeral is no keyword. -/
theorem keyword_of_startsNumeral (h : startsNumeral c) : keyword (c :: cs) = none := by
  rw [keyword]
  · rintro ds ⟨rfl, -⟩
    exact absurd h (by decide)
  · rintro ds ⟨rfl, -⟩
    exact absurd h (by decide)
  · rintro ds ⟨rfl, -⟩
    exact absurd h (by decide)

/-- A value that starts like a numeral is one. -/
theorem value_of_startsNumeral (h : startsNumeral c) : value (fuel + 1) room (c :: cs) =
    match takeNumeral (c :: cs) with
    | .error fault => .error fault
    | .ok (numeral, rest) =>
      match numeral.value with
      | .ok n => .ok (.number n, rest)
      | .error fault => .error fault := by
  rw [value, skipSpace_cons (isSpace_of_startsNumeral h)]
  have hchars : c ≠ '"' ∧ c ≠ '[' ∧ c ≠ '\x7b' := by
    refine ⟨?_, ?_, ?_⟩ <;> (rintro rfl; exact absurd h (by decide))
  split
  next heq => exact absurd (List.cons.inj heq).1 hchars.1
  next heq => exact absurd (List.cons.inj heq).1 hchars.2.1
  next heq => exact absurd (List.cons.inj heq).1 hchars.2.2
  next =>
    rw [keyword_of_startsNumeral h]
    exact if_pos h

/-- The text of a number is read back where nothing follows that would go on with it. -/
theorem value_numeral {n m : Json.Number} (h : n.ReadsAs m) (hrest : EndsNumeral rest) :
    value (fuel + 1) room (n.text.toList ++ rest) = .ok (.number m, rest) := by
  obtain ⟨c, cs, hcs, hstarts⟩ := h.exists_text
  obtain ⟨-, numeral, hvalue, htake⟩ := h
  have hnumeral := htake rest hrest
  rw [hcs, List.cons_append] at hnumeral ⊢
  simp only [value_of_startsNumeral hstarts, hnumeral, hvalue]

/-- A string is read if what follows its quote is. -/
theorem value_string {text : List Char} (h : stringBody cs = .ok (text, rest)) :
    value (fuel + 1) room ('"' :: cs) = .ok (.string (String.ofList text), rest) := by
  rw [value, skipSpace_cons (by decide)]
  simp only [h]

/-- An array is read if its items are. -/
theorem value_array {list : List Json} (hspace : isSpace c = false) (hc : c ≠ ']')
    (h : items fuel room (c :: cs) = .ok (list, rest)) :
    value (fuel + 1) (room + 1) ('[' :: c :: cs) = .ok (.array list, rest) := by
  rw [value, skipSpace_cons (by decide)]
  simp only [skipSpace_cons hspace]
  split
  next heq => exact absurd (List.cons.inj heq).1 hc
  next => rw [h]

/-- An object is read if its entries are. -/
theorem value_object {list : Entries} (h : entries fuel room ('"' :: cs) = .ok (list, rest)) :
    value (fuel + 1) (room + 1) ('\x7b' :: '"' :: cs) = .ok (.object (Entries.ofList list), rest) := by
  rw [value, skipSpace_cons (by decide)]
  simp only [skipSpace_cons (show isSpace '"' = false by decide)]
  split
  next heq => simp at heq
  next => rw [h]

/-- The last item is one with a closing bracket behind it. -/
theorem items_last {item : Json} (h : value fuel room cs = .ok (item, ']' :: rest)) :
    items (fuel + 1) room cs = .ok ([item], rest) := by
  rw [items, h]
  rfl

/-- An item with a comma behind it is followed by further items. -/
theorem items_cons {item : Json} {list : List Json} {ds : List Char}
    (h : value fuel room cs = .ok (item, ',' :: ds)) (hrest : items fuel room ds = .ok (list, rest)) :
    items (fuel + 1) room cs = .ok (item :: list, rest) := by
  rw [items, h]
  simp only [skipSpace_cons (show isSpace ',' = false by decide), hrest]

/-- A key is read back together with its colon. -/
theorem entryKey_quote (key : String) (rest : List Char) :
    entryKey (quote key ++ ':' :: rest) = .ok (key, rest) := by
  have hbody := stringBody_escape key.toList (':' :: rest)
  simp only [quote, List.cons_append, List.append_assoc, List.nil_append, entryKey]
  rw [skipSpace_cons (by decide)]
  simp only [hbody, skipSpace_cons (show isSpace ':' = false by decide), String.ofList_toList]

/-- The last entry is one with a closing brace behind it. -/
theorem entries_last {key : String} {item : Json} {ds : List Char}
    (hkey : entryKey cs = .ok (key, ds)) (h : value fuel room ds = .ok (item, '\x7d' :: rest)) :
    entries (fuel + 1) room cs = .ok ([(key, item)], rest) := by
  rw [entries, hkey]
  simp only [h]
  rfl

/-- An entry with a comma behind it is followed by further entries. -/
theorem entries_cons {key : String} {item : Json} {list : Entries} {ds others : List Char}
    (hkey : entryKey cs = .ok (key, ds)) (h : value fuel room ds = .ok (item, ',' :: others))
    (hrest : entries fuel room others = .ok (list, rest)) :
    entries (fuel + 1) room cs = .ok ((key, item) :: list, rest) := by
  rw [entries, hkey]
  simp only [h, skipSpace_cons (show isSpace ',' = false by decide), hrest]

/-! ## Values -/

theorem compactItems_cons (item : Json) (others : List Json) :
    compactItems (item :: others) = ',' :: (compactChars item ++ compactItems others) :=
  rfl

theorem compactEntries_cons (key : String) (item : Json) (others : Entries) :
    compactEntries ((key, item) :: others) =
      ',' :: (quote key ++ ':' :: compactChars item ++ compactEntries others) :=
  rfl

/-- Behind an item stands a comma or a bracket, which ends a numeral. -/
theorem endsNumeral_compactItems (items : List Json) : EndsNumeral (compactItems items ++ tail) := by
  cases items <;> exact endsNumeral_cons (by decide)

/-- Behind an entry stands a comma or a brace, which ends a numeral. -/
theorem endsNumeral_compactEntries (entries : Entries) :
    EndsNumeral (compactEntries entries ++ tail) := by
  rcases entries with _ | ⟨⟨key, value⟩, rest⟩ <;> exact endsNumeral_cons (by decide)

mutual

/-- A value is read from its compact text, with each number as its text is read. -/
theorem value_compactChars {fuel room : Nat} {rest : List Char} (v : Json)
    (hnumbers : v.AllNumbers fun n => n.ReadsAs (f n)) (hkeys : v.DistinctKeys)
    (hdepth : v.depth ≤ room) (hfuel : (compactChars v).length ≤ fuel) (hrest : EndsNumeral rest) :
    value fuel room (compactChars v ++ rest) = .ok (v.renumber f, rest) := by
  have hpos := length_compactChars_pos v hnumbers
  obtain ⟨fuel, rfl⟩ : ∃ k, fuel = k + 1 := ⟨fuel - 1, by omega⟩
  match v with
  | .null => rfl
  | .bool false => rfl
  | .bool true => rfl
  | .number n => exact value_numeral hnumbers hrest
  | .string text =>
    have hstring : value (fuel + 1) room ('"' :: (escape text.toList ++ '"' :: rest)) =
        .ok (.string (String.ofList text.toList), rest) :=
      value_string (stringBody_escape text.toList rest)
    simpa [compactChars, quote, renumber] using hstring
  | .array [] =>
    obtain ⟨room, rfl⟩ : ∃ k, room = k + 1 := ⟨room - 1, by rw [depth] at hdepth; omega⟩
    rfl
  | .array (item :: others) =>
    obtain ⟨room, rfl⟩ : ∃ k, room = k + 1 := ⟨room - 1, by rw [depth] at hdepth; omega⟩
    obtain ⟨c, cs, hcs, hspace, hc⟩ := exists_compactChars item hnumbers.1
    have hitems : items fuel room (compactChars item ++ compactItems others ++ rest) =
        .ok (renumberItems f (item :: others), rest) :=
      items_compactItems (item :: others) hnumbers hkeys (by rw [depth] at hdepth; omega)
        (compactItems_cons item others)
        (by simp only [compactChars, List.cons_append, List.length_cons] at hfuel; omega)
    rw [compactChars, List.cons_append]
    rw [hcs] at hitems ⊢
    exact value_array hspace hc hitems
  | .object [] =>
    obtain ⟨room, rfl⟩ : ∃ k, room = k + 1 := ⟨room - 1, by rw [depth] at hdepth; omega⟩
    rfl
  | .object ((key, item) :: others) =>
    obtain ⟨room, rfl⟩ : ∃ k, room = k + 1 := ⟨room - 1, by rw [depth] at hdepth; omega⟩
    have hentries : entries fuel room
        (quote key ++ ':' :: compactChars item ++ compactEntries others ++ rest) =
        .ok (renumberEntries f ((key, item) :: others), rest) :=
      entries_compactEntries ((key, item) :: others) hnumbers hkeys.2
        (by rw [depth] at hdepth; omega) (compactEntries_cons key item others)
        (by simp only [compactChars, List.cons_append, List.length_cons] at hfuel; omega)
    have hobject := value_object hentries
    rwa [Entries.ofList_of_nodup (by rw [keys_renumberEntries]; exact hkeys.1)] at hobject

/-- Items are read from what is written behind a first one. -/
theorem items_compactItems {fuel room : Nat} {cs tail : List Char} (list : List Json)
    (hnumbers : AllNumbersItems (fun n => n.ReadsAs (f n)) list) (hkeys : DistinctKeysItems list)
    (hdepth : depthItems list ≤ room) (hcs : compactItems list = ',' :: cs) (hfuel : cs.length ≤ fuel) :
    items fuel room (cs ++ tail) = .ok (renumberItems f list, tail) := by
  match list with
  | [] => simp [compactItems] at hcs
  | item :: others =>
    obtain rfl : compactChars item ++ compactItems others = cs := (List.cons.inj hcs).2
    have hpos := length_compactChars_pos item hnumbers.1
    rw [List.length_append] at hfuel
    rw [depthItems] at hdepth
    obtain ⟨fuel, rfl⟩ : ∃ k, fuel = k + 1 := ⟨fuel - 1, by omega⟩
    have hlast : 0 < (compactItems others).length := by cases others <;> simp [compactItems]
    have hitem : value fuel room (compactChars item ++ (compactItems others ++ tail)) =
        .ok (item.renumber f, compactItems others ++ tail) :=
      value_compactChars item hnumbers.1 hkeys.1 (by omega) (by omega)
        (endsNumeral_compactItems others)
    rw [List.append_assoc]
    cases others with
    | nil => exact items_last hitem
    | cons next others =>
      rw [compactItems_cons, List.length_cons] at hfuel
      have hothers : items fuel room (compactChars next ++ compactItems others ++ tail) =
          .ok (renumberItems f (next :: others), tail) :=
        items_compactItems (next :: others) hnumbers.2 hkeys.2 (by omega)
          (compactItems_cons next others) (by omega)
      exact items_cons hitem hothers

/-- Entries are read from what is written behind a first one. -/
theorem entries_compactEntries {fuel room : Nat} {cs tail : List Char} (list : Entries)
    (hnumbers : AllNumbersEntries (fun n => n.ReadsAs (f n)) list) (hkeys : DistinctKeysEntries list)
    (hdepth : depthEntries list ≤ room)
    (hcs : compactEntries list = ',' :: cs) (hfuel : cs.length ≤ fuel) :
    entries fuel room (cs ++ tail) = .ok (renumberEntries f list, tail) := by
  match list with
  | [] => simp [compactEntries] at hcs
  | (key, item) :: others =>
    obtain rfl : quote key ++ ':' :: compactChars item ++ compactEntries others = cs :=
      (List.cons.inj hcs).2
    have hpos := length_compactChars_pos item hnumbers.1
    simp only [List.length_append, List.length_cons] at hfuel
    rw [depthEntries] at hdepth
    obtain ⟨fuel, rfl⟩ : ∃ k, fuel = k + 1 := ⟨fuel - 1, by omega⟩
    have hlast : 0 < (compactEntries others).length := by
      rcases others with _ | ⟨⟨key, value⟩, others⟩ <;> simp [compactEntries]
    have hkey := entryKey_quote key (compactChars item ++ (compactEntries others ++ tail))
    have hitem : value fuel room (compactChars item ++ (compactEntries others ++ tail)) =
        .ok (item.renumber f, compactEntries others ++ tail) :=
      value_compactChars item hnumbers.1 hkeys.1 (by omega) (by omega)
        (endsNumeral_compactEntries others)
    simp only [List.append_assoc, List.cons_append]
    cases others with
    | nil => exact entries_last hkey hitem
    | cons next others =>
      obtain ⟨other, value⟩ := next
      rw [compactEntries_cons, List.length_cons] at hfuel
      have hothers : entries fuel room
          (quote other ++ ':' :: compactChars value ++ compactEntries others ++ tail) =
          .ok (renumberEntries f ((other, value) :: others), tail) :=
        entries_compactEntries ((other, value) :: others) hnumbers.2 hkeys.2 (by omega)
          (compactEntries_cons other value others) (by omega)
      exact entries_cons hkey hitem hothers

end

/-- A value that fits into the reader is read from its compact text, with each number as its text is
read. -/
theorem parse_compact_renumber (v : Json) (hnumbers : v.AllNumbers fun n => n.ReadsAs (f n))
    (hkeys : v.DistinctKeys) (hdepth : v.depth ≤ maxDepth) : parse v.compact = .ok (v.renumber f) := by
  have hvalue : value (2 * (compactChars v).length + 2) maxDepth (compactChars v ++ []) =
      .ok (v.renumber f, []) :=
    value_compactChars v hnumbers hkeys hdepth (by omega) endsNumeral_nil
  rw [List.append_nil] at hvalue
  rw [parse, compact, String.toList_ofList, parseChars, hvalue]
  rfl

/-- A value is read from its compact text, if it fits into the reader. -/
theorem parse_compact (v : Json) (hnumbers : v.AllNumbers Number.ReadsBack) (hkeys : v.DistinctKeys)
    (hdepth : v.depth ≤ maxDepth) : parse v.compact = .ok v := by
  have hread := parse_compact_renumber (f := id) v hnumbers hkeys hdepth
  rwa [renumber_id] at hread

end Json

namespace Document

/-- A document that its canonical text keeps whole: an object, no deeper than the reader goes, without
a key that one object has twice, and with no numbers but integers of 64 bits, signed or unsigned. -/
structure Faithful (doc : Document) : Prop where
  object : ∃ entries, doc.root = .object entries
  keys : doc.root.DistinctKeys
  depth : doc.root.depth ≤ Json.maxDepth
  integers : doc.root.AllNumbers Json.Number.IsWord

variable {doc : Document}

/-- A document is read back from its canonical text. -/
theorem Faithful.ofJsonText_canonical (h : doc.Faithful) : ofJsonText doc.canonical = .ok doc := by
  obtain ⟨entries, hentries⟩ := h.object
  have hnumbers := Json.AllNumbers.imp (fun n => Json.Number.readsBack_of_isWord) doc.root h.integers
  rw [ofJsonText, canonical, Json.parse_compact doc.root hnumbers h.keys h.depth]
  obtain ⟨root⟩ := doc
  obtain rfl : root = .object entries := hentries
  rfl

/-- A document is read from its canonical text as it was, with its keys in their order, and no other one
has that text. -/
theorem canonical_faithful (h : doc.Faithful) :
    ofJsonText doc.canonical = .ok doc ∧
      ∀ other : Document, other.Faithful → other.canonical = doc.canonical → other = doc := by
  refine ⟨h.ofJsonText_canonical, fun other hother hcanonical => ?_⟩
  have hread := hother.ofJsonText_canonical
  rw [hcanonical, h.ofJsonText_canonical] at hread
  exact (Except.ok.inj hread).symm

/-- A document with escapes, with empty containers, and with the least and the greatest of its integers. -/
def boundsDocument : Document where
  root := .object [
    ("z\n\"\\\x01\u00fc", .array [.number (.int (-9223372036854775808)),
      .number (.int 18446744073709551615), .number (.int 0)]),
    ("", .object [("b", .array []), ("a", .object [])]),
    ("a", .string "\x1f\u2028/\t")]

theorem faithful_boundsDocument : boundsDocument.Faithful where
  object := ⟨_, rfl⟩
  keys := by
    simp [boundsDocument, Json.DistinctKeys, Json.DistinctKeysItems, Json.DistinctKeysEntries]
  depth := by decide
  integers := by
    simp [boundsDocument, Json.AllNumbers, Json.AllNumbersItems, Json.AllNumbersEntries,
      Json.Number.IsWord]

theorem canonical_faithful_bounds :
    boundsDocument.Faithful ∧ ofJsonText boundsDocument.canonical = .ok boundsDocument :=
  ⟨faithful_boundsDocument, (canonical_faithful faithful_boundsDocument).1⟩

end Document

end TypedClient
