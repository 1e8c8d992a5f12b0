import TypedClient.Proofs.Json.Reread
import Mathlib.Data.List.Induction
import Mathlib.Data.List.Nodup

/-!
# Values that are read

Whatever the text, the value that is read from it has no key twice in one object, and its integers fit 64
bits (`Json.formed_of_parse`): a repeated key gives way when the entries of an object are collected, and
any other integer is read as a floating-point number.
-/

namespace TypedClient.Json

variable {cs rest : List Char}

/-! ## Entries -/

namespace Entries

variable {key : String} {value : Json}

/-- An entry after an insertion is the new one or one of those before. -/
theorem mem_insert {known : Entries} {entry : String × Json} (h : entry ∈ known.insert key value) :
    entry = (key, value) ∨ entry ∈ known := by
  induction known with
  | nil => exact Or.inl (List.mem_singleton.mp h)
  | cons first rest ih =>
    obtain ⟨k, v⟩ := first
    rw [insert] at h
    split at h
    · rcases List.mem_cons.mp h with rfl | hrest
      · exact Or.inl rfl
      · exact Or.inr (List.mem_cons_of_mem _ hrest)
    · rcases List.mem_cons.mp h with rfl | hrest
      · exact Or.inr List.mem_cons_self
      · exact (ih hrest).imp id (List.mem_cons_of_mem _)

theorem keys_insert_of_mem {known : Entries} (h : key ∈ known.map Prod.fst) :
    (known.insert key value).map Prod.fst = known.map Prod.fst := by
  induction known with
  | nil => exact absurd h List.not_mem_nil
  | cons first rest ih =>
    obtain ⟨k, v⟩ := first
    rw [insert]
    split
    next heq => rw [List.map_cons, List.map_cons, heq]
    next hne =>
      have hrest : key ∈ rest.map Prod.fst := (List.mem_cons.mp h).resolve_left (Ne.symm hne)
      rw [List.map_cons, List.map_cons, ih hrest]

/-- An insertion repeats no key. -/
theorem nodup_insert {known : Entries} (h : (known.map Prod.fst).Nodup) :
    ((known.insert key value).map Prod.fst).Nodup := by
  by_cases hmem : key ∈ known.map Prod.fst
  · rwa [keys_insert_of_mem hmem]
  · rw [insert_of_not_mem hmem, List.map_append, List.nodup_append]
    refine ⟨h, List.nodup_singleton key, fun known hknown other hother => ?_⟩
    obtain rfl : other = key := List.mem_singleton.mp hother
    exact fun heq => hmem (heq ▸ hknown)

theorem ofList_concat (entries : Entries) (entry : String × Json) :
    ofList (entries ++ [entry]) = (ofList entries).insert entry.1 entry.2 := by
  rw [ofList, List.foldl_append]
  rfl

/-- An object that was read has no key twice. -/
theorem nodup_ofList (entries : Entries) : ((ofList entries).map Prod.fst).Nodup := by
  induction entries using List.reverseRecOn with
  | nil => exact List.nodup_nil
  | append_singleton entries entry ih =>
    rw [ofList_concat]
    exact nodup_insert ih

/-- The entries of an object are among those that were read. -/
theorem mem_of_mem_ofList {entries : Entries} {entry : String × Json} (h : entry ∈ ofList entries) :
    entry ∈ entries := by
  induction entries using List.reverseRecOn with
  | nil => exact h
  | append_singleton entries last ih =>
    rw [ofList_concat] at h
    rcases mem_insert h with rfl | hknown
    · exact List.mem_append_right _ List.mem_cons_self
    · exact List.mem_append_left _ (ih hknown)

end Entries

/-! ## Containers -/

/-- An array is well formed if its items are. -/
theorem formed_array {items : List Json} : (array items).Formed ↔ ∀ item ∈ items, item.Formed := by
  induction items with
  | nil => exact ⟨fun _ item hitem => absurd hitem List.not_mem_nil, fun _ => ⟨trivial, trivial⟩⟩
  | cons item rest ih =>
    rw [List.forall_mem_cons, ← ih]
    exact ⟨fun h => ⟨⟨h.keys.1, h.numbers.1⟩, ⟨h.keys.2, h.numbers.2⟩⟩,
      fun h => ⟨⟨h.1.keys, h.2.keys⟩, ⟨h.1.numbers, h.2.numbers⟩⟩⟩

theorem distinctKeys_and_fits {entries : Entries} (h : ∀ entry ∈ entries, entry.2.Formed) :
    DistinctKeysEntries entries ∧ AllNumbersEntries Number.Fits entries := by
  induction entries with
  | nil => exact ⟨trivial, trivial⟩
  | cons entry rest ih =>
    obtain ⟨hentry, hrest⟩ := List.forall_mem_cons.mp h
    obtain ⟨hkeys, hnumbers⟩ := ih hrest
    exact ⟨⟨hentry.keys, hkeys⟩, ⟨hentry.numbers, hnumbers⟩⟩

/-- An object is well formed if its values are and no key comes twice. -/
theorem formed_object {entries : Entries} (hnodup : (entries.map Prod.fst).Nodup)
    (h : ∀ entry ∈ entries, entry.2.Formed) : (object entries).Formed :=
  ⟨⟨hnodup, (distinctKeys_and_fits h).1⟩, (distinctKeys_and_fits h).2⟩

/-- Entries that are collected make an object. -/
theorem formed_ofList {entries : Entries} (h : ∀ entry ∈ entries, entry.2.Formed) :
    (object (Entries.ofList entries)).Formed :=
  formed_object (Entries.nodup_ofList entries) fun entry hentry =>
    h entry (Entries.mem_of_mem_ofList hentry)

/-! ## Numbers -/

/-- A numeral that is computed in floating point gives no integer. -/
theorem exists_real {numeral : Numeral} {number : Json.Number} (h : numeral.real = .ok number) :
    ∃ x, number = .real x := by
  simp only [Numeral.real, bind, Except.bind, pure, Except.pure, throw, throwThe,
    MonadExceptOf.throw] at h
  -- each way through ends in a fault or in a floating-point number
  repeat' split at h
  all_goals first
    | exact ⟨_, (Except.ok.inj h).symm⟩
    | cases h

/-- The number of a numeral fits its kind. -/
theorem fits_of_value {numeral : Numeral} {number : Json.Number} (h : numeral.value = .ok number) :
    number.Fits := by
  have hreal : numeral.real = .ok number → number.Fits := by
    intro h
    obtain ⟨x, rfl⟩ := exists_real h
    trivial
  have hunsigned : (maxUnsigned : Int) = 18446744073709551615 := by decide
  have hsigned : (Number.twoTo 63 : Int) = 9223372036854775808 := by decide
  rw [Numeral.value.eq_def] at h
  split at h
  next =>
    dsimp only at h
    split at h
    next hfits =>
      cases h
      simp only [Bool.and_eq_true, decide_eq_true_eq] at hfits
      show -9223372036854775808 ≤ (digitsValue numeral.whole : Int) ∧ _
      omega
    next =>
      split at h
      next hfits =>
        cases h
        simp only [Bool.and_eq_true, decide_eq_true_eq] at hfits
        show _ ≤ -(digitsValue numeral.whole : Int) ∧ _
        omega
      next => exact hreal h
  next => exact hreal h

/-! ## Values -/

theorem formed_of_keyword {v : Json} (h : keyword cs = some (v, rest)) : v.Formed := by
  rw [keyword.eq_def] at h
  split at h
  all_goals cases h
  all_goals exact ⟨trivial, trivial⟩

mutual

/-- What is read as a value is formed. -/
theorem formed_of_value {fuel room : Nat} {cs rest : List Char} {v : Json}
    (h : value fuel room cs = .ok (v, rest)) : v.Formed := by
  match fuel with
  | 0 => cases h
  | fuel + 1 =>
    rw [value.eq_def] at h
    dsimp only at h
    split at h
    -- a string
    next =>
      split at h
      · cases h
        exact ⟨trivial, trivial⟩
      · cases h
    -- an array
    next =>
      split at h
      · cases h
      · split at h
        · cases h
          exact ⟨trivial, trivial⟩
        · split at h
          next hitems =>
            cases h
            exact formed_array.mpr (formed_of_items hitems)
          next => cases h
    -- an object
    next =>
      split at h
      · cases h
      · split at h
        · cases h
          exact formed_object List.nodup_nil fun entry hentry => absurd hentry List.not_mem_nil
        · split at h
          next hentries =>
            cases h
            exact formed_ofList (formed_of_entries hentries)
          next => cases h
    -- a keyword or a number
    next =>
      split at h
      next hkeyword =>
        cases h
        exact formed_of_keyword hkeyword
      next =>
        split at h
        · split at h
          · cases h
          · split at h
            next hvalue =>
              cases h
              exact ⟨trivial, fits_of_value hvalue⟩
            next => cases h
        · cases h

/-- What is read as items is formed. -/
theorem formed_of_items {fuel room : Nat} {cs rest : List Char} {list : List Json}
    (h : items fuel room cs = .ok (list, rest)) : ∀ item ∈ list, item.Formed := by
  match fuel with
  | 0 => cases h
  | fuel + 1 =>
    rw [items] at h
    split at h
    next => cases h
    next hitem =>
      have hformed := formed_of_value hitem
      split at h
      next =>
        cases h
        simpa using hformed
      next =>
        split at h
        next hothers =>
          cases h
          exact List.forall_mem_cons.mpr ⟨hformed, formed_of_items hothers⟩
        next => cases h
      next => cases h

/-- What is read as entries is formed. -/
theorem formed_of_entries {fuel room : Nat} {cs rest : List Char} {list : Entries}
    (h : entries fuel room cs = .ok (list, rest)) : ∀ entry ∈ list, entry.2.Formed := by
  match fuel with
  | 0 => cases h
  | fuel + 1 =>
    rw [entries] at h
    split at h
    next => cases h
    next =>
      split at h
      next => cases h
      next hitem =>
        have hformed := formed_of_value hitem
        split at h
        next =>
          cases h
          simpa using hformed
        next =>
          split at h
          next hothers =>
            cases h
            exact List.forall_mem_cons.mpr ⟨hformed, formed_of_entries hothers⟩
          next => cases h
        next => cases h

end

/-- A value that is read from a text is formed. -/
theorem formed_of_parse {text : String} {v : Json} (h : parse text = .ok v) : v.Formed := by
  rw [parse, parseChars] at h
  split at h
  next => cases h
  next hvalue =>
    split at h
    · cases h
      exact formed_of_value hvalue
    · cases h

end TypedClient.Json
