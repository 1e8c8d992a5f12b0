import TypedClient.Cache.Record
import TypedClient.Proofs.Json.RoundTrip
import Mathlib.Data.List.DropRight

/-!
# Reading records

A record is read from the text it was written as (`Cache.Record.parse_render`).
-/

namespace TypedClient

namespace Json

variable {cs : List Char}

/-- A line feed with the blanks behind it is passed over. -/
theorem skipSpace_newline (level : Nat) : skipSpace (newline level ++ cs) = skipSpace cs := by
  rw [newline, List.cons_append, skipSpace, skipSpace, List.dropWhile_cons_of_pos (by decide),
    List.dropWhile_append_of_pos fun c hc => ?_]
  rw [List.eq_of_mem_replicate hc]
  decide

end Json

namespace Cache.Record

open Json (quote newline skipSpace isSpace)

variable {rest : List Char} {fields : List (String × String)} {key text : String} {fuel : Nat}

/-- The text of a field is read back. -/
theorem textValue_quote (text : String) (rest : List Char) :
    textValue (' ' :: quote text ++ rest) = .ok (text, rest) := by
  have hbody := Json.stringBody_escape text.toList rest
  have hskip : skipSpace (' ' :: quote text ++ rest) = quote text ++ rest := rfl
  rw [textValue, hskip]
  simp only [quote, List.cons_append, List.append_assoc, List.nil_append, hbody,
    String.ofList_toList]

/-- A field that is written is added to those that were read. -/
theorem entryValue_quote (hkey : key ∈ fieldNames) (hnew : fields.lookup key = none) :
    entryValue fields key (' ' :: quote text ++ rest) = .ok ((key, text) :: fields, rest) := by
  rw [entryValue, if_pos hkey, hnew, textValue_quote]
  rfl

theorem entryKey_newline (key : String) (rest : List Char) :
    Json.entryKey (newline 1 ++ quote key ++ ':' :: rest) = .ok (key, rest) := by
  have h := Json.entryKey_quote key rest
  rw [Json.entryKey] at h ⊢
  rwa [List.append_assoc, Json.skipSpace_newline]

/-- The text of one field, with the line feed in front of it. -/
def fieldChars (key text : String) : List Char :=
  newline 1 ++ quote key ++ ':' :: ' ' :: quote text

/-- The name of a field is read back. -/
theorem entryKey_fieldChars (key text : String) (rest : List Char) :
    Json.entryKey (fieldChars key text ++ rest) = .ok (key, ' ' :: quote text ++ rest) := by
  have h := entryKey_newline key (' ' :: quote text ++ rest)
  simpa [fieldChars] using h

theorem entries_last (hkey : key ∈ fieldNames) (hnew : fields.lookup key = none) :
    entries (fuel + 1) fields (fieldChars key text ++ (newline 0 ++ '}' :: rest)) =
      .ok ((key, text) :: fields, rest) := by
  rw [entries, entryKey_fieldChars]
  simp only [entryValue_quote hkey hnew, Json.skipSpace_newline]
  rfl

/-- A field with a comma behind it is followed by others. -/
theorem entries_cons (hkey : key ∈ fieldNames) (hnew : fields.lookup key = none) :
    entries (fuel + 1) fields (fieldChars key text ++ ',' :: rest) =
      entries fuel ((key, text) :: fields) rest := by
  rw [entries, entryKey_fieldChars]
  simp only [entryValue_quote hkey hnew, Json.skipSpace_cons (show isSpace ',' = false by decide)]

theorem entries_skipSpace (fuel : Nat) (fields : List (String × String)) (cs : List Char) :
    entries fuel fields (skipSpace cs) = entries fuel fields cs := by
  have hskip : skipSpace (skipSpace cs) = skipSpace cs := List.dropWhile_idempotent isSpace cs
  have hkey : Json.entryKey (skipSpace cs) = Json.entryKey cs := by
    rw [Json.entryKey, hskip, Json.entryKey]
  cases fuel with
  | zero => rfl
  | succ fuel => rw [entries, hkey, entries]

/-- The text of a record behind its opening brace. -/
def fieldsChars (record : Record) : List Char :=
  fieldChars "hash" record.hash ++ ',' :: (fieldChars "timestamp" record.timestamp ++ ',' ::
    (fieldChars "endpoint" record.endpoint ++ (newline 0 ++ ['}'])))

theorem toList_render (record : Record) : record.render.toList = '{' :: record.fieldsChars := by
  rw [render, Json.pretty, String.toList_ofList]
  simp [toJson, Json.prettyChars, Json.prettyEntries, Json.compactChars, fieldChars, fieldsChars]

/-- The three fields of a record are read in their order. -/
theorem entries_fieldsChars (record : Record) (fuel : Nat) :
    entries (fuel + 3) [] record.fieldsChars =
      .ok ([("endpoint", record.endpoint), ("timestamp", record.timestamp), ("hash", record.hash)],
        []) := by
  rw [fieldsChars, entries_cons (by decide) rfl, entries_cons (by decide) rfl]
  exact entries_last (by decide) rfl

theorem exists_skipSpace_fieldsChars (record : Record) :
    ∃ cs, skipSpace record.fieldsChars = '"' :: cs ∧ 2 ≤ cs.length := by
  rw [fieldsChars, fieldChars, List.append_assoc, List.append_assoc, Json.skipSpace_newline]
  refine ⟨Json.escape "hash".toList ++ ['"'] ++ (':' :: ' ' :: _), rfl, ?_⟩
  simp only [List.length_append, List.length_cons]
  omega

/-- A record is read from its text. -/
theorem parse_render (record : Record) : parse record.render = .ok record := by
  obtain ⟨cs, hcs, hlength⟩ := record.exists_skipSpace_fieldsChars
  obtain ⟨fuel, hfuel⟩ : ∃ fuel, ('"' :: cs).length = fuel + 3 :=
    ⟨cs.length - 2, by rw [List.length_cons]; omega⟩
  have hentries := entries_skipSpace (fuel + 3) [] record.fieldsChars
  rw [entries_fieldsChars, hcs] at hentries
  have hvalue : value record.render.toList = .ok (record, []) := by
    rw [toList_render, value, Json.skipSpace_cons (by decide)]
    simp only [hcs]
    split
    next heq => simp at heq
    next => rw [hfuel, hentries]; rfl
  rw [parse, hvalue]
  rfl

end Cache.Record

end TypedClient
