import TypedClient.Proofs.Naming.TypeName
import TypedClient.TypeScript.Client

/-!
# Names of generated types

The names that the modules of a client export, import or declare are read off their lines. The module of
operations imports or declares some types of its own, and apart from them the aliases of the operations
(`types_operations`); these clash neither with one another nor with any other name (`aliasNames_fresh`).
-/

namespace TypedClient.TypeScript

/-! ## Names in the lines of a module -/

namespace Module

/-- What stands behind a word, if a line starts with it. -/
def behind? (word line : List Char) : Option (List Char) :=
  if word.isPrefixOf line then some (line.drop word.length) else none

/-- The words in front of the name of a type. -/
def typeWords : List (List Char) :=
  [['t', 'y', 'p', 'e', ' '], ['i', 'n', 't', 'e', 'r', 'f', 'a', 'c', 'e', ' ']]

/-- The words in front of the name of a value. -/
def valueWords : List (List Char) :=
  [['c', 'o', 'n', 's', 't', ' '], ['f', 'u', 'n', 'c', 't', 'i', 'o', 'n', ' ']]

/-- A character of a name: one of an identifier, or of another script than that of ASCII. -/
def isNameChar (c : Char) : Bool :=
  Naming.isIdentifierChar c || 0x80 ≤ c.toNat

/-- The name behind one of the given words. -/
def nameBehind (words : List (List Char)) (line : List Char) : List String :=
  words.filterMap fun word =>
    (behind? word line).map fun rest => String.ofList (rest.takeWhile isNameChar)

/-- What a line exports, if it does. -/
def exported? (line : List Char) : Option (List Char) :=
  behind? ['e', 'x', 'p', 'o', 'r', 't', ' '] line

/-- The name that a line exports. -/
def exportedNames (line : List Char) : List String :=
  match exported? line with
  | none => []
  | some declaration =>
    if (behind? ['d', 'e', 'f', 'a', 'u', 'l', 't', ' '] declaration).isSome then ["default"]
    else nameBehind (typeWords ++ valueWords) declaration

/-- The names of the types that a line imports. -/
def importedTypes (line : List Char) : List String :=
  match behind? ['i', 'm', 'p', 'o', 'r', 't', ' ', 't', 'y', 'p', 'e', ' ', '\x7b'] line with
  | none => []
  | some rest =>
    (Text.split ',' (rest.takeWhile (· ≠ '\x7d'))).map fun part =>
      String.ofList (part.filter Naming.isIdentifierChar)

/-- The names of the types that a line imports or declares. -/
def typeNames (line : List Char) : List String :=
  importedTypes line ++ nameBehind typeWords ((exported? line).getD line)

/-- The names that the lines of a module give. -/
def readLines (read : List Char → List String) (lines : List String) : List String :=
  lines.flatMap fun line => read line.toList

/-- The names that the lines of a module export. -/
def exports (lines : List String) : List String :=
  readLines exportedNames lines

/-- The names of the types that the lines of a module import or declare. -/
def types (lines : List String) : List String :=
  readLines typeNames lines

/-! ## Reading off fixed lines -/

section Reading

variable {read : List Char → List String} {cs : List Char} {lines names : List String}

theorem readLines_nil : readLines read [] = [] := rfl

theorem readLines_append (before behind : List String) :
    readLines read (before ++ behind) = readLines read before ++ readLines read behind :=
  List.flatMap_append

/-- A line that is fixed is read from its characters. -/
theorem readLines_fixed (hmore : readLines read lines = names) :
    readLines read (String.ofList cs :: lines) = read cs ++ names := by
  rw [readLines, List.flatMap_cons, String.toList_ofList, ← hmore, readLines]

/-- A line that depends on a text is read from the characters before it, if they are enough. -/
theorem readLines_open {text rest : String} (henough : ∀ behind, read (cs ++ behind) = read cs)
    (hmore : readLines read lines = names) :
    readLines read ((String.ofList cs ++ text ++ rest) :: lines) = read cs ++ names := by
  rw [readLines, List.flatMap_cons, String.toList_append, String.toList_append,
    String.toList_ofList, List.append_assoc, henough, ← hmore, readLines]

end Reading

end Module

/-! ## The names of the fixed modules -/

section Fixed

open TypedClient.TypeScript.Module

/-- The names that the module with all exports passes on from the modules without operations. -/
def passedOn (settings : ClientSettings) : List String :=
  exports (errors settings.stamp ++ transport settings.transport settings.stamp ++
    helpers settings.stamp settings.typesImport ++ client settings.stamp)

set_option maxRecDepth 2000 in
/-- The names that are passed on are fixed, whatever the settings are. -/
theorem passedOn_eq (settings : ClientSettings) :
    passedOn settings =
      ["ApiError", "ApiResult", "ok", "fail", "normalizeError", "networkError", "PathParams",
        "TransportConfig", "InstanceOptions", "defaultInstanceOptions", "Transport",
        "createInstance"] ++ helperExports ++ ["createClient", "Client", "api", "default"] := by
  simp only [passedOn, exports, errors, transport, helpers, client, String.reduceAppend,
    List.cons_append, List.nil_append]
  apply Eq.trans
  · repeat first
      | (with_reducible apply readLines_open)
        exact fun _ => rfl
      | apply readLines_fixed
    exact readLines_nil
  · rfl

set_option maxRecDepth 1000 in
/-- In front of the aliases the module of operations imports and declares all reserved names but two. -/
theorem types_operationsHead (stamp typesImport : String) :
    types (operationsHead stamp typesImport) = Stem.reserved.take 17 := by
  simp only [types, operationsHead, String.reduceAppend]
  apply Eq.trans
  · repeat first
      | (with_reducible apply readLines_open)
        exact fun _ => rfl
      | apply readLines_fixed
    exact readLines_nil
  · rfl

/-- A name that is passed on ends with the suffix of an alias only if it is that suffix. -/
theorem eq_suffix_of_mem_passedOn (settings : ClientSettings) :
    ∀ name ∈ passedOn settings, ∀ x ∈ Stem.suffixes, x.toList <:+ name.toList → x = name := by
  rw [passedOn_eq]
  decide +kernel

end Fixed

/-! ## The names of the aliases -/

/-- The names of the aliases that the module of operations declares. -/
def aliasNames (ops : List Operation) : List String :=
  (accessors ops).flatMap fun accessor => accessor.aliases.map Alias.name

/-- An accessor has at most one alias for each suffix. -/
theorem Accessor.sublist_aliases (accessor : Accessor) :
    (accessor.aliases.map Alias.name).Sublist (Stem.suffixes.map accessor.typeName) := by
  unfold aliases
  cases accessor.fields? <;> cases accessor.operation.hasBody <;>
    cases accessor.operation.hasQuery <;> simp [responseAlias, Stem.suffixes]

/-- The stems of the accessors, one for each operation of the index. -/
def stems (ops : List Operation) : List String :=
  Stem.allocateAll Stem.reserved (Operation.Index.ofList ops).ids

theorem length_stems (ops : List Operation) :
    (stems ops).length = (Operation.Index.ofList ops).length := by
  rw [stems, Stem.length_allocateAll, Operation.Index.ids, List.length_map]

/-- The accessors are the operations of the index with their stems. -/
theorem accessors_eq (ops : List Operation) :
    accessors ops = ((Operation.Index.ofList ops).zip (stems ops)).map fun pair =>
      ⟨pair.1, pair.2⟩ := by
  rw [List.map_zip_eq_zipWith]
  rfl

/-- The operations of the accessors are those of the index. -/
theorem map_operation_accessors (ops : List Operation) :
    (accessors ops).map Accessor.operation = Operation.Index.ofList ops := by
  rw [accessors_eq, List.map_map]
  exact List.map_fst_zip (length_stems ops).ge

/-- The stems of the accessors are those that were allocated. -/
theorem map_stem_accessors (ops : List Operation) :
    (accessors ops).map Accessor.stem = stems ops := by
  rw [accessors_eq, List.map_map]
  exact List.map_snd_zip (length_stems ops).le

/-- The name of an alias is its stem with a suffix. -/
theorem mem_names_of_mem_aliases {accessor : Accessor} {name : String}
    (h : name ∈ accessor.aliases.map Alias.name) :
    ∃ x ∈ Stem.suffixes, accessor.stem ++ x = name :=
  List.mem_map.mp (accessor.sublist_aliases.subset h)

/-- The names of the aliases are some of those made from the stems, in the same order. -/
theorem sublist_aliasNames (ops : List Operation) :
    (aliasNames ops).Sublist ((stems ops).flatMap Stem.names) := by
  rw [← map_stem_accessors, List.flatMap_map, aliasNames]
  induction accessors ops with
  | nil => exact List.Sublist.refl _
  | cons accessor rest ih =>
    exact (accessor.sublist_aliases.trans (List.sublist_cons_self _ _)).append ih

/-- No two aliases have one name. -/
theorem nodup_aliasNames (ops : List Operation) : (aliasNames ops).Nodup :=
  (sublist_aliasNames ops).nodup
    (Stem.nodup_names_allocateAll Stem.reserved (Operation.Index.ofList ops).ids).1

/-! ## Stems are not empty -/

/-- No id has an empty name. -/
theorem typeName_ne_empty (id : String) : Naming.typeName id ≠ "" := by
  have hchars : Naming.typeNameChars id.toList ≠ [] := by
    rw [Naming.typeNameChars]
    split
    next => decide
    next => split <;> exact List.cons_ne_nil _ _
  intro h
  have hlists := congrArg String.toList h
  rw [Naming.typeName, String.toList_ofList] at hlists
  exact hchars hlists

/-- A candidate is not shorter than the name it is made from. -/
theorem Stem.ne_empty_of_isCandidate {base s : String} (hbase : base ≠ "")
    (h : IsCandidate base s) : s ≠ "" := by
  rintro rfl
  have hlength := length_le_of_isCandidate h
  exact hbase (String.length_eq_zero_iff.mp (Nat.le_zero.mp hlength))

/-- Each stem that is allocated was a candidate for an id. -/
theorem Stem.exists_isCandidate_of_mem_allocateAll {used ids : List String} {stem : String}
    (h : stem ∈ allocateAll used ids) : ∃ id, IsCandidate (Naming.typeName id) stem := by
  induction ids generalizing used with
  | nil => exact absurd h List.not_mem_nil
  | cons id rest ih =>
    rcases List.mem_cons.mp h with rfl | h
    · exact ⟨id, isCandidate_allocate used id⟩
    · exact ih h

/-- The stem of an accessor was a candidate for an id. -/
theorem Accessor.exists_isCandidate {ops : List Operation} {accessor : Accessor}
    (h : accessor ∈ accessors ops) : ∃ id, Stem.IsCandidate (Naming.typeName id) accessor.stem := by
  have hstem : accessor.stem ∈ (accessors ops).map Accessor.stem := List.mem_map_of_mem h
  rw [map_stem_accessors] at hstem
  exact Stem.exists_isCandidate_of_mem_allocateAll hstem

/-! ## Aliases in the lines of the module -/

section Lines

open TypedClient.TypeScript.Module

variable {ops : List Operation} {accessor : Accessor} {name line : String} {cs behind : List Char}

/-- No other character of ASCII than a letter or a digit is in the name of an alias. -/
theorem isNameChar_of_mem_aliases (h : accessor ∈ accessors ops)
    (hname : name ∈ accessor.aliases.map Alias.name) : ∀ c ∈ name.toList, isNameChar c := by
  intro c hc
  obtain ⟨id, hstem⟩ := Accessor.exists_isCandidate h
  obtain ⟨x, hx, rfl⟩ := mem_names_of_mem_aliases hname
  have hmem : accessor.stem ++ x ∈ Stem.names accessor.stem :=
    Stem.mem_names_iff.mpr ⟨x, List.mem_cons_of_mem _ hx, rfl⟩
  have hword := Naming.isWordChar_of_mem_names hstem hmem hc
  rw [isNameChar, Bool.or_eq_true, decide_eq_true_eq, Naming.isIdentifierChar]
  by_cases hascii : c.toNat < 0x80
  · exact .inl (by rw [hword hascii, Bool.true_or, Bool.true_or])
  · exact .inr (Nat.le_of_not_lt hascii)

/-- The name that a line declares is read up to the blank behind it. -/
theorem typeNames_declaration (hcs : ∀ c ∈ cs, isNameChar c) :
    typeNames ("export type ".toList ++ (cs ++ ' ' :: behind)) = [String.ofList cs] := by
  have hname : (cs ++ ' ' :: behind).takeWhile isNameChar = cs := by
    rw [List.takeWhile_append_of_pos hcs, List.takeWhile_cons_of_neg (by decide), List.append_nil]
  change [String.ofList ((cs ++ ' ' :: behind).takeWhile isNameChar)] = _
  rw [hname]

/-- A line that is indented imports and declares nothing. -/
theorem typeNames_indented (h : line.toList.head? = some ' ') : typeNames line.toList = [] := by
  obtain ⟨rest, hrest⟩ := List.head?_eq_some_iff.mp h
  rw [hrest]
  rfl

theorem types_indented {lines : List String} (h : ∀ line ∈ lines, line.toList.head? = some ' ') :
    types lines = [] :=
  List.flatMap_eq_nil_iff.mpr fun line hline => typeNames_indented (h line hline)

/-- The lines of an accessor declare its aliases. -/
theorem types_aliasLines (h : accessor ∈ accessors ops) :
    types accessor.aliasLines = accessor.aliases.map Alias.name := by
  have hline (type : Alias) (htype : type ∈ accessor.aliases) :
      typeNames ("export type " ++ type.name ++ " = " ++ type.type.text ++ ";").toList = [type.name] := by
    have hchars := isNameChar_of_mem_aliases h (List.mem_map_of_mem htype)
    calc typeNames ("export type " ++ type.name ++ " = " ++ type.type.text ++ ";").toList
        = typeNames ("export type ".toList ++
            (type.name.toList ++ ' ' :: ("= ".toList ++ type.type.text.toList ++ ";".toList))) := by simp
      _ = [type.name] := by rw [typeNames_declaration hchars, String.ofList_toList]
  have hempty : readLines typeNames [""] = [] := rfl
  rw [Accessor.aliasLines, types, readLines_append, hempty, List.append_nil, readLines,
    List.flatMap_map, List.flatMap_congr hline, List.map_eq_flatMap]

/-- The lines of all accessors declare all aliases. -/
theorem types_flatMap_aliasLines (ops : List Operation) :
    types ((accessors ops).flatMap Accessor.aliasLines) = aliasNames ops := by
  rw [types, readLines, List.flatMap_assoc, aliasNames]
  exact List.flatMap_congr fun accessor h => types_aliasLines h

/-! ## Lines that declare nothing -/

theorem Accessor.head?_indexLine (accessor : Accessor) : accessor.indexLine.toList.head? = some ' ' := by
  simp [indexLine]

theorem Form.head?_line (form : Form) : form.line.toList.head? = some ' ' := by
  simp [line]

/-- A comment starts with its indentation. -/
theorem Comment.head?_of_text? {summary description comment : String}
    (h : Comment.text? summary description "    " = some comment) : comment.toList.head? = some ' ' := by
  obtain ⟨cs, hcs, rfl⟩ := Option.map_eq_some_iff.mp h
  rw [String.toList_ofList]
  unfold Comment.chars? at hcs
  split at hcs
  next => exact absurd hcs (Option.some_ne_none _).symm
  next =>
    rw [← Option.some.inj hcs]
    rfl
  next =>
    rw [← Option.some.inj hcs]
    rfl

/-- The lines of a function are indented. -/
theorem Accessor.head?_functionLines (h : line ∈ accessor.functionLines) :
    line.toList.head? = some ' ' := by
  rcases List.mem_append.mp h with h | h
  · exact Comment.head?_of_text? (Option.mem_toList.mp h)
  · obtain rfl := List.mem_singleton.mp h
    simp

/-- The module of operations imports and declares its own types, and among them the aliases. -/
theorem types_operations (ops : List Operation) (stamp typesImport : String) :
    types (operations ops stamp typesImport) =
      Stem.reserved.take 17 ++ aliasNames ops ++ Stem.reserved.drop 17 := by
  have hindex : types ((accessors ops).map Accessor.indexLine) = [] :=
    types_indented (List.forall_mem_map.mpr fun accessor _ => accessor.head?_indexLine)
  have hforms : types ((forms ops).map Form.line) = [] :=
    types_indented (List.forall_mem_map.mpr fun form _ => form.head?_line)
  have hfunctions : types ((accessors ops).flatMap Accessor.functionLines) = [] :=
    types_indented fun line h => by
      obtain ⟨accessor, -, hline⟩ := List.mem_flatMap.mp h
      exact Accessor.head?_functionLines hline
  have hhead := types_operationsHead stamp typesImport
  have haliases := types_flatMap_aliasLines ops
  rw [types] at hindex hforms hfunctions hhead haliases
  simp only [operations, types, readLines_append, hindex, hforms, hfunctions, hhead, haliases,
    List.append_assoc]
  rfl

/-- The reserved names are those that the module of operations itself declares or imports. -/
theorem types_operations_nil (stamp typesImport : String) :
    types (operations [] stamp typesImport) = Stem.reserved := by
  have haccessors : accessors [] = [] := rfl
  rw [types_operations, aliasNames, haccessors, List.flatMap_nil, List.append_nil, List.take_append_drop]

end Lines

/-- Apart from its own types the module of operations declares the aliases. Their names are all different,
and they are neither names of types that the module itself declares or imports nor names that are passed on
from other modules. -/
theorem aliasNames_fresh (ops : List Operation) (settings : ClientSettings) :
    (aliasNames ops).Nodup ∧
      (∀ name ∈ aliasNames ops,
        name ∉ Module.types (Module.operations [] settings.stamp settings.typesImport)) ∧
      (∀ name ∈ aliasNames ops, name ∉ passedOn settings) ∧
      ∃ front behind, Module.types (Module.operations [] settings.stamp settings.typesImport) =
          front ++ behind ∧
        Module.types (Module.operations ops settings.stamp settings.typesImport) =
          front ++ aliasNames ops ++ behind := by
  refine ⟨nodup_aliasNames ops, fun name hname => ?_, fun name hname hpassed => ?_,
    Stem.reserved.take 17, Stem.reserved.drop 17, ?_, types_operations ops _ _⟩
  · rw [types_operations_nil]
    exact (Stem.nodup_names_allocateAll Stem.reserved (Operation.Index.ofList ops).ids).2 name
      ((sublist_aliasNames ops).subset hname)
  · obtain ⟨accessor, hmem, hname⟩ := List.mem_flatMap.mp hname
    obtain ⟨x, hx, rfl⟩ := mem_names_of_mem_aliases hname
    have hends : x.toList <:+ (accessor.stem ++ x).toList := by
      rw [String.toList_append]
      exact List.suffix_append _ _
    -- such a name is a bare suffix, and its stem empty
    have hbare := eq_suffix_of_mem_passedOn settings _ hpassed x hx hends
    have hempty : accessor.stem = "" := by
      refine Stem.append_left_injective x ?_
      simpa using hbare.symm
    obtain ⟨id, hstem⟩ := Accessor.exists_isCandidate hmem
    exact Stem.ne_empty_of_isCandidate (typeName_ne_empty id) hstem hempty
  · rw [types_operations_nil, List.take_append_drop]

end TypedClient.TypeScript
