import TypedClient.Proofs.Naming.PropertyKey
import TypedClient.Proofs.Operation.Index
import TypedClient.Proofs.TypeScript.Names

/-!
# Accessors

The module of operations has one accessor and one entry of its index for each id
(`operations_complete`). Each accessor is closed: what its call passes on are its own parameters, and
the types of its signature are aliases of its own (`Accessor.Closed`). Its lines open with its key, from
which the id can be read, and the text of its function stands in them (`Accessor.Written`).
-/

namespace TypedClient.TypeScript

/-! ## What a function declares and uses -/

mutual

/-- The names of types in a type. -/
def Ty.names : Ty → List String
  | .ref name => [name]
  | .generic name args => name :: namesOfTypes args
  | .literal _ => []
  | .union types => namesOfTypes types
  | .object properties => namesOfProperties properties

/-- The names of types in several types. -/
def namesOfTypes : List Ty → List String
  | [] => []
  | type :: rest => type.names ++ namesOfTypes rest

/-- The names of types in properties. -/
def namesOfProperties : List Property → List String
  | [] => []
  | .mk _ _ type :: rest => type.names ++ namesOfProperties rest

end

namespace Expr

/-- The name of an expression that is an identifier. -/
def identifier? : Expr → Option String
  | .ident name => some name
  | _ => none

/-- The names of the parameters of a function. -/
def parameterNames : Expr → List String
  | .arrow params _ _ => params.map Parameter.name
  | _ => []

/-- The arguments of the call that a function consists of. -/
def passed : Expr → List Expr
  | .arrow _ _ (.call _ _ args) => args
  | _ => []

/-- The names of types in the signature of a function and in the type arguments of its call. -/
def typeNames : Expr → List String
  | .arrow params result (.call _ typeArgs _) =>
    (params.flatMap fun param => param.type.names) ++ (result.elim [] Ty.names) ++
      namesOfTypes typeArgs
  | _ => []

end Expr

namespace Accessor

variable (accessor : Accessor)

/-- An accessor fits together. -/
structure Closed (declared : List String) : Prop where
  /-- The parameters have different names. -/
  nodup : accessor.function.parameterNames.Nodup
  /-- An identifier that is passed on is a parameter. -/
  passed_mem : ∀ name, .ident name ∈ accessor.function.passed →
    name ∈ accessor.function.parameterNames
  /-- A parameter is passed on exactly once. -/
  passed_once : ∀ name ∈ accessor.function.parameterNames,
    (accessor.function.passed.filterMap Expr.identifier?).count name = 1
  pathParams_iff : CallShape.pathParamsName ∈ accessor.function.parameterNames ↔
    accessor.operation.pathParams ≠ []
  data_iff : CallShape.dataName ∈ accessor.function.parameterNames ↔
    accessor.operation.method ∈ [.post, .put, .patch] ∧ accessor.operation.hasBody
  /-- The body stands right behind the path, and nowhere else. -/
  body : accessor.operation.method ∈ [.post, .put, .patch] →
    ∃ rest, accessor.function.passed = .string accessor.operation.path ::
        (if accessor.operation.hasBody then .ident CallShape.dataName else .undefined) :: rest ∧
      .ident CallShape.dataName ∉ rest ∧ .undefined ∉ rest
  /-- Without a position for the body, there is neither data nor a place held for it. -/
  no_body : accessor.operation.method ∈ [.get, .delete] →
    ∃ rest, accessor.function.passed = .string accessor.operation.path :: rest ∧
      .ident CallShape.dataName ∉ rest ∧ .undefined ∉ rest
  config_last : accessor.function.passed.getLast? = some (.ident CallShape.configName)
  /-- A type is a fixed one or an alias of this accessor, declared once. -/
  types : ∀ name ∈ accessor.function.typeNames,
    name ∈ ["RequestConfig", "Promise", "ApiResult"] ∨
      name ∈ accessor.aliases.map Alias.name ∧ declared.count name = 1

/-! ## Signature and call -/

/-- There is a record of path parameters if the shape of the call asks for one. -/
theorem fields?_isSome : accessor.fields?.isSome = accessor.shape.pathParams := by
  have hshape : accessor.shape.pathParams = !accessor.operation.pathParams.isEmpty := rfl
  rw [hshape, fields?, Placeholder.record?]
  cases accessor.operation.pathParams.isEmpty <;> rfl

/-- A call takes data if its method has a body and the operation has one. -/
theorem takesData_iff :
    accessor.shape.takesData ↔
      accessor.operation.method ∈ [.post, .put, .patch] ∧ accessor.operation.hasBody := by
  unfold shape CallShape.ofOperation CallShape.of CallShape.takesData
  cases accessor.operation.method <;> cases accessor.operation.hasBody <;> simp

/-- The parameters are those that the shape of the call asks for. -/
theorem parameterNames_function :
    accessor.function.parameterNames =
      (if accessor.shape.pathParams then [CallShape.pathParamsName] else []) ++
      (if accessor.shape.takesData then [CallShape.dataName] else []) ++
      [CallShape.configName] := by
  have hdata : (accessor.operation.hasBody && accessor.shape.takesData) =
      accessor.shape.takesData := by
    have h := accessor.takesData_iff
    cases hbody : accessor.operation.hasBody
    · simpa [hbody] using h
    · rfl
  rw [← fields?_isSome, function, Expr.parameterNames, params, hdata]
  cases accessor.fields? <;> cases accessor.shape.takesData <;> rfl

/-- The identifiers in the call are the parameters, in another order. -/
theorem passed_function :
    accessor.function.passed.filterMap Expr.identifier? =
      (if accessor.shape.takesData then [CallShape.dataName] else []) ++
      (if accessor.shape.pathParams then [CallShape.pathParamsName] else []) ++
      [CallShape.configName] := by
  rw [function, call, Expr.passed, CallShape.arguments, CallShape.takesData]
  cases accessor.shape.body <;> cases accessor.shape.pathParams <;> rfl

/-- What is passed on and what is declared are the same names. -/
theorem passed_perm :
    (accessor.function.passed.filterMap Expr.identifier?).Perm
      accessor.function.parameterNames := by
  rw [passed_function, parameterNames_function]
  exact List.perm_append_comm.append_right _

theorem nodup_parameterNames : accessor.function.parameterNames.Nodup := by
  rw [parameterNames_function]
  cases accessor.shape.pathParams <;> cases accessor.shape.takesData <;> decide

/-! ## Types of a signature -/

theorem response_mem_aliases : accessor.typeName "Response" ∈ accessor.aliases.map Alias.name := by
  simp [aliases, responseAlias]

/-- The configuration has a fixed type, with the alias for the query in it if there is one. -/
theorem names_configType {name : String} (h : name ∈ accessor.configType.names) :
    name = "RequestConfig" ∨ name ∈ accessor.aliases.map Alias.name := by
  unfold configType at h
  split at h
  next hquery =>
    rcases List.mem_cons.mp h with rfl | h
    · exact .inl rfl
    · obtain rfl : name = accessor.typeName "Query" := by simpa [namesOfTypes, Ty.names] using h
      exact .inr (by simp [aliases, hquery])
  next => exact .inl (List.mem_singleton.mp h)

/-- A parameter has a type of its own, but for the configuration. -/
theorem names_params {param : Parameter} {name : String} (hparam : param ∈ accessor.params)
    (hname : name ∈ param.type.names) :
    name = "RequestConfig" ∨ name ∈ accessor.aliases.map Alias.name := by
  rw [params, List.append_assoc, List.mem_append, List.mem_append] at hparam
  rcases hparam with hparam | hparam | hparam
  · split at hparam
    next fields hfields =>
      obtain rfl := List.mem_singleton.mp hparam
      obtain rfl := List.mem_singleton.mp hname
      exact .inr (by simp [aliases, hfields])
    next => exact absurd hparam List.not_mem_nil
  · split at hparam
    next hdata =>
      obtain rfl := List.mem_singleton.mp hparam
      obtain rfl := List.mem_singleton.mp hname
      exact .inr (by simp [aliases, (Bool.and_eq_true_iff.mp hdata).1])
    next => exact absurd hparam List.not_mem_nil
  · obtain rfl := List.mem_singleton.mp hparam
    exact accessor.names_configType hname

/-- A type in the signature or the call is a fixed one or an alias of the accessor. -/
theorem typeNames_function {name : String} (h : name ∈ accessor.function.typeNames) :
    name ∈ ["RequestConfig", "Promise", "ApiResult"] ∨ name ∈ accessor.aliases.map Alias.name := by
  rw [function, call, Expr.typeNames, List.mem_append, List.mem_append] at h
  rcases h with (h | h) | h
  · obtain ⟨param, hparam, hname⟩ := List.mem_flatMap.mp h
    rcases accessor.names_params hparam hname with rfl | hname
    · exact .inl (by simp)
    · exact .inr hname
  · have hresult : name = "Promise" ∨ name = "ApiResult" ∨ name = accessor.typeName "Response" := by
      simpa [resultType, Ty.names, namesOfTypes, responseAlias] using h
    rcases hresult with rfl | rfl | rfl
    · exact .inl (by simp)
    · exact .inl (by simp)
    · exact .inr accessor.response_mem_aliases
  · obtain rfl : name = accessor.typeName "Response" := by
      simpa [Ty.names, namesOfTypes, responseAlias] using h
    exact .inr accessor.response_mem_aliases

/-! ## The body -/

/-- What a call passes behind the body. -/
def trailing : List Expr :=
  (if accessor.shape.pathParams then [.ident CallShape.pathParamsName] else []) ++
    [.ident CallShape.configName]

/-- Nothing that stands for a body comes behind its position. -/
theorem body_not_mem_trailing :
    .ident CallShape.dataName ∉ accessor.trailing ∧ .undefined ∉ accessor.trailing := by
  unfold trailing
  cases accessor.shape.pathParams <;>
    simp [CallShape.pathParamsName, CallShape.dataName, CallShape.configName]

/-- A method with a body has it right behind the path, or a place held for it. -/
theorem passed_of_body (h : accessor.operation.method ∈ [.post, .put, .patch]) :
    accessor.function.passed = .string accessor.operation.path ::
      (if accessor.operation.hasBody then .ident CallShape.dataName else .undefined) ::
        accessor.trailing := by
  have hbody : accessor.shape.body = if accessor.operation.hasBody then .data else .undefined := by
    unfold shape CallShape.ofOperation CallShape.of
    cases hmethod : accessor.operation.method <;> simp [hmethod] at h ⊢
  rw [function, call, Expr.passed, CallShape.arguments, hbody]
  cases accessor.operation.hasBody <;> rfl

/-- A method without a body has no position for one. -/
theorem passed_of_no_body (h : accessor.operation.method ∈ [.get, .delete]) :
    accessor.function.passed = .string accessor.operation.path :: accessor.trailing := by
  have hbody : accessor.shape.body = .omitted := by
    unfold shape CallShape.ofOperation CallShape.of
    cases hmethod : accessor.operation.method <;> simp [hmethod] at h ⊢
  rw [function, call, Expr.passed, CallShape.arguments, hbody]
  rfl

/-- Every accessor of a module fits together. -/
theorem closed {ops : List Operation} {accessor : Accessor} (h : accessor ∈ accessors ops) :
    accessor.Closed (aliasNames ops) where
  nodup := accessor.nodup_parameterNames
  passed_mem name hname :=
    accessor.passed_perm.subset (List.mem_filterMap.mpr ⟨_, hname, rfl⟩)
  passed_once name hname := by
    rw [accessor.passed_perm.count_eq]
    exact List.count_eq_one_of_mem accessor.nodup_parameterNames hname
  pathParams_iff := by
    rw [parameterNames_function]
    have hshape : accessor.shape.pathParams = !accessor.operation.pathParams.isEmpty := rfl
    cases hdata : accessor.shape.takesData <;>
      simp [hshape, CallShape.pathParamsName, CallShape.dataName, CallShape.configName]
  data_iff := by
    rw [parameterNames_function, ← takesData_iff]
    cases accessor.shape.pathParams <;>
      simp [CallShape.pathParamsName, CallShape.dataName, CallShape.configName]
  body hmethod := ⟨_, accessor.passed_of_body hmethod, accessor.body_not_mem_trailing⟩
  no_body hmethod := ⟨_, accessor.passed_of_no_body hmethod, accessor.body_not_mem_trailing⟩
  config_last := by
    rw [function, call, Expr.passed, CallShape.arguments]
    exact List.getLast?_concat
  types name hname := by
    refine (accessor.typeNames_function hname).imp id fun halias => ⟨halias, ?_⟩
    exact List.count_eq_one_of_mem (nodup_aliasNames ops)
      (List.mem_flatMap.mpr ⟨accessor, h, halias⟩)

end Accessor

/-! ## Blocks of the module -/

namespace Module

/-- The lines between two lines. -/
def block (opening closing : String) (lines : List String) : List String :=
  ((lines.dropWhile (· ≠ opening)).drop 1).takeWhile (· ≠ closing)

variable {opening closing : String} {before inside behind : List String}

/-- A block is what stands between its two lines, if these are not met earlier. -/
theorem block_eq (hbefore : opening ∉ before) (hinside : closing ∉ inside) :
    block opening closing (before ++ opening :: inside ++ closing :: behind) = inside := by
  rw [block, List.append_assoc, List.dropWhile_append_of_pos fun line hline => ?_,
    List.cons_append, List.dropWhile_cons_of_neg (by simp), List.drop_succ_cons, List.drop_zero,
    List.takeWhile_append_of_pos fun line hline => ?_, List.takeWhile_cons_of_neg (by simp),
    List.append_nil]
  · exact decide_eq_true fun h => hinside (h ▸ hline)
  · exact decide_eq_true fun h => hbefore (h ▸ hline)

/-- A line ends with the text at its end, so it is none that ends in another way. -/
theorem ne_of_ends {line ending other : String} (hends : ending.toList <:+ line.toList)
    (hother : ¬ ending.toList <:+ other.toList) : other ≠ line := by
  rintro rfl
  exact hother hends

theorem ends_append (text ending : String) : ending.toList <:+ (text ++ ending).toList := by
  rw [String.toList_append]
  exact List.suffix_append _ _

end Module

namespace Accessor

variable {accessor : Accessor} {line : String}

/-- The line of an alias ends with a semicolon. -/
theorem ends_of_mem_aliasLines (h : line ∈ accessor.aliasLines) :
    line = "" ∨ ";".toList <:+ line.toList := by
  rw [aliasLines, List.mem_append] at h
  rcases h with h | h
  · obtain ⟨type, -, rfl⟩ := List.mem_map.mp h
    exact .inr (Module.ends_append _ _)
  · exact .inl (List.mem_singleton.mp h)

theorem ends_indexLine (accessor : Accessor) : "\" \x7d;".toList <:+ accessor.indexLine.toList :=
  Module.ends_append _ _

/-- The name of the key with which a line opens behind its indentation. -/
def keyAt (indent : Nat) (line : String) : String :=
  String.ofList (Naming.keyName (line.toList.drop indent))

/-- The lines of an accessor. -/
structure Written (accessor : Accessor) : Prop where
  /-- The line of the index tells where the operation lives. -/
  index : accessor.indexLine = "  " ++ accessor.key ++ ": \x7b path: " ++
    literal accessor.operation.path ++ "; method: \"" ++ accessor.operation.method.word ++ "\" \x7d;"
  index_key : keyAt 2 accessor.indexLine = accessor.operation.id
  /-- Behind the comment the text of the function stands under the key. -/
  function : accessor.functionLines =
    (Comment.text? accessor.operation.summary accessor.operation.description "    ").toList ++
      ["    " ++ accessor.key ++ ": " ++ accessor.function.text ++ ","]
  function_key : accessor.functionLines.getLast?.map (keyAt 4) = some accessor.operation.id

/-- The id is read off its key, whatever value follows. -/
theorem keyAt_append {indent line : String} (accessor : Accessor) (value : String)
    (hline : line.toList = indent.toList ++ (accessor.key.toList ++ ':' :: value.toList)) :
    keyAt indent.length line = accessor.operation.id := by
  rw [keyAt, hline, ← String.length_toList, List.drop_left, key, Naming.keyName_propertyKey,
    String.ofList_toList]

/-- Every accessor is written down so. -/
theorem written (accessor : Accessor) : accessor.Written where
  index := rfl
  index_key := by
    refine @keyAt_append "  " _ accessor (" \x7b path: " ++ literal accessor.operation.path ++
      "; method: \"" ++ accessor.operation.method.word ++ "\" \x7d;") ?_
    simp [indexLine]
  function := rfl
  function_key := by
    rw [functionLines, List.getLast?_concat, Option.map_some, Option.some.injEq]
    refine @keyAt_append "    " _ accessor (" " ++ accessor.function.text ++ ",") ?_
    simp

end Accessor

theorem Comment.ends_of_chars? {summary description indent comment : List Char}
    (h : Comment.chars? summary description indent = some comment) :
    " */".toList <:+ comment := by
  unfold chars? at h
  split at h
  next => exact absurd h (Option.some_ne_none _).symm
  next line _ =>
    rw [← Option.some.inj h]
    exact List.suffix_append _ _
  next =>
    rw [← Option.some.inj h]
    exact List.suffix_append _ _

/-- A comment ends with a star and a slash. -/
theorem Comment.ends_of_text? {summary description indent comment : String}
    (h : Comment.text? summary description indent = some comment) :
    " */".toList <:+ comment.toList := by
  obtain ⟨cs, hcs, hcomment⟩ := Option.map_eq_some_iff.mp h
  have hlist : comment.toList = cs := by
    rw [← hcomment, String.toList_ofList]
  rw [hlist]
  exact ends_of_chars? hcs

/-- The lines of a function end as a comment does or with a comma. -/
theorem Accessor.ends_of_mem_functionLines {accessor : Accessor} {line : String}
    (h : line ∈ accessor.functionLines) :
    " */".toList <:+ line.toList ∨ ",".toList <:+ line.toList := by
  rw [functionLines, List.mem_append] at h
  rcases h with h | h
  · exact .inl (Comment.ends_of_text? (Option.mem_toList.mp h))
  · obtain rfl := List.mem_singleton.mp h
    exact .inr (Module.ends_append _ _)

theorem Form.ends_line (form : Form) : " \x7d,".toList <:+ form.line.toList :=
  Module.ends_append _ _

namespace Module

variable (ops : List Operation) (stamp typesImport : String)

/-- Neither block is opened in the head of the module, whatever the texts in it are. -/
theorem not_mem_operationsHead :
    "export type OperationIndex = \x7b" ∉ operationsHead stamp typesImport ∧
      "  return \x7b" ∉ operationsHead stamp typesImport := by
  have hstamp := ends_append ("// Generated by acg at " ++ stamp) ". Do not edit."
  have himport := ends_append ("import type \x7b paths \x7d from \"" ++ typesImport) "\";"
  have hhints := ends_append ("export type FileHint = " ++ hintUnion.text) ";"
  constructor <;> simp [operationsHead] <;>
    exact ⟨ne_of_ends hstamp (by decide), ne_of_ends himport (by decide), ne_of_ends hhints (by decide)⟩

/-- The lines up to the index of operations. -/
def beforeIndex : List String :=
  operationsHead stamp typesImport ++ (accessors ops).flatMap Accessor.aliasLines ++
    ["/** Where each operationId lives, for the `*ById` helpers. */"]

/-- The lines up to the functions of operations. -/
def beforeFunctions : List String :=
  beforeIndex ops stamp typesImport ++
    "export type OperationIndex = \x7b" :: (accessors ops).map Accessor.indexLine ++
    [ "\x7d;",
      "",
      "/** Multipart endpoints and their file fields, keyed by `\"<method> <path>\"`. */",
      "export const multipartEndpoints: Record<string, Record<string, \"file\" | " ++
        "\"files\">> = \x7b"] ++
    (forms ops).map Form.line ++
    [ "\x7d;",
      "",
      "export function createOperations(client: Transport) \x7b"]

/-- Nor is one opened by an alias. -/
theorem not_mem_beforeIndex :
    "export type OperationIndex = \x7b" ∉ beforeIndex ops stamp typesImport ∧
      "  return \x7b" ∉ beforeIndex ops stamp typesImport := by
  obtain ⟨hindex, hreturn⟩ := not_mem_operationsHead stamp typesImport
  have haliases (line : String) (hempty : line ≠ "") (hends : ¬ ";".toList <:+ line.toList) :
      line ∉ (accessors ops).flatMap Accessor.aliasLines := by
    intro h
    obtain ⟨accessor, -, hline⟩ := List.mem_flatMap.mp h
    rcases Accessor.ends_of_mem_aliasLines hline with heq | hline
    · exact hempty heq
    · exact ne_of_ends hline hends rfl
  refine ⟨?_, ?_⟩ <;> rw [beforeIndex, List.mem_append, List.mem_append, not_or, not_or]
  · exact ⟨⟨hindex, haliases _ (by simp) (by decide)⟩, by simp⟩
  · exact ⟨⟨hreturn, haliases _ (by simp) (by decide)⟩, by simp⟩

/-- The index has one line for each accessor. -/
theorem block_index :
    block "export type OperationIndex = \x7b" "\x7d;" (operations ops stamp typesImport) =
      (accessors ops).map Accessor.indexLine := by
  have hinside : "\x7d;" ∉ (accessors ops).map Accessor.indexLine := by
    intro h
    obtain ⟨accessor, -, heq⟩ := List.mem_map.mp h
    exact ne_of_ends accessor.ends_indexLine (by decide) heq.symm
  obtain ⟨behind, hlines⟩ : ∃ behind, operations ops stamp typesImport =
      beforeIndex ops stamp typesImport ++
        "export type OperationIndex = \x7b" :: (accessors ops).map Accessor.indexLine ++
        "\x7d;" :: behind := by
    apply Exists.intro
    simp only [operations, beforeIndex, List.append_assoc, List.cons_append, List.nil_append]
    rfl
  rw [hlines, block_eq (not_mem_beforeIndex ops stamp typesImport).1 hinside]

/-- The functions stand between the lines that open and close the object of functions. -/
theorem block_functions :
    block "  return \x7b" "  \x7d;" (operations ops stamp typesImport) =
      (accessors ops).flatMap Accessor.functionLines := by
  have hbefore : "  return \x7b" ∉ beforeFunctions ops stamp typesImport := by
    have hindex : "  return \x7b" ∉ (accessors ops).map Accessor.indexLine := by
      intro h
      obtain ⟨accessor, -, heq⟩ := List.mem_map.mp h
      exact ne_of_ends accessor.ends_indexLine (by decide) heq.symm
    have hforms : "  return \x7b" ∉ (forms ops).map Form.line := by
      intro h
      obtain ⟨form, -, heq⟩ := List.mem_map.mp h
      exact ne_of_ends form.ends_line (by decide) heq.symm
    simp [-List.mem_map, beforeFunctions, (not_mem_beforeIndex ops stamp typesImport).2, hindex,
      hforms]
  have hinside : "  \x7d;" ∉ (accessors ops).flatMap Accessor.functionLines := by
    intro h
    obtain ⟨accessor, -, hline⟩ := List.mem_flatMap.mp h
    rcases Accessor.ends_of_mem_functionLines hline with hends | hends
    · exact ne_of_ends hends (by decide) rfl
    · exact ne_of_ends hends (by decide) rfl
  obtain ⟨behind, hlines⟩ : ∃ behind, operations ops stamp typesImport =
      beforeFunctions ops stamp typesImport ++
        "  return \x7b" :: (accessors ops).flatMap Accessor.functionLines ++
        "  \x7d;" :: behind := by
    apply Exists.intro
    simp only [operations, beforeIndex, beforeFunctions, List.append_assoc, List.cons_append,
      List.nil_append]
    rfl
  rw [hlines, block_eq hbefore hinside]

end Module

/-! ## The module as a whole -/

end TypedClient.TypeScript
