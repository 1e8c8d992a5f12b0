import TypedClient.Proofs.Operation.Slot
import TypedClient.Proofs.TypeScript.Accessor

/-!
# The table of forms

The module of operations has a table of the operations that carry file fields, each under its method and
path. The transport that is generated takes it for the list of all operations that are sent as forms. It
is that list exactly if each of them carries file fields (`listsForms_iff`); a form without them is sent as
JSON.
-/

namespace TypedClient

/-! ## Keys -/

/-- The method and the path of a slot in one text. -/
def Slot.key (slot : Slot) : String :=
  slot.method.word ++ " " ++ slot.path

/-- No method has a blank in its word. -/
theorem Slot.key_injective : Function.Injective Slot.key := by
  rintro ⟨path, method⟩ ⟨path', method'⟩ h
  have hlists := congrArg String.toList h
  rw [key, key, String.toList_append, String.toList_append, String.toList_append,
    String.toList_append] at hlists
  cases method <;> cases method' <;> simp [Method.word] at hlists ⊢ <;>
    exact String.toList_inj.mp hlists

/-- An operation is the one that is kept for its id: the last one with that id. -/
def Operation.IsKept (ops : List Operation) (op : Operation) : Prop :=
  ∃ before after, ops = before ++ op :: after ∧ ∀ later ∈ after, later.id ≠ op.id

/-- What is kept of operations is one of them. -/
theorem Operation.IsKept.mem {ops : List Operation} {op : Operation} (h : IsKept ops op) : op ∈ ops := by
  obtain ⟨before, after, rfl, -⟩ := h
  exact List.mem_append_right before List.mem_cons_self

namespace TypeScript

variable {ops : List Operation}

/-! ## Rows -/

theorem Form.key_eq (form : Form) : form.key = form.slot.key :=
  rfl

/-- The keys of the rows are those of the operations with file fields. -/
theorem map_key_forms (ops : List Operation) :
    (forms ops).map Form.key =
      ((Operation.Index.ofList ops).filter fun op => !op.fileFields.isEmpty).map fun op => op.slot.key := by
  rw [forms]
  generalize Operation.Index.ofList ops = index
  induction index with
  | nil => rfl
  | cons op rest ih =>
    by_cases hfields : op.fileFields.isEmpty
    · simpa [Form.ofOperation?, hfields] using ih
    · simpa [Form.ofOperation?, hfields, Form.key_eq] using ih

/-- A slot has a row if an operation that is kept for it has file fields. -/
theorem key_mem_forms {slot : Slot} :
    slot.key ∈ (forms ops).map Form.key ↔
      ∃ op, Operation.IsKept ops op ∧ op.slot = slot ∧ op.fileFields ≠ [] := by
  rw [map_key_forms, List.mem_map]
  refine exists_congr fun op => ?_
  rw [List.mem_filter, Operation.Index.mem_ofList, Slot.key_injective.eq_iff]
  simp only [Operation.IsKept, Bool.not_eq_true', List.isEmpty_eq_false_iff]
  tauto

/-- Operations with different slots have rows with different keys. -/
theorem nodup_keys_forms (hslots : (ops.map Operation.slot).Nodup) :
    ((forms ops).map Form.key).Nodup := by
  have hindex : (Operation.Index.ofList ops).Nodup :=
    List.Nodup.of_map _ (Operation.Index.nodup_ids_ofList ops)
  have hmem (op : Operation) (h : op ∈ Operation.Index.ofList ops) : op ∈ ops :=
    Operation.IsKept.mem (Operation.Index.mem_ofList.mp h)
  rw [map_key_forms]
  refine (hindex.filter _).map_on fun op hop other hother hkey => ?_
  exact List.inj_on_of_nodup_map hslots (hmem op (List.mem_of_mem_filter hop))
    (hmem other (List.mem_of_mem_filter hother)) (Slot.key_injective hkey)

/-! ## The table in the module -/

namespace Module

/-- The line that opens the table of forms. -/
def formsOpening : String :=
  "export const multipartEndpoints: Record<string, Record<string, \"file\" | \"files\">> = \x7b"

/-- The key at the head of a row: the text that is quoted there. -/
def formKey (line : String) : String :=
  String.ofList (Text.quotation (line.toList.drop 3))

/-- The keys of the table of forms, read off the lines of the module. -/
def formKeys (lines : List String) : List String :=
  (block formsOpening "\x7d;" lines).map formKey

variable (ops) (stamp typesImport : String)

/-- The lines up to the table of forms. -/
def beforeForms : List String :=
  beforeIndex ops stamp typesImport ++
    "export type OperationIndex = \x7b" :: (accessors ops).map Accessor.indexLine ++
    [ "\x7d;",
      "",
      "/** Multipart endpoints and their file fields, keyed by `\"<method> <path>\"`. */"]

/-- The table is not opened earlier in the module. -/
theorem not_mem_beforeForms : formsOpening ∉ beforeForms ops stamp typesImport := by
  have hstamp := ends_append ("// Generated by acg at " ++ stamp) ". Do not edit."
  have himport := ends_append ("import type \x7b paths \x7d from \"" ++ typesImport) "\";"
  have hhints := ends_append ("export type FileHint = " ++ hintUnion.text) ";"
  have hhead : formsOpening ∉ operationsHead stamp typesImport := by
    simp [operationsHead, formsOpening]
    exact ⟨ne_of_ends hstamp (by decide), ne_of_ends himport (by decide), ne_of_ends hhints (by decide)⟩
  have haliases : formsOpening ∉ (accessors ops).flatMap Accessor.aliasLines := by
    intro h
    obtain ⟨accessor, -, hline⟩ := List.mem_flatMap.mp h
    rcases Accessor.ends_of_mem_aliasLines hline with heq | hline
    · exact absurd heq (by decide)
    · exact ne_of_ends hline (by decide) rfl
  have hindex : formsOpening ∉ (accessors ops).map Accessor.indexLine := by
    intro h
    obtain ⟨accessor, -, heq⟩ := List.mem_map.mp h
    exact ne_of_ends accessor.ends_indexLine (by decide) heq.symm
  rw [beforeForms, beforeIndex]
  simp only [List.mem_append, List.mem_cons, not_or]
  exact ⟨⟨⟨⟨hhead, haliases⟩, by decide⟩, by decide, hindex⟩, by decide⟩

/-- The table has one line for each row. -/
theorem block_forms :
    block formsOpening "\x7d;" (operations ops stamp typesImport) = (forms ops).map Form.line := by
  have hinside : "\x7d;" ∉ (forms ops).map Form.line := by
    intro h
    obtain ⟨form, -, heq⟩ := List.mem_map.mp h
    exact ne_of_ends form.ends_line (by decide) heq.symm
  obtain ⟨behind, hlines⟩ : ∃ behind, operations ops stamp typesImport =
      beforeForms ops stamp typesImport ++ formsOpening :: (forms ops).map Form.line ++
        "\x7d;" :: behind := by
    apply Exists.intro
    simp only [operations, beforeForms, beforeIndex, List.append_assoc, List.cons_append,
      List.nil_append]
    rfl
  rw [hlines, block_eq (not_mem_beforeForms ops stamp typesImport) hinside]

/-- The key of a row is read off its line. -/
theorem formKey_line (form : Form) : formKey form.line = form.key := by
  have hline : ∃ rest, form.line.toList.drop 3 =
      form.key.toList.flatMap Text.quotedChar ++ '"' :: rest := by
    simp [Form.line, literal, Text.quoted]
  obtain ⟨rest, hline⟩ := hline
  rw [formKey, hline, Text.quotation_quotedChars, String.ofList_toList]

/-- The keys of the table are those of its rows. -/
theorem formKeys_operations :
    formKeys (operations ops stamp typesImport) = (forms ops).map Form.key := by
  rw [formKeys, block_forms, List.map_map]
  exact List.map_congr_left fun form _ => formKey_line form

end Module

/-! ## The forms of a document -/

/-- The module made from a document lists the operations that are kept and sent as forms, and no others. -/
def ListsForms (doc : Document) (stamp typesImport : String) : Prop :=
  ∀ (method : Method) (path : String),
    method.word ++ " " ++ path ∈ Module.formKeys (Module.operations doc.operations stamp typesImport) ↔
      ∃ op, Operation.IsKept doc.operations op ∧ op.method = method ∧ op.path = path ∧
        op.bodyType? = some "multipart/form-data"

/-- No key of the table stands there twice, and it lists forms only; and it lists all of them exactly if
each operation that is kept and sent as a form has file fields. -/
theorem listsForms_iff {doc : Document} (hkeys : doc.root.DistinctKeys) (stamp typesImport : String) :
    (Module.formKeys (Module.operations doc.operations stamp typesImport)).Nodup ∧
      (∀ method path,
        method.word ++ " " ++ path ∈
            Module.formKeys (Module.operations doc.operations stamp typesImport) ↔
          ∃ op, Operation.IsKept doc.operations op ∧ op.method = method ∧ op.path = path ∧
            op.isMultipart ∧ op.fileFields ≠ []) ∧
      (ListsForms doc stamp typesImport ↔
        ∀ op, Operation.IsKept doc.operations op → op.isMultipart → op.fileFields ≠ []) := by
  have hlisted (method : Method) (path : String) :
      method.word ++ " " ++ path ∈
          Module.formKeys (Module.operations doc.operations stamp typesImport) ↔
        ∃ op, Operation.IsKept doc.operations op ∧ op.method = method ∧ op.path = path ∧
          op.isMultipart ∧ op.fileFields ≠ [] := by
    have hkey : method.word ++ " " ++ path = (Slot.mk path method).key := rfl
    rw [Module.formKeys_operations, hkey, key_mem_forms]
    constructor
    · rintro ⟨op, hop, hslot, hfields⟩
      obtain ⟨hpath, hmethod⟩ := Slot.mk.inj hslot
      exact ⟨op, hop, hmethod, hpath, Document.isMultipart_of_fileFields hop.mem hfields, hfields⟩
    · rintro ⟨op, hop, rfl, rfl, -, hfields⟩
      exact ⟨op, hop, rfl, hfields⟩
  refine ⟨?_, hlisted, ?_, ?_⟩
  · rw [Module.formKeys_operations]
    exact nodup_keys_forms (Document.nodup_slots hkeys)
  · intro hlists op hop hform
    have htype : op.bodyType? = some "multipart/form-data" := of_decide_eq_true hform
    obtain ⟨other, hother, hmethod, hpath, -, hfields⟩ :=
      (hlisted op.method op.path).mp ((hlists op.method op.path).mpr ⟨op, hop, rfl, rfl, htype⟩)
    have hslot : other.slot = op.slot := by rw [Operation.slot, Operation.slot, hmethod, hpath]
    -- the row may only come from this very operation, which is the only one for its slot
    have heq := List.inj_on_of_nodup_map (Document.nodup_slots hkeys) hother.mem hop.mem hslot
    exact heq ▸ hfields
  · intro hfields method path
    rw [hlisted]
    refine exists_congr fun op => and_congr_right fun hop => and_congr_right fun _ =>
      and_congr_right fun _ => ?_
    constructor
    · rintro ⟨hform, -⟩
      exact of_decide_eq_true hform
    · intro htype
      have hform : op.isMultipart := decide_eq_true htype
      exact ⟨hform, hfields op hop hform⟩

/-- A document with one operation, whose body is a form with one field of the given name. -/
def formDocument (field : String) : Document :=
  let schema : Json := .object [("properties", .object [(field, .object [("type", .string "string")])])]
  let content : Json := .object [("multipart/form-data", .object [("schema", schema)])]
  let operation : Json :=
    .object [("operationId", .string "send"), ("requestBody", .object [("content", content)])]
  ⟨.object [("paths", .object [("/a", .object [("post", operation)])])]⟩

/-- The operation of such a document. -/
def formOperation (fileFields : List FileField) : Operation where
  id := "send"
  method := .post
  path := "/a"
  pathParams := []
  hasBody := true
  hasQuery := false
  summary := ""
  description := ""
  bodyType? := some "multipart/form-data"
  fileFields := fileFields

theorem operations_photo : (formDocument "photo").operations = [formOperation [⟨"photo", .file⟩]] := by
  decide +kernel

theorem operations_title : (formDocument "title").operations = [formOperation []] := by
  decide +kernel

theorem isKept_singleton {op other : Operation} : Operation.IsKept [op] other ↔ other = op := by
  constructor
  · intro h
    exact List.mem_singleton.mp h.mem
  · rintro rfl
    exact ⟨[], [], rfl, by simp⟩

theorem distinctKeys_formDocument (field : String) : (formDocument field).root.DistinctKeys := by
  simp [formDocument, Json.DistinctKeys, Json.DistinctKeysEntries]

/-- A form with a photo is listed. -/
theorem listsForms_photo :
    (formDocument "photo").root.DistinctKeys ∧ ListsForms (formDocument "photo") "now" "./schema" := by
  refine ⟨distinctKeys_formDocument "photo", ?_⟩
  refine (listsForms_iff (distinctKeys_formDocument "photo") "now" "./schema").2.2.mpr ?_
  intro op hop _
  rw [operations_photo, isKept_singleton] at hop
  rw [hop]
  decide

/-- A form with a title and no file field is not listed, and would be sent as JSON. -/
theorem not_listsForms_title :
    (formDocument "title").root.DistinctKeys ∧ ¬ ListsForms (formDocument "title") "now" "./schema" := by
  refine ⟨distinctKeys_formDocument "title", fun hlists => ?_⟩
  have hkept : Operation.IsKept (formDocument "title").operations (formOperation []) := by
    rw [operations_title, isKept_singleton]
  have hkey := (hlists .post "/a").mpr ⟨formOperation [], hkept, rfl, rfl, rfl⟩
  rw [Module.formKeys_operations, operations_title] at hkey
  exact absurd hkey (by decide)

end TypeScript

end TypedClient
