import TypedClient.Proofs.Operation.FileField
import TypedClient.Proofs.Operation.Slot

/-!
# Consistent operations

The parts of an operation are read off the document on different ways: through what stands under
`requestBody`, through the target of its reference, through the content types that are offered there and
through the schema of a form. `Consistent` says how they fit together, for each operation of each document
(`consistent_of_mem`): a content type needs a body, file fields need a form, JSON is preferred, and a field
carries files by its name and by its schema.
-/

namespace TypedClient

open Json (Entries)

namespace Document

variable {doc : Document} {op : Operation} {entries content : Entries}

/-! ## Bodies -/

/-- The body of an operation object, after its reference, offers these contents by content type. -/
def Offers (doc : Document) (entries content : Entries) : Prop :=
  ∃ body fields, ("requestBody", body) ∈ entries ∧ doc.deref body = .object fields ∧
    ("content", .object content) ∈ fields

/-- The form among the contents has a property. -/
def HasFormProperty (doc : Document) (content : Entries) (name : String) (property : Json) : Prop :=
  ∃ media schema, (Operation.multipartType, .object media) ∈ content ∧ ("schema", schema) ∈ media ∧
    FileField.HasProperty doc schema name property

/-- An operation fits together, and with the object that it is read off. -/
structure Consistent (doc : Document) (entries : Entries) (op : Operation) : Prop where
  /-- The id is the one in the document, and not empty. -/
  id : ("operationId", .string op.id) ∈ entries ∧ op.id ≠ ""
  /-- The parameters are the placeholders of the path. -/
  pathParams : op.pathParams = Placeholder.names op.path
  /-- Without a body there is no content type and no file field. -/
  noBody : op.hasBody = false → op.bodyType? = none ∧ op.fileFields = []
  /-- File fields are those of a form. -/
  form : op.fileFields ≠ [] → op.bodyType? = some "multipart/form-data"
  /-- Where JSON is offered, the body is sent as JSON. -/
  json : ∀ content, doc.Offers entries content → "application/json" ∈ content.keys →
    op.bodyType? = some "application/json"
  /-- The file fields have different names. -/
  names : (op.fileFields.map FileField.name).Nodup
  /-- In the name of a file field stands a hint. -/
  hints : ∀ field ∈ op.fileFields, FileField.HasHint field.name
  /-- A file field carries one file or several. -/
  kinds : ∀ field ∈ op.fileFields, field.kind = .file ∨ field.kind = .fileArray
  /-- The kind is the one that the schema of the field fits, after its reference. -/
  schemas : ∀ field ∈ op.fileFields, ∃ content property, doc.Offers entries content ∧
    doc.HasFormProperty content field.name property ∧
    ∀ kind, field.kind = kind ↔ FileField.Carries (doc.deref property) kind
  /-- A property of a form is among the file fields if its name and its schema call for it. -/
  complete : op.bodyType? = some "multipart/form-data" → ∀ content name property kind,
    doc.Offers entries content → doc.HasFormProperty content name property →
    FileField.HasHint name → FileField.Carries (doc.deref property) kind → ⟨name, kind⟩ ∈ op.fileFields

section

variable (hkeys : doc.root.DistinctKeys) (hnode : doc.IsNode (.object entries))
include hkeys hnode

theorem content?_eq_some_iff :
    Operation.content? doc entries = some content ↔ doc.Offers entries content := by
  rw [Operation.content?]
  cases hbody : entries.get? "requestBody" with
  | none =>
    have hnone (body : Json) : ("requestBody", body) ∉ entries := by
      rw [← hnode.get?_eq_some_iff hkeys, hbody]
      nofun
    simp [Offers, hnone]
  | some body =>
    have hdistinct := ((hnode.of_get? hbody).deref).distinctKeys hkeys
    rw [hnode.get?_eq_some_iff hkeys] at hbody
    dsimp only
    rw [Lookup.found?_eq_some_iff, Lookup.object_field_eq_found_iff hdistinct]
    constructor
    · rintro ⟨fields, hfields, hcontent⟩
      exact ⟨body, fields, hbody, hfields, hcontent⟩
    · rintro ⟨other, fields, hother, hfields, hcontent⟩
      obtain rfl := Json.eq_of_mem (hnode.nodup_keys hkeys) hbody hother
      exact ⟨fields, hfields, hcontent⟩

/-- A body that offers contents is an object, and so it counts as one. -/
theorem declaresBody_of_offers (h : doc.Offers entries content) : Operation.declaresBody entries := by
  obtain ⟨body, fields, hbody, hfields, -⟩ := h
  rw [Operation.declaresBody, (hnode.get?_eq_some_iff hkeys).mpr hbody]
  cases body with
  | object _ => rfl
  | _ => cases hfields

theorem isNode_of_offers (h : doc.Offers entries content) : doc.IsNode (.object content) := by
  obtain ⟨body, fields, hbody, hfields, hcontent⟩ := h
  have hderef := (hnode.of_mem hkeys hbody).deref
  rw [hfields] at hderef
  exact hderef.of_mem hkeys hcontent

/-- What an operation says of its body is read off the contents, whether or not something stands for a
body. -/
theorem body_ofEntries (slot : Slot) (id : String) :
    (Operation.ofEntries doc slot id entries).bodyType? = (Operation.body doc entries).1 ∧
      (Operation.ofEntries doc slot id entries).fileFields = (Operation.body doc entries).2 := by
  by_cases hdeclares : Operation.declaresBody entries
  · simp [Operation.ofEntries, hdeclares]
  · have hnone : Operation.content? doc entries = none := by
      refine Option.eq_none_iff_forall_ne_some.mpr fun content hcontent => hdeclares ?_
      exact declaresBody_of_offers hkeys hnode ((content?_eq_some_iff hkeys hnode).mp hcontent)
    simp [Operation.ofEntries, hdeclares, Operation.body, hnone]

end

/-! ## Forms -/

theorem HasFormProperty.isNode {name : String} {property : Json}
    (h : doc.HasFormProperty content name property) (hkeys : doc.root.DistinctKeys)
    (hnode : doc.IsNode (.object content)) : doc.IsNode property := by
  obtain ⟨media, schema, hmedia, hschema, fields, properties, hfields, hproperties, hproperty⟩ := h
  have hderef := ((hnode.of_mem hkeys hmedia).of_mem hkeys hschema).deref
  rw [hfields] at hderef
  exact (hderef.of_mem hkeys hproperties).of_mem hkeys hproperty

section

variable (hkeys : doc.root.DistinctKeys) (hnode : doc.IsNode (.object content))
include hkeys hnode

theorem schema_eq_found_iff {schema : Json} :
    (Lookup.entry content Operation.multipartType).get "schema" = .found schema ↔
      ∃ media, (Operation.multipartType, .object media) ∈ content ∧ ("schema", schema) ∈ media ∧
        schema ≠ .null := by
  rw [Lookup.get_eq_found_iff]
  constructor
  · rintro ⟨parent, hparent, hfield⟩
    obtain ⟨hmem, -⟩ := (Lookup.entry_eq_found_iff_mem (hnode.nodup_keys hkeys)).mp hparent
    have hdistinct := (hnode.of_mem hkeys hmem).distinctKeys hkeys
    obtain ⟨media, rfl, hschema⟩ := (Lookup.field_eq_found_iff_mem hdistinct).mp hfield
    exact ⟨media, hmem, hschema⟩
  · rintro ⟨media, hmem, hschema⟩
    have hdistinct := (hnode.of_mem hkeys hmem).distinctKeys hkeys
    exact ⟨.object media, (Lookup.entry_eq_found_iff_mem (hnode.nodup_keys hkeys)).mpr ⟨hmem, nofun⟩,
      (Lookup.field_eq_found_iff_mem hdistinct).mpr ⟨media, rfl, hschema⟩⟩

/-- The file fields of a form are its properties that a hint and their schemas make carry files. -/
theorem mem_formFields {field : FileField} :
    field ∈ Operation.formFields doc content ↔
      ∃ property, doc.HasFormProperty content field.name property ∧ FileField.HasHint field.name ∧
        FileField.Carries (doc.deref property) field.kind := by
  rw [Operation.formFields.eq_def]
  constructor
  · intro hmem
    split at hmem
    next schema hschema =>
      obtain ⟨media, hmedia, hschema, -⟩ := (schema_eq_found_iff hkeys hnode).mp hschema
      have hschemaNode := (hnode.of_mem hkeys hmedia).of_mem hkeys hschema
      obtain ⟨property, hproperty, hfield⟩ := (FileField.mem_ofSchema hkeys hschemaNode).mp hmem
      exact ⟨property, ⟨media, schema, hmedia, hschema, hproperty⟩, hfield⟩
    next => cases hmem
  · rintro ⟨property, ⟨media, schema, hmedia, hschema, hproperty⟩, hfield⟩
    have hschemaNode := (hnode.of_mem hkeys hmedia).of_mem hkeys hschema
    have hnull : schema ≠ .null := by
      rintro rfl
      obtain ⟨fields, -, hfields, -⟩ := hproperty
      cases hfields
    rw [(schema_eq_found_iff hkeys hnode).mpr ⟨media, hmedia, hschema, hnull⟩]
    exact (FileField.mem_ofSchema hkeys hschemaNode).mpr ⟨property, hproperty, hfield⟩

theorem nodup_formFields : ((Operation.formFields doc content).map FileField.name).Nodup := by
  rw [Operation.formFields.eq_def]
  split
  next schema hschema =>
    obtain ⟨media, hmedia, hschema, -⟩ := (schema_eq_found_iff hkeys hnode).mp hschema
    exact FileField.nodup_ofSchema hkeys ((hnode.of_mem hkeys hmedia).of_mem hkeys hschema)
  next => exact List.nodup_nil

end

/-! ## Operations -/

/-- The body of an operation, by the contents that the document offers for it. -/
theorem body_cases (hkeys : doc.root.DistinctKeys) (hnode : doc.IsNode (.object entries)) (slot : Slot)
    (id : String) :
    (∃ content, doc.Offers entries content ∧
        (Operation.ofEntries doc slot id entries).bodyType? = Operation.preferredType content ∧
        (Operation.ofEntries doc slot id entries).fileFields =
          if Operation.preferredType content = some Operation.multipartType then
            Operation.formFields doc content
          else []) ∨
      (∀ content, ¬ doc.Offers entries content) ∧
        (Operation.ofEntries doc slot id entries).bodyType? = none ∧
        (Operation.ofEntries doc slot id entries).fileFields = [] := by
  obtain ⟨htype, hfields⟩ := body_ofEntries hkeys hnode slot id
  rw [htype, hfields, Operation.body.eq_def]
  cases hcontent : Operation.content? doc entries with
  | none =>
    refine .inr ⟨fun content hoffers => ?_, rfl, rfl⟩
    rw [← content?_eq_some_iff hkeys hnode, hcontent] at hoffers
    cases hoffers
  | some content =>
    refine .inl ⟨content, (content?_eq_some_iff hkeys hnode).mp hcontent, ?_⟩
    dsimp only
    cases Operation.preferredType content with
    | none => exact ⟨rfl, rfl⟩
    | some type => exact ⟨rfl, by simp⟩

theorem offers_unique {other : Entries} (hkeys : doc.root.DistinctKeys)
    (hnode : doc.IsNode (.object entries)) (h : doc.Offers entries content)
    (hother : doc.Offers entries other) : content = other := by
  rw [← content?_eq_some_iff hkeys hnode] at h hother
  exact Option.some.inj (h.symm.trans hother)

section

variable {field : FileField} {slot : Slot} {id : String}
variable (hkeys : doc.root.DistinctKeys) (hnode : doc.IsNode (.object entries))
include hkeys hnode

/-- JSON comes before everything else that is offered. -/
theorem bodyType?_of_json (hoffers : doc.Offers entries content)
    (hjson : "application/json" ∈ content.keys) :
    (Operation.ofEntries doc slot id entries).bodyType? = some "application/json" := by
  rcases body_cases hkeys hnode slot id with ⟨other, hother, htype, -⟩ | ⟨hnone, -⟩
  · obtain rfl := offers_unique hkeys hnode hoffers hother
    rw [htype, Operation.preferredType, if_pos (Json.contains_iff.mpr hjson)]
  · exact absurd hoffers (hnone content)

/-- The file fields are properties of the form that is offered. -/
theorem exists_property_of_mem (h : field ∈ (Operation.ofEntries doc slot id entries).fileFields) :
    ∃ content property, doc.Offers entries content ∧
      doc.HasFormProperty content field.name property ∧ doc.IsNode property ∧
      FileField.HasHint field.name ∧ FileField.Carries (doc.deref property) field.kind := by
  rcases body_cases hkeys hnode slot id with ⟨content, hoffers, -, hfields⟩ | ⟨-, -, hfields⟩
  · have hcontent := isNode_of_offers hkeys hnode hoffers
    rw [hfields] at h
    split at h
    · obtain ⟨property, hproperty, hfield⟩ := (mem_formFields hkeys hcontent).mp h
      exact ⟨content, property, hoffers, hproperty, hproperty.isNode hkeys hcontent, hfield⟩
    · cases h
  · rw [hfields] at h
    cases h

theorem nodup_fileFields :
    ((Operation.ofEntries doc slot id entries).fileFields.map FileField.name).Nodup := by
  rcases body_cases hkeys hnode slot id with ⟨content, hoffers, -, hfields⟩ | ⟨-, -, hfields⟩
  · rw [hfields]
    split
    · exact nodup_formFields hkeys (isNode_of_offers hkeys hnode hoffers)
    · exact List.nodup_nil
  · rw [hfields]
    exact List.nodup_nil

/-- Where the body is sent as a form, no property is left out that carries files. -/
theorem mem_fileFields_of_property {property : Json}
    (hform : (Operation.ofEntries doc slot id entries).bodyType? = some Operation.multipartType)
    (hoffers : doc.Offers entries content) (hproperty : doc.HasFormProperty content field.name property)
    (hhint : FileField.HasHint field.name)
    (hcarries : FileField.Carries (doc.deref property) field.kind) :
    field ∈ (Operation.ofEntries doc slot id entries).fileFields := by
  rcases body_cases hkeys hnode slot id with ⟨other, hother, htype, hfields⟩ | ⟨hnone, -⟩
  · obtain rfl := offers_unique hkeys hnode hoffers hother
    rw [hfields, if_pos (htype.symm.trans hform)]
    exact (mem_formFields hkeys (isNode_of_offers hkeys hnode hoffers)).mpr
      ⟨property, hproperty, hhint, hcarries⟩
  · exact absurd hoffers (hnone content)

end

/-- Each operation of a document fits together and with the object that fills its slot. -/
theorem consistent_of_mem (hkeys : doc.root.DistinctKeys) (h : op ∈ doc.operations) :
    ∃ entries, doc.HasEntries op.slot entries ∧ Consistent doc entries op := by
  have hform : op.fileFields ≠ [] → op.bodyType? = some "multipart/form-data" := fun hfields =>
    of_decide_eq_true (isMultipart_of_fileFields h hfields)
  obtain ⟨slot, id, entries, hentries, hid, rfl⟩ := exists_ofEntries_of_mem h
  have hnode := isNode_of_hasEntries hkeys hentries
  refine ⟨entries, hentries, ?_⟩
  refine
    { id := (id?_eq_some_iff (hnode.nodup_keys hkeys)).mp hid
      pathParams := rfl
      noBody := ?noBody
      form := hform
      json := fun content hoffers hjson => bodyType?_of_json hkeys hnode hoffers hjson
      names := nodup_fileFields hkeys hnode
      hints := ?hints
      kinds := ?kinds
      schemas := ?schemas
      complete := ?complete }
  case noBody =>
    intro hnone
    have hdeclares : Operation.declaresBody entries = false := hnone
    simp [Operation.ofEntries, hdeclares]
  case hints =>
    intro field hfield
    obtain ⟨content, property, -, -, -, hhint, -⟩ := exists_property_of_mem hkeys hnode hfield
    exact hhint
  case kinds =>
    intro field hfield
    obtain ⟨content, property, -, -, -, -, hcarries⟩ := exists_property_of_mem hkeys hnode hfield
    cases hkind : field.kind with
    | file => exact .inl rfl
    | fileArray => exact .inr rfl
    | plain => exact absurd hkind hcarries.ne_plain
  case schemas =>
    intro field hfield
    obtain ⟨content, property, hoffers, hproperty, hpropertyNode, -, hcarries⟩ :=
      exists_property_of_mem hkeys hnode hfield
    refine ⟨content, property, hoffers, hproperty, fun kind => ⟨?_, fun hkind => ?_⟩⟩
    · rintro rfl
      exact hcarries
    · exact hcarries.unique (hpropertyNode.deref.distinctKeys hkeys) hkind
  case complete =>
    intro hform content name property kind hoffers hproperty hhint hcarries
    exact mem_fileFields_of_property hkeys hnode hform hoffers hproperty hhint hcarries

/-- A document with one operation, whose body, form and one of whose file fields are behind references. -/
def uploadDocument : Document :=
  let reference (target : String) : Json := .object [("$ref", .string target)]
  let text : Json := .object [("type", .string "string")]
  let files : Json := .object [("type", .string "array"),
    ("items", .object [("type", .array [.string "string", .string "null"])])]
  let form : Json := .object [("properties", .object [("title", text), ("coverPhoto", text),
    ("attachments", reference "#/components/schemas/Files"), ("imageCount", .object [])])]
  let body : Json := .object [("content", .object [("multipart/form-data",
    .object [("schema", reference "#/components/schemas/Form")])])]
  let operation : Json := .object [("operationId", .string "send"),
    ("requestBody", reference "#/components/requestBodies/Send")]
  ofEntries [("paths", .object [("/posts/\x7bid\x7d", .object [("post", operation)])]),
    ("components", .object [("requestBodies", .object [("Send", body)]),
      ("schemas", .object [("Form", form), ("Files", files)])])]

/-- The operation of this document. -/
def uploadOperation : Operation where
  id := "send"
  method := .post
  path := "/posts/\x7bid\x7d"
  pathParams := ["id"]
  hasBody := true
  hasQuery := false
  summary := ""
  description := ""
  bodyType? := some "multipart/form-data"
  fileFields := [⟨"coverPhoto", .file⟩, ⟨"attachments", .fileArray⟩]

theorem consistent_uploadOperation :
    uploadDocument.root.DistinctKeys ∧ uploadOperation ∈ uploadDocument.operations ∧
      ∃ entries, uploadDocument.HasEntries uploadOperation.slot entries ∧
        Consistent uploadDocument entries uploadOperation := by
  have hkeys : uploadDocument.root.DistinctKeys := by
    simp [uploadDocument, ofEntries, Json.DistinctKeys, Json.DistinctKeysEntries, Json.DistinctKeysItems]
  have hmem : uploadOperation ∈ uploadDocument.operations := by decide +kernel
  exact ⟨hkeys, hmem, consistent_of_mem hkeys hmem⟩

end Document

end TypedClient
