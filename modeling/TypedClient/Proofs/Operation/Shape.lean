import TypedClient.Operation.Extraction
import TypedClient.Proofs.Json.Shape

/-!
# Operations and the shape of a document

The operations of a document depend on its shape alone (`Document.operations_shape`): of a number they
need at most whether it is zero. So documents with the same canonical text have the same operations
(`Document.operations_eq_of_canonical`).
-/

namespace TypedClient

/-! ## Shapes of containers -/

namespace Json

theorem shapeItems_eq_map (items : List Json) : shapeItems items = items.map shape := by
  induction items with
  | nil => rfl
  | cons item rest ih => rw [shapeItems, ih, List.map_cons]

theorem shapeEntries_eq_map (entries : Entries) :
    shapeEntries entries = entries.map fun entry => (entry.1, shape entry.2) := by
  induction entries with
  | nil => rfl
  | cons entry rest ih =>
    obtain ⟨key, value⟩ := entry
    rw [shapeEntries, ih, List.map_cons]

/-- Looking up a key commutes with taking the shape. -/
theorem get?_shapeEntries (entries : Entries) (key : String) :
    Entries.get? (shapeEntries entries) key = (entries.get? key).map shape := by
  induction entries with
  | nil => rfl
  | cons entry rest ih =>
    obtain ⟨name, value⟩ := entry
    rw [Entries.get?, Entries.get?, shapeEntries, List.lookup_cons, List.lookup_cons]
    split
    · rfl
    · exact ih

/-- The shape has the same keys. -/
theorem contains_shapeEntries (entries : Entries) (key : String) :
    Entries.contains (shapeEntries entries) key = entries.contains key := by
  rw [Entries.contains, Entries.contains, get?_shapeEntries, Option.isSome_map]

theorem keys_shapeEntries (entries : Entries) :
    Entries.keys (shapeEntries entries) = entries.keys := by
  rw [shapeEntries_eq_map, Entries.keys, Entries.keys, List.map_map]
  rfl

/-- Whether a value counts as true can be told from its shape. -/
theorem truthy_shape (v : Json) : (shape v).truthy = v.truthy := by
  cases v with
  | number n =>
    rw [shape, truthy, truthy]
    cases hzero : n.isZero with
    | true => rfl
    | false => rfl
  | _ => rfl

/-- Strings keep their texts. -/
theorem text?_shape (v : Json) : (shape v).text? = v.text? := by
  cases v <;> rfl

/-- The tokens of a pointer lead to the shape of what they lead to. -/
theorem follow_shape (v : Json) (tokens : List (List Char)) :
    (shape v).follow tokens = (v.follow tokens).map shape := by
  induction tokens generalizing v with
  | nil => rfl
  | cons token rest ih =>
    cases v with
    | object entries =>
      rw [shape, follow, follow, get?_shapeEntries]
      cases Entries.get? entries (String.ofList token) with
      | none => rfl
      | some next => exact ih next
    | array items =>
      rw [shape, follow, follow, shapeItems_eq_map]
      cases indexOfToken token with
      | none => rfl
      | some position =>
        dsimp only
        rw [List.getElem?_map]
        cases items[position]? with
        | none => rfl
        | some next => exact ih next
    | _ => rfl

end Json

/-! ## Lookups -/

namespace Lookup

open Json (shape shapeEntries shapeItems)

variable {α : Type}

/-- The lookup in the shape of a value, where `f` gives the shape of what is found. -/
def shaped (f : α → α) : Lookup α → Lookup α
  | found value => found (f value)
  | missing => missing
  | misshapen value => misshapen (shape value)

/-- The shape of what is found is found in the shape. -/
theorem found?_shaped (f : α → α) (lookup : Lookup α) :
    (lookup.shaped f).found? = lookup.found?.map f := by
  cases lookup <;> rfl

/-- An entry of a shape is the shape of the entry. -/
theorem entry_shape (entries : Json.Entries) (key : String) :
    entry (shapeEntries entries) key = (entry entries key).shaped shape := by
  rw [entry, entry, Json.get?_shapeEntries]
  cases entries.get? key with
  | none => rfl
  | some value => cases value <;> rfl

/-- A field of a shape is the shape of the field. -/
theorem field_shape (parent : Json) (key : String) :
    field (shape parent) key = (field parent key).shaped shape := by
  cases parent with
  | object entries => exact entry_shape entries key
  | _ => rfl

/-- A field of what was looked up commutes with taking the shape. -/
theorem get_shaped (lookup : Lookup Json) (key : String) :
    (lookup.shaped shape).get key = (lookup.get key).shaped shape := by
  cases lookup with
  | found value => exact field_shape value key
  | _ => rfl

/-- Narrowing to objects commutes with taking the shape. -/
theorem object_shaped (lookup : Lookup Json) :
    (lookup.shaped shape).object = lookup.object.shaped shapeEntries := by
  cases lookup with
  | found value => cases value <;> rfl
  | _ => rfl

/-- Strings are the same in a shape. -/
theorem string_shaped (lookup : Lookup Json) :
    (lookup.shaped shape).string = lookup.string.shaped id := by
  cases lookup with
  | found value => cases value <;> rfl
  | _ => rfl

/-- Narrowing to arrays commutes with taking the shape. -/
theorem array_shaped (lookup : Lookup Json) :
    (lookup.shaped shape).array = lookup.array.shaped shapeItems := by
  cases lookup with
  | found value => cases value <;> rfl
  | _ => rfl

end Lookup

namespace Document

open Json (shape shapeEntries shapeItems)

variable (doc : Document)

/-- A document in which each number other than zero has become one. -/
def shape (doc : Document) : Document :=
  ⟨doc.root.shape⟩

/-- A pointer resolves to the shape of what it resolves to. -/
theorem resolve_shape (root : Json) (pointer : List Char) :
    root.shape.resolve pointer = (root.resolve pointer).map Json.shape := by
  rw [Json.resolve, Json.resolve]
  cases Json.pointerTokens pointer with
  | none => rfl
  | some tokens => exact root.follow_shape tokens

/-- References have the same targets, up to their shapes. -/
theorem target?_shape (value : Json) :
    doc.shape.target? value.shape = (doc.target? value).map Json.shape := by
  rw [target?, target?, Lookup.field_shape, Lookup.string_shaped]
  cases (Lookup.field value "$ref").string with
  | found reference =>
    dsimp only [Lookup.shaped, id]
    split
    · exact resolve_shape doc.root _
    · rfl
  | _ => rfl

/-- Following a reference commutes with taking the shape. -/
theorem deref_shape (value : Json) : doc.shape.deref value.shape = (doc.deref value).shape := by
  rw [deref, deref, target?_shape]
  cases doc.target? value <;> rfl

end Document

/-! ## Bodies -/

open Json (shapeEntries shapeItems)

namespace FileField

/-- The type that a schema declares can be told from its shape. -/
theorem declares_shape (schema : Json) (type : String) :
    declares schema.shape type = declares schema type := by
  rw [declares, declares, Lookup.field_shape]
  cases Lookup.field schema "type" with
  | found value =>
    cases value with
    | array names =>
      dsimp only [Lookup.shaped, Json.shape]
      rw [Json.shapeItems_eq_map, List.any_map, List.all_map]
      simp only [Function.comp_def, Json.text?_shape]
    | _ => rfl
  | _ => rfl

/-- So can the kind of a field. -/
theorem classify_shape (name : String) (schema : Json) :
    classify name schema.shape = classify name schema := by
  rw [classify, classify, declares_shape, declares_shape, Lookup.field_shape]
  cases Lookup.field schema "items" with
  | found items =>
    dsimp only [Lookup.shaped]
    rw [declares_shape]
  | _ => rfl

/-- So can the fields of a form. -/
theorem ofSchema_shape (doc : Document) (schema : Json) :
    ofSchema doc.shape schema.shape = ofSchema doc schema := by
  rw [ofSchema, ofSchema, Document.deref_shape, Lookup.field_shape, Lookup.object_shaped]
  cases (Lookup.field (doc.deref schema) "properties").object with
  | found properties =>
    dsimp only [Lookup.shaped]
    rw [Json.shapeEntries_eq_map, List.filterMap_map]
    apply List.filterMap_congr
    intro property _
    dsimp only [Function.comp]
    rw [Document.deref_shape, classify_shape]
  | _ => rfl

end FileField

/-! ## Operations -/

namespace Operation

variable (doc : Document) (entries : Json.Entries)

/-- The id of an operation can be told from the shape of its entries. -/
theorem id?_shape : id? (shapeEntries entries) = id? entries := by
  rw [id?, id?, Lookup.entry_shape, Lookup.string_shaped]
  cases (Lookup.entry entries "operationId").string <;> rfl

theorem textEntry_shape (key : String) :
    textEntry (shapeEntries entries) key = textEntry entries key := by
  rw [textEntry, textEntry, Lookup.entry_shape, Lookup.string_shaped]
  cases (Lookup.entry entries key).string <;> rfl

/-- The shape tells whether an operation has query parameters. -/
theorem declaresQuery_shape :
    declaresQuery doc.shape (shapeEntries entries) = declaresQuery doc entries := by
  rw [declaresQuery, declaresQuery, Lookup.entry_shape, Lookup.array_shaped]
  cases (Lookup.entry entries "parameters").array with
  | found parameters =>
    dsimp only [Lookup.shaped]
    rw [Json.shapeItems_eq_map, List.any_map]
    congr 1
    funext parameter
    dsimp only [Function.comp]
    rw [Document.deref_shape, Lookup.field_shape, Lookup.string_shaped, Lookup.found?_shaped,
      Option.map_id_apply]
  | _ => rfl

/-- The type of a body is chosen by the keys of its content, which a shape keeps. -/
theorem preferredType_shape (content : Json.Entries) :
    preferredType (shapeEntries content) = preferredType content := by
  rw [preferredType, preferredType, Json.keys_shapeEntries, Json.contains_shapeEntries,
    Json.contains_shapeEntries]

theorem content?_shape :
    content? doc.shape (shapeEntries entries) = (content? doc entries).map shapeEntries := by
  rw [content?, content?, Json.get?_shapeEntries]
  cases entries.get? "requestBody" with
  | none => rfl
  | some body =>
    dsimp only [Option.map_some]
    rw [Document.deref_shape, Lookup.field_shape, Lookup.object_shaped, Lookup.found?_shaped]

/-- The fields of a form can be told from the shape. -/
theorem formFields_shape (content : Json.Entries) :
    formFields doc.shape (shapeEntries content) = formFields doc content := by
  rw [formFields, formFields, Lookup.entry_shape, Lookup.get_shaped]
  cases (Lookup.entry content multipartType).get "schema" with
  | found schema => exact FileField.ofSchema_shape doc schema
  | _ => rfl

/-- So can all that is known of a body. -/
theorem body_shape : body doc.shape (shapeEntries entries) = body doc entries := by
  rw [body, body, content?_shape]
  cases content? doc entries with
  | none => rfl
  | some content =>
    dsimp only [Option.map_some]
    rw [preferredType_shape, formFields_shape]

theorem declaresBody_shape : declaresBody (shapeEntries entries) = declaresBody entries := by
  rw [declaresBody, declaresBody, Json.get?_shapeEntries]
  cases entries.get? "requestBody" with
  | none => rfl
  | some body => exact body.truthy_shape

/-- An operation can be told from the shapes of its entries and of the document. -/
theorem ofEntries_shape (slot : Slot) (id : String) :
    ofEntries doc.shape slot id (shapeEntries entries) = ofEntries doc slot id entries := by
  simp only [ofEntries, declaresBody_shape, body_shape, declaresQuery_shape, textEntry_shape]

end Operation

namespace Document

variable (doc : Document)

/-- What comes of a slot can be told from the shapes. -/
theorem slotOutcome_shape (item : Json.Entries) (slot : Slot) :
    doc.shape.slotOutcome (shapeEntries item) slot = doc.slotOutcome item slot := by
  rw [slotOutcome, slotOutcome, Lookup.entry_shape, Lookup.object_shaped]
  cases (Lookup.entry item slot.method.word).object with
  | found entries =>
    dsimp only [Lookup.shaped]
    rw [Operation.id?_shape]
    cases Operation.id? entries with
    | none => rfl
    | some id =>
      dsimp only
      rw [Operation.ofEntries_shape]
  | _ => rfl

/-- What comes of a path can be told from the shapes. -/
theorem pathOutcomes_shape (path : String) (item : Json) :
    doc.shape.pathOutcomes path item.shape = doc.pathOutcomes path item := by
  cases item with
  | object entries =>
    rw [Json.shape, pathOutcomes, pathOutcomes]
    apply List.filterMap_congr
    intro method _
    exact slotOutcome_shape doc entries _
  | _ => rfl

/-- What comes of a document can be told from its shape. -/
theorem outcomes_shape : doc.shape.outcomes = doc.outcomes := by
  have hpaths : doc.shape.paths = doc.paths.shaped shapeEntries := by
    rw [paths, paths, lookup, lookup, shape, Lookup.field_shape, Lookup.object_shaped]
  rw [outcomes, outcomes, hpaths]
  cases doc.paths with
  | found paths =>
    dsimp only [Lookup.shaped]
    rw [Json.shapeEntries_eq_map, List.flatMap_map]
    congr 1
    funext entry
    exact pathOutcomes_shape doc entry.1 entry.2
  | _ => rfl

/-- The operations of a document are those of its shape. -/
theorem operations_shape : doc.shape.operations = doc.operations := by
  rw [operations, operations, outcomes_shape]

/-- Documents with the same canonical text have the same operations. -/
theorem operations_eq_of_canonical {doc other : Document} (h : doc.canonical = other.canonical) :
    doc.operations = other.operations := by
  have hshape : doc.shape = other.shape := congrArg Document.mk (Json.shape_of_compact h)
  rw [← operations_shape doc, hshape, operations_shape other]

end Document

end TypedClient
