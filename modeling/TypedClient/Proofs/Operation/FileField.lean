import TypedClient.Operation.FileField
import TypedClient.Proofs.Spec.Node
import Mathlib.Data.List.Infix

/-!
# File fields and their schemas

`Carries` says which schemas make a property carry files, and how. At most one kind fits a schema
(`Carries.unique`), and a property is taken for a file field of that kind if its name has a hint in it
(`classify_eq_iff`). The file fields of a schema are its properties of this sort (`mem_ofSchema`), each of
them once.
-/

namespace TypedClient

open Json (Entries)

namespace FileField

variable {word cs : List Char} {name type : String} {schema : Json} {kind other : FieldKind}

/-! ## Hints -/

/-- A hint stands in the name, as written or capitalized. -/
def HasHint (name : String) : Prop :=
  ∃ hint ∈ hints, hint.toList <:+: name.toList ∨ capitalize hint <:+: name.toList

theorem occurs_iff : occurs word cs ↔ word <:+: cs := by
  induction cs with
  | nil => simp [occurs]
  | cons c rest ih => rw [occurs, List.infix_cons_iff, Bool.or_eq_true, List.isPrefixOf_iff_prefix, ih]

theorem isHinted_iff : isHinted name ↔ HasHint name := by
  simp [isHinted, HasHint, occurs_iff]

/-! ## Declared types -/

/-- A schema declares a type: under `type` stands its name, or a list that has it and besides it only
`null`. -/
def Declares (schema : Json) (type : String) : Prop :=
  ∃ fields, schema = .object fields ∧ (("type", .string type) ∈ fields ∨
    ∃ names, ("type", .array names) ∈ fields ∧ .string type ∈ names ∧
      ∀ name ∈ names, name = .string type ∨ name = .string "null")

theorem text?_eq_some_iff {value : Json} {text : String} :
    value.text? = some text ↔ value = .string text := by
  cases value <;> simp [Json.text?]

theorem declares_iff (hkeys : schema.DistinctKeys) : declares schema type ↔ Declares schema type := by
  cases schema with
  | object fields =>
    have hentry (value : Json) (hvalue : value ≠ .null) :
        Lookup.entry fields "type" = .found value ↔ ("type", value) ∈ fields := by
      rw [Lookup.entry_eq_found_iff_mem hkeys.1]
      exact and_iff_left hvalue
    have hdeclares : Declares (.object fields) type ↔
        Lookup.entry fields "type" = .found (.string type) ∨
          ∃ names, Lookup.entry fields "type" = .found (.array names) ∧ .string type ∈ names ∧
            ∀ name ∈ names, name = .string type ∨ name = .string "null" := by
      simp [Declares, hentry]
    rw [hdeclares, declares, Lookup.field]
    split
    next name hname => simp [hname]
    next names hnames => simp [hnames, text?_eq_some_iff]
    next hstring harray =>
      simp only [Bool.false_eq_true, false_iff, not_or, not_exists, not_and]
      exact ⟨fun h => absurd h (hstring _), fun names h => absurd h (harray names)⟩
  | _ => simp [declares, Lookup.field, Declares]

/-- A schema declares one type. -/
theorem Declares.unique (hkeys : schema.DistinctKeys) {another : String} (hnull : type ≠ "null")
    (h : Declares schema type) (h' : Declares schema another) : type = another := by
  obtain ⟨fields, rfl, h⟩ := h
  obtain ⟨_, heq, h'⟩ := h'
  cases heq
  rcases h with hname | ⟨names, hnames, hmem, -⟩ <;> rcases h' with hname' | ⟨names', hnames', -, hall⟩
  · exact Json.string.inj (Json.eq_of_mem hkeys.1 hname hname')
  · cases Json.eq_of_mem hkeys.1 hname hnames'
  · cases Json.eq_of_mem hkeys.1 hnames hname'
  · obtain rfl := Json.array.inj (Json.eq_of_mem hkeys.1 hnames hnames')
    rcases hall _ hmem with heq | heq
    · exact Json.string.inj heq
    · exact absurd (Json.string.inj heq) hnull

/-! ## Kinds -/

/-- A schema makes a field carry files: a string one file, an array of strings several. -/
def Carries (schema : Json) : FieldKind → Prop
  | .file => Declares schema "string"
  | .fileArray => Declares schema "array" ∧
      ∃ fields items, schema = .object fields ∧ ("items", items) ∈ fields ∧ Declares items "string"
  | .plain => False

theorem Carries.ne_plain (h : Carries schema kind) : kind ≠ .plain := by
  rintro rfl
  exact h

/-- A schema fits one kind. -/
theorem Carries.unique (hkeys : schema.DistinctKeys) (h : Carries schema kind)
    (h' : Carries schema other) : kind = other := by
  have hexclusive : Declares schema "string" → ¬ Declares schema "array" := fun hstring harray =>
    absurd (hstring.unique hkeys (by decide) harray) (by decide)
  cases kind <;> cases other
  case file.file => rfl
  case file.fileArray => exact absurd h'.1 (hexclusive h)
  case fileArray.file => exact absurd h.1 (hexclusive h')
  case fileArray.fileArray => rfl
  all_goals first | exact h.elim | exact h'.elim

theorem carries_fileArray_iff (hkeys : schema.DistinctKeys) :
    Carries schema .fileArray ↔ declares schema "array" ∧
      ∃ items, Lookup.field schema "items" = .found items ∧ declares items "string" := by
  rw [declares_iff hkeys]
  refine and_congr_right fun _ => ?_
  constructor
  · rintro ⟨fields, items, rfl, hitems, hstring⟩
    have hitem := Json.distinctKeys_of_mem hkeys hitems
    refine ⟨items, ?_, (declares_iff hitem).mpr hstring⟩
    obtain ⟨_, rfl, -⟩ := hstring
    exact (Lookup.field_eq_found_iff_mem hkeys).mpr ⟨fields, rfl, hitems, nofun⟩
  · rintro ⟨items, hfield, hstring⟩
    obtain ⟨fields, rfl, hitems, -⟩ := (Lookup.field_eq_found_iff_mem hkeys).mp hfield
    have hitem := Json.distinctKeys_of_mem hkeys hitems
    exact ⟨fields, items, rfl, hitems, (declares_iff hitem).mp hstring⟩

/-- A hinted property has the kind that its schema fits, and else it is plain. -/
theorem carries_classify (hkeys : schema.DistinctKeys) (hhint : isHinted name) :
    Carries schema (classify name schema) ∨
      classify name schema = .plain ∧ ∀ kind, ¬ Carries schema kind := by
  simp only [classify, hhint, Bool.not_true, Bool.false_eq_true, if_false]
  by_cases hstring : declares schema "string"
  · rw [if_pos hstring]
    exact .inl ((declares_iff hkeys).mp hstring)
  rw [if_neg hstring]
  by_cases harray : Carries schema .fileArray
  · obtain ⟨hdeclares, items, hitems, hstring⟩ := (carries_fileArray_iff hkeys).mp harray
    rw [if_pos hdeclares, hitems]
    dsimp only
    rw [if_pos hstring]
    exact .inl harray
  · have hnone (kind : FieldKind) : ¬ Carries schema kind := by
      cases kind with
      | file => exact fun h => hstring ((declares_iff hkeys).mpr h)
      | fileArray => exact harray
      | plain => exact id
    refine .inr ⟨?_, hnone⟩
    rw [carries_fileArray_iff hkeys] at harray
    by_cases hdeclares : declares schema "array"
    · rw [if_pos hdeclares]
      split
      next items hitems => rw [if_neg fun hstring => harray ⟨hdeclares, items, hitems, hstring⟩]
      next => rfl
    · rw [if_neg hdeclares]

/-- A property is taken for a file field by a hint in its name and by its schema. -/
theorem classify_eq_iff (hkeys : schema.DistinctKeys) :
    classify name schema = kind ∧ kind ≠ .plain ↔ HasHint name ∧ Carries schema kind := by
  rw [← isHinted_iff]
  by_cases hhint : isHinted name
  · rcases carries_classify hkeys hhint with hcarries | ⟨hplain, hnone⟩
    · constructor
      · rintro ⟨rfl, -⟩
        exact ⟨hhint, hcarries⟩
      · rintro ⟨-, hkind⟩
        exact ⟨hcarries.unique hkeys hkind, hkind.ne_plain⟩
    · rw [hplain]
      constructor
      · rintro ⟨rfl, hne⟩
        exact absurd rfl hne
      · exact fun h => absurd h.2 (hnone kind)
  · have hplain : classify name schema = .plain := by simp [classify, hhint]
    rw [hplain]
    constructor
    · rintro ⟨rfl, hne⟩
      exact absurd rfl hne
    · exact fun h => absurd h.1 hhint

/-! ## Properties -/

variable {doc : Document} {field : FileField}

/-- The body's schema, after its reference, has a property. -/
def HasProperty (doc : Document) (schema : Json) (name : String) (property : Json) : Prop :=
  ∃ fields properties, doc.deref schema = .object fields ∧
    ("properties", .object properties) ∈ fields ∧ (name, property) ∈ properties

/-- What the extraction makes of a property. -/
theorem ofProperty_eq_some_iff {kind : FieldKind} :
    (match kind with
      | .plain => none
      | kind => some (FileField.mk name kind)) = some field ↔
      name = field.name ∧ kind = field.kind ∧ field.kind ≠ .plain := by
  obtain ⟨fieldName, fieldKind⟩ := field
  cases kind <;> cases fieldKind <;> simp

/-- The file fields of a schema are the properties with a hint in their names whose schemas, after their
references, make them carry files. -/
theorem mem_ofSchema (hkeys : doc.root.DistinctKeys) (hschema : doc.IsNode schema) :
    field ∈ ofSchema doc schema ↔
      ∃ property, HasProperty doc schema field.name property ∧ HasHint field.name ∧
        Carries (doc.deref property) field.kind := by
  have hnode := hschema.deref
  have hdistinct := hnode.distinctKeys hkeys
  have hclassify {fields properties : Entries} {property : Json}
      (hfields : doc.deref schema = .object fields)
      (hproperties : ("properties", .object properties) ∈ fields)
      (hproperty : (field.name, property) ∈ properties) :
      classify field.name (doc.deref property) = field.kind ∧ field.kind ≠ .plain ↔
        HasHint field.name ∧ Carries (doc.deref property) field.kind := by
    rw [hfields] at hnode
    have hproperty := (hnode.of_mem hkeys hproperties).of_mem hkeys hproperty
    exact classify_eq_iff (hproperty.deref.distinctKeys hkeys)
  rw [ofSchema.eq_def]
  constructor
  · intro hmem
    split at hmem
    next properties hlookup =>
      obtain ⟨fields, hfields, hproperties⟩ := (Lookup.object_field_eq_found_iff hdistinct).mp hlookup
      obtain ⟨⟨name, property⟩, hproperty, hfield⟩ := List.mem_filterMap.mp hmem
      obtain ⟨rfl, hkind⟩ := ofProperty_eq_some_iff.mp hfield
      exact ⟨property, ⟨fields, properties, hfields, hproperties, hproperty⟩,
        (hclassify hfields hproperties hproperty).mp hkind⟩
    next => cases hmem
  · rintro ⟨property, ⟨fields, properties, hfields, hproperties, hproperty⟩, hcarries⟩
    rw [(Lookup.object_field_eq_found_iff hdistinct).mpr ⟨fields, hfields, hproperties⟩]
    refine List.mem_filterMap.mpr ⟨(field.name, property), hproperty, ?_⟩
    exact ofProperty_eq_some_iff.mpr ⟨rfl, (hclassify hfields hproperties hproperty).mpr hcarries⟩

theorem names_sublist {f : String × Json → Option FileField}
    (hname : ∀ entry field, f entry = some field → entry.1 = field.name) (properties : Entries) :
    ((properties.filterMap f).map FileField.name).Sublist (properties.map Prod.fst) := by
  induction properties with
  | nil => exact .slnil
  | cons entry rest ih =>
    cases hfield : f entry with
    | none =>
      rw [List.filterMap_cons_none hfield]
      exact ih.cons entry.1
    | some field =>
      rw [List.filterMap_cons_some hfield, List.map_cons, List.map_cons, hname entry field hfield]
      exact ih.cons_cons field.name

/-- No name stands twice among them. -/
theorem nodup_ofSchema (hkeys : doc.root.DistinctKeys) (hschema : doc.IsNode schema) :
    ((ofSchema doc schema).map FileField.name).Nodup := by
  have hnode := hschema.deref
  rw [ofSchema.eq_def]
  split
  next properties hlookup =>
    obtain ⟨fields, hfields, hproperties⟩ :=
      (Lookup.object_field_eq_found_iff (hnode.distinctKeys hkeys)).mp hlookup
    rw [hfields] at hnode
    refine ((hnode.of_mem hkeys hproperties).nodup_keys hkeys).sublist (names_sublist ?_ properties)
    exact fun entry field hfield => (ofProperty_eq_some_iff.mp hfield).1
  next => exact List.nodup_nil

end FileField

end TypedClient
