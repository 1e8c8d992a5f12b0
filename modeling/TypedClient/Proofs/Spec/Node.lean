import TypedClient.Spec.Document
import Mathlib.Data.List.Nodup

/-!
# Nodes of a document

A node of a document is a value that stands at some location in it. What is looked up in a node is a node,
and so is what a reference leads to (`IsNode.deref`). A condition on all objects of the document holds at
each node (`IsNode.everywhere`). Where no object repeats a key, a lookup finds an entry wherever it stands
(`IsNode.get?_eq_some_iff`).
-/

namespace TypedClient

/-! ## Trees -/

namespace Json

variable {root value : Json} {entries : Entries} {items : List Json} {key : String}

/-- What is found under a key is one of the entries. -/
theorem mem_of_get? (h : entries.get? key = some value) : (key, value) ∈ entries := by
  obtain ⟨before, after, rfl, -⟩ := List.lookup_eq_some_iff.mp h
  exact List.mem_append_right before List.mem_cons_self

/-- Without repeated keys an entry is found wherever it stands. -/
theorem get?_eq_some_iff (hkeys : (entries.map Prod.fst).Nodup) :
    entries.get? key = some value ↔ (key, value) ∈ entries := by
  refine ⟨mem_of_get?, fun h => ?_⟩
  obtain ⟨before, after, rfl⟩ := List.append_of_mem h
  rw [List.map_append, List.map_cons, List.nodup_middle, List.nodup_cons, List.mem_append] at hkeys
  refine List.lookup_eq_some_iff.mpr ⟨before, after, rfl, fun entry hmem => ?_⟩
  have hne : key ≠ entry.1 := by
    rintro rfl
    exact hkeys.1 (.inl (List.mem_map.mpr ⟨entry, hmem, rfl⟩))
  simpa using hne

/-- A key is contained if it is one of the keys. -/
theorem contains_iff : entries.contains key ↔ key ∈ entries.keys := by
  rw [Entries.contains, Option.isSome_iff_exists]
  constructor
  · rintro ⟨value, hget⟩
    exact List.mem_map.mpr ⟨(key, value), mem_of_get? hget, rfl⟩
  · intro hmem
    obtain ⟨⟨name, value⟩, hentry, rfl⟩ := List.mem_map.mp hmem
    refine Option.ne_none_iff_exists'.mp fun hnone => ?_
    simpa using List.lookup_eq_none_iff.mp hnone _ hentry

/-- Without repeated keys there is one value for a key. -/
theorem eq_of_mem {other : Json} (hkeys : (entries.map Prod.fst).Nodup) (h : (key, value) ∈ entries)
    (hother : (key, other) ∈ entries) : value = other := by
  rw [← get?_eq_some_iff hkeys] at h hother
  exact Option.some.inj (h.symm.trans hother)

/-! ### Conditions on all objects -/

mutual

/-- Every object inside the value fulfils a condition on its entries. -/
def Everywhere (condition : Entries → Prop) : Json → Prop
  | .array items => EverywhereItems condition items
  | .object entries => condition entries ∧ EverywhereEntries condition entries
  | _ => True

/-- `Everywhere` of each item. -/
def EverywhereItems (condition : Entries → Prop) : List Json → Prop
  | [] => True
  | item :: rest => Everywhere condition item ∧ EverywhereItems condition rest

/-- `Everywhere` of each entry's value. -/
def EverywhereEntries (condition : Entries → Prop) : List (String × Json) → Prop
  | [] => True
  | (_, value) :: rest => Everywhere condition value ∧ EverywhereEntries condition rest

end

mutual

/-- No object of a tree has a key twice if and only if the keys of each one are all different. -/
theorem distinctKeys_iff : ∀ value : Json,
    value.DistinctKeys ↔ value.Everywhere fun entries => (entries.map Prod.fst).Nodup
  | .array items => distinctKeysItems_iff items
  | .object entries => and_congr_right fun _ => distinctKeysEntries_iff entries
  | .null | .bool _ | .number _ | .string _ => Iff.rfl

theorem distinctKeysItems_iff : ∀ items : List Json,
    DistinctKeysItems items ↔ EverywhereItems (fun entries => (entries.map Prod.fst).Nodup) items
  | [] => Iff.rfl
  | item :: rest => and_congr (distinctKeys_iff item) (distinctKeysItems_iff rest)

theorem distinctKeysEntries_iff : ∀ entries : Entries,
    DistinctKeysEntries entries ↔ EverywhereEntries (fun entries => (entries.map Prod.fst).Nodup) entries
  | [] => Iff.rfl
  | (_, value) :: rest => and_congr (distinctKeys_iff value) (distinctKeysEntries_iff rest)

end

variable {condition : Entries → Prop}

/-- What holds everywhere in entries holds everywhere in the value of each. -/
theorem everywhere_of_mem (hall : EverywhereEntries condition entries) (h : (key, value) ∈ entries) :
    value.Everywhere condition := by
  induction entries with
  | nil => exact absurd h List.not_mem_nil
  | cons entry rest ih =>
    rcases List.mem_cons.mp h with rfl | hrest
    · exact hall.1
    · exact ih hall.2 hrest

/-- What holds everywhere in items holds everywhere in each. -/
theorem everywhere_of_mem_items (hall : EverywhereItems condition items) (h : value ∈ items) :
    value.Everywhere condition := by
  induction items with
  | nil => exact absurd h List.not_mem_nil
  | cons item rest ih =>
    rcases List.mem_cons.mp h with rfl | hrest
    · exact hall.1
    · exact ih hall.2 hrest

/-- One step down a tree leads to a value that has what holds everywhere in the tree. -/
theorem everywhere_of_step? {step : Step} (hall : root.Everywhere condition)
    (h : root.step? step = some value) : value.Everywhere condition := by
  cases root with
  | object entries =>
    cases step with
    | key name => exact everywhere_of_mem hall.2 (mem_of_get? h)
    | index position => cases h
  | array items =>
    cases step with
    | key name => cases h
    | index position => exact everywhere_of_mem_items hall (List.mem_of_getElem? h)
  | _ => cases h

/-- So does any location, step by step. -/
theorem everywhere_of_at? {location : Location} (hall : root.Everywhere condition)
    (h : root.at? location = some value) : value.Everywhere condition := by
  induction location generalizing root with
  | nil =>
    cases h
    exact hall
  | cons step rest ih =>
    rw [at?] at h
    cases hstep : root.step? step with
    | none =>
      rw [hstep] at h
      cases h
    | some next =>
      rw [hstep] at h
      exact ih (everywhere_of_step? hall hstep) h

/-- The values of an object without repeated keys have none either. -/
theorem distinctKeys_of_mem (hkeys : (object entries).DistinctKeys) (h : (key, value) ∈ entries) :
    value.DistinctKeys := by
  rw [distinctKeys_iff] at hkeys ⊢
  exact everywhere_of_mem hkeys.2 h

/-! ### Locations -/

/-- A location can be followed in two parts. -/
theorem at?_append (root : Json) (location further : Location) :
    root.at? (location ++ further) = (root.at? location).bind fun value => value.at? further := by
  induction location generalizing root with
  | nil => rfl
  | cons step rest ih =>
    rw [List.cons_append, at?, at?]
    cases root.step? step with
    | none => rfl
    | some value => exact ih value

/-- Steps as texts lead to a location. -/
theorem exists_at?_of_follow {tokens : List (List Char)} (h : root.follow tokens = some value) :
    ∃ location, root.at? location = some value := by
  induction tokens generalizing root with
  | nil => exact ⟨[], h⟩
  | cons token rest ih =>
    have hstep (step : Step) {next : Json} (hnext : root.step? step = some next)
        (hrest : next.follow rest = some value) : ∃ location, root.at? location = some value := by
      obtain ⟨location, hlocation⟩ := ih hrest
      refine ⟨step :: location, ?_⟩
      rw [at?, hnext]
      exact hlocation
    cases root with
    | object entries =>
      rw [follow] at h
      cases hnext : Entries.get? entries (String.ofList token) with
      | none =>
        rw [hnext] at h
        cases h
      | some next =>
        rw [hnext] at h
        exact hstep (.key (String.ofList token)) hnext h
    | array items =>
      rw [follow] at h
      split at h
      next => cases h
      next position _ =>
        cases hnext : items[position]? with
        | none =>
          rw [hnext] at h
          cases h
        | some next =>
          rw [hnext] at h
          exact hstep (.index position) hnext h
    | _ => cases h

/-- What a pointer resolves to has a location. -/
theorem exists_at?_of_resolve {pointer : List Char} (h : root.resolve pointer = some value) :
    ∃ location, root.at? location = some value := by
  rw [resolve] at h
  split at h
  · exact exists_at?_of_follow h
  · cases h

end Json

/-! ## Lookups -/

namespace Lookup

variable {lookup : Lookup Json} {parent value : Json} {entries fields : Json.Entries}
  {items : List Json} {key text : String}

/-- An entry is found if it is there and not null. -/
theorem entry_eq_found_iff :
    entry entries key = found value ↔ entries.get? key = some value ∧ value ≠ .null := by
  rw [entry]
  cases entries.get? key with
  | none => simp
  | some other =>
    cases other <;> simp <;> rintro rfl <;> simp

/-- A field is found in objects only. -/
theorem field_eq_found_iff :
    field parent key = found value ↔
      ∃ entries, parent = .object entries ∧ entry entries key = found value := by
  cases parent <;> simp [field]

/-- To find a field of something looked up, that has to be found first. -/
theorem get_eq_found_iff :
    lookup.get key = found value ↔ ∃ parent, lookup = found parent ∧ field parent key = found value := by
  cases lookup <;> simp [get]

/-- Narrowing to objects finds the objects that were found. -/
theorem object_eq_found_iff : lookup.object = found entries ↔ lookup = found (.object entries) := by
  cases lookup with
  | found value => cases value <;> simp [object, narrow, Json.entries?]
  | _ => simp [object, narrow]

/-- Narrowing to arrays finds the arrays that were found. -/
theorem array_eq_found_iff : lookup.array = found items ↔ lookup = found (.array items) := by
  cases lookup with
  | found value => cases value <;> simp [array, narrow, Json.items?]
  | _ => simp [array, narrow]

/-- Narrowing to strings finds the strings that were found. -/
theorem string_eq_found_iff : lookup.string = found text ↔ lookup = found (.string text) := by
  cases lookup with
  | found value => cases value <;> simp [string, narrow, Json.text?]
  | _ => simp [string, narrow]

theorem found?_eq_some_iff {α : Type} {lookup : Lookup α} {found : α} :
    lookup.found? = some found ↔ lookup = .found found := by
  cases lookup <;> simp [found?]

/-- Without repeated keys an entry is found wherever it stands. -/
theorem entry_eq_found_iff_mem (hkeys : (entries.map Prod.fst).Nodup) :
    entry entries key = found value ↔ (key, value) ∈ entries ∧ value ≠ .null := by
  rw [entry_eq_found_iff, Json.get?_eq_some_iff hkeys]

/-- Without repeated keys a field is found wherever it stands. -/
theorem field_eq_found_iff_mem (hkeys : parent.DistinctKeys) :
    field parent key = found value ↔
      ∃ fields, parent = .object fields ∧ (key, value) ∈ fields ∧ value ≠ .null := by
  rw [field_eq_found_iff]
  refine exists_congr fun fields => and_congr_right fun hparent => ?_
  subst hparent
  exact entry_eq_found_iff_mem hkeys.1

/-- An object is found in a field exactly if it stands there: it is not null. -/
theorem object_field_eq_found_iff (hkeys : parent.DistinctKeys) :
    (field parent key).object = found entries ↔
      ∃ fields, parent = .object fields ∧ (key, .object entries) ∈ fields := by
  rw [object_eq_found_iff, field_eq_found_iff_mem hkeys]
  exact exists_congr fun fields => and_congr_right fun _ => and_iff_left nofun

end Lookup

/-! ## Nodes -/

namespace Document

variable {doc : Document} {value : Json} {entries : Json.Entries} {items : List Json} {key : String}

/-- A value stands at some location of the document. -/
def IsNode (doc : Document) (value : Json) : Prop :=
  ∃ location, doc.root.at? location = some value

/-- The empty location leads to the root. -/
theorem isNode_root (doc : Document) : doc.IsNode doc.root :=
  ⟨[], rfl⟩

/-- A step down from a node leads to a node. -/
theorem IsNode.step {next : Json} (h : doc.IsNode value) (step : Step)
    (hstep : value.step? step = some next) : doc.IsNode next := by
  obtain ⟨location, hlocation⟩ := h
  refine ⟨location ++ [step], ?_⟩
  rw [Json.at?_append, hlocation, Option.bind_some, Json.at?, hstep]
  rfl

/-- The values of a node are nodes. -/
theorem IsNode.of_get? (h : doc.IsNode (.object entries)) (hget : entries.get? key = some value) :
    doc.IsNode value :=
  h.step (.key key) hget

/-- The items of a node are nodes. -/
theorem IsNode.of_mem_items (h : doc.IsNode (.array items)) (hmem : value ∈ items) :
    doc.IsNode value := by
  obtain ⟨position, hposition⟩ := List.mem_iff_getElem?.mp hmem
  exact h.step (.index position) hposition

/-- What a reference leads to is a node. -/
theorem isNode_of_target? {target : Json} (h : doc.target? value = some target) :
    doc.IsNode target := by
  rw [target?] at h
  split at h
  · split at h
    · exact Json.exists_at?_of_resolve h
    · cases h
  · cases h

/-- A reference leads to a node again, for it is resolved in the document. -/
theorem IsNode.deref (h : doc.IsNode value) : doc.IsNode (doc.deref value) := by
  rw [Document.deref]
  cases htarget : doc.target? value with
  | none => exact h
  | some target => exact isNode_of_target? htarget

/-- What holds everywhere in a document holds everywhere in its nodes. -/
theorem IsNode.everywhere {condition : Json.Entries → Prop} (hall : doc.root.Everywhere condition)
    (h : doc.IsNode value) : value.Everywhere condition := by
  obtain ⟨location, hlocation⟩ := h
  exact Json.everywhere_of_at? hall hlocation

/-- The nodes of a document without repeated keys have none. -/
theorem IsNode.distinctKeys (hkeys : doc.root.DistinctKeys) (h : doc.IsNode value) :
    value.DistinctKeys := by
  rw [Json.distinctKeys_iff] at hkeys ⊢
  exact h.everywhere hkeys

theorem IsNode.nodup_keys (hkeys : doc.root.DistinctKeys) (h : doc.IsNode (.object entries)) :
    (entries.map Prod.fst).Nodup :=
  (h.distinctKeys hkeys).1

/-- In such a document, looking up a key of a node and having the entry is the same. -/
theorem IsNode.get?_eq_some_iff (hkeys : doc.root.DistinctKeys) (h : doc.IsNode (.object entries)) :
    entries.get? key = some value ↔ (key, value) ∈ entries :=
  Json.get?_eq_some_iff (h.nodup_keys hkeys)

theorem IsNode.of_mem (hkeys : doc.root.DistinctKeys) (h : doc.IsNode (.object entries))
    (hmem : (key, value) ∈ entries) : doc.IsNode value :=
  h.of_get? ((h.get?_eq_some_iff hkeys).mpr hmem)

/-- A field of a node is a node. -/
theorem IsNode.of_field {parent : Json} (h : doc.IsNode parent)
    (hfield : Lookup.field parent key = .found value) : doc.IsNode value := by
  obtain ⟨entries, rfl, hentry⟩ := Lookup.field_eq_found_iff.mp hfield
  exact h.of_get? (Lookup.entry_eq_found_iff.mp hentry).1

/-- The paths of a document are a node. -/
theorem isNode_paths {paths : Json.Entries} (h : doc.paths = .found paths) :
    doc.IsNode (.object paths) := by
  rw [Document.paths, lookup, Lookup.object_eq_found_iff] at h
  exact (isNode_root doc).of_field h

end Document

end TypedClient
