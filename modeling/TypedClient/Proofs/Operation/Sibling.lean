import TypedClient.Proofs.Operation.Consistent
import TypedClient.Proofs.Operation.Outcome

/-!
# Operations side by side

What the extraction makes of a slot depends on what fills it and on what references lead to. Where all
references lead into the components, two documents with the same components agree on the slots that they
share (`pathOutcomes_congr`). So the outcomes of a path are the same whatever other paths stand beside it,
and those of a slot whatever stands in other slots (`independent_withPaths`).
-/

namespace TypedClient

open Json (Entries)

/-! ## Setting an entry -/

/-- Inserting an entry changes what is found under its key only. -/
theorem Json.get?_insert (entries : Entries) (key name : String) (value : Json) :
    (entries.insert key value).get? name = if name = key then some value else entries.get? name := by
  have hcons (first : String × Json) (rest : Entries) :
      Entries.get? (first :: rest) name = if name = first.1 then some first.2 else rest.get? name := by
    rw [Entries.get?, List.lookup_cons, Entries.get?]
    by_cases h : name = first.1
    · simp [h]
    · rw [if_neg h, beq_eq_false_iff_ne.mpr h]
  induction entries with
  | nil => exact hcons (key, value) []
  | cons first rest ih =>
    obtain ⟨k, v⟩ := first
    rw [Entries.insert]
    split
    next heq =>
      subst heq
      rw [hcons, hcons]
      split <;> rfl
    next hne =>
      rw [hcons, hcons, ih]
      split
      next heq =>
        subst heq
        rw [if_neg hne]
      next => rfl

/-! ## References into the components -/

/-- A pointer into the components is followed from there. -/
theorem Json.resolve_components (root : Json) (rest : List Char) :
    root.resolve ("/components/".toList ++ rest) =
      (root.step? (.key "components")).bind fun components =>
        components.follow ((Text.split '/' rest).map unescapeToken) := by
  have htokens : pointerTokens ("/components/".toList ++ rest) =
      some ("components".toList :: (Text.split '/' rest).map unescapeToken) := by
    have hslash : '/' ∉ "components".toList := by decide
    have hsplit := Text.splitFrom_append hslash [] rest
    exact congrArg (fun pieces => some (pieces.map unescapeToken)) hsplit
  rw [resolve, htokens]
  cases root with
  | object entries =>
    dsimp only [follow, step?]
    rw [String.ofList_toList]
    cases Entries.get? entries "components" <;> rfl
  | _ => rfl

namespace Document

variable {doc other : Document} {value : Json} {entries item content paths : Entries}

/-- The documents have the same components, or have none. -/
def SharesComponents (doc other : Document) : Prop :=
  doc.root.step? (.key "components") = other.root.step? (.key "components")

/-- All references of the document lead into the components. -/
def RefersToComponents (doc : Document) : Prop :=
  doc.root.Everywhere fun entries =>
    ∀ text, ("$ref", .string text) ∈ entries → "#/components/".toList <+: text.toList

section

variable (hshares : doc.SharesComponents other) (hrefs : doc.RefersToComponents)
include hshares hrefs

/-- A node refers to the same value in both documents. -/
theorem target?_congr (hnode : doc.IsNode value) : other.target? value = doc.target? value := by
  rw [target?, target?]
  split
  next text htext =>
    rw [Lookup.string_eq_found_iff, Lookup.field_eq_found_iff] at htext
    obtain ⟨entries, rfl, hentry⟩ := htext
    -- the text goes on behind `#/components/`, and the rest is followed in the same value
    have hmem := Json.mem_of_get? (Lookup.entry_eq_found_iff.mp hentry).1
    obtain ⟨rest, hrest⟩ := (hnode.everywhere hrefs).1 text hmem
    have hresolve : other.root.resolve ("/components/".toList ++ rest) =
        doc.root.resolve ("/components/".toList ++ rest) := by
      rw [Json.resolve_components, Json.resolve_components, hshares]
    rw [← hrest]
    exact hresolve
  next => rfl

/-- A reference leads to the same value in both documents. -/
theorem deref_congr (hnode : doc.IsNode value) : other.deref value = doc.deref value := by
  rw [deref, deref, target?_congr hshares hrefs hnode]

/-! ## The parts of an operation -/

/-- Query parameters are declared in both documents or in none. -/
theorem declaresQuery_congr (hnode : doc.IsNode (.object entries)) :
    Operation.declaresQuery other entries = Operation.declaresQuery doc entries := by
  rw [Operation.declaresQuery, Operation.declaresQuery]
  split
  next parameters hparameters =>
    rw [Lookup.array_eq_found_iff, Lookup.entry_eq_found_iff] at hparameters
    have hitems := hnode.of_get? hparameters.1
    rw [Bool.eq_iff_iff, List.any_eq_true, List.any_eq_true]
    refine exists_congr fun parameter => and_congr_right fun hmem => ?_
    rw [deref_congr hshares hrefs (hitems.of_mem_items hmem)]
  next => rfl

/-- The content of a body is the same. -/
theorem content?_congr (hnode : doc.IsNode (.object entries)) :
    Operation.content? other entries = Operation.content? doc entries := by
  rw [Operation.content?, Operation.content?]
  cases hbody : entries.get? "requestBody" with
  | none => rfl
  | some body =>
    dsimp only
    rw [deref_congr hshares hrefs (hnode.of_get? hbody)]

variable (hkeys : doc.root.DistinctKeys)
include hkeys

/-- The fields of a form are the same. -/
theorem ofSchema_congr (hnode : doc.IsNode value) :
    FileField.ofSchema other value = FileField.ofSchema doc value := by
  rw [FileField.ofSchema, FileField.ofSchema, deref_congr hshares hrefs hnode]
  split
  next properties hproperties =>
    rw [Lookup.object_eq_found_iff] at hproperties
    have hfields := hnode.deref.of_field hproperties
    refine List.filterMap_congr fun ⟨name, property⟩ hentry => ?_
    dsimp only
    rw [deref_congr hshares hrefs (hfields.of_mem hkeys hentry)]
  next => rfl

/-- So are those of the form among other content. -/
theorem formFields_congr (hnode : doc.IsNode (.object content)) :
    Operation.formFields other content = Operation.formFields doc content := by
  rw [Operation.formFields, Operation.formFields]
  split
  next schema hschema =>
    obtain ⟨media, hmedia, hschema⟩ := Lookup.get_eq_found_iff.mp hschema
    have hmedia := hnode.of_get? (Lookup.entry_eq_found_iff.mp hmedia).1
    exact ofSchema_congr hshares hrefs hkeys (hmedia.of_field hschema)
  next => rfl

/-- So is all that is known of the body. -/
theorem body_congr (hnode : doc.IsNode (.object entries)) :
    Operation.body other entries = Operation.body doc entries := by
  rw [Operation.body, Operation.body, content?_congr hshares hrefs hnode]
  cases hcontent : Operation.content? doc entries with
  | none => rfl
  | some content =>
    have hoffers := (content?_eq_some_iff hkeys hnode).mp hcontent
    dsimp only
    rw [formFields_congr hshares hrefs hkeys (isNode_of_offers hkeys hnode hoffers)]

/-- The same operation is made from the same entries. -/
theorem ofEntries_congr (hnode : doc.IsNode (.object entries)) (slot : Slot) (id : String) :
    Operation.ofEntries other slot id entries = Operation.ofEntries doc slot id entries := by
  rw [Operation.ofEntries, Operation.ofEntries, body_congr hshares hrefs hkeys hnode,
    declaresQuery_congr hshares hrefs hnode]

/-! ## Outcomes -/

/-- A slot has the same outcome in both documents. -/
theorem slotOutcome_congr (hnode : doc.IsNode (.object item)) (slot : Slot) :
    other.slotOutcome item slot = doc.slotOutcome item slot := by
  rw [slotOutcome, slotOutcome]
  split
  · rfl
  · rfl
  next entries hentries =>
    rw [Lookup.object_eq_found_iff, Lookup.entry_eq_found_iff] at hentries
    split
    · rfl
    · rw [ofEntries_congr hshares hrefs hkeys (hnode.of_get? hentries.1)]

/-- The documents agree on a path that they share. -/
theorem pathOutcomes_congr (hnode : doc.IsNode value) (path : String) :
    other.pathOutcomes path value = doc.pathOutcomes path value := by
  cases value with
  | object item =>
    exact List.filterMap_congr fun method _ => slotOutcome_congr hshares hrefs hkeys hnode ⟨path, method⟩
  | _ => rfl

end

/-! ## Documents with the same rest -/

/-- A document with the given paths; the rest of it may have others, which they replace. -/
def withPaths (rest paths : Entries) : Document :=
  ofEntries (rest.insert "paths" (.object paths))

/-- The paths of the document are the given ones. -/
theorem paths_withPaths (rest paths : Entries) : (withPaths rest paths).paths = .found paths := by
  have hget : (rest.insert "paths" (.object paths)).get? "paths" = some (.object paths) := by
    rw [Json.get?_insert, if_pos rfl]
  have hlookup : (withPaths rest paths).lookup "paths" = .found (.object paths) :=
    Lookup.entry_eq_found_iff.mpr ⟨hget, nofun⟩
  rw [Document.paths, hlookup]
  rfl

/-- Documents that differ in their paths share their components. -/
theorem sharesComponents_withPaths (rest paths others : Entries) :
    (withPaths rest paths).SharesComponents (withPaths rest others) := by
  have hget (paths : Entries) :
      (rest.insert "paths" (.object paths)).get? "components" = rest.get? "components" := by
    rw [Json.get?_insert, if_neg (by decide)]
  exact (hget paths).trans (hget others).symm

theorem outcomes_withPaths (rest paths : Entries) :
    (withPaths rest paths).outcomes = (withPaths rest paths).outcomesOf paths :=
  outcomes_eq (paths_withPaths rest paths)

/-- Some of the paths of a document have the same outcomes beside any others. -/
theorem outcomesOf_congr {rest part : Entries} (hkeys : (withPaths rest paths).root.DistinctKeys)
    (hrefs : (withPaths rest paths).RefersToComponents) (hpart : part ⊆ paths) (others : Entries) :
    (withPaths rest others).outcomesOf part = (withPaths rest paths).outcomesOf part := by
  have hpaths := isNode_paths (paths_withPaths rest paths)
  have hshares := sharesComponents_withPaths rest paths others
  refine List.flatMap_congr fun entry hentry => ?_
  exact pathOutcomes_congr hshares hrefs hkeys (hpaths.of_mem hkeys (hpart hentry)) entry.1

theorem outcomesOf_cons (doc : Document) (entry : String × Json) (rest : Entries) :
    doc.outcomesOf (entry :: rest) = doc.pathOutcomes entry.1 entry.2 ++ doc.outcomesOf rest :=
  List.flatMap_cons

/-- The outcomes of paths are those of one part and those of the other. -/
theorem outcomesOf_append (doc : Document) (paths others : Entries) :
    doc.outcomesOf (paths ++ others) = doc.outcomesOf paths ++ doc.outcomesOf others :=
  List.flatMap_append

/-! ## Changing one slot -/

/-- An outcome is about something else than the slot. -/
def isElsewhere (slot : Slot) (outcome : Except Skip Operation) : Bool :=
  Slot.ofOutcome? outcome ≠ some slot

/-- The operations of other slots come from the outcomes about other slots. -/
theorem operations_elsewhere (doc : Document) (slot : Slot) :
    (doc.operations.filter fun op => op.slot ≠ slot) =
      (doc.outcomes.filter (isElsewhere slot)).filterMap Operation.ofOutcome? := by
  rw [operations_eq, List.filter_filterMap, List.filterMap_filter]
  refine List.filterMap_congr fun outcome _ => ?_
  cases outcome with
  | ok op => simp [isElsewhere, Slot.ofOutcome?, Operation.ofOutcome?, Option.filter]
  | error skip => simp [Operation.ofOutcome?]

/-- The warnings are the messages of all that is skipped. -/
theorem warnings_eq (doc : Document) :
    doc.reportedWarnings = (doc.outcomes.filterMap Skip.ofOutcome?).map Skip.message := by
  rw [reportedWarnings_eq, skips_eq]

/-- The warnings about other slots come from the outcomes about other slots. -/
theorem warnings_elsewhere (doc : Document) (slot : Slot) :
    (doc.reportedWarnings.filter fun warning => !slot.isWarned warning) =
      ((doc.outcomes.filter (isElsewhere slot)).filterMap Skip.ofOutcome?).map Skip.message := by
  rw [warnings_eq, List.filter_map, List.filter_filterMap, List.filterMap_filter]
  refine congrArg (List.map Skip.message) (List.filterMap_congr fun outcome _ => ?_)
  cases outcome with
  | ok op => simp [Skip.ofOutcome?]
  | error skip =>
    by_cases hslot : skip.slot? = some slot <;>
      simp [isElsewhere, Slot.ofOutcome?, Skip.ofOutcome?, Option.filter, Slot.isWarned_message, hslot]

/-- The outcome of a slot is about that slot. -/
theorem filter_slotOutcome (doc : Document) (item : Entries) (slot : Slot) :
    (doc.slotOutcome item slot).filter (isElsewhere slot) = none := by
  refine Option.filter_eq_none_iff.mpr fun outcome houtcome => ?_
  rw [isElsewhere, ofOutcome?_of_slotOutcome houtcome]
  simp

/-- What stands in a slot says nothing about the other slots of the path. -/
theorem filter_pathOutcomes_insert (doc : Document) (item : Entries) (slot : Slot) (value : Json) :
    (doc.pathOutcomes slot.path (.object (item.insert slot.method.word value))).filter
        (isElsewhere slot) =
      (doc.pathOutcomes slot.path (.object item)).filter (isElsewhere slot) := by
  rw [pathOutcomes, pathOutcomes, List.filter_filterMap, List.filter_filterMap]
  refine List.filterMap_congr fun method _ => ?_
  -- the changed slot is filtered out, and the other ones are looked up under other words
  by_cases hmethod : method = slot.method
  · subst hmethod
    rw [filter_slotOutcome, filter_slotOutcome]
  · have hentry : Lookup.entry (item.insert slot.method.word value) method.word =
        Lookup.entry item method.word := by
      rw [Lookup.entry, Lookup.entry, Json.get?_insert, if_neg (Method.word_injective.ne hmethod)]
    rw [slotOutcome, slotOutcome, hentry]

/-! ## Siblings -/

/-- What the extraction makes of some paths is independent of what stands beside them. -/
structure Independent (rest before after : Entries) : Prop where
  /-- The operations of paths one after the other are those of each of the two, one after the other. -/
  operations : (withPaths rest (before ++ after)).operations =
    (withPaths rest before).operations ++ (withPaths rest after).operations
  /-- So are the warnings. -/
  warnings : (withPaths rest (before ++ after)).reportedWarnings =
    (withPaths rest before).reportedWarnings ++ (withPaths rest after).reportedWarnings
  /-- Whatever other paths stand between them, they only add something of their own; if their items are no
  objects, that is one warning for each. -/
  paths : ∀ others, ∃ ops warnings,
    (withPaths rest (before ++ others ++ after)).operations =
      (withPaths rest before).operations ++ ops ++ (withPaths rest after).operations ∧
    (withPaths rest (before ++ others ++ after)).reportedWarnings =
      (withPaths rest before).reportedWarnings ++ warnings ++ (withPaths rest after).reportedWarnings ∧
    (∀ op ∈ ops, op.path ∈ others.keys) ∧
    ((∀ entry ∈ others, entry.2.entries? = none) →
      ops = [] ∧ warnings = others.keys.map fun path => (Skip.item path).message)
  /-- Whatever is put into a slot, the operations and warnings of all other slots and items stay. -/
  slots : ∀ front back (item : Entries) (slot : Slot) value,
    before ++ after = front ++ (slot.path, .object item) :: back →
    let changed := withPaths rest
      (front ++ (slot.path, .object (item.insert slot.method.word value)) :: back)
    (changed.operations.filter fun op => op.slot ≠ slot) =
        ((withPaths rest (before ++ after)).operations.filter fun op => op.slot ≠ slot) ∧
      (changed.reportedWarnings.filter fun warning => !slot.isWarned warning) =
        (withPaths rest (before ++ after)).reportedWarnings.filter fun warning => !slot.isWarned warning

/-- The operations of a path have that path. -/
theorem path_of_mem_pathOutcomes {path : String} {op : Operation}
    (h : .ok op ∈ doc.pathOutcomes path value) : op.path = path := by
  cases value with
  | object item =>
    obtain ⟨method, -, hslot⟩ := List.mem_filterMap.mp h
    have hop : op.slot = ⟨path, method⟩ := Option.some.inj (ofOutcome?_of_slotOutcome hslot)
    exact congrArg Slot.path hop
  | _ => cases List.mem_singleton.mp h

/-- The operations of paths are in these paths. -/
theorem path_of_mem_outcomesOf {op : Operation}
    (h : op ∈ (doc.outcomesOf paths).filterMap Operation.ofOutcome?) : op.path ∈ paths.keys := by
  obtain ⟨outcome, houtcome, hof⟩ := List.mem_filterMap.mp h
  obtain ⟨entry, hentry, hpath⟩ := List.mem_flatMap.mp houtcome
  cases outcome with
  | ok other =>
    cases hof
    exact List.mem_map.mpr ⟨entry, hentry, (path_of_mem_pathOutcomes hpath).symm⟩
  | error skip => cases hof

/-- Items that are no objects are skipped, each with its own warning. -/
theorem outcomesOf_of_entries? (doc : Document) (h : ∀ entry ∈ paths, entry.2.entries? = none) :
    doc.outcomesOf paths = paths.keys.map fun path => .error (.item path) := by
  induction paths with
  | nil => rfl
  | cons entry rest ih =>
    obtain ⟨hentry, hrest⟩ := List.forall_mem_cons.mp h
    have hitem : doc.pathOutcomes entry.1 entry.2 = [.error (.item entry.1)] := by
      rw [pathOutcomes.eq_def]
      split
      next item hobject =>
        rw [hobject] at hentry
        cases hentry
      next => rfl
    rw [outcomesOf_cons, hitem, ih hrest]
    rfl

section

variable {rest : Entries}

/-- The outcomes of other slots stay when a slot is changed. -/
theorem outcomes_elsewhere {front back changed : Entries} {slot : Slot}
    (hkeys : (withPaths rest (front ++ (slot.path, .object item) :: back)).root.DistinctKeys)
    (hrefs : (withPaths rest (front ++ (slot.path, .object item) :: back)).RefersToComponents) (value : Json)
    (hchanged : changed = front ++ (slot.path, .object (item.insert slot.method.word value)) :: back) :
    (withPaths rest changed).outcomes.filter (isElsewhere slot) =
      (withPaths rest (front ++ (slot.path, .object item) :: back)).outcomes.filter
        (isElsewhere slot) := by
  have hfront : (withPaths rest changed).outcomesOf front = _ :=
    outcomesOf_congr hkeys hrefs (List.subset_append_left front _) changed
  have hback : (withPaths rest changed).outcomesOf back = _ :=
    outcomesOf_congr hkeys hrefs
      (List.subset_append_of_subset_right front (List.subset_cons_self _ back)) changed
  have hnode := (isNode_paths (paths_withPaths rest _)).of_mem hkeys List.mem_append_cons_self
  have hitem := pathOutcomes_congr (sharesComponents_withPaths rest _ changed) hrefs hkeys hnode slot.path
  have hsplit (doc : Document) (value : Json) :
      (doc.outcomesOf (front ++ (slot.path, value) :: back)).filter (isElsewhere slot) =
        (doc.outcomesOf front).filter (isElsewhere slot) ++
          ((doc.pathOutcomes slot.path value).filter (isElsewhere slot) ++
            (doc.outcomesOf back).filter (isElsewhere slot)) := by
    rw [outcomesOf_append, outcomesOf_cons, List.filter_append, List.filter_append]
  rw [outcomes_withPaths, outcomes_withPaths]
  generalize withPaths rest changed = other at hfront hback hitem ⊢
  rw [hchanged, hsplit, hsplit, hfront, hback, filter_pathOutcomes_insert, hitem]

/-- The extraction is independent of what stands beside a path or a slot, if references lead into the
components. -/
theorem independent_withPaths {before after : Entries}
    (hkeys : (withPaths rest (before ++ after)).root.DistinctKeys)
    (hrefs : (withPaths rest (before ++ after)).RefersToComponents) : Independent rest before after := by
  -- each document is compared with the one that has both parts, since references of that one are known
  have hbefore := outcomesOf_congr hkeys hrefs (List.subset_append_left before after)
  have hafter := outcomesOf_congr hkeys hrefs (List.subset_append_right before after)
  have houtcomes : (withPaths rest (before ++ after)).outcomes =
      (withPaths rest before).outcomes ++ (withPaths rest after).outcomes := by
    simp only [outcomes_withPaths, outcomesOf_append, hbefore before, hafter after]
  have hbetween (others : Entries) : (withPaths rest (before ++ others ++ after)).outcomes =
      (withPaths rest before).outcomes ++ (withPaths rest (before ++ others ++ after)).outcomesOf others ++
        (withPaths rest after).outcomes := by
    rw [outcomes_withPaths, outcomes_withPaths, outcomes_withPaths, outcomesOf_append, outcomesOf_append,
      hbefore, hafter, hbefore before, hafter after]
  refine ⟨?_, ?_, fun others => ?_, fun front back item slot value heq => ?_⟩
  · rw [operations_eq, houtcomes, List.filterMap_append, ← operations_eq, ← operations_eq]
  · rw [warnings_eq, houtcomes, List.filterMap_append, List.map_append, ← warnings_eq, ← warnings_eq]
  · have hothers := hbetween others
    generalize hdoc : withPaths rest (before ++ others ++ after) = between at hothers ⊢
    refine ⟨(between.outcomesOf others).filterMap Operation.ofOutcome?,
      ((between.outcomesOf others).filterMap Skip.ofOutcome?).map Skip.message, ?_, ?_,
      fun op hop => path_of_mem_outcomesOf hop, fun hnone => ?_⟩
    · simp only [operations_eq, hothers, List.filterMap_append]
    · simp only [warnings_eq, hothers, List.filterMap_append, List.map_append]
    · rw [outcomesOf_of_entries? between hnone]
      simp [List.filterMap_map, Function.comp_def, Operation.ofOutcome?, Skip.ofOutcome?]
  · rw [heq] at hkeys hrefs ⊢
    have helsewhere := outcomes_elsewhere hkeys hrefs value rfl
    dsimp only
    rw [operations_elsewhere, operations_elsewhere, warnings_elsewhere, warnings_elsewhere, helsewhere]
    exact ⟨rfl, rfl⟩

end

/-- A document without its paths. -/
def sharedEntries : Entries :=
  let user : Json := .object [("content", .object [("application/json", .object [])])]
  [("openapi", .string "3.0.3"), ("paths", .null),
    ("components", .object [("requestBodies", .object [("User", user)])])]

/-- A path whose operation has a body behind a reference. -/
def soundPaths : Entries :=
  let body : Json := .object [("$ref", .string "#/components/requestBodies/User")]
  [("/users", .object [("post", .object [("operationId", .string "add"), ("requestBody", body)])])]

/-- A path whose item is no object, and one with an operation that is none. -/
def malformedPaths : Entries :=
  [("/broken", .array []), ("/posts", .object [("get", .string "list"), ("put", .object [])])]

/-- Sound paths beside others in which nothing is as it should be. -/
theorem independent_withPaths_malformed :
    (withPaths sharedEntries (soundPaths ++ malformedPaths)).root.DistinctKeys ∧
      (withPaths sharedEntries (soundPaths ++ malformedPaths)).RefersToComponents ∧
      Independent sharedEntries soundPaths malformedPaths := by
  have hkeys : (withPaths sharedEntries (soundPaths ++ malformedPaths)).root.DistinctKeys := by
    simp [withPaths, ofEntries, sharedEntries, soundPaths, malformedPaths, Json.Entries.insert,
      Json.DistinctKeys, Json.DistinctKeysEntries, Json.DistinctKeysItems]
  have hrefs : (withPaths sharedEntries (soundPaths ++ malformedPaths)).RefersToComponents := by
    simp [RefersToComponents, withPaths, ofEntries, sharedEntries, soundPaths, malformedPaths,
      Json.Entries.insert, Json.Everywhere, Json.EverywhereEntries, Json.EverywhereItems]
  exact ⟨hkeys, hrefs, independent_withPaths hkeys hrefs⟩

end Document

end TypedClient
