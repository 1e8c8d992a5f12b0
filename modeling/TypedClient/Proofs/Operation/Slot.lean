import TypedClient.Proofs.Spec.Agreement
import TypedClient.Proofs.Spec.Node

/-!
# Slots of operations

The outcomes of a document are about its filled slots, each of them once and in order
(`Document.slots_outcomesOf`). The paths have different keys, and the slots of one path have different
methods, so no two operations fill one slot (`Document.nodup_slots`). Each operation is made from an object
with an id, and from each such object one is made (`Document.exists_ofEntries_of_mem`,
`Document.ofEntries_mem_operations`). File fields are only read off a body that is sent as a form
(`Document.isMultipart_of_fileFields`).
-/

namespace TypedClient

/-- The slot that was skipped, if it was one. -/
def Skip.slot? : Skip → Option Slot
  | operation slot => some slot
  | unnamed slot => some slot
  | _ => none

/-- The slot that an outcome is about. -/
def Slot.ofOutcome? : Except Skip Operation → Option Slot
  | .ok op => some op.slot
  | .error skip => skip.slot?

/-- The slots of the operations are those of the outcomes, some left out. -/
theorem sublist_ofOutcome? (outcomes : List (Except Skip Operation)) :
    ((outcomes.filterMap Operation.ofOutcome?).map Operation.slot).Sublist
      (outcomes.filterMap Slot.ofOutcome?) := by
  induction outcomes with
  | nil => exact .slnil
  | cons outcome rest ih =>
    cases outcome with
    | ok op => exact ih.cons_cons op.slot
    | error skip =>
      cases hslot : Slot.ofOutcome? (.error skip) with
      | none =>
        rw [List.filterMap_cons_none (f := Slot.ofOutcome?) hslot]
        exact ih
      | some slot =>
        rw [List.filterMap_cons_some (f := Slot.ofOutcome?) hslot]
        exact ih.cons slot

theorem Method.mem_all (method : Method) : method ∈ Method.all := by
  cases method <;> decide

namespace Document

variable {doc : Document} {op : Operation} {paths : Json.Entries}

/-- The outcomes of paths, in order. -/
def outcomesOf (doc : Document) (paths : Json.Entries) : List (Except Skip Operation) :=
  paths.flatMap fun entry => doc.pathOutcomes entry.1 entry.2

/-- The outcomes of a document are those of its paths. -/
theorem outcomes_eq (h : doc.paths = .found paths) : doc.outcomes = doc.outcomesOf paths := by
  rw [outcomes, h]
  rfl

theorem operations_eq (doc : Document) : doc.operations = doc.outcomes.filterMap Operation.ofOutcome? :=
  rfl

/-- No path stands twice. -/
theorem nodup_keys_paths (hkeys : doc.root.DistinctKeys) (h : doc.paths = .found paths) :
    (paths.map Prod.fst).Nodup :=
  (isNode_paths h).nodup_keys hkeys

/-! ## One operation for a slot -/

/-- The slots of a path. -/
def slotsOf (path : String) : List Slot :=
  Method.all.map (Slot.mk path)

/-- The slots of a path that are filled: something other than `null` stands there in the item. -/
def filledSlots (path : String) : Json → List Slot
  | .object item => (slotsOf path).filter fun slot => !(Lookup.entry item slot.method.word).isMissing
  | _ => []

/-- The slots of a path are different. -/
theorem nodup_slotsOf (path : String) : (slotsOf path).Nodup := by
  have hmethods : Method.all.Nodup := by decide
  exact hmethods.map fun method other h => (Slot.mk.inj h).2

theorem path_of_mem_slotsOf {path : String} {slot : Slot} (h : slot ∈ slotsOf path) :
    slot.path = path := by
  obtain ⟨method, -, rfl⟩ := List.mem_map.mp h
  rfl

theorem filledSlots_sublist (path : String) (item : Json) :
    (filledSlots path item).Sublist (slotsOf path) := by
  rw [filledSlots.eq_def]
  split
  · exact List.filter_sublist
  · exact List.nil_sublist _

/-- The outcome of a slot is about this slot. -/
theorem ofOutcome?_of_slotOutcome {item : Json.Entries} {slot : Slot}
    {outcome : Except Skip Operation} (h : doc.slotOutcome item slot = some outcome) :
    Slot.ofOutcome? outcome = some slot := by
  rw [slotOutcome] at h
  split at h
  · cases h
  · cases h
    rfl
  · split at h <;> cases h <;> rfl

/-- A filled slot has an outcome, and other slots have none. -/
theorem slotOutcome_bind_slot (doc : Document) (item : Json.Entries) (slot : Slot) :
    (doc.slotOutcome item slot).bind Slot.ofOutcome? =
      if (Lookup.entry item slot.method.word).isMissing then none else some slot := by
  rw [slotOutcome]
  cases Lookup.entry item slot.method.word with
  | missing => rfl
  | misshapen value => rfl
  | found value =>
    cases value with
    | object entries =>
      dsimp only [Lookup.object, Lookup.narrow, Json.entries?, Lookup.isMissing]
      cases Operation.id? entries <;> rfl
    | _ => rfl

/-- There is one outcome for each filled slot of a path. -/
theorem slots_pathOutcomes (doc : Document) (path : String) (item : Json) :
    (doc.pathOutcomes path item).filterMap Slot.ofOutcome? = filledSlots path item := by
  rw [pathOutcomes.eq_def, filledSlots.eq_def]
  cases item with
  | object entries =>
    dsimp only
    rw [slotsOf, List.filterMap_filterMap]
    generalize Method.all = methods
    induction methods with
    | nil => rfl
    | cons method rest ih =>
      rw [List.filterMap_cons, slotOutcome_bind_slot, List.map_cons, List.filter_cons, ih]
      cases (Lookup.entry entries (Slot.mk path method).method.word).isMissing <;> rfl
  | _ => rfl

/-- The outcomes of paths are about the filled slots, each once and in order. -/
theorem slots_outcomesOf (doc : Document) (paths : Json.Entries) :
    (doc.outcomesOf paths).filterMap Slot.ofOutcome? =
      paths.flatMap fun entry => filledSlots entry.1 entry.2 := by
  rw [outcomesOf, List.filterMap_flatMap]
  exact List.flatMap_congr fun entry _ => slots_pathOutcomes doc entry.1 entry.2

theorem filledSlots_flatMap_sublist (paths : Json.Entries) :
    (paths.flatMap fun entry => filledSlots entry.1 entry.2).Sublist
      (paths.flatMap fun entry => slotsOf entry.1) := by
  induction paths with
  | nil => exact .slnil
  | cons entry rest ih =>
    rw [List.flatMap_cons, List.flatMap_cons]
    exact (filledSlots_sublist entry.1 entry.2).append ih

/-- The operations of a document are in the order of its slots. -/
theorem slots_sublist (hpaths : doc.paths = .found paths) :
    (doc.operations.map Operation.slot).Sublist (paths.flatMap fun entry => slotsOf entry.1) := by
  have hslots := sublist_ofOutcome? doc.outcomes
  rw [← operations_eq, outcomes_eq hpaths, slots_outcomesOf] at hslots
  exact hslots.trans (filledSlots_flatMap_sublist paths)

/-- No slot stands twice. -/
theorem nodup_slotsOf_paths (hkeys : (paths.map Prod.fst).Nodup) :
    (paths.flatMap fun entry => slotsOf entry.1).Nodup := by
  refine List.nodup_flatMap.mpr ⟨fun entry _ => nodup_slotsOf entry.1, ?_⟩
  refine (List.pairwise_map.mp hkeys).imp fun hne slot hslot hother => ?_
  exact hne ((path_of_mem_slotsOf hslot).symm.trans (path_of_mem_slotsOf hother))

/-- A document has at most one operation for each method of each path. -/
theorem nodup_slots (hkeys : doc.root.DistinctKeys) : (doc.operations.map Operation.slot).Nodup := by
  cases hpaths : doc.paths with
  | found paths =>
    exact (slots_sublist hpaths).nodup (nodup_slotsOf_paths (nodup_keys_paths hkeys hpaths))
  | missing =>
    rw [operations, outcomes, hpaths]
    exact List.nodup_nil
  | misshapen value =>
    rw [operations, outcomes, hpaths]
    exact List.nodup_nil

/-! ## What operations are made from -/

theorem mem_outcomes_of_mem (h : op ∈ doc.operations) : .ok op ∈ doc.outcomes := by
  obtain ⟨outcome, houtcome, hop⟩ := List.mem_filterMap.mp h
  cases outcome with
  | ok other => exact Option.some.inj hop ▸ houtcome
  | error skip => cases hop

/-- An operation object with these entries fills the slot. -/
def HasEntries (doc : Document) (slot : Slot) (entries : Json.Entries) : Prop :=
  ∃ paths item, doc.paths = .found paths ∧ (slot.path, .object item) ∈ paths ∧
    (slot.method.word, .object entries) ∈ item

/-- The entries of a slot are a node of the document. -/
theorem isNode_of_hasEntries {slot : Slot} {entries : Json.Entries} (hkeys : doc.root.DistinctKeys)
    (h : doc.HasEntries slot entries) : doc.IsNode (.object entries) := by
  obtain ⟨paths, item, hpaths, hitem, hentries⟩ := h
  exact ((isNode_paths hpaths).of_mem hkeys hitem).of_mem hkeys hentries

/-- What the operations of a document are made from. -/
theorem exists_ofEntries_of_mem (h : op ∈ doc.operations) :
    ∃ slot id entries, doc.HasEntries slot entries ∧ Operation.id? entries = some id ∧
      op = .ofEntries doc slot id entries := by
  have houtcome := mem_outcomes_of_mem h
  rw [outcomes] at houtcome
  split at houtcome
  next paths hpaths =>
    obtain ⟨⟨path, item⟩, hitem, hpath⟩ := List.mem_flatMap.mp houtcome
    dsimp only at hpath
    rw [pathOutcomes.eq_def] at hpath
    split at hpath
    next item =>
      obtain ⟨method, -, hslot⟩ := List.mem_filterMap.mp hpath
      rw [slotOutcome] at hslot
      split at hslot
      · cases hslot
      · cases hslot
      next entries hentries =>
        rw [Lookup.object_eq_found_iff, Lookup.entry_eq_found_iff] at hentries
        split at hslot
        · cases hslot
        next id hid =>
          cases hslot
          exact ⟨⟨path, method⟩, id, entries,
            ⟨paths, item, hpaths, hitem, Json.mem_of_get? hentries.1⟩, hid, rfl⟩
    next => cases List.mem_singleton.mp hpath
  next => cases houtcome
  next => cases List.mem_singleton.mp houtcome

/-- An operation has an id if a string that is not empty stands there. -/
theorem id?_eq_some_iff {entries : Json.Entries} {id : String} (hkeys : (entries.map Prod.fst).Nodup) :
    Operation.id? entries = some id ↔ ("operationId", .string id) ∈ entries ∧ id ≠ "" := by
  have hentry : (Lookup.entry entries "operationId").string = .found id ↔
      ("operationId", .string id) ∈ entries := by
    rw [Lookup.string_eq_found_iff, Lookup.entry_eq_found_iff_mem hkeys]
    exact and_iff_left nofun
  rw [Operation.id?, ← hentry]
  cases (Lookup.entry entries "operationId").string with
  | found other =>
    by_cases hempty : other = ""
    · subst hempty
      simp only [if_true, Lookup.found.injEq, reduceCtorEq, false_iff, not_and, not_not]
      exact Eq.symm
    · simp only [if_neg hempty, Option.some.injEq, Lookup.found.injEq, iff_self_and]
      rintro rfl
      exact hempty
  | _ => simp

/-- An operation object with an id is extracted. -/
theorem ofEntries_mem_operations {slot : Slot} {entries : Json.Entries} {id : String}
    (hkeys : doc.root.DistinctKeys) (h : doc.HasEntries slot entries)
    (hid : Operation.id? entries = some id) : .ofEntries doc slot id entries ∈ doc.operations := by
  obtain ⟨paths, item, hpaths, hitem, hentries⟩ := h
  have hdistinct := ((isNode_paths hpaths).of_mem hkeys hitem).nodup_keys hkeys
  have houtcome : doc.slotOutcome item slot = some (.ok (.ofEntries doc slot id entries)) := by
    have hlookup : (Lookup.entry item slot.method.word).object = .found entries :=
      Lookup.object_eq_found_iff.mpr ((Lookup.entry_eq_found_iff_mem hdistinct).mpr ⟨hentries, nofun⟩)
    rw [slotOutcome, hlookup]
    dsimp only
    rw [hid]
  rw [operations_eq, outcomes_eq hpaths]
  refine List.mem_filterMap.mpr ⟨.ok _, List.mem_flatMap.mpr ⟨_, hitem, ?_⟩, rfl⟩
  exact List.mem_filterMap.mpr ⟨slot.method, slot.method.mem_all, houtcome⟩

/-! ## File fields -/

/-- File fields are read off forms only. -/
theorem isMultipart_of_fileFields (h : op ∈ doc.operations) (hfields : op.fileFields ≠ []) :
    op.isMultipart := by
  obtain ⟨slot, id, entries, -, -, rfl⟩ := exists_ofEntries_of_mem h
  have hbody (hfields : (Operation.body doc entries).2 ≠ []) :
      (Operation.body doc entries).1 = some Operation.multipartType := by
    unfold Operation.body at hfields ⊢
    cases hcontent : Operation.content? doc entries with
    | none => simp [hcontent] at hfields
    | some content =>
      cases htype : Operation.preferredType content with
      | none => simp [hcontent, htype] at hfields
      | some type =>
        by_cases hform : type = Operation.multipartType
        · simp [htype, hform]
        · simp [hcontent, htype, hform] at hfields
  by_cases hdeclares : Operation.declaresBody entries
  · have hfields' : (Operation.body doc entries).2 ≠ [] := by
      simpa [Operation.ofEntries, hdeclares] using hfields
    simpa [Operation.isMultipart, Operation.ofEntries, hdeclares] using hbody hfields'
  · simp [Operation.ofEntries, hdeclares] at hfields

end Document

end TypedClient
