import TypedClient.Proofs.Operation.Slot
import Mathlib.Data.List.Count
import Mathlib.Data.Prod.Lex

/-!
# One outcome for a slot

A slot is filled if the item of its path is an object in which something other than `null` stands under
its method. Each filled slot has either an operation or a warning, an operation if an object with an id
stands there; other slots have neither, and an item that is no object has one warning of its own
(`Settles`). Warnings are counted by their texts: a text tells what was skipped (`Skip.message_injective`).
The operations are in the order of their slots, that is of the paths in the document and then of the
methods.
-/

namespace TypedClient

/-! ## Cutting texts -/

/-- What stands behind the last separator of a text, and what stands before it. -/
theorem Text.append_cons_inj {separator : Char} {front other back more : List Char}
    (h : separator ∉ back) (hmore : separator ∉ more)
    (heq : front ++ separator :: back = other ++ separator :: more) : front = other ∧ back = more := by
  have hreverse : back.reverse ++ separator :: front.reverse =
      more.reverse ++ separator :: other.reverse := by
    simpa using congrArg List.reverse heq
  have hpieces := congrArg (splitFrom separator []) hreverse
  rw [splitFrom_append (by simpa using h), splitFrom_append (by simpa using hmore)] at hpieces
  have hback : back.reverse = more.reverse := (List.cons.inj hpieces).1
  rw [hback] at hreverse
  exact ⟨List.reverse_injective (List.cons.inj (List.append_cancel_left hreverse)).2,
    List.reverse_injective hback⟩

/-! ## Texts of warnings -/

/-- No two methods have one word. -/
theorem Method.word_injective : Function.Injective Method.word := by
  intro method other h
  cases method <;> cases other <;> first | rfl | exact absurd h (by decide)

/-- The pointer of a path tells the path. -/
theorem pathPointer_injective : Function.Injective pathPointer := by
  intro path other h
  have hlists := congrArg String.toList h
  rw [pathPointer, pathPointer, String.toList_append, String.toList_append] at hlists
  exact String.toList_inj.mp (List.append_cancel_left hlists)

/-- No word of a method has a slash in it. -/
theorem Slot.pointer_injective : Function.Injective Slot.pointer := by
  rintro ⟨path, method⟩ ⟨path', method'⟩ h
  have hword (method : Method) : '/' ∉ method.word.toList := by cases method <;> decide
  have hlists : (pathPointer path).toList ++ '/' :: method.word.toList =
      (pathPointer path').toList ++ '/' :: method'.word.toList := by
    simpa [pointer] using congrArg String.toList h
  obtain ⟨hpath, hmethod⟩ := Text.append_cons_inj (hword method) (hword method') hlists
  obtain rfl := pathPointer_injective (String.toList_inj.mp hpath)
  obtain rfl := Method.word_injective (String.toList_inj.mp hmethod)
  rfl

/-- No reason has a colon in it, so a text tells the place and the reason. -/
theorem Skip.message_injective : Function.Injective Skip.message := by
  intro skip other h
  have hreason (skip : Skip) : ':' ∉ ' ' :: skip.reason.toList := by
    cases skip <;> simp [reason]
  have htext (skip : Skip) : skip.message.text.toList =
      ("skipping ".toList ++ skip.pointer.toList) ++ ':' :: ' ' :: skip.reason.toList := by
    simp [message]
  have hlists : skip.message.text.toList = other.message.text.toList := by rw [h]
  rw [htext, htext] at hlists
  obtain ⟨hpointers, hreasons⟩ := Text.append_cons_inj (hreason skip) (hreason other) hlists
  have hpointer : skip.pointer = other.pointer :=
    String.toList_inj.mp (List.append_cancel_left hpointers)
  have hreason : skip.reason = other.reason := String.toList_inj.mp (List.cons.inj hreasons).2
  cases skip <;> cases other
  case item.item => exact congrArg item (pathPointer_injective hpointer)
  case operation.operation => exact congrArg operation (Slot.pointer_injective hpointer)
  case unnamed.unnamed => exact congrArg unnamed (Slot.pointer_injective hpointer)
  all_goals first | rfl | simp [reason] at hreason

/-- The warning is about the slot: what fills it is no object, or has no id. -/
def Slot.isWarned (slot : Slot) (warning : Log.Message) : Bool :=
  warning = (Skip.operation slot).message || warning = (Skip.unnamed slot).message

/-- Whether a message is about a slot can be told from its text. -/
theorem Slot.isWarned_message {slot : Slot} {skip : Skip} :
    slot.isWarned skip.message = decide (skip.slot? = some slot) := by
  simp only [isWarned, Skip.message_injective.eq_iff]
  cases skip <;> simp [Skip.slot?]

/-- The path whose item was skipped, if it was one. -/
def Skip.item? : Skip → Option String
  | item path => some path
  | _ => none

/-! ## Filled slots -/

/-- The item of the slot's path is an object, in which something other than `null` stands under the
method. -/
def IsFilled (paths : Json.Entries) (slot : Slot) : Prop :=
  ∃ item value, (slot.path, Json.object item) ∈ paths ∧ (slot.method.word, value) ∈ item ∧ value ≠ .null

/-- The place of a slot: that of its path in the document, then that of its method. -/
def place (paths : Json.Entries) (slot : Slot) : ℕ ×ₗ ℕ :=
  toLex (paths.keys.idxOf slot.path, Method.all.idxOf slot.method)

/-- Operations and warnings settle the slots of paths. -/
structure Settles (paths : Json.Entries) (ops : List Operation) (warnings : List Log.Message) : Prop where
  /-- A filled slot has an operation or a warning, and only one of them. -/
  filled : ∀ slot, IsFilled paths slot →
    (ops.countP fun op => op.slot = slot) + warnings.countP slot.isWarned = 1
  /-- Another slot has neither. -/
  empty : ∀ slot, ¬ IsFilled paths slot →
    (ops.countP fun op => op.slot = slot) = 0 ∧ warnings.countP slot.isWarned = 0
  /-- There is an operation with an id for a slot if an object stands there that has this id. -/
  named : ∀ slot id, (∃ op ∈ ops, op.slot = slot ∧ op.id = id) ↔
    ∃ item entries, (slot.path, .object item) ∈ paths ∧ (slot.method.word, .object entries) ∈ item ∧
      ("operationId", .string id) ∈ entries ∧ id ≠ ""
  /-- An item that is no object has one warning. -/
  items : ∀ path item, (path, item) ∈ paths → item.entries? = none →
    warnings.count (Skip.item path).message = 1
  /-- There are no other warnings. -/
  warnings : ∀ warning ∈ warnings, (∃ slot : Slot, slot.isWarned warning) ∨
    ∃ path item, (path, item) ∈ paths ∧ item.entries? = none ∧ warning = (Skip.item path).message
  /-- The operations are in the order of their slots. -/
  increasing : ops.Pairwise fun op other => place paths op.slot < place paths other.slot
  /-- No slot has two operations. -/
  nodup : (ops.map Operation.slot).Nodup

namespace Document

variable {doc : Document} {paths : Json.Entries} {slot : Slot}

/-- A slot is filled if its path has an object with an entry for its method. -/
theorem mem_filledSlots {path : String} {item : Json} :
    slot ∈ filledSlots path item ↔
      slot.path = path ∧ ∃ entries, item = .object entries ∧
        ∃ value, Lookup.entry entries slot.method.word = .found value := by
  have hslotsOf : slot ∈ slotsOf path ↔ slot.path = path := by
    refine ⟨path_of_mem_slotsOf, ?_⟩
    rintro rfl
    exact List.mem_map.mpr ⟨slot.method, slot.method.mem_all, rfl⟩
  cases item with
  | object entries =>
    have hentry : (Lookup.entry entries slot.method.word).isMissing = false ↔
        ∃ value, Lookup.entry entries slot.method.word = .found value := by
      rw [Lookup.entry]
      split <;> simp [Lookup.isMissing]
    rw [filledSlots, List.mem_filter, hslotsOf, Bool.not_eq_true', hentry]
    simp
  | _ => simp [filledSlots]

/-- The filled slots are those that the outcomes are about. -/
theorem mem_filledSlots_iff (hkeys : doc.root.DistinctKeys) (hpaths : doc.paths = .found paths) :
    slot ∈ (paths.flatMap fun entry => filledSlots entry.1 entry.2) ↔ IsFilled paths slot := by
  have hnode := isNode_paths hpaths
  rw [List.mem_flatMap]
  constructor
  · rintro ⟨⟨path, item⟩, hmem, hslot⟩
    obtain ⟨rfl, entries, rfl, value, hvalue⟩ := mem_filledSlots.mp hslot
    have hentries := (hnode.of_mem hkeys hmem).nodup_keys hkeys
    exact ⟨entries, value, hmem, (Lookup.entry_eq_found_iff_mem hentries).mp hvalue⟩
  · rintro ⟨entries, value, hmem, hvalue⟩
    have hentries := (hnode.of_mem hkeys hmem).nodup_keys hkeys
    exact ⟨(slot.path, .object entries), hmem, mem_filledSlots.mpr
      ⟨rfl, entries, rfl, value, (Lookup.entry_eq_found_iff_mem hentries).mpr hvalue⟩⟩

/-! ## Counting -/

/-- An outcome that is about a slot is an operation or a warning. -/
theorem countP_add_countP (outcomes : List (Except Skip Operation)) (slot : Slot) :
    ((outcomes.filterMap Operation.ofOutcome?).countP fun op => op.slot = slot) +
        ((outcomes.filterMap Skip.ofOutcome?).countP fun skip => skip.slot? = some slot) =
      (outcomes.filterMap Slot.ofOutcome?).count slot := by
  induction outcomes with
  | nil => rfl
  | cons outcome rest ih =>
    cases outcome with
    | ok op =>
      simp only [List.filterMap_cons, Operation.ofOutcome?, Skip.ofOutcome?, Slot.ofOutcome?,
        List.countP_cons, List.count_cons, beq_iff_eq, decide_eq_true_eq]
      omega
    | error skip =>
      cases hslot : skip.slot? with
      | none =>
        simp only [List.filterMap_cons, Operation.ofOutcome?, Skip.ofOutcome?, Slot.ofOutcome?, hslot,
          List.countP_cons]
        simpa using ih
      | some other =>
        simp only [List.filterMap_cons, Operation.ofOutcome?, Skip.ofOutcome?, Slot.ofOutcome?, hslot,
          List.countP_cons, List.count_cons, beq_iff_eq, decide_eq_true_eq, Option.some.injEq]
        omega

/-- The warnings about a slot are counted among what is skipped. -/
theorem countP_isWarned (doc : Document) (slot : Slot) :
    doc.reportedWarnings.countP slot.isWarned =
      doc.skips.countP fun skip => skip.slot? = some slot := by
  rw [reportedWarnings_eq, List.countP_map]
  exact List.countP_congr fun skip _ => by
    rw [Function.comp, Slot.isWarned_message]

/-! ## Items that are no objects -/

/-- What is skipped in a path is about one of its slots, or about its item. -/
theorem skip_of_mem_pathOutcomes {path : String} {item : Json} {skip : Skip}
    (h : .error skip ∈ doc.pathOutcomes path item) :
    skip.slot?.isSome ∨ item.entries? = none ∧ skip = .item path := by
  cases item with
  | object entries =>
    obtain ⟨method, -, hslot⟩ := List.mem_filterMap.mp h
    have hskip : skip.slot? = some ⟨path, method⟩ := ofOutcome?_of_slotOutcome hslot
    rw [hskip]
    exact .inl rfl
  | _ => exact .inr ⟨rfl, Except.error.inj (List.mem_singleton.mp h)⟩

theorem items_pathOutcomes (doc : Document) (path : String) (item : Json) :
    ((doc.pathOutcomes path item).filterMap Skip.ofOutcome?).filterMap Skip.item? =
      if item.entries?.isNone then [path] else [] := by
  cases item with
  | object entries =>
    refine List.filterMap_eq_nil_iff.mpr fun skip hskip => ?_
    obtain ⟨outcome, houtcome, hof⟩ := List.mem_filterMap.mp hskip
    cases outcome with
    | ok op => cases hof
    | error other =>
      cases hof
      rcases skip_of_mem_pathOutcomes houtcome with hslot | ⟨hitem, -⟩
      · cases skip <;> first | rfl | cases hslot
      · cases hitem
  | _ => rfl

/-- The items that were skipped are those that are no objects, in order. -/
theorem items_outcomesOf (doc : Document) (paths : Json.Entries) :
    ((doc.outcomesOf paths).filterMap Skip.ofOutcome?).filterMap Skip.item? =
      (paths.filter fun entry => entry.2.entries?.isNone).map Prod.fst := by
  induction paths with
  | nil => rfl
  | cons entry rest ih =>
    rw [outcomesOf, List.flatMap_cons, List.filterMap_append, List.filterMap_append, items_pathOutcomes,
      ← outcomesOf, ih, List.filter_cons]
    cases entry.2.entries?.isNone <;> rfl

theorem count_item (skips : List Skip) (path : String) :
    skips.count (.item path) = (skips.filterMap Skip.item?).count path := by
  induction skips with
  | nil => rfl
  | cons skip rest ih =>
    rw [List.filterMap_cons]
    cases skip <;> simp [List.count_cons, Skip.item?, ih]

/-- A path without an object is skipped once. -/
theorem count_item_skips (hkeys : doc.root.DistinctKeys) (hpaths : doc.paths = .found paths)
    {path : String} {item : Json} (hmem : (path, item) ∈ paths) (hitem : item.entries? = none) :
    doc.skips.count (.item path) = 1 := by
  have hnodup : ((paths.filter fun entry => entry.2.entries?.isNone).map Prod.fst).Nodup :=
    (nodup_keys_paths hkeys hpaths).sublist (List.filter_sublist.map Prod.fst)
  have hpath : path ∈ (paths.filter fun entry => entry.2.entries?.isNone).map Prod.fst :=
    List.mem_map.mpr ⟨(path, item), List.mem_filter.mpr ⟨hmem, by simp [hitem]⟩, rfl⟩
  rw [count_item, skips_eq, outcomes_eq hpaths, items_outcomesOf, List.Nodup.count hnodup, if_pos hpath]

/-! ## Order -/

theorem pairwise_idxOf {α : Type} [BEq α] [LawfulBEq α] {list : List α} (h : list.Nodup) :
    list.Pairwise fun a b => list.idxOf a < list.idxOf b := by
  refine List.pairwise_iff_getElem.mpr fun i j hi hj hlt => ?_
  rwa [h.idxOf_getElem i hi, h.idxOf_getElem j hj]

/-- The places of slots follow the order of paths, and of methods in each. -/
theorem pairwise_place (hkeys : (paths.map Prod.fst).Nodup) :
    (paths.flatMap fun entry => slotsOf entry.1).Pairwise fun slot other =>
      place paths slot < place paths other := by
  refine List.pairwise_flatMap.mpr ⟨fun entry _ => ?_, ?_⟩
  · have hmethods : Method.all.Nodup := by decide
    rw [slotsOf, List.pairwise_map]
    refine (pairwise_idxOf hmethods).imp fun {method other} hlt => ?_
    exact Prod.Lex.toLex_lt_toLex.mpr (.inr ⟨rfl, hlt⟩)
  · refine (List.pairwise_map.mp (pairwise_idxOf hkeys)).imp fun hlt slot hslot other hother => ?_
    rw [place, place, path_of_mem_slotsOf hslot, path_of_mem_slotsOf hother]
    exact Prod.Lex.toLex_lt_toLex.mpr (.inl hlt)

/-! ## Documents -/

/-- An operation comes of a slot if its entries have an id that is not empty. -/
theorem exists_operation_iff (hkeys : doc.root.DistinctKeys) {id : String} :
    (∃ op ∈ doc.operations, op.slot = slot ∧ op.id = id) ↔
      ∃ entries, doc.HasEntries slot entries ∧ ("operationId", .string id) ∈ entries ∧ id ≠ "" := by
  have hid {entries : Json.Entries} (h : doc.HasEntries slot entries) :
      Operation.id? entries = some id ↔ ("operationId", .string id) ∈ entries ∧ id ≠ "" :=
    id?_eq_some_iff ((isNode_of_hasEntries hkeys h).nodup_keys hkeys)
  constructor
  · rintro ⟨op, hop, rfl, rfl⟩
    obtain ⟨slot, id, entries, hentries, hsome, rfl⟩ := exists_ofEntries_of_mem hop
    exact ⟨entries, hentries, (hid hentries).mp hsome⟩
  · rintro ⟨entries, hentries, hsome⟩
    exact ⟨_, ofEntries_mem_operations hkeys hentries ((hid hentries).mpr hsome), rfl, rfl⟩

/-- The operations and the warnings of a document settle the slots of its paths. -/
theorem settles (hkeys : doc.root.DistinctKeys) (hpaths : doc.paths = .found paths) :
    Settles paths doc.operations doc.reportedWarnings := by
  have hnodup := nodup_keys_paths hkeys hpaths
  have hfilled : (paths.flatMap fun entry => filledSlots entry.1 entry.2).Nodup :=
    (nodup_slotsOf_paths hnodup).sublist (filledSlots_flatMap_sublist paths)
  -- each slot is counted as often as it is listed among the filled ones
  have hcount (slot : Slot) :
      (doc.operations.countP fun op => op.slot = slot) + doc.reportedWarnings.countP slot.isWarned =
        (paths.flatMap fun entry => filledSlots entry.1 entry.2).count slot := by
    rw [countP_isWarned, ← slots_outcomesOf doc, ← outcomes_eq hpaths]
    exact countP_add_countP doc.outcomes slot
  refine ⟨fun slot hslot => ?_, fun slot hslot => ?_, fun slot id => ?_,
    fun path item hmem hitem => ?_, fun warning hwarning => ?_, ?_, nodup_slots hkeys⟩
  · rw [hcount, hfilled.count, if_pos ((mem_filledSlots_iff hkeys hpaths).mpr hslot)]
  · have hnone := hcount slot
    rw [hfilled.count, if_neg fun hmem => hslot ((mem_filledSlots_iff hkeys hpaths).mp hmem)] at hnone
    omega
  · rw [exists_operation_iff hkeys]
    constructor
    · rintro ⟨entries, ⟨others, item, hothers, hitem, hentries⟩, hid⟩
      obtain rfl : paths = others := Lookup.found.inj (hpaths.symm.trans hothers)
      exact ⟨item, entries, hitem, hentries, hid⟩
    · rintro ⟨item, entries, hitem, hentries, hid⟩
      exact ⟨entries, ⟨paths, item, hpaths, hitem, hentries⟩, hid⟩
  · rw [reportedWarnings_eq, List.count_map_of_injective _ _ Skip.message_injective]
    exact count_item_skips hkeys hpaths hmem hitem
  · rw [reportedWarnings_eq, skips_eq, outcomes_eq hpaths] at hwarning
    obtain ⟨skip, hskip, rfl⟩ := List.mem_map.mp hwarning
    obtain ⟨outcome, houtcome, hof⟩ := List.mem_filterMap.mp hskip
    obtain ⟨⟨path, item⟩, hmem, hpath⟩ := List.mem_flatMap.mp houtcome
    cases outcome with
    | ok op => cases hof
    | error other =>
      cases hof
      rcases skip_of_mem_pathOutcomes hpath with hslot | ⟨hitem, rfl⟩
      · obtain ⟨slot, hslot⟩ := Option.isSome_iff_exists.mp hslot
        exact .inl ⟨slot, by rw [Slot.isWarned_message, hslot]; simp⟩
      · exact .inr ⟨path, item, hmem, hitem, rfl⟩
  · have hslots := (pairwise_place hnodup).sublist (slots_sublist hpaths)
    rwa [List.pairwise_map] at hslots

/-- The paths of a document in which all kinds of slots and items occur. -/
def mixedPaths : Json.Entries :=
  [("/users", .object [("get", .object [("operationId", .string "list")]), ("post", .null),
      ("put", .string "add"), ("delete", .object [("operationId", .string "")]), ("trace", .object [])]),
    ("/users/get", .array [])]

theorem settles_mixedPaths :
    (ofEntries [("paths", .object mixedPaths)]).root.DistinctKeys ∧
      Settles mixedPaths (ofEntries [("paths", .object mixedPaths)]).operations
        (ofEntries [("paths", .object mixedPaths)]).reportedWarnings := by
  have hkeys : (ofEntries [("paths", .object mixedPaths)]).root.DistinctKeys := by
    simp [ofEntries, mixedPaths, Json.DistinctKeys, Json.DistinctKeysEntries, Json.DistinctKeysItems]
  exact ⟨hkeys, settles hkeys rfl⟩

end Document

end TypedClient
