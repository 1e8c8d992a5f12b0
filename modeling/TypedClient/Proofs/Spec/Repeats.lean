import TypedClient.Proofs.Operation.Index
import TypedClient.Proofs.Spec.Agreement

/-!
# Ids that occur twice

The check of a document reports an id that an earlier operation has, once for each operation it occurs at
again: at that operation, and with the place of the first one (`Issue.ofRepeat`). So many operations have no
place of their own in the index, and if there are none the index is the list of operations
(`Document.duplicates_eq_repeats`).
-/

namespace TypedClient

namespace Operation

variable {known ops : List Operation} {op : Operation} {index : Index}

theorem repeat?_eq_none_iff : repeat? known op = none ↔ op.id ∉ known.map Operation.id := by
  simp [repeat?]

/-- An operation is in the index or repeats an id. -/
theorem length_repeatsAfter_add (hknown : ∀ id, id ∈ index.ids ↔ id ∈ known.map Operation.id) :
    (repeatsAfter known ops).length + (ops.foldl Index.insert index).length =
      index.length + ops.length := by
  induction ops generalizing known index with
  | nil => simp [repeatsAfter]
  | cons op rest ih =>
    have hnext : ∀ id, id ∈ (index.insert op).ids ↔ id ∈ (known ++ [op]).map Operation.id := by
      intro id
      rw [Index.mem_ids_insert, hknown]
      simp
    have hrest := ih hnext
    rw [Index.length_insert] at hrest
    rw [repeatsAfter, List.length_append, List.foldl_cons, List.length_cons]
    -- an operation counts on the left either way, as an issue or as a new place
    by_cases hop : op.id ∈ index.ids
    · have hsome : ∃ issue, repeat? known op = some issue := by
        rw [← Option.ne_none_iff_exists', Ne, repeat?_eq_none_iff, not_not, ← hknown]
        exact hop
      obtain ⟨issue, hissue⟩ := hsome
      rw [if_pos hop] at hrest
      rw [hissue, Option.toList_some, List.length_singleton]
      omega
    · have hnone : repeat? known op = none := by
        rw [repeat?_eq_none_iff, ← hknown]
        exact hop
      rw [if_neg hop] at hrest
      rw [hnone, Option.toList_none, List.length_nil]
      omega

/-- Operations without repeated ids have different ones, and the index holds them as they are. -/
theorem nodup_of_repeatsAfter (h : repeatsAfter known ops = []) :
    (∀ op ∈ ops, op.id ∉ known.map Operation.id) ∧ (ops.map Operation.id).Nodup ∧
      ops.foldl Index.insert known = known ++ ops := by
  induction ops generalizing known with
  | nil => simp
  | cons op rest ih =>
    rw [repeatsAfter, List.append_eq_nil_iff, Option.toList_eq_nil_iff, repeat?_eq_none_iff] at h
    obtain ⟨hnew, hrest⟩ := h
    obtain ⟨hothers, hnodup, hfold⟩ := ih hrest
    refine ⟨List.forall_mem_cons.mpr ⟨hnew, fun other hmem hid => ?_⟩, ?_, ?_⟩
    · exact hothers other hmem (by simp [hid])
    · rw [List.map_cons, List.nodup_cons]
      refine ⟨fun hmem => ?_, hnodup⟩
      obtain ⟨other, hother, hid⟩ := List.mem_map.mp hmem
      exact hothers other hother (by simp [hid])
    · rw [List.foldl_cons, Index.insert_of_not_mem hnew, hfold, List.append_assoc, List.singleton_append]

/-- The operations that have the id of an earlier one, in order, each with the first that has the id. -/
def repeats (ops : List Operation) : List (Operation × Operation) :=
  ops.zipIdx.filterMap fun (op, place) =>
    ((ops.take place).find? fun other => other.id = op.id).map fun first => (op, first)

/-- Each operation is compared with those in front of it. -/
theorem repeatsAfter_eq (known ops : List Operation) :
    repeatsAfter known ops = (ops.zipIdx known.length).filterMap fun (op, place) =>
      repeat? ((known ++ ops).take place) op := by
  induction ops generalizing known with
  | nil => rfl
  | cons op rest ih =>
    rw [repeatsAfter, List.zipIdx_cons, ih, List.length_append, List.length_singleton]
    have hassoc : known ++ [op] ++ rest = known ++ op :: rest := by simp
    rw [hassoc]
    cases hop : repeat? known op <;> simp [hop]

end Operation

/-- How it is reported that an operation has the id of an earlier one, the first with that id. -/
def Issue.ofRepeat (repeated : Operation × Operation) : Issue :=
  .duplicate repeated.1.slot repeated.1.id repeated.2.slot

theorem Operation.repeatsAfter_nil (ops : List Operation) :
    repeatsAfter [] ops = (repeats ops).map Issue.ofRepeat := by
  rw [repeatsAfter_eq, repeats, List.map_filterMap]
  refine List.filterMap_congr ?_
  rintro ⟨op, place⟩ -
  dsimp only
  rw [repeat?, Option.map_map]
  rfl

namespace Document

open Operation (repeats repeatsAfter)

theorem filter_isDuplicate_issues (doc : Document) :
    doc.issues.filter Issue.isDuplicate = repeatsAfter [] doc.operations := by
  obtain ⟨root⟩ := doc
  cases root with
  | object entries =>
    obtain ⟨later, hagrees⟩ := exists_agrees_issues entries
    exact hagrees.repeats [] fun id => rfl
  -- other documents have one issue and no operations
  | null => rfl
  | bool value => rfl
  | number value => rfl
  | string value => rfl
  | array items => rfl

/-- A repeated id is an error. -/
theorem severity_of_isDuplicate {issue : Issue} (h : issue.isDuplicate) : issue.severity = .error := by
  cases issue <;> first | rfl | simp [Issue.isDuplicate] at h

/-- What the check of a document says of the operations that have the id of an earlier one. -/
structure ReportsRepeats (doc : Document) : Prop where
  /-- There is one issue for each of them, in order. -/
  issues : doc.issues.filter Issue.isDuplicate = (repeats doc.operations).map Issue.ofRepeat
  errors : ∀ issue ∈ doc.issues, issue.isDuplicate → issue.severity = .error
  /-- Each issue lies at the slot of its operation. -/
  pointers : (doc.issues.filter Issue.isDuplicate).map Issue.pointer =
    (repeats doc.operations).map fun (op, _) => op.slot.pointer
  /-- Each issue tells the id and the slot of the first operation that has it. -/
  messages : (doc.issues.filter Issue.isDuplicate).map Issue.message =
    (repeats doc.operations).map fun (op, first) =>
      "duplicate operationId `" ++ op.id ++ "`, first declared at " ++ first.slot.pointer
  /-- There are as many as the index is shorter than the list of operations. -/
  count : (doc.issues.filter Issue.isDuplicate).length + (Operation.Index.ofList doc.operations).length =
    doc.operations.length
  /-- Without errors all ids are different, and the index is the list of operations. -/
  distinct : Issue.errors doc.issues = [] → (doc.operations.map Operation.id).Nodup ∧
    Operation.Index.ofList doc.operations = doc.operations

/-- The check reports each operation whose id an earlier one has, in order and with the first one that has
it, so a document without errors loses no operation to another one with the same id. -/
theorem duplicates_eq_repeats (doc : Document) : ReportsRepeats doc := by
  have hissues : doc.issues.filter Issue.isDuplicate = (repeats doc.operations).map Issue.ofRepeat := by
    rw [filter_isDuplicate_issues, Operation.repeatsAfter_nil]
  refine ⟨hissues, fun issue _ => severity_of_isDuplicate, ?_, ?_, ?_, fun hnone => ?_⟩
  · rw [hissues, List.map_map]
    rfl
  · rw [hissues, List.map_map]
    rfl
  · have hids : ∀ id, id ∈ Operation.Index.ids [] ↔ id ∈ List.map Operation.id [] := fun id => Iff.rfl
    rw [filter_isDuplicate_issues, Operation.Index.ofList, Operation.length_repeatsAfter_add hids]
    exact Nat.zero_add _
  · have hduplicates : doc.issues.filter Issue.isDuplicate = [] := by
      refine List.filter_eq_nil_iff.mpr fun issue hmem hduplicate => ?_
      have hnot := List.filter_eq_nil_iff.mp hnone issue hmem
      simp [severity_of_isDuplicate hduplicate] at hnot
    rw [filter_isDuplicate_issues] at hduplicates
    obtain ⟨-, hnodup, hindex⟩ := Operation.nodup_of_repeatsAfter hduplicates
    exact ⟨hnodup, hindex⟩

/-- The operations of a document without errors have ids of their own. -/
theorem duplicates_eq_repeats_clean :
    ((ofEntries cleanEntries).operations.map Operation.id).Nodup :=
  ((duplicates_eq_repeats (ofEntries cleanEntries)).distinct (by decide +kernel)).1

end Document

end TypedClient
