import TypedClient.Operation.Change
import TypedClient.Proofs.Operation.Index

/-!
# The difference between two lists of operations

Two lists are compared by their indexes. What comes out can be told from the lists alone
(`Difference.Classifies`): for each id the last operation counts that has it. An id of one list only was
added or removed, and one of both lists was modified if the two operations differ in a field that counts.
So no id is in two groups, and the comparison the other way round swaps what was added and removed and
finds the same modifications (`Index.difference_classifies`).
-/

namespace TypedClient.Operation

variable {ops old new : List Operation} {index : Index} {op before after : Operation} {id : String}

/-- The last operation with an id. -/
def last? (ops : List Operation) (id : String) : Option Operation :=
  ops.reverse.find? fun op => op.id = id

/-- The last operation of an id is the one at the end, if that has the id. -/
theorem last?_concat (ops : List Operation) (op : Operation) (id : String) :
    last? (ops ++ [op]) id = if op.id = id then some op else last? ops id := by
  by_cases h : op.id = id <;> simp [last?, h]

/-! ## Fields -/

/-- The fields whose change counts, in the order in which they are listed. -/
def Field.all : List Field :=
  [.method, .path, .body, .summary]

/-- Whether two operations differ in a field. -/
def Field.differs (before after : Operation) : Field → Bool
  | method => before.method ≠ after.method
  | path => before.path ≠ after.path
  | body => before.hasBody ≠ after.hasBody
  | summary => before.summary ≠ after.summary

/-- A field differs in both directions. -/
theorem Field.differs_comm (before after : Operation) :
    Field.differs before after = Field.differs after before := by
  funext field
  cases field <;> simp only [Field.differs, ne_comm]

/-- The changes are the fields that differ, in their order. -/
theorem changes_eq (before after : Operation) :
    before.changes after = Field.all.filter (Field.differs before after) := by
  simp only [changes, Field.all, List.filter_cons, List.filter_nil, Field.differs, decide_eq_true_eq,
    ne_eq, ite_not]
  split_ifs <;> rfl

/-! ## Lookups -/

namespace Index

/-- Inserting an operation changes what is found under its id only. -/
theorem get?_insert (index : Index) (op : Operation) (id : String) :
    (index.insert op).get? id = if op.id = id then some op else index.get? id := by
  induction index with
  | nil => by_cases h : op.id = id <;> simp [insert, get?, h]
  | cons known rest ih =>
    rw [insert]
    split
    next heq => by_cases h : op.id = id <;> simp [get?, heq, h]
    next hne =>
      -- the operation goes further back, and one that is found before has another id
      by_cases hknown : known.id = id
      · have hop : op.id ≠ id := fun h => hne (hknown.trans h.symm)
        simp [get?, hknown, hop]
      · simpa [get?, hknown] using ih

/-- The index of a list has the last operation for each id. -/
theorem get?_ofList (ops : List Operation) (id : String) : (ofList ops).get? id = last? ops id := by
  induction ops using List.reverseRecOn with
  | nil => rfl
  | append_singleton ops op ih => rw [ofList_concat, get?_insert, ih, last?_concat]

/-- With different ids, what is found is the operation with the id. -/
theorem get?_eq_some_iff (h : index.ids.Nodup) :
    index.get? id = some op ↔ op ∈ index ∧ op.id = id := by
  constructor
  · intro hfound
    exact ⟨List.mem_of_find?_eq_some hfound, by simpa using List.find?_some hfound⟩
  · rintro ⟨hmem, rfl⟩
    cases hfound : index.get? op.id with
    | none => simpa using List.find?_eq_none.mp hfound op hmem
    | some other =>
      have hid : other.id = op.id := by simpa using List.find?_some hfound
      rw [List.inj_on_of_nodup_map h (List.mem_of_find?_eq_some hfound) hmem hid]

theorem isNone_get?_ofList (ops : List Operation) (id : String) :
    ((ofList ops).get? id).isNone = decide (id ∉ ops.map Operation.id) := by
  rw [get?_ofList, last?, Bool.eq_iff_iff]
  simp

/-- The ids in one list only are in the order in which they first occur there. -/
theorem onlyIn_ofList (these others : List Operation) :
    (ofList these).onlyIn (ofList others) =
      (these.map Operation.id).eraseDups.filter (· ∉ others.map Operation.id) := by
  simp only [onlyIn, ids_ofList, isNone_get?_ofList]

end Index

/-! ## The groups -/

/-- What a difference has to say of two lists of operations. -/
structure Difference.Classifies (difference : Difference) (old new : List Operation) : Prop where
  /-- Added are the ids that only the new list has, in the order in which they first occur there. -/
  added : difference.added =
    (new.map Operation.id).eraseDups.filter (· ∉ old.map Operation.id)
  /-- Removed are the ids that only the old list has, in the order in which they first occur there. -/
  removed : difference.removed =
    (old.map Operation.id).eraseDups.filter (· ∉ new.map Operation.id)
  /-- Modified are the ids of both whose last operations differ, with the fields in which they do. -/
  modified : ∀ id fields, ⟨id, fields⟩ ∈ difference.modified ↔
    ∃ before after, last? old id = some before ∧ last? new id = some after ∧
      fields = Field.all.filter (Field.differs before after) ∧ fields ≠ []
  /-- No id is modified twice. -/
  once : (difference.modified.map Modification.id).Nodup

namespace Difference.Classifies

variable {difference back : Difference} (h : difference.Classifies old new)

include h

theorem mem_added : id ∈ difference.added ↔ id ∈ new.map Operation.id ∧ id ∉ old.map Operation.id := by
  rw [h.added, List.mem_filter, List.mem_eraseDups, decide_eq_true_eq]

theorem mem_removed :
    id ∈ difference.removed ↔ id ∈ old.map Operation.id ∧ id ∉ new.map Operation.id := by
  rw [h.removed, List.mem_filter, List.mem_eraseDups, decide_eq_true_eq]

/-- What was modified is in both lists. -/
theorem mem_of_modified (hid : id ∈ difference.modified.map Modification.id) :
    id ∈ old.map Operation.id ∧ id ∈ new.map Operation.id := by
  obtain ⟨⟨id, fields⟩, hmem, rfl⟩ := List.mem_map.mp hid
  obtain ⟨before, after, hold, hnew, -⟩ := (h.modified id fields).mp hmem
  have hlisted : ∀ {ops op}, last? ops id = some op → id ∈ ops.map Operation.id := by
    intro ops op hlast
    have hid : op.id = id := by simpa using List.find?_some hlast
    exact hid ▸ List.mem_map_of_mem (List.mem_reverse.mp (List.mem_of_find?_eq_some hlast))
  exact ⟨hlisted hold, hlisted hnew⟩

/-- No id is in two groups, or twice in one. -/
theorem nodup_ids :
    (difference.added ++ difference.removed ++ difference.modified.map Modification.id).Nodup := by
  have hadded : difference.added.Nodup := by
    rw [h.added, ← Index.ids_ofList]
    exact (Index.nodup_ids_ofList new).filter _
  have hremoved : difference.removed.Nodup := by
    rw [h.removed, ← Index.ids_ofList]
    exact (Index.nodup_ids_ofList old).filter _
  refine List.Nodup.append (List.Nodup.append hadded hremoved ?_) h.once ?_
  · intro id hid hid'
    exact (h.mem_added.mp hid).2 (h.mem_removed.mp hid').1
  · intro id hid hid'
    obtain ⟨hold, hnew⟩ := h.mem_of_modified hid'
    rcases List.mem_append.mp hid with hid | hid
    · exact (h.mem_added.mp hid).2 hold
    · exact (h.mem_removed.mp hid).2 hnew

/-- The other way round, what was added and removed is swapped, and the same was modified. -/
theorem swap (hback : back.Classifies new old) :
    back.added = difference.removed ∧ back.removed = difference.added ∧
      ∀ entry, entry ∈ back.modified ↔ entry ∈ difference.modified := by
  refine ⟨hback.added.trans h.removed.symm, hback.removed.trans h.added.symm, ?_⟩
  rintro ⟨id, fields⟩
  rw [hback.modified, h.modified, exists_comm]
  refine exists_congr fun before => exists_congr fun after => ?_
  rw [Field.differs_comm after before]
  exact and_left_comm

end Difference.Classifies

namespace Index

/-- What was modified, told by the operations that two indexes have for an id. -/
theorem modification?_eq_some_iff {entry : Modification} :
    modification? index op = some entry ↔
      ∃ before, index.get? op.id = some before ∧ entry = ⟨op.id, before.changes op⟩ ∧
        entry.fields ≠ [] := by
  unfold modification?
  split
  next hnone => simp [hnone]
  next before hfound =>
    simp only [hfound, Option.some.injEq, exists_eq_left']
    split
    next hsame =>
      simp only [hsame, reduceCtorEq, false_iff, not_and]
      rintro rfl
      simp
    next hdiffer =>
      rw [Option.some.injEq, eq_comm]
      refine ⟨fun heq => ⟨heq, ?_⟩, fun heq => heq.1⟩
      rw [heq]
      exact hdiffer

/-- The ids of what was modified stand as in the new index. -/
theorem sublist_modified (old new : Index) :
    ((old.difference new).modified.map Modification.id).Sublist new.ids := by
  rw [difference]
  dsimp only
  induction new with
  | nil => exact List.Sublist.refl _
  | cons op rest ih =>
    rw [List.filterMap_cons]
    split
    next => exact ih.cons _
    next entry hentry =>
      obtain ⟨_, _, rfl, _⟩ := modification?_eq_some_iff.mp hentry
      exact ih.cons_cons _

theorem classifies_difference (old new : List Operation) :
    ((ofList old).difference (ofList new)).Classifies old new where
  added := onlyIn_ofList new old
  removed := onlyIn_ofList old new
  modified id fields := by
    rw [difference, List.mem_filterMap]
    simp only [modification?_eq_some_iff, Modification.mk.injEq, get?_ofList, changes_eq]
    constructor
    · rintro ⟨after, hmem, before, hbefore, ⟨rfl, hfields⟩, hne⟩
      have hafter := (get?_eq_some_iff (nodup_ids_ofList new)).mpr ⟨hmem, rfl⟩
      rw [get?_ofList] at hafter
      exact ⟨before, after, hbefore, hafter, hfields, hne⟩
    · rintro ⟨before, after, hbefore, hafter, hfields, hne⟩
      rw [← get?_ofList, get?_eq_some_iff (nodup_ids_ofList new)] at hafter
      obtain ⟨hmem, rfl⟩ := hafter
      exact ⟨after, hmem, before, hbefore, ⟨rfl, hfields⟩, hne⟩
  once := (nodup_ids_ofList new).sublist (sublist_modified _ _)

/-- The difference of two lists of operations classifies all ids, puts none into two groups, and agrees
with the difference the other way round. -/
theorem difference_classifies (old new : List Operation) :
    let forth := (ofList old).difference (ofList new)
    let back := (ofList new).difference (ofList old)
    forth.Classifies old new ∧
      (forth.added ++ forth.removed ++ forth.modified.map Modification.id).Nodup ∧
      back.added = forth.removed ∧ back.removed = forth.added ∧
      ∀ entry, entry ∈ back.modified ↔ entry ∈ forth.modified := by
  have hforth := classifies_difference old new
  exact ⟨hforth, hforth.nodup_ids, hforth.swap (classifies_difference new old)⟩

end Index

end TypedClient.Operation
