import TypedClient.Operation.Index
import Mathlib.Data.List.Induction
import Mathlib.Data.List.Nodup

/-!
# The index of operations

What it does to the ids of an index when an operation is added: an id that is known stays where it is,
a new one goes to the end. So the index of a list has every id where it first occurs
(`ids_ofList`), with the last operation of that id (`mem_ofList`).
-/

namespace TypedClient.Operation.Index

variable {index : Index} {op : Operation}

theorem insert_of_mem (h : op.id ∈ index.ids) : (index.insert op).ids = index.ids := by
  induction index with
  | nil => exact absurd h List.not_mem_nil
  | cons known rest ih =>
    rw [insert]
    split
    next heq => simp [ids, heq]
    next hne =>
      have hrest : op.id ∈ ids rest := (List.mem_cons.mp h).resolve_left (Ne.symm hne)
      simpa [ids] using ih hrest

theorem insert_of_not_mem (h : op.id ∉ index.ids) : index.insert op = index ++ [op] := by
  induction index with
  | nil => rfl
  | cons known rest ih =>
    have hne : ¬ known.id = op.id := fun heq => h (by simp [ids, heq])
    have hrest : op.id ∉ ids rest := fun hmem => h (List.mem_cons_of_mem _ hmem)
    rw [insert, if_neg hne, ih hrest]
    rfl

theorem mem_ids_insert {id : String} : id ∈ (index.insert op).ids ↔ id ∈ index.ids ∨ id = op.id := by
  by_cases h : op.id ∈ index.ids
  · rw [insert_of_mem h]
    refine ⟨.inl, fun hid => hid.elim (fun hmem => hmem) ?_⟩
    rintro rfl
    exact h
  · rw [insert_of_not_mem h]
    simp [ids]

theorem length_insert (index : Index) (op : Operation) :
    (index.insert op).length = if op.id ∈ index.ids then index.length else index.length + 1 := by
  split
  next h =>
    have hids := congrArg List.length (insert_of_mem h)
    simpa [ids] using hids
  next h => simp [insert_of_not_mem h]

theorem nodup_ids_insert (h : index.ids.Nodup) : (index.insert op).ids.Nodup := by
  by_cases hmem : op.id ∈ index.ids
  · rwa [insert_of_mem hmem]
  · rw [insert_of_not_mem hmem, ids, List.map_append]
    exact List.nodup_append.mpr ⟨h, List.nodup_singleton _, by
      rintro id hid _ hop rfl
      exact hmem (List.mem_singleton.mp hop ▸ hid)⟩

/-- After it is added, an operation is there in place of the one with its id. -/
theorem mem_insert (h : index.ids.Nodup) {other : Operation} :
    other ∈ index.insert op ↔ other = op ∨ other ∈ index ∧ other.id ≠ op.id := by
  induction index with
  | nil => simp [insert]
  | cons known rest ih =>
    obtain ⟨hknown, hrest⟩ : known.id ∉ ids rest ∧ (ids rest).Nodup := List.nodup_cons.mp h
    rw [insert]
    split
    next heq =>
      have hothers : ∀ other ∈ rest, other.id ≠ op.id := fun other hmem hid =>
        hknown (heq ▸ hid ▸ List.mem_map_of_mem hmem)
      simp only [List.mem_cons]
      refine ⟨?_, ?_⟩
      · rintro (hop | hmem)
        · exact .inl hop
        · exact .inr ⟨.inr hmem, hothers other hmem⟩
      · rintro (hop | ⟨rfl | hmem, hid⟩)
        · exact .inl hop
        · exact absurd heq hid
        · exact .inr hmem
    next hne =>
      rw [List.mem_cons, ih hrest, List.mem_cons]
      refine ⟨?_, ?_⟩
      · rintro (rfl | hop | hmem)
        · exact .inr ⟨.inl rfl, hne⟩
        · exact .inl hop
        · exact .inr ⟨.inr hmem.1, hmem.2⟩
      · rintro (hop | ⟨rfl | hmem, hid⟩)
        · exact .inr (.inl hop)
        · exact .inl rfl
        · exact .inr (.inr ⟨hmem, hid⟩)

/-! ## The index of a list -/

theorem ofList_concat (ops : List Operation) (op : Operation) :
    ofList (ops ++ [op]) = (ofList ops).insert op :=
  List.foldl_concat ..

/-- The ids stand in the order in which they first occur, each of them once. -/
theorem ids_ofList (ops : List Operation) :
    (ofList ops).ids = (ops.map Operation.id).eraseDups := by
  induction ops using List.reverseRecOn with
  | nil => rfl
  | append_singleton ops op ih =>
    have hmem : op.id ∈ (ofList ops).ids ↔ op.id ∈ ops.map Operation.id := by
      rw [ih, List.mem_eraseDups]
    have hlast : ((ops ++ [op]).map Operation.id).eraseDups =
        (ofList ops).ids ++ ([op.id].removeAll (ops.map Operation.id)).eraseDups := by
      rw [List.map_append, List.eraseDups_append, ih]
      rfl
    rw [ofList_concat, hlast, List.removeAll, List.filter_singleton, List.elem_eq_mem]
    by_cases hknown : op.id ∈ (ofList ops).ids
    · rw [insert_of_mem hknown]
      simp [-List.mem_map, hmem.mp hknown]
    · rw [insert_of_not_mem hknown]
      simp [-List.mem_map, ids, hmem.not.mp hknown, List.eraseDups_cons]

theorem nodup_ids_ofList (ops : List Operation) : (ofList ops).ids.Nodup := by
  induction ops using List.reverseRecOn with
  | nil => exact List.nodup_nil
  | append_singleton ops op ih =>
    rw [ofList_concat]
    exact nodup_ids_insert ih

/-- The operation of an id is the last one with that id. -/
theorem mem_ofList {ops : List Operation} :
    op ∈ ofList ops ↔
      ∃ before after, ops = before ++ op :: after ∧ ∀ later ∈ after, later.id ≠ op.id := by
  induction ops using List.reverseRecOn with
  | nil => simp [ofList]
  | append_singleton ops last ih =>
    rw [ofList_concat, mem_insert (nodup_ids_ofList ops), ih]
    refine ⟨?_, ?_⟩
    · rintro (rfl | ⟨⟨before, after, rfl, hafter⟩, hne⟩)
      · exact ⟨ops, [], rfl, by simp⟩
      · refine ⟨before, after ++ [last], by simp, fun later hlater => ?_⟩
        rcases List.mem_append.mp hlater with hlater | hlater
        · exact hafter later hlater
        · exact List.mem_singleton.mp hlater ▸ hne.symm
    · rintro ⟨before, after, heq, hafter⟩
      rcases List.eq_nil_or_concat' after with rfl | ⟨after, last', rfl⟩
      · obtain ⟨-, heq⟩ := List.append_inj' heq rfl
        exact .inl (List.singleton_inj.mp heq).symm
      · rw [← List.cons_append, ← List.append_assoc] at heq
        obtain ⟨hops, hlast⟩ := List.append_inj' heq rfl
        obtain rfl := List.singleton_inj.mp hlast
        refine .inr ⟨⟨before, after, hops, fun later hlater => ?_⟩, ?_⟩
        · exact hafter later (List.mem_append_left _ hlater)
        · exact (hafter last (List.mem_append_right _ (List.mem_singleton_self last))).symm

end TypedClient.Operation.Index
