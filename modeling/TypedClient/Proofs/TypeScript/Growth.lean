import TypedClient.Proofs.TypeScript.Accessor

/-!
# Growing lists of operations

What operations do to those in front of them when they are added to a list: no id that is there gets
another place or another stem (`kept_append`). New ids go behind the old ones, each of them once, and
take their stems from what the old ones left free (`naming_append`); so this holds also where a new id
wants a stem that is taken, or an old one comes again.
-/

namespace TypedClient.TypeScript

/-! ## Stems for a list and for what follows it -/

namespace Stem

/-- The names that are used after stems were taken. -/
def taken (used stems : List String) : List String :=
  stems.foldl (fun used stem => names stem ++ used) used

/-- The stems of ids do not depend on the ids behind them. -/
theorem allocateAll_append (used ids more : List String) :
    allocateAll used (ids ++ more) =
      allocateAll used ids ++ allocateAll (taken used (allocateAll used ids)) more := by
  induction ids generalizing used with
  | nil => rfl
  | cons id rest ih =>
    rw [List.cons_append, allocateAll, allocateAll, ih, List.cons_append]
    rfl

end Stem

/-! ## Ids with their stems -/

/-- The ids of operations that do not occur in others before them, each of them once. -/
def newIds (before ops : List Operation) : List String :=
  ((ops.map Operation.id).removeAll (before.map Operation.id)).eraseDups

/-- The ids of a longer list are the old ones and then the new ones. -/
theorem ids_append (before ops : List Operation) :
    (Operation.Index.ofList (before ++ ops)).ids =
      (Operation.Index.ofList before).ids ++ newIds before ops := by
  rw [Operation.Index.ids_ofList, Operation.Index.ids_ofList, List.map_append,
    List.eraseDups_append, newIds]

/-- The new ids get their stems from what the old ones left free. -/
theorem stems_append (before ops : List Operation) :
    stems (before ++ ops) =
      stems before ++ Stem.allocateAll (Stem.taken Stem.reserved (stems before))
        (newIds before ops) := by
  rw [stems, ids_append, Stem.allocateAll_append]
  rfl

/-- The ids of the accessors of operations with their stems, in the order of the module. -/
def naming (ops : List Operation) : List (String × String) :=
  (accessors ops).map fun accessor => (accessor.operation.id, accessor.stem)

theorem naming_eq_zip (ops : List Operation) :
    naming ops = (Operation.Index.ofList ops).ids.zip (stems ops) := by
  rw [← map_stem_accessors, Operation.Index.ids, ← map_operation_accessors, List.map_map,
    List.zip_map']
  rfl

theorem map_fst_naming (ops : List Operation) :
    (naming ops).map Prod.fst = (Operation.Index.ofList ops).ids := by
  rw [Operation.Index.ids, ← map_operation_accessors, List.map_map, naming, List.map_map]
  rfl

/-- The ids that are added go behind those that are there, with stems from what is left. -/
theorem naming_append (before ops : List Operation) :
    naming (before ++ ops) =
      naming before ++ (newIds before ops).zip
        (Stem.allocateAll (Stem.taken Stem.reserved (stems before)) (newIds before ops)) := by
  have hlength : (Operation.Index.ofList before).ids.length = (stems before).length := by
    rw [length_stems, Operation.Index.ids, List.length_map]
  rw [naming_eq_zip, ids_append, stems_append, List.zip_append hlength, ← naming_eq_zip]

/-! ## The accessor of an id -/

/-- The accessor of an id stands at a place and has a stem. -/
def Stands (ops : List Operation) (id : String) (place : Nat) (stem : String) : Prop :=
  (naming ops)[place]? = some (id, stem)

namespace Stands

variable {ops before : List Operation} {id stem other : String} {place elsewhere : Nat}

/-- Each id has a place and a stem. -/
theorem exists_of_mem (h : id ∈ ops.map Operation.id) : ∃ place stem, Stands ops id place stem := by
  have hmem : id ∈ (naming ops).map Prod.fst := by
    rw [map_fst_naming, Operation.Index.ids_ofList]
    exact List.mem_eraseDups.mpr h
  obtain ⟨⟨_, stem⟩, hpair, rfl⟩ := List.mem_map.mp hmem
  obtain ⟨place, hplace⟩ := List.getElem?_of_mem hpair
  exact ⟨place, stem, hplace⟩

/-- An id has one place and one stem. -/
theorem unique (h : Stands ops id place stem) (hother : Stands ops id elsewhere other) :
    elsewhere = place ∧ other = stem := by
  have hids : ((naming ops).map Prod.fst).Nodup := by
    rw [map_fst_naming]
    exact Operation.Index.nodup_ids_ofList ops
  have hplace : ((naming ops).map Prod.fst)[place]? = some id := by
    rw [List.getElem?_map, h, Option.map_some]
  have helsewhere : ((naming ops).map Prod.fst)[elsewhere]? = some id := by
    rw [List.getElem?_map, hother, Option.map_some]
  obtain ⟨hlt, -⟩ := List.getElem?_eq_some_iff.mp helsewhere
  obtain rfl : elsewhere = place := (List.getElem?_inj hlt hids).mp (helsewhere.trans hplace.symm)
  exact ⟨rfl, (Prod.mk.inj (Option.some.inj (hother.symm.trans h))).2⟩

/-- The place and the stem of an id stay when operations are added. -/
theorem append (h : Stands before id place stem) (ops : List Operation) :
    Stands (before ++ ops) id place stem := by
  obtain ⟨hlt, -⟩ := List.getElem?_eq_some_iff.mp h
  rw [Stands, naming_append, List.getElem?_append_left hlt]
  exact h

theorem exists_accessor (h : Stands ops id place stem) :
    ∃ accessor, (accessors ops)[place]? = some accessor ∧ accessor.operation.id = id ∧
      accessor.stem = stem := by
  rw [Stands, naming, List.getElem?_map] at h
  obtain ⟨accessor, haccessor, hpair⟩ := Option.map_eq_some_iff.mp h
  exact ⟨accessor, haccessor, (Prod.mk.inj hpair).1, (Prod.mk.inj hpair).2⟩

end Stands

/-! ## The lines of an accessor -/

/-- An accessor is written down in the lines of a module: with its aliases, and at one place both of
the index of operations and of the functions. -/
structure Shown (lines : List String) (place : Nat) (accessor : Accessor) : Prop where
  aliases : accessor.aliasLines <:+: lines
  index : (Module.block "export type OperationIndex = \x7b" "\x7d;" lines)[place]? =
    some accessor.indexLine
  function : ∃ front behind : List Accessor, front.length = place ∧
    Module.block "  return \x7b" "  \x7d;" lines =
      front.flatMap Accessor.functionLines ++ accessor.functionLines ++
        behind.flatMap Accessor.functionLines

/-- The lines of all aliases stand in the module in one piece. -/
theorem Module.aliasLines_infix (ops : List Operation) (stamp typesImport : String) :
    (accessors ops).flatMap Accessor.aliasLines <:+: operations ops stamp typesImport := by
  apply Exists.intro (operationsHead stamp typesImport)
  apply Exists.intro
  simp only [operations, List.append_assoc]
  rfl

/-- An accessor is shown at its place. -/
theorem shown_of_getElem? {ops : List Operation} {place : Nat} {accessor : Accessor}
    (h : (accessors ops)[place]? = some accessor) (stamp typesImport : String) :
    Shown (Module.operations ops stamp typesImport) place accessor := by
  obtain ⟨hlt, rfl⟩ := List.getElem?_eq_some_iff.mp h
  have hsplit : accessors ops = (accessors ops).take place ++
      ((accessors ops)[place] :: (accessors ops).drop (place + 1)) := by
    rw [List.cons_getElem_drop_succ, List.take_append_drop]
  have haliases : [(accessors ops)[place]] <:+: accessors ops :=
    ⟨(accessors ops).take place, (accessors ops).drop (place + 1), by
      rw [List.append_assoc, List.singleton_append, ← hsplit]⟩
  refine ⟨?_, ?_, (accessors ops).take place, (accessors ops).drop (place + 1),
    List.length_take_of_le hlt.le, ?_⟩
  · have hlines := haliases.flatMap Accessor.aliasLines
    rw [List.flatMap_singleton] at hlines
    exact hlines.trans (Module.aliasLines_infix ops stamp typesImport)
  · rw [Module.block_index, List.getElem?_map, h, Option.map_some]
  · rw [Module.block_functions, List.append_assoc, ← List.flatMap_cons, ← List.flatMap_append,
      ← hsplit]

/-! ## What is kept -/

/-- The accessor of an id is at one place and has one stem, with and without the operations that are
added, and the modules show it so. -/
structure Keeps (before added : List Operation) (id : String) (place : Nat) (stem : String) :
    Prop where
  alone : Stands before id place stem
  grown : Stands (before ++ added) id place stem
  alone_only : ∀ elsewhere other, Stands before id elsewhere other →
    elsewhere = place ∧ other = stem
  grown_only : ∀ elsewhere other, Stands (before ++ added) id elsewhere other →
    elsewhere = place ∧ other = stem
  shown : ∀ ops ∈ [before, before ++ added], ∀ stamp typesImport, ∃ accessor,
    accessor.operation.id = id ∧ accessor.stem = stem ∧
      Shown (Module.operations ops stamp typesImport) place accessor

/-- Operations that are added to a list leave each id that is there at its place and with its stem,
whatever ids they have. -/
theorem kept_append (before added : List Operation) (id : String)
    (h : id ∈ before.map Operation.id) : ∃ place stem, Keeps before added id place stem := by
  obtain ⟨place, stem, halone⟩ := Stands.exists_of_mem h
  have hgrown : Stands (before ++ added) id place stem := halone.append added
  have hboth : ∀ ops ∈ [before, before ++ added], Stands ops id place stem := by
    simpa using ⟨halone, hgrown⟩
  refine ⟨place, stem, halone, hgrown, fun _ _ => halone.unique, fun _ _ => hgrown.unique, ?_⟩
  intro ops hops stamp typesImport
  obtain ⟨accessor, haccessor, hid, hstem⟩ := (hboth ops hops).exists_accessor
  exact ⟨accessor, hid, hstem, shown_of_getElem? haccessor stamp typesImport⟩

/-- An operation with an id and a path, and nothing else to it. -/
def bareOperation (id path : String) : Operation where
  id := id
  method := .get
  path := path
  pathParams := []
  hasBody := false
  hasQuery := false
  summary := ""
  description := ""
  bodyType? := none
  fileFields := []

/-- Two ids that want one stem. The second gets a number, and keeps it when an id comes that wants the
stem with that number, another that wants the first stem, and the first id again. -/
theorem kept_append_crowded :
    "get_pet" ∈ [bareOperation "getPet" "/a", bareOperation "get_pet" "/b"].map Operation.id ∧
      Keeps [bareOperation "getPet" "/a", bareOperation "get_pet" "/b"]
        [bareOperation "GetPet2" "/c", bareOperation "GetPet" "/d", bareOperation "getPet" "/e"]
        "get_pet" 1 "GetPet2" := by
  have hmem : "get_pet" ∈
      [bareOperation "getPet" "/a", bareOperation "get_pet" "/b"].map Operation.id := by
    decide
  obtain ⟨place, stem, hkeeps⟩ := kept_append
    [bareOperation "getPet" "/a", bareOperation "get_pet" "/b"]
    [bareOperation "GetPet2" "/c", bareOperation "GetPet" "/d", bareOperation "getPet" "/e"] _ hmem
  have hstands : Stands [bareOperation "getPet" "/a", bareOperation "get_pet" "/b"]
      "get_pet" 1 "GetPet2" := by
    unfold Stands
    decide +kernel
  obtain ⟨rfl, rfl⟩ := hkeeps.alone_only _ _ hstands
  exact ⟨hmem, hkeeps⟩

end TypedClient.TypeScript
