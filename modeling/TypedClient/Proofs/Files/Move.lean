import TypedClient.Proofs.Files.Trail

/-!
# Moving and removing

What the operations on one file or directory do to the map from addresses to what is there. A move takes
a node with all that is below it to another address and touches nothing else (`exists_rename`); an
operation that fails leaves the tree as it was, for it gives no tree at all.
-/

namespace TypedClient.Files

/-- Two addresses of which neither leads through the other. -/
def Apart (a b : Address) : Prop :=
  ¬ a <+: b ∧ ¬ b <+: a

theorem Apart.symm {a b : Address} (h : Apart a b) : Apart b a :=
  ⟨h.2, h.1⟩

theorem Apart.ne {a b : Address} (h : Apart a b) : a ≠ b := by
  rintro rfl
  exact h.1 List.prefix_rfl

/-- What is below an address is not below one that is apart from it. -/
theorem Apart.not_prefix_append {a b : Address} (h : Apart a b) (r : Address) : ¬ a <+: b ++ r := by
  intro hp
  rcases List.prefix_or_prefix_of_prefix hp (List.prefix_append b r) with hab | hba
  · exact h.1 hab
  · exact h.2 hba

/-- What lies over a parent lies over its child and is not the child. -/
theorem prefix_dropLast_iff {q l : Address} (hl : l ≠ []) : q <+: l.dropLast ↔ q <+: l ∧ q ≠ l := by
  constructor
  · intro hq
    have hpre := List.dropLast_prefix l
    refine ⟨hq.trans hpre, ?_⟩
    rintro rfl
    have hlen := hq.length_le
    have hpos := List.length_pos_iff.mpr hl
    rw [List.length_dropLast] at hlen
    omega
  · rintro ⟨⟨r, rfl⟩, hlt⟩
    have hr : r ≠ [] := by
      rintro rfl
      simp at hlt
    rw [List.dropLast_append_of_ne_nil hr]
    exact List.prefix_append q _

namespace Node

variable {root before after : Node} {source target path : Path} {a b : Address}

/-! ## Paths below a base -/

section

variable {base : Path}

/-- The addresses on the way to a path below a base. -/
theorem mem_trail_parent_join {v : Address} (h : path.IsOrdinary) (hne : path.steps ≠ []) :
    v ∈ (base.join path).parent.trail ↔
      v ∈ base.trail ∨
        ∃ q, q ≠ [] ∧ q <+: path.steps ∧ q ≠ path.steps ∧ v = base.address ++ q := by
  have hdown : ".." ∉ path.steps.dropLast := fun hm => h.down (List.mem_of_mem_dropLast hm)
  rw [Path.trail, Path.steps_parent, Path.steps_join h.relative,
    List.dropLast_append_of_ne_nil hne, trail_append, List.mem_append, ← Path.trail,
    ← Path.address, mem_trail_of_ordinary hdown]
  simp only [prefix_dropLast_iff hne, and_assoc]

/-- The way to a path below a paved base is paved if directories are between them. -/
theorem paved_parent_join (h : path.IsOrdinary) (hne : path.steps ≠ []) (hbase : root.Paved base)
    (hdirs : ∀ q, q <+: path.steps → q ≠ path.steps → root.IsDirectory (base.address ++ q)) :
    root.Paved (base.join path).parent := by
  refine ⟨hbase.start, fun v hv => ?_⟩
  rcases (mem_trail_parent_join h hne).mp hv with hv | ⟨q, -, hpre, hlt, rfl⟩
  · exact hbase.trail v hv
  · exact hdirs q hpre hlt

/-- The parent of a path below a base is the directory that holds it. -/
theorem address_parent_join (h : path.IsOrdinary) (hne : path.steps ≠ []) :
    (base.join path).parent.address = (base.join path).address.dropLast := by
  have hdown : ".." ∉ path.steps.dropLast := fun hm => h.down (List.mem_of_mem_dropLast hm)
  rw [Path.address_join h, Path.address, Path.steps_parent, Path.steps_join h.relative,
    List.dropLast_append_of_ne_nil hne, List.dropLast_append_of_ne_nil hne, walk_append,
    walk_of_ordinary hdown, ← Path.address]

theorem steps_join_ne_nil (h : path.IsOrdinary) (hne : path.steps ≠ []) :
    (base.join path).steps ≠ [] := by
  rw [Path.steps_join h.relative]
  simp [hne]

/-- A path below a paved base can be followed to whatever is there. -/
theorem locate_join (h : path.IsOrdinary) (hne : path.steps ≠ []) (hbase : root.Paved base)
    (hthere : root.kindAt? (base.join path).address ≠ none) :
    root.locate (base.join path) = .ok (base.join path).address := by
  refine locate_of_paved (steps_join_ne_nil h hne) (paved_parent_join h hne hbase fun q hq hlt => ?_)
  rw [Path.address_join h] at hthere
  exact isDirectory_above (by simpa using hq) (by simpa using hlt) hthere

end

/-! ## Finding -/

/-- A path finds what is at its address. -/
theorem find_of_kindAt? {kind : Kind} (h : root.locate path = .ok a)
    (hkind : root.kindAt? a = some kind) (hd : path.demandsDirectory = false) :
    ∃ node, root.find path = .ok (a, node) ∧ root.get? a = some node ∧ node.kind = kind := by
  obtain ⟨node, hnode, rfl⟩ := get?_eq_some_of_kindAt? hkind
  refine ⟨node, ?_, hnode, rfl⟩
  cases node <;> simp [find, h, hnode, hd, bind, Except.bind, pure, Except.pure]

/-- A path finds nothing where nothing is. -/
theorem find_of_missing (h : root.kindAt? path.address = none) :
    ∃ fault, root.find path = .error fault := by
  cases hl : root.locate path with
  | error fault => exact ⟨fault, by simp [find, hl, bind, Except.bind]⟩
  | ok a =>
    obtain rfl := (locate_eq_ok_iff.mp hl).2.1
    exact ⟨.notFound, by simp [find, hl, bind, Except.bind, get?_eq_none_iff.mpr h, throw,
      throwThe, MonadExceptOf.throw]⟩

theorem hasPath_of_missing (h : root.kindAt? path.address = none) : root.hasPath path = false := by
  obtain ⟨fault, hfind⟩ := find_of_missing h
  simp [hasPath, hfind]

/-- A path names what is at its address. -/
theorem hasPath_of_kindAt? (h : root.locate path = .ok a) (hthere : root.kindAt? a ≠ none)
    (hd : path.demandsDirectory = false) : root.hasPath path = true := by
  obtain ⟨kind, hkind⟩ := Option.ne_none_iff_exists'.mp hthere
  obtain ⟨node, hfind, -⟩ := find_of_kindAt? h hkind hd
  simp [hasPath, hfind]

/-! ## Moving -/

/-- The second tree is the first one after a move. -/
structure Moved (before after : Node) (a b : Address) : Prop where
  there : ∀ r, after.kindAt? (b ++ r) = before.kindAt? (a ++ r)
  gone : ∀ r, after.kindAt? (a ++ r) = none
  elsewhere : ∀ v, ¬ a <+: v → ¬ b <+: v → after.kindAt? v = before.kindAt? v

/-- What is at an address can take the place of what is at another one. -/
def Replaces (root : Node) (a b : Address) : Prop :=
  root.kindAt? b = none ∨
    (∃ content content', root.kindAt? a = some (.file content) ∧
      root.kindAt? b = some (.file content')) ∨
    (root.IsDirectory a ∧ root.IsDirectory b ∧ ∀ name, root.kindAt? (b ++ [name]) = none)

/-- Taking a node from one address and putting it at another moves it, and nothing else. -/
theorem moved_erase_put {node : Node} (hnode : root.get? a = some node) (hab : Apart a b)
    (hparent : root.IsDirectory b.dropLast) : Moved root ((root.erase a).put b node) a b := by
  have ha : a ≠ [] := by
    rintro rfl
    exact hab.1 List.nil_prefix
  have hdir : (root.erase a).IsDirectory b.dropLast := by
    rw [IsDirectory, kindAt?_erase_elsewhere]
    · exact hparent
    · have hpre := List.dropLast_prefix b
      exact fun hp => hab.1 (hp.trans hpre)
  refine ⟨fun r => ?_, fun r => ?_, fun v hav hbv => ?_⟩
  · rw [kindAt?_put_append r node (.inr hdir)]
    simp [kindAt?, get?_append, hnode]
  · rw [kindAt?_put_elsewhere (hab.symm.not_prefix_append r), kindAt?_erase_append ha]
  · rw [kindAt?_put_elsewhere hbv, kindAt?_erase_elsewhere hav]

/-- A move succeeds if there is something to move, a directory to move it to and nothing in the way. -/
theorem exists_rename (hs : root.locate source = .ok a) (ht : root.locate target = .ok b)
    (hthere : root.kindAt? a ≠ none) (hsd : source.demandsDirectory = false)
    (htd : target.demandsDirectory = false) (hparent : root.IsDirectory b.dropLast)
    (hab : Apart a b) (hreplaces : root.Replaces a b) :
    ∃ after, root.rename source target = .ok after ∧ Moved root after a b := by
  obtain ⟨kind, hkind⟩ := Option.ne_none_iff_exists'.mp hthere
  obtain ⟨node, hfind, hnode, rfl⟩ := find_of_kindAt? hs hkind hsd
  have hne := hab.ne
  refine ⟨(root.erase a).put b node, ?_, moved_erase_put hnode hab hparent⟩
  cases node with
  | file content =>
    -- a file moves onto a file or onto nothing
    have htarget : ∀ entries, root.get? b ≠ some (.directory entries) := by
      intro entries hb
      have hdir := isDirectory_of_get? hb
      rcases hreplaces with h | ⟨_, _, _, h⟩ | ⟨h, _, _⟩
      · exact hdir.ne_none h
      · exact not_isDirectory_of_file h hdir
      · exact not_isDirectory_of_file hkind h
    cases hb : root.get? b with
    | none => simp [rename, hfind, ht, hne, hb, htd, bind, Except.bind, pure, Except.pure]
    | some other =>
      cases other with
      | file _ => simp [rename, hfind, ht, hne, hb, htd, bind, Except.bind, pure, Except.pure]
      | directory entries => exact absurd hb (htarget entries)
  | directory entries =>
    -- a directory moves onto an empty directory or onto nothing
    have hcheck : checkDirectoryMove a b (root.get? b) = .ok () := by
      have hpre : a.isPrefixOf b = false := by
        rw [← Bool.not_eq_true, List.isPrefixOf_iff_prefix]
        exact hab.1
      rcases hreplaces with h | ⟨_, _, h, _⟩ | ⟨_, h, hempty⟩
      · simp [get?_eq_none_iff.mpr h, checkDirectoryMove, hpre]
      · simp [hkind, Node.kind] at h
      · obtain ⟨own, hown⟩ := h.exists_entries
        obtain rfl := (entries_eq_nil_of_get? hown).mpr hempty
        simp [hown, checkDirectoryMove, hpre]
    simp [rename, hfind, ht, hne, hcheck, bind, Except.bind, pure, Except.pure]

/-- What is not there cannot be renamed. -/
theorem rename_of_missing (h : root.kindAt? source.address = none) (target : Path) :
    ∃ fault, root.rename source target = .error fault := by
  obtain ⟨fault, hfind⟩ := find_of_missing h
  exact ⟨fault, by simp [rename, hfind, bind, Except.bind]⟩

/-- A move fails if what is moved cannot replace what is at its target. -/
theorem rename_of_not_replaces (hs : root.locate source = .ok a) (ht : root.locate target = .ok b)
    (hthere : root.kindAt? a ≠ none) (hsd : source.demandsDirectory = false) (hne : a ≠ b)
    (hreplaces : ¬ root.Replaces a b) : ∃ fault, root.rename source target = .error fault := by
  obtain ⟨kind, hkind⟩ := Option.ne_none_iff_exists'.mp hthere
  obtain ⟨node, hfind, hnode, rfl⟩ := find_of_kindAt? hs hkind hsd
  cases hb : root.get? b with
  | none => exact absurd (.inl (get?_eq_none_iff.mp hb)) hreplaces
  | some other =>
    cases node with
    | file content =>
      cases other with
      | file content' =>
        exact absurd (.inr (.inl ⟨content, content', hkind, get?_eq_file_iff.mp hb⟩)) hreplaces
      | directory entries =>
        exact ⟨.isDirectory, by simp [rename, hfind, ht, hne, hb, bind, Except.bind, throw,
          throwThe, MonadExceptOf.throw]⟩
    | directory own =>
      cases other with
      | file content' =>
        exact ⟨.notDirectory, by simp [rename, hfind, ht, hne, hb, checkDirectoryMove, bind,
          Except.bind]⟩
      | directory entries =>
        cases entries with
        | nil =>
          refine absurd (.inr (.inr ⟨hkind, isDirectory_of_get? hb, ?_⟩)) hreplaces
          exact (entries_eq_nil_of_get? hb).mp rfl
        | cons entry rest =>
          exact ⟨.notEmpty, by simp [rename, hfind, ht, hne, hb, checkDirectoryMove, bind,
            Except.bind]⟩

/-! ## Removing -/

/-- A file is removed from its address. -/
theorem removeFile_of_file {content : ByteArray} (h : root.locate path = .ok a)
    (hfile : root.kindAt? a = some (.file content)) (hd : path.demandsDirectory = false) :
    root.removeFile path = .ok (root.erase a) := by
  obtain ⟨node, hfind, -, hkind⟩ := find_of_kindAt? h hfile hd
  cases node with
  | file _ => simp [removeFile, hfind, bind, Except.bind, pure, Except.pure]
  | directory _ => simp [Node.kind] at hkind

/-- A tree is removed from its address. -/
theorem removeTree_of_paved (hne : path.steps ≠ []) (h : root.Paved path.parent) :
    root.removeTree path = root.erase path.address := by
  simp [removeTree, locate_of_paved hne h]

/-- Removing a path changes nothing elsewhere, whether it can be followed or not. -/
theorem kindAt?_removeTree (h : ¬ path.address <+: a) :
    (root.removeTree path).kindAt? a = root.kindAt? a := by
  cases hl : root.locate path with
  | error fault => simp [removeTree, hl]
  | ok b =>
    obtain rfl := (locate_eq_ok_iff.mp hl).2.1
    simp [removeTree, hl, kindAt?_erase_elsewhere h]

/-! ## Writing -/

/-- A file is written only below a directory. -/
theorem isDirectory_nil_of_writeFile {content : ByteArray} (hne : path.steps ≠ [])
    (h : root.writeFile path content = .ok after) : root.IsDirectory [] := by
  cases hl : root.locate path with
  | error fault => simp [writeFile, hl, bind, Except.bind] at h
  | ok a => exact ((locate_eq_ok_iff.mp hl).2.2 hne).start

/-- Writing a file succeeds only where no directory is, and puts the file there. -/
theorem writeFile_eq_ok_iff {content : ByteArray} (h : root.locate path = .ok a) :
    root.writeFile path content = .ok after ↔
      ¬ root.IsDirectory a ∧ path.demandsDirectory = false ∧ after = root.put a (.file content) := by
  rcases hnode : root.get? a with _ | own | entries
  · have hdir : ¬ root.IsDirectory a := by simp [IsDirectory, kindAt?, hnode]
    cases hd : path.demandsDirectory <;>
      simp [writeFile, h, hnode, hd, hdir, bind, Except.bind, pure, Except.pure, throw, throwThe,
        MonadExceptOf.throw, eq_comm]
  · have hdir : ¬ root.IsDirectory a := by simp [IsDirectory, kindAt?, hnode, Node.kind]
    cases hd : path.demandsDirectory <;>
      simp [writeFile, h, hnode, hd, hdir, bind, Except.bind, pure, Except.pure, throw, throwThe,
        MonadExceptOf.throw, eq_comm]
  · have hdir := isDirectory_of_get? hnode
    simp [writeFile, h, hnode, hdir, bind, Except.bind, throw, throwThe, MonadExceptOf.throw]

end Node

end TypedClient.Files
