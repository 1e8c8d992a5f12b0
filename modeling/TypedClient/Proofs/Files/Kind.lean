import TypedClient.Files.Node
import Mathlib.Data.List.Infix

/-!
# What is where in a tree

The order of the names in a directory matters to nothing that is done with files. A tree is looked at
as a map from addresses to what is there: a directory, a file with its content, or nothing. `put` and
`erase` change this map at one address and below it, and nowhere else.
-/

namespace TypedClient.Files

/-- What is at an address, apart from what a directory holds. -/
inductive Kind
  | directory
  | file (content : ByteArray)

/-! ## Entries by name -/

theorem lookup_cons_eq_ite (name other : String) (node : Node) (entries : List (String × Node)) :
    ((name, node) :: entries).lookup other =
      if other = name then some node else entries.lookup other := by
  by_cases h : other = name
  · subst h
    simp
  · have hb : (other == name) = false := beq_eq_false_iff_ne.mpr h
    simp [List.lookup_cons, hb, h]

/-- Setting an entry changes what is found under its name only. -/
theorem lookup_setEntry (name other : String) (node : Node) (entries : List (String × Node)) :
    (setEntry name node entries).lookup other =
      if other = name then some node else entries.lookup other := by
  induction entries with
  | nil => exact lookup_cons_eq_ite name other node []
  | cons entry rest ih =>
    obtain ⟨n, known⟩ := entry
    simp only [setEntry]
    by_cases hn : n = name
    · subst hn
      rw [if_pos rfl, lookup_cons_eq_ite, lookup_cons_eq_ite]
      by_cases h : other = n <;> simp [h]
    · rw [if_neg hn, lookup_cons_eq_ite, lookup_cons_eq_ite, ih]
      by_cases h : other = n
      · subst h
        simp [hn]
      · simp [h]

/-- Dropping an entry changes what is found under its name only. -/
theorem lookup_dropEntry (name other : String) (entries : List (String × Node)) :
    (dropEntry name entries).lookup other =
      if other = name then none else entries.lookup other := by
  induction entries with
  | nil => simp [dropEntry]
  | cons entry rest ih =>
    obtain ⟨n, known⟩ := entry
    simp only [dropEntry, List.filter_cons] at ih ⊢
    by_cases hn : n = name
    · subst hn
      rw [if_neg (by simp), ih, lookup_cons_eq_ite]
      by_cases h : other = n <;> simp [h]
    · rw [if_pos (by simpa using hn), lookup_cons_eq_ite, lookup_cons_eq_ite, ih]
      by_cases h : other = n
      · subst h
        simp [hn]
      · simp [h]

/-- A directory without entries is one in which no name leads anywhere. -/
theorem entries_eq_nil_iff (entries : List (String × Node)) :
    entries = [] ↔ ∀ name, entries.lookup name = none := by
  constructor
  · rintro rfl name
    rfl
  · intro h
    cases entries with
    | nil => rfl
    | cons entry rest => simpa using h entry.1

namespace Node

/-- What a node is, apart from what it holds as a directory. -/
def kind : Node → Kind
  | .file content => .file content
  | .directory _ => .directory

/-- What is at an address of a tree. -/
def kindAt? (root : Node) (address : Address) : Option Kind :=
  (root.get? address).map kind

/-- The content of the file at an address, if one is there. -/
def fileAt? (root : Node) (address : Address) : Option ByteArray :=
  match root.kindAt? address with
  | some (.file content) => some content
  | _ => none

/-- A directory is at the address. -/
def IsDirectory (root : Node) (address : Address) : Prop :=
  root.kindAt? address = some .directory

instance (root : Node) (address : Address) : Decidable (root.IsDirectory address) :=
  match h : root.kindAt? address with
  | some .directory => isTrue h
  | some (.file _) => isFalse (by simp [IsDirectory, h])
  | none => isFalse (by simp [IsDirectory, h])

variable {root : Node} {address : Address}

theorem fileAt?_eq_some {content : ByteArray} :
    root.fileAt? address = some content ↔ root.kindAt? address = some (.file content) := by
  unfold fileAt?
  split <;> simp_all

theorem fileAt?_eq_none :
    root.fileAt? address = none ↔ ∀ content, root.kindAt? address ≠ some (.file content) := by
  rw [Option.eq_none_iff_forall_ne_some]
  exact forall_congr' fun content => not_congr fileAt?_eq_some

/-- There is no file at a directory. -/
theorem fileAt?_of_directory (h : root.IsDirectory address) : root.fileAt? address = none := by
  rw [fileAt?_eq_none]
  intro content hc
  rw [IsDirectory, hc] at h
  cases h

/-- There is no file where nothing is. -/
theorem fileAt?_of_missing (h : root.kindAt? address = none) : root.fileAt? address = none := by
  rw [fileAt?, h]

/-- Something is at a directory. -/
theorem IsDirectory.ne_none (h : root.IsDirectory address) : root.kindAt? address ≠ none := by
  rw [h]
  simp

/-- A file is no directory. -/
theorem not_isDirectory_of_file {content : ByteArray}
    (h : root.kindAt? address = some (.file content)) : ¬ root.IsDirectory address := by
  intro hdir
  rw [IsDirectory, h] at hdir
  cases hdir

/-- What is at an address is nothing, a directory or a file. -/
theorem kindAt?_cases (root : Node) (address : Address) :
    root.kindAt? address = none ∨ root.IsDirectory address ∨
      ∃ content, root.kindAt? address = some (.file content) := by
  cases h : root.kindAt? address with
  | none => exact .inl rfl
  | some kind =>
    cases kind with
    | directory => exact .inr (.inl h)
    | file content => exact .inr (.inr ⟨content, rfl⟩)

/-! ## Following an address -/

@[simp]
theorem get?_nil (root : Node) : root.get? [] = some root := by
  cases root <;> rfl

/-- An address can be followed in two parts. -/
theorem get?_append (root : Node) (a b : Address) :
    root.get? (a ++ b) = (root.get? a).bind (·.get? b) := by
  induction a generalizing root with
  | nil => simp
  | cons name rest ih =>
    cases root with
    | file content => rfl
    | directory entries =>
      simp only [List.cons_append, get?]
      cases entries.lookup name with
      | none => rfl
      | some node => exact ih node

/-- Where there is a kind, there is a node of it. -/
theorem get?_eq_some_of_kindAt? {kind : Kind} (h : root.kindAt? address = some kind) :
    ∃ node, root.get? address = some node ∧ node.kind = kind := by
  simpa [kindAt?] using h

/-- Nothing is where there is no kind. -/
theorem get?_eq_none_iff : root.get? address = none ↔ root.kindAt? address = none := by
  simp [kindAt?]

/-- A directory has entries. -/
theorem IsDirectory.exists_entries (h : root.IsDirectory address) :
    ∃ entries, root.get? address = some (.directory entries) := by
  obtain ⟨node, hnode, hkind⟩ := get?_eq_some_of_kindAt? h
  cases node with
  | file content => simp [kind] at hkind
  | directory entries => exact ⟨entries, hnode⟩

/-- A file can be told from its kind. -/
theorem get?_eq_file_iff {content : ByteArray} :
    root.get? address = some (.file content) ↔ root.kindAt? address = some (.file content) := by
  constructor
  · intro h
    simp [kindAt?, h, kind]
  · intro h
    obtain ⟨node, hnode, hkind⟩ := get?_eq_some_of_kindAt? h
    cases node with
    | file own =>
      obtain rfl : own = content := by simpa [kind] using hkind
      exact hnode
    | directory entries => simp [kind] at hkind

/-- A node with entries is a directory. -/
theorem isDirectory_of_get? {entries : List (String × Node)}
    (h : root.get? address = some (.directory entries)) : root.IsDirectory address := by
  simp [IsDirectory, kindAt?, h, kind]

/-- Whatever is at an address, directories lead there. -/
theorem isDirectory_above {a b : Address} (hab : a <+: b) (hne : a ≠ b)
    (h : root.kindAt? b ≠ none) : root.IsDirectory a := by
  obtain ⟨r, rfl⟩ := hab
  have hr : r ≠ [] := by
    rintro rfl
    simp at hne
  rw [kindAt?, get?_append] at h
  cases hnode : root.get? a with
  | none => simp [hnode] at h
  | some node =>
    cases node with
    | file content =>
      cases r with
      | nil => exact absurd rfl hr
      | cons name rest => simp [hnode, get?] at h
    | directory entries => exact isDirectory_of_get? hnode

/-- Nothing is below a file. -/
theorem kindAt?_below_file {a r : Address} {content : ByteArray}
    (h : root.kindAt? a = some (.file content)) (hr : r ≠ []) : root.kindAt? (a ++ r) = none := by
  by_contra hne
  exact not_isDirectory_of_file h (isDirectory_above (List.prefix_append a r) (by simpa using hr) hne)

/-- Nothing is below where nothing is. -/
theorem kindAt?_below_missing {a r : Address} (h : root.kindAt? a = none) :
    root.kindAt? (a ++ r) = none := by
  rw [← get?_eq_none_iff] at h ⊢
  simp [get?_append, h]

/-- The directory at an address is empty if no name leads further. -/
theorem entries_eq_nil_of_get? {entries : List (String × Node)}
    (h : root.get? address = some (.directory entries)) :
    entries = [] ↔ ∀ name, root.kindAt? (address ++ [name]) = none := by
  rw [entries_eq_nil_iff]
  refine forall_congr' fun name => ?_
  rw [← get?_eq_none_iff, get?_append, h]
  cases hl : entries.lookup name <;> simp [get?, hl]

/-! ## Putting and taking away -/

/-- Putting a node somewhere below a root does not change what the root is. -/
theorem kind_put {a : Address} (ha : a ≠ []) (root new : Node) : (root.put a new).kind = root.kind := by
  cases a with
  | nil => exact absurd rfl ha
  | cons name rest =>
    cases root with
    | file content => rfl
    | directory entries =>
      simp only [put]
      split
      · rfl
      · split <;> rfl

/-- What is put into a directory is there afterwards. -/
theorem get?_put_append {root : Node} {a : Address} (r : Address) (new : Node)
    (h : a = [] ∨ root.IsDirectory a.dropLast) : (root.put a new).get? (a ++ r) = new.get? r := by
  induction a generalizing root with
  | nil => cases root <;> simp [put]
  | cons name rest ih =>
    -- the name alone may be new, those before it are there
    replace h := h.resolve_left (by simp)
    cases root with
    | file content =>
      cases rest <;> simp [IsDirectory, kindAt?, get?, kind] at h
    | directory entries =>
      cases rest with
      | nil =>
        simp only [put]
        cases hl : entries.lookup name with
        | none => simp [get?, lookup_setEntry]
        | some node => simp [get?, lookup_setEntry]
      | cons next more =>
        cases hl : entries.lookup name with
        | none => simp [IsDirectory, kindAt?, get?, hl] at h
        | some node =>
          have hnode : node.IsDirectory (next :: more).dropLast := by
            simpa [IsDirectory, kindAt?, get?, hl] using h
          simpa [put, hl, get?, lookup_setEntry] using ih (.inr hnode)

/-- Putting something changes nothing elsewhere. -/
theorem kindAt?_put_elsewhere {root new : Node} {a b : Address} (h : ¬ a <+: b) :
    (root.put a new).kindAt? b = root.kindAt? b := by
  induction a generalizing root b with
  | nil => exact absurd List.nil_prefix h
  | cons name rest ih =>
    cases b with
    | nil => simp [kindAt?, kind_put]
    | cons other more =>
      cases root with
      | file content => simp [kindAt?, put]
      | directory entries =>
        -- only below the same name can anything change
        by_cases hname : other = name
        · subst hname
          have hmore : ¬ rest <+: more := fun hp => h (by simpa using hp)
          cases hl : entries.lookup other with
          | none =>
            have hrest : rest ≠ [] := by
              rintro rfl
              exact hmore List.nil_prefix
            simp [kindAt?, put, hl, hrest]
          | some node =>
            simpa [kindAt?, put, hl, get?, lookup_setEntry] using ih hmore
        · cases hl : entries.lookup name with
          | none =>
            by_cases hrest : rest = []
            · simp [kindAt?, put, hl, hrest, get?, lookup_setEntry, hname]
            · simp [kindAt?, put, hl, hrest]
          | some node => simp [kindAt?, put, hl, get?, lookup_setEntry, hname]

/-- Where a node was put there is that node, with all below it. -/
theorem kindAt?_put_append {root : Node} {a : Address} (r : Address) (new : Node)
    (h : a = [] ∨ root.IsDirectory a.dropLast) :
    (root.put a new).kindAt? (a ++ r) = new.kindAt? r := by
  simp [kindAt?, get?_put_append r new h]

/-- Where a node was put there is one of its kind. -/
theorem kindAt?_put_self {root : Node} {a : Address} (new : Node)
    (h : a = [] ∨ root.IsDirectory a.dropLast) : (root.put a new).kindAt? a = some new.kind := by
  simpa [kindAt?] using kindAt?_put_append [] new h

/-- Erasing a node below a root does not change what the root is. -/
theorem kind_erase (root : Node) (a : Address) : (root.erase a).kind = root.kind := by
  cases root with
  | file content => cases a <;> rfl
  | directory entries =>
    cases a with
    | nil => rfl
    | cons name rest =>
      cases rest with
      | nil => rfl
      | cons next more =>
        simp only [erase]
        split <;> rfl

/-- What is taken away is gone with all that was in it. -/
theorem kindAt?_erase_append {a : Address} (ha : a ≠ []) (root : Node) (r : Address) :
    (root.erase a).kindAt? (a ++ r) = none := by
  induction a generalizing root with
  | nil => exact absurd rfl ha
  | cons name rest ih =>
    cases root with
    | file content => simp [kindAt?, erase, get?]
    | directory entries =>
      cases rest with
      | nil => simp [kindAt?, erase, get?, lookup_dropEntry]
      | cons next more =>
        cases hl : entries.lookup name with
        | none => simp [kindAt?, erase, hl, get?]
        | some node =>
          simpa [kindAt?, erase, hl, get?, lookup_setEntry] using ih (by simp) node

/-- Taking something away changes nothing elsewhere. -/
theorem kindAt?_erase_elsewhere {root : Node} {a b : Address} (h : ¬ a <+: b) :
    (root.erase a).kindAt? b = root.kindAt? b := by
  induction a generalizing root b with
  | nil => exact absurd List.nil_prefix h
  | cons name rest ih =>
    cases b with
    | nil => simp [kindAt?, kind_erase]
    | cons other more =>
      cases root with
      | file content => simp [kindAt?, erase]
      | directory entries =>
        cases rest with
        | nil =>
          have hname : other ≠ name := by
            rintro rfl
            exact h (by simp)
          simp [kindAt?, erase, get?, lookup_dropEntry, hname]
        | cons next last =>
          cases hl : entries.lookup name with
          | none => simp [kindAt?, erase, hl]
          | some node =>
            by_cases hname : other = name
            · subst hname
              have hmore : ¬ next :: last <+: more := fun hp => h (by simpa using hp)
              simpa [kindAt?, erase, hl, get?, lookup_setEntry] using ih hmore
            · simp [kindAt?, erase, hl, get?, lookup_setEntry, hname]

end Node

end TypedClient.Files
