import TypedClient.Proofs.Files.Changed

/-!
# Directories that no file blocks

A path to a directory is not blocked if the directory is there, or missing without a file in the way. It
can then be made, unless its path ends in a dot (`Unblocked.createDirectories_ok_iff`). A file in such a
directory is read as its bytes say and is missing where there are none (`Unblocked.readText_child`), and one
can be written once the directory was made.
-/

namespace TypedClient.Files

/-- What is read where a file with these bytes is, or none. -/
def textOf : Option ByteArray → Except Fault String
  | none => .error .notFound
  | some content =>
    match String.fromUTF8? content with
    | some text => .ok text
    | none => .error .notText

namespace Node

variable {root : Node} {path : Path} {here : Address} {steps : List String} {name : String}
  {content : ByteArray}

/-- All that the path visits are directories; or, without two dots, as far as anything is there. -/
def Unblocked (root : Node) (path : Path) : Prop :=
  root.Paved path ∨
    root.IsDirectory [] ∧ ".." ∉ path.steps ∧ ∀ v ∈ path.trail, root.fileAt? v = none

/-- The directory that a path names is there, or the path does not end in a dot. -/
def Makeable (root : Node) (path : Path) : Prop :=
  path.endsInDot → root.IsDirectory path.address

theorem Paved.makeable (h : root.Paved path) : root.Makeable path :=
  fun _ => h.address

/-- Steps that no file blocks lead through directories only, or to where nothing is and none of them can
be taken further. -/
theorem follow_of_no_file (hdown : ".." ∉ steps) (hhere : root.fileAt? here = none)
    (hfree : ∀ v ∈ Files.trail here steps, root.fileAt? v = none) (name : String) :
    (root.IsDirectory here ∧ ∀ v ∈ Files.trail here steps, root.IsDirectory v) ∨
      root.kindAt? (here ++ steps) = none ∧
        root.follow here (steps ++ [name]) = .error .notFound := by
  induction steps generalizing here with
  | nil =>
    rcases root.kindAt?_cases here with hnone | hdir | ⟨content, hfile⟩
    · refine .inr ⟨by rwa [List.append_nil], ?_⟩
      rw [List.nil_append, follow, get?_eq_none_iff.mpr hnone]
    · exact .inl ⟨hdir, fun v hv => absurd hv List.not_mem_nil⟩
    · simp [fileAt?, hfile] at hhere
  | cons step rest ih =>
    rcases root.kindAt?_cases here with hnone | hdir | ⟨content, hfile⟩
    · refine .inr ⟨by rw [kindAt?_below_missing hnone], ?_⟩
      rw [List.cons_append, follow, get?_eq_none_iff.mpr hnone]
    · have hstep : step ≠ ".." := fun heq => hdown (heq ▸ List.mem_cons_self)
      have hrest : ".." ∉ rest := fun hmem => hdown (List.mem_cons_of_mem _ hmem)
      have hnext : takeStep here step = here ++ [step] := if_neg hstep
      obtain ⟨entries, hentries⟩ := hdir.exists_entries
      have hfollow : root.follow here (step :: rest ++ [name]) =
          root.follow (here ++ [step]) (rest ++ [name]) := by
        rw [List.cons_append, follow, hentries]
        dsimp only
        rw [if_neg hstep]
      have hbelow : here ++ step :: rest = here ++ [step] ++ rest := List.append_cons ..
      rw [Files.trail, hnext] at hfree
      rw [hfollow, Files.trail, hnext, hbelow, List.forall_mem_cons]
      rcases ih hrest (hfree _ List.mem_cons_self)
        (fun v hv => hfree v (List.mem_cons_of_mem _ hv)) with ⟨hthere, hall⟩ | hmissing
      · exact .inl ⟨hdir, hthere, hall⟩
      · exact .inr hmissing
    · simp [fileAt?, hfile] at hhere

namespace Unblocked

variable (h : root.Unblocked path)

include h

theorem start : root.IsDirectory [] :=
  h.elim Paved.start And.left

/-- What no file blocks can be made, unless it is missing and the path ends in a dot. -/
theorem createDirectories_ok_iff : (root.createDirectories path).1 = .ok () ↔ root.Makeable path := by
  rcases h with hpaved | ⟨hroot, hdown, hfree⟩
  · exact ⟨fun _ => hpaved.makeable, fun _ => hpaved.createDirectories_ok⟩
  · refine ⟨fun hok hdot => ?_, fun hmake => ensure_ok_of_no_file hroot hfree hmake⟩
    have hthere := (paved_of_createDirectories hroot hok).address
    rw [createDirectories_of_endsInDot hdot] at hthere
    -- behind a dot only what is over the directory is new
    have hmade := createDirectories_extends hroot path.parent
    by_cases hnew : path.address ∈ path.parent.trail
    · rw [Path.trail, Path.steps_parent] at hnew
      have hfront : ".." ∉ path.steps.dropLast := fun hmem => hdown (List.mem_of_mem_dropLast hmem)
      obtain ⟨q, hne, hq, heq⟩ := (mem_trail_of_ordinary hfront).mp hnew
      rw [Path.address, walk_of_ordinary hdown, List.nil_append, List.nil_append] at heq
      have hshort := hq.length_le
      have hpos := List.length_pos_of_ne_nil hne
      rw [List.length_dropLast, heq] at hshort
      omega
    · exact (hmade.eq_of_not_mem hnew).symm.trans hthere

theorem paved_createDirectories (hmake : root.Makeable path) : (root.createDirectories path).2.Paved path :=
  paved_of_createDirectories h.start (h.createDirectories_ok_iff.mpr hmake)

section

variable (hidle : Path.isIdle name = false) (hdots : name ≠ "..")

include hidle

theorem paved_or_missing : root.Paved path ∨
    root.kindAt? path.address = none ∧ root.locate (path.child name) = .error .notFound := by
  rcases h with hpaved | ⟨hroot, hdown, hfree⟩
  · exact .inl hpaved
  · have hsteps : (path.child name).steps = path.steps ++ [name] := Path.steps_child hidle
    have hempty : (path.child name).isEmpty = false :=
      Path.isEmpty_eq_false_of_steps (by rw [hsteps]; simp)
    rcases follow_of_no_file hdown (fileAt?_of_directory hroot) hfree name with
      ⟨-, hall⟩ | ⟨hnone, hfollow⟩
    · exact .inl ⟨hroot, hall⟩
    · refine .inr ⟨?_, ?_⟩
      · rw [Path.address, walk_of_ordinary hdown]
        exact hnone
      · rw [locate, hempty, hsteps]
        exact hfollow

include hdots

/-- A file is read as its bytes say. -/
theorem readText_child (hplain : ¬ root.IsDirectory (path.child name).address) :
    root.readText (path.child name) = textOf (root.fileAt? (path.child name).address) := by
  rw [Batch.address_child hidle hdots] at hplain ⊢
  rcases h.paved_or_missing hidle with hpaved | ⟨hnone, hlocate⟩
  · rcases root.kindAt?_cases (path.address ++ [name]) with hnone | hdir | ⟨content, hfile⟩
    · rw [fileAt?_of_missing hnone, readText, find, locate_child hidle hdots hpaved]
      dsimp only [bind, Except.bind]
      rw [get?_eq_none_iff.mpr hnone]
      rfl
    · exact absurd hdir hplain
    · have hcontent := fileAt?_eq_some.mpr hfile
      rw [hcontent, readText, find_child hidle hdots hpaved hcontent, textOf]
      dsimp only [bind, Except.bind]
      cases String.fromUTF8? content <;> rfl
  · have hbelow : root.kindAt? (path.address ++ [name]) = none := kindAt?_below_missing hnone
    rw [fileAt?_of_missing hbelow, readText, find, hlocate]
    rfl

/-- When the directory is made, none is made in it. -/
theorem not_isDirectory_createDirectories (hplain : ¬ root.IsDirectory (path.child name).address) :
    ¬ (root.createDirectories path).2.IsDirectory (path.child name).address := by
  rw [Batch.address_child hidle hdots] at hplain ⊢
  intro hdir
  rcases createDirectories_extends h.start path (path.address ++ [name]) with hsame | ⟨hnew, -, -⟩
  · exact hplain (hsame.symm.trans hdir)
  · rcases h with hpaved | ⟨-, hdown, -⟩
    · exact hplain (hpaved.trail _ hnew)
    · -- without two dots, no address on the way is below the last one
      obtain ⟨q, -, hq, heq⟩ := (mem_trail_of_ordinary hdown).mp hnew
      rw [Path.address, walk_of_ordinary hdown, List.nil_append, List.nil_append] at heq
      have hlength := hq.length_le
      rw [← heq, List.length_append, List.length_singleton] at hlength
      omega

end

end Unblocked

/-- In a directory that a path leads to a file is written where no directory is, and what is not below it
stays as it was. -/
theorem exists_writeFile_child (hidle : Path.isIdle name = false) (hdots : name ≠ "..")
    (hpaved : root.Paved path) (hplain : ¬ root.IsDirectory (path.child name).address)
    (content : ByteArray) :
    ∃ after, root.writeFile (path.child name) content = .ok after ∧ after.Paved path ∧
      ∀ b, ¬ (path.child name).address <+: b → after.kindAt? b = root.kindAt? b := by
  have hlocate : root.locate (path.child name) = .ok (path.child name).address := by
    rw [locate_child hidle hdots hpaved, Batch.address_child hidle hdots]
  have hwrite : root.writeFile (path.child name) content =
      .ok (root.put (path.child name).address (.file content)) :=
    (writeFile_eq_ok_iff hlocate).mpr ⟨hplain, demandsDirectory_child hidle hdots, rfl⟩
  exact ⟨_, hwrite, (wrote_of_writeFile hwrite).paved hpaved, fun b hb => kindAt?_put_elsewhere hb⟩

end Node

end TypedClient.Files
