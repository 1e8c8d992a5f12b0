import TypedClient.Proofs.Files.Rollback

/-!
# What becomes of a batch

The tree before a batch is written decides which files are written, which are left as they are, and
which is the first that cannot be moved to its place. `Batch.course` tells this from that tree alone,
and `Batch.standing` which of the files moved are still at their places when all is over.
-/

namespace TypedClient.Files.Batch

/-- What becomes of the files of a batch. -/
structure Course where
  /-- The files that are moved to their places, the last one first. -/
  taken : List Path
  /-- The files that are left as they are. -/
  preserved : List Path
  /-- The file that cannot be moved, at which it ends. -/
  failed : Option Path
deriving DecidableEq

section

variable (batch : Batch) (before : Node) (taken : List Path) (path : Path)

/-- Whether a file with the same place was moved there before. -/
def isTaken (taken : List Path) (path : Path) : Bool :=
  taken.any fun p => p.steps = path.steps

/-- Whether a file is on the way to the place of a file. -/
def isBlocked : Bool :=
  (batch.place path).parent.trail.any fun v => (before.fileAt? v).isSome

/-- Whether the way to the target leads through the place of a file. -/
def isEntered : Bool :=
  batch.target.trail.any fun v => (batch.spot path).isPrefixOf v

/-- Whether the way to the target leads through the place of a file and further down. -/
def isDeep : Bool :=
  batch.target.trail.any fun v => (batch.spot path).isPrefixOf v && v != batch.spot path

/-- Whether something is at the place of a file once the given ones were moved. -/
def isThere : Bool :=
  isTaken taken path || (before.kindAt? (batch.spot path)).isSome

/-- Whether a file cannot be moved to its place once the given ones were. -/
def isRefused : Bool :=
  isTaken taken path || batch.isBlocked before path || batch.isEntered path

/-- What becomes of the files that are left, after some were taken and some preserved. -/
def courseFrom (taken preserved : List Path) : List Staged → Course
  | [] => ⟨taken, preserved, none⟩
  | file :: rest =>
    if file.policy = .ifMissing ∧ batch.isThere before taken file.path then
      courseFrom taken (preserved ++ [file.path]) rest
    else if batch.isRefused before taken file.path then ⟨taken, preserved, some file.path⟩
    else courseFrom (file.path :: taken) preserved rest

/-- What becomes of all files of a batch. -/
def course : Course :=
  batch.courseFrom before [] [] batch.staged

namespace Course

variable (course : Course)

/-- The files that were moved to their places and are not taken back. -/
def stays : List Path :=
  match course.failed with
  | none => course.taken
  | some path => course.taken.dropWhile fun p => !batch.isStuck before path p

/-- The file for which a directory was moved aside that does not return. -/
def hollow : Option Path :=
  course.failed.filter batch.isDeep

/-- The result for the batch. Why a file cannot be moved is a matter of the tree at that time. -/
def result (cause : Fault) : Except BatchFault Summary :=
  match course.failed with
  | none => .ok ⟨course.taken.reverse, course.preserved⟩
  | some path =>
    match course.stays batch before with
    | p :: _ => .error (.rollback (batch.place p) cause)
    | [] =>
      if batch.isDeep path then .error (.rollback (batch.place path) cause)
      else .error (.promote (batch.place path) cause)

end Course

/-- The files at whose places it is not as it was before when all is over. -/
def standing : List Path :=
  (batch.course before).stays batch before ++ ((batch.course before).hollow batch).toList

end

variable {batch : Batch} {before now : Node} {taken preserved : List Path} {path p : Path}

/-- A place is taken if a path to it was. -/
theorem isTaken_iff : isTaken taken path ↔ ∃ p ∈ taken, p.steps = path.steps := by
  simp [isTaken]

theorem isTaken_eq_false : isTaken taken path = false ↔ ∀ p ∈ taken, p.steps ≠ path.steps := by
  simp [isTaken]

/-- A path is blocked if a file is on the way to its place. -/
theorem isBlocked_iff : batch.isBlocked before path ↔
    ∃ v ∈ (batch.place path).parent.trail, before.fileAt? v ≠ none := by
  simp [isBlocked, Option.isSome_iff_ne_none]

/-- A place is entered if the way to the target leads through it. -/
theorem isEntered_iff : batch.isEntered path ↔ ∃ v ∈ batch.target.trail, batch.spot path <+: v := by
  simp [isEntered]

theorem isDeep_iff : batch.isDeep path ↔
    ∃ v ∈ batch.target.trail, batch.spot path <+: v ∧ v ≠ batch.spot path := by
  simp [isDeep]

theorem isEntered_of_isDeep (h : batch.isDeep path) : batch.isEntered path := by
  obtain ⟨v, hv, hpre, -⟩ := isDeep_iff.mp h
  exact isEntered_iff.mpr ⟨v, hv, hpre⟩

theorem Course.mem_hollow {course : Course} :
    path ∈ course.hollow batch ↔ course.failed = some path ∧ batch.isDeep path := by
  simp [hollow, Option.mem_def, Option.filter_eq_some_iff]

/-- A batch is written if none of its files fails. -/
theorem Course.result_eq_ok {course : Course} {cause : Fault} {summary : Summary} :
    course.result batch before cause = .ok summary ↔
      course.failed = none ∧ summary = ⟨course.taken.reverse, course.preserved⟩ := by
  unfold result
  split
  next hfailed => simp [hfailed, eq_comm]
  next hfailed =>
    split
    · simp [hfailed]
    · split <;> simp [hfailed]

/-- Where the way to the target leads through there is a directory. -/
theorem isDirectory_of_isEntered (hpaved : now.Paved batch.target) (h : batch.isEntered path) :
    now.IsDirectory (batch.spot path) := by
  obtain ⟨v, hv, hpre⟩ := isEntered_iff.mp h
  by_cases heq : batch.spot path = v
  · exact heq ▸ hpaved.trail v hv
  · exact Node.isDirectory_above hpre heq (hpaved.trail v hv).ne_none

/-! ## Courses of files with different places -/

/-- The files taken are staged ones, and nothing is at their places if they were to be left alone. -/
theorem exists_of_mem_courseFrom_taken {rest : List Staged}
    (h : p ∈ (batch.courseFrom before taken preserved rest).taken) :
    p ∈ taken ∨ ∃ file ∈ rest, file.path = p ∧
      (file.policy = .always ∨ before.kindAt? (batch.spot file.path) = none) := by
  induction rest generalizing taken preserved with
  | nil => exact .inl h
  | cons file rest ih =>
    have hlater : ∀ {q}, (∃ later ∈ rest, later.path = q ∧
        (later.policy = .always ∨ before.kindAt? (batch.spot later.path) = none)) →
        ∃ later ∈ file :: rest, later.path = q ∧
          (later.policy = .always ∨ before.kindAt? (batch.spot later.path) = none) := by
      rintro q ⟨later, hmem, hlater⟩
      exact ⟨later, List.mem_cons_of_mem _ hmem, hlater⟩
    rw [courseFrom] at h
    split at h
    · exact (ih h).imp_right hlater
    next hleft =>
      split at h
      · exact .inl h
      -- the file itself has joined those taken before
      · rcases ih h with hmem | hmem
        · rcases List.mem_cons.mp hmem with rfl | hmem
          · refine .inr ⟨file, List.mem_cons_self, rfl, ?_⟩
            cases hpolicy : file.policy with
            | always => exact .inl rfl
            | ifMissing =>
              right
              by_contra hthere
              refine hleft ⟨hpolicy, ?_⟩
              rw [isThere, Option.isSome_iff_ne_none.mpr hthere, Bool.or_true]
          · exact .inl hmem
        · exact .inr (hlater hmem)

/-- What is taken in the end was taken before or is one of the files. -/
theorem mem_courseFrom_taken {rest : List Staged}
    (h : p ∈ (batch.courseFrom before taken preserved rest).taken) :
    p ∈ taken ∨ p ∈ rest.map Staged.path := by
  refine (exists_of_mem_courseFrom_taken h).imp_right ?_
  rintro ⟨file, hfile, rfl, -⟩
  exact List.mem_map_of_mem hfile

/-- A file whose place no other file has fails without one having been moved there. -/
theorem not_taken_of_courseFrom_failed {rest : List Staged}
    (hdistinct : (taken.reverse ++ rest.map Staged.path).Pairwise fun p q => p.steps ≠ q.steps)
    (hfailed : (batch.courseFrom before taken preserved rest).failed = some path) :
    path ∈ rest.map Staged.path ∧
      ∀ p ∈ (batch.courseFrom before taken preserved rest).taken, p.steps ≠ path.steps := by
  -- the files taken and left never share a place, so this is kept while a file goes from one to the other
  induction rest generalizing taken preserved with
  | nil => simp [courseFrom] at hfailed
  | cons file rest ih =>
    rw [List.map_cons] at hdistinct
    have hskip : (taken.reverse ++ rest.map Staged.path).Pairwise fun p q => p.steps ≠ q.steps :=
      hdistinct.sublist ((List.Sublist.refl _).append (List.sublist_cons_self _ _))
    rw [courseFrom] at hfailed ⊢
    split at hfailed
    next hpreserved =>
      rw [if_pos hpreserved]
      exact (ih hskip hfailed).imp_left (List.mem_cons_of_mem _)
    next hpreserved =>
      rw [if_neg hpreserved]
      split at hfailed
      next hrefused =>
        obtain rfl := Option.some.inj hfailed
        rw [if_pos hrefused]
        refine ⟨List.mem_cons_self, fun p hp => ?_⟩
        exact (List.pairwise_append.mp hdistinct).2.2 p (List.mem_reverse.mpr hp) _ List.mem_cons_self
      next hrefused =>
        rw [if_neg hrefused]
        refine (ih ?_ hfailed).imp_left (List.mem_cons_of_mem _)
        simpa using hdistinct

theorem mem_paths_of_course_taken (h : p ∈ (batch.course before).taken) : p ∈ batch.paths :=
  (mem_courseFrom_taken h).resolve_left List.not_mem_nil

/-- With different places, the file that failed was not taken before. -/
theorem not_taken_of_course_failed (hdistinct : (batch.paths.map Path.steps).Nodup)
    (hfailed : (batch.course before).failed = some path) :
    path ∈ batch.paths ∧ ∀ p ∈ (batch.course before).taken, p.steps ≠ path.steps :=
  not_taken_of_courseFrom_failed (List.pairwise_map.mp hdistinct) hfailed

/-! ## Courses that do not fail -/

/-- The files taken so far stay among those taken. -/
theorem mem_courseFrom_of_taken {rest : List Staged} (h : p ∈ taken) :
    p ∈ (batch.courseFrom before taken preserved rest).taken := by
  induction rest generalizing taken preserved with
  | nil => exact h
  | cons file rest ih =>
    rw [courseFrom]
    split
    · exact ih h
    · split
      · exact h
      · exact ih (List.mem_cons_of_mem _ h)

/-- If no file fails, all those are taken that are not to be left alone. -/
theorem mem_courseFrom_of_always {file : Staged} {rest : List Staged} (hfile : file ∈ rest)
    (halways : file.policy = .always)
    (hnone : (batch.courseFrom before taken preserved rest).failed = none) :
    file.path ∈ (batch.courseFrom before taken preserved rest).taken := by
  induction rest generalizing taken preserved with
  | nil => exact absurd hfile List.not_mem_nil
  | cons next rest ih =>
    rw [courseFrom] at hnone ⊢
    split at hnone
    next hleft =>
      rw [if_pos hleft]
      rcases List.mem_cons.mp hfile with rfl | hfile
      · rw [halways] at hleft
        exact absurd hleft.1 (by decide)
      · exact ih hfile hnone
    next hleft =>
      rw [if_neg hleft]
      split at hnone
      next => exact absurd hnone (Option.some_ne_none _)
      next hrefused =>
        rw [if_neg hrefused]
        rcases List.mem_cons.mp hfile with rfl | hfile
        · exact mem_courseFrom_of_taken List.mem_cons_self
        · exact ih hfile hnone

end TypedClient.Files.Batch
