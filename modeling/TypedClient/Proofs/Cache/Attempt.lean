import TypedClient.Proofs.Cache.Store

/-!
# Calls that are cut short

A call that keeps a document writes two files one after the other, and may be cut short before any of
them. Whatever calls were made, each of the two files has what the last of the calls that wrote it has
written (`Cache.fileAt?_specPath_finishAll`, `Cache.fileAt?_recordPath_finishAll`), and it is as it was
before if none of them wrote it.
-/

namespace TypedClient.Cache

open Files (Node Path Store Address)

variable {world after next : World} {dir path : Path} {text : String} {rest : List (Path × String)}

/-! ## Writing files in turn -/

/-- How many of the files can be written, one after the other. -/
def countWritten : World → List (Path × String) → Nat
  | _, [] => 0
  | world, (path, text) :: rest =>
    match World.change (·.writeFile path text.toUTF8) world with
    | (.ok (), next) => countWritten next rest + 1
    | (.error _, _) => 0

/-- The first file is written and then the others are, or nothing happens. -/
theorem writeAll_cases (world : World) (path : Path) (text : String) (rest : List (Path × String)) :
    (countWritten world ((path, text) :: rest) = 0 ∧
      (world.run (writeAll ((path, text) :: rest))).2 = world) ∨
    ∃ next : World, Node.Wrote world.files next.files path.address text.toUTF8 ∧
      countWritten world ((path, text) :: rest) = countWritten next rest + 1 ∧
      (world.run (writeAll ((path, text) :: rest))).2 = (next.run (writeAll rest)).2 := by
  rw [writeAll, World.run_bind, run_writeText, countWritten]
  cases hchange : World.change (·.writeFile path text.toUTF8) world with
  | mk result next =>
    cases result with
    | ok _ => exact Or.inr ⟨next, Node.wrote_of_writeFile (run_change_ok hchange), rfl, rfl⟩
    | error fault =>
      have hsame : next = world := by
        rw [World.change] at hchange
        split at hchange <;> cases hchange
        rfl
      rw [hsame]
      exact Or.inl ⟨rfl, rfl⟩

/-! ## One call -/

/-- A call that keeps a document and its record, cut short after some of its writes. -/
structure Attempt where
  doc : Document
  record : Record
  /-- The number of files that it may write before it is cut short. -/
  writes : Nat

namespace Attempt

variable {attempt : Attempt}

/-- The files that the call writes if all goes well. -/
def files (dir : Path) (attempt : Attempt) : List (Path × String) :=
  (contents dir attempt.doc attempt.record).take attempt.writes

/-- What the call does. -/
def action (dir : Path) (attempt : Attempt) : StateM World (Except Fault Unit) := do
  match ← (Store.createDirectories dir : StateM World (Except Files.Fault Unit)) with
  | .ok () => writeAll (attempt.files dir)
  | .error fault => return .error (.io dir fault)

/-- A call that is not cut short keeps its document. -/
theorem action_eq_store (h : 2 ≤ attempt.writes) :
    attempt.action dir = store dir attempt.doc attempt.record := by
  have hfiles : attempt.files dir = contents dir attempt.doc attempt.record :=
    List.take_of_length_le h
  unfold action
  exact hfiles ▸ rfl

/-- The world after the call. -/
def finish (dir : Path) (world : World) (attempt : Attempt) : World :=
  (world.run (attempt.action dir)).2

/-- How many files the call writes. -/
def count (dir : Path) (world : World) (attempt : Attempt) : Nat :=
  match world.files.createDirectories dir with
  | (.ok (), files) => countWritten { world with files } (attempt.files dir)
  | (.error _, _) => 0

/-- Three things can happen to the files of the cache once its directory was looked after: none of them
is written, only the document is, or both are. -/
theorem count_cases (dir : Path) (hroot : world.files.IsDirectory []) (attempt : Attempt) :
    ∃ start : Node, world.files.Extended start dir.trail ∧
      ((attempt.count dir world = 0 ∧ (attempt.finish dir world).files = start) ∨
      start.Paved dir ∧ ∃ middle : Node,
        start.Wrote middle (specPath dir).address attempt.doc.canonical.toUTF8 ∧
        ((attempt.count dir world = 1 ∧ (attempt.finish dir world).files = middle) ∨
        attempt.count dir world = 2 ∧ middle.Wrote (attempt.finish dir world).files
          (recordPath dir).address attempt.record.render.toUTF8)) := by
  have hmade := Node.createDirectories_extends hroot dir
  have hpaved : (world.files.createDirectories dir).1 = .ok () →
      (world.files.createDirectories dir).2.Paved dir := Node.paved_of_createDirectories hroot
  refine ⟨(world.files.createDirectories dir).2, hmade, ?_⟩
  rw [finish, action, World.run_bind, World.gives_createDirectories, count]
  cases hresult : world.files.createDirectories dir with
  | mk result made =>
    rw [hresult] at hpaved
    cases result with
    | error fault => exact Or.inl ⟨rfl, rfl⟩
    | ok _ =>
      have hpaved := hpaved rfl
      dsimp only at hpaved ⊢
      let start : World := { world with files := made }
      -- the first file is written in the directory, and the second one after it
      have hfirst := writeAll_cases start (specPath dir) attempt.doc.canonical
      have hsecond := fun middle : World =>
        writeAll_cases middle (recordPath dir) attempt.record.render []
      rw [files, contents]
      match attempt.writes with
      | 0 => exact Or.inl ⟨rfl, rfl⟩
      | 1 =>
        rcases hfirst [] with ⟨hcount, hrun⟩ | ⟨middle, hwrote, hcount, hrun⟩
        · exact Or.inl ⟨hcount, congrArg World.files hrun⟩
        · exact Or.inr ⟨hpaved, middle.files, hwrote, Or.inl ⟨hcount, congrArg World.files hrun⟩⟩
      | n + 2 =>
        rw [List.take_of_length_le (Nat.le_add_left 2 n)]
        rcases hfirst [(recordPath dir, attempt.record.render)] with
          ⟨hcount, hrun⟩ | ⟨middle, hwrote, hcount, hrun⟩
        · exact Or.inl ⟨hcount, congrArg World.files hrun⟩
        refine Or.inr ⟨hpaved, middle.files, hwrote, ?_⟩
        rcases hsecond middle with ⟨hlast, hrest⟩ | ⟨last, hrecord, hlast, hrest⟩
        · exact Or.inl ⟨hcount.trans (congrArg (· + 1) hlast),
            congrArg World.files (hrun.trans hrest)⟩
        · refine Or.inr ⟨hcount.trans (congrArg (· + 1) hlast), ?_⟩
          rw [show (World.run start _).2.files = last.files from congrArg World.files (hrun.trans hrest)]
          exact hrecord

/-- Whether the call writes this many files. -/
def reaches (dir : Path) (n : Nat) (world : World) (attempt : Attempt) : Bool :=
  decide (n ≤ attempt.count dir world)

/-- What a call leaves: each file that it writes, and else what was there. -/
structure Leaves (dir : Path) (world : World) (attempt : Attempt) : Prop where
  directory : ∀ a, world.files.IsDirectory a → (attempt.finish dir world).files.IsDirectory a
  document : (attempt.finish dir world).files.fileAt? (specPath dir).address =
    if attempt.reaches dir 1 world then some attempt.doc.canonical.toUTF8
    else world.files.fileAt? (specPath dir).address
  record : (attempt.finish dir world).files.fileAt? (recordPath dir).address =
    if attempt.reaches dir 2 world then some attempt.record.render.toUTF8
    else world.files.fileAt? (recordPath dir).address
  paved : attempt.reaches dir 1 world → (attempt.finish dir world).files.Paved dir

theorem leaves_of_root (dir : Path) (hroot : world.files.IsDirectory []) (attempt : Attempt) :
    attempt.Leaves dir world := by
  obtain ⟨start, hmade, h⟩ := attempt.count_cases dir hroot
  have hne := specPath_ne_recordPath dir
  rcases h with ⟨hcount, hfinish⟩ | ⟨hpaved, middle, hdocument, ⟨hcount, hfinish⟩ | ⟨hcount, hrecord⟩⟩
  · refine ⟨fun a ha => hfinish ▸ hmade.isDirectory ha, ?_, ?_, ?_⟩ <;> rw [hfinish, reaches, hcount]
    · exact hmade.fileAt?_eq _
    · exact hmade.fileAt?_eq _
    · exact fun h => absurd h (by decide)
  · have hwrote := hdocument.of_extended hmade
    refine ⟨fun a ha => hfinish ▸ hwrote.directory a ha, ?_, ?_, ?_⟩ <;> rw [hfinish, reaches, hcount]
    · exact hwrote.there
    · exact hwrote.elsewhere _ hne.symm
    · exact fun _ => hdocument.paved hpaved
  · have hwrote := hdocument.of_extended hmade
    refine ⟨fun a ha => hrecord.directory a (hwrote.directory a ha), ?_, ?_, fun _ => ?_⟩
    · rw [reaches, hcount]
      exact (hrecord.elsewhere _ hne).trans hwrote.there
    · rw [reaches, hcount]
      exact hrecord.there
    · exact hrecord.paved (hdocument.paved hpaved)

end Attempt

/-! ## Calls one after the other -/

/-- The world after calls that are made one after the other. -/
def finishAll (dir : Path) : World → List Attempt → World
  | world, [] => world
  | world, attempt :: rest => finishAll dir (attempt.finish dir world) rest

/-- The last of the calls that writes this many files. -/
def lastReaching (dir : Path) (n : Nat) : World → List Attempt → Option Attempt
  | _, [] => none
  | world, attempt :: rest =>
    match lastReaching dir n (attempt.finish dir world) rest with
    | some later => some later
    | none => if attempt.reaches dir n world then some attempt else none

/-- The last of the calls that writes its document. -/
def lastDocument (dir : Path) : World → List Attempt → Option Attempt :=
  lastReaching dir 1

/-- The last of the calls that writes its record. -/
def lastRecord (dir : Path) : World → List Attempt → Option Attempt :=
  lastReaching dir 2

variable {attempts : List Attempt} {attempt : Attempt}

theorem mem_of_lastReaching {n : Nat} (h : lastReaching dir n world attempts = some attempt) :
    attempt ∈ attempts := by
  induction attempts generalizing world with
  | nil => cases h
  | cons first rest ih =>
    rw [lastReaching] at h
    split at h
    next hlater =>
      cases h
      exact List.mem_cons_of_mem _ (ih hlater)
    next =>
      split at h
      · cases h
        exact List.mem_cons_self
      · cases h

/-- If a call has written its record, one has written its document. -/
theorem exists_lastDocument (h : lastRecord dir world attempts = some attempt) :
    ∃ other, lastDocument dir world attempts = some other := by
  induction attempts generalizing world with
  | nil => cases h
  | cons first rest ih =>
    rw [lastRecord, lastReaching] at h
    rw [lastDocument, lastReaching]
    split at h
    next hlater =>
      cases h
      obtain ⟨other, hother⟩ := ih hlater
      rw [lastDocument] at hother
      rw [hother]
      exact ⟨other, rfl⟩
    next =>
      split at h
      next hreaches =>
        have hfirst : first.reaches dir 1 world := by
          rw [Attempt.reaches, decide_eq_true_eq] at hreaches ⊢
          omega
        split
        · exact ⟨_, rfl⟩
        · exact ⟨first, if_pos hfirst⟩
      next => cases h

/-- No call is cut short between its two writes. -/
def NoneBetween (dir : Path) : World → List Attempt → Prop
  | _, [] => True
  | world, attempt :: rest =>
    attempt.count dir world ≠ 1 ∧ NoneBetween dir (attempt.finish dir world) rest

/-- If no call is cut short between its two writes, the last ones that write the two files are the same. -/
theorem lastDocument_eq_lastRecord (h : NoneBetween dir world attempts) :
    lastDocument dir world attempts = lastRecord dir world attempts := by
  induction attempts generalizing world with
  | nil => rfl
  | cons first rest ih =>
    have hrest := ih h.2
    have hreaches : first.reaches dir 1 world = first.reaches dir 2 world := by
      have hcount := h.1
      rw [Attempt.reaches, Attempt.reaches, decide_eq_decide]
      omega
    rw [lastDocument, lastRecord] at hrest
    rw [lastDocument, lastRecord, lastReaching, lastReaching, hrest, hreaches]

theorem isDirectory_finishAll (hroot : world.files.IsDirectory []) {a : Address}
    (ha : world.files.IsDirectory a) : (finishAll dir world attempts).files.IsDirectory a := by
  induction attempts generalizing world with
  | nil => exact ha
  | cons attempt rest ih =>
    have hleaves := attempt.leaves_of_root dir hroot
    exact ih (hleaves.directory [] hroot) (hleaves.directory a ha)

/-- A file that each call writes, or leaves as it is, is as the last call that wrote it left it. -/
theorem fileAt?_finishAll {n : Nat} {a : Address} {content : Attempt → ByteArray}
    (hstep : ∀ (world : World) (attempt : Attempt), world.files.IsDirectory [] →
      (attempt.finish dir world).files.fileAt? a =
        if attempt.reaches dir n world then some (content attempt) else world.files.fileAt? a)
    (hroot : world.files.IsDirectory []) :
    (finishAll dir world attempts).files.fileAt? a =
      match lastReaching dir n world attempts with
      | some last => some (content last)
      | none => world.files.fileAt? a := by
  induction attempts generalizing world with
  | nil => rfl
  | cons attempt rest ih =>
    rw [finishAll, lastReaching, ih ((attempt.leaves_of_root dir hroot).directory [] hroot),
      hstep world attempt hroot]
    cases lastReaching dir n (attempt.finish dir world) rest with
    | some later => rfl
    | none =>
      dsimp only
      split <;> rfl

theorem fileAt?_specPath_finishAll (hroot : world.files.IsDirectory []) :
    (finishAll dir world attempts).files.fileAt? (specPath dir).address =
      match lastDocument dir world attempts with
      | some last => some last.doc.canonical.toUTF8
      | none => world.files.fileAt? (specPath dir).address :=
  fileAt?_finishAll (fun _ attempt hroot => (attempt.leaves_of_root dir hroot).document) hroot

theorem fileAt?_recordPath_finishAll (hroot : world.files.IsDirectory []) :
    (finishAll dir world attempts).files.fileAt? (recordPath dir).address =
      match lastRecord dir world attempts with
      | some last => some last.record.render.toUTF8
      | none => world.files.fileAt? (recordPath dir).address :=
  fileAt?_finishAll (fun _ attempt hroot => (attempt.leaves_of_root dir hroot).record) hroot

/-- If a call has written its document, the cache has a directory. -/
theorem paved_finishAll (hroot : world.files.IsDirectory [])
    (h : lastDocument dir world attempts = some attempt) :
    (finishAll dir world attempts).files.Paved dir := by
  induction attempts generalizing world with
  | nil => cases h
  | cons first rest ih =>
    have hleaves := first.leaves_of_root dir hroot
    have hroot := hleaves.directory [] hroot
    rw [lastDocument, lastReaching] at h
    split at h
    next hlater => exact ih hroot (h ▸ hlater)
    next =>
      split at h
      next hreaches =>
        have hpaved := hleaves.paved hreaches
        exact ⟨isDirectory_finishAll hroot hroot, fun v hv =>
          isDirectory_finishAll hroot (hpaved.trail v hv)⟩
      next => cases h

end TypedClient.Cache
