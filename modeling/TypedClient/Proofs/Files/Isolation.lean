import TypedClient.Proofs.Files.Writer

/-!
# Writers on one directory

Any number of writers may be at work on one directory, each step of each of them at any time. Between two
steps `Orderly` holds. Each batch is written as if its writer had been alone, nothing but that is seen
outside the staging directories, and in the end none of these is left (`Files.isolated_session`).
-/

namespace TypedClient.Files

/-- A world and the writers that are at work there, each with a number. -/
structure Desk where
  world : World
  writers : Nat → Option Writer

/-- What one of the writers does next. -/
inductive Move
  | start (slot : Nat)
  | stage (slot : Nat) (file : Generated)
  | commit (slot : Nat)
  | drop (slot : Nat)

/-- The desk after a move. A number that is taken is not given to another writer, and one that no writer has
is not heard of. -/
def Desk.finish (target : Path) (desk : Desk) : Move → Desk
  | .start slot =>
    match desk.writers slot with
    | some _ => desk
    | none =>
      match desk.world.run (Batch.start target) with
      | (.ok batch, world) => ⟨world, Function.update desk.writers slot (some ⟨batch, []⟩)⟩
      | (.error _, world) => ⟨world, desk.writers⟩
  | .stage slot file =>
    match desk.writers slot with
    | none => desk
    | some writer =>
      let (result, world) := desk.world.run (writer.batch.stage file)
      ⟨world, Function.update desk.writers slot
        (some ⟨writer.batch.resume result, writer.calls ++ [file]⟩)⟩
  | .commit slot =>
    match desk.writers slot with
    | none => desk
    | some writer =>
      ⟨(desk.world.run writer.batch.commit).2, Function.update desk.writers slot none⟩
  | .drop slot =>
    match desk.writers slot with
    | none => desk
    | some writer =>
      ⟨(desk.world.run writer.batch.discard).2, Function.update desk.writers slot none⟩

/-- The desk after some moves. -/
def Desk.finishAll (target : Path) : Desk → List Move → Desk
  | desk, [] => desk
  | desk, move :: rest => (desk.finish target move).finishAll target rest

/-- An address outside the staging directories of all writers. -/
def Desk.IsOutside (desk : Desk) (a : Address) : Prop :=
  ∀ slot writer, desk.writers slot = some writer → ¬ writer.batch.area <+: a

/-- Whether the files of a move lie outside all staging directories. -/
def Move.IsOutside : Move → Prop
  | stage _ file => (Path.ofString file.name).IsOutside
  | _ => True

/-- What a move means to the others. -/
def Desk.Isolates (target : Path) (desk : Desk) (move : Move) : Prop :=
  match move with
  | .commit slot => ∀ writer, desk.writers slot = some writer →
    ∀ other : World, (∀ a, desk.IsOutside a → other.files.kindAt? a = desk.world.files.kindAt? a) →
      (desk.world.run writer.batch.commit).1 = (other.run (writeAlone target writer.calls)).1 ∧
      ∀ a, desk.IsOutside a → (desk.finish target (.commit slot)).world.files.kindAt? a =
        (other.run (writeAlone target writer.calls)).2.files.kindAt? a
  | _ => ∀ a, desk.IsOutside a → (desk.finish target move).IsOutside a →
    (desk.finish target move).world.files.kindAt? a = desk.world.files.kindAt? a

/-- All moves of a session leave the others in peace. -/
def Desk.IsolatesAll (target : Path) : Desk → List Move → Prop
  | _, [] => True
  | desk, move :: rest => desk.Isolates target move ∧ (desk.finish target move).IsolatesAll target rest

variable {target : Path} {n : Nat} {writer : Writer} {world started after : World} {batch : Batch}
  {file : Generated} {result : Except BatchFault Batch} {desk : Desk} {before : Node} {slot : Nat}

/-! ## The desk -/

/-- A desk between two moves. The tree that it started with is there to tell which staging directories are
old. -/
structure Orderly (target : Path) (before : Node) (desk : Desk) : Prop where
  paved : desk.world.files.Paved target
  working : ∀ slot writer, desk.writers slot = some writer →
    ∃ n, writer.Working target n desk.world.files
  apart : ∀ i j v w, desk.writers i = some v → desk.writers j = some w → i ≠ j →
    v.batch.area ≠ w.batch.area
  fresh : ∀ slot writer, desk.writers slot = some writer →
    ∀ r, before.kindAt? (writer.batch.area ++ r) = none
  old : ∀ n, (∀ slot writer, desk.writers slot = some writer →
      writer.batch.area ≠ target.address ++ [stagingName n]) →
    ∀ r, desk.world.files.kindAt? (target.address ++ stagingName n :: r) =
      before.kindAt? (target.address ++ stagingName n :: r)

theorem orderly_start (hpaved : world.files.Paved target) :
    Orderly target world.files ⟨world, fun _ => none⟩ where
  paved := hpaved
  working _ _ hwriter := by cases hwriter
  apart _ _ _ _ hwriter := by cases hwriter
  fresh _ _ hwriter := by cases hwriter
  old _ _ _ := rfl

namespace Orderly

variable (h : Orderly target before desk)

include h

theorem area_ne {j : Nat} {v w : Writer} {k : Nat} (hv : desk.writers slot = some v)
    (hw : desk.writers j = some w) (hne : j ≠ slot) (hk : w.batch.area = target.address ++ [stagingName k])
    (hn : v.batch.area = target.address ++ [stagingName n]) : k ≠ n := by
  rintro rfl
  exact h.apart j slot w v hw hv hne (hk.trans hn.symm)

/-- One writer has moved, or there is a new one. -/
theorem update {next : Option Writer} (hpaved : world.files.Paved target)
    (hkept : ∀ j writer, j ≠ slot → desk.writers j = some writer → ∀ r,
      world.files.kindAt? (writer.batch.area ++ r) = desk.world.files.kindAt? (writer.batch.area ++ r))
    (hnext : ∀ writer, next = some writer → (∃ n, writer.Working target n world.files) ∧
      (∀ r, before.kindAt? (writer.batch.area ++ r) = none) ∧
      ∀ j other, j ≠ slot → desk.writers j = some other → writer.batch.area ≠ other.batch.area)
    (hold : ∀ n, (∀ j writer, j ≠ slot → desk.writers j = some writer →
        writer.batch.area ≠ target.address ++ [stagingName n]) →
      (∀ writer, next = some writer → writer.batch.area ≠ target.address ++ [stagingName n]) →
      ∀ r, world.files.kindAt? (target.address ++ stagingName n :: r) =
        before.kindAt? (target.address ++ stagingName n :: r)) :
    Orderly target before ⟨world, Function.update desk.writers slot next⟩ := by
  have hthere : ∀ {j writer}, Function.update desk.writers slot next j = some writer →
      j = slot ∧ next = some writer ∨ j ≠ slot ∧ desk.writers j = some writer := by
    intro j writer hwriter
    by_cases hj : j = slot
    · subst hj
      rw [Function.update_self] at hwriter
      exact .inl ⟨rfl, hwriter⟩
    · rw [Function.update_of_ne hj] at hwriter
      exact .inr ⟨hj, hwriter⟩
  refine ⟨hpaved, fun j writer hwriter => ?_, fun i j v w hv hw hne => ?_, fun j writer hwriter => ?_,
    fun n hn => hold n (fun j writer hj hwriter => ?_) fun writer hwriter => ?_⟩
  · rcases hthere hwriter with ⟨-, hnew⟩ | ⟨hj, hother⟩
    · exact (hnext writer hnew).1
    · obtain ⟨n, hworking⟩ := h.working j writer hother
      exact ⟨n, hworking.frame hpaved (hkept j writer hj hother)⟩
  · rcases hthere hv with ⟨rfl, hnew⟩ | ⟨hi, hother⟩ <;> rcases hthere hw with ⟨rfl, hlast⟩ | ⟨hj, hmore⟩
    · exact absurd rfl hne
    · exact (hnext v hnew).2.2 j w hj hmore
    · exact ((hnext w hlast).2.2 i v hi hother).symm
    · exact h.apart i j v w hother hmore hne
  · rcases hthere hwriter with ⟨-, hnew⟩ | ⟨-, hother⟩
    · exact (hnext writer hnew).2.1
    · exact h.fresh j writer hother
  · exact hn j writer ((Function.update_of_ne hj _ _).trans hwriter)
  · exact hn slot writer (hwriter ▸ Function.update_self slot next desk.writers)

/-- A writer is done, and its staging directory is gone. -/
theorem remove (hwriter : desk.writers slot = some writer)
    (hworking : writer.Working target n desk.world.files) (hpaved : world.files.Paved target)
    (hgone : ∀ r, world.files.kindAt? (target.address ++ stagingName n :: r) = none)
    (hkept : ∀ m r, m ≠ n → world.files.kindAt? (target.address ++ stagingName m :: r) =
      desk.world.files.kindAt? (target.address ++ stagingName m :: r)) :
    Orderly target before ⟨world, Function.update desk.writers slot none⟩ := by
  refine h.update hpaved (fun j other hj hother r => ?_) (fun _ hnone => by cases hnone)
    fun m hm _ r => ?_
  · obtain ⟨k, hk⟩ := h.working j other hother
    rw [hk.area_eq, List.append_assoc, List.singleton_append]
    exact hkept k r (h.area_ne hwriter hother hj hk.area_eq hworking.area_eq)
  · by_cases hmn : m = n
    · have hfresh := h.fresh slot writer hwriter r
      rw [hworking.area_eq, List.append_assoc, List.singleton_append] at hfresh
      rw [hmn, hgone, hfresh]
    · rw [hkept m r hmn]
      refine h.old m (fun j other hother => ?_) r
      by_cases hj : j = slot
      · obtain rfl : writer = other := Option.some.inj (hwriter.symm.trans (hj ▸ hother))
        rw [hworking.area_eq]
        intro heq
        exact hmn (World.stagingName_injective (List.singleton_inj.mp (List.append_cancel_left heq))).symm
      · exact hm j other hj hother

/-! Each move keeps the desk in order. -/

/-- What a writer that starts does to the desk. -/
theorem start (hfree : desk.writers slot = none)
    (hstart : desk.world.run (Batch.start target) = (.ok batch, started)) :
    Orderly target before ⟨started, Function.update desk.writers slot (some ⟨batch, []⟩)⟩ := by
  obtain ⟨n, hworking⟩ := working_of_start h.paved hstart
  have hmissing := Batch.kindAt?_area_before h.paved hstart
  -- no other writer has this directory, for it was not there
  have hnew : ∀ j other, desk.writers j = some other → batch.area ≠ other.batch.area := by
    intro j other hother heq
    obtain ⟨k, hk⟩ := h.working j other hother
    have hnone := hmissing []
    rw [List.append_nil, heq] at hnone
    exact hk.filling.area.ne_none hnone
  have harea : batch.area = target.address ++ [stagingName n] := hworking.area_eq
  refine h.update ?_ (fun j other _ hother r => ?_) (fun writer hwriter => ?_) fun m hm hnext r => ?_
  · exact hworking.paved
  · obtain ⟨k, hk⟩ := h.working j other hother
    refine Batch.kindAt?_of_start h.paved hstart ?_
    rw [harea, hk.area_eq, List.append_assoc]
    refine Batch.not_staging_prefix ?_ _ r
    rintro rfl
    exact hnew j other hother (harea.trans hk.area_eq.symm)
  · obtain rfl := Option.some.inj hwriter
    refine ⟨⟨n, hworking⟩, fun r => ?_, fun j other _ hother => hnew j other hother⟩
    change before.kindAt? (batch.area ++ r) = none
    rw [harea, List.append_assoc, List.singleton_append, ← h.old n, ← List.singleton_append,
      ← List.append_assoc, ← harea, hmissing]
    intro j other hother heq
    exact hnew j other hother (harea.trans heq.symm)
  · have hmn : m ≠ n := by
      rintro rfl
      exact hnext ⟨batch, []⟩ rfl harea
    rw [Batch.kindAt?_of_start h.paved hstart (harea ▸ Batch.not_staging_prefix hmn _ r)]
    refine h.old m (fun j other hother => ?_) r
    by_cases hj : j = slot
    · rw [hj, hfree] at hother
      cases hother
    · exact hm j other hj hother

/-- What a writer that tries to stage a file does to the desk. -/
theorem stage (hwriter : desk.writers slot = some writer)
    (hfile : (Path.ofString file.name).IsOutside)
    (hrun : desk.world.run (writer.batch.stage file) = (result, after)) :
    Orderly target before ⟨after, Function.update desk.writers slot
      (some ⟨writer.batch.resume result, writer.calls ++ [file]⟩)⟩ := by
  obtain ⟨n, hworking⟩ := h.working slot writer hwriter
  have hnext := hworking.stage hfile hrun
  have harea : (writer.batch.resume result).area = writer.batch.area :=
    hnext.area_eq.trans hworking.area_eq.symm
  have helsewhere := fun a => hworking.filling.kindAt?_of_stage (a := a) hfile.toIsOrdinary hrun
  rw [hworking.area_eq] at helsewhere
  refine h.update hnext.paved (fun j other hj hother r => ?_) (fun new hnew => ?_) fun m hm hown r => ?_
  · obtain ⟨k, hk⟩ := h.working j other hother
    have hkn := h.area_ne hwriter hother hj hk.area_eq hworking.area_eq
    rw [hk.area_eq, List.append_assoc]
    exact helsewhere _ (Batch.not_staging_prefix hkn _ r)
  · obtain rfl := Option.some.inj hnew
    refine ⟨⟨n, hnext⟩, fun r => ?_, fun j other hj hother => ?_⟩
    · exact harea.symm ▸ h.fresh slot writer hwriter r
    · exact harea.symm ▸ h.apart slot j writer other hwriter hother hj.symm
  · have hmn : m ≠ n := by
      rintro rfl
      exact hown _ rfl hnext.area_eq
    rw [helsewhere _ (Batch.not_staging_prefix hmn _ r)]
    refine h.old m (fun j other hother => ?_) r
    by_cases hj : j = slot
    · obtain rfl : writer = other := Option.some.inj (hwriter.symm.trans (hj ▸ hother))
      exact harea ▸ hown _ rfl
    · exact hm j other hj hother

/-- What a writer that writes its batch does to the desk. -/
theorem commit (hwriter : desk.writers slot = some writer) :
    Orderly target before
      ⟨(desk.world.run writer.batch.commit).2, Function.update desk.writers slot none⟩ := by
  obtain ⟨n, hworking⟩ := h.working slot writer hwriter
  obtain ⟨hpaved, hgone, hkept⟩ := hworking.filling.kindAt?_of_commit
    (hworking.aim.symm ▸ hworking.staging) hworking.outside
    (Prod.eta (desk.world.run writer.batch.commit)).symm
  rw [hworking.aim] at hpaved hkept
  rw [hworking.area_eq] at hgone
  exact h.remove hwriter hworking hpaved (fun r => by simpa using hgone r) fun m r hm => hkept m r hm

/-- What a writer that gives up does to the desk. -/
theorem drop (hwriter : desk.writers slot = some writer) :
    Orderly target before
      ⟨(desk.world.run writer.batch.discard).2, Function.update desk.writers slot none⟩ := by
  obtain ⟨n, hworking⟩ := h.working slot writer hwriter
  obtain ⟨hgone, hkept⟩ := hworking.filling.kindAt?_of_discard
    (hworking.aim.symm ▸ hworking.staging) hworking.outside
  rw [hworking.area_eq] at hgone hkept
  refine h.remove hwriter hworking ⟨?_, fun v hv => ?_⟩ (fun r => by simpa using hgone r)
    fun m r hm => hkept _ (Batch.not_staging_prefix hm _ r)
  · rw [Node.IsDirectory, hkept [] (by simp)]
    exact h.paved.start
  · rw [Node.IsDirectory, hkept v (hworking.separate v hv)]
    exact h.paved.trail v hv

/-- A move keeps the desk in order. -/
theorem finish {move : Move} (hmove : move.IsOutside) : Orderly target before (desk.finish target move) := by
  cases move with
  | start slot =>
    rw [Desk.finish]
    split
    · exact h
    next hfree =>
      obtain ⟨batch, started, hstart⟩ := Batch.exists_start_of_paved h.paved
      rw [hstart]
      exact h.start hfree hstart
  | stage slot file =>
    rw [Desk.finish]
    split
    · exact h
    next writer hwriter =>
      cases hrun : desk.world.run (writer.batch.stage file) with
      | mk result after => exact h.stage hwriter hmove hrun
  | commit slot =>
    rw [Desk.finish]
    split
    · exact h
    next writer hwriter => exact h.commit hwriter
  | drop slot =>
    rw [Desk.finish]
    split
    · exact h
    next writer hwriter => exact h.drop hwriter

/-- Shared addresses are outside the staging directories at the desk. -/
theorem isOutside_of_isShared (ha : IsShared target a) : desk.IsOutside a := by
  intro slot writer hwriter
  obtain ⟨n, hworking⟩ := h.working slot writer hwriter
  rw [hworking.area_eq]
  exact ha n hworking.separate

/-- A batch is written as if its writer had been alone. -/
theorem isolates_commit (slot : Nat) : desk.Isolates target (.commit slot) := by
  intro writer hwriter other hsame
  obtain ⟨n, hworking⟩ := h.working slot writer hwriter
  have hshared : ∀ a, IsShared target a → other.files.kindAt? a = desk.world.files.kindAt? a :=
    fun a ha => hsame a (h.isOutside_of_isShared ha)
  have hpaved : other.files.Paved target := by
    refine ⟨(hshared [] fun k _ hpre => by simp at hpre).trans h.paved.start, fun v hv => ?_⟩
    exact (hshared v fun k hk => hk v hv).trans (h.paved.trail v hv)
  obtain ⟨hresult, heffect, hold⟩ := hworking.commit_eq hpaved hshared
  refine ⟨hresult, fun a ha => ?_⟩
  have hfinish : (desk.finish target (.commit slot)).world = (desk.world.run writer.batch.commit).2 := by
    rw [Desk.finish, hwriter]
  rw [hfinish]
  by_cases hin : IsShared target a
  · exact heffect a hin
  · -- an old staging directory stays as it is, in both worlds
    simp only [IsShared, not_forall, not_not] at hin
    obtain ⟨k, -, r, rfl⟩ := hin
    have hkn : k ≠ n := by
      rintro rfl
      exact ha slot writer hwriter (hworking.area_eq ▸ List.prefix_append _ r)
    obtain ⟨-, -, hkept⟩ := hworking.filling.kindAt?_of_commit
      (hworking.aim.symm ▸ hworking.staging) hworking.outside
      (Prod.eta (desk.world.run writer.batch.commit)).symm
    have hsame := hsame _ ha
    rw [List.append_assoc, List.singleton_append] at hsame ⊢
    rw [hworking.aim] at hkept
    rw [hkept k r hkn, hold k r, hsame]

/-- Each move leaves the others in peace. -/
theorem isolates {move : Move} (hmove : move.IsOutside) : desk.Isolates target move := by
  cases move with
  | start slot =>
    intro a _ hafter
    rw [Desk.finish] at hafter ⊢
    split at hafter
    next hwriter => rfl
    next hfree =>
      obtain ⟨batch, started, hstart⟩ := Batch.exists_start_of_paved h.paved
      rw [hstart] at hafter ⊢
      exact Batch.kindAt?_of_start h.paved hstart (hafter slot ⟨batch, []⟩ (Function.update_self ..))
  | stage slot file =>
    intro a ha _
    rw [Desk.finish]
    split
    · rfl
    next writer hwriter =>
      obtain ⟨n, hworking⟩ := h.working slot writer hwriter
      cases hrun : desk.world.run (writer.batch.stage file) with
      | mk result after =>
        exact hworking.filling.kindAt?_of_stage hmove.toIsOrdinary hrun (ha slot writer hwriter)
  | commit slot => exact h.isolates_commit slot
  | drop slot =>
    intro a ha _
    rw [Desk.finish]
    split
    · rfl
    next writer hwriter =>
      obtain ⟨n, hworking⟩ := h.working slot writer hwriter
      exact (hworking.filling.kindAt?_of_discard (hworking.aim.symm ▸ hworking.staging)
        hworking.outside).2 a (ha slot writer hwriter)

theorem isolatesAll {moves : List Move} (hmoves : ∀ move ∈ moves, move.IsOutside) :
    desk.IsolatesAll target moves ∧ Orderly target before (desk.finishAll target moves) := by
  induction moves generalizing desk with
  | nil => exact ⟨trivial, h⟩
  | cons move rest ih =>
    obtain ⟨hmove, hrest⟩ := List.forall_mem_cons.mp hmoves
    obtain ⟨hlater, hend⟩ := ih (h.finish hmove) hrest
    exact ⟨⟨h.isolates hmove, hlater⟩, hend⟩

end Orderly

/-- Writers on a directory that is there do not get in the way of each other, whatever they do and in which
order, and when all of them are done the staging directories are as they were before. -/
theorem isolated_session {moves : List Move} (hpaved : world.files.Paved target)
    (hmoves : ∀ move ∈ moves, move.IsOutside) :
    Desk.IsolatesAll target ⟨world, fun _ => none⟩ moves ∧
      ((∀ slot, (Desk.finishAll target ⟨world, fun _ => none⟩ moves).writers slot = none) →
        ∀ n r, (Desk.finishAll target ⟨world, fun _ => none⟩ moves).world.files.kindAt?
            (target.address ++ stagingName n :: r) =
          world.files.kindAt? (target.address ++ stagingName n :: r)) := by
  obtain ⟨hisolates, hend⟩ := (orderly_start hpaved).isolatesAll hmoves
  refine ⟨hisolates, fun hdone n r => hend.old n (fun slot writer hwriter => ?_) r⟩
  rw [hdone slot] at hwriter
  cases hwriter

/-! ## Two writers -/

/-- A world with a directory in which there is a file. -/
def outWorld : World :=
  .ofFiles (.directory [("out", .directory [("a.ts", .file "old".toUTF8)])])

/-- One writer writes the file anew while another one has staged it too, and then gives up. -/
def twoWriters : List Move :=
  [.start 0, .start 1, .stage 0 ⟨"a.ts", "new", .always⟩, .stage 1 ⟨"a.ts", "other", .always⟩, .commit 0,
    .drop 1]

theorem paved_outWorld : outWorld.files.Paved ⟨["out"]⟩ := by
  have htrail : Path.trail ⟨["out"]⟩ = [["out"]] := by decide
  refine ⟨rfl, ?_⟩
  rw [htrail, List.forall_mem_singleton]
  rfl

theorem isOutside_twoWriters : ∀ move ∈ twoWriters, move.IsOutside := by
  have hfile : (Path.ofString "a.ts").IsOutside := by
    refine ⟨by decide +kernel, fun n heq => ?_⟩
    have hsteps : (Path.ofString "a.ts").steps = ["a.ts"] := by decide +kernel
    rw [hsteps] at heq
    exact World.stagingName_ne_short "a.ts" (by decide) n (Option.some.inj heq).symm
  simp [twoWriters, Move.IsOutside, hfile]

theorem isolated_twoWriters :
    outWorld.files.Paved ⟨["out"]⟩ ∧ (∀ move ∈ twoWriters, move.IsOutside) ∧
      Desk.IsolatesAll ⟨["out"]⟩ ⟨outWorld, fun _ => none⟩ twoWriters ∧
      ((∀ slot, (Desk.finishAll ⟨["out"]⟩ ⟨outWorld, fun _ => none⟩ twoWriters).writers slot = none) →
        ∀ n r, (Desk.finishAll ⟨["out"]⟩ ⟨outWorld, fun _ => none⟩ twoWriters).world.files.kindAt?
            (Path.address ⟨["out"]⟩ ++ stagingName n :: r) =
          outWorld.files.kindAt? (Path.address ⟨["out"]⟩ ++ stagingName n :: r)) :=
  ⟨paved_outWorld, isOutside_twoWriters, isolated_session paved_outWorld isOutside_twoWriters⟩

end TypedClient.Files
