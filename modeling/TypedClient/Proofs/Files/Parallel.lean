import TypedClient.Proofs.Files.Alike

/-!
# Batches side by side

Two batches with the same files and the same target do the same in trees that are alike, wherever their
staging directories are: they stage files with the same results (`Batch.Paired.stageEach`), and they are
written with the same result and the same effect on what the two trees share (`Batch.Paired.commit`).
-/

namespace TypedClient

open Files

/-! ## Actions side by side -/

namespace World

variable {α β γ δ : Type} {pairing : Pairing} {R : α → β → Prop} {S : γ → δ → Prop}

/-- Two actions that have related results in worlds whose trees are alike, and leave such worlds. -/
def Parallel (pairing : Pairing) (R : α → β → Prop) (x : StateM World α) (y : StateM World β) : Prop :=
  ∀ one other : World, Node.Alike pairing one.files other.files →
    R (one.run x).1 (other.run y).1 ∧ Node.Alike pairing (one.run x).2.files (other.run y).2.files

/-- Results that are related are so in any worlds. -/
theorem parallel_pure {a : α} {b : β} (h : R a b) : Parallel pairing R (pure a) (pure b) :=
  fun _ _ halike => ⟨h, halike⟩

/-- Actions one after the other run in parallel if each of them does. -/
theorem Parallel.bind {x : StateM World α} {y : StateM World β} {f : α → StateM World γ}
    {g : β → StateM World δ} (hx : Parallel pairing R x y)
    (hf : ∀ a b, R a b → Parallel pairing S (f a) (g b)) : Parallel pairing S (x >>= f) (y >>= g) := by
  intro one other halike
  obtain ⟨hresult, hafter⟩ := hx one other halike
  exact hf _ _ hresult _ _ hafter

/-- An operation that gives a tree or a fault. -/
theorem parallel_change {f g : Node → Except Fault Node}
    (h : ∀ x y, Node.Alike pairing x y → SameResult (Node.Alike pairing) (f x) (g y)) :
    Parallel pairing Eq (change f) (change g) := by
  intro one other halike
  have hresult := h _ _ halike
  simp only [run, change]
  generalize f one.files = left at hresult
  generalize g other.files = right at hresult
  cases hresult with
  | error fault => exact ⟨rfl, halike⟩
  | ok hafter => exact ⟨rfl, hafter⟩

end World

namespace Files

variable {pairing : Pairing} {path other source target source' target' : Path}

theorem parallel_hasPath (hpath : pairing.PairsPath path other) :
    World.Parallel pairing Eq (Store.hasPath path) (Store.hasPath other) :=
  fun _ _ halike => ⟨halike.hasPath hpath, halike⟩

/-- The directories over paired paths are made in both worlds, or in neither of them. -/
theorem parallel_createDirectories (hpath : pairing.PairsPath path other) :
    World.Parallel pairing Eq (Store.createDirectories path.parent)
      (Store.createDirectories other.parent) := fun _ _ halike =>
  halike.createDirectories hpath.parent (by rw [Path.endsInDot_parent, Path.endsInDot_parent]) halike.root

/-- Writing a file, with the directories over it, runs in parallel. -/
theorem parallel_writeWithParents {content : String} (hpath : pairing.PairsPath path other)
    (hbelow : pairing.PairsBelow path.address other.address) :
    World.Parallel pairing Eq (writeWithParents path content) (writeWithParents other content) := by
  refine (parallel_createDirectories hpath).bind fun result _ hresult => ?_
  subst hresult
  cases result with
  | error fault => exact World.parallel_pure rfl
  | ok _ => exact World.parallel_change fun _ _ halike => halike.writeFile hpath hbelow

section

variable (hsource : pairing.PairsPath source source') (htarget : pairing.PairsPath target target')
  (hab : pairing.PairsBelow source.address source'.address)
  (hcd : pairing.PairsBelow target.address target'.address)
  (hapart : Apart source.address target.address)

include hsource htarget hab hcd hapart

theorem parallel_rename :
    World.Parallel pairing Eq (Store.rename source target) (Store.rename source' target') :=
  World.parallel_change fun _ _ halike => halike.rename hsource htarget hab hcd hapart

/-- So does moving a file to where the directories over it are made first. -/
theorem parallel_renameWithParents :
    World.Parallel pairing Eq (renameWithParents source target) (renameWithParents source' target') := by
  refine (parallel_createDirectories htarget).bind fun result _ hresult => ?_
  subst hresult
  cases result with
  | error fault => exact World.parallel_pure rfl
  | ok _ => exact parallel_rename hsource htarget hab hcd hapart

end

theorem parallel_removeFile (hpath : pairing.PairsPath path other)
    (hbelow : pairing.PairsBelow path.address other.address) :
    World.Parallel pairing Eq (Store.removeFile path) (Store.removeFile other) :=
  World.parallel_change fun _ _ halike => halike.removeFile hpath hbelow

/-! ## Two batches -/

namespace Batch

variable {batch twin : Batch} {file : Generated} {files : List Generated}

/-- Two batches with the same files and the same target, of which the trees share the way. -/
structure Paired (pairing : Pairing) (batch twin : Batch) : Prop where
  target : twin.target = batch.target
  staged : twin.staged = batch.staged
  staging : ∃ name, Path.isIdle name = false ∧ name ≠ ".." ∧ batch.staging = batch.target.child name
  twinStaging : ∃ name, Path.isIdle name = false ∧ name ≠ ".." ∧ twin.staging = batch.target.child name
  left : pairing.left = batch.area
  right : pairing.right = twin.area
  start : pairing.shared []
  way : ∀ v ∈ batch.target.trail, pairing.shared v

/-- A path of which two trees share the place, with what is over it and below it. -/
structure SharesPlace (pairing : Pairing) (batch : Batch) (path : Path) : Prop where
  ordinary : path.IsOrdinary
  named : path.segments ≠ []
  above : ∀ q, q <+: path.steps → pairing.shared (batch.target.address ++ q)
  below : ∀ r, pairing.shared (batch.spot path ++ r)

/-- The batch that goes on after it tried to stage a file. -/
def resume (batch : Batch) : Except BatchFault Batch → Batch
  | .ok next => next
  | .error _ => batch

/-- Stages files one after the other, whatever comes of each. -/
def stageEach (batch : Batch) : List Generated → StateM World Batch
  | [] => return batch
  | file :: rest => do
    let result ← (batch.stage file : StateM World (Except BatchFault Batch))
    (batch.resume result).stageEach rest

namespace Paired

variable (h : Paired pairing batch twin)

include h

/-- Both batches have the same places. -/
theorem place_eq (path : Path) : twin.place path = batch.place path := by
  rw [place, place, h.target]

/-- Paths into the two staging directories that are the same there. -/
theorem pairsPath_stored {s : String} (hidle : Path.isIdle s = false) (hdots : s ≠ "..")
    (hord : path.IsOrdinary) (hnamed : path.segments ≠ []) :
    pairing.PairsPath ((batch.staging.child s).join path) ((twin.staging.child s).join path) := by
  obtain ⟨name, hname, hup, hstaging⟩ := h.staging
  obtain ⟨other, hother, hup', htwin⟩ := h.twinStaging
  have hsteps : ((batch.staging.child s).join path).steps =
      batch.target.steps ++ name :: s :: path.steps := by
    simp [Path.steps_join hord.relative, Path.steps_child hidle, hstaging, Path.steps_child hname]
  have hsteps' : ((twin.staging.child s).join path).steps =
      batch.target.steps ++ other :: s :: path.steps := by
    simp [Path.steps_join hord.relative, Path.steps_child hidle, htwin, Path.steps_child hother]
  have hdown : ".." ∉ s :: path.steps := by
    rw [List.mem_cons, not_or]
    exact ⟨hdots.symm, hord.down⟩
  have hleft : takeStep batch.target.address name = pairing.left ++ [] := by
    rw [takeStep, if_neg hup, List.append_nil, h.left, area, hstaging, address_child hname hup]
  have hright : takeStep batch.target.address other = pairing.right ++ [] := by
    rw [takeStep, if_neg hup', List.append_nil, h.right, area, htwin, address_child hother hup']
  have htarget : pairing.shared batch.target.address := by
    by_cases hnil : batch.target.steps = []
    · rw [Path.address, hnil]
      exact h.start
    · exact h.way _ (walk_mem_trail hnil)
  refine ⟨?_, ?_, ?_⟩
  · rw [Path.isEmpty_eq_false_of_steps (by simp [hsteps]),
      Path.isEmpty_eq_false_of_steps (by simp [hsteps'])]
  · rw [Path.demandsDirectory_join hord.relative hnamed, Path.demandsDirectory_join hord.relative hnamed]
  · rw [hsteps, hsteps']
    refine (Pairing.pairsSteps_of_shared h.start h.way).append ?_
    change pairing.PairsSteps batch.target.address batch.target.address _ _
    refine .cons (.inl ⟨htarget, rfl⟩) (by simp [hup, hup']) ?_
    rw [hleft, hright]
    exact Pairing.pairsSteps_of_area [] hdown

/-- What waits in the one batch belongs to what waits in the other. -/
theorem pairsBelow_ready (hord : path.IsOrdinary) :
    pairing.PairsBelow (batch.readyAt path) (twin.readyAt path) := by
  rw [readyAt_eq hord, readyAt_eq hord, ← h.left, ← h.right]
  exact .inr ⟨_, List.cons_ne_nil _ _, rfl, rfl⟩

/-- What is kept in the one batch belongs to what is kept in the other. -/
theorem pairsBelow_kept (hord : path.IsOrdinary) :
    pairing.PairsBelow (batch.keptAt path) (twin.keptAt path) := by
  rw [keptAt_eq hord, keptAt_eq hord, ← h.left, ← h.right]
  exact .inr ⟨_, List.cons_ne_nil _ _, rfl, rfl⟩

/-! ## Staging -/

/-- A file is staged in both or fails to be for the same reason. -/
theorem stage (hord : (Path.ofString file.name).IsOrdinary) :
    World.Parallel pairing (SameResult (Paired pairing)) (batch.stage file) (twin.stage file) := by
  have hpath := h.pairsPath_stored (s := "staged") rfl (by decide) hord
    (Path.segments_ofString_ne_nil file.name)
  refine (parallel_writeWithParents hpath (h.pairsBelow_ready hord)).bind fun result _ hresult => ?_
  subst hresult
  cases result with
  | error fault => exact World.parallel_pure (.error _)
  | ok _ =>
    refine World.parallel_pure (.ok { h with staged := ?_ })
    rw [h.staged]

/-- The batches go on as a pair. -/
theorem resume {result other : Except BatchFault Batch} (hresult : SameResult (Paired pairing) result other) :
    Paired pairing (batch.resume result) (twin.resume other) := by
  cases hresult with
  | error fault => exact h
  | ok hnext => exact hnext

omit h in
/-- So it is with several files. -/
theorem stageEach (h : Paired pairing batch twin)
    (hord : ∀ file ∈ files, (Path.ofString file.name).IsOrdinary) :
    World.Parallel pairing (Paired pairing) (batch.stageEach files) (twin.stageEach files) := by
  induction files generalizing batch twin with
  | nil => exact World.parallel_pure h
  | cons file rest ih =>
    obtain ⟨hfile, hrest⟩ := List.forall_mem_cons.mp hord
    exact (h.stage hfile).bind fun result other hresult => ih (h.resume hresult) hrest

/-! ## Writing -/

section

variable (hplace : SharesPlace pairing batch path)

include hplace

/-- The places have paths that belong together. -/
theorem pairsPath_place : pairing.PairsPath (batch.place path) (twin.place path) := by
  rw [h.place_eq]
  refine ⟨rfl, rfl, Pairing.pairsSteps_of_shared h.start ?_⟩
  intro v hv
  rw [place, Path.steps_join hplace.ordinary.relative, trail_append, List.mem_append] at hv
  rcases hv with hv | hv
  · exact h.way v hv
  · obtain ⟨q, -, hq, rfl⟩ := (mem_trail_of_ordinary hplace.ordinary.down).mp hv
    exact hplace.above q hq

/-- The trees share the place and all below it. -/
theorem pairsBelow_place : pairing.PairsBelow (batch.place path).address (twin.place path).address := by
  rw [h.place_eq]
  exact .inl ⟨hplace.below, rfl⟩

/-- The place of a file is apart from the staging directory. -/
theorem apart_area_spot : Apart batch.area (batch.spot path) := by
  rw [← h.left]
  refine ⟨?_, ?_⟩
  · simpa using pairing.apart_left _ (hplace.below [])
  · rintro ⟨r, hr⟩
    exact pairing.apart_left _ (hplace.below r) (hr ▸ List.prefix_rfl)

theorem apart_readyAt_spot : Apart (batch.readyAt path) (batch.spot path) :=
  (h.apart_area_spot hplace).extend (area_prefix_readyAt hplace.ordinary)

theorem apart_keptAt_spot : Apart (batch.keptAt path) (batch.spot path) :=
  (h.apart_area_spot hplace).extend (area_prefix_keptAt hplace.ordinary)

/-- A file is promoted in both, with the same account, or fails to be for the same reason. -/
theorem promote :
    World.Parallel pairing (SameResult fun done other => other = done ∧ done.path = path)
      (batch.promote path) (twin.promote path) := by
  have hp := h.pairsPath_place hplace
  have hat := h.pairsBelow_place hplace
  have hready := h.pairsPath_stored (s := "staged") rfl (by decide) hplace.ordinary hplace.named
  have hkept := h.pairsPath_stored (s := "backup") rfl (by decide) hplace.ordinary hplace.named
  have hkeptAt := h.pairsBelow_kept hplace.ordinary
  have hmove := parallel_renameWithParents hready hp (h.pairsBelow_ready hplace.ordinary) hat
    (h.apart_readyAt_spot hplace)
  rw [Batch.promote, Batch.promote, h.place_eq] at *
  refine (parallel_hasPath hp).bind fun backedUp _ hsame => ?_
  subst hsame
  cases backedUp with
  | false =>
    have hfree : World.Parallel pairing Eq (pure (.ok ()) : StateM World (Except Fault Unit))
        (pure (.ok ())) := World.parallel_pure rfl
    refine hfree.bind fun moved _ hsame => ?_
    subst hsame
    cases moved with
    | error fault => exact World.parallel_pure (.error _)
    | ok _ =>
      refine hmove.bind fun result _ hsame => ?_
      subst hsame
      cases result with
      | ok _ => exact World.parallel_pure (.ok ⟨rfl, rfl⟩)
      | error fault => exact World.parallel_pure (.error _)
  | true =>
    refine (parallel_renameWithParents hp hkept hat hkeptAt (h.apart_keptAt_spot hplace).symm).bind
      fun moved _ hsame => ?_
    subst hsame
    cases moved with
    | error fault => exact World.parallel_pure (.error _)
    | ok _ =>
      refine hmove.bind fun result _ hsame => ?_
      subst hsame
      cases result with
      | ok _ => exact World.parallel_pure (.ok ⟨rfl, rfl⟩)
      | error fault =>
        refine (parallel_rename hkept hp hkeptAt hat (h.apart_keptAt_spot hplace)).bind
          fun returned _ hsame => ?_
        subst hsame
        cases returned <;> exact World.parallel_pure (.error _)

/-- A promotion is taken back in both. -/
theorem restore (backedUp : Bool) :
    World.Parallel pairing Eq (batch.restore ⟨path, backedUp⟩) (twin.restore ⟨path, backedUp⟩) := by
  have hp := h.pairsPath_place hplace
  have hat := h.pairsBelow_place hplace
  have hkept := h.pairsPath_stored (s := "backup") rfl (by decide) hplace.ordinary hplace.named
  cases backedUp with
  | true =>
    exact parallel_rename hkept hp (h.pairsBelow_kept hplace.ordinary) hat (h.apart_keptAt_spot hplace)
  | false => exact parallel_removeFile hp hat

/-- A file that is there already is preserved in both. -/
theorem isPreserved (policy : Policy) :
    World.Parallel pairing Eq (batch.isPreserved ⟨path, policy⟩) (twin.isPreserved ⟨path, policy⟩) := by
  cases policy with
  | always => exact World.parallel_pure rfl
  | ifMissing => exact parallel_hasPath (h.pairsPath_place hplace)

end

/-- All promotions are taken back in both. -/
theorem rollback {promoted : List Promoted}
    (hplaces : ∀ file ∈ promoted, SharesPlace pairing batch file.path) :
    World.Parallel pairing Eq (batch.rollback promoted) (twin.rollback promoted) := by
  induction promoted with
  | nil => exact World.parallel_pure rfl
  | cons file rest ih =>
    obtain ⟨hfile, hrest⟩ := List.forall_mem_cons.mp hplaces
    refine (h.restore hfile file.backedUp).bind fun result _ hsame => ?_
    subst hsame
    cases result with
    | error fault => exact World.parallel_pure (by rw [h.place_eq])
    | ok _ => exact ih hrest

/-- All files are promoted in both, or none is for the same reason. -/
theorem promoteAll {promoted : List Promoted} {summary : Summary} {rest : List Staged}
    (hdone : ∀ file ∈ promoted, SharesPlace pairing batch file.path)
    (hplaces : ∀ file ∈ rest, SharesPlace pairing batch file.path) :
    World.Parallel pairing Eq (batch.promoteAll promoted summary rest)
      (twin.promoteAll promoted summary rest) := by
  induction rest generalizing promoted summary with
  | nil => exact World.parallel_pure rfl
  | cons file rest ih =>
    obtain ⟨hfile, hrest⟩ := List.forall_mem_cons.mp hplaces
    refine (h.isPreserved hfile file.policy).bind fun preserved _ hsame => ?_
    subst hsame
    cases preserved with
    | true => exact ih hdone hrest
    | false =>
      refine (h.promote hfile).bind fun result _ hsame => ?_
      cases hsame with
      | @ok done _ hsame =>
        obtain ⟨rfl, hpath⟩ := hsame
        exact ih (List.forall_mem_cons.mpr ⟨by rwa [hpath], hdone⟩) hrest
      | error fault =>
        refine (h.rollback hdone).bind fun result _ hsame => ?_
        subst hsame
        cases result <;> exact World.parallel_pure rfl

/-- Both batches are written with the same result, and then the trees agree where they are shared. -/
theorem commit {one other : World} (hplaces : ∀ file ∈ batch.staged, SharesPlace pairing batch file.path)
    (halike : Node.Alike pairing one.files other.files) :
    (one.run batch.commit).1 = (other.run twin.commit).1 ∧ ∀ a, pairing.shared a →
      (one.run batch.commit).2.files.kindAt? a = (other.run twin.commit).2.files.kindAt? a := by
  have hall : World.Parallel pairing Eq (batch.promoteAll [] ⟨[], []⟩ batch.staged)
      (twin.promoteAll [] ⟨[], []⟩ batch.staged) :=
    h.promoteAll (fun _ hmem => absurd hmem List.not_mem_nil) hplaces
  obtain ⟨hresult, hafter⟩ := hall one other halike
  have hstaged := h.staged
  refine ⟨?_, fun a ha => ?_⟩
  · rw [Batch.commit, Batch.commit, hstaged]
    exact hresult
  · have hleft : ¬ batch.area <+: a := h.left ▸ pairing.apart_left a ha
    have hright : ¬ twin.area <+: a := h.right ▸ pairing.apart_right a ha
    rw [Batch.commit, Batch.commit, hstaged]
    refine (Node.kindAt?_removeTree hleft).trans ((hafter.same a a (.inl ⟨ha, rfl⟩)).trans ?_)
    exact (Node.kindAt?_removeTree hright).symm

end Paired

end Batch

end Files

end TypedClient
