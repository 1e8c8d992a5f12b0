import TypedClient.Proofs.Files.Parallel
import TypedClient.Proofs.Files.Plain

/-!
# What a batch leaves alone

A batch for a directory that is there changes nothing but its staging directory until it is written
(`Batch.kindAt?_of_start`, `Batch.Filling.kindAt?_of_stage`), and other staging directories stay as they are
even then (`Batch.Filling.kindAt?_of_commit`).
-/

namespace TypedClient.Files.Batch

variable {batch next : Batch} {target path : Path} {file : Generated} {files : List Generated}
  {result : Except BatchFault Batch} {summary : Except BatchFault Summary}
  {world started staged finished : World} {a : Address}

/-- Two directories for staging are not one in the other. -/
theorem not_staging_prefix {m n : Nat} (hne : m ≠ n) (a r : Address) :
    ¬ a ++ [stagingName n] <+: a ++ stagingName m :: r := by
  rw [List.prefix_append_right_inj, List.cons_prefix_cons]
  exact fun hpre => hne (World.stagingName_injective hpre.1).symm

/-! ## Starting -/

theorem exists_start_of_paved (hpaved : world.files.Paved target) :
    ∃ batch started, world.run (Batch.start target) = (.ok batch, started) := by
  rcases run_start_cases hpaved.start target with ⟨fault, own, hmake, -⟩ | hstart
  · rw [hpaved.createDirectories_ok] at hmake
    cases hmake
  · exact hstart

section

variable (hpaved : world.files.Paved target) (hstart : world.run (Batch.start target) = (.ok batch, started))

include hpaved hstart

/-- Nothing is new in a directory that was there but the staging directory. -/
theorem kindAt?_of_start (ha : ¬ batch.area <+: a) : started.files.kindAt? a = world.files.kindAt? a := by
  have hchanged := (changed_of_start hpaved.start hstart).1
  refine (hchanged a (List.forall_mem_singleton.mpr ha)).resolve_right fun hnew => ?_
  exact (hpaved.trail a hnew.1).ne_none hnew.2.1

theorem kindAt?_area_before (r : Address) : world.files.kindAt? (batch.area ++ r) = none :=
  Node.kindAt?_below_missing (changed_of_start hpaved.start hstart).2

end

/-! ## Staging -/

namespace Filling

variable (h : batch.Filling world.files) (hord : (Path.ofString file.name).IsOrdinary)
  (hrun : world.run (batch.stage file) = (result, staged))

include h hord hrun

/-- Staging a file changes nothing outside the staging directory. -/
theorem kindAt?_of_stage (ha : ¬ batch.area <+: a) : staged.files.kindAt? a = world.files.kindAt? a := by
  have hmade := h.kindAt?_made hord (a := a) fun q heq => ha (heq ▸ List.prefix_append _ _)
  cases result with
  | error fault => rw [run_stage_error hrun, hmade]
  | ok next =>
    obtain ⟨hmake, hwrite, -⟩ := run_stage_ok hrun
    have hway := Node.paved_of_createDirectories h.paved.start hmake
    obtain ⟨-, -, hput⟩ :=
      (Node.writeFile_eq_ok_iff (Node.locate_of_paved (steps_stagedPath_ne_nil hord) hway)).mp hwrite
    have hready : ¬ (batch.stagedPath (.ofString file.name)).address <+: a := fun hpre =>
      ha ((area_prefix_readyAt hord).trans hpre)
    rw [hput, Node.kindAt?_put_elsewhere hready, hmade]

/-- The batch goes on, whether the file was staged or not. -/
theorem resume : (batch.resume result).Filling staged.files := by
  cases result with
  | ok next => exact h.stage hord hrun
  | error fault =>
    rw [run_stage_error hrun]
    exact h.createDirectories hord

end Filling

/-- What a batch and its tree have become when it went on. -/
structure Proceeds (batch : Batch) (before : Node) (next : Batch) (after : Node) : Prop where
  filling : next.Filling after
  target : next.target = batch.target
  staging : next.staging = batch.staging
  elsewhere : ∀ a, ¬ batch.area <+: a → after.kindAt? a = before.kindAt? a

namespace Filling

theorem proceeds_stage (h : batch.Filling world.files) (hord : (Path.ofString file.name).IsOrdinary)
    (hrun : world.run (batch.stage file) = (result, staged)) :
    batch.Proceeds world.files (batch.resume result) staged.files where
  filling := h.resume hord hrun
  target := by
    cases result with
    | ok next => rw [Batch.resume, (run_stage_ok hrun).2.2]
    | error fault => rfl
  staging := by
    cases result with
    | ok next => rw [Batch.resume, (run_stage_ok hrun).2.2]
    | error fault => rfl
  elsewhere _ := h.kindAt?_of_stage hord hrun

theorem proceeds_stageEach (h : batch.Filling world.files)
    (hord : ∀ file ∈ files, (Path.ofString file.name).IsOrdinary)
    (hrun : world.run (batch.stageEach files) = (next, staged)) :
    batch.Proceeds world.files next staged.files := by
  induction files generalizing world batch with
  | nil =>
    cases hrun
    exact ⟨h, rfl, rfl, fun _ _ => rfl⟩
  | cons file rest ih =>
    obtain ⟨hfile, hrest⟩ := List.forall_mem_cons.mp hord
    rw [Batch.stageEach, World.run_bind] at hrun
    cases hstage : world.run (batch.stage file) with
    | mk result between =>
      rw [hstage] at hrun
      have hfirst := h.proceeds_stage hfile hstage
      have hthen := ih hfirst.filling hrest hrun
      have harea : (batch.resume result).area = batch.area := by
        rw [Batch.area, hfirst.staging, Batch.area]
      exact ⟨hthen.filling, hthen.target.trans hfirst.target, hthen.staging.trans hfirst.staging,
        fun a ha => (hthen.elsewhere a (harea ▸ ha)).trans (hfirst.elsewhere a ha)⟩

/-! ## Writing -/

section

variable (h : batch.Filling world.files) {n : Nat}
  (hnamed : batch.staging = batch.target.child (stagingName n))
  (houtside : ∀ path ∈ batch.paths, ∀ m, path.steps.head? ≠ some (stagingName m))

include h hnamed houtside

/-- A batch whose files are outside all staging directories is prepared. -/
theorem prepared_of_outside : batch.Prepared world.files := by
  refine h.prepared fun path hp hpre => ?_
  rw [area_of_staging hnamed, spot_eq (h.ordinary path hp), List.prefix_append_right_inj] at hpre
  obtain ⟨rest, hrest⟩ := hpre
  exact houtside path hp n (hrest ▸ rfl)

/-- What is in the other staging directories stays there when the batch is written, and its own one is
gone. -/
theorem kindAt?_of_commit (hrun : world.run batch.commit = (summary, finished)) :
    finished.files.Paved batch.target ∧ (∀ r, finished.files.kindAt? (batch.area ++ r) = none) ∧
      ∀ m r, m ≠ n → finished.files.kindAt? (batch.target.address ++ stagingName m :: r) =
        world.files.kindAt? (batch.target.address ++ stagingName m :: r) := by
  have hprepared := h.prepared_of_outside hnamed houtside
  obtain ⟨own, after, hgives, hended, hgone⟩ := hprepared.commit
  rw [World.Gives, hrun] at hgives
  obtain ⟨rfl, rfl⟩ := Prod.mk.inj hgives
  refine ⟨hended.traced.paved, hgone, fun m r hm => ?_⟩
  -- no place of the batch is over another staging directory or in there
  have hspot : ∀ path ∈ batch.paths, ¬ batch.spot path <+: batch.target.address ++ stagingName m :: r := by
    intro path hp hpre
    rw [spot_eq (h.ordinary path hp), List.prefix_append_right_inj] at hpre
    obtain ⟨first, rest, hsteps⟩ := List.exists_cons_of_ne_nil (h.proper path hp)
    rw [hsteps, List.cons_prefix_cons] at hpre
    exact houtside path hp m (by rw [hsteps, hpre.1]; rfl)
  have harea : ¬ batch.area <+: batch.target.address ++ stagingName m :: r := by
    rw [area_of_staging hnamed]
    exact not_staging_prefix hm _ r
  refine (hended.traced.elsewhere _ harea (fun path hp => hspot path (hended.traced.listed path hp))
    fun path hp => hspot path (hended.traced.hollow_listed path hp)).resolve_right ?_
  rintro ⟨⟨path, hp, hpre, -⟩, -⟩
  rw [spot_eq (h.ordinary path hp), List.prefix_append_right_inj] at hpre
  obtain ⟨rest, hrest⟩ := hpre
  exact houtside path hp m (hrest ▸ rfl)

/-- A batch that is given up takes its staging directory away and nothing else. -/
theorem kindAt?_of_discard :
    (∀ r, (world.run batch.discard).2.files.kindAt? (batch.area ++ r) = none) ∧
      ∀ a, ¬ batch.area <+: a →
        (world.run batch.discard).2.files.kindAt? a = world.files.kindAt? a := by
  have hsound := (h.prepared_of_outside hnamed houtside).toSound
  have hrun : (world.run batch.discard).2.files = world.files.erase batch.area :=
    hsound.erase_staging h.paved
  have harea : batch.area ≠ [] := by
    rw [area_of_staging hnamed]
    simp
  rw [hrun]
  exact ⟨Node.kindAt?_erase_append harea _, fun a ha => Node.kindAt?_erase_elsewhere ha⟩

end

end Filling

end TypedClient.Files.Batch
