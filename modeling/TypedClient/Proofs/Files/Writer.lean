import TypedClient.Proofs.Files.Frame

/-!
# A writer among others

What a writer has staged depends on the files that it was asked for alone, not on what others do meanwhile
(`Writer.Working.replays_stage`, `Writer.Working.frame`). So its batch is written as if it had been alone
(`Writer.Working.commit_eq`).
-/

namespace TypedClient.Files

/-- A path that leads down from its target, and to no staging directory. -/
structure Path.IsOutside (path : Path) : Prop extends path.IsOrdinary where
  outside : ∀ n, path.steps.head? ≠ some (stagingName n)

/-- A batch at work, and the files that it was asked to stage so far, whatever came of each. -/
structure Writer where
  batch : Batch
  calls : List Generated

/-- What a writer does that is alone: it starts, tries to stage files, and writes its batch. -/
def writeAlone (target : Path) (calls : List Generated) :
    StateM World (Except BatchFault Summary) := do
  match ← (Batch.start target : StateM World (Except BatchFault Batch)) with
  | .error fault => return .error fault
  | .ok fresh =>
    let batch ← fresh.stageEach calls
    batch.commit

variable {target : Path} {n m : Nat} {writer : Writer} {world other started staged after : World}
  {fresh batch twin : Batch} {file : Generated} {files : List Generated} {a : Address}
  {result : Except BatchFault Batch}

/-! ## Addresses that are shared -/

/-- An address in no directory that could be one for staging. Such a directory is in the target, but not on
the way there. -/
def IsShared (target : Path) (a : Address) : Prop :=
  ∀ n, (∀ v ∈ target.trail, ¬ target.address ++ [stagingName n] <+: v) →
    ¬ target.address ++ [stagingName n] <+: a

/-- The addresses that belong together in two trees with a staging directory in each, all shared ones. -/
def stagingPairing (hn : ∀ v ∈ target.trail, ¬ target.address ++ [stagingName n] <+: v)
    (hm : ∀ v ∈ target.trail, ¬ target.address ++ [stagingName m] <+: v) : Pairing where
  shared := IsShared target
  left := target.address ++ [stagingName n]
  right := target.address ++ [stagingName m]
  apart_left _ ha := ha n hn
  apart_right _ ha := ha m hm

/-- The addresses that belong together in two trees with a staging directory in each, of the shared ones
those on the way to the target. -/
def wayPairing (hn : ∀ v ∈ target.trail, ¬ target.address ++ [stagingName n] <+: v)
    (hm : ∀ v ∈ target.trail, ¬ target.address ++ [stagingName m] <+: v) : Pairing where
  shared a := a = [] ∨ a ∈ target.trail
  left := target.address ++ [stagingName n]
  right := target.address ++ [stagingName m]
  apart_left := by
    rintro a (rfl | ha)
    · simp
    · exact hn a ha
  apart_right := by
    rintro a (rfl | ha)
    · simp
    · exact hm a ha

/-! ## One writer -/

namespace Writer

/-- A writer that is started elsewhere and asked for the same has the same staged files. -/
def Replays (target : Path) (now : Node) (writer : Writer) : Prop :=
  ∀ (other started staged : World) (fresh twin : Batch), other.files.Paved target →
    other.run (Batch.start target) = (.ok fresh, started) →
    started.run (fresh.stageEach writer.calls) = (twin, staged) →
    twin.staged = writer.batch.staged ∧
      ∀ r, staged.files.kindAt? (twin.area ++ r) = now.kindAt? (writer.batch.area ++ r)

/-- A writer at work on a directory, with this number in the name of its staging directory. -/
structure Working (target : Path) (n : Nat) (now : Node) (writer : Writer) : Prop where
  aim : writer.batch.target = target
  staging : writer.batch.staging = target.child (stagingName n)
  filling : writer.batch.Filling now
  outside : ∀ path ∈ writer.batch.paths, ∀ m, path.steps.head? ≠ some (stagingName m)
  calls : ∀ file ∈ writer.calls, (Path.ofString file.name).IsOutside
  replays : writer.Replays target now

end Writer

open Batch (Paired SharesPlace area_of_staging)

theorem start_eq (h : world.run (Batch.start target) = (.ok batch, started)) :
    ∃ n, batch = ⟨target, target.child (stagingName n), []⟩ := by
  obtain ⟨_, used, -, -, rfl, -⟩ := Batch.run_start_ok h
  exact ⟨_, rfl⟩

/-- The way to the target is not through a staging directory. -/
theorem separate_of_filling {root : Node} (h : batch.Filling root) (htarget : batch.target = target)
    (hstaging : batch.staging = target.child (stagingName n)) :
    ∀ v ∈ target.trail, ¬ target.address ++ [stagingName n] <+: v := by
  have hseparate := h.separate
  rwa [htarget, area_of_staging hstaging] at hseparate

/-- Trying to stage files and one more. -/
theorem run_stageEach_concat (batch : Batch) (files : List Generated) (file : Generated) (world : World) :
    world.run (batch.stageEach (files ++ [file])) =
      let (next, between) := world.run (batch.stageEach files)
      let (result, staged) := between.run (next.stage file)
      (next.resume result, staged) := by
  induction files generalizing batch world with
  | nil => rfl
  | cons first rest ih =>
    rw [List.cons_append, Batch.stageEach, Batch.stageEach, World.run_bind, World.run_bind, ih]

/-- What a batch has staged that was started elsewhere and asked for some files. -/
structure Rehearsed (target : Path) (other : World) (n : Nat) (twin : Batch) (staged : World) : Prop where
  aim : twin.target = target
  staging : twin.staging = target.child (stagingName n)
  filling : twin.Filling staged.files
  missing : ∀ r, other.files.kindAt? (target.address ++ stagingName n :: r) = none
  elsewhere : ∀ a, ¬ target.address ++ [stagingName n] <+: a →
    staged.files.kindAt? a = other.files.kindAt? a

theorem rehearsed_of_run (hpaved : other.files.Paved target)
    (hord : ∀ file ∈ files, (Path.ofString file.name).IsOrdinary)
    (hstart : other.run (Batch.start target) = (.ok fresh, started))
    (hstage : started.run (fresh.stageEach files) = (twin, staged)) :
    ∃ n, Rehearsed target other n twin staged := by
  have hfilling := Batch.filling_of_start hpaved.start hstart
  have hproceeds := hfilling.proceeds_stageEach hord hstage
  have hbefore := Batch.kindAt?_area_before hpaved hstart
  have helsewhere := fun a => Batch.kindAt?_of_start (a := a) hpaved hstart
  obtain ⟨n, rfl⟩ := start_eq hstart
  have harea : Batch.area ⟨target, target.child (stagingName n), []⟩ = target.address ++ [stagingName n] :=
    area_of_staging rfl
  have hkeeps := hproceeds.elsewhere
  rw [harea] at hkeeps
  simp only [harea] at hbefore helsewhere
  refine ⟨n, hproceeds.target, hproceeds.staging, hproceeds.filling, fun r => ?_, fun a ha => ?_⟩
  · simpa using hbefore r
  · exact (hkeeps a ha).trans (helsewhere a ha)

namespace Writer.Working

variable (h : writer.Working target n world.files)

include h

theorem area_eq : writer.batch.area = target.address ++ [stagingName n] :=
  area_of_staging h.staging

theorem paved : world.files.Paved target :=
  h.aim ▸ h.filling.paved

theorem separate : ∀ v ∈ target.trail, ¬ target.address ++ [stagingName n] <+: v :=
  separate_of_filling h.filling h.aim h.staging

/-- A writer and a batch with the same files that was started elsewhere. -/
theorem paired (hother : Rehearsed target other m twin staged) (hstaged : twin.staged = writer.batch.staged)
    (pairing : Pairing) (hleft : pairing.left = target.address ++ [stagingName n])
    (hright : pairing.right = target.address ++ [stagingName m]) (hstart : pairing.shared [])
    (hway : ∀ v ∈ target.trail, pairing.shared v) : Paired pairing writer.batch twin where
  target := hother.aim.trans h.aim.symm
  staged := hstaged
  staging := ⟨stagingName n, World.isIdle_stagingName n, World.stagingName_ne_short ".." (by decide) n,
    h.aim ▸ h.staging⟩
  twinStaging := ⟨stagingName m, World.isIdle_stagingName m,
    World.stagingName_ne_short ".." (by decide) m, h.aim ▸ hother.staging⟩
  left := hleft.trans h.area_eq.symm
  right := hright.trans (area_of_staging hother.staging).symm
  start := hstart
  way := h.aim ▸ hway

/-! ## Staging -/

/-- What a writer stages depends on what it was asked for alone. -/
theorem replays_stage (hfile : (Path.ofString file.name).IsOutside)
    (hrun : world.run (writer.batch.stage file) = (result, after)) :
    Replays target after.files ⟨writer.batch.resume result, writer.calls ++ [file]⟩ := by
  intro other started staged fresh twin hpaved hstart hstage
  rw [run_stageEach_concat] at hstage
  cases hbefore : started.run (fresh.stageEach writer.calls) with
  | mk early between =>
    rw [hbefore] at hstage
    dsimp only at hstage
    cases hlast : between.run (early.stage file) with
    | mk last finished =>
      rw [hlast] at hstage
      obtain ⟨rfl, rfl⟩ := Prod.mk.inj hstage
      obtain ⟨hstaged, hsame⟩ := h.replays other started between fresh early hpaved hstart hbefore
      obtain ⟨m, hother⟩ := rehearsed_of_run hpaved (fun file hfile => (h.calls file hfile).toIsOrdinary)
        hstart hbefore
      have hseparate := separate_of_filling hother.filling hother.aim hother.staging
      have hpaired := h.paired hother hstaged (wayPairing h.separate hseparate) rfl rfl (.inl rfl)
        fun v hv => .inr hv
      have hotherPaved : between.files.Paved target := hother.aim ▸ hother.filling.paved
      -- the directories on the way to the target are there in both trees
      have halike : Node.Alike (wayPairing h.separate hseparate) world.files between.files := by
        have hdirs : ∀ a, a = [] ∨ a ∈ target.trail →
            world.files.IsDirectory a ∧ between.files.IsDirectory a := by
          rintro a (rfl | ha)
          · exact ⟨h.paved.start, hotherPaved.start⟩
          · exact ⟨h.paved.trail a ha, hotherPaved.trail a ha⟩
        refine ⟨?_, ?_, fun a ha hnone => absurd hnone (hdirs a ha).1.ne_none⟩
        · rintro a b (⟨ha, rfl⟩ | ⟨r, rfl, rfl⟩)
          · exact (hdirs _ ha).1.trans (hdirs _ ha).2.symm
          · have hown := hsame r
            rw [h.area_eq, area_of_staging hother.staging] at hown
            exact hown.symm
        · have harea := h.filling.area
          rwa [h.area_eq] at harea
      obtain ⟨hresult, hafter⟩ := hpaired.stage hfile.toIsOrdinary world between halike
      rw [hrun, hlast] at hresult hafter
      have hresumed := hpaired.resume hresult
      refine ⟨hresumed.staged, fun r => ?_⟩
      have hown := hafter.same _ _ (.inr ⟨r, rfl, rfl⟩)
      rw [hresumed.left, hresumed.right] at hown
      exact hown.symm

/-- A writer is at work after it tried to stage a file. -/
theorem stage (hfile : (Path.ofString file.name).IsOutside)
    (hrun : world.run (writer.batch.stage file) = (result, after)) :
    Working target n after.files ⟨writer.batch.resume result, writer.calls ++ [file]⟩ := by
  have hproceeds := h.filling.proceeds_stage hfile.toIsOrdinary hrun
  refine ⟨hproceeds.target.trans h.aim, hproceeds.staging.trans h.staging, hproceeds.filling, ?_, ?_,
    h.replays_stage hfile hrun⟩
  · cases result with
    | error fault => exact h.outside
    | ok next =>
      obtain ⟨-, -, rfl⟩ := Batch.run_stage_ok hrun
      have hpaths : Batch.paths { writer.batch with
          staged := writer.batch.staged ++ [⟨.ofString file.name, file.policy⟩] } =
          writer.batch.paths ++ [.ofString file.name] := List.map_append
      change ∀ path ∈ Batch.paths { writer.batch with staged := _ }, _
      rw [hpaths, List.forall_mem_append]
      exact ⟨h.outside, List.forall_mem_singleton.mpr hfile.outside⟩
  · exact List.forall_mem_append.mpr ⟨h.calls, List.forall_mem_singleton.mpr hfile⟩

/-! ## Writing -/

/-- Trees that agree where addresses are shared and in two staging directories are alike. -/
theorem alike_of_shared {y : Node} (hm : ∀ v ∈ target.trail, ¬ target.address ++ [stagingName m] <+: v)
    (hshared : ∀ a, IsShared target a → y.kindAt? a = world.files.kindAt? a)
    (hown : ∀ r, y.kindAt? (target.address ++ [stagingName m] ++ r) =
      world.files.kindAt? (target.address ++ [stagingName n] ++ r)) :
    Node.Alike (stagingPairing h.separate hm) world.files y := by
  have harea : world.files.IsDirectory (target.address ++ [stagingName n]) := h.area_eq ▸ h.filling.area
  refine ⟨?_, harea, fun a ha hnone r k hk hpre => ?_⟩
  · rintro a b (⟨ha, rfl⟩ | ⟨r, rfl, rfl⟩)
    · exact (hshared _ ha).symm
    · exact (hown r).symm
  · -- what is over a staging directory is over the target, and not missing
    rcases List.prefix_or_prefix_of_prefix hpre (List.prefix_append a r) with hover | hunder
    · exact ha k hk hover
    · rcases List.prefix_concat_iff.mp hunder with rfl | htarget
      · exact ha k hk List.prefix_rfl
      · have hlong : a <+: target.address ++ [stagingName n] := htarget.trans (List.prefix_append _ _)
        refine (Node.isDirectory_above hlong ?_ harea.ne_none).ne_none hnone
        rintro rfl
        exact not_below_self htarget

/-- Of a file outside all staging directories the place is shared. -/
theorem sharesPlace {path : Path} (hp : path ∈ writer.batch.paths) {pairing : Pairing}
    (hpairing : pairing.shared = IsShared target) : SharesPlace pairing writer.batch path := by
  have hord := h.filling.ordinary path hp
  have hnamed : path.segments ≠ [] := fun hnil => h.filling.proper path hp (by simp [Path.steps, hnil])
  obtain ⟨first, rest, hsteps⟩ := List.exists_cons_of_ne_nil (h.filling.proper path hp)
  have hfirst : ∀ k, stagingName k ≠ first := fun k heq => h.outside path hp k (by rw [hsteps, heq]; rfl)
  refine ⟨hord, hnamed, fun q hq => ?_, fun r => ?_⟩
  · rw [hpairing, h.aim]
    intro k hk hpre
    rw [List.prefix_append_right_inj] at hpre
    obtain ⟨more, hmore⟩ := hpre.trans hq
    rw [hsteps] at hmore
    exact hfirst k (List.cons.inj hmore).1
  · rw [hpairing, Batch.spot_eq hord, h.aim, hsteps]
    intro k hk hpre
    rw [List.append_assoc, List.prefix_append_right_inj, List.cons_append, List.cons_prefix_cons] at hpre
    exact hfirst k hpre.1

/-- A writer writes its batch with the same result, and with the same effect outside the directories for
staging, as one that is alone where all is the same there. -/
theorem commit_eq (hpaved : other.files.Paved target)
    (hsame : ∀ a, IsShared target a → other.files.kindAt? a = world.files.kindAt? a) :
    (world.run writer.batch.commit).1 = (other.run (writeAlone target writer.calls)).1 ∧
      (∀ a, IsShared target a → (world.run writer.batch.commit).2.files.kindAt? a =
        (other.run (writeAlone target writer.calls)).2.files.kindAt? a) ∧
      ∀ k r, (other.run (writeAlone target writer.calls)).2.files.kindAt?
          (target.address ++ stagingName k :: r) =
        other.files.kindAt? (target.address ++ stagingName k :: r) := by
  obtain ⟨fresh, started, hstart⟩ := Batch.exists_start_of_paved hpaved
  cases hstage : started.run (fresh.stageEach writer.calls) with
  | mk twin staged =>
    have hrun : other.run (writeAlone target writer.calls) = staged.run twin.commit := by
      rw [writeAlone, World.run_bind, hstart]
      dsimp only
      rw [World.run_bind, hstage]
    obtain ⟨hstaged, hown⟩ := h.replays other started staged fresh twin hpaved hstart hstage
    obtain ⟨m, hother⟩ := rehearsed_of_run hpaved (fun file hfile => (h.calls file hfile).toIsOrdinary)
      hstart hstage
    have hseparate := separate_of_filling hother.filling hother.aim hother.staging
    have hpaired := h.paired hother hstaged (stagingPairing h.separate hseparate) rfl rfl
      (fun k _ hpre => by simp at hpre) fun v hv k hk => hk v hv
    have halike : Node.Alike (stagingPairing h.separate hseparate) world.files staged.files := by
      refine h.alike_of_shared hseparate (fun a ha => ?_) fun r => ?_
      · rw [hother.elsewhere a (ha m hseparate), hsame a ha]
      · have hown := hown r
        rwa [h.area_eq, area_of_staging hother.staging] at hown
    obtain ⟨hresult, hafter⟩ := hpaired.commit
      (fun file hfile => h.sharesPlace (List.mem_map_of_mem hfile) rfl) halike
    rw [hrun]
    refine ⟨hresult, hafter, fun k r => ?_⟩
    have hpaths : twin.paths = writer.batch.paths := by rw [Batch.paths, Batch.paths, hstaged]
    obtain ⟨-, hgone, hleft⟩ := hother.filling.kindAt?_of_commit (hother.aim.symm ▸ hother.staging)
      (hpaths ▸ h.outside) (Prod.eta (staged.run twin.commit)).symm
    rw [hother.aim] at hleft
    by_cases hk : k = m
    · have hnone := hgone r
      rw [area_of_staging hother.staging, List.append_assoc, List.singleton_append] at hnone
      rw [hk, hnone, hother.missing r]
    · rw [hleft k r hk, hother.elsewhere _ (Batch.not_staging_prefix hk _ r)]

/-- A writer does not depend on what others do outside its staging directory. -/
theorem frame {now : Node} (hpaved : now.Paved target)
    (hown : ∀ r, now.kindAt? (writer.batch.area ++ r) = world.files.kindAt? (writer.batch.area ++ r)) :
    Working target n now writer where
  aim := h.aim
  staging := h.staging
  filling := {
    staging := h.filling.staging
    separate := h.filling.separate
    paved := h.aim.symm ▸ hpaved
    area := by
      have hsame := hown []
      rw [List.append_nil] at hsame
      exact hsame.trans h.filling.area
    unused := (hown ["backup"]).trans h.filling.unused
    ordinary := h.filling.ordinary
    file := h.filling.file
    proper := h.filling.proper
    ready := fun path hp => by
      obtain ⟨content, hcontent⟩ := h.filling.ready path hp
      rw [Batch.readyAt_eq (h.filling.ordinary path hp)] at hcontent ⊢
      exact ⟨content, (hown _).trans hcontent⟩ }
  outside := h.outside
  calls := h.calls
  replays other started staged fresh twin hother hstart hstage := by
    obtain ⟨hstaged, hsame⟩ := h.replays other started staged fresh twin hother hstart hstage
    exact ⟨hstaged, fun r => (hsame r).trans (hown r).symm⟩

end Writer.Working

/-- A writer is at work from the start. -/
theorem working_of_start (hpaved : world.files.Paved target)
    (hstart : world.run (Batch.start target) = (.ok batch, started)) :
    ∃ n, Writer.Working target n started.files ⟨batch, []⟩ := by
  have hfilling := Batch.filling_of_start hpaved.start hstart
  have hempty := Batch.kindAt?_area_of_start hpaved.start hstart
  obtain ⟨n, rfl⟩ := start_eq hstart
  refine ⟨n, rfl, rfl, hfilling, by simp [Batch.paths], by simp, ?_⟩
  intro other begun staged fresh twin hother hbegin hstage
  obtain ⟨rfl, rfl⟩ := Prod.mk.inj hstage
  obtain ⟨m, hfresh⟩ := start_eq hbegin
  refine ⟨by rw [hfresh], fun r => ?_⟩
  rw [Batch.kindAt?_area_of_start hother.start hbegin r, hempty r]

end TypedClient.Files
