import TypedClient.Proofs.Files.Traced

/-!
# Taking files back

When a file cannot be moved to its place, those that were moved already are taken back, the last one
first, up to the first that is stuck (`Batch.Stalled.rollback`). A directory that a file took the place
of is always stuck, for no directory moves onto a file; an older file is stuck if the file that failed
has the same place, for then the older one is no longer kept.
-/

namespace TypedClient.Files.Batch

open World (Gives)

variable {batch : Batch} {before now after : Node} {failed path p : Path} {taken : List Path}
  {hollow : Option Path}

/-- Whether a file that was moved to its place cannot be taken back once another one has failed. -/
def isStuck (batch : Batch) (before : Node) (failed path : Path) : Bool :=
  before.IsDirectory (batch.spot path) ∨
    path.steps = failed.steps ∧ (before.fileAt? (batch.spot path)).isSome

/-- How the move of a file is recorded. -/
def moved (batch : Batch) (before : Node) (path : Path) : Promoted :=
  ⟨path, (before.kindAt? (batch.spot path)).isSome⟩

/-- The tree before a batch is written and now that a file has failed. What is not stuck can be taken
back. -/
structure Stalled (batch : Batch) (before now : Node) (failed : Path) (taken : List Path)
    (hollow : Option Path) : Prop extends Traced batch before now taken hollow where
  stuck : ∀ path ∈ taken, batch.isStuck before failed path →
    now.kindAt? (batch.keptAt path) = none ∨ now.IsDirectory (batch.keptAt path)
  kept : ∀ path ∈ taken, ¬ batch.isStuck before failed path →
    now.kindAt? (batch.keptAt path) = before.kindAt? (batch.spot path)

/-! ## After a file that cannot be moved -/

theorem isStuck_iff : batch.isStuck before failed path ↔ before.IsDirectory (batch.spot path) ∨
    path.steps = failed.steps ∧ ∃ content, before.kindAt? (batch.spot path) = some (.file content) := by
  simp only [isStuck, decide_eq_true_eq, Option.isSome_iff_exists, Node.fileAt?_eq_some]

namespace Underway

variable (hu : batch.Underway before now taken) (h : batch.Prepared before) (hp : failed ∈ batch.paths)

include hu h hp

/-- What was done for a file that cannot be moved concerns no file that was. -/
theorem stalled (hc : batch.Confined now after failed) (ht : batch.Traced before after taken hollow)
    (hdir : ∀ p ∈ taken, p.steps = failed.steps → before.IsDirectory (batch.spot p) →
      after.IsDirectory (batch.keptAt p))
    (hlost : ∀ p ∈ taken, p.steps = failed.steps → ¬ before.IsDirectory (batch.spot p) →
      after.kindAt? (batch.keptAt p) = none) :
    batch.Stalled before after failed taken hollow := by
  have hkept : ∀ p ∈ taken, p.steps ≠ failed.steps →
      after.kindAt? (batch.keptAt p) = before.kindAt? (batch.spot p) := by
    intro p hmem hne
    have hafter := hc.keptAt_eq h.toSound hp (hu.listed p hmem) hne []
    have hnow := hu.kept p hmem []
    rw [List.append_nil] at hafter
    rw [List.append_nil, List.append_nil] at hnow
    exact hafter.trans hnow
  -- only for a file with the place of the failed one can what is kept differ from what was kept before
  refine ⟨ht, fun p hmem hstuck => ?_, fun p hmem hstuck => ?_⟩
  · by_cases heq : p.steps = failed.steps
    · by_cases hbefore : before.IsDirectory (batch.spot p)
      · exact .inr (hdir p hmem heq hbefore)
      · exact .inl (hlost p hmem heq hbefore)
    · have hbefore := (isStuck_iff.mp hstuck).resolve_right fun hsame => heq hsame.1
      exact .inr ((hkept p hmem heq).trans hbefore)
  · by_cases heq : p.steps = failed.steps
    · rcases Node.kindAt?_cases before (batch.spot p) with hnone | hbefore | hfile
      · rw [hnone]
        exact hlost p hmem heq fun hdir => hdir.ne_none hnone
      · exact absurd (isStuck_iff.mpr (.inl hbefore)) hstuck
      · exact absurd (isStuck_iff.mpr (.inr ⟨heq, hfile⟩)) hstuck
    · exact hkept p hmem heq

/-- If nothing happened but to what is kept of the file that failed, all files taken are in place. -/
theorem traced_of_stay
    (hstay : ∀ a, ¬ batch.keptAt failed <+: a → after.kindAt? a = now.kindAt? a ∨
      a ∈ batch.way failed ∧ now.kindAt? a = none ∧ after.IsDirectory a) :
    batch.Traced before after taken none := by
  have harea : ∀ {a}, ¬ batch.area <+: a → ¬ batch.keptAt failed <+: a := fun harea hkept =>
    harea ((area_prefix_keptAt (h.ordinary failed hp)).trans hkept)
  have hdir : ∀ {a}, ¬ batch.area <+: a → now.IsDirectory a → after.IsDirectory a := by
    intro a ha hdir
    rcases hstay a (harea ha) with hsame | hnew
    · exact hsame.trans hdir
    · exact hnew.2.2
  obtain ⟨name, hname⟩ := h.exists_area_eq
  refine {
    paved := ⟨hdir (by simp [hname]) hu.paved.start,
      fun v hv => hdir (h.separate v hv) (hu.paved.trail v hv)⟩
    listed := hu.listed
    distinct := hu.distinct
    place := fun p hmem r => ?_
    hollow_listed := by simp
    hollow_distinct := by simp
    hollow_place := by simp
    elsewhere := fun a ha htaken hhollow => ?_ }
  · have hq := hu.listed p hmem
    rw [← hu.place p hmem]
    refine (hstay _ ((h.apart_keptAt_spot hp hq).not_prefix_append r)).resolve_right fun hnew => ?_
    exact (h.isDirectory_of_mem_way hp hq hu.paved hnew.1).ne_none hnew.2.1
  · refine (hu.elsewhere a ha htaken hhollow).trans ((hstay a (harea ha)).imp_right fun hnew => ?_)
    exact ⟨h.isBetween_of_mem_way hp hu.paved ha hnew.1 hnew.2.1, hnew.2⟩

theorem traced_of_hollowed (hnew : ∀ p ∈ taken, p.steps ≠ failed.steps)
    (hh : batch.Hollowed now after failed) : batch.Traced before after taken (some failed) where
  paved := hh.paved
  listed := hu.listed
  distinct := hu.distinct
  place p hmem r := by
    rw [hh.confined.spot_eq h.toSound hp hu.paved (hu.listed p hmem) (hnew p hmem), hu.place p hmem]
  hollow_listed := by simpa using hp
  hollow_distinct := by simpa using hnew
  hollow_place := by simpa using hh.place
  elsewhere a ha htaken hhollow := (hu.elsewhere a ha htaken (by simp)).trans
    (hh.confined.intact h.toSound hp hu.paved ha (hhollow failed rfl))

end Underway

/-! ## Taking back -/

namespace Stalled

section

variable (hs : batch.Stalled before now failed (path :: taken) hollow) (h : batch.Prepared before)

include hs h

/-- A file is taken back when its place and all below is as it was before. -/
theorem tail (hpaved : after.Paved batch.target)
    (hspot : ∀ r, after.kindAt? (batch.spot path ++ r) = before.kindAt? (batch.spot path ++ r))
    (helse : ∀ a, ¬ batch.spot path <+: a → ¬ batch.keptAt path <+: a →
      after.kindAt? a = now.kindAt? a) : batch.Stalled before after failed taken hollow := by
  obtain ⟨hp, hlisted⟩ := List.forall_mem_cons.mp hs.listed
  obtain ⟨hne, hdistinct⟩ := List.pairwise_cons.mp hs.distinct
  have hc : batch.Confined now after path := fun a hspot' hkept _ => .inl (helse a hspot' hkept)
  have hkept : ∀ q ∈ taken, after.kindAt? (batch.keptAt q) = now.kindAt? (batch.keptAt q) := by
    intro q hq
    simpa using hc.keptAt_eq h.toSound hp (hlisted q hq) (hne q hq).symm []
  refine {
    paved := hpaved
    listed := hlisted
    distinct := hdistinct
    place := fun q hq r => ?_
    hollow_listed := hs.hollow_listed
    hollow_distinct := fun q hq p hp => hs.hollow_distinct q hq p (List.mem_cons_of_mem _ hp)
    hollow_place := fun q hq r => ?_
    elsewhere := fun a harea htaken hhollow => ?_
    stuck := fun q hq hstuck => ?_
    kept := fun q hq hstuck => ?_ }
  · rw [hc.spot_eq h.toSound hp hs.paved (hlisted q hq) (hne q hq).symm,
      hs.place q (List.mem_cons_of_mem _ hq)]
  · have hsame := hc.spot_eq h.toSound hp hs.paved (hs.hollow_listed q hq)
      (hs.hollow_distinct q hq path List.mem_cons_self).symm r
    rw [Node.fileAt?, hsame]
    exact hs.hollow_place q hq r
  · by_cases hown : batch.spot path <+: a
    · obtain ⟨r, rfl⟩ := hown
      exact .inl (hspot r)
    · exact (hs.elsewhere a harea (List.forall_mem_cons.mpr ⟨hown, htaken⟩) hhollow).trans
        (hc.intact h.toSound hp hs.paved harea hown)
  · rw [Node.IsDirectory, hkept q hq]
    exact hs.stuck q (List.mem_cons_of_mem _ hq) hstuck
  · rw [hkept q hq]
    exact hs.kept q (List.mem_cons_of_mem _ hq) hstuck

/-- A file that is stuck is not taken back, and nothing changes. -/
theorem restore_stuck {world : World} (hworld : world.files = now)
    (hstuck : batch.isStuck before failed path) :
    ∃ fault, world.Gives (batch.restore (batch.moved before path)) (.error fault) world.files := by
  subst hworld
  have hp := hs.listed path List.mem_cons_self
  have hthere : before.kindAt? (batch.spot path) ≠ none := by
    rcases isStuck_iff.mp hstuck with hdir | ⟨-, content, hfile⟩
    · exact hdir.ne_none
    · simp [hfile]
  have hsome : (batch.moved before path).backedUp = true := Option.isSome_iff_ne_none.mpr hthere
  suffices hrename : ∃ fault,
      world.files.rename (batch.backupPath path) (batch.place path) = .error fault by
    obtain ⟨fault, hrename⟩ := hrename
    refine ⟨fault, ?_⟩
    rw [restore, if_pos hsome]
    exact World.gives_rename_error hrename
  -- there is nothing to move back, or a directory that would have to replace the new file
  rcases hs.stuck path List.mem_cons_self hstuck with hnone | hdir
  · exact Node.rename_of_missing hnone _
  · obtain ⟨content, hfile⟩ := hs.exists_file h List.mem_cons_self
    refine Node.rename_of_not_replaces (h.backup_locate_eq hp hdir.ne_none hs.paved)
      (h.place_locate_eq hp (by simp [hfile]) hs.paved) hdir.ne_none (h.demandsDirectory_join _ hp)
      (h.apart_keptAt_spot hp hp).ne ?_
    simp [Node.Replaces, Node.IsDirectory, hfile, show _ = _ from hdir]

/-- A file that is not stuck is taken back: an older one returns, or the new one is removed. -/
theorem restore {world : World} (hworld : world.files = now)
    (hstuck : ¬ batch.isStuck before failed path) :
    ∃ after, world.Gives (batch.restore (batch.moved before path)) (.ok ()) after ∧
      batch.Stalled before after failed taken hollow := by
  subst hworld
  have hp := hs.listed path List.mem_cons_self
  obtain ⟨content, hfile⟩ := hs.exists_file h List.mem_cons_self
  have hapart := hs.apart_of_file hfile
  have hlocate := h.place_locate_eq hp (by simp [hfile]) hs.paved
  have hkept := hs.kept path List.mem_cons_self hstuck
  have hconfined : ∀ {after : Node}, (∀ a, ¬ batch.spot path <+: a → ¬ batch.keptAt path <+: a →
      after.kindAt? a = world.files.kindAt? a) → after.Paved batch.target := fun helse =>
    Confined.paved (fun a hspot' hkept' _ => .inl (helse a hspot' hkept')) h.toSound hp hs.paved hapart
  rcases Node.kindAt?_cases before (batch.spot path) with hnone | hdir | ⟨old, hold⟩
  -- nothing was there before: the new version is removed
  · refine ⟨world.files.erase (batch.spot path), ?_, ?_⟩
    · rw [Batch.restore, if_neg (by simp [moved, hnone])]
      exact World.gives_removeFile
        (Node.removeFile_of_file hlocate hfile (h.demandsDirectory_join _ hp))
    · have helse : ∀ a, ¬ batch.spot path <+: a → ¬ batch.keptAt path <+: a →
          (world.files.erase (batch.spot path)).kindAt? a = world.files.kindAt? a :=
        fun a hspot' _ => Node.kindAt?_erase_elsewhere hspot'
      refine hs.tail h (hconfined helse) (fun r => ?_) helse
      rw [Node.kindAt?_erase_append (h.spot_ne_nil hp), Node.kindAt?_below_missing hnone]
  · exact absurd (isStuck_iff.mpr (.inl hdir)) hstuck
  -- an older version was there: it moves onto the new one
  · rw [hold] at hkept
    have hparent : world.files.IsDirectory (batch.spot path).dropLast := by
      obtain ⟨hpre, hne⟩ := (prefix_dropLast_iff (h.spot_ne_nil hp)).mp List.prefix_rfl
      exact Node.isDirectory_above hpre hne (by simp [hfile])
    obtain ⟨after, hrename, hmoved⟩ := Node.exists_rename
      (h.backup_locate_eq hp (by simp [hkept]) hs.paved) hlocate (by simp [hkept])
      (h.demandsDirectory_join _ hp) (h.demandsDirectory_join _ hp) hparent (h.apart_keptAt_spot hp hp)
      (.inr (.inl ⟨old, content, hkept, hfile⟩))
    refine ⟨after, ?_, ?_⟩
    · rw [Batch.restore, if_pos (by simp [moved, hold])]
      exact World.gives_rename hrename
    · have helse : ∀ a, ¬ batch.spot path <+: a → ¬ batch.keptAt path <+: a →
          after.kindAt? a = world.files.kindAt? a :=
        fun a hspot' hkept' => hmoved.elsewhere a hkept' hspot'
      refine hs.tail h (hconfined helse) (fun r => ?_) helse
      rw [hmoved.there]
      cases r with
      | nil => simp [hkept, hold]
      | cons name rest =>
        rw [Node.kindAt?_below_file hkept (by simp), Node.kindAt?_below_file hold (by simp)]

end

/-- Files are taken back up to the first that is stuck, which the error names if there is one. -/
theorem rollback {world : World} (hs : batch.Stalled before world.files failed taken hollow)
    (h : batch.Prepared before) :
    ∃ cause after,
      world.Gives (batch.rollback (taken.map (batch.moved before)))
        (match taken.dropWhile fun p => !batch.isStuck before failed p with
          | [] => .ok ()
          | p :: _ => .error (.rollback (batch.place p) cause)) after ∧
      batch.Stalled before after failed (taken.dropWhile fun p => !batch.isStuck before failed p)
        hollow := by
  -- `Stalled` is what each file taken back leaves for the rest
  induction taken generalizing world with
  | nil => exact ⟨.notFound, world.files, World.gives_pure _, hs⟩
  | cons path rest ih =>
    rw [List.map_cons, Batch.rollback]
    by_cases hstuck : batch.isStuck before failed path
    · obtain ⟨fault, hrestore⟩ := hs.restore_stuck h rfl hstuck
      rw [List.dropWhile_cons_of_neg (by simp [hstuck])]
      exact ⟨fault, world.files, hrestore.bind (World.gives_pure _), hs⟩
    · obtain ⟨after, hrestore, hstalled⟩ := hs.restore h rfl hstuck
      have hthen : batch.Stalled before ({ world with files := after } : World).files failed rest
          hollow := hstalled
      obtain ⟨cause, last, hgives, hlast⟩ := ih hthen
      rw [List.dropWhile_cons_of_pos (by simp [hstuck])]
      exact ⟨cause, last, hrestore.bind hgives, hlast⟩

end Stalled

end TypedClient.Files.Batch
