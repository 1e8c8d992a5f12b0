import TypedClient.Proofs.Files.Promote

/-!
# The tree while a batch is written

`Batch.Prepared` is the state in which a batch has staged all its files. From there on `Batch.Underway`
holds after each file that is moved to its place: the places of the files taken so far have the new
versions, what was there before is kept aside, and all else is as it was, new directories apart
(`Batch.Intact`). `Batch.Traced` is the part of this that is about the world outside the staging
directory; it also survives a file that cannot be moved.
-/

namespace TypedClient.Files.Batch

variable {batch : Batch} {before now after : Node} {path p q : Path} {a v : Address}

/-! ## Addresses at which nothing is lost -/

/-- An address on the way from the target to the place of a file. -/
def IsBetween (batch : Batch) (a : Address) : Prop :=
  ∃ path ∈ batch.paths, a <+: batch.spot path ∧ a ≠ batch.spot path

/-- Between the two trees nothing changed at an address, or a directory was made there on the way to a
place. -/
def Intact (batch : Batch) (before after : Node) (a : Address) : Prop :=
  after.kindAt? a = before.kindAt? a ∨
    batch.IsBetween a ∧ before.kindAt? a = none ∧ after.IsDirectory a

/-- What is intact after each of two changes is so after both. -/
theorem Intact.trans (h : batch.Intact before now a) (h' : batch.Intact now after a) :
    batch.Intact before after a := by
  -- a directory that was made is there, so it is not made a second time
  rcases h with hsame | ⟨hbetween, hnone, hdir⟩ <;> rcases h' with hsame' | ⟨hbetween', hnone', hdir'⟩
  · exact .inl (hsame'.trans hsame)
  · exact .inr ⟨hbetween', hsame ▸ hnone', hdir'⟩
  · exact .inr ⟨hbetween, hnone, hsame'.trans hdir⟩
  · exact absurd hnone' hdir.ne_none

/-- Where a tree is intact no file changed. -/
theorem Intact.fileAt?_eq (h : batch.Intact before after a) : after.fileAt? a = before.fileAt? a := by
  rcases h with hsame | ⟨_, hnone, hdir⟩
  · simp [Node.fileAt?, hsame]
  · rw [Node.fileAt?_of_directory hdir, Node.fileAt?_of_missing hnone]

namespace Sound

variable (h : batch.Sound)

include h

/-- A place lies below another one only if it is the same place. -/
theorem spot_prefix_iff (hp : p ∈ batch.paths) (hq : q ∈ batch.paths) :
    batch.spot p <+: batch.spot q ↔ p.steps = q.steps := by
  rw [spot_eq (h.ordinary p hp), spot_eq (h.ordinary q hq), List.prefix_append_right_inj]
  exact ⟨h.antichain p hp q hq, fun heq => heq ▸ List.prefix_rfl⟩

/-- Paths with the same steps have the same place. -/
theorem spot_congr (hp : p ∈ batch.paths) (hq : q ∈ batch.paths) (heq : p.steps = q.steps) :
    batch.spot p = batch.spot q := by
  rw [spot_eq (h.ordinary p hp), spot_eq (h.ordinary q hq), heq]

/-- So they have for their older version. -/
theorem keptAt_congr (hp : p ∈ batch.paths) (hq : q ∈ batch.paths) (heq : p.steps = q.steps) :
    batch.keptAt p = batch.keptAt q := by
  rw [keptAt_eq (h.ordinary p hp), keptAt_eq (h.ordinary q hq), heq]

/-- So they have for their new version. -/
theorem readyAt_congr (hp : p ∈ batch.paths) (hq : q ∈ batch.paths) (heq : p.steps = q.steps) :
    batch.readyAt p = batch.readyAt q := by
  rw [readyAt_eq (h.ordinary p hp), readyAt_eq (h.ordinary q hq), heq]

/-- No directory is made at the place of a file or below it. -/
theorem not_isBetween (hp : p ∈ batch.paths) (r : Address) : ¬ batch.IsBetween (batch.spot p ++ r) := by
  rintro ⟨q, hq, hpre, hne⟩
  have hsteps := (h.spot_prefix_iff hp hq).mp ((List.prefix_append _ r).trans hpre)
  have hspot := h.spot_congr hp hq hsteps
  rw [← hspot] at hpre hne
  exact hne (hpre.eq_of_length_le (by simp))

/-- A directory that is new on the way of a file leads to its place. -/
theorem isBetween_of_mem_way (hp : p ∈ batch.paths) (hpaved : now.Paved batch.target)
    (harea : ¬ batch.area <+: a) (ha : a ∈ batch.way p) (hnone : now.kindAt? a = none) :
    batch.IsBetween a := by
  have htarget : a ∉ batch.target.trail := fun hmem => (hpaved.trail a hmem).ne_none hnone
  rcases List.mem_append.mp ha with ha | ha
  · rcases (h.mem_trail_place hp).mp ha with ha | ⟨r, -, hr, hlt, rfl⟩
    · exact absurd ha htarget
    · refine ⟨p, hp, ?_, ?_⟩ <;> rw [spot_eq (h.ordinary p hp)]
      · simpa using hr
      · simpa using hlt
  · rcases (h.mem_trail_backup hp).mp ha with ha | rfl | ⟨r, -, -, rfl⟩
    · exact absurd ha htarget
    · exact absurd List.prefix_rfl harea
    · exact absurd (List.prefix_append _ _) harea

end Sound

/-! ## Changes that concern one file -/

/-- Between the two trees nothing changed but at the three addresses of a file and below them, new
directories on the ways there apart. -/
def Confined (batch : Batch) (now after : Node) (path : Path) : Prop :=
  ∀ a, ¬ batch.spot path <+: a → ¬ batch.keptAt path <+: a → ¬ batch.readyAt path <+: a →
    after.kindAt? a = now.kindAt? a ∨ a ∈ batch.way path ∧ now.kindAt? a = none ∧ after.IsDirectory a

/-- New directories on the ways of a file concern that file only. -/
theorem confined_of_extended (h : now.Extended after (batch.way path)) : batch.Confined now after path :=
  fun a _ _ _ => h a

theorem Returned.confined (h : batch.Returned now after path) : batch.Confined now after path :=
  fun a _ hkept _ => h.elsewhere a hkept

theorem Hollowed.confined (h : batch.Hollowed now after path) : batch.Confined now after path :=
  fun a hspot hkept _ => h.elsewhere a hspot hkept

theorem Replaced.confined (h : batch.Replaced now after path) : batch.Confined now after path :=
  h.elsewhere

namespace Confined

variable (hc : batch.Confined now after path) (h : batch.Sound) (hp : path ∈ batch.paths)
  (hpaved : now.Paved batch.target)

include hc h hp

/-- Outside the staging directory only the place of the file matters. -/
theorem of_not_area (harea : ¬ batch.area <+: a) (hspot : ¬ batch.spot path <+: a) :
    after.kindAt? a = now.kindAt? a ∨ a ∈ batch.way path ∧ now.kindAt? a = none ∧ after.IsDirectory a := by
  refine hc a hspot (fun hkept => harea ?_) fun hready => harea ?_
  · exact (area_prefix_keptAt (h.ordinary path hp)).trans hkept
  · exact (area_prefix_readyAt (h.ordinary path hp)).trans hready

/-- Outside the staging directory and the place, directories stay. -/
theorem isDirectory_of_not_area (harea : ¬ batch.area <+: a) (hspot : ¬ batch.spot path <+: a)
    (hdir : now.IsDirectory a) : after.IsDirectory a := by
  rcases hc.of_not_area h hp harea hspot with hsame | hnew
  · exact hsame.trans hdir
  · exact hnew.2.2

include hpaved

/-- The way to the target stays if it is not through the place. -/
theorem paved (hapart : ∀ v ∈ batch.target.trail, ¬ batch.spot path <+: v) :
    after.Paved batch.target where
  start := by
    refine hc.isDirectory_of_not_area h hp ?_ (by simpa using h.spot_ne_nil hp) hpaved.start
    obtain ⟨name, harea⟩ := h.exists_area_eq
    simp [harea]
  trail v hv := hc.isDirectory_of_not_area h hp (h.separate v hv) (hapart v hv) (hpaved.trail v hv)

/-- Outside the staging directory and the place nothing is lost. -/
theorem intact (harea : ¬ batch.area <+: a) (hspot : ¬ batch.spot path <+: a) :
    batch.Intact now after a := by
  refine (hc.of_not_area h hp harea hspot).imp_right ?_
  rintro ⟨hmem, hnone, hdir⟩
  exact ⟨h.isBetween_of_mem_way hp hpaved harea hmem hnone, hnone, hdir⟩

section

variable (hq : q ∈ batch.paths) (hne : q.steps ≠ path.steps)

include hq hne

/-- The places of other files are as they were. -/
theorem spot_eq (r : Address) :
    after.kindAt? (batch.spot q ++ r) = now.kindAt? (batch.spot q ++ r) := by
  refine (hc _ ((h.apart_spot hp hq hne.symm).not_prefix_append r)
    ((h.apart_keptAt_spot hp hq).not_prefix_append r)
    ((h.apart_readyAt_spot hp hq).not_prefix_append r)).resolve_right fun hnew => ?_
  exact (h.isDirectory_of_mem_way hp hq hpaved hnew.1).ne_none hnew.2.1

omit hpaved

/-- So are the older versions that are kept for them. -/
theorem keptAt_eq (r : Address) :
    after.kindAt? (batch.keptAt q ++ r) = now.kindAt? (batch.keptAt q ++ r) := by
  refine (hc _ ((h.apart_keptAt_spot hq hp).symm.not_prefix_append r)
    ((h.apart_keptAt hp hq hne.symm).not_prefix_append r)
    ((h.apart_readyAt_keptAt hp hq).not_prefix_append r)).resolve_right fun hnew => ?_
  exact h.not_keptAt_prefix_of_mem_way hp hq hnew.1 (List.prefix_append _ r)

/-- So are the new versions that wait for them. -/
theorem readyAt_eq (r : Address) :
    after.kindAt? (batch.readyAt q ++ r) = now.kindAt? (batch.readyAt q ++ r) := by
  refine (hc _ ((h.apart_readyAt_spot hq hp).symm.not_prefix_append r)
    ((h.apart_readyAt_keptAt hq hp).symm.not_prefix_append r)
    ((h.apart_readyAt hp hq hne.symm).not_prefix_append r)).resolve_right fun hnew => ?_
  exact h.not_readyAt_prefix_of_mem_way hp hq hnew.1 (List.prefix_append _ r)

end

omit hpaved in
/-- No file comes in the way of what is kept. -/
theorem clear (hq : q ∈ batch.paths) (hpaved' : after.Paved batch.target)
    (hclear : ∀ v ∈ (batch.backupPath q).parent.trail, now.fileAt? v = none) :
    ∀ v ∈ (batch.backupPath q).parent.trail, after.fileAt? v = none := by
  intro v hv
  have hway : v ∈ batch.way q := List.mem_append_right _ hv
  -- a way that leads through the place of the file is that to the target
  by_cases hspot : batch.spot path <+: v
  · exact Node.fileAt?_of_directory
      (hpaved'.trail v (h.mem_trail_of_below_spot hq hp hway hspot))
  · rcases hc v hspot (h.not_keptAt_prefix_of_mem_way hq hp hway)
      (h.not_readyAt_prefix_of_mem_way hq hp hway) with hsame | hnew
    · rw [Node.fileAt?, hsame]
      exact hclear v hv
    · exact Node.fileAt?_of_directory hnew.2.2

end Confined

/-! ## Some files taken -/

/-- A batch that has staged all its files, and the tree it is written to. -/
structure Prepared (batch : Batch) (root : Node) : Prop extends Sound batch where
  paved : root.Paved batch.target
  ready : ∀ path ∈ batch.paths, ∃ content, root.kindAt? (batch.readyAt path) = some (.file content)
  unused : root.kindAt? (batch.area ++ ["backup"]) = none

/-- The tree before a batch is written and now, with new versions at the places of the files taken. At
the place of a hollow file there was a directory that was moved aside and did not return. -/
structure Traced (batch : Batch) (before now : Node) (taken : List Path) (hollow : Option Path) :
    Prop where
  paved : now.Paved batch.target
  listed : ∀ path ∈ taken, path ∈ batch.paths
  distinct : taken.Pairwise fun p q => p.steps ≠ q.steps
  place : ∀ path ∈ taken, ∀ r,
    now.kindAt? (batch.spot path ++ r) = before.kindAt? (batch.readyAt path ++ r)
  hollow_listed : ∀ path ∈ hollow, path ∈ batch.paths
  hollow_distinct : ∀ path ∈ hollow, ∀ p ∈ taken, p.steps ≠ path.steps
  hollow_place : ∀ path ∈ hollow, ∀ r, now.fileAt? (batch.spot path ++ r) = none
  elsewhere : ∀ a, ¬ batch.area <+: a → (∀ path ∈ taken, ¬ batch.spot path <+: a) →
    (∀ path ∈ hollow, ¬ batch.spot path <+: a) → batch.Intact before now a

/-- The tree before a batch is written and now, with all that belongs to the files taken so far where it
should be, and the other files ready. -/
structure Underway (batch : Batch) (before now : Node) (taken : List Path) : Prop
    extends Traced batch before now taken none where
  kept : ∀ path ∈ taken, ∀ r,
    now.kindAt? (batch.keptAt path ++ r) = before.kindAt? (batch.spot path ++ r)
  gone : ∀ path ∈ taken, now.kindAt? (batch.readyAt path) = none
  ready : ∀ path ∈ batch.paths, (∀ p ∈ taken, p.steps ≠ path.steps) →
    now.kindAt? (batch.readyAt path) = before.kindAt? (batch.readyAt path)
  free : ∀ path ∈ batch.paths, (∀ p ∈ taken, p.steps ≠ path.steps) →
    now.kindAt? (batch.keptAt path) = none
  clear : ∀ path ∈ batch.paths, ∀ v ∈ (batch.backupPath path).parent.trail, now.fileAt? v = none

/-- Nothing is kept before the first file is moved. -/
theorem Prepared.unused_below (h : batch.Prepared before) (r : Address) :
    before.kindAt? (batch.area ++ "backup" :: r) = none := by
  rw [List.append_cons]
  exact Node.kindAt?_below_missing h.unused

/-- A batch that is prepared is under way with nothing done. -/
theorem Prepared.underway (h : batch.Prepared before) : batch.Underway before before [] where
  paved := h.paved
  listed := by simp
  distinct := .nil
  place := by simp
  hollow_listed := by simp
  hollow_distinct := by simp
  hollow_place := by simp
  elsewhere _ _ _ _ := .inl rfl
  kept := by simp
  gone := by simp
  ready _ _ _ := rfl
  free path hp _ := by
    rw [Batch.keptAt_eq (h.ordinary path hp)]
    exact h.unused_below path.steps
  clear path hp v hv := by
    rcases (h.mem_trail_backup hp).mp hv with hv | rfl | ⟨r, -, -, rfl⟩
    · exact Node.fileAt?_of_directory (h.paved.trail v hv)
    -- the staging directory holds the file that waits
    · obtain ⟨content, hready⟩ := h.ready path hp
      have hpre : batch.area <+: batch.readyAt path := area_prefix_readyAt (h.ordinary path hp)
      have hne : batch.area ≠ batch.readyAt path := by simp [Batch.readyAt_eq (h.ordinary path hp)]
      exact Node.fileAt?_of_directory (Node.isDirectory_above hpre hne (by simp [hready]))
    · exact Node.fileAt?_of_missing (h.unused_below r)

namespace Traced

variable {taken : List Path} {hollow : Option Path} (ht : batch.Traced before now taken hollow)
  (h : batch.Prepared before)

include ht h

/-- A file of which nothing was moved has at its place what was there before. -/
theorem spot_eq (hq : q ∈ batch.paths) (hnew : ∀ p ∈ taken, p.steps ≠ q.steps)
    (hhollow : ∀ p ∈ hollow, p.steps ≠ q.steps) (r : Address) :
    now.kindAt? (batch.spot q ++ r) = before.kindAt? (batch.spot q ++ r) := by
  refine (ht.elsewhere _ ((h.apart_area_spot hq).not_prefix_append r) (fun p hp => ?_)
    (fun p hp => ?_)).resolve_right fun hnew => h.not_isBetween hq r hnew.1
  · exact (h.apart_spot (ht.listed p hp) hq (hnew p hp)).not_prefix_append r
  · exact (h.apart_spot (ht.hollow_listed p hp) hq (hhollow p hp)).not_prefix_append r

/-- The files taken are at their places. -/
theorem exists_file (hp : p ∈ taken) :
    ∃ content, now.kindAt? (batch.spot p) = some (.file content) := by
  obtain ⟨content, hready⟩ := h.ready p (ht.listed p hp)
  exact ⟨content, by simpa [hready] using ht.place p hp []⟩

omit h in
/-- The way to the target is not through a file. -/
theorem apart_of_file {content : ByteArray}
    (hfile : now.kindAt? (batch.spot p) = some (.file content)) :
    ∀ v ∈ batch.target.trail, ¬ batch.spot p <+: v := by
  rintro v hv ⟨r, rfl⟩
  have hdir := ht.paved.trail _ hv
  cases r with
  | nil =>
    rw [List.append_nil] at hdir
    exact Node.not_isDirectory_of_file hfile hdir
  | cons name rest => exact hdir.ne_none (Node.kindAt?_below_file hfile (by simp))

end Traced

/-- One more file is moved to its place. -/
theorem Underway.replaced {taken : List Path} (hu : batch.Underway before now taken)
    (h : batch.Prepared before) (hp : path ∈ batch.paths) (hnew : ∀ p ∈ taken, p.steps ≠ path.steps)
    (hapart : ∀ v ∈ batch.target.trail, ¬ batch.spot path <+: v) (hr : batch.Replaced now after path) :
    batch.Underway before after (path :: taken) := by
  have hc := hr.confined
  have hpaved := hc.paved h.toSound hp hu.paved hapart
  have hready : ∀ r, now.kindAt? (batch.readyAt path ++ r) =
      before.kindAt? (batch.readyAt path ++ r) := by
    intro r
    obtain ⟨content, hfile⟩ := h.ready path hp
    have hsame := hu.ready path hp hnew
    cases r with
    | nil => simpa using hsame
    | cons name rest =>
      rw [Node.kindAt?_below_file (hsame.trans hfile) (by simp), Node.kindAt?_below_file hfile (by simp)]
  have hspot := hu.toTraced.spot_eq h hp hnew (by simp)
  -- each part is a matter of the file itself, of one taken before, or of a file that is left
  refine {
    paved := hpaved
    listed := List.forall_mem_cons.mpr ⟨hp, hu.listed⟩
    distinct := .cons (fun p hmem => (hnew p hmem).symm) hu.distinct
    place := List.forall_mem_cons.mpr ⟨fun r => (hr.place r).trans (hready r), fun p hmem r => ?_⟩
    hollow_listed := by simp
    hollow_distinct := by simp
    hollow_place := by simp
    elsewhere := fun a harea htaken hhollow => ?_
    kept := List.forall_mem_cons.mpr ⟨fun r => (hr.kept r).trans (hspot r), fun p hmem r => ?_⟩
    gone := List.forall_mem_cons.mpr ⟨by simpa using hr.gone [], fun p hmem => ?_⟩
    ready := fun q hq hdistinct => ?_
    free := fun q hq hdistinct => ?_
    clear := fun q hq => hc.clear h.toSound hp hq hpaved (hu.clear q hq) }
  · rw [hc.spot_eq h.toSound hp hu.paved (hu.listed p hmem) (hnew p hmem), hu.place p hmem]
  · obtain ⟨hown, hrest⟩ := List.forall_mem_cons.mp htaken
    exact (hu.elsewhere a harea hrest hhollow).trans (hc.intact h.toSound hp hu.paved harea hown)
  · rw [hc.keptAt_eq h.toSound hp (hu.listed p hmem) (hnew p hmem), hu.kept p hmem]
  · simpa [hu.gone p hmem] using hc.readyAt_eq h.toSound hp (hu.listed p hmem) (hnew p hmem) []
  · obtain ⟨hown, hrest⟩ := List.forall_mem_cons.mp hdistinct
    simpa [hu.ready q hq hrest] using hc.readyAt_eq h.toSound hp hq hown.symm []
  · obtain ⟨hown, hrest⟩ := List.forall_mem_cons.mp hdistinct
    simpa [hu.free q hq hrest] using hc.keptAt_eq h.toSound hp hq hown.symm []

end TypedClient.Files.Batch
