import TypedClient.Proofs.Files.Layout
import TypedClient.Proofs.Files.Run

/-!
# Moving one file of a batch to its place

What is at the place of a file is moved aside and the staged file is moved there. `Batch.Replaced` says
what becomes of the tree (`Batch.Sound.promote_missing`, `Batch.Sound.promote_existing`). In the other
cases the file cannot be moved: what was moved aside for it returns (`Batch.Returned`), unless it is a
directory through which the way to the target leads further down (`Batch.Hollowed`).
-/

namespace TypedClient.Files.Batch

open World (Gives)

variable {batch : Batch} {now middle after : Node} {path p q : Path} {a v : Address}

/-- The trees before and after a file was moved to its place, and what was there was moved aside. -/
structure Replaced (batch : Batch) (now after : Node) (path : Path) : Prop where
  place : ∀ r, after.kindAt? (batch.spot path ++ r) = now.kindAt? (batch.readyAt path ++ r)
  kept : ∀ r, after.kindAt? (batch.keptAt path ++ r) = now.kindAt? (batch.spot path ++ r)
  gone : ∀ r, after.kindAt? (batch.readyAt path ++ r) = none
  elsewhere : ∀ a, ¬ batch.spot path <+: a → ¬ batch.keptAt path <+: a → ¬ batch.readyAt path <+: a →
    after.kindAt? a = now.kindAt? a ∨
      a ∈ batch.way path ∧ now.kindAt? a = none ∧ after.IsDirectory a

/-- The trees before and after a file could not be moved to its place, and what had been moved aside for
it returned. An older version that was kept before is lost. -/
structure Returned (batch : Batch) (now after : Node) (path : Path) : Prop where
  kept : ∀ r, after.kindAt? (batch.keptAt path ++ r) = none
  elsewhere : ∀ a, ¬ batch.keptAt path <+: a → after.kindAt? a = now.kindAt? a ∨
    a ∈ batch.way path ∧ now.kindAt? a = none ∧ after.IsDirectory a

/-- The trees before and after a directory was moved aside that did not return. -/
structure Hollowed (batch : Batch) (now after : Node) (path : Path) : Prop where
  paved : after.Paved batch.target
  place : ∀ r, after.fileAt? (batch.spot path ++ r) = none
  kept : ∀ r, after.kindAt? (batch.keptAt path ++ r) = now.kindAt? (batch.spot path ++ r)
  elsewhere : ∀ a, ¬ batch.spot path <+: a → ¬ batch.keptAt path <+: a →
    after.kindAt? a = now.kindAt? a ∨ a ∈ batch.way path ∧ now.kindAt? a = none ∧ after.IsDirectory a

namespace Sound

variable (h : batch.Sound) (hp : path ∈ batch.paths)

include h hp

theorem place_locate_eq (hthere : now.kindAt? (batch.spot path) ≠ none)
    (hpaved : now.Paved batch.target) :
    now.locate (batch.place path) = .ok (batch.spot path) :=
  Node.locate_join (h.ordinary path hp) (h.proper path hp) hpaved hthere

theorem staged_locate_eq (hthere : now.kindAt? (batch.readyAt path) ≠ none)
    (hpaved : now.Paved batch.target) :
    now.locate (batch.stagedPath path) = .ok (batch.readyAt path) :=
  h.locate_stored rfl (by decide) hp hpaved hthere

theorem backup_locate_eq (hthere : now.kindAt? (batch.keptAt path) ≠ none)
    (hpaved : now.Paved batch.target) :
    now.locate (batch.backupPath path) = .ok (batch.keptAt path) :=
  h.locate_stored rfl (by decide) hp hpaved hthere

/-- Whether a file or a directory is at the place is what is asked before something is moved there. -/
theorem hasPath_place (hpaved : now.Paved batch.target) :
    now.hasPath (batch.place path) = (now.kindAt? (batch.spot path)).isSome := by
  cases hkind : now.kindAt? (batch.spot path) with
  | none => exact Node.hasPath_of_missing hkind
  | some kind =>
    have hthere : now.kindAt? (batch.spot path) ≠ none := by simp [hkind]
    exact Node.hasPath_of_kindAt? (h.place_locate_eq hp hthere hpaved) hthere
      (h.demandsDirectory_join _ hp)

theorem isDirectory_parent_spot (hway : now.Paved (batch.place path).parent) :
    now.IsDirectory (batch.spot path).dropLast := by
  have hdir := hway.address
  rwa [place, Node.address_parent_join (h.ordinary path hp) (h.proper path hp)] at hdir

theorem hasPath_place_of_there (hpaved : now.Paved batch.target)
    (hthere : now.kindAt? (batch.spot path) ≠ none) : now.hasPath (batch.place path) = true := by
  rw [h.hasPath_place hp hpaved]
  exact Option.isSome_iff_ne_none.mpr hthere

/-- The way to a place leads over the target. -/
theorem paved_target (hway : now.Paved (batch.place path).parent) : now.Paved batch.target where
  start := hway.start
  trail v hv := hway.trail v ((h.mem_trail_place hp).mpr (.inl hv))

/-- The place of a file can be found if the way there is paved. -/
theorem place_locate_of_paved (hway : now.Paved (batch.place path).parent) :
    now.locate (batch.place path) = .ok (batch.spot path) :=
  Node.locate_of_paved (Node.steps_join_ne_nil (h.ordinary path hp) (h.proper path hp)) hway

/-- A staged file moves to its place if the way there is paved and nothing is there. -/
theorem exists_rename_staged (hpaved : now.Paved batch.target)
    (hway : now.Paved (batch.place path).parent)
    (hready : now.kindAt? (batch.readyAt path) ≠ none) (hfree : now.kindAt? (batch.spot path) = none) :
    ∃ after, now.rename (batch.stagedPath path) (batch.place path) = .ok after ∧
      now.Moved after (batch.readyAt path) (batch.spot path) :=
  Node.exists_rename (h.staged_locate_eq hp hready hpaved) (h.place_locate_of_paved hp hway) hready
    (h.demandsDirectory_join _ hp) (h.demandsDirectory_join _ hp) (h.isDirectory_parent_spot hp hway)
    (h.apart_readyAt_spot hp hp) (.inl hfree)

/-- Moving aside what is at a place makes directories in the staging directory and moves it there. -/
theorem exists_moveAside {world : World} (hpaved : world.files.Paved batch.target)
    (hclear : ∀ v ∈ (batch.backupPath path).parent.trail, world.files.fileAt? v = none)
    (hthere : world.files.kindAt? (batch.spot path) ≠ none)
    (hreplaces : world.files.Replaces (batch.spot path) (batch.keptAt path)) : ∃ made middle,
      world.Gives (renameWithParents (batch.place path) (batch.backupPath path)) (.ok ()) middle ∧
      world.files.Extended made (batch.backupPath path).parent.trail ∧
      made.Moved middle (batch.spot path) (batch.keptAt path) := by
  have hmade := Node.createDirectories_extends hpaved.start (batch.backupPath path).parent
  have hok := (Node.createDirectories_parent_ok_iff hpaved.start).mpr hclear
  have hway := Node.paved_of_createDirectories hpaved.start hok
  generalize hgen : (world.files.createDirectories (batch.backupPath path).parent).2 = made at *
  have hdir := hway.address
  rw [backupPath, Node.address_parent_join (h.ordinary path hp) (h.proper path hp)] at hdir
  have hthere' : made.kindAt? (batch.spot path) ≠ none := by rwa [hmade.kindAt?_eq hthere]
  -- the directories on the way to the backup are not among what is moved or replaced
  have hsame : ∀ r, made.kindAt? (batch.keptAt path ++ r) =
      world.files.kindAt? (batch.keptAt path ++ r) := by
    intro r
    refine hmade.eq_of_not_mem fun hmem => ?_
    exact h.not_keptAt_prefix_of_mem_way hp hp (List.mem_append_right _ hmem) (List.prefix_append _ r)
  have hreplaces' : made.Replaces (batch.spot path) (batch.keptAt path) := by
    have hself := hsame []
    rw [List.append_nil] at hself
    rw [Node.Replaces, Node.IsDirectory, Node.IsDirectory, hmade.kindAt?_eq hthere, hself]
    simpa only [hsame, Node.Replaces, Node.IsDirectory] using hreplaces
  obtain ⟨middle, hmove, hmoved⟩ := Node.exists_rename
    (h.place_locate_eq hp hthere' (hmade.paved hpaved))
    (Node.locate_of_paved (Node.steps_join_ne_nil (h.ordinary path hp) (h.proper path hp)) hway)
    hthere' (h.demandsDirectory_join _ hp) (h.demandsDirectory_join _ hp) hdir
    (h.apart_keptAt_spot hp hp).symm hreplaces'
  refine ⟨made, middle, World.gives_renameWithParents hok ?_, hmade, hmoved⟩
  rw [hgen]
  exact hmove

/-- Making room for an older version adds nothing to it. -/
theorem aside_spot (hpaved : now.Paved batch.target) {made : Node}
    (hmade : now.Extended made (batch.backupPath path).parent.trail) (r : Address) :
    made.kindAt? (batch.spot path ++ r) = now.kindAt? (batch.spot path ++ r) :=
  (hmade _).resolve_right fun hnew => (h.isDirectory_of_mem_way hp hp hpaved
    (List.mem_append_right _ hnew.1)).ne_none hnew.2.1

omit h hp in
/-- Moving something aside changes nothing but that, new directories apart. -/
theorem aside_elsewhere {made : Node} (hmade : now.Extended made (batch.backupPath path).parent.trail)
    (hmoved : made.Moved middle (batch.spot path) (batch.keptAt path))
    (hspot : ¬ batch.spot path <+: a) (hkept : ¬ batch.keptAt path <+: a) :
    middle.kindAt? a = now.kindAt? a ∨
      a ∈ batch.way path ∧ now.kindAt? a = none ∧ middle.IsDirectory a := by
  rw [Node.IsDirectory, hmoved.elsewhere a hspot hkept]
  exact (hmade a).imp_right fun hnew => ⟨List.mem_append_right _ hnew.1, hnew.2⟩

/-- The way to a place is as it was after something moved aside there, unless it was part of that. -/
theorem isDirectory_of_aside (hpaved : now.Paved batch.target)
    (hthere : now.kindAt? (batch.spot path) ≠ none)
    {made : Node} (hmade : now.Extended made (batch.backupPath path).parent.trail)
    (hmoved : made.Moved middle (batch.spot path) (batch.keptAt path))
    (hv : v = [] ∨ v ∈ (batch.place path).parent.trail) (hnot : ¬ batch.spot path <+: v) :
    middle.IsDirectory v := by
  have hnow : now.IsDirectory v := by
    rcases hv with rfl | hv
    · exact hpaved.start
    · rcases (h.mem_trail_place hp).mp hv with hv | ⟨q, -, hq, hlt, rfl⟩
      · exact hpaved.trail v hv
      · rw [spot_eq (h.ordinary path hp)] at hthere
        exact Node.isDirectory_above (by simpa using hq) (by simpa using hlt) hthere
  have hkept : ¬ batch.keptAt path <+: v := by
    rcases hv with rfl | hv
    · rw [keptAt_eq (h.ordinary path hp)]
      simp
    · exact h.not_keptAt_prefix_of_mem_way hp hp (List.mem_append_left _ hv)
  exact (hmoved.elsewhere v hnot hkept).trans (hmade.isDirectory hnow)

theorem paved_parent_of_aside (hpaved : now.Paved batch.target)
    (hapart : ∀ v ∈ batch.target.trail, ¬ batch.spot path <+: v)
    (hthere : now.kindAt? (batch.spot path) ≠ none)
    {made : Node} (hmade : now.Extended made (batch.backupPath path).parent.trail)
    (hmoved : made.Moved middle (batch.spot path) (batch.keptAt path)) :
    middle.Paved (batch.place path).parent where
  start := h.isDirectory_of_aside hp hpaved hthere hmade hmoved (.inl rfl)
    (by simpa using h.spot_ne_nil hp)
  trail v hv := h.isDirectory_of_aside hp hpaved hthere hmade hmoved (.inr hv) fun hpre =>
    hapart v (h.mem_trail_of_below_spot hp hp (List.mem_append_left _ hv) hpre) hpre

/-- The new version of a file moves to its place where nothing was before. -/
theorem promote_missing {world : World} (hpaved : world.files.Paved batch.target)
    (hready : world.files.kindAt? (batch.readyAt path) ≠ none)
    (hkept : world.files.kindAt? (batch.keptAt path) = none)
    (hclear : ∀ v ∈ (batch.place path).parent.trail, world.files.fileAt? v = none)
    (hapart : ∀ v ∈ batch.target.trail, ¬ batch.spot path <+: v)
    (hfree : world.files.kindAt? (batch.spot path) = none) :
    ∃ after, world.Gives (batch.promote path) (.ok ⟨path, false⟩) after ∧
      batch.Replaced world.files after path := by
  have hmade := Node.createDirectories_extends hpaved.start (batch.place path).parent
  have hok := (Node.createDirectories_parent_ok_iff hpaved.start).mpr hclear
  have hway := Node.paved_of_createDirectories hpaved.start hok
  generalize hgen : (world.files.createDirectories (batch.place path).parent).2 = made at *
  -- the new directories are above the place
  have hspot : ∀ r, made.kindAt? (batch.spot path ++ r) = none := by
    intro r
    rw [hmade.eq_of_not_mem fun hmem => hapart _ (h.mem_trail_of_below_spot hp hp
      (List.mem_append_left _ hmem) (List.prefix_append _ r)) (List.prefix_append _ r)]
    exact Node.kindAt?_below_missing hfree
  have harea : ∀ a, batch.area <+: a → made.kindAt? a = world.files.kindAt? a :=
    fun a ha => hmade.eq_of_not_mem fun hmem => h.not_area_prefix_of_mem_trail_place hp hmem ha
  have hready' : made.kindAt? (batch.readyAt path) ≠ none := by rwa [hmade.kindAt?_eq hready]
  obtain ⟨after, hmove, hmoved⟩ := h.exists_rename_staged hp (hmade.paved hpaved) hway hready'
    (by simpa using hspot [])
  refine ⟨after, World.gives_promote_missing ?_ (World.gives_renameWithParents hok (hgen ▸ hmove)), ?_⟩
  · rw [h.hasPath_place hp hpaved, hfree]
    rfl
  refine ⟨fun r => ?_, fun r => ?_, hmoved.gone, fun a hspot' _ hready' => ?_⟩
  · rw [hmoved.there, harea _ ((area_prefix_readyAt (h.ordinary path hp)).trans (List.prefix_append _ r))]
  · rw [hmoved.elsewhere _ ((h.apart_readyAt_keptAt hp hp).not_prefix_append r)
      ((h.apart_keptAt_spot hp hp).symm.not_prefix_append r),
      harea _ ((area_prefix_keptAt (h.ordinary path hp)).trans (List.prefix_append _ r)),
      Node.kindAt?_below_missing hkept, Node.kindAt?_below_missing hfree]
  · have hsame := hmoved.elsewhere a hready' hspot'
    rw [Node.IsDirectory, hsame]
    exact (hmade a).imp_right fun hnew => ⟨List.mem_append_left _ hnew.1, hnew.2⟩

/-- What is at the place of a file moves aside, and the new version moves there. -/
theorem promote_existing {world : World} (hpaved : world.files.Paved batch.target)
    (hready : world.files.kindAt? (batch.readyAt path) ≠ none)
    (hkept : world.files.kindAt? (batch.keptAt path) = none)
    (hclear : ∀ v ∈ (batch.backupPath path).parent.trail, world.files.fileAt? v = none)
    (hapart : ∀ v ∈ batch.target.trail, ¬ batch.spot path <+: v)
    (hthere : world.files.kindAt? (batch.spot path) ≠ none) :
    ∃ after, world.Gives (batch.promote path) (.ok ⟨path, true⟩) after ∧
      batch.Replaced world.files after path := by
  obtain ⟨made, middle, haside, hmade, hmoved⟩ :=
    h.exists_moveAside hp hpaved hclear hthere (.inl hkept)
  have hway := h.paved_parent_of_aside hp hpaved hapart hthere hmade hmoved
  have hpaved' := h.paved_target hp hway
  have hremade := Node.createDirectories_extends hway.start (batch.place path).parent
  have hok := hway.createDirectories_ok
  generalize hgen : (middle.createDirectories (batch.place path).parent).2 = remade at *
  -- the way to the place is there, so making it again changes nothing
  have hsame := hremade.eq_of_there hway.trail
  have hready' : middle.kindAt? (batch.readyAt path) = world.files.kindAt? (batch.readyAt path) := by
    rw [hmoved.elsewhere _ (h.apart_readyAt_spot hp hp).2 (h.apart_readyAt_keptAt hp hp).2,
      hmade.kindAt?_eq hready]
  obtain ⟨after, hmove, hplaced⟩ := h.exists_rename_staged hp (hremade.paved hpaved')
    (hremade.paved hway) (by rwa [hsame, hready']) (by simpa [hsame] using hmoved.gone [])
  refine ⟨after, World.gives_promote_existing (h.hasPath_place_of_there hp hpaved hthere) haside
    (World.gives_renameWithParents hok (hgen ▸ hmove)), ?_⟩
  refine ⟨fun r => ?_, fun r => ?_, hplaced.gone, fun a hspot' hkept' hready' => ?_⟩
  · rw [hplaced.there, hsame,
      hmoved.elsewhere _ ((h.apart_readyAt_spot hp hp).symm.not_prefix_append r)
        ((h.apart_readyAt_keptAt hp hp).symm.not_prefix_append r)]
    exact hmade.eq_of_not_mem fun hmem => h.not_readyAt_prefix_of_mem_way hp hp
      (List.mem_append_right _ hmem) (List.prefix_append _ r)
  · rw [hplaced.elsewhere _ ((h.apart_readyAt_keptAt hp hp).not_prefix_append r)
      ((h.apart_keptAt_spot hp hp).symm.not_prefix_append r), hsame, hmoved.there,
      h.aside_spot hp hpaved hmade]
  · rw [Node.IsDirectory, hplaced.elsewhere a hready' hspot', hsame]
    exact aside_elsewhere hmade hmoved hspot' hkept'

/-! ## Files that cannot be moved -/

omit h hp in
/-- A file on the way to a place keeps the new version from moving there. -/
theorem promote_blocked {world : World} (hstart : world.files.IsDirectory [])
    (hfree : world.files.kindAt? (batch.spot path) = none)
    (hblocked : ∃ v ∈ (batch.place path).parent.trail, world.files.fileAt? v ≠ none) :
    ∃ fault after, world.Gives (batch.promote path) (.error (.promote (batch.place path) fault)) after ∧
      world.files.Extended after (batch.way path) := by
  have hmade := Node.createDirectories_extends hstart (batch.place path).parent
  have hfail : (world.files.createDirectories (batch.place path).parent).1 ≠ .ok () := by
    rw [Ne, Node.createDirectories_parent_ok_iff hstart]
    rintro hclear
    obtain ⟨v, hv, hfile⟩ := hblocked
    exact hfile (hclear v hv)
  cases hmake : (world.files.createDirectories (batch.place path).parent).1 with
  | ok _ => exact absurd hmake hfail
  | error fault =>
    refine ⟨fault, _, World.gives_promote_missing_error ?_ (World.gives_renameWithParents_blocked hmake),
      hmade.mono fun v hv => List.mem_append_left _ hv⟩
    exact Node.hasPath_of_missing hfree

/-- A directory that is kept from before cannot be replaced by a file. -/
theorem promote_kept_directory {world : World} (hpaved : world.files.Paved batch.target)
    {content : ByteArray} (hfile : world.files.kindAt? (batch.spot path) = some (.file content))
    (hkept : world.files.IsDirectory (batch.keptAt path)) :
    ∃ fault after, world.Gives (batch.promote path) (.error (.promote (batch.place path) fault)) after ∧
      world.files.Extended after (batch.way path) := by
  have hthere : world.files.kindAt? (batch.spot path) ≠ none := by simp [hfile]
  have hmade := Node.createDirectories_extends hpaved.start (batch.backupPath path).parent
  have hextended := hmade.mono fun v hv => List.mem_append_right (batch.place path).parent.trail hv
  have haspath := h.hasPath_place_of_there hp hpaved hthere
  -- if there is room for the older version, moving it onto the directory fails
  cases hmake : (world.files.createDirectories (batch.backupPath path).parent).1 with
  | error fault =>
    exact ⟨fault, _, World.gives_promote_aside_error haspath
      (World.gives_renameWithParents_blocked hmake), hextended⟩
  | ok _ =>
    generalize hgen : (world.files.createDirectories (batch.backupPath path).parent).2 = made at *
    have hfile' : made.kindAt? (batch.spot path) = some (.file content) := by
      rw [hmade.kindAt?_eq hthere, hfile]
    have hkept' := hmade.isDirectory hkept
    obtain ⟨fault, hmove⟩ := Node.rename_of_not_replaces
      (h.place_locate_eq hp (by simp [hfile']) (hmade.paved hpaved))
      (h.backup_locate_eq hp hkept'.ne_none (hmade.paved hpaved)) (by simp [hfile'])
      (h.demandsDirectory_join _ hp)
      (h.apart_keptAt_spot hp hp).symm.ne
      (by simp [Node.Replaces, Node.IsDirectory, hfile', show _ = _ from hkept'])
    refine ⟨fault, made, World.gives_promote_aside_error haspath ?_, hextended⟩
    exact hgen ▸ World.gives_renameWithParents_error hmake (hgen ▸ hmove)

section

variable {world : World} {made remade : Node} {fault : Fault} (hpaved : world.files.Paved batch.target)
  (hthere : world.files.kindAt? (batch.spot path) ≠ none)
  (haside : world.Gives (renameWithParents (batch.place path) (batch.backupPath path)) (.ok ()) middle)
  (hmade : world.files.Extended made (batch.backupPath path).parent.trail)
  (hmoved : made.Moved middle (batch.spot path) (batch.keptAt path))
  (hmove : { world with files := middle }.Gives
    (renameWithParents (batch.stagedPath path) (batch.place path)) (.error fault) remade)
  (hremade : middle.Extended remade (batch.place path).parent.trail)

include hpaved hthere haside hmade hmoved hmove hremade

omit hpaved hthere haside hmade hmove in
theorem remade_keptAt (r : Address) :
    remade.kindAt? (batch.keptAt path ++ r) = made.kindAt? (batch.spot path ++ r) := by
  rw [hremade.eq_of_not_mem fun hmem => h.not_keptAt_prefix_of_mem_way hp hp
    (List.mem_append_left _ hmem) (List.prefix_append _ r), hmoved.there]

omit h hp hpaved hthere haside hmove in
theorem remade_elsewhere (hspot : ¬ batch.spot path <+: a) (hkept : ¬ batch.keptAt path <+: a) :
    remade.kindAt? a = world.files.kindAt? a ∨
      a ∈ batch.way path ∧ world.files.kindAt? a = none ∧ remade.IsDirectory a := by
  rcases aside_elsewhere hmade hmoved hspot hkept with hsame | ⟨hmem, hnone, hdir⟩
  · rw [← hsame]
    exact (hremade a).imp_right fun hnew => ⟨List.mem_append_left _ hnew.1, hnew.2⟩
  · exact .inr ⟨hmem, hnone, hremade.isDirectory hdir⟩

/-- What was moved aside returns if the new version cannot move to its place. -/
theorem promote_returns (hway : remade.Paved (batch.place path).parent)
    (hreplaces : remade.Replaces (batch.keptAt path) (batch.spot path)) :
    ∃ after, world.Gives (batch.promote path) (.error (.promote (batch.place path) fault)) after ∧
      batch.Returned world.files after path := by
  have hpaved' := h.paved_target hp hway
  have hkept := h.remade_keptAt hp hmoved hremade
  have hspot := h.aside_spot hp hpaved hmade
  have hthere' : remade.kindAt? (batch.keptAt path) ≠ none := by
    have hkeptat := hkept []
    rw [hspot, List.append_nil, List.append_nil] at hkeptat
    rwa [hkeptat]
  obtain ⟨after, hback, hreturned⟩ := Node.exists_rename (h.backup_locate_eq hp hthere' hpaved')
    (h.place_locate_of_paved hp hway) hthere' (h.demandsDirectory_join _ hp)
    (h.demandsDirectory_join _ hp) (h.isDirectory_parent_spot hp hway) (h.apart_keptAt_spot hp hp)
    hreplaces
  have haspath := h.hasPath_place_of_there hp hpaved hthere
  refine ⟨after, World.gives_promote_back haspath haside hmove hback, hreturned.gone, fun a hkept' => ?_⟩
  by_cases hspot' : batch.spot path <+: a
  · obtain ⟨r, rfl⟩ := hspot'
    exact .inl (by rw [hreturned.there, hkept, hspot])
  · rw [Node.IsDirectory, hreturned.elsewhere a hkept' hspot']
    exact remade_elsewhere hmade hmoved hremade hspot' hkept'

end

/-- A file that was moved to its place before cannot be moved there again. -/
theorem promote_repeated {world : World} (hpaved : world.files.Paved batch.target)
    {content : ByteArray} (hfile : world.files.kindAt? (batch.spot path) = some (.file content))
    (hready : world.files.kindAt? (batch.readyAt path) = none)
    (hkept : ¬ world.files.IsDirectory (batch.keptAt path))
    (hclear : ∀ v ∈ (batch.backupPath path).parent.trail, world.files.fileAt? v = none) :
    ∃ fault after, world.Gives (batch.promote path) (.error (.promote (batch.place path) fault)) after ∧
      batch.Returned world.files after path := by
  have hthere : world.files.kindAt? (batch.spot path) ≠ none := by simp [hfile]
  have hapart : ∀ v ∈ batch.target.trail, ¬ batch.spot path <+: v := by
    intro v hv hpre
    have hdir := hpaved.trail v hv
    by_cases heq : batch.spot path = v
    · exact Node.not_isDirectory_of_file (heq ▸ hfile) hdir
    · exact Node.not_isDirectory_of_file hfile (Node.isDirectory_above hpre heq hdir.ne_none)
  have hreplaces : world.files.Replaces (batch.spot path) (batch.keptAt path) := by
    rcases Node.kindAt?_cases world.files (batch.keptAt path) with hnone | hdir | ⟨own, hown⟩
    · exact .inl hnone
    · exact absurd hdir hkept
    · exact .inr (.inl ⟨content, own, hfile, hown⟩)
  obtain ⟨made, middle, haside, hmade, hmoved⟩ := h.exists_moveAside hp hpaved hclear hthere hreplaces
  have hway := h.paved_parent_of_aside hp hpaved hapart hthere hmade hmoved
  have hremade := Node.createDirectories_extends hway.start (batch.place path).parent
  have hok := hway.createDirectories_ok
  generalize hgen : (middle.createDirectories (batch.place path).parent).2 = remade at *
  have hsame := hremade.eq_of_there hway.trail
  -- nothing waits any more, so what was just moved aside has to return
  have hready' : remade.kindAt? (batch.readyAt path) = none := by
    rw [hsame, hmoved.elsewhere _ (h.apart_readyAt_spot hp hp).2 (h.apart_readyAt_keptAt hp hp).2,
      hmade.eq_of_not_mem fun hmem => h.not_readyAt_prefix_of_mem_way hp hp
        (List.mem_append_right _ hmem) List.prefix_rfl, hready]
  obtain ⟨fault, hmove⟩ := Node.rename_of_missing hready' (batch.place path)
  have hgives : ({ world with files := middle } : World).Gives
      (renameWithParents (batch.stagedPath path) (batch.place path)) (.error fault) remade :=
    hgen ▸ World.gives_renameWithParents_error hok (hgen ▸ hmove)
  obtain ⟨after, hafter⟩ := h.promote_returns hp hpaved hthere haside hmade hmoved hgives hremade
    (hremade.paved hway) (.inl (by simpa [hsame] using hmoved.gone []))
  exact ⟨fault, after, hafter⟩

/-- A directory through which the way to the target leads is in the way when it has been moved aside:
the directories of that way are made again. It returns if the way leads no deeper. -/
theorem promote_entered {world : World} (hpaved : world.files.Paved batch.target)
    (hready : ∃ content, world.files.kindAt? (batch.readyAt path) = some (.file content))
    (hkept : world.files.kindAt? (batch.keptAt path) = none)
    (hclear : ∀ v ∈ (batch.backupPath path).parent.trail, world.files.fileAt? v = none)
    (hentered : ∃ v ∈ batch.target.trail, batch.spot path <+: v) :
    ((∀ v ∈ batch.target.trail, batch.spot path <+: v → v = batch.spot path) →
      ∃ fault after, world.Gives (batch.promote path) (.error (.promote (batch.place path) fault)) after ∧
        batch.Returned world.files after path) ∧
    ((∃ v ∈ batch.target.trail, batch.spot path <+: v ∧ v ≠ batch.spot path) →
      ∃ fault after, world.Gives (batch.promote path) (.error (.rollback (batch.place path) fault)) after ∧
        batch.Hollowed world.files after path) := by
  obtain ⟨content, hready⟩ := hready
  obtain ⟨v, hv, hpre⟩ := hentered
  have hthere' : ∀ root : Node, root.Paved batch.target → root.IsDirectory (batch.spot path) := by
    intro root hroot
    by_cases heq : batch.spot path = v
    · exact heq ▸ hroot.trail v hv
    · exact Node.isDirectory_above hpre heq (hroot.trail v hv).ne_none
  have hdir := hthere' _ hpaved
  obtain ⟨made, middle, haside, hmade, hmoved⟩ :=
    h.exists_moveAside hp hpaved hclear hdir.ne_none (.inl hkept)
  have hstart := h.isDirectory_of_aside hp hpaved hdir.ne_none hmade hmoved (.inl rfl)
    (by simpa using h.spot_ne_nil hp)
  have hremade := Node.createDirectories_extends hstart (batch.place path).parent
  -- what is left of the way ends above the place, and from there on it is made again
  have hok : (middle.createDirectories (batch.place path).parent).1 = .ok () := by
    refine (Node.createDirectories_parent_ok_iff hstart).mpr fun u hu => ?_
    by_cases hspot : batch.spot path <+: u
    · obtain ⟨r, rfl⟩ := hspot
      exact Node.fileAt?_of_missing (hmoved.gone r)
    · exact Node.fileAt?_of_directory
        (h.isDirectory_of_aside hp hpaved hdir.ne_none hmade hmoved (.inr hu) hspot)
  have hway := Node.paved_of_createDirectories hstart hok
  generalize hgen : (middle.createDirectories (batch.place path).parent).2 = remade at *
  have hpaved' := h.paved_target hp hway
  have hready' : remade.kindAt? (batch.readyAt path) = some (.file content) := by
    have hsome : made.kindAt? (batch.readyAt path) = some (.file content) := by
      rw [hmade.kindAt?_eq (by simp [hready]), hready]
    have hmiddle : middle.kindAt? (batch.readyAt path) = some (.file content) := by
      rw [hmoved.elsewhere _ (h.apart_readyAt_spot hp hp).2 (h.apart_readyAt_keptAt hp hp).2, hsome]
    rw [hremade.kindAt?_eq (by simp [hmiddle]), hmiddle]
  have hdir' := hthere' _ hpaved'
  have hlocate := h.place_locate_eq hp hdir'.ne_none hpaved'
  obtain ⟨fault, hmove⟩ := Node.rename_of_not_replaces (h.staged_locate_eq hp (by simp [hready']) hpaved')
    hlocate (by simp [hready']) (h.demandsDirectory_join _ hp)
    (h.apart_readyAt_spot hp hp).ne
    (by simp [Node.Replaces, Node.IsDirectory, hready', show _ = _ from hdir'])
  have hgives : ({ world with files := middle } : World).Gives
      (renameWithParents (batch.stagedPath path) (batch.place path)) (.error fault) remade :=
    hgen ▸ World.gives_renameWithParents_error hok (hgen ▸ hmove)
  have hkeptdir : remade.IsDirectory (batch.keptAt path) := by
    have hkeptat := h.remade_keptAt hp hmoved hremade []
    rw [h.aside_spot hp hpaved hmade, List.append_nil, List.append_nil] at hkeptat
    exact hkeptat.trans hdir
  -- below the place there is only what the way to the target needs
  have hbelow : ∀ r, remade.kindAt? (batch.spot path ++ r) = none ∨
      batch.spot path ++ r ∈ batch.target.trail ∧ remade.IsDirectory (batch.spot path ++ r) := by
    intro r
    refine (hremade _).imp (fun hsame => hsame.trans (hmoved.gone r)) fun hnew => ⟨?_, hnew.2.2⟩
    exact h.mem_trail_of_below_spot hp hp (List.mem_append_left _ hnew.1) (List.prefix_append _ r)
  constructor
  · intro hshallow
    have hreplaces : remade.Replaces (batch.keptAt path) (batch.spot path) := by
      refine .inr (.inr ⟨hkeptdir, hdir', fun name => (hbelow [name]).resolve_right fun hnew => ?_⟩)
      simpa using hshallow _ hnew.1 (List.prefix_append _ _)
    obtain ⟨after, hafter⟩ := h.promote_returns hp hpaved hdir.ne_none haside hmade hmoved hgives hremade
      hway hreplaces
    exact ⟨fault, after, hafter⟩
  · rintro ⟨u, hu, hspot, hne⟩
    have hreplaces : ¬ remade.Replaces (batch.keptAt path) (batch.spot path) := by
      obtain ⟨r, rfl⟩ := hspot
      cases r with
      | nil => simp at hne
      | cons name rest =>
        have hchild : remade.kindAt? (batch.spot path ++ [name]) ≠ none := by
          intro hnone
          have hmissing := Node.kindAt?_below_missing (r := rest) hnone
          rw [List.append_assoc, List.singleton_append] at hmissing
          exact (hpaved'.trail _ hu).ne_none hmissing
        rintro (hnone | ⟨_, _, hfile, _⟩ | ⟨_, _, hempty⟩)
        · exact hdir'.ne_none hnone
        · simp [show _ = _ from hkeptdir] at hfile
        · exact hchild (hempty name)
    obtain ⟨worse, hback⟩ := Node.rename_of_not_replaces
      (h.backup_locate_eq hp hkeptdir.ne_none hpaved') hlocate hkeptdir.ne_none
      (h.demandsDirectory_join _ hp) (h.apart_keptAt_spot hp hp).ne hreplaces
    have haspath := h.hasPath_place_of_there hp hpaved hdir.ne_none
    refine ⟨worse, remade, World.gives_promote_back_error haspath haside hgives hback, hpaved',
      fun r => ?_, fun r => ?_, fun a hspot' hkept' => remade_elsewhere hmade hmoved hremade hspot' hkept'⟩
    · exact (hbelow r).elim Node.fileAt?_of_missing fun hnew => Node.fileAt?_of_directory hnew.2
    · rw [h.remade_keptAt hp hmoved hremade, h.aside_spot hp hpaved hmade]

end Sound

end TypedClient.Files.Batch
