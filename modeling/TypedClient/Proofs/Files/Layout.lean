import TypedClient.Files.Batch
import TypedClient.Proofs.Files.Move

/-!
# Where a batch keeps its files

A batch has three addresses for a file: its place below the target, and, inside the staging directory,
where the new version waits and where an older one is kept. They never lie within one another, for one
file or for two with different steps (`Batch.Sound.apart_area_spot`, `Batch.Sound.apart_spot`), so what is
done at one of them is not seen at another.
-/

namespace TypedClient.Files

/-! ## Addresses apart -/

/-- What is apart from an address is apart from all below that address. -/
theorem Apart.extend {a b c : Address} (h : Apart a b) (hac : a <+: c) : Apart c b := by
  refine ⟨fun hcb => h.1 (hac.trans hcb), fun hbc => ?_⟩
  rcases List.prefix_or_prefix_of_prefix hac hbc with hab | hba
  · exact h.1 hab
  · exact h.2 hba

/-- Whether two addresses are apart is decided behind what they have in common. -/
theorem apart_append {a b : Address} (c : Address) : Apart (c ++ a) (c ++ b) ↔ Apart a b := by
  simp [Apart]

/-- Nothing lies below itself. -/
theorem not_below_self {a b : Address} {s : String} : ¬ a ++ s :: b <+: a := by
  intro h
  have hlen := h.length_le
  rw [List.length_append, List.length_cons] at hlen
  omega

/-- Addresses that start with different names are apart. -/
theorem apart_cons {a b : Address} {s t : String} (h : s ≠ t) : Apart (s :: a) (t :: b) := by
  simp [Apart, h, Ne.symm h]

/-- A first name in common does not matter. -/
theorem apart_cons_self {a b : Address} (s : String) : Apart (s :: a) (s :: b) ↔ Apart a b := by
  simp [Apart]

namespace Batch

variable (batch : Batch) (path : Path)

/-- The address of the staging directory. -/
def area : Address :=
  batch.staging.address

/-- The address of the place of a file. -/
def spot : Address :=
  (batch.place path).address

/-- The address where the new version of a file waits. -/
def readyAt : Address :=
  (batch.stagedPath path).address

/-- The address where the older version of a file is kept. -/
def keptAt : Address :=
  (batch.backupPath path).address

/-- The paths of the staged files, in order. -/
def paths : List Path :=
  batch.staged.map Staged.path

/-- The addresses on the way to the place of a file and to where its older version is kept. -/
def way : List Address :=
  (batch.place path).parent.trail ++ (batch.backupPath path).parent.trail

/-- A batch whose staging directory is in its target, but not on the way there. -/
structure Housed : Prop where
  staging : ∃ name, Path.isIdle name = false ∧ name ≠ ".." ∧ batch.staging = batch.target.child name
  separate : ∀ v ∈ batch.target.trail, ¬ batch.area <+: v

/-- A batch whose files stay out of its staging directory and of one another. -/
structure Sound : Prop extends Housed batch where
  ordinary : ∀ path ∈ batch.paths, path.IsOrdinary
  proper : ∀ path ∈ batch.paths, path.steps ≠ []
  file : ∀ path ∈ batch.paths, path.demandsDirectory = false
  outside : ∀ path ∈ batch.paths, ¬ batch.area <+: batch.spot path
  antichain : ∀ p ∈ batch.paths, ∀ q ∈ batch.paths, p.steps <+: q.steps → p.steps = q.steps

variable {batch path} {p q : Path}

/-- The place of an ordinary path lies in the target. -/
theorem spot_eq (h : path.IsOrdinary) : batch.spot path = batch.target.address ++ path.steps :=
  Path.address_join h

/-- A name that is no dots is an ordinary path. -/
theorem isOrdinary_name {name : String} (hidle : Path.isIdle name = false) (hdots : name ≠ "..") :
    (Path.mk [name]).IsOrdinary := by
  refine ⟨by simp [Path.isAbsolute], ?_⟩
  simp [Path.steps, hidle, Ne.symm hdots]

/-- A child lies in the directory that its base names. -/
theorem address_child {base : Path} {name : String} (hidle : Path.isIdle name = false)
    (hdots : name ≠ "..") : (base.child name).address = base.address ++ [name] := by
  rw [Path.child, Path.address_join (isOrdinary_name hidle hdots)]
  simp [Path.steps, hidle]

/-- The way to a child is the way to its base and one step more. -/
theorem trail_child {base : Path} {name : String} (hidle : Path.isIdle name = false)
    (hdots : name ≠ "..") : (base.child name).trail = base.trail ++ [base.address ++ [name]] := by
  rw [Path.trail, Path.steps_child hidle, trail_append]
  simp [Path.trail, Path.address, trail, takeStep, hdots]

/-- The new version of a file waits in the staging directory. -/
theorem readyAt_eq (h : path.IsOrdinary) :
    batch.readyAt path = batch.area ++ "staged" :: path.steps := by
  rw [readyAt, stagedPath, Path.address_join h, address_child rfl (by decide)]
  simp [area]

/-- The older version of a file is kept in the staging directory. -/
theorem keptAt_eq (h : path.IsOrdinary) :
    batch.keptAt path = batch.area ++ "backup" :: path.steps := by
  rw [keptAt, backupPath, Path.address_join h, address_child rfl (by decide)]
  simp [area]

theorem area_prefix_readyAt (h : path.IsOrdinary) : batch.area <+: batch.readyAt path := by
  rw [readyAt_eq h]
  exact List.prefix_append _ _

theorem area_prefix_keptAt (h : path.IsOrdinary) : batch.area <+: batch.keptAt path := by
  rw [keptAt_eq h]
  exact List.prefix_append _ _

namespace Housed

variable (h : batch.Housed)

include h

/-- The staging directory lies in the target. -/
theorem exists_area_eq : ∃ name, batch.area = batch.target.address ++ [name] := by
  obtain ⟨name, hidle, hdots, hstaging⟩ := h.staging
  exact ⟨name, by rw [area, hstaging, address_child hidle hdots]⟩

/-- The way to a directory of the area goes over the target and the area. -/
theorem trail_staging_child {s : String} (hidle : Path.isIdle s = false) (hdots : s ≠ "..") :
    (batch.staging.child s).trail = batch.target.trail ++ [batch.area] ++ [batch.area ++ [s]] := by
  obtain ⟨name, hidle', hdots', hstaging⟩ := h.staging
  rw [trail_child hidle hdots, area, hstaging, trail_child hidle' hdots', address_child hidle' hdots']

/-- What is on the way to a path in the staging directory is on the way to the target or in there. -/
theorem mem_trail_stored {s : String} {v : Address} (hidle : Path.isIdle s = false) (hdots : s ≠ "..")
    (hord : path.IsOrdinary) (hne : path.steps ≠ []) :
    v ∈ ((batch.staging.child s).join path).parent.trail ↔ v ∈ batch.target.trail ∨ v = batch.area ∨
      ∃ q, q <+: path.steps ∧ q ≠ path.steps ∧ v = batch.area ++ s :: q := by
  rw [Node.mem_trail_parent_join hord hne, h.trail_staging_child hidle hdots, address_child hidle hdots]
  change _ ∨ (∃ q, q ≠ [] ∧ q <+: path.steps ∧ q ≠ path.steps ∧ v = batch.area ++ [s] ++ q) ↔ _
  simp only [List.mem_append, List.mem_cons, List.not_mem_nil, or_false, or_assoc,
    List.append_assoc, List.singleton_append]
  refine or_congr_right (or_congr_right ⟨?_, ?_⟩)
  · rintro (rfl | ⟨q, _, hq⟩)
    · exact ⟨[], List.nil_prefix, hne.symm, rfl⟩
    · exact ⟨q, hq⟩
  · rintro ⟨q, hq⟩
    by_cases hnil : q = []
    · exact .inl (by rw [hq.2.2, hnil])
    · exact .inr ⟨q, hnil, hq⟩

end Housed

namespace Sound

variable (h : batch.Sound)

include h

/-- The staging directory and the place of a file lie apart. -/
theorem apart_area_spot (hp : p ∈ batch.paths) : Apart batch.area (batch.spot p) := by
  refine ⟨h.outside p hp, fun hpre => ?_⟩
  have hout := h.outside p hp
  obtain ⟨name, harea⟩ := h.exists_area_eq
  rw [harea, spot_eq (h.ordinary p hp), List.prefix_append_right_inj] at hpre hout
  rcases List.prefix_cons_iff.mp hpre with hnil | ⟨rest, hsteps, hrest⟩
  · exact h.proper p hp hnil
  · obtain rfl := List.prefix_nil.mp hrest
    exact hout (hsteps ▸ List.prefix_rfl)

/-- Where a new version waits is apart from all places. -/
theorem apart_readyAt_spot (hp : p ∈ batch.paths) (hq : q ∈ batch.paths) :
    Apart (batch.readyAt p) (batch.spot q) :=
  (h.apart_area_spot hq).extend (area_prefix_readyAt (h.ordinary p hp))

/-- Where an older version is kept is apart from all places. -/
theorem apart_keptAt_spot (hp : p ∈ batch.paths) (hq : q ∈ batch.paths) :
    Apart (batch.keptAt p) (batch.spot q) :=
  (h.apart_area_spot hq).extend (area_prefix_keptAt (h.ordinary p hp))

/-- What waits and what is kept are apart. -/
theorem apart_readyAt_keptAt (hp : p ∈ batch.paths) (hq : q ∈ batch.paths) :
    Apart (batch.readyAt p) (batch.keptAt q) := by
  rw [readyAt_eq (h.ordinary p hp), keptAt_eq (h.ordinary q hq), apart_append]
  exact apart_cons (by decide)

section

variable (hp : p ∈ batch.paths) (hq : q ∈ batch.paths) (hne : p.steps ≠ q.steps)

include hp hq hne

theorem apart_steps : Apart p.steps q.steps :=
  ⟨fun hpre => hne (h.antichain p hp q hq hpre), fun hpre => hne (h.antichain q hq p hp hpre).symm⟩

/-- The places of different files are apart. -/
theorem apart_spot : Apart (batch.spot p) (batch.spot q) := by
  rw [spot_eq (h.ordinary p hp), spot_eq (h.ordinary q hq), apart_append]
  exact h.apart_steps hp hq hne

/-- So are those where their new versions wait. -/
theorem apart_readyAt : Apart (batch.readyAt p) (batch.readyAt q) := by
  rw [readyAt_eq (h.ordinary p hp), readyAt_eq (h.ordinary q hq), apart_append, apart_cons_self]
  exact h.apart_steps hp hq hne

/-- So are those where their older versions are kept. -/
theorem apart_keptAt : Apart (batch.keptAt p) (batch.keptAt q) := by
  rw [keptAt_eq (h.ordinary p hp), keptAt_eq (h.ordinary q hq), apart_append, apart_cons_self]
  exact h.apart_steps hp hq hne

end

/-- What is on the way to the place of a file is on the way to the target or between the two. -/
theorem mem_trail_place {v : Address} (hp : p ∈ batch.paths) :
    v ∈ (batch.place p).parent.trail ↔ v ∈ batch.target.trail ∨
      ∃ q, q ≠ [] ∧ q <+: p.steps ∧ q ≠ p.steps ∧ v = batch.target.address ++ q :=
  Node.mem_trail_parent_join (h.ordinary p hp) (h.proper p hp)

/-- What is on the way to an older version is on the way to the target or in the staging directory. -/
theorem mem_trail_backup {v : Address} (hp : p ∈ batch.paths) :
    v ∈ (batch.backupPath p).parent.trail ↔ v ∈ batch.target.trail ∨ v = batch.area ∨
      ∃ q, q <+: p.steps ∧ q ≠ p.steps ∧ v = batch.area ++ "backup" :: q :=
  h.mem_trail_stored rfl (by decide) (h.ordinary p hp) (h.proper p hp)

/-- The path of a file does not demand a directory, wherever it is taken from. -/
theorem demandsDirectory_join (base : Path) (hp : p ∈ batch.paths) :
    (base.join p).demandsDirectory = false := by
  have hne : p.segments ≠ [] := by
    intro hnil
    exact h.proper p hp (by simp [Path.steps, hnil])
  rw [Path.demandsDirectory_join (h.ordinary p hp).relative hne, h.file p hp]

/-! No way leads through what waits or is kept, and one that leads through a place leads there on the way
to the target. -/

/-- The way to a place does not lead through the staging directory. -/
theorem not_area_prefix_of_mem_trail_place {v : Address} (hp : p ∈ batch.paths)
    (hv : v ∈ (batch.place p).parent.trail) : ¬ batch.area <+: v := by
  rcases (h.mem_trail_place hp).mp hv with hv | ⟨r, -, hr, -, rfl⟩
  · exact h.separate v hv
  · intro harea
    refine h.outside p hp (harea.trans ?_)
    rw [spot_eq (h.ordinary p hp)]
    simpa using hr

/-- No file is on the way to another one. -/
theorem not_below_steps {r : Address} (hp : p ∈ batch.paths) (hq : q ∈ batch.paths)
    (hr : r <+: p.steps) (hlt : r ≠ p.steps) : ¬ q.steps <+: r := by
  intro hqr
  have heq := h.antichain q hq p hp (hqr.trans hr)
  exact hlt (hr.eq_of_length_le (heq ▸ hqr.length_le))

/-- Where a way leads inside the staging directory. -/
theorem eq_of_mem_way {v : Address} (hp : p ∈ batch.paths) (hv : v ∈ batch.way p)
    (harea : batch.area <+: v) :
    v = batch.area ∨ ∃ r, r <+: p.steps ∧ r ≠ p.steps ∧ v = batch.area ++ "backup" :: r := by
  rcases List.mem_append.mp hv with hv | hv
  · exact absurd harea (h.not_area_prefix_of_mem_trail_place hp hv)
  · exact ((h.mem_trail_backup hp).mp hv).resolve_left fun hv => h.separate v hv harea

/-- No way leads through an older version. -/
theorem not_keptAt_prefix_of_mem_way {v : Address} (hp : p ∈ batch.paths) (hq : q ∈ batch.paths)
    (hv : v ∈ batch.way p) : ¬ batch.keptAt q <+: v := by
  intro hpre
  have harea := (area_prefix_keptAt (h.ordinary q hq)).trans hpre
  rw [keptAt_eq (h.ordinary q hq)] at hpre
  rcases h.eq_of_mem_way hp hv harea with rfl | ⟨r, hr, hlt, rfl⟩
  · exact not_below_self hpre
  · refine h.not_below_steps hp hq hr hlt ?_
    simpa using hpre

/-- No way leads through a new version. -/
theorem not_readyAt_prefix_of_mem_way {v : Address} (hp : p ∈ batch.paths) (hq : q ∈ batch.paths)
    (hv : v ∈ batch.way p) : ¬ batch.readyAt q <+: v := by
  intro hpre
  have harea := (area_prefix_readyAt (h.ordinary q hq)).trans hpre
  rw [readyAt_eq (h.ordinary q hq)] at hpre
  rcases h.eq_of_mem_way hp hv harea with rfl | ⟨r, -, -, rfl⟩
  · exact not_below_self hpre
  · simp at hpre

/-- What is at or below a place on a way is on the way to the target. -/
theorem mem_trail_of_below_spot {v : Address} (hp : p ∈ batch.paths) (hq : q ∈ batch.paths)
    (hv : v ∈ batch.way p) (hpre : batch.spot q <+: v) : v ∈ batch.target.trail := by
  rcases List.mem_append.mp hv with hv | hv
  · rcases (h.mem_trail_place hp).mp hv with hv | ⟨r, -, hr, hlt, rfl⟩
    · exact hv
    · rw [spot_eq (h.ordinary q hq)] at hpre
      exact absurd (by simpa using hpre) (h.not_below_steps hp hq hr hlt)
  · rcases (h.mem_trail_backup hp).mp hv with hv | rfl | ⟨r, -, -, rfl⟩
    · exact hv
    · exact absurd hpre (h.apart_area_spot hq).2
    · exact absurd hpre ((h.apart_area_spot hq).extend (List.prefix_append _ _)).2

/-- A way that leads through a place is paved there if that to the target is. -/
theorem isDirectory_of_mem_way {root : Node} {r : Address} (hp : p ∈ batch.paths)
    (hq : q ∈ batch.paths) (hpaved : root.Paved batch.target) (hv : batch.spot q ++ r ∈ batch.way p) :
    root.IsDirectory (batch.spot q ++ r) :=
  hpaved.trail _ (h.mem_trail_of_below_spot hp hq hv (List.prefix_append _ r))

theorem spot_ne_nil (hp : p ∈ batch.paths) : batch.spot p ≠ [] := by
  rw [spot_eq (h.ordinary p hp)]
  simp [h.proper p hp]

/-- What lies in the staging directory can be found as long as the target can. -/
theorem locate_stored {root : Node} {s : String} (hidle : Path.isIdle s = false) (hdots : s ≠ "..")
    (hp : p ∈ batch.paths) (hpaved : root.Paved batch.target)
    (hthere : root.kindAt? ((batch.staging.child s).join p).address ≠ none) :
    root.locate ((batch.staging.child s).join p) =
      .ok ((batch.staging.child s).join p).address := by
  refine Node.locate_join (h.ordinary p hp) (h.proper p hp) ⟨hpaved.start, ?_⟩ hthere
  rw [Path.address_join (h.ordinary p hp), address_child hidle hdots, ← area] at hthere
  have hbelow : ∀ r, r <+: batch.area ++ [s] → root.IsDirectory r := by
    intro r hr
    refine Node.isDirectory_above (hr.trans (List.prefix_append _ _)) ?_ hthere
    rintro rfl
    have hlen := hr.length_le
    have hpos := List.length_pos_iff.mpr (h.proper p hp)
    rw [List.length_append] at hlen
    omega
  intro v hv
  rw [h.trail_staging_child hidle hdots] at hv
  simp only [List.mem_append, List.mem_singleton, or_assoc] at hv
  rcases hv with hv | rfl | rfl
  · exact hpaved.trail v hv
  · exact hbelow _ (List.prefix_append _ _)
  · exact hbelow _ List.prefix_rfl

end Sound

end Batch

end TypedClient.Files
