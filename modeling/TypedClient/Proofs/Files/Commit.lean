import TypedClient.Proofs.Files.Course

/-!
# Writing a batch

Each file is left, moved or refused as the course of the batch says, whatever was moved before it
(`Batch.Underway.promote`, `Batch.Underway.promote_refused`). By induction the run of a whole batch
follows its course (`Batch.Prepared.commit`).
-/

namespace TypedClient.Files.Batch

open World (Gives)

variable {batch : Batch} {before now after : Node} {path p q : Path} {taken preserved : List Path}
  {world : World}

/-! ## One file -/

namespace Underway

section

variable (hu : batch.Underway before now taken) (h : batch.Prepared before) (hp : path ∈ batch.paths)

include hu h hp

/-- On the way to a place there are the same files as before. -/
theorem fileAt?_way {v : Address} (hv : v ∈ (batch.place path).parent.trail) :
    now.fileAt? v = before.fileAt? v := by
  by_cases htarget : v ∈ batch.target.trail
  · rw [Node.fileAt?_of_directory (hu.paved.trail v htarget),
      Node.fileAt?_of_directory (h.paved.trail v htarget)]
  · refine (hu.elsewhere v (h.not_area_prefix_of_mem_trail_place hp hv) (fun p hmem hpre => ?_)
      (by simp)).fileAt?_eq
    exact htarget (h.mem_trail_of_below_spot hp (hu.listed p hmem) (List.mem_append_left _ hv) hpre)

/-- Something is at a place if it was there before or was moved there. -/
theorem isSome_spot : (now.kindAt? (batch.spot path)).isSome = batch.isThere before taken path := by
  cases htaken : isTaken taken path with
  | true =>
    obtain ⟨q, hq, hsteps⟩ := isTaken_iff.mp htaken
    obtain ⟨content, hfile⟩ := hu.exists_file h hq
    rw [isThere, htaken, ← h.spot_congr (hu.listed q hq) hp hsteps, hfile]
    rfl
  | false =>
    have hsame := hu.spot_eq h hp (isTaken_eq_false.mp htaken) (by simp) []
    rw [List.append_nil] at hsame
    rw [isThere, htaken, hsame, Bool.false_or]

/-- Nothing is at a place on the way to which there is a file. -/
theorem spot_of_isBlocked (hblocked : batch.isBlocked before path) :
    now.kindAt? (batch.spot path) = none := by
  obtain ⟨v, hv, hfile⟩ := isBlocked_iff.mp hblocked
  rw [← hu.fileAt?_way h hp hv] at hfile
  obtain ⟨content, hcontent⟩ := Option.ne_none_iff_exists'.mp hfile
  rcases (h.mem_trail_place hp).mp hv with hv | ⟨r, -, ⟨s, hs⟩, hlt, rfl⟩
  · exact absurd (Node.fileAt?_of_directory (hu.paved.trail v hv)) hfile
  · rw [Batch.spot_eq (h.ordinary path hp), ← hs, ← List.append_assoc]
    refine Node.kindAt?_below_file (Node.fileAt?_eq_some.mp hcontent) ?_
    rintro rfl
    exact hlt (by simpa using hs)

end

section

variable (hu : batch.Underway before world.files taken) (h : batch.Prepared before)
  (hp : path ∈ batch.paths)

include hu h hp

/-- A file that is not refused is moved to its place. -/
theorem promote (hfree : batch.isRefused before taken path = false) :
    ∃ after, world.Gives (batch.promote path) (.ok (batch.moved before path)) after ∧
      batch.Underway before after (path :: taken) := by
  simp only [isRefused, Bool.or_eq_false_iff] at hfree
  obtain ⟨⟨htaken, hblocked⟩, hentered⟩ := hfree
  have hnew := isTaken_eq_false.mp htaken
  have hapart : ∀ v ∈ batch.target.trail, ¬ batch.spot path <+: v := by
    intro v hv hpre
    simp [isEntered_iff.mpr ⟨v, hv, hpre⟩] at hentered
  obtain ⟨content, hcontent⟩ := h.ready path hp
  have hready : world.files.kindAt? (batch.readyAt path) ≠ none := by
    simp [hu.ready path hp hnew, hcontent]
  have hkept := hu.free path hp hnew
  have hsame := hu.spot_eq h hp hnew (by simp) []
  rw [List.append_nil] at hsame
  rw [moved, ← hsame]
  -- what is there first moves aside
  by_cases hthere : world.files.kindAt? (batch.spot path) = none
  · have hclear : ∀ v ∈ (batch.place path).parent.trail, world.files.fileAt? v = none := by
      intro v hv
      by_contra hfile
      rw [hu.fileAt?_way h hp hv] at hfile
      simp [isBlocked_iff.mpr ⟨v, hv, hfile⟩] at hblocked
    obtain ⟨after, hgives, hr⟩ := h.promote_missing hp hu.paved hready hkept hclear hapart hthere
    rw [hthere]
    exact ⟨after, hgives, hu.replaced h hp hnew hapart hr⟩
  · obtain ⟨after, hgives, hr⟩ :=
      h.promote_existing hp hu.paved hready hkept (hu.clear path hp) hapart hthere
    rw [Option.isSome_iff_ne_none.mpr hthere]
    exact ⟨after, hgives, hu.replaced h hp hnew hapart hr⟩

/-- A file with the place of one that was moved is refused; what was kept for that one is lost, unless it
is a directory. -/
theorem promote_taken (htaken : isTaken taken path) :
    ∃ fault after, world.Gives (batch.promote path) (.error (.promote (batch.place path) fault)) after ∧
      batch.Stalled before after path taken none := by
  obtain ⟨q, hq, hsteps⟩ := isTaken_iff.mp htaken
  have hqp := hu.listed q hq
  obtain ⟨content, hfile⟩ := hu.exists_file h hq
  have hspot := h.spot_congr hqp hp hsteps
  have hkeptat : world.files.kindAt? (batch.keptAt path) = before.kindAt? (batch.spot path) := by
    simpa [hspot, h.keptAt_congr hqp hp hsteps] using hu.kept q hq []
  rw [hspot] at hfile
  -- a directory that is kept stops the move aside, a file that is kept is replaced by it
  by_cases hdir : before.IsDirectory (batch.spot path)
  · have hkept : world.files.IsDirectory (batch.keptAt path) := hkeptat.trans hdir
    obtain ⟨fault, after, hgives, hextended⟩ := h.promote_kept_directory hp hu.paved hfile hkept
    refine ⟨fault, after, hgives, hu.stalled h hp (confined_of_extended hextended)
      (hu.traced_of_stay h hp fun a _ => hextended a) (fun p hmem hsame _ => ?_)
      (fun p hmem hsame hnot => ?_)⟩
    · rw [h.keptAt_congr (hu.listed p hmem) hp hsame]
      exact hextended.isDirectory hkept
    · rw [h.spot_congr (hu.listed p hmem) hp hsame] at hnot
      exact absurd hdir hnot
  · have hready : world.files.kindAt? (batch.readyAt path) = none := by
      rw [← h.readyAt_congr hqp hp hsteps]
      exact hu.gone q hq
    obtain ⟨fault, after, hgives, hr⟩ := h.promote_repeated hp hu.paved hfile hready
      (by rwa [Node.IsDirectory, hkeptat]) (hu.clear path hp)
    refine ⟨fault, after, hgives, hu.stalled h hp hr.confined (hu.traced_of_stay h hp hr.elsewhere)
      (fun p hmem hsame hnot => ?_) (fun p hmem hsame _ => ?_)⟩
    · rw [h.spot_congr (hu.listed p hmem) hp hsame] at hnot
      exact absurd hnot hdir
    · rw [h.keptAt_congr (hu.listed p hmem) hp hsame]
      simpa using hr.kept []

/-- What is known when a file cannot be moved to its place. -/
theorem promote_refused (hrefused : batch.isRefused before taken path) :
    ∃ fault after, world.Gives (batch.promote path) (.error fault) after ∧
      batch.Stalled before after path taken ((some path).filter batch.isDeep) ∧
      ∃ cause, fault = if batch.isDeep path then .rollback (batch.place path) cause
        else .promote (batch.place path) cause := by
  cases htaken : isTaken taken path with
  | true =>
    obtain ⟨cause, after, hgives, hstalled⟩ := hu.promote_taken h hp htaken
    have hdeep : batch.isDeep path = false := by
      by_contra hdeep
      obtain ⟨q, hq, hsteps⟩ := isTaken_iff.mp htaken
      obtain ⟨content, hfile⟩ := hu.exists_file h hq
      rw [h.spot_congr (hu.listed q hq) hp hsteps] at hfile
      exact Node.not_isDirectory_of_file hfile
        (isDirectory_of_isEntered hu.paved (isEntered_of_isDeep (by simpa using hdeep)))
    refine ⟨_, after, hgives, ?_, cause, by simp [hdeep]⟩
    simpa [Option.filter, hdeep] using hstalled
  | false =>
    have hnew := isTaken_eq_false.mp htaken
    have hstalled : ∀ {after hollow}, batch.Confined world.files after path →
        batch.Traced before after taken hollow → batch.Stalled before after path taken hollow :=
      fun hc ht => hu.stalled h hp hc ht (fun p hmem hsame => absurd hsame (hnew p hmem))
        (fun p hmem hsame => absurd hsame (hnew p hmem))
    cases hentered : batch.isEntered path with
    | true =>
      have hready : ∃ content, world.files.kindAt? (batch.readyAt path) = some (.file content) := by
        rw [hu.ready path hp hnew]
        exact h.ready path hp
      obtain ⟨hshallow, hdeep⟩ := h.promote_entered hp hu.paved hready (hu.free path hp hnew)
        (hu.clear path hp) (isEntered_iff.mp hentered)
      cases hd : batch.isDeep path with
      | true =>
        obtain ⟨cause, after, hgives, hh⟩ := hdeep (isDeep_iff.mp hd)
        refine ⟨_, after, hgives, ?_, cause, rfl⟩
        simpa [Option.filter, hd] using hstalled hh.confined (hu.traced_of_hollowed h hp hnew hh)
      | false =>
        have hnot : ∀ v ∈ batch.target.trail, batch.spot path <+: v → v = batch.spot path := by
          intro v hv hpre
          by_contra hne
          simp [isDeep_iff.mpr ⟨v, hv, hpre, hne⟩] at hd
        obtain ⟨cause, after, hgives, hr⟩ := hshallow hnot
        refine ⟨_, after, hgives, ?_, cause, rfl⟩
        simpa [Option.filter, hd] using hstalled hr.confined (hu.traced_of_stay h hp hr.elsewhere)
    | false =>
      have hblocked : batch.isBlocked before path := by
        simpa [isRefused, htaken, hentered] using hrefused
      have hd : batch.isDeep path = false := by
        by_contra hd
        simp [isEntered_of_isDeep (by simpa using hd)] at hentered
      have hfile : ∃ v ∈ (batch.place path).parent.trail, world.files.fileAt? v ≠ none := by
        obtain ⟨v, hv, hfile⟩ := isBlocked_iff.mp hblocked
        exact ⟨v, hv, by rwa [hu.fileAt?_way h hp hv]⟩
      obtain ⟨cause, after, hgives, hextended⟩ :=
        Sound.promote_blocked hu.paved.start (hu.spot_of_isBlocked h hp hblocked) hfile
      refine ⟨_, after, hgives, ?_, cause, by simp [hd]⟩
      simpa [Option.filter, hd] using hstalled (confined_of_extended hextended)
        (hu.traced_of_stay h hp fun a _ => hextended a)

end

/-! ## All files -/

theorem gives_isPreserved (hu : batch.Underway before world.files taken) (h : batch.Prepared before)
    {file : Staged} (hp : file.path ∈ batch.paths) :
    world.Gives (batch.isPreserved file)
      (decide (file.policy = .ifMissing ∧ batch.isThere before taken file.path)) world.files := by
  cases hpolicy : file.policy with
  | always =>
    simp only [isPreserved, hpolicy]
    exact World.gives_pure _
  | ifMissing =>
    simp only [isPreserved, hpolicy]
    have hgives : world.Gives (Store.hasPath (batch.place file.path)) _ _ := World.gives_hasPath _
    rw [h.hasPath_place hp hu.paved, hu.isSome_spot h hp] at hgives
    simpa using hgives

end Underway

/-- The tree before a batch is written and at the end, and the result, are as the course says. -/
structure Ended (batch : Batch) (before after : Node) (course : Course)
    (result : Except BatchFault Summary) : Prop where
  traced : batch.Traced before after (course.stays batch before) (course.hollow batch)
  result : ∃ cause, result = course.result batch before cause

/-- The files that are left follow their course. -/
theorem Underway.promoteAll {rest : List Staged} (hu : batch.Underway before world.files taken)
    (h : batch.Prepared before) (hrest : ∀ file ∈ rest, file.path ∈ batch.paths)
    (preserved : List Path) :
    ∃ result after,
      world.Gives (batch.promoteAll (taken.map (batch.moved before)) ⟨taken.reverse, preserved⟩ rest)
        result after ∧
      batch.Ended before after (batch.courseFrom before taken preserved rest) result := by
  -- the three cases of a file are those of `courseFrom`
  induction rest generalizing world taken preserved with
  | nil => exact ⟨_, world.files, World.gives_pure _, hu.toTraced, .notFound, rfl⟩
  | cons file rest ih =>
    obtain ⟨hp, hrest⟩ := List.forall_mem_cons.mp hrest
    have hpreserved := hu.gives_isPreserved h hp
    rw [Batch.promoteAll, courseFrom]
    by_cases hleft : file.policy = .ifMissing ∧ batch.isThere before taken file.path
    · rw [decide_eq_true hleft] at hpreserved
      obtain ⟨result, after, hgives, hended⟩ := ih hu hrest (preserved ++ [file.path])
      rw [if_pos hleft]
      exact ⟨result, after, hpreserved.bind hgives, hended⟩
    · rw [decide_eq_false hleft] at hpreserved
      rw [if_neg hleft]
      cases hrefused : batch.isRefused before taken file.path with
      | false =>
        obtain ⟨middle, hmove, hnext⟩ := hu.promote h hp hrefused
        have hthen : batch.Underway before ({ world with files := middle } : World).files
            (file.path :: taken) := hnext
        obtain ⟨result, after, hgives, hended⟩ := ih hthen hrest preserved
        rw [List.map_cons, List.reverse_cons] at hgives
        rw [if_neg (by simp)]
        exact ⟨result, after, hpreserved.bind (hmove.bind hgives), hended⟩
      | true =>
        obtain ⟨fault, middle, hmove, hstalled, cause, hfault⟩ := hu.promote_refused h hp hrefused
        have hthen : batch.Stalled before ({ world with files := middle } : World).files file.path taken
            ((some file.path).filter batch.isDeep) := hstalled
        obtain ⟨worse, after, hback, hlast⟩ := hthen.rollback h
        rw [if_pos rfl]
        cases hstays : taken.dropWhile fun p => !batch.isStuck before file.path p with
        | nil =>
          rw [hstays] at hback
          refine ⟨.error fault, after, hpreserved.bind (hmove.bind (hback.bind (World.gives_pure _))),
            hlast.toTraced, cause, ?_⟩
          simp only [Course.result, Course.stays, hstays, hfault]
          split <;> rfl
        | cons p last =>
          rw [hstays] at hback
          refine ⟨.error (.rollback (batch.place p) worse), after,
            hpreserved.bind (hmove.bind (hback.bind (World.gives_pure _))), hlast.toTraced, worse, ?_⟩
          simp only [Course.result, Course.stays, hstays]

/-- The way of the staging directory is that of the target and its name. -/
theorem Sound.erase_staging {root : Node} (h : batch.Sound) (hpaved : root.Paved batch.target) :
    root.removeTree batch.staging = root.erase batch.area := by
  obtain ⟨name, hidle, hdots, hstaging⟩ := h.staging
  have hsteps : batch.staging.steps = batch.target.steps ++ [name] := by
    rw [hstaging, Path.steps_child hidle]
  have hparent : batch.staging.parent.steps = batch.target.steps := by
    rw [Path.steps_parent, hsteps, List.dropLast_concat]
  refine Node.removeTree_of_paved (by simp [hsteps]) ⟨hpaved.start, fun v hv => hpaved.trail v ?_⟩
  rwa [Path.trail, hparent] at hv

/-- What is outside the staging directory stays when that is removed. -/
theorem Traced.erase_area {hollow : Option Path} (ht : batch.Traced before now taken hollow)
    (h : batch.Sound) : batch.Traced before (now.erase batch.area) taken hollow := by
  have hsame : ∀ {a}, ¬ batch.area <+: a → (now.erase batch.area).kindAt? a = now.kindAt? a :=
    fun ha => Node.kindAt?_erase_elsewhere ha
  obtain ⟨name, hname⟩ := h.exists_area_eq
  refine {
    paved := ⟨?_, fun v hv => ?_⟩
    listed := ht.listed
    distinct := ht.distinct
    place := fun p hp r => ?_
    hollow_listed := ht.hollow_listed
    hollow_distinct := ht.hollow_distinct
    hollow_place := fun p hp r => ?_
    elsewhere := fun a ha htaken hhollow => ?_ }
  · rw [Node.IsDirectory, hsame (by simp [hname])]
    exact ht.paved.start
  · rw [Node.IsDirectory, hsame (h.separate v hv)]
    exact ht.paved.trail v hv
  · rw [hsame ((h.apart_area_spot (ht.listed p hp)).not_prefix_append r), ht.place p hp]
  · rw [Node.fileAt?, hsame ((h.apart_area_spot (ht.hollow_listed p hp)).not_prefix_append r)]
    exact ht.hollow_place p hp r
  · rw [Intact, Node.IsDirectory, hsame ha]
    exact ht.elsewhere a ha htaken hhollow

/-- A batch that has staged its files follows its course when it is written, and its staging directory is
gone afterwards. -/
theorem Prepared.commit (h : batch.Prepared world.files) :
    ∃ result after, world.Gives batch.commit result after ∧
      batch.Ended world.files after (batch.course world.files) result ∧
      ∀ r, after.kindAt? (batch.area ++ r) = none := by
  have hrest : ∀ file ∈ batch.staged, file.path ∈ batch.paths := fun file hfile =>
    List.mem_map_of_mem hfile
  obtain ⟨result, last, hgives, hended⟩ := h.underway.promoteAll h hrest []
  have hdiscard : ({ world with files := last } : World).Gives batch.discard ()
      (last.erase batch.area) := by
    rw [← h.erase_staging hended.traced.paved]
    exact World.gives_removeTree batch.staging
  have harea : batch.area ≠ [] := by
    obtain ⟨name, hname⟩ := h.exists_area_eq
    simp [hname]
  exact ⟨result, last.erase batch.area, hgives.bind (hdiscard.bind (World.gives_pure _)),
    ⟨hended.traced.erase_area h.toSound, hended.result⟩,
    Node.kindAt?_erase_append harea last⟩

end TypedClient.Files.Batch
