import TypedClient.Files.Tree
import TypedClient.Files.Store
import TypedClient.Proofs.Files.Kind
import Mathlib.Data.List.TakeWhile

/-!
# The way of a path

A path is followed step by step. Where a step leads is a matter of the steps alone; the tree only
decides whether it can be taken. `Path.trail` lists the addresses that a path visits. A path can be
followed if they are directories, the last one excepted (`locate_eq_ok_iff`), and making directories
adds the missing ones of them and nothing else (`ensure_extends`).
-/

namespace TypedClient.Files

/-! ## Steps -/

/-- Where a step leads. -/
def takeStep (here : Address) (step : String) : Address :=
  if step = ".." then here.dropLast else here ++ [step]

/-- Where steps lead. -/
def walk (here : Address) (steps : List String) : Address :=
  steps.foldl takeStep here

/-- The addresses that steps visit, the starting point excepted. -/
def trail (here : Address) : List String → List Address
  | [] => []
  | step :: rest => takeStep here step :: trail (takeStep here step) rest

/-- Steps can be taken in two parts. -/
theorem walk_append (here : Address) (s t : List String) :
    walk here (s ++ t) = walk (walk here s) t :=
  List.foldl_append

/-- The addresses on the way are those of its two parts. -/
theorem trail_append (here : Address) (s t : List String) :
    trail here (s ++ t) = trail here s ++ trail (walk here s) t := by
  induction s generalizing here with
  | nil => rfl
  | cons step rest ih => simp [trail, walk, ih (takeStep here step)]

/-- The way ends where the steps lead. -/
theorem walk_mem_trail {here : Address} {steps : List String} (h : steps ≠ []) :
    walk here steps ∈ trail here steps := by
  induction steps generalizing here with
  | nil => exact absurd rfl h
  | cons step rest ih =>
    cases rest with
    | nil => simp [walk, trail]
    | cons next more => exact List.mem_cons_of_mem _ (ih (by simp))

/-- Without two dots each step leads one name further down. -/
theorem walk_of_ordinary {here : Address} {steps : List String} (h : ".." ∉ steps) :
    walk here steps = here ++ steps := by
  induction steps generalizing here with
  | nil => simp [walk]
  | cons step rest ih =>
    have hstep : step ≠ ".." := fun he => h (by simp [he])
    have hrest : walk (takeStep here step) rest = takeStep here step ++ rest :=
      ih fun hm => h (List.mem_cons_of_mem _ hm)
    simpa [walk, takeStep, hstep] using hrest

/-- Steps without two dots visit the addresses between their ends. -/
theorem mem_trail_of_ordinary {here v : Address} {steps : List String} (h : ".." ∉ steps) :
    v ∈ trail here steps ↔ ∃ q, q ≠ [] ∧ q <+: steps ∧ v = here ++ q := by
  induction steps generalizing here with
  | nil =>
    simp only [trail, List.not_mem_nil, List.prefix_nil, false_iff, not_exists, not_and]
    rintro q hq rfl
    exact absurd rfl hq
  | cons step rest ih =>
    have hstep : step ≠ ".." := fun he => h (by simp [he])
    have hrest : ".." ∉ rest := fun hm => h (List.mem_cons_of_mem _ hm)
    have hhere : takeStep here step = here ++ [step] := by simp [takeStep, hstep]
    rw [trail, List.mem_cons, hhere, ih hrest]
    constructor
    · rintro (rfl | ⟨q, _, hq, rfl⟩)
      · exact ⟨[step], by simp, by simp, rfl⟩
      · exact ⟨step :: q, by simp, by simpa using hq, by simp⟩
    · rintro ⟨q, hq, hpre, rfl⟩
      cases q with
      | nil => exact absurd rfl hq
      | cons s q =>
        obtain ⟨rfl, hrestpre⟩ := List.cons_prefix_cons.mp hpre
        cases q with
        | nil => exact .inl rfl
        | cons t q => exact .inr ⟨t :: q, by simp, hrestpre, by simp⟩

/-! ## Paths -/

namespace Path

/-- The address that a path leads to, where it can be followed. -/
def address (path : Path) : Address :=
  walk [] path.steps

/-- The addresses that a path visits. -/
def trail (path : Path) : List Address :=
  Files.trail [] path.steps

/-- A path that leads down from wherever it starts. -/
structure IsOrdinary (path : Path) : Prop where
  relative : path.isAbsolute = false
  down : ".." ∉ path.steps

instance (path : Path) : Decidable path.IsOrdinary :=
  decidable_of_iff (path.isAbsolute = false ∧ ".." ∉ path.steps)
    ⟨fun h => ⟨h.1, h.2⟩, fun h => ⟨h.relative, h.down⟩⟩

variable {base path : Path}

/-- The steps of a relative path follow those of its base. -/
theorem steps_join (h : path.isAbsolute = false) :
    (base.join path).steps = base.steps ++ path.steps := by
  unfold join steps
  rw [if_neg (by simp [h])]
  split
  next hlast =>
    obtain ⟨front, hfront⟩ := List.getLast?_eq_some_iff.mp hlast
    simp [hfront, isIdle]
  next => simp

/-- An ordinary path leads down from the address of its base. -/
theorem address_join (h : path.IsOrdinary) :
    (base.join path).address = base.address ++ path.steps := by
  rw [address, steps_join h.relative, walk_append, walk_of_ordinary h.down, address]

/-- A joined path ends like the one behind. -/
theorem getLast?_segments_join (h : path.isAbsolute = false) (hne : path.segments ≠ []) :
    (base.join path).segments.getLast? = path.segments.getLast? := by
  unfold join
  rw [if_neg (by simp [h])]
  split <;> exact List.getLast?_append_of_ne_nil _ hne

/-- So it demands a directory if that one does. -/
theorem demandsDirectory_join (h : path.isAbsolute = false) (hne : path.segments ≠ []) :
    (base.join path).demandsDirectory = path.demandsDirectory := by
  unfold demandsDirectory
  rw [getLast?_segments_join h hne]

/-- A child is one step further than its base. -/
theorem steps_child {name : String} (h : isIdle name = false) :
    (base.child name).steps = base.steps ++ [name] := by
  rw [child, steps_join (by simp [isAbsolute])]
  simp [steps, h]

/-- Trimming takes away only segments that lead nowhere. -/
theorem exists_trimIdle_append (segments : List String) :
    ∃ idle, segments = trimIdle segments ++ idle ∧ ∀ s ∈ idle, isIdle s := by
  refine ⟨(segments.reverse.takeWhile isIdle).reverse, ?_, fun s hs => ?_⟩
  · rw [trimIdle, ← List.reverse_append, List.takeWhile_append_dropWhile, List.reverse_reverse]
  · exact List.mem_takeWhile_imp (List.mem_reverse.mp hs)

/-- The last segment that is left leads somewhere. -/
theorem not_isIdle_of_getLast?_trimIdle {segments : List String} {s : String}
    (h : (trimIdle segments).getLast? = some s) : isIdle s = false := by
  rw [trimIdle, List.getLast?_reverse] at h
  have hhead := List.head?_dropWhile_not isIdle segments.reverse
  rw [h] at hhead
  exact hhead

/-- The steps are those of the trimmed segments. -/
theorem filter_trimIdle (segments : List String) :
    (trimIdle segments).filter (fun s => !isIdle s) = segments.filter fun s => !isIdle s := by
  obtain ⟨idle, hsplit, hidle⟩ := exists_trimIdle_append segments
  have hnone : idle.filter (fun s => !isIdle s) = [] :=
    List.filter_eq_nil_iff.mpr fun s hs => by simp [hidle s hs]
  conv_rhs => rw [hsplit, List.filter_append, hnone, List.append_nil]

/-- What is over a path has its steps without the last one. -/
theorem steps_parent (path : Path) : path.parent.steps = path.steps.dropLast := by
  rw [parent, steps, filter_trimIdle, steps, ← filter_trimIdle path.segments]
  rcases List.eq_nil_or_concat' (trimIdle path.segments) with hnil | ⟨front, s, hlast⟩
  · rw [hnil]
    rfl
  · have hs : isIdle s = false := by
      refine @not_isIdle_of_getLast?_trimIdle path.segments s ?_
      rw [hlast, List.getLast?_concat]
    rw [hlast, List.dropLast_concat, List.filter_append, List.filter_cons_of_pos (by simp [hs]),
      List.filter_nil, List.dropLast_concat]

/-- What is over a path does not end in a dot. -/
@[simp]
theorem endsInDot_parent (path : Path) : path.parent.endsInDot = false := by
  rw [endsInDot, parent, decide_eq_false_iff_not]
  intro hdot
  rcases List.eq_nil_or_concat' (trimIdle (trimIdle path.segments).dropLast) with hnil | ⟨front, s, hlast⟩
  · rw [hnil] at hdot
    cases hdot
  · have hs : isIdle s = false := by
      refine @not_isIdle_of_getLast?_trimIdle (trimIdle path.segments).dropLast s ?_
      rw [hlast, List.getLast?_concat]
    rw [isIdle, Bool.or_eq_false_iff, decide_eq_false_iff_not, decide_eq_false_iff_not] at hs
    rw [hlast, List.reverse_concat, List.find?_cons_of_pos (by simp [hs.1])] at hdot
    exact hs.2 (Option.some.inj hdot)

/-- What a path visits is visited on the way to its end or is its end. -/
theorem mem_trail_parent_or_eq {v : Address} (h : v ∈ path.trail) :
    v ∈ path.parent.trail ∨ v = path.address := by
  by_cases hsteps : path.steps = []
  · simp [trail, hsteps, Files.trail] at h
  · rw [trail, ← List.dropLast_append_getLast hsteps, trail_append, List.mem_append] at h
    refine h.imp (fun h => by rwa [trail, steps_parent]) fun h => ?_
    rw [address, ← List.dropLast_append_getLast hsteps, walk_append]
    simpa [Files.trail, walk] using h

/-- The way to the parent is a part of the way to a path. -/
theorem mem_trail_of_parent {v : Address} (h : v ∈ path.parent.trail) : v ∈ path.trail := by
  rw [trail, steps_parent] at h
  by_cases hsteps : path.steps = []
  · rw [hsteps] at h
    exact absurd h List.not_mem_nil
  · rw [trail, ← List.dropLast_append_getLast hsteps, trail_append]
    exact List.mem_append_left _ h

/-- A path that can name a file leads somewhere. -/
theorem steps_ne_nil_of_file (hne : path.segments ≠ []) (h : path.demandsDirectory = false) :
    path.steps ≠ [] := by
  intro hnil
  have hlast := List.getLast_mem hne
  have hidle := List.filter_eq_nil_iff.mp hnil _ hlast
  simp only [demandsDirectory, List.getLast?_eq_some_getLast hne, Bool.or_eq_false_iff] at h
  simp [h.1] at hidle

/-- Any text has a segment, if only an empty one. -/
theorem segments_ofString_ne_nil (text : String) : (ofString text).segments ≠ [] := by
  have hsplit : ∀ piece cs, Text.splitFrom '/' piece cs ≠ [] := by
    intro piece cs
    induction cs generalizing piece with
    | nil => simp [Text.splitFrom]
    | cons c cs ih =>
      rw [Text.splitFrom]
      split
      · simp
      · exact ih (c :: piece)
  simpa [ofString, Text.split] using hsplit [] text.toList

theorem isEmpty_eq_false_of_steps (h : path.steps ≠ []) : path.isEmpty = false := by
  by_contra hempty
  apply h
  simp only [isEmpty, Bool.and_eq_true, List.all_eq_true, decide_eq_true_eq, Bool.not_eq_false]
    at hempty
  rw [steps, List.filter_eq_nil_iff]
  intro s hs
  simp [isIdle, hempty.1 s hs]

end Path

namespace Node

variable {root before middle after : Node} {here a : Address} {path : Path}

/-- What is over a directory is a directory. -/
theorem IsDirectory.dropLast (h : root.IsDirectory a) : root.IsDirectory a.dropLast := by
  by_cases ha : a = []
  · subst ha
    exact h
  · have hpre := List.dropLast_prefix a
    refine isDirectory_above hpre ?_ h.ne_none
    intro he
    have hlen := congrArg List.length he
    have hpos := List.length_pos_iff.mpr ha
    rw [List.length_dropLast] at hlen
    omega

/-! ## Following paths -/

/-- Steps can be followed if they lead over directories. -/
theorem follow_eq_ok_iff {steps : List String} :
    root.follow here steps = .ok a ↔
      a = walk here steps ∧ (steps ≠ [] → root.IsDirectory here ∧
        ∀ v ∈ trail here steps.dropLast, root.IsDirectory v) := by
  induction steps generalizing here with
  | nil => simp [follow, walk, eq_comm]
  | cons step rest ih =>
    rw [follow]
    rcases hnode : root.get? here with _ | content | entries
    · have hdir : ¬ root.IsDirectory here := by
        simp [IsDirectory, kindAt?, hnode]
      simp [hdir]
    · have hdir : ¬ root.IsDirectory here := by
        simp [IsDirectory, kindAt?, hnode, kind]
      simp [hdir]
    · have hdir : root.IsDirectory here := isDirectory_of_get? hnode
      simp only
      change root.follow (takeStep here step) rest = .ok a ↔ _
      rw [ih]
      cases rest with
      | nil => simp [walk, trail, hdir]
      | cons next more =>
        simp only [walk, List.foldl_cons, ne_eq, reduceCtorEq, not_false_eq_true, true_imp_iff,
          List.dropLast_cons_cons, trail, List.mem_cons, forall_eq_or_imp, hdir, true_and]

/-- Every address that the path visits is a directory. -/
structure Paved (root : Node) (path : Path) : Prop where
  start : root.IsDirectory []
  trail : ∀ v ∈ path.trail, root.IsDirectory v

/-- A paved way ends at a directory. -/
theorem Paved.address (h : root.Paved path) : root.IsDirectory path.address := by
  by_cases hs : path.steps = []
  · simpa [Path.address, hs, walk] using h.start
  · exact h.trail _ (walk_mem_trail hs)

/-- A path can be followed if what is over it is paved. -/
theorem locate_eq_ok_iff :
    root.locate path = .ok a ↔
      path.isEmpty = false ∧ a = path.address ∧ (path.steps ≠ [] → root.Paved path.parent) := by
  have hparent : root.Paved path.parent ↔
      root.IsDirectory [] ∧ ∀ v ∈ trail [] path.steps.dropLast, root.IsDirectory v := by
    rw [← Path.steps_parent]
    exact ⟨fun h => ⟨h.start, h.trail⟩, fun h => ⟨h.1, h.2⟩⟩
  rw [locate, hparent, Path.address]
  cases path.isEmpty with
  | true => simp
  | false => simp [follow_eq_ok_iff]

/-- What leads to the parent of a paved path is paved. -/
theorem Paved.parent (h : root.Paved path) : root.Paved path.parent :=
  ⟨h.start, fun v hv => h.trail v (Path.mem_trail_of_parent hv)⟩

/-- Over a paved way a path leads to its address. -/
theorem locate_of_paved (hne : path.steps ≠ []) (h : root.Paved path.parent) :
    root.locate path = .ok path.address :=
  locate_eq_ok_iff.mpr ⟨Path.isEmpty_eq_false_of_steps hne, rfl, fun _ => h⟩

/-! ## Making directories -/

/-- The second tree is the first one with new directories, all of them at the given addresses. -/
def Extended (before after : Node) (new : List Address) : Prop :=
  ∀ a, after.kindAt? a = before.kindAt? a ∨
    a ∈ new ∧ before.kindAt? a = none ∧ after.IsDirectory a

theorem Extended.refl (root : Node) (new : List Address) : Extended root root new :=
  fun _ => .inl rfl

/-- Trees that are extended one after the other by directories of a list are extended by such. -/
theorem Extended.trans {new : List Address} (h : Extended before middle new)
    (h' : Extended middle after new) : Extended before after new := by
  intro a
  rcases h a with hsame | ⟨hmem, hnone, hdir⟩ <;> rcases h' a with hsame' | ⟨hmem', hnone', hdir'⟩
  · exact .inl (hsame'.trans hsame)
  · exact .inr ⟨hmem', hsame ▸ hnone', hdir'⟩
  · exact .inr ⟨hmem, hnone, hsame'.trans hdir⟩
  · exact .inr ⟨hmem, hnone, hdir'⟩

/-- A list with more addresses will do. -/
theorem Extended.mono {new new' : List Address} (h : Extended before after new)
    (hsub : ∀ v ∈ new, v ∈ new') : Extended before after new' := fun a =>
  (h a).imp_right fun hnew => ⟨hsub a hnew.1, hnew.2⟩

/-- What is there stays. -/
theorem Extended.kindAt?_eq {new : List Address} (h : Extended before after new)
    (ha : before.kindAt? a ≠ none) : after.kindAt? a = before.kindAt? a :=
  (h a).resolve_right fun hnew => ha hnew.2.1

/-- Nothing is new outside of the list. -/
theorem Extended.eq_of_not_mem {new : List Address} (h : Extended before after new) (ha : a ∉ new) :
    after.kindAt? a = before.kindAt? a :=
  (h a).resolve_right fun hnew => ha hnew.1

/-- Nothing is new where all of it was there already. -/
theorem Extended.eq_of_there {new : List Address} (h : Extended before after new)
    (hnew : ∀ v ∈ new, before.IsDirectory v) (a : Address) : after.kindAt? a = before.kindAt? a :=
  (h a).resolve_right fun ha => (hnew a ha.1).ne_none ha.2.1

/-- Directories stay. -/
theorem Extended.isDirectory {new : List Address} (h : Extended before after new)
    (ha : before.IsDirectory a) : after.IsDirectory a :=
  (h.kindAt?_eq ha.ne_none).trans ha

/-- Paved ways stay paved. -/
theorem Extended.paved {new : List Address} (h : Extended before after new)
    (hp : before.Paved path) : after.Paved path :=
  ⟨h.isDirectory hp.start, fun v hv => h.isDirectory (hp.trail v hv)⟩

/-- No file is new, and none is gone. -/
theorem Extended.fileAt?_eq {new : List Address} (h : Extended before after new) (a : Address) :
    after.fileAt? a = before.fileAt? a := by
  rcases h a with hsame | ⟨_, hnone, hdir⟩
  · simp [fileAt?, hsame]
  · rw [fileAt?_of_directory hdir, fileAt?_of_missing hnone]

/-- An empty directory is made where nothing is. -/
theorem extended_put (hdir : root.IsDirectory here) {name : String}
    (hnone : root.kindAt? (here ++ [name]) = none) :
    Extended root (root.put (here ++ [name]) empty) [here ++ [name]] := by
  have hparent : here ++ [name] = [] ∨ root.IsDirectory (here ++ [name]).dropLast :=
    .inr (by simpa using hdir)
  intro v
  by_cases hv : here ++ [name] <+: v
  · obtain ⟨r, rfl⟩ := hv
    cases r with
    | nil =>
      rw [List.append_nil]
      exact .inr ⟨by simp, hnone, kindAt?_put_self empty hparent⟩
    | cons next more =>
      rw [kindAt?_put_append _ empty hparent, kindAt?_below_missing hnone]
      exact .inl (by simp [kindAt?, empty, get?])
  · exact .inl (kindAt?_put_elsewhere hv)

/-- One step of making directories: two dots lead back up, an existing directory is entered, and a
missing one is made first. A file stops it, and so does the last directory if it is missing and was to be
there. -/
theorem ensure_cons (there : Bool) (hhere : root.IsDirectory here) (step : String) (rest : List String) :
    (∃ fault, root.ensure there here (step :: rest) = (.error fault, root) ∧
        ((∃ content, root.kindAt? (takeStep here step) = some (.file content)) ∨
          there ∧ rest = [] ∧ root.kindAt? (takeStep here step) = none)) ∨
      ∃ next, Extended root next [takeStep here step] ∧ next.IsDirectory (takeStep here step) ∧
        root.ensure there here (step :: rest) = next.ensure there (takeStep here step) rest := by
  rw [ensure]
  split
  next hup =>
    have hstep : here.dropLast = takeStep here step := by simp [takeStep, hup]
    rw [hstep]
    exact .inr ⟨root, .refl root _, hstep ▸ hhere.dropLast, rfl⟩
  next hup =>
    have hstep : here ++ [step] = takeStep here step := by simp [takeStep, hup]
    rcases hnode : root.get? (here ++ [step]) with _ | content | entries
    · have hnone := get?_eq_none_iff.mp hnode
      dsimp only
      split
      next hlast =>
        rw [Bool.and_eq_true, List.isEmpty_iff] at hlast
        rw [hstep] at hnone
        exact .inl ⟨_, rfl, .inr ⟨hlast.2, hlast.1, hnone⟩⟩
      next =>
        have hput := extended_put hhere hnone
        have hdir : (root.put (here ++ [step]) empty).IsDirectory (here ++ [step]) :=
          kindAt?_put_self empty (.inr (by simpa using hhere))
        rw [hstep] at hput hdir ⊢
        exact .inr ⟨_, hput, hdir, rfl⟩
    · rw [hstep] at hnode ⊢
      exact .inl ⟨_, rfl, .inl ⟨content, get?_eq_file_iff.mp hnode⟩⟩
    · rw [hstep] at hnode ⊢
      exact .inr ⟨root, .refl root _, isDirectory_of_get? hnode, rfl⟩

/-- Making directories adds those that are missing on the way, also when it fails. -/
theorem ensure_extends {there : Bool} {steps : List String} (hhere : root.IsDirectory here) :
    Extended root (root.ensure there here steps).2 (Files.trail here steps) := by
  induction steps generalizing root here with
  | nil => exact .refl root _
  | cons step rest ih =>
    rcases ensure_cons there hhere step rest with ⟨_, heq, -⟩ | ⟨next, hnext, hdir, heq⟩
    · rw [heq]
      exact .refl root _
    · rw [heq]
      exact (hnext.mono (by simp [Files.trail])).trans
        ((ih hdir).mono fun v hv => List.mem_cons_of_mem _ hv)

/-- When directories were made, all of them are there. -/
theorem isDirectory_of_ensure_ok {there : Bool} {steps : List String} (hhere : root.IsDirectory here)
    (hok : (root.ensure there here steps).1 = .ok ()) {v : Address} (hv : v ∈ Files.trail here steps) :
    (root.ensure there here steps).2.IsDirectory v := by
  induction steps generalizing root here with
  | nil => simp [Files.trail] at hv
  | cons step rest ih =>
    rcases ensure_cons there hhere step rest with ⟨_, heq, -⟩ | ⟨next, hnext, hdir, heq⟩
    · simp [heq] at hok
    · rw [heq] at hok ⊢
      rcases List.mem_cons.mp hv with rfl | hv
      · exact (ensure_extends hdir).isDirectory hdir
      · exact ih hdir hok hv

/-- Directories can be made if no file is in the way, and the last one is there if it is to be. -/
theorem ensure_ok_of_no_file {there : Bool} {steps : List String} (hhere : root.IsDirectory here)
    (hfree : ∀ v ∈ Files.trail here steps, root.fileAt? v = none)
    (hlast : there → root.IsDirectory (walk here steps)) :
    (root.ensure there here steps).1 = .ok () := by
  induction steps generalizing root here with
  | nil => rfl
  | cons step rest ih =>
    rcases ensure_cons there hhere step rest with ⟨_, -, hstop⟩ | ⟨next, hnext, hdir, heq⟩
    · rcases hstop with ⟨content, hfile⟩ | ⟨hthere, rfl, hnone⟩
      · have hnone := hfree _ List.mem_cons_self
        simp [fileAt?, hfile] at hnone
      · exact absurd hnone (hlast hthere).ne_none
    · rw [heq]
      refine ih hdir (fun v hv => ?_) fun hthere => hnext.isDirectory (hlast hthere)
      rw [hnext.fileAt?_eq]
      exact hfree v (List.mem_cons_of_mem _ hv)

/-- Where the last directory is to be there, the others are made all the same. -/
theorem ensure_there_eq (root : Node) (here : Address) (steps : List String) :
    (root.ensure true here steps).2 = (root.ensure false here steps.dropLast).2 := by
  induction steps generalizing root here with
  | nil => rfl
  | cons step rest ih =>
    cases rest with
    | nil =>
      rw [ensure]
      split
      · rfl
      · split <;> rfl
    | cons next more =>
      rw [List.dropLast_cons_cons]
      conv_lhs => rw [ensure]
      conv_rhs => rw [ensure]
      by_cases hstep : step = ".."
      · rw [if_pos hstep, if_pos hstep]
        exact ih _ _
      · rw [if_neg hstep, if_neg hstep, Bool.and_false]
        rcases root.get? (here ++ [step]) with _ | content | entries
        · exact ih _ _
        · rfl
        · exact ih _ _

/-! Making the directories of a path. -/

/-- Only directories on the way of the path are new. -/
theorem createDirectories_extends (h : root.IsDirectory []) (path : Path) :
    Extended root (root.createDirectories path).2 path.trail :=
  ensure_extends h

/-- Behind a dot nothing is made but what is over it. -/
theorem createDirectories_of_endsInDot (hdot : path.endsInDot) :
    (root.createDirectories path).2 = (root.createDirectories path.parent).2 := by
  rw [createDirectories, createDirectories, hdot, Path.endsInDot_parent, Path.steps_parent]
  exact ensure_there_eq root [] path.steps

/-- What was made leads over directories only. -/
theorem paved_of_createDirectories (h : root.IsDirectory [])
    (hok : (root.createDirectories path).1 = .ok ()) : (root.createDirectories path).2.Paved path where
  start := (createDirectories_extends h path).isDirectory h
  trail _ hv := isDirectory_of_ensure_ok h hok hv

/-- A directory whose path does not end in a dot can be made if and only if no file is in the way. -/
theorem createDirectories_ok_iff (h : root.IsDirectory []) (hdot : path.endsInDot = false) :
    (root.createDirectories path).1 = .ok () ↔ ∀ v ∈ path.trail, root.fileAt? v = none := by
  refine ⟨fun hok v hv => ?_, fun hfree => ensure_ok_of_no_file h hfree ?_⟩
  · rw [← (createDirectories_extends h path).fileAt?_eq]
    exact fileAt?_of_directory ((paved_of_createDirectories h hok).trail v hv)
  · simp [hdot]

/-- The directories over a path can be made if and only if no file is in the way. -/
theorem createDirectories_parent_ok_iff (h : root.IsDirectory []) :
    (root.createDirectories path.parent).1 = .ok () ↔ ∀ v ∈ path.parent.trail, root.fileAt? v = none :=
  createDirectories_ok_iff h (Path.endsInDot_parent path)

/-- Making the directories of a paved path again succeeds. -/
theorem Paved.createDirectories_ok (h : root.Paved path) : (root.createDirectories path).1 = .ok () :=
  ensure_ok_of_no_file h.start (fun v hv => fileAt?_of_directory (h.trail v hv)) fun _ => h.address

end Node

end TypedClient.Files
