import TypedClient.Proofs.Files.Written

/-!
# Trees that are alike

Two trees are alike if they agree at the addresses that they share and below one directory of each, wherever
that is (`Pairing`, `Node.Alike`). What is done to both of them along paths that belong together ends in the
same way and leaves trees that are alike (`Alike.createDirectories`, `Alike.writeFile`, `Alike.rename`,
`Alike.removeFile`).
-/

namespace TypedClient.Files

/-- Results that are the same fault, or are related. -/
inductive SameResult {ε α β : Type} (R : α → β → Prop) : Except ε α → Except ε β → Prop
  | error (fault : ε) : SameResult R (.error fault) (.error fault)
  | ok {a : α} {b : β} (h : R a b) : SameResult R (.ok a) (.ok b)

/-- Which addresses of two trees belong together: those that they share, and those below a directory of
each that have the same names there. -/
structure Pairing where
  shared : Address → Prop
  left : Address
  right : Address
  apart_left : ∀ a, shared a → ¬ left <+: a
  apart_right : ∀ a, shared a → ¬ right <+: a

namespace Pairing

/-- Two addresses that belong together. -/
def Pairs (pairing : Pairing) (a b : Address) : Prop :=
  (pairing.shared a ∧ b = a) ∨ ∃ r, a = pairing.left ++ r ∧ b = pairing.right ++ r

/-- Two addresses that belong together with all that is below them. -/
def PairsBelow (pairing : Pairing) (a b : Address) : Prop :=
  ((∀ r, pairing.shared (a ++ r)) ∧ b = a) ∨
    ∃ r, r ≠ [] ∧ a = pairing.left ++ r ∧ b = pairing.right ++ r

/-- Steps that lead over addresses that belong together. -/
inductive PairsSteps (pairing : Pairing) : Address → Address → List String → List String → Prop
  | nil {a b : Address} (h : pairing.Pairs a b) : PairsSteps pairing a b [] []
  | cons {a b : Address} {step other : String} {rest more : List String} (h : pairing.Pairs a b)
      (hup : step = ".." ↔ other = "..")
      (hrest : PairsSteps pairing (takeStep a step) (takeStep b other) rest more) :
      PairsSteps pairing a b (step :: rest) (other :: more)

/-- Two paths that lead over addresses that belong together. -/
structure PairsPath (pairing : Pairing) (path other : Path) : Prop where
  empty : path.isEmpty = other.isEmpty
  demands : path.demandsDirectory = other.demandsDirectory
  steps : pairing.PairsSteps [] [] path.steps other.steps

variable {pairing : Pairing} {a b c d : Address} {s t : List String} {path other : Path}

/-- What lies below two such addresses under the same names belongs together. -/
theorem PairsBelow.pairs (h : pairing.PairsBelow a b) (r : Address) :
    pairing.Pairs (a ++ r) (b ++ r) := by
  rcases h with ⟨hshared, rfl⟩ | ⟨q, -, rfl, rfl⟩
  · exact .inl ⟨hshared r, rfl⟩
  · exact .inr ⟨q ++ r, List.append_assoc _ _ _, List.append_assoc _ _ _⟩

theorem PairsBelow.pairs_self (h : pairing.PairsBelow a b) : pairing.Pairs a b := by
  simpa using h.pairs []

/-- Addresses that belong together lie below two others in the same way, or below none of them. -/
theorem PairsBelow.cases (h : pairing.PairsBelow a b) (hc : pairing.Pairs c d) :
    (∃ r, c = a ++ r ∧ d = b ++ r) ∨ ¬ a <+: c ∧ ¬ b <+: d := by
  rcases h with ⟨hshared, rfl⟩ | ⟨q, -, rfl, rfl⟩ <;> rcases hc with ⟨hown, rfl⟩ | ⟨r, rfl, rfl⟩
  · by_cases hpre : b <+: d
    · obtain ⟨r, rfl⟩ := hpre
      exact .inl ⟨r, rfl, rfl⟩
    · exact .inr ⟨hpre, hpre⟩
  · -- an address that is shared with all below it is not over an area, nor in one
    have hapart : ∀ area, (∀ a, pairing.shared a → ¬ area <+: a) → ¬ b <+: area ++ r := by
      intro area harea hpre
      rcases List.prefix_or_prefix_of_prefix hpre (List.prefix_append area r) with ⟨q, hq⟩ | hover
      · exact harea _ (hshared q) (hq ▸ List.prefix_rfl)
      · exact harea b (by simpa using hshared []) hover
    exact .inr ⟨hapart _ pairing.apart_left, hapart _ pairing.apart_right⟩
  · refine .inr ⟨fun hpre => ?_, fun hpre => ?_⟩
    · exact pairing.apart_left _ hown ((List.prefix_append _ q).trans hpre)
    · exact pairing.apart_right _ hown ((List.prefix_append _ q).trans hpre)
  · by_cases hpre : q <+: r
    · obtain ⟨rest, rfl⟩ := hpre
      exact .inl ⟨rest, by simp, by simp⟩
    · exact .inr ⟨by simpa using hpre, by simpa using hpre⟩

/-- The roots do not belong together with all below them, for the two areas lie there. -/
theorem PairsBelow.ne_nil (h : pairing.PairsBelow a b) : a ≠ [] ∧ b ≠ [] := by
  rcases h with ⟨hshared, rfl⟩ | ⟨q, hq, rfl, rfl⟩
  · have hne : b ≠ [] := by
      rintro rfl
      exact pairing.apart_left _ (hshared pairing.left) List.prefix_rfl
    exact ⟨hne, hne⟩
  · exact ⟨by simp [hq], by simp [hq]⟩

/-- The area of the first tree does not lie below such an address. -/
theorem PairsBelow.not_prefix_left (h : pairing.PairsBelow a b) : ¬ a <+: pairing.left := by
  rintro ⟨r, hr⟩
  rcases h with ⟨hshared, -⟩ | ⟨q, hq, rfl, -⟩
  · exact pairing.apart_left _ (hshared r) (hr ▸ List.prefix_rfl)
  · simp [hq] at hr

/-- All is shared below a shared address that lies below such a one. -/
theorem PairsBelow.shared_append (h : pairing.PairsBelow a b) (hc : pairing.shared c) (hpre : a <+: c)
    (r : Address) : pairing.shared (c ++ r) := by
  rcases h with ⟨hshared, -⟩ | ⟨q, -, rfl, -⟩
  · obtain ⟨more, rfl⟩ := hpre
    rw [List.append_assoc]
    exact hshared (more ++ r)
  · exact absurd ((List.prefix_append _ q).trans hpre) (pairing.apart_left c hc)

/-- Addresses that are apart in one tree are so in the other. -/
theorem PairsBelow.apart (h : pairing.PairsBelow a b) (hc : pairing.PairsBelow c d) (hac : Apart a c) :
    Apart b d := by
  have hforth := (h.cases hc.pairs_self).resolve_left fun ⟨r, hr, _⟩ => hac.1 (hr ▸ List.prefix_append _ r)
  have hback := (hc.cases h.pairs_self).resolve_left fun ⟨r, hr, _⟩ => hac.2 (hr ▸ List.prefix_append _ r)
  exact ⟨hforth.2, hback.2⟩

/-! ## Steps -/

/-- Steps start at addresses that belong together. -/
theorem PairsSteps.pairs (h : pairing.PairsSteps a b s t) : pairing.Pairs a b := by
  cases h <;> assumption

theorem PairsSteps.isEmpty (h : pairing.PairsSteps a b s t) : s.isEmpty = t.isEmpty := by
  cases h <;> rfl

/-- The last step can be left out on both sides. -/
theorem PairsSteps.dropLast (h : pairing.PairsSteps a b s t) :
    pairing.PairsSteps a b s.dropLast t.dropLast := by
  induction h with
  | nil h => exact .nil h
  | cons h hup hrest ih =>
    cases hrest with
    | nil _ => exact .nil h
    | cons _ _ _ => exact .cons h hup ih

/-- Steps can be put behind others that end where they start. -/
theorem PairsSteps.append {u v : List String} (h : pairing.PairsSteps a b s t)
    (h' : pairing.PairsSteps (walk a s) (walk b t) u v) :
    pairing.PairsSteps a b (s ++ u) (t ++ v) := by
  induction h with
  | nil _ => exact h'
  | cons h hup hrest ih => exact .cons h hup (ih h')

/-- The parents of such paths lead over addresses that belong together. -/
theorem PairsPath.parent (h : pairing.PairsPath path other) :
    pairing.PairsSteps [] [] path.parent.steps other.parent.steps := by
  rw [Path.steps_parent, Path.steps_parent]
  exact h.steps.dropLast

/-- Steps over addresses that are shared lead the same way in both trees. -/
theorem pairsSteps_of_shared {steps : List String} (ha : pairing.shared a)
    (htrail : ∀ v ∈ trail a steps, pairing.shared v) : pairing.PairsSteps a a steps steps := by
  induction steps generalizing a with
  | nil => exact .nil (.inl ⟨ha, rfl⟩)
  | cons step rest ih =>
    rw [trail, List.forall_mem_cons] at htrail
    exact .cons (.inl ⟨ha, rfl⟩) Iff.rfl (ih htrail.1 htrail.2)

/-- Steps that lead on from the two areas. -/
theorem pairsSteps_of_area {steps : List String} (r : Address) (h : ".." ∉ steps) :
    pairing.PairsSteps (pairing.left ++ r) (pairing.right ++ r) steps steps := by
  induction steps generalizing r with
  | nil => exact .nil (.inr ⟨r, rfl, rfl⟩)
  | cons step rest ih =>
    have hstep : step ≠ ".." := fun heq => h (heq ▸ List.mem_cons_self)
    refine .cons (.inr ⟨r, rfl, rfl⟩) Iff.rfl ?_
    rw [takeStep, takeStep, if_neg hstep, if_neg hstep, List.append_assoc, List.append_assoc]
    exact ih (r ++ [step]) fun hmem => h (List.mem_cons_of_mem _ hmem)

end Pairing

namespace Node

open Pairing

variable {pairing : Pairing} {x y : Node} {a b : Address} {s t : List String}
  {path other source target source' target' : Path} {content : ByteArray}

/-- What is at two addresses of the same kind. -/
theorem get?_cases (h : x.kindAt? a = y.kindAt? b) :
    x.get? a = none ∧ y.get? b = none ∨
      (∃ content, x.get? a = some (.file content) ∧ y.get? b = some (.file content)) ∨
      ∃ entries others, x.get? a = some (.directory entries) ∧ y.get? b = some (.directory others) := by
  rw [kindAt?, kindAt?] at h
  rcases hx : x.get? a with _ | content | entries <;> rcases hy : y.get? b with _ | own | others <;>
    simp_all [kind]

/-- Two trees that agree where their addresses belong together. The area of the first one is there, and
what is missing in it is shared with all that would be below. -/
structure Alike (pairing : Pairing) (x y : Node) : Prop where
  same : ∀ a b, pairing.Pairs a b → x.kindAt? a = y.kindAt? b
  area : x.IsDirectory pairing.left
  below : ∀ a, pairing.shared a → x.kindAt? a = none → ∀ r, pairing.shared (a ++ r)

namespace Alike

variable (h : Alike pairing x y)

include h

/-- The first tree has a root that is a directory. -/
theorem root : x.IsDirectory [] := by
  by_cases hleft : pairing.left = []
  · rw [← hleft]
    exact h.area
  · exact isDirectory_above List.nil_prefix (Ne.symm hleft) h.area.ne_none

/-- A directory of one tree is one in the other. -/
theorem isDirectory (hab : pairing.Pairs a b) (ha : x.IsDirectory a) : y.IsDirectory b :=
  (h.same a b hab).symm.trans ha

/-- Where nothing is, the addresses belong together with all below them. -/
theorem pairsBelow_of_missing (hab : pairing.Pairs a b) (hnone : x.kindAt? a = none) :
    pairing.PairsBelow a b := by
  rcases hab with ⟨hshared, rfl⟩ | ⟨r, rfl, rfl⟩
  · exact .inl ⟨h.below b hshared hnone, rfl⟩
  · refine .inr ⟨r, ?_, rfl, rfl⟩
    rintro rfl
    rw [List.append_nil] at hnone
    exact h.area.ne_none hnone

/-! ## Changes at one address -/

/-- Removing what belongs together leaves the trees alike. -/
theorem erase (hab : pairing.PairsBelow a b) : Alike pairing (x.erase a) (y.erase b) where
  same c d hcd := by
    rcases hab.cases hcd with ⟨r, rfl, rfl⟩ | ⟨hc, hd⟩
    · rw [kindAt?_erase_append hab.ne_nil.1, kindAt?_erase_append hab.ne_nil.2]
    · rw [kindAt?_erase_elsewhere hc, kindAt?_erase_elsewhere hd, h.same c d hcd]
  area := by
    rw [IsDirectory, kindAt?_erase_elsewhere hab.not_prefix_left]
    exact h.area
  below c hc hnone := by
    by_cases hpre : a <+: c
    · exact hab.shared_append hc hpre
    · rw [kindAt?_erase_elsewhere hpre] at hnone
      exact h.below c hc hnone

/-- So does putting nodes that look the same where they belong together. -/
theorem put {n m : Node} (hab : pairing.PairsBelow a b) (hx : x.IsDirectory a.dropLast)
    (hy : y.IsDirectory b.dropLast) (hnodes : ∀ r, n.kindAt? r = m.kindAt? r) :
    Alike pairing (x.put a n) (y.put b m) where
  same c d hcd := by
    rcases hab.cases hcd with ⟨r, rfl, rfl⟩ | ⟨hc, hd⟩
    · rw [kindAt?_put_append r n (.inr hx), kindAt?_put_append r m (.inr hy), hnodes]
    · rw [kindAt?_put_elsewhere hc, kindAt?_put_elsewhere hd, h.same c d hcd]
  area := by
    rw [IsDirectory, kindAt?_put_elsewhere hab.not_prefix_left]
    exact h.area
  below c hc hnone := by
    by_cases hpre : a <+: c
    · exact hab.shared_append hc hpre
    · rw [kindAt?_put_elsewhere hpre] at hnone
      exact h.below c hc hnone

/-! ## Following paths -/

/-- Steps lead to addresses that belong together, or fail in the same way. -/
theorem follow (hsteps : pairing.PairsSteps a b s t) :
    SameResult pairing.Pairs (x.follow a s) (y.follow b t) := by
  induction hsteps with
  | nil hab => exact .ok hab
  | @cons a b step other rest more hab hup hrest ih =>
    rw [Node.follow, Node.follow]
    rcases get?_cases (h.same a b hab) with ⟨hx, hy⟩ | ⟨content, hx, hy⟩ | ⟨entries, others, hx, hy⟩
    · rw [hx, hy]
      exact .error _
    · rw [hx, hy]
      exact .error _
    · rw [hx, hy]
      exact ih

/-- So do paths. -/
theorem locate (hpath : pairing.PairsPath path other) :
    SameResult pairing.Pairs (x.locate path) (y.locate other) := by
  rw [Node.locate, Node.locate, hpath.empty]
  split
  · exact .error _
  · exact h.follow hpath.steps

/-- Paths that belong together both cannot be followed, or they lead to what is of the same kind. -/
theorem locate_cases (hpath : pairing.PairsPath path other) :
    (∃ fault, x.locate path = .error fault ∧ y.locate other = .error fault) ∨
      x.locate path = .ok path.address ∧ y.locate other = .ok other.address ∧
        pairing.Pairs path.address other.address := by
  have hlocate := h.locate hpath
  cases hx : x.locate path with
  | error fault =>
    rw [hx] at hlocate
    generalize hy : y.locate other = result at hlocate
    cases hlocate
    exact .inl ⟨fault, rfl, rfl⟩
  | ok a =>
    rw [hx] at hlocate
    generalize hy : y.locate other = result at hlocate
    cases hlocate with
    | ok hab =>
      obtain rfl := (locate_eq_ok_iff.mp hx).2.1
      obtain rfl := (locate_eq_ok_iff.mp hy).2.1
      exact .inr ⟨rfl, rfl, hab⟩

/-- Paths that belong together both name nothing, or what they name is of the same kind. -/
theorem find_cases (hpath : pairing.PairsPath path other) :
    (∃ fault, x.find path = .error fault ∧ y.find other = .error fault) ∨
      ∃ n m, x.find path = .ok (path.address, n) ∧ y.find other = .ok (other.address, m) ∧
        x.get? path.address = some n ∧ y.get? other.address = some m ∧
        ((∃ content, n = .file content ∧ m = .file content) ∨
          ∃ entries others, n = .directory entries ∧ m = .directory others) := by
  rcases h.locate_cases hpath with ⟨fault, hx, hy⟩ | ⟨hx, hy, hab⟩
  · exact .inl ⟨fault, by rw [find, hx]; rfl, by rw [find, hy]; rfl⟩
  · rcases get?_cases (h.same _ _ hab) with ⟨hnode, hother⟩ | ⟨content, hnode, hother⟩ |
      ⟨entries, others, hnode, hother⟩
    · exact .inl ⟨.notFound, by simp only [find, hx, hnode, bind, Except.bind]; rfl,
        by simp only [find, hy, hother, bind, Except.bind]; rfl⟩
    · cases hdemands : other.demandsDirectory with
      | true =>
        exact .inl ⟨.notDirectory,
          by simp only [find, hx, hnode, hpath.demands, hdemands, bind, Except.bind]; rfl,
          by simp only [find, hy, hother, hdemands, bind, Except.bind]; rfl⟩
      | false =>
        exact .inr ⟨_, _,
          by simp only [find, hx, hnode, hpath.demands, hdemands, bind, Except.bind]; rfl,
          by simp only [find, hy, hother, hdemands, bind, Except.bind]; rfl,
          hnode, hother, .inl ⟨content, rfl, rfl⟩⟩
    · exact .inr ⟨_, _, by simp only [find, hx, hnode, bind, Except.bind]; rfl,
        by simp only [find, hy, hother, bind, Except.bind]; rfl,
        hnode, hother, .inr ⟨entries, others, rfl, rfl⟩⟩

/-- A path names something in one tree if its partner does in the other. -/
theorem hasPath (hpath : pairing.PairsPath path other) : x.hasPath path = y.hasPath other := by
  rw [Node.hasPath, Node.hasPath]
  rcases h.find_cases hpath with ⟨fault, hx, hy⟩ | ⟨n, m, hx, hy, -⟩
  · rw [hx, hy]
  · rw [hx, hy]

/-! ## Making directories -/

/-- Making the directories of paired steps does the same to both trees. -/
theorem ensure (there : Bool) (hsteps : pairing.PairsSteps a b s t) (ha : x.IsDirectory a) :
    (x.ensure there a s).1 = (y.ensure there b t).1 ∧
      Alike pairing (x.ensure there a s).2 (y.ensure there b t).2 := by
  induction hsteps generalizing x y with
  | nil _ => exact ⟨rfl, h⟩
  | @cons a b step other rest more hab hup hrest ih =>
    have hb := h.isDirectory hab ha
    rw [Node.ensure, Node.ensure]
    by_cases hstep : step = ".."
    · have hother := hup.mp hstep
      rw [if_pos hstep, if_pos hother]
      rw [takeStep, takeStep, if_pos hstep, if_pos hother] at hrest ih
      exact ih h ha.dropLast
    · have hother : other ≠ ".." := fun heq => hstep (hup.mpr heq)
      rw [if_neg hstep, if_neg hother]
      rw [takeStep, takeStep, if_neg hstep, if_neg hother] at hrest ih
      have hnext := h.same _ _ hrest.pairs
      rcases get?_cases hnext with ⟨hx, hy⟩ | ⟨content, hx, hy⟩ | ⟨entries, others, hx, hy⟩
      · rw [hx, hy, hrest.isEmpty]
        dsimp only
        split
        · exact ⟨rfl, h⟩
        · have hbelow := h.pairsBelow_of_missing hrest.pairs (get?_eq_none_iff.mp hx)
          have hparent : x.IsDirectory (a ++ [step]).dropLast := by rwa [List.dropLast_concat]
          have hparent' : y.IsDirectory (b ++ [other]).dropLast := by rwa [List.dropLast_concat]
          refine ih (h.put hbelow hparent hparent' fun _ => rfl) ?_
          exact kindAt?_put_self empty (.inr hparent)
      · rw [hx, hy, hrest.isEmpty]
        exact ⟨rfl, h⟩
      · rw [hx, hy]
        exact ih h (isDirectory_of_get? hx)

/-- Making the directories of paired paths does the same to both trees. -/
theorem createDirectories (hsteps : pairing.PairsSteps [] [] path.steps other.steps)
    (hdot : path.endsInDot = other.endsInDot) (hroot : x.IsDirectory []) :
    (x.createDirectories path).1 = (y.createDirectories other).1 ∧
      Alike pairing (x.createDirectories path).2 (y.createDirectories other).2 := by
  rw [Node.createDirectories, Node.createDirectories, hdot]
  exact h.ensure other.endsInDot hsteps hroot

/-! ## Writing and moving -/

/-- Writing the same content leaves the trees alike. -/
theorem writeFile (hpath : pairing.PairsPath path other)
    (hbelow : pairing.PairsBelow path.address other.address) :
    SameResult (Alike pairing) (x.writeFile path content) (y.writeFile other content) := by
  rcases h.locate_cases hpath with ⟨fault, hx, hy⟩ | ⟨hx, hy, hab⟩
  · simp only [Node.writeFile, hx, hy, bind, Except.bind]
    exact .error fault
  · have hparent := (parent_of_locate hx).2.resolve_left hbelow.ne_nil.1
    have hparent' := (parent_of_locate hy).2.resolve_left hbelow.ne_nil.2
    have hput := h.put (n := .file content) (m := .file content) hbelow hparent hparent' fun _ => rfl
    rcases get?_cases (h.same _ _ hab) with ⟨hnode, hother⟩ | ⟨own, hnode, hother⟩ |
      ⟨entries, others, hnode, hother⟩
    · simp only [Node.writeFile, hx, hy, hnode, hother, hpath.demands, bind, Except.bind]
      split
      · exact .error _
      · exact .ok hput
    · simp only [Node.writeFile, hx, hy, hnode, hother, hpath.demands, bind, Except.bind]
      split
      · exact .error _
      · exact .ok hput
    · simp only [Node.writeFile, hx, hy, hnode, hother, bind, Except.bind]
      exact .error _

/-- So does moving what belongs together. -/
theorem move {n m : Node} {a b c d : Address} (hab : pairing.PairsBelow a b)
    (hcd : pairing.PairsBelow c d) (hapart : Apart a c) (hn : x.get? a = some n) (hm : y.get? b = some m)
    (hx : x.IsDirectory c.dropLast) (hy : y.IsDirectory d.dropLast) :
    Alike pairing ((x.erase a).put c n) ((y.erase b).put d m) := by
  have hother := hab.apart hcd hapart
  refine (h.erase hab).put hcd ?_ ?_ fun r => ?_
  · have hpre := List.dropLast_prefix c
    rwa [IsDirectory, kindAt?_erase_elsewhere fun hac => hapart.1 (hac.trans hpre)]
  · have hpre := List.dropLast_prefix d
    rwa [IsDirectory, kindAt?_erase_elsewhere fun hbd => hother.1 (hbd.trans hpre)]
  · have hsame := h.same _ _ (hab.pairs r)
    rwa [kindAt?, kindAt?, get?_append, get?_append, hn, hm] at hsame

/-- An obstacle to moving a directory is there in both trees. -/
theorem checkDirectoryMove {a b c d : Address} (hcd : pairing.PairsBelow c d) (hac : Apart a c)
    (hbd : Apart b d) :
    Node.checkDirectoryMove a c (x.get? c) = Node.checkDirectoryMove b d (y.get? d) := by
  have hover : ∀ {p q : Address}, Apart p q → p.isPrefixOf q = false := by
    intro p q hpq
    rw [← Bool.not_eq_true, List.isPrefixOf_iff_prefix]
    exact hpq.1
  rcases get?_cases (h.same c d hcd.pairs_self) with ⟨hx, hy⟩ | ⟨content, hx, hy⟩ |
    ⟨entries, others, hx, hy⟩
  · rw [hx, hy, Node.checkDirectoryMove, Node.checkDirectoryMove, hover hac, hover hbd] <;> simp
  · rw [hx, hy]
    rfl
  · -- the two directories are both empty, or none of them is
    have hempty : entries = [] ↔ others = [] := by
      rw [entries_eq_nil_of_get? hx, entries_eq_nil_of_get? hy]
      exact forall_congr' fun name => by rw [h.same _ _ (hcd.pairs [name])]
    rw [hx, hy]
    cases entries with
    | nil =>
      obtain rfl := hempty.mp rfl
      simp only [Node.checkDirectoryMove, hover hac, hover hbd]
    | cons entry rest =>
      cases others with
      | nil => exact absurd (hempty.mpr rfl) (List.cons_ne_nil _ _)
      | cons _ _ => rfl

/-- Renaming leaves the trees alike, or fails in the same way. -/
theorem rename (hsource : pairing.PairsPath source source') (htarget : pairing.PairsPath target target')
    (hab : pairing.PairsBelow source.address source'.address)
    (hcd : pairing.PairsBelow target.address target'.address)
    (hapart : Apart source.address target.address) :
    SameResult (Alike pairing) (x.rename source target) (y.rename source' target') := by
  have hother := hab.apart hcd hapart
  rcases h.find_cases hsource with ⟨fault, hx, hy⟩ | ⟨n, m, hx, hy, hn, hm, hkinds⟩
  · simp only [Node.rename, hx, hy, bind, Except.bind]
    exact .error fault
  rcases h.locate_cases htarget with ⟨fault, hlx, hly⟩ | ⟨hlx, hly, hpairs⟩
  · simp only [Node.rename, hx, hy, hlx, hly, bind, Except.bind]
    exact .error fault
  have hmoved := h.move hab hcd hapart hn hm ((parent_of_locate hlx).2.resolve_left hcd.ne_nil.1)
    ((parent_of_locate hly).2.resolve_left hcd.ne_nil.2)
  rcases hkinds with ⟨content, rfl, rfl⟩ | ⟨entries, others, rfl, rfl⟩
  · simp only [Node.rename, hx, hy, hlx, hly, hapart.ne, hother.ne, htarget.demands, bind, Except.bind,
      if_false]
    rcases get?_cases (h.same _ _ hpairs) with ⟨hcx, hcy⟩ | ⟨own, hcx, hcy⟩ | ⟨own, more, hcx, hcy⟩
    · rw [hcx, hcy]
      cases target'.demandsDirectory
      · exact .ok hmoved
      · exact .error _
    · rw [hcx, hcy]
      cases target'.demandsDirectory
      · exact .ok hmoved
      · exact .error _
    · rw [hcx, hcy]
      exact .error _
  · have hcheck := h.checkDirectoryMove hcd hapart hother
    simp only [Node.rename, hx, hy, hlx, hly, hapart.ne, hother.ne, hcheck, bind, Except.bind, if_false]
    cases Node.checkDirectoryMove source'.address target'.address (y.get? target'.address) with
    | error fault => exact .error fault
    | ok _ => exact .ok hmoved

/-- Removing files does so, too. -/
theorem removeFile (hpath : pairing.PairsPath path other)
    (hbelow : pairing.PairsBelow path.address other.address) :
    SameResult (Alike pairing) (x.removeFile path) (y.removeFile other) := by
  rcases h.find_cases hpath with ⟨fault, hx, hy⟩ | ⟨n, m, hx, hy, -, -, hkinds⟩
  · simp only [Node.removeFile, hx, hy, bind, Except.bind]
    exact .error fault
  · rcases hkinds with ⟨content, rfl, rfl⟩ | ⟨entries, others, rfl, rfl⟩
    · simp only [Node.removeFile, hx, hy, bind, Except.bind]
      exact .ok (h.erase hbelow)
    · simp only [Node.removeFile, hx, hy, bind, Except.bind]
      exact .error _

end Alike

end Node

end TypedClient.Files
