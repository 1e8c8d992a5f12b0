import TypedClient.TypeScript.Stem
import Mathlib.Data.Finset.Card
import Mathlib.Data.List.Nodup
import Mathlib.Data.List.Infix
import Std.Data.String.ToNat

/-!
# Free stems

Whatever names are used, one of the candidates for a stem is free, for a used name stands in the way of
one candidate at most (`Stem.candidate_unique`). So the stems of several ids give names that are all
different and none of which was used before (`Stem.nodup_names_allocateAll`).
-/

namespace TypedClient.TypeScript.Stem

variable {base stem s t x y name id : String} {used ids : List String}

/-! ## Names made from a stem -/

/-- What stands behind a stem in the names made from it. -/
def endings : List String := "" :: suffixes

theorem names_eq (stem : String) : names stem = endings.map (stem ++ ·) := by
  simp [names, endings]

/-- A name made from a stem is the stem with one of the endings. -/
theorem mem_names_iff : name ∈ names stem ↔ ∃ x ∈ endings, stem ++ x = name := by
  rw [names_eq, List.mem_map]

/-- What stands behind a stem can be read off. -/
theorem append_right_injective (stem : String) : Function.Injective (stem ++ ·) := by
  intro x y h
  have hlists := congrArg String.toList h
  rwa [String.toList_append, String.toList_append, List.append_cancel_left_eq, String.toList_inj]
    at hlists

/-- So can what stands in front of an ending. -/
theorem append_left_injective (x : String) : Function.Injective (· ++ x) := by
  intro s t h
  have hlists := congrArg String.toList h
  rwa [String.toList_append, String.toList_append, List.append_cancel_right_eq, String.toList_inj]
    at hlists

/-- The names made from one stem are different. -/
theorem nodup_names (stem : String) : (names stem).Nodup := by
  rw [names_eq]
  exact List.Nodup.map (append_right_injective stem) (by decide)

/-- A stem is free if no name made from it is used. -/
theorem isFree_iff : isFree used stem ↔ ∀ name ∈ names stem, name ∉ used := by
  simp [isFree]

/-! ## Candidates -/

/-- The stems that are tried for a name: the name itself and that name with a number. -/
def IsCandidate (base s : String) : Prop :=
  s = base ∨ ∃ n, s = numbered base n

/-- Different numbers give different stems. -/
theorem numbered_injective (base : String) : Function.Injective (numbered base) :=
  fun _ _ h => Nat.repr_injective (append_right_injective base h)

/-- A number makes a stem longer. -/
theorem length_lt_numbered (base : String) (n : Nat) : base.length < (numbered base n).length := by
  rw [numbered, String.length_append, Nat.toString_eq_repr]
  exact Nat.lt_add_of_pos_right Nat.length_repr_pos

/-- A number ends with a digit. -/
theorem getLast?_numbered (base : String) (n : Nat) :
    ∃ c : Char, (numbered base n).toList.getLast? = some c ∧ c.isDigit := by
  have hne : Nat.toDigits 10 n ≠ [] := Nat.toDigits_ne_nil
  refine ⟨(Nat.toDigits 10 n).getLast hne, ?_,
    Nat.isDigit_of_mem_toDigits (by decide) (by decide) (List.getLast_mem hne)⟩
  rw [numbered, String.toList_append, Nat.toString_eq_repr, Nat.toList_repr,
    List.getLast?_append_of_ne_nil _ hne, List.getLast?_eq_some_getLast hne]

theorem length_le_of_isCandidate (h : IsCandidate base s) : base.length ≤ s.length := by
  rcases h with rfl | ⟨n, rfl⟩
  · exact Nat.le_refl _
  · exact (length_lt_numbered base n).le

/-- No suffix is the end of another. -/
theorem suffix_incomparable :
    ∀ x ∈ suffixes, ∀ y ∈ suffixes, x.toList <:+ y.toList → x = y := by
  decide

/-- No suffix ends with a digit. -/
theorem getLast?_suffix : ∀ x ∈ suffixes, x.toList.getLast?.any Char.isDigit = false := by
  decide

theorem toList_suffix_ne_nil : ∀ x ∈ suffixes, x.toList ≠ [] := by
  decide

/-- A candidate is no other candidate with a suffix: the longer one of the two would end with a digit. -/
theorem ne_append_suffix (hs : IsCandidate base s) (ht : IsCandidate base t) (hx : x ∈ suffixes) :
    s ≠ t ++ x := by
  intro heq
  have hlast : s.toList.getLast? = x.toList.getLast? := by
    rw [heq, String.toList_append, List.getLast?_append_of_ne_nil _ (toList_suffix_ne_nil x hx)]
  rcases hs with rfl | ⟨n, rfl⟩
  · have hle := length_le_of_isCandidate ht
    have hlength := congrArg String.length heq
    have hpos : 0 < x.length := by
      rw [← String.length_toList]
      exact List.length_pos_of_ne_nil (toList_suffix_ne_nil x hx)
    rw [String.length_append] at hlength
    omega
  · obtain ⟨c, hc, hdigit⟩ := getLast?_numbered base n
    rw [hlast] at hc
    have hnone := getLast?_suffix x hx
    rw [hc, Option.any_some, hdigit] at hnone
    exact absurd hnone (by decide)

/-- A name is made from one candidate only. -/
theorem candidate_unique (hs : IsCandidate base s) (ht : IsCandidate base t)
    (hname : name ∈ names s) (hother : name ∈ names t) : s = t := by
  obtain ⟨x, hx, rfl⟩ := mem_names_iff.mp hname
  obtain ⟨y, hy, heq⟩ := mem_names_iff.mp hother
  rcases List.mem_cons.mp hx with rfl | hx <;> rcases List.mem_cons.mp hy with rfl | hy
  · simpa using heq.symm
  · exact absurd (by simpa using heq.symm) (ne_append_suffix hs ht hy)
  · exact absurd (by simpa using heq) (ne_append_suffix ht hs hx)
  · -- both suffixes end the same name
    have hends : x.toList <:+ (s ++ x).toList ∧ y.toList <:+ (s ++ x).toList := by
      refine ⟨?_, ?_⟩
      · rw [String.toList_append]
        exact List.suffix_append _ _
      · rw [← heq, String.toList_append]
        exact List.suffix_append _ _
    have hsame : x = y := by
      rcases List.suffix_or_suffix_of_suffix hends.1 hends.2 with h | h
      · exact suffix_incomparable x hx y hy h
      · exact (suffix_incomparable y hy x hx h).symm
    subst hsame
    exact (append_left_injective x heq).symm

/-! ## The stem that is taken -/

/-- The stems that are tried for a name, in their order: the name itself, and then that name with the
numbers from two on. -/
def candidate (base : String) : Nat → String
  | 0 => base
  | k + 1 => numbered base (k + 2)

theorem isCandidate_candidate (base : String) (k : Nat) : IsCandidate base (candidate base k) := by
  cases k with
  | zero => exact .inl rfl
  | succ k => exact .inr ⟨k + 2, rfl⟩

/-- No candidate is tried twice. -/
theorem candidate_injective (base : String) : Function.Injective (candidate base) := by
  have hne (k : Nat) : base ≠ numbered base (k + 2) := fun h =>
    absurd (congrArg String.length h) (length_lt_numbered base (k + 2)).ne
  intro j k h
  cases j with
  | zero =>
    cases k with
    | zero => rfl
    | succ k => exact absurd h (hne k)
  | succ j =>
    cases k with
    | zero => exact absurd h.symm (hne j)
    | succ k =>
      have hnumber : j + 2 = k + 2 := numbered_injective base h
      omega

/-- Of different candidates no more can be in use than there are used names. -/
theorem exists_isFree {f : Nat → String} (hcandidates : ∀ k, IsCandidate base (f k))
    (hinj : Function.Injective f) (used : List String) : ∃ k ≤ used.toFinset.card, isFree used (f k) := by
  by_contra hnone
  -- each candidate has a used name of its own, so there are more used names than there are
  let blocker (k : Nat) : String := ((names (f k)).find? (· ∈ used)).getD ""
  have hblocker : ∀ k ∈ Finset.range (used.toFinset.card + 1),
      blocker k ∈ names (f k) ∧ blocker k ∈ used := by
    intro k hk
    have hbusy : isFree used (f k) = false := by
      by_contra hfree
      exact hnone ⟨k, Nat.le_of_lt_succ (Finset.mem_range.mp hk), by simpa using hfree⟩
    obtain ⟨name, hname, hused⟩ : ∃ name ∈ names (f k), name ∈ used := by
      simpa [isFree] using hbusy
    cases hfind : (names (f k)).find? (· ∈ used) with
    | none => exact absurd hused (by simpa using List.find?_eq_none.mp hfind name hname)
    | some found =>
      have hfound : blocker k = found := by simp [blocker, hfind]
      rw [hfound]
      exact ⟨List.mem_of_find?_eq_some hfind, by simpa using List.find?_some hfind⟩
  have hdistinct : Set.InjOn blocker (Finset.range (used.toFinset.card + 1)) := by
    intro j hj k hk heq
    have hsame := candidate_unique (hcandidates j) (hcandidates k) (hblocker j hj).1
      (heq ▸ (hblocker k hk).1)
    exact hinj hsame
  have hcard := Finset.card_le_card_of_injOn blocker
    (fun k hk => List.mem_toFinset.mpr (hblocker k hk).2) hdistinct
  rw [Finset.card_range] at hcard
  omega

/-- The stem for an id is the first candidate that is free, and no more candidates come before it than
there are used names. -/
theorem exists_allocate_eq_candidate (used : List String) (id : String) :
    ∃ k ≤ used.toFinset.card, allocate used id = candidate (Naming.typeName id) k ∧
      isFree used (candidate (Naming.typeName id) k) ∧
      ∀ j < k, isFree used (candidate (Naming.typeName id) j) = false := by
  rw [allocate]
  split
  next hbase => exact ⟨0, Nat.zero_le _, rfl, hbase, fun j hj => absurd hj (Nat.not_lt_zero j)⟩
  next hbase =>
    rw [Bool.not_eq_true] at hbase
    obtain ⟨k, hk, hfree⟩ := exists_isFree (isCandidate_candidate (Naming.typeName id))
      (candidate_injective (Naming.typeName id)) used
    cases k with
    | zero =>
      rw [candidate, hbase] at hfree
      cases hfree
    | succ k =>
      split
      next n hn =>
        obtain ⟨hnfree, -, hbusy⟩ := List.find?_range_eq_some.mp hn
        refine ⟨n + 1, ?_, rfl, hnfree, fun j hj => ?_⟩
        · have hle : n ≤ k := by
            refine Nat.le_of_not_lt fun hlt => ?_
            have hkbusy := hbusy k hlt
            rw [candidate] at hfree
            rw [hfree] at hkbusy
            cases hkbusy
          omega
        · cases j with
          | zero => exact hbase
          | succ j => simpa [candidate] using hbusy j (Nat.lt_of_succ_lt_succ hj)
      next hnone =>
        have hlt : k < used.length := hk.trans used.toFinset_card_le
        exact absurd hfree (List.find?_eq_none.mp hnone k (List.mem_range.mpr hlt))

/-- The stem that is taken is free. -/
theorem isFree_allocate (used : List String) (id : String) : isFree used (allocate used id) := by
  obtain ⟨k, -, hstem, hfree, -⟩ := exists_allocate_eq_candidate used id
  rw [hstem]
  exact hfree

/-- The stem that is taken is one of those that are tried. -/
theorem isCandidate_allocate (used : List String) (id : String) :
    IsCandidate (Naming.typeName id) (allocate used id) := by
  obtain ⟨k, -, hstem, -⟩ := exists_allocate_eq_candidate used id
  rw [hstem]
  exact isCandidate_candidate _ k

/-- All names made from the stems of ids are different, and none of them was used before. -/
theorem nodup_names_allocateAll (used ids : List String) :
    ((allocateAll used ids).flatMap names).Nodup ∧
      ∀ name ∈ (allocateAll used ids).flatMap names, name ∉ used := by
  induction ids generalizing used with
  | nil => simp [allocateAll]
  | cons id rest ih =>
    obtain ⟨hnodup, hnew⟩ := ih (names (allocate used id) ++ used)
    have hfree := isFree_iff.mp (isFree_allocate used id)
    rw [allocateAll, List.flatMap_cons]
    refine ⟨List.nodup_append.mpr ⟨nodup_names _, hnodup, ?_⟩, ?_⟩
    · rintro name hname _ hother rfl
      exact hnew name hother (List.mem_append_left _ hname)
    · intro name hname
      rcases List.mem_append.mp hname with hname | hname
      · exact hfree name hname
      · exact fun hused => hnew name hname (List.mem_append_right _ hused)

theorem length_allocateAll (used ids : List String) : (allocateAll used ids).length = ids.length := by
  induction ids generalizing used with
  | nil => rfl
  | cons id rest ih => rw [allocateAll, List.length_cons, List.length_cons, ih]

end TypedClient.TypeScript.Stem
