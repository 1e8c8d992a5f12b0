import TypedClient.Proofs.TypeScript.Stem
import Mathlib

/-!
# The search for a stem

The search tries the natural stem and then one number after the other. It counts in words of 32 bits with a
sign; where the count leaves its word, a build either stops or goes on from the other end. The search ends at
the first candidate that is free, after no more retries than there are used names, as long as that candidate
has a number the word can hold (`Stem.searches_iff`). So it does with fewer used names than such numbers, but
not with any names at all (`Stem.not_searches_usedUp`).
-/

namespace TypedClient.TypeScript.Stem

/-! ## Counting -/

/-- What a build does where a count leaves its word: a check stops the program, or the count goes on from
the other end. -/
inductive Counting
  | checked
  | wrapping
  deriving DecidableEq, Repr

/-- The number after a number, unless a check stops the program. -/
def Counting.next : Counting → Int32 → Option Int32
  | checked, n => if n = Int32.maxValue then none else some (n + 1)
  | wrapping, n => some (n + 1)

/-- The last number that can stand behind a stem before the count leaves its word. A check stops the program
as soon as the number after it is asked for. -/
def Counting.limit : Counting → Nat
  | checked => 2 ^ 31 - 2
  | wrapping => 2 ^ 31 - 1

variable {counting : Counting} {used : List String} {base stem id : String} {n k : Nat} {word next : Int32}

theorem limit_lt (counting : Counting) : counting.limit < 2 ^ 31 := by
  cases counting <;> decide

theorem one_lt_limit (counting : Counting) : 1 < counting.limit := by
  cases counting <;> decide

/-- Up to the limit the words count like numbers. -/
theorem next_ofNat (h : n ≤ counting.limit) :
    counting.next (Int32.ofNat n) = some (Int32.ofNat (n + 1)) := by
  cases counting with
  | checked =>
    have hlt : n < 2 ^ 31 - 1 := Nat.lt_of_le_of_lt h (by decide)
    have hne : Int32.ofNat n ≠ Int32.maxValue := by
      intro heq
      have hint := congrArg Int32.toInt heq
      rw [Int32.toInt_ofNat_of_lt (by omega), Int32.toInt_maxValue] at hint
      omega
    rw [Counting.next, if_neg hne, Int32.ofNat_add]
    rfl
  | wrapping =>
    rw [Counting.next, Int32.ofNat_add]
    rfl

/-- No number past the limit has one after it. -/
theorem le_limit_of_next (hword : word.toInt = n) (hnext : counting.next word = some next) :
    n ≤ counting.limit := by
  have hlt := word.toInt_lt
  cases counting with
  | checked =>
    have hne : word.toInt ≠ 2 ^ 31 - 1 := by
      intro hmax
      rw [← Int32.toInt_maxValue, Int32.toInt_inj] at hmax
      simp [Counting.next, hmax] at hnext
    rw [Counting.limit]
    omega
  | wrapping =>
    rw [Counting.limit]
    omega

/-- A word below the limit is written like the number it holds. -/
theorem toString_ofNat (h : n ≤ counting.limit) : toString (Int32.ofNat n) = toString n := by
  have hfits : n < 2 ^ 31 := Nat.lt_of_le_of_lt h (limit_lt counting)
  change toString (Int32.ofNat n).toInt = toString n
  rw [Int32.toInt_ofNat_of_lt hfits]
  rfl

/-- A word that is written like a number holds it, for the sign of a negative one is no digit. -/
theorem toInt_eq_of_toString_eq (h : toString word = toString n) : word.toInt = n := by
  change toString word.toInt = toString n at h
  cases hint : word.toInt with
  | ofNat m =>
    rw [hint] at h
    exact congrArg Int.ofNat (Nat.repr_injective h)
  | negSucc m =>
    rw [hint] at h
    have hsign : '-' ∈ (toString n).toList := by
      rw [← h]
      change '-' ∈ ("-" ++ Nat.repr (m + 1)).toList
      rw [String.toList_append]
      exact List.mem_append_left _ (by decide)
    rw [Nat.toString_eq_repr, Nat.toList_repr] at hsign
    exact absurd (Nat.isDigit_of_mem_toDigits (by decide) (by decide) hsign) (by decide)

/-! ## Searching -/

/-- A stem that is tried, and the number that stands behind the next one. -/
structure Attempt where
  stem : String
  number : Int32

/-- The attempt after one, unless a check stops the program. -/
def Attempt.retry (counting : Counting) (base : String) (attempt : Attempt) : Option Attempt :=
  (counting.next attempt.number).map (Attempt.mk (base ++ toString attempt.number))

/-- The search from an attempt to its end, with the number of retries and the stem that is found. One that is
stopped, or that goes on for ever, has no end. -/
inductive Search (counting : Counting) (used : List String) (base : String) :
    Attempt → (retries : Nat) → (stem : String) → Prop
  | found {attempt : Attempt} (hfree : isFree used attempt.stem) :
    Search counting used base attempt 0 attempt.stem
  | again {attempt after : Attempt} {k : Nat} {stem : String} (hbusy : isFree used attempt.stem = false)
    (hretry : attempt.retry counting base = some after) (hrest : Search counting used base after k stem) :
    Search counting used base attempt (k + 1) stem

variable {attempt : Attempt}

/-- The attempts as long as the count does not leave its word. -/
def attemptAt (base : String) (k : Nat) : Attempt :=
  ⟨candidate base k, Int32.ofNat (k + 2)⟩

theorem retry_attemptAt (h : k + 2 ≤ counting.limit) :
    (attemptAt base k).retry counting base = some (attemptAt base (k + 1)) := by
  rw [Attempt.retry, attemptAt, next_ofNat h, toString_ofNat h]
  rfl

/-- The search goes on to the first candidate that is free. -/
theorem search_attemptAt {j : Nat} (hfree : isFree used (candidate base (k + j)))
    (hbusy : ∀ i < k + j, isFree used (candidate base i) = false) (hlimit : k + j < counting.limit) :
    Search counting used base (attemptAt base k) j (candidate base (k + j)) := by
  induction j generalizing k with
  | zero => exact .found hfree
  | succ j ih =>
    have hindex : k + (j + 1) = k + 1 + j := by omega
    rw [hindex] at hfree hbusy hlimit ⊢
    exact .again (hbusy k (by omega)) (retry_attemptAt (by omega)) (ih hfree hbusy hlimit)

/-- A stem that is found is the one that was tried first, or a number stands behind it that has one after
it. -/
theorem stem_of_search (h : Search counting used base attempt k stem) :
    stem = attempt.stem ∨ ∃ word next, counting.next word = some next ∧ stem = base ++ toString word := by
  induction h with
  | found => exact .inl rfl
  | @again attempt after k stem hbusy hretry hrest ih =>
    obtain ⟨next, hnext, rfl⟩ := Option.map_eq_some_iff.mp hretry
    rcases ih with rfl | hnumbered
    · exact .inr ⟨attempt.number, next, hnext, rfl⟩
    · exact .inr hnumbered

/-! ## The stem that is found -/

/-- A stem and the names made from it are all free. -/
def Frees (used : List String) (stem : String) : Prop :=
  ∀ name ∈ names stem, name ∉ used

theorem not_frees_iff : ¬ Frees used stem ↔ isFree used stem = false := by
  rw [← Bool.not_eq_true]
  exact not_congr isFree_iff.symm

/-- The natural stem for an id is free, or a number that the count can come to makes it so. -/
def Fits (counting : Counting) (used : List String) (id : String) : Prop :=
  Frees used (Naming.typeName id) ∨
    ∃ n, 2 ≤ n ∧ n ≤ counting.limit ∧ Frees used (numbered (Naming.typeName id) n)

/-- The search for the stem of an id when names are used: it ends after so many retries, with a stem. -/
structure Searches (counting : Counting) (used : List String) (id : String) (retries : Nat)
    (stem : String) : Prop where
  /-- The natural stem is tried first, and the numbers are counted from two. -/
  ends : Search counting used (Naming.typeName id) ⟨Naming.typeName id, 2⟩ retries stem
  /-- There are no more retries than used names. -/
  bounded : retries ≤ used.toFinset.card
  /-- The natural stem is taken if it is free. -/
  natural : Frees used (Naming.typeName id) → stem = Naming.typeName id
  /-- Else the least number that makes the stem free stands behind it. -/
  least : ¬ Frees used (Naming.typeName id) →
    ∃ n, IsLeast {n | 2 ≤ n ∧ Frees used (numbered (Naming.typeName id) n)} n ∧
      stem = numbered (Naming.typeName id) n

theorem fits_of_searches (h : Searches counting used id k stem) : Fits counting used id := by
  by_cases hnatural : Frees used (Naming.typeName id)
  · exact .inl hnatural
  · obtain ⟨n, ⟨⟨hn, hfree⟩, -⟩, rfl⟩ := h.least hnatural
    refine .inr ⟨n, hn, ?_, hfree⟩
    rcases stem_of_search h.ends with hstem | ⟨word, next, hnext, hstem⟩
    · -- the natural stem is not free
      rw [hstem] at hfree
      exact absurd hfree hnatural
    · have hword : toString word = toString n := (append_right_injective _ hstem).symm
      exact le_limit_of_next (toInt_eq_of_toString_eq hword) hnext

/-- No number is passed over that would have done. -/
theorem index_lt_limit (hfits : Fits counting used id)
    (hbusy : ∀ j < k, isFree used (candidate (Naming.typeName id) j) = false) : k < counting.limit := by
  refine Nat.lt_of_not_le fun hle => ?_
  rcases hfits with hnatural | ⟨n, hn, hlimit, hfree⟩
  · have hpos := one_lt_limit counting
    exact not_frees_iff.mpr (hbusy 0 (by omega)) hnatural
  · obtain ⟨j, rfl⟩ := Nat.exists_eq_add_of_le' hn
    exact not_frees_iff.mpr (hbusy (j + 1) (by omega)) hfree

theorem exists_searches (hfits : Fits counting used id) :
    ∃ retries, Searches counting used id retries (allocate used id) := by
  obtain ⟨k, hk, hstem, hfree, hbusy⟩ := exists_allocate_eq_candidate used id
  have hlimit := index_lt_limit hfits hbusy
  refine ⟨k, ?_, hk, fun hnatural => ?_, fun hnatural => ?_⟩
  · rw [← Nat.zero_add k] at hfree hbusy hlimit
    have hsearch := search_attemptAt hfree hbusy hlimit
    rw [Nat.zero_add, ← hstem] at hsearch
    exact hsearch
  · cases k with
    | zero => exact hstem
    | succ k => exact absurd hnatural (not_frees_iff.mpr (hbusy 0 (Nat.zero_lt_succ k)))
  · cases k with
    | zero => exact absurd (isFree_iff.mp hfree) hnatural
    | succ k =>
      refine ⟨k + 2, ⟨⟨Nat.le_add_left 2 k, isFree_iff.mp hfree⟩, ?_⟩, hstem⟩
      rintro n ⟨hn, hnfree⟩
      refine Nat.le_of_not_lt fun hlt => ?_
      -- a smaller number belongs to a candidate that was tried before
      obtain ⟨j, rfl⟩ := Nat.exists_eq_add_of_le' hn
      exact not_frees_iff.mpr (hbusy (j + 1) (by omega)) hnfree

/-- Each used name stands in the way of one number at most, so with fewer of them one is left. -/
theorem fits_of_card_lt (h : used.toFinset.card < counting.limit) : Fits counting used id := by
  obtain ⟨k, hk, -, hfree, -⟩ := exists_allocate_eq_candidate used id
  cases k with
  | zero => exact .inl (isFree_iff.mp hfree)
  | succ k => exact .inr ⟨k + 2, Nat.le_add_left 2 k, by omega, isFree_iff.mp hfree⟩

/-- The search for a stem ends, and with the least number that will do, if and only if the count can come to
that number. With fewer used names than the count has numbers it can. -/
theorem searches_iff (counting : Counting) (used : List String) (id : String) :
    ((∃ retries, Searches counting used id retries (allocate used id)) ↔ Fits counting used id) ∧
      (used.toFinset.card < counting.limit →
        ∃ retries, Searches counting used id retries (allocate used id)) :=
  ⟨⟨fun ⟨_, hsearches⟩ => fits_of_searches hsearches, exists_searches⟩,
    fun hcard => exists_searches (fits_of_card_lt hcard)⟩

/-! ## Names that use up all numbers -/

/-- A stem and that stem with so many numbers, counted from two. -/
def usedUp (base : String) (numbers : Nat) : List String :=
  base :: (List.range numbers).map fun n => numbered base (n + 2)

theorem not_fits_usedUp {numbers : Nat} (h : counting.limit < numbers + 2) :
    ¬ Fits counting (usedUp (Naming.typeName id) numbers) id := by
  rintro (hnatural | ⟨n, hn, hlimit, hfree⟩)
  · exact hnatural _ List.mem_cons_self List.mem_cons_self
  · obtain ⟨j, rfl⟩ := Nat.exists_eq_add_of_le' hn
    refine hfree _ List.mem_cons_self (List.mem_cons_of_mem _ ?_)
    exact List.mem_map_of_mem (List.mem_range.mpr (by omega))

/-- With all numbers in use that a word can hold, no search comes to the least number that is not. -/
theorem not_searches_usedUp :
    (¬ ∃ retries stem,
      Searches .checked (usedUp (Naming.typeName "pet") (2 ^ 31 - 2)) "pet" retries stem) ∧
    ¬ ∃ retries stem,
      Searches .wrapping (usedUp (Naming.typeName "pet") (2 ^ 31 - 2)) "pet" retries stem := by
  refine ⟨?_, ?_⟩
  · rintro ⟨retries, stem, h⟩
    exact not_fits_usedUp (by decide) (fits_of_searches h)
  · rintro ⟨retries, stem, h⟩
    exact not_fits_usedUp (by decide) (fits_of_searches h)

end TypedClient.TypeScript.Stem
