import TypedClient.Json.Reader

/-!
# More room for containers

What a reader reads that may open some containers is read as the same value by one that may open more
(`Json.value_of_le`).
-/

namespace TypedClient.Json

mutual

/-- A value is read as the same one with more room. -/
theorem value_of_le {fuel room more : Nat} {cs rest : List Char} {v : Json} (hle : room ≤ more)
    (h : value fuel room cs = .ok (v, rest)) : value fuel more cs = .ok (v, rest) := by
  match fuel with
  | 0 => cases h
  | fuel + 1 =>
    rw [value.eq_def] at h ⊢
    dsimp only at h ⊢
    split at h
    -- a string
    next => exact h
    -- an array
    next =>
      match room, more with
      | 0, _ => cases h
      | room + 1, more + 1 =>
        have hless : room ≤ more := Nat.le_of_succ_le_succ hle
        dsimp only at h ⊢
        split at h
        next => exact h
        next =>
          split at h
          next hitems => rwa [items_of_le hless hitems]
          next => cases h
    -- an object
    next =>
      match room, more with
      | 0, _ => cases h
      | room + 1, more + 1 =>
        have hless : room ≤ more := Nat.le_of_succ_le_succ hle
        dsimp only at h ⊢
        split at h
        next => exact h
        next =>
          split at h
          next hentries => rwa [entries_of_le hless hentries]
          next => cases h
    -- a keyword or a number
    next => exact h

/-- Items are read as the same ones with more room. -/
theorem items_of_le {fuel room more : Nat} {cs rest : List Char} {list : List Json} (hle : room ≤ more)
    (h : items fuel room cs = .ok (list, rest)) : items fuel more cs = .ok (list, rest) := by
  match fuel with
  | 0 => cases h
  | fuel + 1 =>
    rw [items] at h ⊢
    split at h
    next => cases h
    next hitem =>
      rw [value_of_le hle hitem]
      dsimp only
      split at h
      next => exact h
      next =>
        split at h
        next hothers => rwa [items_of_le hle hothers]
        next => cases h
      next => cases h

/-- Entries are read as the same ones with more room. -/
theorem entries_of_le {fuel room more : Nat} {cs rest : List Char} {list : Entries} (hle : room ≤ more)
    (h : entries fuel room cs = .ok (list, rest)) : entries fuel more cs = .ok (list, rest) := by
  match fuel with
  | 0 => cases h
  | fuel + 1 =>
    rw [entries] at h ⊢
    split at h
    next => cases h
    next =>
      split at h
      next => cases h
      next hitem =>
        rw [value_of_le hle hitem]
        dsimp only
        split at h
        next => exact h
        next =>
          split at h
          next hothers => rwa [entries_of_le hle hothers]
          next => cases h
        next => cases h

end

end TypedClient.Json
