import TypedClient.Text.Word
import Mathlib

/-!
# Words of a name

Cutting a name into words drops its separators and nothing else (`Text.flatten_words`), and no word is
empty (`Text.ne_nil_of_mem_words`). In ASCII a word keeps its letters when it is capitalized, up to their
case, so Pascal case keeps the letters and digits of a name in their order
(`Text.map_toLower_pascalCase`), and no lower-case letter comes first (`Text.head?_pascalCase`). In any
script no separator of ASCII gets into Pascal case (`Text.isWordChar_of_mem_pascalCase`).
-/

namespace TypedClient.Text

variable {c : Char} {cs word piece : List Char} {hump : Hump}

/-! ## Cutting -/

/-- Cutting a piece at its humps drops nothing. -/
theorem flatten_humps (hump : Hump) (word cs : List Char) :
    (humps hump word cs).flatten = word.reverse ++ cs := by
  fun_induction humps hump word cs with
  | case1 hump word hempty => simp [List.isEmpty_iff.mp hempty]
  | case2 hump word => simp
  | case3 hump word c => simp
  | case4 hump word c d rest _ ih =>
    rw [List.flatten_cons, ih]
    simp
  | case5 hump word c d rest _ _ ih =>
    rw [List.flatten_cons, ih]
    simp
  | case6 hump word c d rest _ _ ih =>
    rw [ih]
    simp

/-- What is cut off before a capital is not empty, for capitals are in front of it. -/
theorem ne_nil_of_mem_humps (hword : hump = .upper → word ≠ []) (h : cs ∈ humps hump word piece) :
    cs ≠ [] := by
  fun_induction humps hump word piece with
  | case1 hump word hempty => exact absurd h List.not_mem_nil
  | case2 hump word hempty =>
    obtain rfl := List.mem_singleton.mp h
    simpa using hempty
  | case3 hump word c =>
    obtain rfl := List.mem_singleton.mp h
    simp
  | case4 hump word c d rest _ ih =>
    rcases List.mem_cons.mp h with rfl | h
    · simp
    · exact ih nofun h
  | case5 hump word c d rest _ hcut ih =>
    rcases List.mem_cons.mp h with rfl | h
    · simp only [Bool.and_eq_true, decide_eq_true_eq] at hcut
      simpa using hword hcut.1.1
    · exact ih (fun _ => List.cons_ne_nil _ _) h
  | case6 hump word c d rest _ _ ih => exact ih (fun _ => List.cons_ne_nil _ _) h

/-- Cutting at separators drops these and nothing else. -/
theorem flatten_piecesFrom (piece cs : List Char) :
    (piecesFrom piece cs).flatten = piece.reverse ++ cs.filter isAlphanumeric := by
  fun_induction piecesFrom piece cs with
  | case1 piece hempty => simp [List.isEmpty_iff.mp hempty]
  | case2 piece => simp
  | case3 piece c cs hc ih =>
    rw [ih, List.filter_cons_of_pos hc]
    simp
  | case4 piece c cs hc hempty ih =>
    rw [ih, List.filter_cons_of_neg hc, List.isEmpty_iff.mp hempty]
  | case5 piece c cs hc _ ih =>
    rw [List.flatten_cons, ih, List.filter_cons_of_neg hc]
    rfl

/-- The words of a name are its letters and numbers in their order. -/
theorem flatten_words (cs : List Char) : (words cs).flatten = cs.filter isAlphanumeric := by
  have hpieces : (fun piece => (humps .start [] piece).flatMap id) = id := by
    funext piece
    rw [← List.flatten_eq_flatMap, flatten_humps]
    rfl
  rw [words, List.flatten_eq_flatMap, List.flatMap_assoc, hpieces, ← List.flatten_eq_flatMap,
    flatten_piecesFrom]
  rfl

/-- No word is empty. -/
theorem ne_nil_of_mem_words (h : word ∈ words cs) : word ≠ [] := by
  obtain ⟨piece, -, hword⟩ := List.mem_flatMap.mp h
  have hstart : Hump.start = .upper → ([] : List Char) ≠ [] := nofun
  exact ne_nil_of_mem_humps hstart hword

/-- The characters of a word come from the name. -/
theorem mem_of_mem_words (h : word ∈ words cs) (hc : c ∈ word) : c ∈ cs := by
  have hmem : c ∈ (words cs).flatten := List.mem_flatten.mpr ⟨word, h, hc⟩
  rw [flatten_words] at hmem
  exact List.mem_of_mem_filter hmem

/-! ## ASCII -/

/-- All characters are ASCII. -/
def IsAscii (cs : List Char) : Prop :=
  ∀ c ∈ cs, c.toNat < 0x80

/-- In ASCII the letters and numbers are those of ASCII. -/
theorem filter_of_isAscii (h : IsAscii cs) : cs.filter isAlphanumeric = cs.filter Char.isAlphanum :=
  List.filter_congr fun c hc => if_pos (h c hc)

theorem toLower_of_lt (h : c.toNat < 0x80) : toLower c = [c.toLower] :=
  if_pos h

/-- In ASCII each character has a lower-case form of its own. -/
theorem lowered_of_isAscii (h : IsAscii cs) : lowered cs = cs.map Char.toLower := by
  fun_induction lowered cs with
  | case1 => rfl
  | case2 => exact absurd (h 'Σ' List.mem_cons_self) (by decide)
  | case3 c _ => exact toLower_of_lt (h c List.mem_cons_self)
  | case4 c cs _ ih =>
    obtain ⟨hc, hcs⟩ := List.forall_mem_cons.mp h
    rw [toLower_of_lt hc, ih hcs]
    rfl

/-- A word in ASCII gets a capital letter in front and lower-case letters behind it. -/
theorem capitalized_of_isAscii (h : IsAscii (c :: cs)) :
    capitalized (c :: cs) = c.toUpper :: cs.map Char.toLower := by
  obtain ⟨hc, hcs⟩ := List.forall_mem_cons.mp h
  have hupper : toUpper c = [c.toUpper] := if_pos hc
  rw [capitalized, hupper, lowered_of_isAscii hcs]
  rfl

/-- In ASCII capitalizing a word changes the case of letters only. -/
theorem map_toLower_capitalized (h : IsAscii cs) :
    (capitalized cs).map Char.toLower = cs.map Char.toLower := by
  cases cs with
  | nil => rfl
  | cons c cs =>
    have htwice : Char.toLower ∘ Char.toLower = Char.toLower := by
      funext d
      exact Char.toLower_toLower_eq_toLower d
    rw [capitalized_of_isAscii h, List.map_cons, List.map_map, htwice, Char.toLower_toUpper_eq_toLower,
      List.map_cons]

/-- A change to lower case makes no letter or digit of another character, nor the other way. -/
theorem isAlphanum_toLower (c : Char) : c.toLower.isAlphanum = c.isAlphanum := by
  by_cases hupper : c.isUpper
  · have halpha : c.isAlpha := by rw [Char.isAlpha, hupper, Bool.true_or]
    rw [Char.isAlphanum, Char.isAlphanum, Char.isAlpha_toLower_eq_isAlpha, halpha, Bool.true_or,
      Bool.true_or]
  · rw [Char.toLower_eq_of_not_isUpper hupper]

/-- Neither does one to upper case. -/
theorem isAlphanum_toUpper (c : Char) : c.toUpper.isAlphanum = c.isAlphanum := by
  rw [← isAlphanum_toLower c.toUpper, Char.toLower_toUpper_eq_toLower, isAlphanum_toLower]

/-! ## Pascal case in ASCII -/

/-- The letters and digits of characters in their order, the letters in lower case. -/
def folded (cs : List Char) : List Char :=
  (cs.filter Char.isAlphanum).map Char.toLower

/-- In Pascal case a name keeps its letters and digits, up to the case of the letters. -/
theorem map_toLower_pascalCase (h : IsAscii cs) : (pascalCase cs).map Char.toLower = folded cs := by
  have hwords : ∀ word ∈ words cs, (capitalized word).map Char.toLower = word.map Char.toLower :=
    fun word hword => map_toLower_capitalized fun c hc => h c (mem_of_mem_words hword hc)
  calc (pascalCase cs).map Char.toLower
      = (words cs).flatMap fun word => (capitalized word).map Char.toLower := by
        rw [pascalCase, List.map_flatMap]
    _ = (words cs).flatMap fun word => word.map Char.toLower := List.flatMap_congr hwords
    _ = (words cs).flatten.map Char.toLower := by rw [List.flatten_eq_flatMap, List.map_flatMap]; rfl
    _ = folded cs := by rw [flatten_words, filter_of_isAscii h, folded]

/-- Pascal case leaves letters and digits only. -/
theorem isAlphanum_of_mem_pascalCase (h : IsAscii cs) (hc : c ∈ pascalCase cs) : c.isAlphanum := by
  have hmem : c.toLower ∈ folded cs := by
    rw [← map_toLower_pascalCase h]
    exact List.mem_map_of_mem hc
  obtain ⟨d, hd, hlower⟩ := List.mem_map.mp hmem
  rw [← isAlphanum_toLower c, ← hlower, isAlphanum_toLower]
  exact List.of_mem_filter hd

/-- The first letter of a name in Pascal case is a capital one. -/
theorem head?_pascalCase (h : IsAscii cs) (hc : c ∈ (pascalCase cs).head?) : c.toUpper = c := by
  cases hwords : words cs with
  | nil =>
    rw [pascalCase, hwords] at hc
    cases hc
  | cons word rest =>
    have hmem : word ∈ words cs := hwords ▸ List.mem_cons_self
    obtain ⟨d, ds, rfl⟩ := List.exists_cons_of_ne_nil (ne_nil_of_mem_words hmem)
    have hascii : IsAscii (d :: ds) := fun e he => h e (mem_of_mem_words hmem he)
    rw [pascalCase, hwords, List.flatMap_cons, capitalized_of_isAscii hascii] at hc
    obtain rfl := Option.some.inj hc
    exact Char.toUpper_toUpper_eq_toUpper d

/-! ## Any script -/

/-- No character of ASCII but a letter or a digit. -/
def IsWordChar (c : Char) : Prop :=
  c.toNat < 0x80 → c.isAlphanum

theorem isWordChar_of_isAlphanum (h : c.isAlphanum) : IsWordChar c :=
  fun _ => h

/-- Letters and numbers of any script are such characters. -/
theorem isWordChar_of_isAlphanumeric (h : isAlphanumeric c) : IsWordChar c := by
  intro hascii
  rwa [isAlphanumeric, if_pos hascii] at h

/-- A run of a table does not lead into ASCII, but for single characters that become letters. -/
def KeepsWords (s : Letter.Shift) : Prop :=
  (0x80 ≤ s.run.first + s.distance ∧ s.run.last + s.distance < 0xD800) ∨
    (0xDFFF < s.run.first + s.distance ∧ s.run.last + s.distance < 0x110000) ∨
    (s.run.first = s.run.last ∧ (Char.ofNat (s.run.first + s.distance).toNat).isAlphanum)

instance : DecidablePred KeepsWords := fun s => by
  unfold KeepsWords
  infer_instance

theorem keepsWords_toUpper : ∀ s ∈ Letter.toUpper, KeepsWords s := by
  decide +kernel

theorem keepsWords_toLower : ∀ s ∈ Letter.toLower, KeepsWords s := by
  decide +kernel

/-- So is every character beyond ASCII. -/
theorem isWordChar_ofNat {n : Nat} (hn : 0x80 ≤ n) (hvalid : n.isValidChar) : IsWordChar (Char.ofNat n) := by
  intro hascii
  rw [Char.toNat_ofNat, if_pos hvalid] at hascii
  omega

/-- A table moves such characters to such characters. -/
theorem isWordChar_shift {shifts : List Letter.Shift} (hshifts : ∀ s ∈ shifts, KeepsWords s)
    (hc : IsWordChar c) : IsWordChar (shift shifts c) := by
  rw [shift]
  split
  next s hfind =>
    have hrun := List.find?_some hfind
    simp only [Letter.Run.contains, Bool.and_eq_true, decide_eq_true_eq] at hrun
    obtain ⟨⟨hfirst, hlast⟩, -⟩ := hrun
    rcases hshifts s (List.mem_of_find?_eq_some hfind) with ⟨hlow, hhigh⟩ | ⟨hlow, hhigh⟩ | ⟨hsingle, hletter⟩
    · exact isWordChar_ofNat (by omega) (.inl (by omega))
    · exact isWordChar_ofNat (by omega) (.inr (by omega))
    · have honly : c.toNat = s.run.first := by omega
      rw [honly]
      exact isWordChar_of_isAlphanum hletter
  next => exact hc

/-- The upper-case forms of several characters have no character of ASCII but letters. -/
theorem isWordChar_toUpperSeveral :
    ∀ entry ∈ Letter.toUpperSeveral, ∀ n ∈ entry.2, IsWordChar (Char.ofNat n) := by
  unfold IsWordChar
  decide +kernel

/-- So does the change to upper case, which may give several characters. -/
theorem isWordChar_toUpper (hc : IsWordChar c) : ∀ d ∈ toUpper c, IsWordChar d := by
  rw [toUpper]
  split
  next hascii =>
    rw [List.forall_mem_singleton]
    exact isWordChar_of_isAlphanum ((isAlphanum_toUpper c).trans (hc hascii))
  next =>
    split
    next several hseveral =>
      intro d hd
      obtain ⟨n, hn, rfl⟩ := List.mem_map.mp hd
      obtain ⟨before, behind, htable, -⟩ := List.lookup_eq_some_iff.mp hseveral
      have hentry : (c.toNat, several) ∈ Letter.toUpperSeveral :=
        htable ▸ List.mem_append_right before List.mem_cons_self
      exact isWordChar_toUpperSeveral _ hentry n hn
    next =>
      rw [List.forall_mem_singleton]
      exact isWordChar_shift keepsWords_toUpper hc

/-- So does the change to lower case. -/
theorem isWordChar_toLower (hc : IsWordChar c) : ∀ d ∈ toLower c, IsWordChar d := by
  rw [toLower]
  split
  next hascii =>
    rw [List.forall_mem_singleton]
    exact isWordChar_of_isAlphanum ((isAlphanum_toLower c).trans (hc hascii))
  next =>
    split
    next => simp [IsWordChar]
    next =>
      rw [List.forall_mem_singleton]
      exact isWordChar_shift keepsWords_toLower hc

/-- So it is with the final sigma of a word. -/
theorem isWordChar_lowered (h : ∀ c ∈ cs, IsWordChar c) : ∀ c ∈ lowered cs, IsWordChar c := by
  fun_induction lowered cs with
  | case1 => exact h
  | case2 => simp [IsWordChar]
  | case3 c _ => exact isWordChar_toLower (h c List.mem_cons_self)
  | case4 c cs _ ih =>
    obtain ⟨hc, hcs⟩ := List.forall_mem_cons.mp h
    exact List.forall_mem_append.mpr ⟨isWordChar_toLower hc, ih hcs⟩

/-- A capitalized word has such characters only. -/
theorem isWordChar_capitalized (h : ∀ c ∈ cs, IsWordChar c) : ∀ c ∈ capitalized cs, IsWordChar c := by
  cases cs with
  | nil => exact h
  | cons c cs =>
    obtain ⟨hc, hcs⟩ := List.forall_mem_cons.mp h
    exact List.forall_mem_append.mpr ⟨isWordChar_toUpper hc, isWordChar_lowered hcs⟩

/-- Whatever a name has in it, of ASCII only letters and digits get into its Pascal case. -/
theorem isWordChar_of_mem_pascalCase (hc : c ∈ pascalCase cs) : IsWordChar c := by
  obtain ⟨word, hword, hc⟩ := List.mem_flatMap.mp hc
  refine isWordChar_capitalized (fun d hd => ?_) c hc
  have hmem : d ∈ (words cs).flatten := List.mem_flatten.mpr ⟨word, hword, hd⟩
  rw [flatten_words] at hmem
  exact isWordChar_of_isAlphanumeric (List.of_mem_filter hmem)

end TypedClient.Text
