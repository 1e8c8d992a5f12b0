import TypedClient.Proofs.Cache.Found

/-!
# A cache behind calls that were cut short

The cache tells by the record whether a document is unchanged, but gives back the document that lies in
the other file. A call that is cut short between the two writes leaves a document there that the record
is not about, so what counts as unchanged may come with another document
(`Cache.not_hitsRight_between`). It comes with the right one if and only if the last calls that wrote the
two files were about the same document (`Cache.hitsRight_iff`), as they were if no call was cut short there
(`Cache.hitsRight_of_noneBetween`).
-/

namespace TypedClient.Cache

open Files (Node Path)

variable {world : World} {dir : Path} {doc : Document} {attempts : List Attempt} {attempt : Attempt}

/-- If a document counts as unchanged, the cache gives back that document. -/
def HitsRight (world : World) (dir : Path) (doc : Document) : Prop :=
  ∀ hit warnings, (world.run (lookup dir doc.fingerprint)).1 = (hit, warnings) →
    hit.unchanged → hit.previous = some doc

/-- Calls on a cache without a record, each with the digest of its document. -/
structure Trial (world : World) (dir : Path) (attempts : List Attempt) : Prop where
  root : world.files.IsDirectory []
  fresh : world.files.fileAt? (recordPath dir).address = none
  exact : ∀ attempt ∈ attempts, attempt.doc.Exact
  honest : ∀ attempt ∈ attempts, attempt.record.hash = attempt.doc.fingerprint

/-- A document that counts as unchanged is found with a record of its digest. -/
theorem hitsRight_iff_finds : HitsRight world dir doc ↔ ∀ found record,
    Finds world.files dir found record → record.hash = doc.fingerprint → found = doc := by
  constructor
  · intro hright found record hfinds hhash
    have hlookup := hfinds.run_lookup doc.fingerprint
    have hsame : some found = some doc :=
      hright _ _ (congrArg Prod.fst hlookup) (decide_eq_true hhash.symm)
    exact Option.some.inj hsame
  · intro hright hit warnings hlookup hunchanged
    obtain ⟨result, hrun, hknown⟩ := run_lookup world dir doc.fingerprint
    rw [hrun] at hlookup
    obtain rfl : result = (hit, warnings) := hlookup
    obtain ⟨⟨text, found, htext, hfound⟩, own, record, hown, hrecord, hhash⟩ := hknown.mp hunchanged
    have hfinds : Finds world.files dir found record := ⟨⟨text, htext, hfound⟩, own, hown, hrecord⟩
    obtain rfl := hright found record hfinds hhash
    rw [hfinds.run_lookup] at hrun
    obtain rfl : _ = hit := congrArg Prod.fst (Prod.mk.inj hrun).1
    rfl

namespace Trial

variable (h : Trial world dir attempts)

include h

/-- What is found after the calls was written by the last ones that wrote the two files. -/
theorem finds_iff {found : Document} {record : Record} :
    Finds (finishAll dir world attempts).files dir found record ↔
      ∃ writer keeper, lastDocument dir world attempts = some writer ∧
        lastRecord dir world attempts = some keeper ∧
        Document.ofJsonText writer.doc.canonical = .ok found ∧ record = keeper.record := by
  have hspec : (finishAll dir world attempts).files.fileAt? (specPath dir).address = _ :=
    fileAt?_specPath_finishAll h.root
  have hkept : (finishAll dir world attempts).files.fileAt? (recordPath dir).address = _ :=
    fileAt?_recordPath_finishAll h.root
  constructor
  · intro hfinds
    obtain ⟨text, htext, hrecord⟩ := hfinds.record
    cases hkeeper : lastRecord dir world attempts with
    | none =>
      -- no record was there, and none was written
      obtain ⟨content, hcontent, -⟩ := Node.fileAt?_of_readText htext
      rw [hkept, hkeeper, h.fresh] at hcontent
      cases hcontent
    | some keeper =>
      obtain ⟨writer, hwriter⟩ := exists_lastDocument hkeeper
      have hpaved := paved_finishAll h.root hwriter
      rw [hwriter] at hspec
      rw [hkeeper] at hkept
      refine ⟨writer, keeper, hwriter, rfl, ?_, ?_⟩
      · obtain ⟨own, hown, hfound⟩ := hfinds.document
        rw [readText_specPath hpaved hspec] at hown
        cases hown
        exact hfound
      · rw [readText_recordPath hpaved hkept] at htext
        cases htext
        rw [keeper.record.parse_render] at hrecord
        exact (Except.ok.inj hrecord).symm
  · rintro ⟨writer, keeper, hwriter, hkeeper, hfound, rfl⟩
    have hpaved := paved_finishAll h.root hwriter
    rw [hwriter] at hspec
    rw [hkeeper] at hkept
    exact ⟨⟨_, readText_specPath hpaved hspec, hfound⟩,
      ⟨_, readText_recordPath hpaved hkept, keeper.record.parse_render⟩⟩

end Trial

/-- Whatever calls were made, and wherever they were cut short: what counts as unchanged comes with the
right document if and only if, where the last call that wrote its record was about that document, the last
call that wrote its document was so too, or has left a document that cannot be read. -/
theorem hitsRight_iff (h : Trial world dir attempts) (hdoc : doc.Exact)
    (hdistinct : ∀ attempt ∈ attempts, attempt.doc.fingerprint = doc.fingerprint →
      attempt.doc.canonical = doc.canonical) :
    HitsRight (finishAll dir world attempts) dir doc ↔
      ∀ writer keeper, lastDocument dir world attempts = some writer →
        lastRecord dir world attempts = some keeper → keeper.doc = doc →
        writer.doc = doc ∨ ∀ found, Document.ofJsonText writer.doc.canonical ≠ .ok found := by
  rw [hitsRight_iff_finds]
  constructor
  · rintro hright writer keeper hwriter hkeeper rfl
    have hmem := mem_of_lastReaching hkeeper
    have hexact := h.exact writer (mem_of_lastReaching hwriter)
    by_contra hneither
    simp only [not_or, not_forall, not_not] at hneither
    obtain ⟨hne, found, hfound⟩ := hneither
    obtain rfl := hexact.eq_of_ofJsonText hfound
    exact hne (hright _ _ (h.finds_iff.mpr ⟨writer, keeper, hwriter, hkeeper, hfound, rfl⟩)
      (h.honest keeper hmem))
  · intro hsame found record hfinds hhash
    obtain ⟨writer, keeper, hwriter, hkeeper, hfound, rfl⟩ := h.finds_iff.mp hfinds
    have hmem := mem_of_lastReaching hkeeper
    rw [h.honest keeper hmem] at hhash
    have hkeeperdoc := (h.exact keeper hmem).eq_of_canonical hdoc (hdistinct keeper hmem hhash)
    have hexact := h.exact writer (mem_of_lastReaching hwriter)
    rcases hsame writer keeper hwriter hkeeper hkeeperdoc with hwriterdoc | hunread
    · exact (hexact.eq_of_ofJsonText hfound).trans hwriterdoc
    · exact absurd hfound (hunread found)

/-- Without a call that was cut short between its two writes, what counts as unchanged comes with the
right document. -/
theorem hitsRight_of_noneBetween (h : Trial world dir attempts) (hdoc : doc.Exact)
    (hdistinct : ∀ attempt ∈ attempts, attempt.doc.fingerprint = doc.fingerprint →
      attempt.doc.canonical = doc.canonical)
    (hnone : NoneBetween dir world attempts) :
    HitsRight (finishAll dir world attempts) dir doc := by
  refine hitsRight_iff_finds.mpr fun found record hfinds hhash => ?_
  obtain ⟨writer, keeper, hwriter, hkeeper, hfound, rfl⟩ := h.finds_iff.mp hfinds
  rw [lastDocument_eq_lastRecord hnone, hkeeper] at hwriter
  obtain rfl := Option.some.inj hwriter
  have hmem := mem_of_lastReaching hkeeper
  rw [h.honest keeper hmem] at hhash
  rw [(h.exact keeper hmem).eq_of_ofJsonText hfound]
  exact (h.exact keeper hmem).eq_of_canonical hdoc (hdistinct keeper hmem hhash)

/-! ## Two documents -/

/-- A document without an entry. -/
def bareDocument : Document := ⟨.object []⟩

/-- A document with an entry. -/
def otherDocument : Document := ⟨.object [("a", .null)]⟩

theorem exact_bareDocument : bareDocument.Exact := by
  refine ⟨⟨⟨_, rfl⟩, ?_, ?_⟩, ?_⟩
  · simp [bareDocument, Json.DistinctKeys, Json.DistinctKeysEntries]
  · simp [bareDocument, Json.AllNumbers, Json.AllNumbersEntries]
  · simp [bareDocument, Json.AllNumbers, Json.AllNumbersEntries]

theorem exact_otherDocument : otherDocument.Exact := by
  refine ⟨⟨⟨_, rfl⟩, ?_, ?_⟩, ?_⟩
  · simp [otherDocument, Json.DistinctKeys, Json.DistinctKeysEntries]
  · simp [otherDocument, Json.AllNumbers, Json.AllNumbersEntries]
  · simp [otherDocument, Json.AllNumbers, Json.AllNumbersEntries]

/-- A call that keeps the first document. -/
def wholeCall : Attempt :=
  ⟨bareDocument, ⟨bareDocument.fingerprint, "", ""⟩, 2⟩

/-- A call for the second document, cut short after some writes. -/
def cutCall (writes : Nat) : Attempt :=
  ⟨otherDocument, ⟨otherDocument.fingerprint, "", ""⟩, writes⟩

theorem trial_calls (writes : Nat) :
    Trial (.ofFiles .empty) ⟨[".acg"]⟩ [wholeCall, cutCall writes] where
  root := rfl
  fresh := by decide +kernel
  exact := List.forall_mem_cons.mpr
    ⟨exact_bareDocument, List.forall_mem_singleton.mpr exact_otherDocument⟩
  honest := by
    intro attempt hattempt
    rcases List.mem_pair.mp hattempt with rfl | rfl
    · rw [wholeCall]
    · rw [cutCall]

theorem distinct_calls (writes : Nat) : ∀ attempt ∈ [wholeCall, cutCall writes],
    attempt.doc.fingerprint = bareDocument.fingerprint →
      attempt.doc.canonical = bareDocument.canonical := by
  have hne : otherDocument.fingerprint ≠ bareDocument.fingerprint := by decide +kernel
  intro attempt hattempt hsame
  rcases List.mem_pair.mp hattempt with rfl | rfl
  · rw [wholeCall]
  · rw [cutCall] at hsame
    exact absurd hsame hne

/-- If the second call is cut short before it writes anything, the first document is found. -/
theorem hitsRight_iff_before :
    Trial (.ofFiles .empty) ⟨[".acg"]⟩ [wholeCall, cutCall 0] ∧ bareDocument.Exact ∧
      (∀ attempt ∈ [wholeCall, cutCall 0], attempt.doc.fingerprint = bareDocument.fingerprint →
        attempt.doc.canonical = bareDocument.canonical) ∧
      HitsRight (finishAll ⟨[".acg"]⟩ (.ofFiles .empty) [wholeCall, cutCall 0]) ⟨[".acg"]⟩
        bareDocument := by
  have hcounts : wholeCall.count ⟨[".acg"]⟩ (.ofFiles .empty) ≠ 1 ∧
      (cutCall 0).count ⟨[".acg"]⟩ (wholeCall.finish ⟨[".acg"]⟩ (.ofFiles .empty)) ≠ 1 := by
    decide +kernel
  have hnone : NoneBetween ⟨[".acg"]⟩ (.ofFiles .empty) [wholeCall, cutCall 0] := by
    rw [NoneBetween, NoneBetween, NoneBetween]
    exact ⟨hcounts.1, hcounts.2, trivial⟩
  have hsame := lastDocument_eq_lastRecord hnone
  refine ⟨trial_calls 0, exact_bareDocument, distinct_calls 0,
    (hitsRight_iff (trial_calls 0) exact_bareDocument (distinct_calls 0)).mpr
      fun writer keeper hwriter hkeeper hdoc => ?_⟩
  rw [hsame, hkeeper] at hwriter
  obtain rfl := Option.some.inj hwriter
  exact Or.inl hdoc

/-- If the second call is cut short between its two writes, the first document still counts as unchanged,
but the second one is found. -/
theorem not_hitsRight_between :
    Trial (.ofFiles .empty) ⟨[".acg"]⟩ [wholeCall, cutCall 1] ∧ bareDocument.Exact ∧
      (∀ attempt ∈ [wholeCall, cutCall 1], attempt.doc.fingerprint = bareDocument.fingerprint →
        attempt.doc.canonical = bareDocument.canonical) ∧
      ¬ HitsRight (finishAll ⟨[".acg"]⟩ (.ofFiles .empty) [wholeCall, cutCall 1]) ⟨[".acg"]⟩
        bareDocument := by
  have hfound : ((finishAll ⟨[".acg"]⟩ (.ofFiles .empty) [wholeCall, cutCall 1]).run
        (lookup ⟨[".acg"]⟩ bareDocument.fingerprint)).1.1.unchanged ∧
      ((finishAll ⟨[".acg"]⟩ (.ofFiles .empty) [wholeCall, cutCall 1]).run
        (lookup ⟨[".acg"]⟩ bareDocument.fingerprint)).1.1.previous.map Document.canonical =
          some otherDocument.canonical ∧
      otherDocument.canonical ≠ bareDocument.canonical := by
    decide +kernel
  refine ⟨trial_calls 1, exact_bareDocument, distinct_calls 1, fun hright => ?_⟩
  rw [HitsRight] at hright
  generalize ((finishAll ⟨[".acg"]⟩ (.ofFiles .empty) [wholeCall, cutCall 1]).run
    (lookup ⟨[".acg"]⟩ bareDocument.fingerprint)).1 = found at hfound hright
  obtain ⟨hit, warnings⟩ := found
  obtain ⟨hunchanged, hprevious, hne⟩ := hfound
  rw [hright hit warnings rfl hunchanged] at hprevious
  exact hne (Option.some.inj hprevious).symm

end TypedClient.Cache
