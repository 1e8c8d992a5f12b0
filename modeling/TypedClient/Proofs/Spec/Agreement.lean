import TypedClient.Spec.Issue
import Mathlib.Data.List.Basic

/-!
# Checking and extracting

The check of a document and the extraction of its operations each walk over its paths. `Agrees` relates
what the two have found over the same stretch of slots. It holds of a slot, and it holds of two stretches
one after the other if it holds of each, so it holds of all paths (`exists_agrees_pathIssues`). What the
extraction skips is therefore what the issues of four kinds say (`reportedWarnings_eq_issues`).
-/

namespace TypedClient

/-! ## What issues and outcomes say -/

/-- What the extraction skips where the issue lies, if the issue is of a kind that costs an operation. -/
def Issue.skip? : Issue → Option Skip
  | pathsShape _ => some .paths
  | itemShape path _ => some (.item path)
  | operationShape slot _ => some (.operation slot)
  | unnamed slot => some (.unnamed slot)
  | _ => none

/-- Whether the issue is an id that was given before. -/
def Issue.isDuplicate : Issue → Bool
  | duplicate _ _ _ => true
  | _ => false

/-- What was skipped, if the outcome is no operation. -/
def Skip.ofOutcome? : Except Skip Operation → Option Skip
  | .ok _ => none
  | .error skip => some skip

/-- The operation, if the outcome is one. -/
def Operation.ofOutcome? : Except Skip Operation → Option Operation
  | .ok op => some op
  | .error _ => none

/-- The issue that an operation has the id of one of the given ones, which names the first of them. -/
def Operation.repeat? (known : List Operation) (op : Operation) : Option Issue :=
  (known.find? fun other => other.id = op.id).map fun first => .duplicate op.slot op.id first.slot

/-- The issues that operations have ids of the given ones or of one another. -/
def Operation.repeatsAfter (known : List Operation) : List Operation → List Issue
  | [] => []
  | op :: rest => (Operation.repeat? known op).toList ++ repeatsAfter (known ++ [op]) rest

/-- Operations repeat ids of those known before, or of those in front of them. -/
theorem Operation.repeatsAfter_append (known ops others : List Operation) :
    repeatsAfter known (ops ++ others) = repeatsAfter known ops ++ repeatsAfter (known ++ ops) others := by
  induction ops generalizing known with
  | nil => simp [repeatsAfter]
  | cons op rest ih => simp [repeatsAfter, ih]

@[simp]
theorem Operation.id_ofEntries (doc : Document) (slot : Slot) (id : String) (entries : Json.Entries) :
    (ofEntries doc slot id entries).id = id :=
  rfl

@[simp]
theorem Operation.slot_ofEntries (doc : Document) (slot : Slot) (id : String) (entries : Json.Entries) :
    (ofEntries doc slot id entries).slot = slot :=
  rfl

/-- An issue about something skipped has its pointer. -/
theorem Issue.pointer_of_skip? {issue : Issue} {skip : Skip} (h : issue.skip? = some skip) :
    skip.pointer = issue.pointer := by
  cases issue <;> simp only [skip?, Option.some.injEq, reduceCtorEq] at h <;> subst h <;> rfl

/-- What is skipped lies where the issues do that cost an operation. -/
theorem Issue.map_pointer_filterMap_skip? (issues : List Issue) :
    (issues.filterMap skip?).map Skip.pointer =
      (issues.filter fun issue => issue.skip?.isSome).map pointer := by
  induction issues with
  | nil => rfl
  | cons issue rest ih =>
    cases h : issue.skip? with
    | none =>
      rw [List.filterMap_cons_none h, List.filter_cons_of_neg (by simp [h])]
      exact ih
    | some skip =>
      rw [List.filterMap_cons_some h, List.filter_cons_of_pos (by simp [h]), List.map_cons,
        List.map_cons, ih, pointer_of_skip? h]

/-- A warning that tells where an issue lies. -/
def Issue.Warned (issue : Issue) (warning : Log.Message) : Prop :=
  ∃ reason, warning.text = "skipping " ++ issue.pointer ++ ": " ++ reason

/-- The warnings about what is skipped tell where the issues lie that cost an operation. -/
theorem Issue.forall₂_warned (issues : List Issue) :
    List.Forall₂ Issue.Warned (issues.filter fun issue => issue.skip?.isSome)
      ((issues.filterMap skip?).map Skip.message) := by
  induction issues with
  | nil => exact .nil
  | cons issue rest ih =>
    cases h : issue.skip? with
    | none =>
      rw [List.filterMap_cons_none h, List.filter_cons_of_neg (by simp [h])]
      exact ih
    | some skip =>
      rw [List.filterMap_cons_some h, List.filter_cons_of_pos (by simp [h]), List.map_cons]
      refine .cons ⟨skip.reason, ?_⟩ ih
      rw [← pointer_of_skip? h]
      rfl

namespace Document

variable {doc : Document} {seen later last : SeenIds} {issues others : List Issue}
  {outcomes more : List (Except Skip Operation)}

theorem skips_eq (doc : Document) : doc.skips = doc.outcomes.filterMap Skip.ofOutcome? :=
  rfl

/-! ## Stretches of slots -/

/-- The ids seen are those of the operations, each with the slot of the first that has it. -/
def SeenIds.Tracks (seen : SeenIds) (ops : List Operation) : Prop :=
  ∀ id, seen.lookup id = (ops.find? fun op => op.id = id).map Operation.slot

/-- Issues and outcomes of the same slots, with the ids seen before and after them: the same slots are
skipped, and the ids that were given before are those of earlier operations. -/
structure Agrees (seen : SeenIds) (issues : List Issue) (later : SeenIds)
    (outcomes : List (Except Skip Operation)) : Prop where
  skips : issues.filterMap Issue.skip? = outcomes.filterMap Skip.ofOutcome?
  repeats : ∀ known, seen.Tracks known → issues.filter Issue.isDuplicate =
    Operation.repeatsAfter known (outcomes.filterMap Operation.ofOutcome?)
  tracks : ∀ known, seen.Tracks known →
    later.Tracks (known ++ outcomes.filterMap Operation.ofOutcome?)

theorem agrees_nil (seen : SeenIds) : Agrees seen [] seen [] := by
  refine ⟨rfl, fun known _ => rfl, fun known h => ?_⟩
  rwa [List.filterMap_nil, List.append_nil]

/-- Issues and outcomes that agree can be put behind others. -/
theorem Agrees.append (h : Agrees seen issues later outcomes) (h' : Agrees later others last more) :
    Agrees seen (issues ++ others) last (outcomes ++ more) := by
  refine ⟨?_, fun known hknown => ?_, fun known hknown => ?_⟩
  · rw [List.filterMap_append, List.filterMap_append, h.skips, h'.skips]
  · rw [List.filter_append, List.filterMap_append, Operation.repeatsAfter_append, h.repeats known hknown,
      h'.repeats _ (h.tracks known hknown)]
  · rw [List.filterMap_append, ← List.append_assoc]
    exact h'.tracks _ (h.tracks known hknown)

/-- Issues that say nothing about slots. -/
theorem agrees_others (hothers : ∀ issue ∈ issues, issue.skip? = none ∧ issue.isDuplicate = false) :
    Agrees seen issues seen [] := by
  refine ⟨?_, fun known _ => ?_, fun known hknown => ?_⟩
  · exact List.filterMap_eq_nil_iff.mpr fun issue hmem => (hothers issue hmem).1
  · exact List.filter_eq_nil_iff.mpr fun issue hmem => by simp [(hothers issue hmem).2]
  · rwa [List.filterMap_nil, List.append_nil]

/-- A slot that is skipped. -/
theorem agrees_skip {issue : Issue} {skip : Skip} (hskip : issue.skip? = some skip) :
    Agrees seen [issue] seen [.error skip] := by
  have hissue : issue.isDuplicate = false := by
    cases issue <;> first | rfl | simp [Issue.skip?] at hskip
  refine ⟨?_, fun known _ => ?_, fun known hknown => ?_⟩
  · rw [List.filterMap_cons_some hskip]
    rfl
  · rw [List.filter_cons_of_neg (by simp [hissue])]
    rfl
  · rw [List.filterMap_cons_none rfl, List.filterMap_nil, List.append_nil]
    exact hknown

/-- The ids seen after one more operation. -/
theorem SeenIds.Tracks.add {known : List Operation} (h : seen.Tracks known) (op : Operation) :
    (if (seen.lookup op.id).isSome then seen else (op.id, op.slot) :: seen : SeenIds).Tracks
      (known ++ [op]) := by
  intro id
  rw [List.find?_append]
  by_cases hid : op.id = id
  · subst hid
    have hop := h op.id
    cases hfirst : known.find? fun other => other.id = op.id with
    | none =>
      rw [hfirst] at hop
      simp [hop]
    | some first =>
      rw [hfirst] at hop
      simp [hop]
  · have hother := h id
    have hne : (id == op.id) = false := beq_eq_false_iff_ne.mpr (Ne.symm hid)
    rw [List.find?_cons_of_neg (by simpa using hid), List.find?_nil, Option.or_none, ← hother]
    split
    · rfl
    · rw [List.lookup_cons, hne]

/-- A slot with an operation. -/
theorem agrees_operation (op : Operation) :
    Agrees seen ((seen.lookup op.id).toList.map (.duplicate op.slot op.id))
      (if (seen.lookup op.id).isSome then seen else (op.id, op.slot) :: seen) [.ok op] := by
  refine ⟨?_, fun known hknown => ?_, fun known hknown => hknown.add op⟩
  · cases seen.lookup op.id <;> rfl
  · rw [hknown op.id]
    simp only [Operation.repeatsAfter, Operation.ofOutcome?, List.filterMap_cons, List.filterMap_nil,
      List.append_nil, Operation.repeat?]
    cases known.find? fun other => other.id = op.id <;> rfl

/-! ## Slots, paths, documents -/

/-- The issues of a slot agree with its outcome. -/
theorem agrees_slotIssues (doc : Document) (seen : SeenIds) (item : Json.Entries) (slot : Slot) :
    Agrees seen (slotIssues seen item slot).1 (slotIssues seen item slot).2
      (doc.slotOutcome item slot).toList := by
  unfold slotIssues slotOutcome
  cases (Lookup.entry item slot.method.word).object with
  | missing => exact agrees_nil seen
  | misshapen value => exact agrees_skip rfl
  | found entries =>
    have hresponses : ∀ seen, Agrees seen (if (Lookup.entry entries "responses").isMissing then
        [.responses slot] else []) seen [] := by
      intro seen
      refine agrees_others fun issue hmem => ?_
      split at hmem
      · obtain rfl := List.mem_singleton.mp hmem
        exact ⟨rfl, rfl⟩
      · exact absurd hmem List.not_mem_nil
    cases hid : Operation.id? entries with
    | none =>
      simp only [hid]
      exact (agrees_skip rfl).append (hresponses seen)
    | some id =>
      have hop : Agrees seen _ _ [.ok (.ofEntries doc slot id entries)] := agrees_operation _
      rw [Operation.id_ofEntries, Operation.slot_ofEntries] at hop
      cases hseen : seen.lookup id with
      | none =>
        rw [hseen] at hop
        simp only [hid, hseen]
        exact hop.append (hresponses _)
      | some first =>
        rw [hseen] at hop
        simp only [hid, hseen]
        exact hop.append (hresponses _)

/-- So they do for the slots of several methods, one after the other. -/
theorem agrees_methodIssues (doc : Document) (seen : SeenIds) (item : Json.Entries) (path : String)
    (methods : List Method) :
    Agrees seen (methodIssues seen item path methods).1 (methodIssues seen item path methods).2
      (methods.filterMap fun method => doc.slotOutcome item ⟨path, method⟩) := by
  induction methods generalizing seen with
  | nil => exact agrees_nil seen
  | cons method rest ih =>
    have hslot := agrees_slotIssues doc seen item ⟨path, method⟩
    have hall := hslot.append (ih (slotIssues seen item ⟨path, method⟩).2)
    rw [methodIssues]
    cases houtcome : doc.slotOutcome item ⟨path, method⟩ with
    | none =>
      rw [houtcome] at hall
      simp only [List.filterMap_cons, houtcome]
      exact hall
    | some outcome =>
      rw [houtcome] at hall
      simp only [List.filterMap_cons, houtcome]
      exact hall

/-- Over all paths, what is skipped and repeated is what the issues say. -/
theorem exists_agrees_pathIssues (doc : Document) (seen : SeenIds) (paths : Json.Entries) :
    ∃ later, Agrees seen (pathIssues seen paths) later
      (paths.flatMap fun (path, item) => doc.pathOutcomes path item) := by
  induction paths generalizing seen with
  | nil => exact ⟨seen, agrees_nil seen⟩
  | cons entry rest ih =>
    obtain ⟨path, item⟩ := entry
    rw [List.flatMap_cons]
    -- what is no object is skipped as one, whatever it is
    have hother : ∃ later, Agrees seen (.itemShape path item.kind :: pathIssues seen rest) later
        ([.error (.item path)] ++ rest.flatMap fun (path, item) => doc.pathOutcomes path item) := by
      obtain ⟨later, hrest⟩ := ih seen
      have hitem : Agrees seen [.itemShape path item.kind] seen [.error (.item path)] :=
        agrees_skip rfl
      exact ⟨later, hitem.append hrest⟩
    cases item with
    | object entries =>
      have hmethods := agrees_methodIssues doc seen entries path Method.all
      obtain ⟨later, hrest⟩ := ih (methodIssues seen entries path Method.all).2
      exact ⟨later, hmethods.append hrest⟩
    | null => exact hother
    | bool value => exact hother
    | number value => exact hother
    | string value => exact hother
    | array items => exact hother

/-- So they do for all paths of a document. -/
theorem exists_agrees_allPathIssues (doc : Document) :
    ∃ later, Agrees [] doc.allPathIssues later doc.outcomes := by
  unfold allPathIssues outcomes
  cases doc.paths with
  | found paths => exact exists_agrees_pathIssues doc [] paths
  | missing => exact ⟨[], agrees_others (by simp [Issue.skip?, Issue.isDuplicate])⟩
  | misshapen value => exact ⟨[], agrees_skip rfl⟩

/-- A document whose root is an object. -/
def ofEntries (entries : Json.Entries) : Document :=
  ⟨.object entries⟩

/-- The check of a document whose root is an object agrees with the extraction. -/
theorem exists_agrees_issues (entries : Json.Entries) :
    ∃ later, Agrees [] (ofEntries entries).issues later (ofEntries entries).outcomes := by
  obtain ⟨later, hpaths⟩ := exists_agrees_allPathIssues (ofEntries entries)
  have hversion : Agrees [] (ofEntries entries).versionIssues [] [] := by
    refine agrees_others fun issue hmem => ?_
    unfold versionIssues at hmem
    split at hmem <;> simp_all [Issue.skip?, Issue.isDuplicate]
  have hinfo : Agrees [] (ofEntries entries).infoIssues [] [] := by
    refine agrees_others fun issue hmem => ?_
    unfold infoIssues at hmem
    split at hmem <;> simp_all [Issue.skip?, Issue.isDuplicate]
  have hcomponents : Agrees later (ofEntries entries).componentIssues later [] := by
    refine agrees_others fun issue hmem => ?_
    unfold componentIssues at hmem
    split at hmem
    · split at hmem <;> simp_all [Issue.skip?, Issue.isDuplicate]
    all_goals simp_all [Issue.skip?, Issue.isDuplicate]
  have hall := ((hversion.append hinfo).append hpaths).append hcomponents
  rw [List.append_nil] at hall
  exact ⟨later, hall⟩

/-! ## Skipped slots -/

/-- The warnings that the extraction of a document reports. -/
def reportedWarnings (doc : Document) : List Log.Message :=
  doc.extractionLog.filter fun message => message.level = .warn

/-- A warning is reported for each slot or path that is skipped. -/
theorem reportedWarnings_eq (doc : Document) : doc.reportedWarnings = doc.skips.map Skip.message := by
  have hskips : (doc.skips.map Skip.message).filter (fun message => message.level = .warn) =
      doc.skips.map Skip.message := by
    refine List.filter_eq_self.mpr fun message hmem => ?_
    obtain ⟨skip, -, rfl⟩ := List.mem_map.mp hmem
    rfl
  rw [reportedWarnings, extractionLog, List.filter_append, hskips]
  split
  · rw [List.filter_cons_of_neg (by simp), List.filter_nil, List.append_nil]
  · rw [List.filter_nil, List.append_nil]

/-- What the extraction of a document skips, and warns about, is what the check finds of the four kinds of
issues that cost an operation, at the same places and in the same order, and each warning tells its place;
without issues there are no warnings. -/
theorem reportedWarnings_eq_issues (entries : Json.Entries) :
    (ofEntries entries).reportedWarnings = (ofEntries entries).skips.map Skip.message ∧
      (ofEntries entries).skips = (ofEntries entries).issues.filterMap Issue.skip? ∧
      (ofEntries entries).skips.map Skip.pointer =
        ((ofEntries entries).issues.filter fun issue => issue.skip?.isSome).map Issue.pointer ∧
      ((ofEntries entries).issues = [] → (ofEntries entries).reportedWarnings = []) ∧
      List.Forall₂ Issue.Warned ((ofEntries entries).issues.filter fun issue => issue.skip?.isSome)
        (ofEntries entries).reportedWarnings := by
  obtain ⟨later, hagrees⟩ := exists_agrees_issues entries
  have hskips : (ofEntries entries).skips = (ofEntries entries).issues.filterMap Issue.skip? :=
    (skips_eq _).trans hagrees.skips.symm
  rw [reportedWarnings_eq]
  refine ⟨rfl, hskips, ?_, fun hnone => ?_, ?_⟩
  · rw [hskips, Issue.map_pointer_filterMap_skip?]
  · rw [hskips, hnone]
    rfl
  · rw [hskips]
    exact Issue.forall₂_warned (ofEntries entries).issues

/-- The entries of a document with two operations that has no issues. -/
def cleanEntries : Json.Entries :=
  let operation (id : String) : Json := .object [("operationId", .string id), ("responses", .object [])]
  [("openapi", .string "3.0.3"), ("info", .object []),
    ("paths", .object [("/users", .object [("get", operation "list"), ("post", operation "add")])])]

theorem reportedWarnings_eq_issues_clean : (ofEntries cleanEntries).reportedWarnings = [] :=
  (reportedWarnings_eq_issues cleanEntries).2.2.2.1 (by decide +kernel)

end Document

end TypedClient
