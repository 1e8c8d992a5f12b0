import TypedClient.Proofs.Spec.Node
import TypedClient.Proofs.Json.Integer

/-!
# Where references lead

The pointer of a location is cut back into the texts of its steps (`Location.pointerTokens_pointer`), and
followed from the root of a tree these texts lead where the steps lead (`Json.follow_map_text`). So a
reference leads to the value that it names, whatever characters the keys on the way have
(`Document.resolvesReferences`).
-/

namespace TypedClient

open Json (Entries)

/-! ## Steps as texts -/

namespace Step

/-- The first of the escaped characters is read back, whatever stands behind it. -/
theorem unescapeToken_escapeChar (c : Char) (rest : List Char) :
    Json.unescapeToken (escapeChar c ++ rest) = c :: Json.unescapeToken rest := by
  rw [escapeChar]
  split
  next h => rw [h]; rfl
  next htilde =>
    split
    next h => rw [h]; rfl
    next => exact Json.unescapeToken.eq_3 c rest (fun _ h _ => htilde h) fun _ h _ => htilde h

theorem unescapeToken_flatMap (cs : List Char) :
    Json.unescapeToken (cs.flatMap escapeChar) = cs := by
  induction cs with
  | nil => rfl
  | cons c cs ih => rw [List.flatMap_cons, unescapeToken_escapeChar, ih]

/-- An escaped text has no slash in it. -/
theorem slash_not_mem_flatMap (cs : List Char) : '/' ∉ cs.flatMap escapeChar := by
  intro h
  obtain ⟨c, -, hc⟩ := List.mem_flatMap.mp h
  rw [escapeChar] at hc
  split at hc
  next => exact absurd hc (by decide)
  next =>
    split at hc
    next => exact absurd hc (by decide)
    next hslash => exact hslash (List.mem_singleton.mp hc).symm

/-- An index is read from its digits, for only zero is written with a zero in front. -/
theorem indexOfToken_text (position : Nat) :
    Json.indexOfToken (index position).text = some position := by
  have htext : (index position).text = Nat.toDigits 10 position := Nat.toList_repr
  have hne : Nat.toDigits 10 position ≠ [] := Nat.toDigits_ne_nil
  have hdigits : (Nat.toDigits 10 position).all Char.isDigit :=
    List.all_eq_true.mpr fun _ => Json.isDigit_of_mem_digits
  have hvalue : (Nat.toDigits 10 position).foldl (fun n c => n * 10 + (c.toNat - 48)) 0 = position :=
    Json.digitsValue_toDigits position
  rw [htext, Json.indexOfToken, if_neg (by simp [hne, hdigits]), if_neg, hvalue]
  intro hpadded
  simp only [Bool.and_eq_true, decide_eq_true_eq] at hpadded
  exact hpadded.2 (by rw [Json.head?_toDigits position hpadded.1]; rfl)

end Step

namespace Location

theorem pointerTokens_cons (cs : List Char) :
    Json.pointerTokens ('/' :: cs) = some ((Text.split '/' cs).map Json.unescapeToken) :=
  rfl

/-- A pointer is cut into the texts of its steps. -/
theorem pointerTokens_pointer (location : Location) :
    Json.pointerTokens location.pointer = some (location.map Step.text) := by
  induction location with
  | nil => rfl
  | cons step rest ih =>
    have hslash := Step.slash_not_mem_flatMap step.text
    cases rest with
    | nil =>
      have hpieces := Text.splitFrom_of_not_mem hslash []
      rw [pointer, pointer, List.append_nil, pointerTokens_cons, Text.split, hpieces, List.map_singleton,
        List.reverse_nil, List.nil_append, Step.unescapeToken_flatMap]
      rfl
    | cons next rest =>
      -- the slash in front of the next step ends this one
      have hpieces := Text.splitFrom_append hslash []
        (next.text.flatMap Step.escapeChar ++ pointer rest)
      rw [pointer, List.cons_append, pointerTokens_cons, Option.some.injEq] at ih
      rw [pointer, pointer, List.cons_append, List.cons_append, pointerTokens_cons, Text.split, hpieces,
        List.map_cons, ih, List.reverse_nil, List.nil_append, Step.unescapeToken_flatMap]
      rfl

end Location

/-! ## Following a pointer -/

namespace Json

variable {root value : Json} {location other : Location}

theorem at?_cons_eq_some_iff {step : Step} :
    root.at? (step :: location) = some value ↔
      ∃ next, root.step? step = some next ∧ next.at? location = some value := by
  rw [at?]
  cases root.step? step with
  | none => simp
  | some next => simp

/-- The texts of the steps lead where the steps lead. -/
theorem follow_map_text (h : root.at? location = some value) :
    root.follow (location.map Step.text) = some value := by
  induction location generalizing root with
  | nil => exact h
  | cons step rest ih =>
    obtain ⟨next, hstep, hrest⟩ := at?_cons_eq_some_iff.mp h
    have hfollow := ih hrest
    rw [List.map_cons]
    cases root with
    | object entries =>
      cases step with
      | key name =>
        have hget : Entries.get? entries (String.ofList (Step.key name).text) = some next := by
          rw [Step.text, String.ofList_toList]
          exact hstep
        rw [follow, hget]
        exact hfollow
      | index position => cases hstep
    | array items =>
      cases step with
      | key name => cases hstep
      | index position =>
        have hget : items[position]? = some next := hstep
        rw [follow, Step.indexOfToken_text]
        dsimp only
        rw [hget]
        exact hfollow
    | _ => cases hstep

/-- The pointer of a location names the value at that location. -/
theorem resolve_pointer (h : root.at? location = some value) :
    root.resolve location.pointer = some value := by
  rw [resolve, Location.pointerTokens_pointer]
  exact follow_map_text h

/-- Two steps with one text that both lead on from a value are the same. -/
theorem step_unique {step another : Step} {next further : Json} (hstep : root.step? step = some next)
    (hanother : root.step? another = some further) (htext : step.text = another.text) :
    step = another := by
  cases root with
  | object entries =>
    cases step with
    | key name =>
      cases another with
      | key title => rw [String.toList_inj.mp htext]
      | index position => cases hanother
    | index position => cases hstep
  | array items =>
    cases step with
    | key name => cases hstep
    | index position =>
      cases another with
      | key title => cases hanother
      | index place =>
        have hindex := Step.indexOfToken_text position
        rw [htext, Step.indexOfToken_text, Option.some.injEq] at hindex
        rw [hindex]
  | _ => cases hstep

/-- A pointer names one location of a tree. -/
theorem location_unique {found : Json} (h : root.at? location = some value)
    (hother : root.at? other = some found) (hpointer : location.pointer = other.pointer) :
    location = other := by
  have htexts : location.map Step.text = other.map Step.text := by
    rw [← Option.some.injEq, ← Location.pointerTokens_pointer, hpointer, Location.pointerTokens_pointer]
  clear hpointer
  induction location generalizing root other with
  | nil => exact (List.map_eq_nil_iff.mp htexts.symm).symm
  | cons step rest ih =>
    obtain ⟨another, more, rfl, htext, hmore⟩ := List.map_eq_cons_iff.mp htexts.symm
    obtain ⟨next, hstep, hrest⟩ := at?_cons_eq_some_iff.mp h
    obtain ⟨further, hanother, hfurther⟩ := at?_cons_eq_some_iff.mp hother
    obtain rfl := step_unique hstep hanother htext.symm
    obtain rfl := Option.some.inj (hstep.symm.trans hanother)
    rw [ih hrest hfurther hmore.symm]

end Json

/-! ## References -/

/-- The text of the reference to a location of the same document. -/
def Location.reference (location : Location) : String :=
  String.ofList ('#' :: location.pointer)

namespace Document

/-- References lead to the values that they name, and to nothing that is not in the document. -/
structure ResolvesReferences (doc : Document) : Prop where
  /-- An object that refers to a location stands for the value there, be it a reference or not. -/
  exact : ∀ location node, doc.root.at? location = some node →
    ∀ entries : Entries, entries.get? "$ref" = some (.string location.reference) →
      doc.deref (.object entries) = node
  /-- No other location of the document has the same reference. -/
  unique : ∀ location other, (doc.root.at? location).isSome → (doc.root.at? other).isSome →
    location.reference = other.reference → location = other
  /-- What any value stands for is in the document, or is the value itself. -/
  closed : ∀ value, doc.IsNode (doc.deref value) ∨ doc.deref value = value

theorem target?_reference {doc : Document} {entries : Entries} {location : Location}
    (h : entries.get? "$ref" = some (.string location.reference)) :
    doc.target? (.object entries) = doc.root.resolve location.pointer := by
  have hfound : (Lookup.field (.object entries) "$ref").string = .found location.reference := by
    rw [Lookup.string_eq_found_iff]
    exact Lookup.entry_eq_found_iff.mpr ⟨h, nofun⟩
  rw [target?, hfound]
  dsimp only
  rw [Location.reference, String.toList_ofList]
  rfl

/-- The references of every document lead to the values that they name. -/
theorem resolvesReferences (doc : Document) : doc.ResolvesReferences := by
  refine ⟨fun location node hnode entries href => ?_, fun location other h hother htext => ?_,
    fun value => ?_⟩
  · rw [deref, target?_reference href, Json.resolve_pointer hnode, Option.getD_some]
  · obtain ⟨node, hnode⟩ := Option.isSome_iff_exists.mp h
    obtain ⟨found, hfound⟩ := Option.isSome_iff_exists.mp hother
    have hpointers : '#' :: location.pointer = '#' :: other.pointer := String.ofList_injective htext
    exact Json.location_unique hnode hfound (List.cons.inj hpointers).2
  · rw [deref]
    cases htarget : doc.target? value with
    | none => exact .inr rfl
    | some target => exact .inl (isNode_of_target? htarget)

/-- A document with a slash in one key, an escape as another, an index as a third, and a reference below
them. -/
def nestedDocument : Document :=
  ⟨.object [("a/b", .array [.null, .object [("~1", .object [("0", .object [("$ref", .string "#/a~1b/0")])])]])]⟩

/-- The reference in the document is found, and is not followed in turn. -/
theorem resolvesReferences_nested :
    nestedDocument.root.at? [.key "a/b", .index 1, .key "~1", .key "0"] =
        some (.object [("$ref", .string "#/a~1b/0")]) ∧
      nestedDocument.deref (.object [("$ref", .string "#/a~1b/1/~01/0")]) =
        .object [("$ref", .string "#/a~1b/0")] := by
  have hnode : nestedDocument.root.at? [.key "a/b", .index 1, .key "~1", .key "0"] =
      some (.object [("$ref", .string "#/a~1b/0")]) := rfl
  have hreference : Location.reference [.key "a/b", .index 1, .key "~1", .key "0"] =
      "#/a~1b/1/~01/0" := by decide +kernel
  exact ⟨hnode, (resolvesReferences nestedDocument).exact _ _ hnode _ (by rw [hreference]; rfl)⟩

end Document

end TypedClient
