import TypedClient.Spec.Reader
import TypedClient.Proofs.Json.Formed

/-!
# Documents that are read

A document that is read from a text, be it JSON or YAML, has no key twice in one object, and its integers
fit 64 bits (`Document.formed_of_ofText`). For YAML that follows from what its scalars mean and from how
entries with one key are brought together.
-/

namespace TypedClient

namespace Yaml

open TypedClient.Number (twoTo)

/-! ## Numbers -/

/-- An integer fits 64 bits, signed or unsigned. -/
def Number.Fits : Yaml.Number → Prop
  | .int n => Json.Number.IsWord (.int n)
  | _ => True

/-- What is taken for an integer fits a word. -/
theorem isWord_of_integerMeaning {text : String} {n : Int} (h : integerMeaning text = .ok (some n)) :
    Json.Number.IsWord (.int n) := by
  have hsigned : (twoTo 63 : Int) = 9223372036854775808 := by decide
  have hunsigned : (twoTo 64 : Int) = 18446744073709551616 := by decide
  rw [integerMeaning] at h
  split at h
  next found =>
    split at h
    next hkept =>
      cases h
      rw [magnitude] at hkept
      split at hkept
      next hrange =>
        simp only [Bool.and_eq_true, decide_eq_true_eq] at hrange
        exact ⟨by omega, by omega⟩
      next => split at hkept <;> cases hkept
    next => cases h
    next => cases h
  next => cases h

/-- What is taken for a real number has no bounds to keep. -/
theorem fits_of_real? {text : String} {number : Yaml.Number} (h : real? text = some number) :
    number.Fits := by
  rw [real?] at h
  repeat' split at h
  · cases h
    trivial
  · cases h
    trivial
  · cases h
    trivial
  · obtain ⟨x, -, rfl⟩ := Option.map_eq_some_iff.mp h
    trivial

/-! ## Values -/

namespace Value

mutual

/-- Every integer inside the value fits 64 bits; what is inside a key does not matter. -/
def Fits : Value → Prop
  | .number n => n.Fits
  | .sequence items => FitsItems items
  | .mapping entries => FitsEntries entries
  | .tagged _ value => Fits value
  | _ => True

/-- `Fits` of each item. -/
def FitsItems : List Value → Prop
  | [] => True
  | item :: rest => Fits item ∧ FitsItems rest

/-- `Fits` of each entry's value. -/
def FitsEntries : List (Value × Value) → Prop
  | [] => True
  | (_, value) :: rest => Fits value ∧ FitsEntries rest

end

mutual

/-- A value whose integers fit is formed as JSON. -/
theorem formed_toJson (value : Value) (h : value.Fits) : value.toJson.Formed := by
  match value with
  | .null | .bool _ | .string _ => exact ⟨trivial, trivial⟩
  | .number (.int n) => exact ⟨trivial, h⟩
  | .number (.real x) => exact ⟨trivial, trivial⟩
  | .number (.infinite _) | .number .undefined => exact ⟨trivial, trivial⟩
  | .sequence items => exact Json.formed_array.mpr (formed_toJsonItems items h)
  | .mapping entries => exact Json.formed_ofList (formed_toJsonEntries entries h)
  | .tagged _ value => exact formed_toJson value h

theorem formed_toJsonItems (items : List Value) (h : FitsItems items) :
    ∀ item ∈ toJsonItems items, item.Formed := by
  match items with
  | [] => exact fun item hitem => absurd hitem List.not_mem_nil
  | item :: rest =>
    exact List.forall_mem_cons.mpr ⟨formed_toJson item h.1, formed_toJsonItems rest h.2⟩

theorem formed_toJsonEntries (entries : List (Value × Value)) (h : FitsEntries entries) :
    ∀ entry ∈ toJsonEntries entries, entry.2.Formed := by
  match entries with
  | [] => exact fun entry hentry => absurd hentry List.not_mem_nil
  | (key, value) :: rest =>
    exact List.forall_mem_cons.mpr ⟨formed_toJson value h.1, formed_toJsonEntries rest h.2⟩

end

/-- Items fit if each of them does. -/
theorem fitsItems_iff {items : List Value} : FitsItems items ↔ ∀ item ∈ items, item.Fits := by
  induction items with
  | nil => exact ⟨fun _ item hitem => absurd hitem List.not_mem_nil, fun _ => trivial⟩
  | cons item rest ih => rw [List.forall_mem_cons, ← ih, FitsItems]

/-- Entries fit if the value of each does. -/
theorem fitsEntries_iff {entries : List (Value × Value)} :
    FitsEntries entries ↔ ∀ entry ∈ entries, entry.2.Fits := by
  induction entries with
  | nil => exact ⟨fun _ entry hentry => absurd hentry List.not_mem_nil, fun _ => trivial⟩
  | cons entry rest ih => rw [List.forall_mem_cons, ← ih, FitsEntries]

end Value

/-! ## Scalars -/

/-- The number that a plain text means fits. -/
theorem fits_of_meaning {text : String} {number : Yaml.Number}
    (h : Meaning.ofPlain text = .ok (.number number)) : number.Fits := by
  simp only [Meaning.ofPlain, bind, Except.bind, pure, Except.pure] at h
  split at h
  · cases h
  split at h
  · cases h
  split at h
  · cases h
  split at h
  next hinteger =>
    cases h
    exact isWord_of_integerMeaning hinteger
  split at h
  · cases h
  split at h
  next hreal =>
    cases h
    exact fits_of_real? hreal
  next => cases h

/-- So does the value of a plain text. -/
theorem fits_ofPlain {text : String} {value : Value} (h : Value.ofPlain text = .ok value) :
    value.Fits := by
  rw [Value.ofPlain] at h
  cases hmeaning : Meaning.ofPlain text with
  | error fault =>
    rw [hmeaning] at h
    cases h
  | ok meaning =>
    rw [hmeaning] at h
    cases meaning with
    | null | truth _ | text =>
      cases h
      trivial
    | number number =>
      cases h
      exact fits_of_meaning hmeaning

/-- So does the value of a text with a tag of the core. -/
theorem fits_ofCore {tag text : String} {value : Value} (h : Value.ofCore tag text = .ok value) :
    value.Fits := by
  rw [Value.ofCore] at h
  split at h
  · split at h
    · cases h
      trivial
    · cases h
  split at h
  · split at h
    next hmeaning =>
      cases h
      exact isWord_of_integerMeaning hmeaning
    next => cases h
    next => cases h
  split at h
  · split at h
    next hreal =>
      cases h
      exact fits_of_real? hreal
    next => cases h
  split at h
  · split at h
    · cases h
      trivial
    · cases h
  · cases h
    trivial

/-- So does the value of any scalar. -/
theorem fits_ofScalar {tag : Option String} {style : Style} {text : String} {value : Value}
    (h : Value.ofScalar tag style text = .ok value) : value.Fits := by
  rw [Value.ofScalar.eq_def] at h
  split at h
  · exact fits_ofCore h
  · split at h
    · exact fits_ofPlain h
    · cases h
      trivial

/-- A tag around a value does not matter. -/
theorem fits_wrapTag {properties : Properties} {value : Value} (h : value.Fits) :
    (wrapTag properties value).Fits := by
  rw [wrapTag]
  split
  · exact h
  · exact h

/-! ## Nodes -/

/-- What a traversal gives, if it gives anything. -/
def Yields {α : Type} (p : α → Prop) (x : Traversal α) : Prop :=
  ∀ count a count', x count = .ok (a, count') → p a

section

variable {α β : Type} {p : α → Prop} {q : β → Prop}

theorem yields_pure {a : α} (h : p a) : Yields p (pure a : Traversal α) := by
  intro count b count' hok
  cases hok
  exact h

theorem yields_throw (fault : Fault) : Yields p (throw fault : Traversal α) := by
  intro count b count' hok
  cases hok

theorem yields_lift {x : Except Fault α} (h : ∀ a, x = .ok a → p a) :
    Yields p (liftM x : Traversal α) := by
  intro count b count' hok
  cases hx : x with
  | error fault =>
    subst hx
    cases hok
  | ok a =>
    subst hx
    cases hok
    exact h _ rfl

/-- What a traversal yields is what its parts do. -/
theorem Yields.bind {x : Traversal α} {f : α → Traversal β} (hx : Yields p x)
    (hf : ∀ a, p a → Yields q (f a)) : Yields q (x >>= f) := by
  intro count b count' hok
  change (do
    let (a, count) ← x count
    f a count) = _ at hok
  cases hrun : x count with
  | error fault => simp [hrun, Bind.bind, Except.bind] at hok
  | ok found =>
    obtain ⟨a, middle⟩ := found
    simp only [hrun, Bind.bind, Except.bind] at hok
    exact hf a (hx _ _ _ hrun) _ _ _ hok

/-- A traversal of several nodes yields what that of each one does. -/
theorem Yields.mapM {f : β → Traversal α} (h : ∀ b, Yields p (f b)) (list : List β) :
    Yields (fun found => ∀ a ∈ found, p a) (list.mapM f) := by
  induction list with
  | nil =>
    rw [List.mapM_nil]
    exact yields_pure (by simp)
  | cons b rest ih =>
    rw [List.mapM_cons]
    refine (h b).bind fun a ha => ih.bind fun found hfound => ?_
    exact yields_pure (List.forall_mem_cons.mpr ⟨ha, hfound⟩)

end

theorem yields_scalar (properties : Properties) (style : Style) (text : String) :
    Yields Value.Fits (do return wrapTag properties (← Value.ofScalar properties.tag style text)) :=
  (yields_lift fun _ => fits_ofScalar).bind fun _ hvalue => yields_pure (fits_wrapTag hvalue)

/-- The value of a node has integers that fit. -/
theorem yields_nodeValue (anchors : Anchors) (limit room : Nat) (node : Node) :
    Yields Value.Fits (nodeValue anchors limit room node) := by
  have hfollow : ∀ node, Yields (fun _ => True) (followAlias anchors limit node) :=
    fun node _ _ _ _ => trivial
  induction room generalizing node with
  | zero =>
    rw [nodeValue]
    refine (hfollow node).bind fun target _ => ?_
    split
    next properties style text => exact yields_scalar properties style text
    next => exact yields_throw _
  | succ room ih =>
    rw [nodeValue]
    refine (hfollow node).bind fun target _ => ?_
    split
    next properties style text => exact yields_scalar properties style text
    next properties items =>
      refine (Yields.mapM ih items).bind fun values hvalues => ?_
      exact yields_pure (fits_wrapTag (Value.fitsItems_iff.mpr hvalues))
    next properties entries =>
      have hentry : ∀ entry : Node × Node, Yields (fun found => found.2.Fits) (do
          return (← nodeValue anchors limit room entry.1, ← nodeValue anchors limit room entry.2)) :=
        fun entry => (ih entry.1).bind fun key _ => (ih entry.2).bind fun value hvalue =>
          yields_pure hvalue
      refine (Yields.mapM hentry entries).bind fun found hfound => ?_
      split
      · exact yields_throw _
      · exact yields_pure (fits_wrapTag (Value.fitsEntries_iff.mpr hfound))
    next => exact yields_throw _

/-- The value of a node fits. -/
theorem fits_ofNode {root : Node} {value : Value} (h : Value.ofNode root = .ok value) :
    value.Fits := by
  rw [Value.ofNode] at h
  cases hrun : nodeValue (.ofNode root) (100 * root.size) maxDepth root 0 with
  | error fault => simp [StateT.run, hrun, bind, Except.bind] at h
  | ok found =>
    obtain ⟨own, count⟩ := found
    obtain rfl : own = value := by
      simpa [StateT.run, hrun, bind, Except.bind, pure, Except.pure] using h
    exact yields_nodeValue _ _ _ root _ _ _ hrun

/-- A value that is read from YAML is formed as JSON. -/
theorem formed_of_parseJson {text : String} {v : Json} (h : parseJson text = .ok v) : v.Formed := by
  rw [parseJson] at h
  cases hparse : Node.parse text with
  | error fault => simp [hparse, bind, Except.bind] at h
  | ok root =>
    cases root with
    | none =>
      obtain rfl : Json.null = v := by
        simpa [hparse, bind, Except.bind, pure, Except.pure] using h
      exact ⟨trivial, trivial⟩
    | some root =>
      cases hvalue : Value.ofNode root with
      | error fault => simp [hparse, hvalue, bind, Except.bind] at h
      | ok value =>
        obtain rfl : value.toJson = v := by
          simpa [hparse, hvalue, bind, Except.bind, pure, Except.pure] using h
        exact value.formed_toJson (fits_ofNode hvalue)

end Yaml

/-! ## Documents -/

namespace Document

variable {doc : Document} {text : String}

/-- A document is well formed if its root is. -/
theorem formed_of_ofRoot {root : Json} (hroot : root.Formed) (h : ofRoot root = .ok doc) :
    doc.Formed := by
  rw [ofRoot.eq_def] at h
  split at h
  next entries =>
    cases h
    exact ⟨⟨entries, rfl⟩, hroot⟩
  next => cases h

/-- A document that was read from JSON is well formed. -/
theorem formed_of_ofJsonText (h : ofJsonText text = .ok doc) : doc.Formed := by
  rw [ofJsonText] at h
  split at h
  next hroot => exact formed_of_ofRoot (Json.formed_of_parse hroot) h
  next => cases h

/-- A document that is read from a text is formed. -/
theorem formed_of_ofText (h : ofText text = .ok doc) : doc.Formed := by
  rw [ofText] at h
  split at h
  · exact formed_of_ofJsonText h
  · rw [ofYamlText] at h
    split at h
    next hroot => exact formed_of_ofRoot (Yaml.formed_of_parseJson hroot) h
    next => cases h

end Document

end TypedClient
