import Mathlib.Data.List.Infix
import DocPress.Proofs.Text.Escape

/-!
# DocPress.Proofs.Text.Entities

Escaping with a table of entities, and reading it back.

1. `entityWith` writes a character that has an entity as that entity, and any other as itself;
   `decodeWith` replaces the entities by their characters, in one pass from the left.
2. A table is `Readable` if the ampersand has an entity, too, and no two of its entities can be
   taken for each other. Then what is written of a text is read back as the text
   (`Readable.decodeWith_flatMap`), and an ampersand is always the start of an entity
   (`Readable.prefix_of_ampersand`).
3. Text in attributes and text between tags is escaped with tables of this kind, although one
   character is replaced after the other (`escapedWith_replaceAttribute`,
   `escapedWith_replaceBody`).
-/

namespace DocPress.Text

/-- The characters that have an entity between tags, each with its entity. -/
def bodyEntities : List (Char × String) :=
  [('&', "&amp;"), ('<', "&lt;"), ('>', "&gt;")]

/-- The characters that have an entity in an attribute, each with its entity. -/
def attributeEntities : List (Char × String) :=
  bodyEntities ++ [('\x22', "&quot;")]

variable {entities : List (Char × String)} {text front back : List Char} {c : Char}

/-! ## Writing and reading -/

/-- A character as its entity, if it has one, and as itself otherwise. -/
def entityWith (entities : List (Char × String)) (c : Char) : List Char :=
  match entities.find? (·.1 == c) with
  | some (_, entity) => entity.toList
  | none => [c]

/-- Replaces each entity by its character, in one pass from the left. -/
def decodeWith (entities : List (Char × String)) : List Char → List Char
  | [] => []
  | c :: rest =>
    match entities.find? (·.2.toList.isPrefixOf (c :: rest)) with
    | some (d, entity) => d :: decodeWith entities (rest.drop (entity.length - 1))
    | none => c :: decodeWith entities rest
termination_by text => text.length

/-- What a table of entities has to be like so that what is written with it can be read back. -/
structure Readable (entities : List (Char × String)) : Prop where
  /-- An ampersand begins each entity, and stands nowhere else in it. -/
  begins : ∀ e ∈ entities, ∃ name, e.2.toList = '&' :: name ∧ '&' ∉ name
  ampersand : ∃ e ∈ entities, e.1 = '&'
  /-- No entity begins another one. -/
  prefixFree : ∀ e ∈ entities, ∀ e' ∈ entities, e.2.toList <+: e'.2.toList → e = e'
  /-- No entity holds another character that has an entity. -/
  disjoint : ∀ e ∈ entities, ∀ e' ∈ entities, e.1 ∈ e'.2.toList → e.1 = '&'

/-- A character is written as its entity, or has none and is written as itself. -/
theorem entityWith_cases (entities : List (Char × String)) (c : Char) :
    (∃ e ∈ entities, e.1 = c ∧ entityWith entities c = e.2.toList) ∨
      (∀ e ∈ entities, e.1 ≠ c) ∧ entityWith entities c = [c] := by
  unfold entityWith
  cases hfind : entities.find? (·.1 == c) with
  | none => exact .inr ⟨by simpa using hfind, rfl⟩
  | some e =>
    have hc := List.find?_some hfind
    exact .inl ⟨e, List.mem_of_find?_eq_some hfind, by simpa using hc, rfl⟩

/-- An entity is read where it begins. -/
theorem Readable.decodeWith_entity (h : Readable entities) {e : Char × String} (he : e ∈ entities)
    (rest : List Char) :
    decodeWith entities (e.2.toList ++ rest) = e.1 :: decodeWith entities rest := by
  obtain ⟨name, hname, -⟩ := h.begins e he
  have hfind : entities.find? (·.2.toList.isPrefixOf ('&' :: (name ++ rest))) = some e := by
    cases hfound : entities.find? (·.2.toList.isPrefixOf ('&' :: (name ++ rest))) with
    | none =>
      have hnot := List.find?_eq_none.1 hfound e he
      simp [hname] at hnot
    | some e' =>
      have hprefix : e'.2.toList <+: '&' :: (name ++ rest) := by
        simpa using List.find?_some hfound
      have hentity : e.2.toList <+: '&' :: (name ++ rest) := by simp [hname]
      have he' := List.mem_of_find?_eq_some hfound
      rcases List.prefix_or_prefix_of_prefix hprefix hentity with hlt | hlt
      · rw [h.prefixFree e' he' e he hlt]
      · rw [h.prefixFree e he e' he' hlt]
  have hlength : e.2.length - 1 = name.length := by
    rw [← String.length_toList, hname]
    rfl
  rw [hname, List.cons_append, decodeWith, hfind]
  simp [hlength]

/-- A character that has no entity is read as itself. -/
theorem Readable.decodeWith_char (h : Readable entities) (hc : ∀ e ∈ entities, e.1 ≠ c)
    (rest : List Char) : decodeWith entities (c :: rest) = c :: decodeWith entities rest := by
  have hne : c ≠ '&' := by
    rintro rfl
    obtain ⟨e, he, hamp⟩ := h.ampersand
    exact hc e he hamp
  have hfind : entities.find? (·.2.toList.isPrefixOf (c :: rest)) = none := by
    refine List.find?_eq_none.2 fun e he => ?_
    obtain ⟨name, hname, -⟩ := h.begins e he
    simp [hname, hne.symm]
  rw [decodeWith, hfind]

/-- What is written of a text is read back as the text, whatever entities it holds itself. -/
theorem Readable.decodeWith_flatMap (h : Readable entities) (text : List Char) :
    decodeWith entities (text.flatMap (entityWith entities)) = text := by
  induction text with
  | nil => simp [decodeWith]
  | cons c text ih =>
    rw [List.flatMap_cons]
    rcases entityWith_cases entities c with ⟨e, he, rfl, hentity⟩ | ⟨hnone, hself⟩
    · rw [hentity, h.decodeWith_entity he, ih]
    · rw [hself, List.singleton_append, h.decodeWith_char hnone, ih]

/-! ## What is written -/

/-- An ampersand in what is written of one character begins its entity. -/
theorem Readable.eq_nil_of_ampersand (h : Readable entities)
    (hsplit : entityWith entities c = front ++ '&' :: back) :
    front = [] ∧ ∃ e ∈ entities, e.2.toList = '&' :: back := by
  rcases entityWith_cases entities c with ⟨e, he, -, hentity⟩ | ⟨hnone, hself⟩
  · obtain ⟨name, hname, hnot⟩ := h.begins e he
    rw [hentity, hname] at hsplit
    cases front with
    | nil => exact ⟨rfl, e, he, hname.trans hsplit⟩
    | cons d front =>
      rw [List.cons_append, List.cons.injEq] at hsplit
      exact absurd (by simp [hsplit.2]) hnot
  · obtain ⟨e, he, hamp⟩ := h.ampersand
    have hne : c ≠ '&' := fun hc => hnone e he (hamp.trans hc.symm)
    rw [hself] at hsplit
    cases front <;> simp_all

/-- An ampersand is always the start of an entity. -/
theorem Readable.prefix_of_ampersand (h : Readable entities)
    (hsplit : text.flatMap (entityWith entities) = front ++ '&' :: back) :
    ∃ e ∈ entities, e.2.toList <+: '&' :: back := by
  induction text generalizing front with
  | nil => simp at hsplit
  | cons c text ih =>
    rw [List.flatMap_cons] at hsplit
    rcases List.append_eq_append_iff.1 hsplit with ⟨later, -, hrest⟩ | ⟨early, hfirst, hrest⟩
    · exact ih hrest
    · cases early with
      | nil =>
        have hrest : text.flatMap (entityWith entities) = [] ++ '&' :: back := hrest.symm
        exact ih hrest
      | cons d early =>
        obtain ⟨rfl, hback⟩ := List.cons.inj hrest
        obtain ⟨-, e, he, hentity⟩ := h.eq_nil_of_ampersand hfirst
        refine ⟨e, he, ?_⟩
        simp [hentity, hback]

/-- Of the characters that have an entity, only the ampersand is left. -/
theorem Readable.notMem_flatMap (h : Readable entities) {e : Char × String} (he : e ∈ entities)
    (hne : e.1 ≠ '&') (text : List Char) : e.1 ∉ text.flatMap (entityWith entities) := by
  intro hmem
  obtain ⟨c, -, hc⟩ := List.mem_flatMap.1 hmem
  rcases entityWith_cases entities c with ⟨e', he', -, hentity⟩ | ⟨hnone, hself⟩
  · rw [hentity] at hc
    exact hne (h.disjoint e he e' he' hc)
  · rw [hself, List.mem_singleton] at hc
    exact hnone e he hc

/-! ## Tables -/

/-- Each character of a text that has an entity in the table has been written as this entity, and
nothing else has changed; so the text can be read back, none of these characters is left but for
ampersands, and each of those begins an entity. -/
structure EscapedWith (entities : List (Char × String)) (text escaped : String) : Prop where
  exact : escaped.toList = text.toList.flatMap (entityWith entities)
  decoded : decodeWith entities escaped.toList = text.toList
  notRaw : ∀ e ∈ entities, e.1 ≠ '&' → e.1 ∉ escaped.toList
  ampersands : ∀ front back, escaped.toList = front ++ '&' :: back →
    ∃ e ∈ entities, e.2.toList <+: '&' :: back

/-- What is written with a readable table is text: it is read back, and what the table is for does
not stand in it. -/
theorem Readable.escapedWith (h : Readable entities) {text escaped : String}
    (hexact : escaped.toList = text.toList.flatMap (entityWith entities)) :
    EscapedWith entities text escaped := by
  refine ⟨hexact, ?_, fun e he hne => ?_, fun front back hsplit => ?_⟩
  · rw [hexact, h.decodeWith_flatMap]
  · rw [hexact]
    exact h.notMem_flatMap he hne text.toList
  · exact h.prefix_of_ampersand (hexact.symm.trans hsplit)

theorem readable_attributeEntities : Readable attributeEntities where
  begins := by
    intro e he
    exact ⟨e.2.toList.tail, by revert e; decide, by revert e; decide⟩
  ampersand := by decide
  prefixFree := by decide
  disjoint := by decide

/-- The table for text between tags, which is a part of the other one. -/
theorem readable_bodyEntities : Readable bodyEntities where
  begins := fun e he => readable_attributeEntities.begins e (List.mem_append_left _ he)
  ampersand := by decide
  prefixFree := by decide
  disjoint := by decide

/-- The table says the same as the replacements between tags. -/
theorem entityWith_bodyEntities (c : Char) : entityWith bodyEntities c = bodyEntity c := by
  by_cases hamp : c = '&'
  · subst hamp; rfl
  by_cases hless : c = '<'
  · subst hless; rfl
  by_cases hgreater : c = '>'
  · subst hgreater; rfl
  simp [entityWith, bodyEntities, bodyEntity, hamp, hless, hgreater, Ne.symm hamp, Ne.symm hless,
    Ne.symm hgreater]

/-- The table says the same as the replacements in attributes. -/
theorem entityWith_attributeEntities (c : Char) :
    entityWith attributeEntities c = attributeEntity c := by
  by_cases hquote : c = '\x22'
  · subst hquote; rfl
  rw [attributeEntity, if_neg hquote, ← entityWith_bodyEntities]
  simp [entityWith, attributeEntities, List.find?_append, Ne.symm hquote]

/-- Text between tags is escaped, although it is replaced character by character. -/
theorem escapedWith_replaceBody (text : String) :
    EscapedWith bodyEntities text (replaceBody text) := by
  refine readable_bodyEntities.escapedWith ?_
  rw [replaceBody_eq, escapeBody, String.toList_ofList]
  exact List.flatMap_congr fun c _ => (entityWith_bodyEntities c).symm

/-- Text in an attribute is escaped, although it is replaced character by character. -/
theorem escapedWith_replaceAttribute (text : String) :
    EscapedWith attributeEntities text (replaceAttribute text) := by
  refine readable_attributeEntities.escapedWith ?_
  rw [replaceAttribute_eq, escapeAttribute, String.toList_ofList]
  exact List.flatMap_congr fun c _ => (entityWith_attributeEntities c).symm

end DocPress.Text
