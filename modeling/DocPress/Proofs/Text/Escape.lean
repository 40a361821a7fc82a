import DocPress.Text.Escape

/-!
# DocPress.Proofs.Text.Escape

Replacing one character after the other in a whole text comes to the same as looking at each
character once (`replaceBody_eq`, `replaceAttribute_eq`): the ampersand is replaced first, and no
entity holds any other character that is replaced. So what is written has none of the characters
that could open or close a tag, and one pass over it gives the text back
(`decodeEntities_replaceAttribute`).
-/

namespace DocPress.Text

/-! ## Replacements in a row -/

/-- A replacement comes to each character of a text in turn. -/
theorem replaceChar_flatMap (c : Char) (entity : String) (text : List Char) (f : Char → List Char) :
    replaceChar c entity (text.flatMap f) = text.flatMap fun d => replaceChar c entity (f d) :=
  List.flatMap_assoc

/-- What the replacements between tags make of one character. -/
theorem replaceChars_singleton (c : Char) :
    replaceChar '>' "&gt;" (replaceChar '<' "&lt;" (replaceChar '&' "&amp;" [c])) =
      bodyEntity c := by
  unfold bodyEntity
  by_cases hamp : c = '&'
  · subst hamp
    decide
  by_cases hless : c = '<'
  · subst hless
    decide
  by_cases hgreater : c = '>'
  · subst hgreater
    decide
  simp [replaceChar, hamp, hless, hgreater]

/-- The replacements between tags, one after the other, come to one pass. -/
theorem replaceChars_eq (text : List Char) :
    replaceChar '>' "&gt;" (replaceChar '<' "&lt;" (replaceChar '&' "&amp;" text)) =
      text.flatMap bodyEntity := by
  rw [show replaceChar '&' "&amp;" text = text.flatMap fun c => replaceChar '&' "&amp;" [c] by
    simp [replaceChar]]
  rw [replaceChar_flatMap, replaceChar_flatMap]
  simp only [replaceChars_singleton]

/-- So text between tags is escaped character by character. -/
theorem replaceBody_eq (text : String) : replaceBody text = escapeBody text := by
  rw [replaceBody, replaceChars_eq, escapeBody]

/-- In an attribute a quote is replaced last, and no entity holds one. -/
theorem replaceChar_quote_bodyEntity (c : Char) :
    replaceChar '\x22' "&quot;" (bodyEntity c) = attributeEntity c := by
  by_cases hquote : c = '\x22'
  · subst hquote
    decide
  by_cases hamp : c = '&'
  · subst hamp
    decide
  by_cases hless : c = '<'
  · subst hless
    decide
  by_cases hgreater : c = '>'
  · subst hgreater
    decide
  simp [attributeEntity, bodyEntity, replaceChar, hquote, hamp, hless, hgreater]

/-- Text in attributes is escaped character by character, too. -/
theorem replaceAttribute_eq (text : String) : replaceAttribute text = escapeAttribute text := by
  rw [replaceAttribute, replaceChars_eq, replaceChar_flatMap, escapeAttribute]
  simp only [replaceChar_quote_bodyEntity]

/-! ## What is not written -/

section Characters

variable {text : String} {c d : Char}

/-- A character is written as itself or with the characters of an entity. -/
theorem mem_bodyEntity (h : d ∈ bodyEntity c) :
    (d = c ∧ c ≠ '&' ∧ c ≠ '<' ∧ c ≠ '>') ∨ d ∈ "&ampltg;".toList := by
  have hamp : "&amp;".toList ⊆ "&ampltg;".toList := by decide +kernel
  have hless : "&lt;".toList ⊆ "&ampltg;".toList := by decide +kernel
  have hgreater : "&gt;".toList ⊆ "&ampltg;".toList := by decide +kernel
  unfold bodyEntity at h
  split at h
  · exact .inr (hamp h)
  split at h
  · exact .inr (hless h)
  split at h
  · exact .inr (hgreater h)
  · left
    rw [List.mem_singleton] at h
    refine ⟨h, ?_, ?_, ?_⟩ <;> assumption

/-- What is written of a character is the character itself, unless it is escaped, or belongs to an
entity. -/
theorem mem_attributeEntity (h : d ∈ attributeEntity c) :
    (d = c ∧ c ≠ '&' ∧ c ≠ '<' ∧ c ≠ '>' ∧ c ≠ '\x22') ∨ d ∈ "&ampltgquo;".toList := by
  have hquot : "&quot;".toList ⊆ "&ampltgquo;".toList := by decide +kernel
  have hbody : "&ampltg;".toList ⊆ "&ampltgquo;".toList := by decide +kernel
  unfold attributeEntity at h
  split at h
  · exact .inr (hquot h)
  · next hquote =>
    rcases mem_bodyEntity h with ⟨hd, hamp, hless, hgreater⟩ | hentity
    · exact .inl ⟨hd, hamp, hless, hgreater, hquote⟩
    · exact .inr (hbody hentity)

/-- Text between tags opens and closes none. -/
theorem ne_of_mem_replaceBody (h : c ∈ (replaceBody text).toList) : c ≠ '<' ∧ c ≠ '>' := by
  rw [replaceBody_eq, escapeBody, String.toList_ofList, List.mem_flatMap] at h
  obtain ⟨_, -, hc⟩ := h
  rcases mem_bodyEntity hc with ⟨rfl, -, hless, hgreater⟩ | hentity
  · exact ⟨hless, hgreater⟩
  · constructor <;> rintro rfl <;> exact absurd hentity (by decide)

/-- Text in an attribute does not end it, either. -/
theorem ne_of_mem_replaceAttribute (h : c ∈ (replaceAttribute text).toList) :
    c ≠ '<' ∧ c ≠ '>' ∧ c ≠ '\x22' := by
  rw [replaceAttribute_eq, escapeAttribute, String.toList_ofList, List.mem_flatMap] at h
  obtain ⟨_, -, hc⟩ := h
  rcases mem_attributeEntity hc with ⟨rfl, -, hless, hgreater, hquote⟩ | hentity
  · exact ⟨hless, hgreater, hquote⟩
  · refine ⟨?_, ?_, ?_⟩ <;> rintro rfl <;> exact absurd hentity (by decide)

end Characters

/-! ## Reading back -/

/-- Reads each entity as the character that it stands for, from the left, and all else as it is. -/
def decodeEntities : List Char → List Char
  | '&' :: 'a' :: 'm' :: 'p' :: ';' :: rest => '&' :: decodeEntities rest
  | '&' :: 'l' :: 't' :: ';' :: rest => '<' :: decodeEntities rest
  | '&' :: 'g' :: 't' :: ';' :: rest => '>' :: decodeEntities rest
  | '&' :: 'q' :: 'u' :: 'o' :: 't' :: ';' :: rest => '\x22' :: decodeEntities rest
  | c :: rest => c :: decodeEntities rest
  | [] => []

/-- Only an ampersand can begin an entity. -/
theorem decodeEntities_cons_of_ne {c : Char} (h : c ≠ '&') (rest : List Char) :
    decodeEntities (c :: rest) = c :: decodeEntities rest := by
  rw [decodeEntities] <;> simp [h]

/-- What is written of a character is read back as the character. -/
theorem decodeEntities_attributeEntity (c : Char) (rest : List Char) :
    decodeEntities (attributeEntity c ++ rest) = c :: decodeEntities rest := by
  unfold attributeEntity bodyEntity
  split
  · next h => subst h; rfl
  split
  · next h => subst h; rfl
  split
  · next h => subst h; rfl
  split
  · next h => subst h; rfl
  · exact decodeEntities_cons_of_ne (by assumption) rest

/-- What is written of a text is read back as the text, whatever entities it holds itself. -/
theorem decodeEntities_replaceAttribute (text : String) :
    decodeEntities (replaceAttribute text).toList = text.toList := by
  rw [replaceAttribute_eq, escapeAttribute, String.toList_ofList]
  induction text.toList with
  | nil => rfl
  | cons c text ih => rw [List.flatMap_cons, decodeEntities_attributeEntity, ih]

end DocPress.Text
