import DocPress.Proofs.Document.Entries

/-!
# DocPress.Proofs.Document.Markup

The tags of a table of contents are those of its headings' levels and ids; their texts have no part
in them (`markup_renderToc`). So a text can neither open a tag nor close one.
-/

namespace DocPress.Document

open DocPress.Text

variable {a a' b b' : List Char} {c : Char} {h : Heading} {hs hs' : List Heading}

/-! ## Tags -/

/-- A reader that was in a tag, or outside, is in one after a character. -/
def tagAfter (inTag : Bool) (c : Char) : Bool :=
  if inTag then c != '>' else c == '<'

/-- The tags of an HTML text, one behind the other, from `<` to `>`. -/
def markupFrom (inTag : Bool) : List Char → List Char
  | [] => []
  | c :: rest =>
    if inTag || c == '<' then c :: markupFrom (tagAfter inTag c) rest
    else markupFrom (tagAfter inTag c) rest

/-- The tags of an HTML text, one behind the other. -/
def markup (html : String) : String :=
  String.ofList (markupFrom false html.toList)

/-- The tags of a text and of what follows it, where the reader is in a tag or not. -/
theorem markupFrom_append (inTag : Bool) (a b : List Char) :
    markupFrom inTag (a ++ b) = markupFrom inTag a ++ markupFrom (a.foldl tagAfter inTag) b := by
  induction a generalizing inTag with
  | nil => rfl
  | cons c a ih =>
    rw [List.cons_append, markupFrom, markupFrom, List.foldl_cons]
    split <;> simp [ih]

/-- Behind a text no tag is open. -/
def IsClosed (a : List Char) : Prop :=
  a.foldl tagAfter false = false

/-- Texts with the same tags, none of which is left open. -/
def SameMarkup (a a' : List Char) : Prop :=
  markupFrom false a = markupFrom false a' ∧ IsClosed a ∧ IsClosed a'

theorem IsClosed.append (ha : IsClosed a) (hb : IsClosed b) : IsClosed (a ++ b) := by
  rw [IsClosed, List.foldl_append, ha, hb]

theorem keptByAppend_isClosed : KeptByAppend IsClosed where
  nil := rfl
  append := IsClosed.append

/-- Texts with the same tags piece by piece. -/
theorem SameMarkup.append (ha : SameMarkup a a') (hb : SameMarkup b b') :
    SameMarkup (a ++ b) (a' ++ b') := by
  obtain ⟨ha, hend, hend'⟩ := ha
  obtain ⟨hb, hend₂, hend₂'⟩ := hb
  refine ⟨?_, hend.append hend₂, hend'.append hend₂'⟩
  rw [markupFrom_append, markupFrom_append, hend, hend', ha, hb]

theorem SameMarkup.of_closed (h : IsClosed a) : SameMarkup a a :=
  ⟨rfl, h, h⟩

/-- A text without tags leaves none open. -/
theorem isClosed_of_notMem (h : '<' ∉ a) : IsClosed a := by
  induction a with
  | nil => rfl
  | cons c a ih =>
    rw [List.mem_cons, not_or] at h
    have hc : tagAfter false c = false := by simp [tagAfter, Ne.symm h.1]
    rw [IsClosed, List.foldl_cons, hc, ih h.2]

/-- A text without tags adds nothing to them. -/
theorem markupFrom_of_notMem (h : '<' ∉ a) : markupFrom false a = [] := by
  induction a with
  | nil => rfl
  | cons c a ih =>
    rw [List.mem_cons, not_or] at h
    have hc : (c == '<') = false := by simp [Ne.symm h.1]
    simp [markupFrom, tagAfter, hc, ih h.2]

/-- Texts in which no tag begins. -/
theorem SameMarkup.of_notMem (ha : '<' ∉ a) (ha' : '<' ∉ a') : SameMarkup a a' :=
  ⟨by rw [markupFrom_of_notMem ha, markupFrom_of_notMem ha'], isClosed_of_notMem ha,
    isClosed_of_notMem ha'⟩

/-- Behind `>` no tag is open, whatever stands in front of it. -/
theorem isClosed_concat (a : List Char) : IsClosed (a ++ ['>']) := by
  rw [IsClosed, List.foldl_append]
  generalize a.foldl tagAfter false = after
  cases after <;> rfl

/-! ## Tables of contents -/

/-- A heading without its text. -/
def Heading.withoutText (h : Heading) : Heading :=
  { h with text := "" }

theorem level_withoutText (h : Heading) : h.withoutText.level = h.level :=
  rfl

/-- The text of an entry adds nothing to its tags, whatever the id holds. -/
theorem sameMarkup_tocEntry (h : Heading) :
    SameMarkup (tocEntry h).toList (tocEntry h.withoutText).toList := by
  have htext : SameMarkup (replaceAttribute h.text).toList (replaceAttribute "").toList :=
    .of_notMem (notMem_replaceAttribute _) (notMem_replaceAttribute _)
  unfold tocEntry Heading.withoutText
  cases h.id with
  | none => exact htext
  | some id =>
    have hstart : SameMarkup ("<a href=\"#" ++ id ++ "\">").toList
        ("<a href=\"#" ++ id ++ "\">").toList := by
      have hsplit : ("<a href=\"#" ++ id ++ "\">").toList =
          ("<a href=\"#".toList ++ (id.toList ++ ['\x22'])) ++ ['>'] := by
        simp [String.toList_append]
      rw [hsplit]
      exact .of_closed (isClosed_concat _)
    have hend : SameMarkup "</a>".toList "</a>".toList := .of_closed rfl
    have hentry := (hstart.append htext).append hend
    simpa only [String.toList_append] using hentry

/-- Lists are opened and closed by whole tags. -/
theorem isClosed_tocStep (opened depth : Nat) : IsClosed (tocStep opened depth).1.toList :=
  keptByAppend_isClosed.tocStep rfl rfl rfl rfl opened depth

/-- The induction is on the entries, whatever lists are open. -/
theorem sameMarkup_tocEntries (opened : Nat) (entries : List (Heading × Nat)) :
    SameMarkup (tocEntries opened entries).toList
      (tocEntries opened (entries.map fun entry => (entry.1.withoutText, entry.2))).toList := by
  induction entries generalizing opened with
  | nil =>
    have hend : IsClosed "</li>\n</ul>\n".toList := rfl
    exact .of_closed (keptByAppend_isClosed.replicate hend opened)
  | cons entry entries ih =>
    have hstep := SameMarkup.of_closed (isClosed_tocStep opened entry.2)
    have hitem : SameMarkup "<li>".toList "<li>".toList := .of_closed rfl
    rw [List.map_cons, tocEntries_cons, tocEntries_cons]
    exact hstep.append (hitem.append ((sameMarkup_tocEntry entry.1).append (ih _)))

/-- The tags of a table of contents are those of the headings without texts. -/
theorem markup_withoutText (hs : List Heading) :
    markup (renderToc hs) = markup (renderToc (hs.map Heading.withoutText)) := by
  have hstart : SameMarkup "<div class=\"toc\">\n".toList "<div class=\"toc\">\n".toList :=
    .of_closed rfl
  have hnone : SameMarkup (if hs.isEmpty then "<ul></ul>\n" else "").toList
      (if hs.isEmpty then "<ul></ul>\n" else "").toList := by
    split <;> exact .of_closed rfl
  have hend : SameMarkup "</div>\n".toList "</div>\n".toList := .of_closed rfl
  have hentries := sameMarkup_tocEntries 0 (hs.zip (tocDepths (hs.map (·.level))))
  rw [renderToc_map level_withoutText]
  unfold renderToc markup
  simp only [String.toList_append]
  rw [(((hstart.append hentries).append hnone).append hend).1]

/-- The tags of a table of contents hang on the levels and ids of its headings alone. -/
theorem markup_renderToc (h : hs.map (fun h => (h.level, h.id)) = hs'.map fun h => (h.level, h.id)) :
    markup (renderToc hs) = markup (renderToc hs') := by
  have hheadings (hs : List Heading) : hs.map Heading.withoutText =
      (hs.map fun h => (h.level, h.id)).map fun (level, id) => ⟨level, "", id⟩ := by
    rw [List.map_map]
    rfl
  rw [markup_withoutText hs, markup_withoutText hs', hheadings hs, hheadings hs', h]

end DocPress.Document
