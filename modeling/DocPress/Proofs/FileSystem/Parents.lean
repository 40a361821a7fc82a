import Mathlib.Data.List.Basic
import DocPress.Proofs.FileSystem.Segments

/-!
# DocPress.Proofs.FileSystem.Parents

The parent of a path is found in its text, and the directory of what a path names by walking. They
are the same: the parent has the same segments as the path, but for the last one and for segments
`.`, which lead nowhere (`Files.Names.exists_parent`).
-/

namespace DocPress.FileSystem

/-! ## Texts in pieces -/

/-- A slash parts the segments before it from those behind it. -/
theorem namedSegments_ofList_slash (a b : List Char) :
    namedSegments (String.ofList (a ++ '/' :: b)) =
      namedSegments (String.ofList a) ++ namedSegments (String.ofList b) := by
  rw [← namedSegments_append_slash, ← List.singleton_append, String.ofList_append,
    String.ofList_append, String.append_assoc]

theorem namedSegments_nil : namedSegments (String.ofList []) = [] := rfl

theorem namedSegments_root : namedSegments "/" = [] := by decide

/-- A place in a text at which a segment begins: its start, or behind a slash. -/
def IsStart (before : List Char) : Prop :=
  before = [] ∨ ∃ front, before = front ++ ['/']

/-- A segment that begins where one may is the last one of the path. -/
theorem namedSegments_of_isStart {before segment : List Char} (h : IsStart before)
    (hslash : '/' ∉ segment) (hsegment : segment ≠ []) :
    namedSegments (String.ofList (before ++ segment)) =
      namedSegments (String.ofList before) ++ [String.ofList segment] := by
  have hname : IsSegment (String.ofList segment) := ⟨by simpa using hsegment, by simpa using hslash⟩
  rcases h with rfl | ⟨front, rfl⟩
  · rw [List.nil_append, namedSegments_of_isSegment hname]
    rfl
  · rw [List.append_assoc, List.singleton_append, namedSegments_ofList_slash,
      namedSegments_of_isSegment hname, namedSegments_ofList_slash, namedSegments_nil,
      List.append_nil]

/-! ## Parts -/

/-- Parts of a text behind some of its segments: each brings one segment, and segments `.` may stand
before it and behind the last. -/
inductive PartsOf (text : List Char) : List String → List (PathPart × List Char) → Prop
  | nil (htext : namedSegments (String.ofList text) = base ++ List.replicate k ".") :
      PartsOf text base []
  | cons (hpart : part ≠ .root) (hupTo : upTo <+: text)
      (hsegments : namedSegments (String.ofList upTo) = base ++ List.replicate k "." ++ [name])
      (hrest : PartsOf text (namedSegments (String.ofList upTo)) parts) :
      PartsOf text base ((part, upTo) :: parts)

variable {text before segment rest upTo : List Char} {base : List String} {k : Nat}
variable {parts more : List (PathPart × List Char)} {part : PathPart} {path parent name : String}

/-- One more segment `.` may have come before. -/
theorem PartsOf.of_here (h : PartsOf text (base ++ ["."]) parts) : PartsOf text base parts := by
  have hshift (k : Nat) : base ++ ["."] ++ List.replicate k "." =
      base ++ List.replicate (k + 1) "." := by
    rw [List.append_assoc, List.singleton_append, ← List.replicate_succ]
  cases h with
  | nil htext => exact .nil (htext.trans (hshift _))
  | cons hpart hupTo hsegments hrest =>
    rw [hshift] at hsegments
    exact .cons hpart hupTo hsegments hrest

/-- Only the slash at the start of a path stands for the root. -/
theorem PathPart.ofSegment_ne_root (segment : List Char) : PathPart.ofSegment segment ≠ .root := by
  unfold PathPart.ofSegment
  split
  · simp
  · split <;> simp

/-- A segment that is complete comes before the parts behind it. -/
theorem PartsOf.part_append (hstart : IsStart before) (hslash : '/' ∉ segment)
    (hupTo : before ++ segment <+: text)
    (h : PartsOf text (namedSegments (String.ofList (before ++ segment))) parts) :
    PartsOf text (namedSegments (String.ofList before))
      (partsFrom.part (before ++ segment).reverse segment.reverse ++ parts) := by
  by_cases hempty : segment = []
  · subst hempty
    simpa [partsFrom.part] using h
  · have hsegments := namedSegments_of_isStart hstart hslash hempty
    unfold partsFrom.part
    split
    · next hskip =>
      have hhere : segment = ['.'] := by simp_all
      rw [hsegments, hhere] at h
      exact h.of_here
    · rw [List.reverse_reverse, List.reverse_reverse, List.singleton_append]
      exact .cons (k := 0) (PathPart.ofSegment_ne_root _) hupTo (by simpa using hsegments) h

/-- A text is read in parts. The induction is on what is left of it; the segment that is not
complete grows until a slash or the end is met. -/
theorem partsOf_partsFrom (hstart : IsStart before) (hslash : '/' ∉ segment) (rest : List Char) :
    PartsOf (before ++ segment ++ rest) (namedSegments (String.ofList before))
      (partsFrom (before ++ segment).reverse segment.reverse rest) := by
  induction rest generalizing before segment with
  | nil =>
    rw [List.append_nil, partsFrom, ← List.append_nil (partsFrom.part _ _)]
    exact .part_append hstart hslash (List.prefix_refl _) (.nil (k := 0) (by simp))
  | cons c rest ih =>
    rw [partsFrom]
    split
    · next hc =>
      subst hc
      have hbehind := @ih (before ++ segment ++ ['/']) [] (.inr ⟨_, rfl⟩) (by simp)
      rw [namedSegments_ofList_slash, namedSegments_nil, List.append_nil] at hbehind
      exact .part_append hstart hslash (List.prefix_append _ _) (by simpa using hbehind)
    · next hc =>
      have hmore := @ih before (segment ++ [c]) hstart (by simp [hslash, Ne.symm hc])
      simpa using hmore

/-- What is behind some parts of a text are parts of it, too. -/
theorem PartsOf.of_append (h : PartsOf text base (parts ++ (part, upTo) :: more)) :
    part ≠ .root ∧ upTo <+: text ∧ PartsOf text (namedSegments (String.ofList upTo)) more := by
  induction parts generalizing base with
  | nil =>
    cases h with
    | cons hpart hupTo hsegments hrest => exact ⟨hpart, hupTo, hrest⟩
  | cons first parts ih =>
    cases h with
    | cons _ _ _ hrest => exact ih hrest

/-- A text without parts has no segments but `.`. -/
theorem PartsOf.eq_here (h : PartsOf text [] [])
    (hname : name ∈ namedSegments (String.ofList text)) : name = "." := by
  cases h with
  | nil htext =>
    rw [htext, List.nil_append] at hname
    exact List.eq_of_mem_replicate hname

/-- What comes before the last part comes before the last segment. -/
theorem PartsOf.prefix_dropLast (h : PartsOf text base [(part, upTo)]) :
    base <+: (namedSegments (String.ofList text)).dropLast := by
  cases h with
  | @cons _ _ _ k name _ _ _ hsegments hrest =>
    cases hrest with
    | @nil _ j htext =>
      rw [htext, hsegments]
      cases j with
      | zero => exact ⟨List.replicate k ".", by simp⟩
      | succ j =>
        rw [List.replicate_succ', ← List.append_assoc, List.dropLast_concat]
        exact ⟨List.replicate k "." ++ [name] ++ List.replicate j ".", by simp⟩

/-- The segments before the last one are those before the last part. -/
theorem PartsOf.dropLast_eq (h : PartsOf text base [(part, upTo)])
    (hlast : (namedSegments (String.ofList text)).getLast? = some name) (hname : name ≠ ".") :
    ∃ k, (namedSegments (String.ofList text)).dropLast = base ++ List.replicate k "." := by
  cases h with
  | @cons _ _ _ k _ _ _ _ hsegments hrest =>
    cases hrest with
    | @nil _ j htext =>
      rw [htext, hsegments] at hlast ⊢
      cases j with
      | zero => exact ⟨k, by simp⟩
      | succ j =>
        rw [List.replicate_succ', ← List.append_assoc, List.getLast?_concat] at hlast
        exact absurd (Option.some.inj hlast).symm hname

/-! ## Parents -/

/-- A text is read as its parts; the root comes before all others. -/
theorem partsOf_pathParts (text : List Char) :
    (∃ rest parts, text = '/' :: rest ∧ pathParts text = (.root, ['/']) :: parts ∧
      PartsOf text [] parts) ∨ PartsOf text [] (pathParts text) := by
  unfold pathParts
  split
  · next rest =>
    exact .inl ⟨rest, _, rfl, rfl, @partsOf_partsFrom ['/'] [] (.inr ⟨[], rfl⟩) (by simp) rest⟩
  · exact .inr (@partsOf_partsFrom [] [] (.inl rfl) (by simp) text)

/-- The parent ends where the part before the last one does; without such a part it is empty. -/
theorem parent?_of_concat (h : pathParts path.toList = parts ++ [(part, upTo)])
    (hpart : part ≠ .root) : parent? path = some (match parts.getLast? with
      | some (_, before) => String.ofList before
      | none => "") := by
  rw [parent?, h, List.reverse_append, List.reverse_singleton, List.singleton_append,
    List.getLast?_eq_head?_reverse]
  cases parts.reverse <;> cases part <;> first | rfl | contradiction

/-- The text up to the last part but one is the parent. -/
theorem parent?_of_two {q : PathPart} {before : List Char}
    (hparts : pathParts path.toList = front ++ (more ++ [(q, before)] ++ [(part, upTo)]))
    (h : PartsOf path.toList [] (more ++ [(q, before)] ++ [(part, upTo)])) :
    parent? path = some (String.ofList before) ∧ (∃ rest, path = String.ofList before ++ rest) ∧
      PartsOf path.toList (namedSegments (String.ofList before)) [(part, upTo)] := by
  have hpart := h.of_append.1
  rw [List.append_assoc, List.singleton_append] at h
  obtain ⟨-, ⟨rest, hrest⟩, hbehind⟩ := h.of_append
  refine ⟨?_, ⟨String.ofList rest, String.toList_inj.1 (by simpa using hrest.symm)⟩, hbehind⟩
  rw [parent?_of_concat (by rw [hparts, ← List.append_assoc]) hpart]
  simp

/-- The parent of a path stands at its start, and one part is behind it. A path without a parent has
no parts. -/
theorem parent?_cases (path : String) :
    (parent? path = none ∧ PartsOf path.toList [] []) ∨
      ∃ parent part upTo, parent? path = some parent ∧ (∃ rest, path = parent ++ rest) ∧
        PartsOf path.toList (namedSegments parent) [(part, upTo)] := by
  rcases partsOf_pathParts path.toList with ⟨rest, parts, htext, hparts, h⟩ | h
  · rcases List.eq_nil_or_concat' parts with rfl | ⟨front, ⟨part, upTo⟩, rfl⟩
    · exact .inl ⟨by simp [parent?, hparts], h⟩
    · rcases List.eq_nil_or_concat' front with rfl | ⟨more, ⟨q, before⟩, rfl⟩
      · refine .inr ⟨"/", part, upTo, ?_, ⟨String.ofList rest, ?_⟩, ?_⟩
        · exact @parent?_of_concat _ [(.root, ['/'])] _ _ hparts
            (@PartsOf.of_append _ _ [] _ _ _ h).1
        · exact String.toList_inj.1 (by simpa using htext)
        · rwa [namedSegments_root]
      · exact .inr ⟨_, part, upTo, parent?_of_two (List.singleton_append ▸ hparts) h⟩
  · rcases List.eq_nil_or_concat' (pathParts path.toList) with hparts |
      ⟨front, ⟨part, upTo⟩, hparts⟩
    · exact .inl ⟨by simp [parent?, hparts], hparts ▸ h⟩
    · rw [hparts] at h
      rcases List.eq_nil_or_concat' front with rfl | ⟨more, ⟨q, before⟩, rfl⟩
      · refine .inr ⟨"", part, upTo, ?_, ⟨path, String.empty_append.symm⟩, h⟩
        exact @parent?_of_concat _ [] _ _ hparts (@PartsOf.of_append _ _ [] _ _ _ h).1
      · exact .inr ⟨_, part, upTo, parent?_of_two (hparts.trans (List.nil_append _).symm) h⟩

/-- The parent of a path, which has its segments but for the last one and perhaps more. -/
theorem parent?_starts (h : parent? path = some parent) :
    (∃ rest, path = parent ++ rest) ∧ namedSegments parent <+: (namedSegments path).dropLast := by
  rcases parent?_cases path with ⟨hnone, -⟩ | ⟨parent', part, upTo, hparent, hstart, hparts⟩
  · rw [hnone] at h
    contradiction
  · obtain rfl : parent' = parent := Option.some.inj (hparent.symm.trans h)
    exact ⟨hstart, by simpa using hparts.prefix_dropLast⟩

/-- The parent of a path stands at its start, and has its segments but for the last one. -/
structure IsParentOf (parent path : String) : Prop where
  found : parent? path = some parent
  start : ∃ rest, path = parent ++ rest
  segments : ∃ k, (namedSegments path).dropLast = namedSegments parent ++ List.replicate k "."

/-- A path whose last segment is a name has a parent. -/
theorem exists_isParentOf (hlast : (namedSegments path).getLast? = some name) (hname : name ≠ ".") :
    ∃ parent, IsParentOf parent path := by
  rcases parent?_cases path with ⟨-, hparts⟩ | ⟨parent, part, upTo, hparent, hstart, hparts⟩
  · have hmem : name ∈ namedSegments (String.ofList path.toList) := by
      simpa using List.mem_of_getLast? hlast
    exact absurd (hparts.eq_here hmem) hname
  · refine ⟨parent, hparent, hstart, ?_⟩
    simpa using hparts.dropLast_eq (by simpa using hlast) hname

namespace Files

variable {fs : Files} {l : Location}

/-- The start of a path can be a path itself. -/
theorem checkPath_of_append {a b : String} (h : checkPath (a ++ b) = .ok ()) (ha : a ≠ "") :
    checkPath a = .ok () := by
  obtain ⟨-, hnul, hlong⟩ := checkPath_eq_ok_iff.1 h
  rw [String.toList_append, List.mem_append, not_or] at hnul
  rw [String.utf8ByteSize_append] at hlong
  exact checkPath_eq_ok_iff.2 ⟨ha, hnul.1, by omega⟩

/-- The parent of a path leads to the directory of what the path names. -/
theorem Names.exists_parent (h : fs.Names path l) :
    ∃ parent, parent? path = some parent ∧ (parent ≠ "" → fs.isDirectory parent = true) := by
  obtain ⟨d, name, hcheck, hwalk, hd, hlast, hname, rfl⟩ := names_iff.1 h
  obtain ⟨parent, hparent⟩ := exists_isParentOf hlast hname.ne_here
  refine ⟨parent, hparent.found, fun hne => ?_⟩
  obtain ⟨rest, rfl⟩ := hparent.start
  obtain ⟨k, hsegments⟩ := hparent.segments
  obtain ⟨m, hwalks⟩ := walk_eq_ok_iff.1 hwalk
  rw [hsegments, origin, isAbsolute_append hne] at hwalks
  exact isDirectory_of_walks (checkPath_of_append hcheck hne) hwalks.of_append_here hd

end Files

end DocPress.FileSystem
