import Mathlib.Data.List.Induction
import Mathlib.Data.List.TakeWhile
import DocPress.Proofs.FileSystem.Parents

/-!
# DocPress.Proofs.FileSystem.Extension

The path that comes of giving the file at the end of another path a new extension:

1. A path that ends in a name has that as its file name (`fileName?_of_isStart`).
2. The extension of a name is what stands behind its last point (`extension?_eq_some_iff`).
3. So the new path stands in the same directory, and its name is one of three (`Renamed`): without
   an extension it gets one, and an old extension makes way for the new one. But where the old
   extension leaves nothing but `..`, that is no name any more, and the new extension is lost.

The new path is the old one exactly if the name has the extension already (`Renamed.eq_iff`).
-/

namespace DocPress.FileSystem

/-- A file name falls into a stem and an extension, with its last point between them. -/
structure HasExtension (name stem extension : List Char) : Prop where
  eq : name = stem ++ '.' :: extension
  stem : stem ≠ []
  no_point : '.' ∉ extension

/-- What becomes of a file name that is given an extension. -/
inductive Renamed (extension name : List Char) : List Char → Prop
  | added (h : ∀ stem old, ¬ HasExtension name stem old) :
      Renamed extension name (name ++ '.' :: extension)
  | replaced (h : HasExtension name stem old) (hstem : stem ≠ ['.']) :
      Renamed extension name (stem ++ '.' :: extension)
  | lost (h : HasExtension name ['.'] old) : Renamed extension name ['.', '.']

variable {read segment front name text stem stem' old old' extension new : List Char}

/-! ## Names at the end of paths -/

/-- Without a slash the segment grows up to the end. -/
theorem partsFrom_of_no_slash (h : '/' ∉ text) : partsFrom read segment text =
    partsFrom.part (text.reverse ++ read) (text.reverse ++ segment) := by
  induction text generalizing read segment with
  | nil => rfl
  | cons c text ih =>
    rw [List.mem_cons, not_or] at h
    rw [partsFrom, if_neg (Ne.symm h.1), ih h.2]
    simp

/-- Behind a slash a new segment begins. -/
theorem partsFrom_append_slash (before rest : List Char) :
    ∃ parts, partsFrom read segment (before ++ '/' :: rest) =
      parts ++ partsFrom ('/' :: (before.reverse ++ read)) [] rest := by
  induction before generalizing read segment with
  | nil => exact ⟨partsFrom.part read segment, by simp [partsFrom]⟩
  | cons c before ih =>
    rw [List.cons_append, partsFrom]
    split
    · obtain ⟨parts, hparts⟩ := @ih (c :: read) []
      exact ⟨partsFrom.part read segment ++ parts, by simp [hparts]⟩
    · obtain ⟨parts, hparts⟩ := @ih (c :: read) (c :: segment)
      exact ⟨parts, by simp [hparts]⟩

/-- The last part of a text that ends in a name. -/
theorem partsFrom_of_isStart (hstart : IsStart front) (hslash : '/' ∉ name) (hne : name ≠ [])
    (hhere : name ≠ ['.']) : ∃ parts, partsFrom read [] (front ++ name) =
      parts ++ [(.ofSegment name, read.reverse ++ (front ++ name))] := by
  have hpart (read : List Char) : partsFrom read [] name =
      [(.ofSegment name, read.reverse ++ name)] := by
    rw [partsFrom_of_no_slash hslash, partsFrom.part]
    simp [hne, hhere]
  rcases hstart with rfl | ⟨before, rfl⟩
  · exact ⟨[], hpart read⟩
  · obtain ⟨parts, hparts⟩ := @partsFrom_append_slash read [] before name
    refine ⟨parts, ?_⟩
    rw [List.append_assoc, List.singleton_append, hparts, hpart]
    simp

/-- The last part of a path that ends in a name. -/
theorem pathParts_of_isStart (hstart : IsStart front) (hslash : '/' ∉ name) (hne : name ≠ [])
    (hhere : name ≠ ['.']) :
    ∃ parts, pathParts (front ++ name) = parts ++ [(.ofSegment name, front ++ name)] := by
  by_cases habsolute : ∃ rest, front ++ name = '/' :: rest
  · obtain ⟨rest, hrest⟩ := habsolute
    cases front with
    | nil => exact absurd (show '/' ∈ name by simp_all) hslash
    | cons c front =>
      obtain rfl : c = '/' := (List.cons.inj hrest).1
      have hstart' : IsStart front := by
        rcases hstart with hnil | ⟨before, hbefore⟩
        · cases hnil
        · cases before with
          | nil => exact .inl (List.cons.inj hbefore).2
          | cons _ before => exact .inr ⟨before, (List.cons.inj hbefore).2⟩
      obtain ⟨parts, hparts⟩ := @partsFrom_of_isStart ['/'] _ _ hstart' hslash hne hhere
      refine ⟨(.root, ['/']) :: parts, ?_⟩
      rw [List.cons_append, pathParts, hparts]
      simp
  · obtain ⟨parts, hparts⟩ := @partsFrom_of_isStart [] _ _ hstart hslash hne hhere
    refine ⟨parts, ?_⟩
    unfold pathParts
    split
    · next rest hrest => exact absurd ⟨rest, hrest⟩ habsolute
    · exact hparts

/-- The file name of a path that ends in a name; `..` is none. -/
theorem fileName?_of_isStart (hstart : IsStart front) (hslash : '/' ∉ name) (hne : name ≠ [])
    (hhere : name ≠ ['.']) : fileName? (front ++ name) =
      if name = ['.', '.'] then none else some (name, front ++ name) := by
  obtain ⟨parts, hparts⟩ := pathParts_of_isStart hstart hslash hne hhere
  rw [fileName?, hparts, List.reverse_append, List.reverse_singleton, List.singleton_append,
    PathPart.ofSegment, if_neg hhere]
  by_cases hup : name = ['.', '.']
  · rw [if_pos hup, if_pos hup]
  · rw [if_neg hup, if_neg hup]

/-! ## Extensions -/

/-- Without a point, the search from the end goes through the whole text. -/
theorem takeWhile_of_no_point (h : '.' ∉ text) :
    text.reverse.takeWhile (· != '.') = text.reverse := by
  rw [List.takeWhile_eq_self_iff]
  intro c hc
  have hne : c ≠ '.' := fun heq => h (heq ▸ List.mem_reverse.1 hc)
  simpa using hne

/-- A name without a point has no extension. -/
theorem extension?_of_no_point (h : '.' ∉ name) : extension? name = none := by
  rw [extension?, takeWhile_of_no_point h, List.reverse_reverse, if_neg (by omega)]

/-- What stands behind the last point is an extension unless nothing stands before the point. -/
theorem extension?_append (stem : List Char) (h : '.' ∉ old) :
    extension? (stem ++ '.' :: old) = if stem = [] then none else some old := by
  have htake : (stem ++ '.' :: old).reverse.takeWhile (· != '.') = old.reverse := by
    rw [List.reverse_append, List.reverse_cons, List.append_assoc, List.takeWhile_append,
      takeWhile_of_no_point h]
    simp
  rw [extension?, htake, List.reverse_reverse, List.length_append, List.length_cons]
  cases stem with
  | nil => simp
  | cons c stem => simp

/-- The extension of a name is what stands behind its last point, unless that comes first. -/
theorem extension?_eq_some_iff :
    extension? name = some old ↔ ∃ stem, HasExtension name stem old := by
  constructor
  · intro h
    by_cases hpoint : '.' ∈ name
    · obtain ⟨behind, before, hsplit, hbehind⟩ :=
        List.eq_append_cons_of_mem (List.mem_reverse.2 hpoint)
      have hno : '.' ∉ behind.reverse := by simpa using hbehind
      have heq : name = before.reverse ++ '.' :: behind.reverse := by
        rw [← List.reverse_inj, hsplit]
        simp
      rw [heq, extension?_append _ hno] at h
      split at h
      · cases h
      · next hstem =>
        cases h
        exact ⟨_, heq, hstem, hno⟩
    · rw [extension?_of_no_point hpoint] at h
      cases h
  · rintro ⟨stem, h⟩
    rw [h.eq, extension?_append _ h.no_point, if_neg h.stem]

/-- The last point of a name is in one place only. -/
theorem HasExtension.unique (h : HasExtension name stem old) (h' : HasExtension name stem' old') :
    stem' = stem ∧ old' = old := by
  have hold : some old' = some old :=
    (extension?_eq_some_iff.2 ⟨stem', h'⟩).symm.trans (extension?_eq_some_iff.2 ⟨stem, h⟩)
  obtain rfl := Option.some.inj hold
  exact ⟨List.append_cancel_right (h'.eq.symm.trans h.eq), rfl⟩

/-- The bytes of a text are taken off from behind another one. -/
theorem dropEndBytes_append (text old : List Char) :
    dropEndBytes (String.ofList old).utf8ByteSize (text ++ old) = text := by
  suffices hgo : dropEndBytes.go (String.ofList old).utf8ByteSize (text ++ old).reverse =
      text.reverse by
    rw [dropEndBytes, hgo, List.reverse_reverse]
  induction old using List.reverseRecOn with
  | nil => simp [dropEndBytes.go]
  | append_singleton old c ih =>
    have hsize : (String.ofList (old ++ [c])).utf8ByteSize =
        (String.ofList old).utf8ByteSize + (c.utf8Size - 1) + 1 := by
      have hpos := c.utf8Size_pos
      rw [String.ofList_append, String.utf8ByteSize_append]
      simp
      omega
    have hpos := c.utf8Size_pos
    rw [← List.append_assoc, List.reverse_append, List.reverse_singleton, List.singleton_append,
      hsize, dropEndBytes.go, if_pos (by omega)]
    rw [show (String.ofList old).utf8ByteSize + (c.utf8Size - 1) + 1 - c.utf8Size =
      (String.ofList old).utf8ByteSize by omega]
    exact ih

/-! ## New extensions -/

section Start

variable (hstart : IsStart front) (hslash : '/' ∉ name) (hne : name ≠ []) (hhere : name ≠ ['.'])
  (hup : name ≠ ['.', '.'])

include hstart hslash hne hhere hup

/-- Without an extension all of the path is kept. -/
theorem withExtension_of_no_extension (hnone : extension? name = none) (extension : String) :
    withExtension extension (String.ofList (front ++ name)) =
      String.ofList (front ++ (name ++ '.' :: extension.toList)) := by
  have hname : fileName? (front ++ name) = some (name, front ++ name) := by
    rw [fileName?_of_isStart hstart hslash hne hhere, if_neg hup]
  have hcut : dropEndBytes 0 (front ++ name) = front ++ name := by
    simpa using dropEndBytes_append (front ++ name) []
  simp only [withExtension, String.toList_ofList, hname, hnone, Option.bind_some,
    Option.getD_none, String.ofList_nil, String.utf8ByteSize_empty, hcut, Nat.sub_zero,
    List.take_length]
  apply String.toList_inj.1
  simp

/-- Of a path with an extension all is kept up to the point, if that is a path to a file. -/
theorem withExtension_of_hasExtension (h : HasExtension name stem old) (extension : String) :
    withExtension extension (String.ofList (front ++ name)) = String.ofList (front ++
      if stem = ['.'] then ['.', '.'] else stem ++ '.' :: extension.toList) := by
  have hname : fileName? (front ++ name) = some (name, front ++ name) := by
    rw [fileName?_of_isStart hstart hslash hne hhere, if_neg hup]
  have hold : extension? name = some old := extension?_eq_some_iff.2 ⟨stem, h⟩
  have hcut : dropEndBytes (String.ofList old).utf8ByteSize (front ++ name) =
      front ++ (stem ++ ['.']) := by
    rw [h.eq, ← List.singleton_append, ← List.append_assoc, ← List.append_assoc,
      dropEndBytes_append, List.append_assoc]
  have hslash' : '/' ∉ stem ++ ['.'] := by
    intro hmem
    apply hslash
    rw [h.eq]
    simp_all
  -- The point of the old extension is left, so the file name is looked for a second time.
  have hname' := @fileName?_of_isStart front (stem ++ ['.']) hstart hslash' (by simp)
    (by simp [h.stem])
  by_cases hstem : stem = ['.']
  · rw [hstem, if_pos (by rfl)] at hname'
    rw [if_pos hstem]
    simp only [withExtension, String.toList_ofList, hname, hold, Option.bind_some,
      Option.getD_some, hcut, hstem, hname']
    simp
  · have hnew : stem ++ ['.'] ≠ ['.', '.'] := fun heq =>
      hstem (List.append_cancel_right (heq.trans (by rfl : _ = ['.'] ++ ['.'])))
    have hpoint : extension? (stem ++ ['.']) = some [] :=
      extension?_eq_some_iff.2 ⟨stem, rfl, h.stem, List.not_mem_nil⟩
    have htake : (front ++ (stem ++ ['.'])).take ((front ++ (stem ++ ['.'])).length - (0 + 1)) =
        front ++ stem := by
      rw [← List.append_assoc, List.length_append, List.length_singleton]
      exact List.take_left' (by simp)
    rw [if_neg hnew] at hname'
    rw [if_neg hstem]
    simp only [withExtension, String.toList_ofList, hname, hold, Option.bind_some,
      Option.getD_some, hcut, hname', hpoint, List.length_nil, htake]
    apply String.toList_inj.1
    simp

/-- A path that ends in a name is given an extension: it stays in its directory, and the name is
renamed. -/
theorem withExtension_of_isStart (extension : String) :
    ∃ new, withExtension extension (String.ofList (front ++ name)) = String.ofList (front ++ new) ∧
      Renamed extension.toList name new := by
  cases hextension : extension? name with
  | none =>
    refine ⟨_, withExtension_of_no_extension hstart hslash hne hhere hup hextension extension,
      .added fun stem old h => ?_⟩
    rw [extension?_eq_some_iff.2 ⟨stem, h⟩] at hextension
    cases hextension
  | some old =>
    obtain ⟨stem, h⟩ := extension?_eq_some_iff.1 hextension
    refine ⟨_, withExtension_of_hasExtension hstart hslash hne hhere hup h extension, ?_⟩
    split
    · next hstem => exact .lost (hstem ▸ h)
    · next hstem => exact .replaced h hstem

end Start

namespace Renamed

/-- What is renamed has characters, and no slash if there was none. -/
theorem no_slash (h : Renamed extension name new) (hname : '/' ∉ name)
    (hextension : '/' ∉ extension) : new ≠ [] ∧ '/' ∉ new := by
  cases h with
  | added => simp [hname, hextension]
  | replaced h =>
    have hstem := h.eq ▸ hname
    simp_all
  | lost => decide

/-- A name stays as it is if it has the new extension already, and only then. -/
theorem eq_iff (h : Renamed extension name new) (hextension : '.' ∉ extension)
    (hup : name ≠ ['.', '.']) :
    new = name ↔ ∃ stem, stem ≠ ['.'] ∧ HasExtension name stem extension := by
  cases h with
  | added hnone =>
    constructor
    · intro heq
      simpa using congrArg List.length heq
    · rintro ⟨stem, -, h⟩
      exact absurd h (hnone stem extension)
  | @replaced stem old h hstem =>
    constructor
    · intro heq
      exact ⟨stem, hstem, heq.symm, h.stem, hextension⟩
    · rintro ⟨stem', -, h'⟩
      obtain ⟨rfl, rfl⟩ := h.unique h'
      exact h.eq.symm
  | lost h =>
    constructor
    · intro heq
      exact absurd heq.symm hup
    · rintro ⟨stem, hstem, h'⟩
      exact absurd (h.unique h').1 hstem

end Renamed

end DocPress.FileSystem
