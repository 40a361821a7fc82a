import DocPress.Proofs.Page.Length

/-!
# DocPress.Proofs.Page.Margins

Margins as a style sheet reads them. A shorthand is a row of one to four values with blanks between
them; what an edge gets follows from their number (`Margins.ofShorthand?`).

No blank is part of a length, so the shorthand that is written for margins that are lengths is read
as just these margins (`Margins.ofShorthand?_toCss`), and no two margins have the same shorthand.
Margins are accepted if all of them are lengths, and else the first one that is none is at fault
(`Margins.FirstFault`).
-/

namespace DocPress.Page

open DocPress.Text

/-! ## Reading a shorthand -/

/-- A blank of a style sheet. -/
def isCssBlank (c : Char) : Bool :=
  c == ' ' || c == '\t' || c == '\n' || c == '\r' || c == '\x0c'

/-- The values of a shorthand. -/
def shorthandValues (css : String) : List String :=
  ((css.toList.splitOnP isCssBlank).filter (!·.isEmpty)).map String.ofList

/-- The margins that a shorthand stands for: an edge for which there is no value gets that of the
edge on the other side, and the right edge gets that of the top. -/
def Margins.ofShorthand? (css : String) : Option Margins :=
  match shorthandValues css with
  | [all] => some ⟨all, all, all, all⟩
  | [vertical, horizontal] => some ⟨vertical, horizontal, vertical, horizontal⟩
  | [top, horizontal, bottom] => some ⟨top, horizontal, bottom, horizontal⟩
  | [top, right, bottom, left] => some ⟨top, right, bottom, left⟩
  | _ => none

/-! ## Lengths -/

section Lengths

variable {c : Char}

/-- All digits lie behind the blanks. -/
theorem le_toNat_of_isDecimalDigit (h : isDecimalDigit c = true) : 0x30 ≤ c.toNat := by
  have hzeros : ∀ first ∈ decimalZeros, 0x30 ≤ first := by decide
  obtain ⟨first, hfirst, hdigit⟩ := List.any_eq_true.1 h
  have hle := hzeros first hfirst
  simp only [Bool.and_eq_true, decide_eq_true_eq] at hdigit
  omega

/-- A length has something in it, and all of it lies behind the blanks. -/
theorem le_toNat_of_isLength {text : String} (h : isLength text = true) :
    text.toList ≠ [] ∧ ∀ c ∈ text.toList, 0x2E ≤ c.toNat := by
  have hlength := isLength_iff.1 h
  refine ⟨hlength.ne_nil, hlength.forall_mem (fun c hc => ?_) (by decide) fun _ hunit c hc => ?_⟩
  · have := le_toNat_of_isDecimalDigit hc
    omega
  · have := toNat_of_mem_unit hunit c hc
    omega

/-- A length has no blanks, so a shorthand is parted between lengths only. -/
theorem not_isCssBlank_of_isLength {text : String} (h : isLength text = true) :
    ∀ c ∈ text.toList, isCssBlank c = false := by
  intro c hc
  have hcode := (le_toNat_of_isLength h).2 c hc
  have hne (d : Char) (hd : d.toNat < 0x2E) : (c == d) = false := by
    rw [beq_eq_false_iff_ne]
    rintro rfl
    omega
  simp [isCssBlank, hne]

end Lengths

/-! ## Writing a shorthand -/

section Shorthands

variable {text : String} {m m' : Margins}

/-- A single length is a shorthand of one value. -/
theorem shorthandValues_of_isLength (h : isLength text = true) : shorthandValues text = [text] := by
  have hsplit := List.splitOnP_eq_singleton (not_isCssBlank_of_isLength h)
  have hne := (le_toNat_of_isLength h).1
  simp [shorthandValues, hsplit, hne]

/-- A length and a blank in front of a shorthand are one value more. -/
theorem shorthandValues_append (h : isLength text = true) (css : String) :
    shorthandValues (text ++ (" " ++ css)) = text :: shorthandValues css := by
  have hsplit := List.splitOnP_append_cons_of_forall_mem (not_isCssBlank_of_isLength h) ' ' rfl
    css.toList
  have hne := (le_toNat_of_isLength h).1
  have hlist : (text ++ (" " ++ css)).toList = text.toList ++ ' ' :: css.toList := by
    rw [String.toList_append, String.toList_append]
    rfl
  simp [shorthandValues, hlist, hsplit, hne]

namespace Margins

/-- All margins are lengths if there is no fault in them. -/
theorem isLength_of_firstFault? (h : m.firstFault? = none) :
    isLength m.top = true ∧ isLength m.right = true ∧ isLength m.bottom = true ∧
      isLength m.left = true := by
  simpa [firstFault?, edges] using h

/-- Margins are uniform if they are all that of the top. -/
theorem isUniform_iff : m.isUniform = true ↔ m = .uniform m.top := by
  cases m
  simp only [isUniform, uniform, Bool.and_eq_true, beq_iff_eq, mk.injEq]
  grind

/-- A shorthand has one value for uniform margins, and four for all others. -/
theorem shorthandValues_toCss (h : m.firstFault? = none) : shorthandValues m.toCss =
    if m.isUniform then [m.top] else [m.top, m.right, m.bottom, m.left] := by
  obtain ⟨htop, hright, hbottom, hleft⟩ := isLength_of_firstFault? h
  unfold toCss
  split
  · exact shorthandValues_of_isLength htop
  · simp only [String.append_assoc]
    rw [shorthandValues_append htop, shorthandValues_append hright,
      shorthandValues_append hbottom, shorthandValues_of_isLength hleft]

/-- What is written for margins stands for these margins. -/
theorem ofShorthand?_toCss (h : m.firstFault? = none) : ofShorthand? m.toCss = some m := by
  rw [ofShorthand?, shorthandValues_toCss h]
  by_cases huniform : m.isUniform = true
  · rw [if_pos huniform]
    exact congrArg some (isUniform_iff.1 huniform).symm
  · rw [if_neg huniform]

/-- Different margins are written in different ways. -/
theorem toCss_injective (h : m.firstFault? = none) (h' : m'.firstFault? = none)
    (heq : m.toCss = m'.toCss) : m = m' := by
  have hread := ofShorthand?_toCss h
  rw [heq, ofShorthand?_toCss h'] at hread
  exact (Option.some.inj hread).symm

end Margins

end Shorthands

/-! ## Checking margins -/

namespace Margins

variable {m : Margins} {edge margin : String}

/-- All margins are accepted. -/
def Accepted (m : Margins) : Prop :=
  ∀ e ∈ m.edges, LengthOver isDecimalDigit e.2

/-- The margin of an edge is not accepted, and those of all edges in front of it are. -/
def FirstFault (m : Margins) (edge margin : String) : Prop :=
  ∃ before after, m.edges = before ++ (edge, margin) :: after ∧
    ¬ LengthOver isDecimalDigit margin ∧ ∀ e ∈ before, LengthOver isDecimalDigit e.2

/-- No margin is at fault if all are accepted. -/
theorem firstFault?_eq_none_iff : m.firstFault? = none ↔ m.Accepted := by
  simp [firstFault?, Accepted, isLength_iff]

/-- The margin at fault is the first one that is not accepted. -/
theorem firstFault?_eq_some_iff :
    m.firstFault? = some (edge, margin) ↔ m.FirstFault edge margin := by
  rw [firstFault?, List.find?_eq_some_iff_append]
  simp only [Bool.not_eq_true', Bool.eq_false_iff, ne_eq, isLength_iff, Bool.not_not]
  constructor
  · rintro ⟨hnot, before, after, hedges, hbefore⟩
    exact ⟨before, after, hedges, hnot, hbefore⟩
  · rintro ⟨before, after, hedges, hnot, hbefore⟩
    exact ⟨hnot, before, after, hedges, hbefore⟩

/-- What a style sheet reads is accepted. -/
theorem Accepted.shorthandValues (h : m.Accepted) :
    ∀ value ∈ shorthandValues m.toCss, LengthOver isDecimalDigit value := by
  intro value hvalue
  rw [shorthandValues_toCss (firstFault?_eq_none_iff.2 h)] at hvalue
  have hedge : value ∈ m.edges.map (·.2) := by
    split at hvalue
    · exact List.mem_of_mem_take (i := 1) hvalue
    · exact hvalue
  obtain ⟨e, he, rfl⟩ := List.mem_map.1 hedge
  exact h e he

end Margins

end DocPress.Page
