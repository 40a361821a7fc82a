import DocPress.Document.Heading

/-!
# DocPress.Proofs.Document.Heading

The headings that are collected are the headings that start, one for one: where each heading is
closed before another one starts, none is lost (`levels_collectHeadings`).
-/

namespace DocPress.Document

open DocPress.Markdown

/-! ## Starts and ends -/

/-- The level and the id of a heading that starts with an event. -/
def headingStart? : Event → Option (Nat × Option String)
  | .start (.heading level id) => some (level, id)
  | _ => none

/-- The levels and the ids of the headings that start in a stream, in order. -/
def headingStarts (events : List Event) : List (Nat × Option String) :=
  events.filterMap headingStart?

/-- The end of a heading comes before another one starts. -/
def EndsHeading (events : List Event) : Prop :=
  ∃ inner level rest, events = inner ++ .finish (.heading level) :: rest ∧ headingStarts inner = []

/-- Every heading is closed before another one starts. -/
def HeadingsClosed (events : List Event) : Prop :=
  ∀ before level id rest, events = before ++ .start (.heading level id) :: rest → EndsHeading rest

variable {events rest : List Event} {e : Event} {level : Nat} {id : Option String}

/-- An event that starts no heading is passed over. -/
theorem headingStarts_cons_of_none (h : headingStart? e = none) (rest : List Event) :
    headingStarts (e :: rest) = headingStarts rest :=
  List.filterMap_cons_none h

/-- What holds of all headings holds of those behind the first event. -/
theorem HeadingsClosed.tail (h : HeadingsClosed (e :: rest)) : HeadingsClosed rest := by
  intro before level id after hrest
  exact h (e :: before) level id after (by rw [hrest, List.cons_append])

/-- The first heading is closed before the next one starts. -/
theorem HeadingsClosed.head (h : HeadingsClosed (.start (.heading level id) :: rest)) :
    EndsHeading rest :=
  h [] level id rest rfl

theorem headingsClosed_nil : HeadingsClosed [] := by
  intro before level id after h
  simp at h

/-- An event that starts no heading needs no end. -/
theorem HeadingsClosed.cons (h : HeadingsClosed rest) (hstart : headingStart? e = none) :
    HeadingsClosed (e :: rest) := by
  intro before level id after heq
  cases before with
  | nil =>
    cases heq
    cases hstart
  | cons e' before =>
    obtain ⟨-, hrest⟩ := List.cons.inj heq
    exact h before level id after hrest

/-- One more heading in front that is closed in time. -/
theorem HeadingsClosed.cons_start (h : HeadingsClosed rest) (hends : EndsHeading rest) :
    HeadingsClosed (.start (.heading level id) :: rest) := by
  intro before level' id' after heq
  cases before with
  | nil =>
    cases heq
    exact hends
  | cons e' before =>
    obtain ⟨-, hrest⟩ := List.cons.inj heq
    exact h before level' id' after hrest

/-- No heading starts while another one is open. -/
theorem not_endsHeading_start : ¬ EndsHeading (.start (.heading level id) :: rest) := by
  rintro ⟨inner, level', after, heq, hinner⟩
  cases inner with
  | nil => cases heq
  | cons e inner =>
    obtain ⟨rfl, -⟩ := List.cons.inj heq
    cases hinner

/-- An event that closes no heading leaves it open. -/
theorem EndsHeading.tail (h : EndsHeading (e :: rest))
    (hfinish : ∀ level, e ≠ .finish (.heading level)) : EndsHeading rest := by
  obtain ⟨inner, level, after, heq, hinner⟩ := h
  cases inner with
  | nil =>
    obtain ⟨rfl, -⟩ := List.cons.inj heq
    exact absurd rfl (hfinish level)
  | cons e' inner =>
    obtain ⟨rfl, hrest⟩ := List.cons.inj heq
    refine ⟨inner, level, after, hrest, ?_⟩
    cases hstart : headingStart? e with
    | none => rwa [headingStarts_cons_of_none hstart] at hinner
    | some start =>
      rw [headingStarts, List.filterMap_cons_some hstart] at hinner
      cases hinner

/-! ## Collecting -/

/-- A heading that is open is collected, and so is each one that starts. The induction is on the
recursion of `collectFrom`; the heading that is open has its end before another one starts. -/
theorem levels_collectFrom (open? : Option (Nat × String)) (hclosed : HeadingsClosed events)
    (hopen : open?.isSome = true → EndsHeading events) :
    (collectFrom open? events).map (·.level) =
      open?.toList.map (·.1) ++ (headingStarts events).map (·.1) := by
  fun_induction collectFrom open? events with
  | case1 open? =>
    cases open? with
    | none => rfl
    | some opened =>
      obtain ⟨inner, level, rest, heq, -⟩ := hopen rfl
      simp at heq
  | case2 open? level id rest ih =>
    cases open? with
    | none => exact ih hclosed.tail fun _ => hclosed.head
    -- A heading that is open is closed before another one starts.
    | some opened => exact absurd (hopen rfl) not_endsHeading_start
  | case3 closed rest level text ih =>
    rw [List.map_cons, ih hclosed.tail (by simp)]
    rfl
  | case4 closed rest ih => exact ih hclosed.tail (by simp)
  | case5 open? e rest hstart hfinish ih =>
    have hnone : headingStart? e = none := by
      unfold headingStart?
      split
      · next level id => exact absurd rfl (hstart level id)
      · rfl
    rw [headingStarts_cons_of_none hnone, ih hclosed.tail ?_]
    · cases open? <;> rfl
    · intro hsome
      rw [Option.isSome_map] at hsome
      exact (hopen hsome).tail hfinish

/-- The headings that are collected have the levels of those that start, in the same order. -/
theorem levels_collectHeadings (h : HeadingsClosed events) :
    (collectHeadings events).map (·.level) = (headingStarts events).map (·.1) :=
  levels_collectFrom none h (by simp)

/-- Headings are collected without ids. -/
theorem id_of_mem_collectFrom {open? : Option (Nat × String)} {h : Heading}
    (hmem : h ∈ collectFrom open? events) : h.id = none := by
  fun_induction collectFrom open? events with
  | case1 => cases hmem
  | case3 closed rest level text ih =>
    rcases List.mem_cons.1 hmem with rfl | hmem
    · rfl
    · exact ih hmem
  | case2 open? level id rest ih | case4 closed rest ih | case5 open? e rest _ _ ih => exact ih hmem

/-- Headings are collected without ids. -/
theorem id_of_mem_collectHeadings {h : Heading} (hmem : h ∈ collectHeadings events) :
    h.id = none :=
  id_of_mem_collectFrom hmem

end DocPress.Document
