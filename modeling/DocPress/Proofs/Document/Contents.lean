import DocPress.Document.Contents
import DocPress.Proofs.Document.Heading

/-!
# DocPress.Proofs.Document.Contents

Where tables of contents are placed, and what becomes of the rest of the stream:

* `IsMarker` — what a marker paragraph is; `tocParagraph?_eq_some_iff`, `hasToc_iff`: it is found
  wherever one starts, and a stream has a table if there is one in it.
* `Placed` — the stream with a table in place of each marker paragraph and with ids for its
  headings, one constructor for each kind of step; `placed_placeContents`: it is the stream that is
  written.
-/

namespace DocPress.Document

open DocPress.Markdown DocPress.Text

/-- A paragraph that holds text alone, and this is the marker but for blanks around it. -/
def IsMarker (block : List Event) : Prop :=
  ∃ texts : List String, block = .start .paragraph :: (texts.map .text ++ [.finish .paragraph]) ∧
    trim (String.join texts) = tocMarker

/-- A stream with a table of contents in place of each marker paragraph, and with ids for its
headings, in order. A heading for which there is no id keeps its own; all else is as it was. -/
inductive Placed (toc : String) : List (Option String) → List Event → List Event → Prop
  | done {ids} : Placed toc ids [] []
  | contents {ids block rest out} (hmarker : IsMarker block) (hrest : Placed toc ids rest out) :
      Placed toc ids (block ++ rest) (.html toc :: out)
  | heading {ids level own rest out} (hrest : Placed toc ids.tail rest out) :
      Placed toc ids (.start (.heading level own) :: rest)
        (.start (.heading level (ids.head?.join.or own)) :: out)
  | other {ids e rest out} (hmarker : ∀ block, IsMarker block → ¬ block <+: e :: rest)
      (hheading : headingStart? e = none) (hrest : Placed toc ids rest out) :
      Placed toc ids (e :: rest) (e :: out)

variable {events rest out block : List Event} {text toc : String}
variable {ids : List (Option String)}

/-! ## Marker paragraphs -/

/-- The rest of a paragraph is taken as one text if it holds nothing but texts up to its end. -/
theorem textParagraph?_eq_some_iff : textParagraph? events = some (text, rest) ↔
    ∃ texts : List String, events = texts.map .text ++ .finish .paragraph :: rest ∧
      String.join texts = text := by
  constructor
  · intro h
    fun_induction textParagraph? events generalizing text with
    | case1 content events ih =>
      obtain ⟨⟨text', rest'⟩, hrest, heq⟩ := Option.map_eq_some_iff.1 h
      cases heq
      obtain ⟨texts, rfl, rfl⟩ := ih hrest
      exact ⟨content :: texts, rfl, by rw [String.join_cons]⟩
    | case2 events =>
      cases h
      exact ⟨[], rfl, rfl⟩
    | case3 => cases h
  · rintro ⟨texts, rfl, rfl⟩
    induction texts with
    | nil => rfl
    | cons content texts ih =>
      rw [List.map_cons, List.cons_append, textParagraph?, ih, String.join_cons]
      rfl

/-- A marker paragraph is found where it starts. -/
theorem tocParagraph?_eq_some_iff : tocParagraph? events = some rest ↔
    ∃ block, IsMarker block ∧ events = block ++ rest := by
  constructor
  · intro h
    unfold tocParagraph? at h
    split at h
    · next inner =>
      obtain ⟨⟨text, after⟩, htext, hmarker⟩ := Option.bind_eq_some_iff.1 h
      dsimp only at hmarker
      split at hmarker
      · next htrim =>
        cases hmarker
        obtain ⟨texts, rfl, rfl⟩ := textParagraph?_eq_some_iff.1 htext
        exact ⟨_, ⟨texts, rfl, eq_of_beq htrim⟩, by simp⟩
      · cases hmarker
    · cases h
  · rintro ⟨block, ⟨texts, rfl, htrim⟩, rfl⟩
    have htext : textParagraph? (texts.map .text ++ .finish .paragraph :: rest) =
        some (String.join texts, rest) := textParagraph?_eq_some_iff.2 ⟨texts, rfl, rfl⟩
    simp [tocParagraph?, htext, htrim]

/-- There is a table of contents if there is a marker paragraph. -/
theorem hasToc_iff : hasToc events = true ↔ ∃ block, IsMarker block ∧ block <:+: events := by
  induction events with
  | nil =>
    simp only [hasToc, Bool.false_eq_true, List.infix_nil, false_iff, not_exists, not_and]
    rintro block ⟨texts, rfl, -⟩
    simp
  | cons e rest ih =>
    rw [hasToc, Bool.or_eq_true, ih, Option.isSome_iff_exists]
    simp only [tocParagraph?_eq_some_iff, List.infix_cons_iff]
    constructor
    · rintro (⟨after, block, hmarker, heq⟩ | ⟨block, hmarker, hinfix⟩)
      · exact ⟨block, hmarker, .inl ⟨after, heq.symm⟩⟩
      · exact ⟨block, hmarker, .inr hinfix⟩
    · rintro ⟨block, hmarker, ⟨after, heq⟩ | hinfix⟩
      · exact .inl ⟨after, block, hmarker, heq.symm⟩
      · exact .inr ⟨block, hmarker, hinfix⟩

/-- No heading starts in a marker paragraph. -/
theorem IsMarker.headingStarts (h : IsMarker block) : headingStarts block = [] := by
  obtain ⟨texts, rfl, -⟩ := h
  have htexts : (texts.map Event.text).filterMap headingStart? = [] := by
    rw [List.filterMap_eq_nil_iff]
    intro e he
    obtain ⟨text, -, rfl⟩ := List.mem_map.1 he
    rfl
  rw [Document.headingStarts, List.filterMap_cons_none rfl, List.filterMap_append, htexts]
  rfl

/-! ## Placing -/

/-- What is written is the stream with all that was to be placed. -/
theorem placed_placeContents (toc : String) (ids : List (Option String)) (events : List Event) :
    Placed toc ids events (placeContents toc ids events) := by
  fun_induction placeContents toc ids events with
  | case1 ids events rest h _ ih =>
    obtain ⟨block, hmarker, rfl⟩ := tocParagraph?_eq_some_iff.1 h
    exact .contents hmarker ih
  | case2 => exact .done
  | case3 ids level own rest h ih => exact .heading ih
  | case4 ids e rest h hheading ih =>
    refine .other (fun block hmarker hprefix => ?_) ?_ ih
    · obtain ⟨after, heq⟩ := hprefix
      have hfound := tocParagraph?_eq_some_iff.2 ⟨block, hmarker, heq.symm⟩
      rw [h] at hfound
      cases hfound
    · unfold headingStart?
      split
      · next level own => exact (hheading level own h rfl HEq.rfl).elim
      · rfl

/-- Headings without ids of their own get those that are placed, one each. -/
theorem Placed.headingStarts (h : Placed toc ids events out)
    (hbare : ∀ start ∈ headingStarts events, start.2 = none)
    (hlength : ids.length = (headingStarts events).length) :
    headingStarts out = ((headingStarts events).map (·.1)).zip ids := by
  induction h with
  | done => rfl
  | @contents ids block rest out hmarker hrest ih =>
    have hstarts : Document.headingStarts (block ++ rest) = Document.headingStarts rest := by
      rw [Document.headingStarts, List.filterMap_append]
      exact congrArg (· ++ _) hmarker.headingStarts
    rw [hstarts] at hbare hlength ⊢
    rw [headingStarts_cons_of_none rfl]
    exact ih hbare hlength
  | @heading ids level own rest out hrest ih =>
    have hstart (id : Option String) (events : List Event) :
        Document.headingStarts (.start (.heading level id) :: events) =
          (level, id) :: Document.headingStarts events := List.filterMap_cons_some rfl
    rw [hstart] at hbare hlength ⊢
    obtain rfl : own = none := hbare _ (List.mem_cons_self ..)
    cases ids with
    | nil => cases hlength
    | cons id ids =>
      rw [hstart, ih (fun start hmem => hbare start (List.mem_cons_of_mem _ hmem))
        (Nat.succ.inj hlength)]
      simp
  | @other ids e rest out hmarker hheading hrest ih =>
    rw [headingStarts_cons_of_none hheading] at hbare hlength ⊢
    rw [headingStarts_cons_of_none hheading]
    exact ih hbare hlength

end DocPress.Document
