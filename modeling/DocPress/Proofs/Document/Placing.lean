import Mathlib.Data.List.Forall2
import DocPress.Proofs.Document.Markers

/-!
# DocPress.Proofs.Document.Placing

What is written of a stream once its tables of contents are placed: one event for each piece that it
is cut into, the table for a marker paragraph and, but for the id of a heading, the event itself for
any other (`Placed.cut`).

1. What is opened and closed stays the same (`Placed.openAfter`).
2. Without marker paragraphs and ids nothing changes (`Placed.eq_of_none`).
3. The same stream is written by going from position to position and looking ahead from each, and no
   position that is looked at lies behind the end (`placeAt_eq`).
-/

namespace DocPress.Document

open DocPress.Markdown DocPress.Text

variable {events rest out : List Event} {toc : String} {ids : List (Option String)}

/-! ## Pieces -/

/-- An event as it was, but for the id of a heading that starts. -/
def AlikeButId (e e' : Event) : Prop :=
  e' = e ∨ ∃ level own id, e = .start (.heading level own) ∧ e' = .start (.heading level id)

/-- What a piece is written as: a marker paragraph as the table of contents, and any other event as
it was, but for the id of a heading. -/
def Piece.Becomes (toc : String) : Piece → Event → Prop
  | .contents _, e' => e' = .html toc
  | .kept e, e' => AlikeButId e e'

/-- One event is written for each piece, in order. -/
theorem Placed.cut (h : Placed toc ids events out) :
    ∃ pieces, Cut events pieces ∧ List.Forall₂ (Piece.Becomes toc) pieces out := by
  induction h with
  | done => exact ⟨[], .done, .nil⟩
  | @contents ids block rest out hmarker hrest ih =>
    obtain ⟨pieces, hcut, hout⟩ := ih
    exact ⟨.contents block :: pieces, .contents hmarker hcut, .cons rfl hout⟩
  | @heading ids level own rest out hrest ih =>
    obtain ⟨pieces, hcut, hout⟩ := ih
    refine ⟨.kept (.start (.heading level own)) :: pieces, .kept (fun block hmarker => ?_) hcut,
      .cons (.inr ⟨level, own, _, rfl, rfl⟩) hout⟩
    rintro ⟨after, heq⟩
    have hhead := hmarker.head?
    cases block with
    | nil => cases hhead
    | cons first block => simp_all
  | @other ids e rest out hmarker hheading hrest ih =>
    obtain ⟨pieces, hcut, hout⟩ := ih
    exact ⟨.kept e :: pieces, .kept hmarker hcut, .cons (.inl rfl) hout⟩

/-! ## Starts and ends -/

/-- What is open after a stream, innermost first; nothing if an end comes that does not close what
is innermost then. -/
def openAfter (opened : List TagEnd) : List Event → Option (List TagEnd)
  | [] => some opened
  | .start tag :: rest => openAfter (tag.close :: opened) rest
  | .finish tag :: rest =>
    match opened with
    | top :: opened => if top = tag then openAfter opened rest else none
    | [] => none
  | _ :: rest => openAfter opened rest

/-- Every end closes what is innermost, and nothing is left open. -/
def Balanced (events : List Event) : Prop :=
  openAfter [] events = some []

/-- A marker paragraph is closed where it ends. -/
theorem IsMarker.openAfter {block : List Event} (h : IsMarker block) (opened : List TagEnd)
    (rest : List Event) : openAfter opened (block ++ rest) = openAfter opened rest := by
  obtain ⟨texts, rfl, -⟩ := h
  have htexts (opened : List TagEnd) (rest : List Event) :
      Document.openAfter opened (texts.map .text ++ rest) = Document.openAfter opened rest := by
    induction texts with
    | nil => rfl
    | cons text texts ih => exact ih
  rw [List.cons_append, Document.openAfter, List.append_assoc, htexts]
  simp [Document.openAfter, Tag.close]

/-- Placing changes neither what is opened nor what is closed. -/
theorem Placed.openAfter (h : Placed toc ids events out) (opened : List TagEnd) :
    openAfter opened out = openAfter opened events := by
  induction h generalizing opened with
  | done => rfl
  | contents hmarker hrest ih => rw [hmarker.openAfter, ← ih]; rfl
  | heading hrest ih => exact ih _
  | @other ids e rest out hmarker hheading hrest ih =>
    cases e with
    | finish tag => cases opened <;> simp [Document.openAfter, ih]
    | _ => exact ih _

/-- Without marker paragraphs and without ids to give, the stream is written as it was. -/
theorem Placed.eq_of_none (h : Placed toc ids events out) (htoc : hasToc events = false)
    (hids : ∀ id ∈ ids, id = none) : out = events := by
  induction h with
  | done => rfl
  | @contents ids block rest out hmarker hrest ih =>
    have hinfix : block <:+: block ++ rest := (List.prefix_append block rest).isInfix
    rw [hasToc_iff.2 ⟨block, hmarker, hinfix⟩] at htoc
    cases htoc
  | @heading ids level own rest out hrest ih =>
    rw [hasToc, Bool.or_eq_false_iff] at htoc
    cases ids with
    | nil => simp [ih htoc.2 (by simp)]
    | cons id ids =>
      obtain ⟨rfl, hothers⟩ := List.forall_mem_cons.1 hids
      simp [ih htoc.2 hothers]
  | other hnone hheading hrest ih =>
    rw [hasToc, Bool.or_eq_false_iff] at htoc
    rw [ih htoc.2 hids]

/-! ## From position to position -/

/-- The events from a position on; there are none to be had from behind the end on. -/
def eventsFrom? (events : List Event) (i : Nat) : Option (List Event) :=
  if i ≤ events.length then some (events.drop i) else none

/-- The number of events up to the end of a paragraph, and their text behind the given one, if they
hold text alone. -/
def textEnd? (text : String) (offset : Nat) : List Event → Option (Nat × String)
  | .text content :: rest => textEnd? (text ++ content) (offset + 1) rest
  | .finish .paragraph :: _ => some (offset, text)
  | _ => none

/-- The end of the marker paragraph that starts at a position, if one does; nothing at all if a
position behind the end is looked at. -/
def markerEndAt? (events : List Event) (start : Nat) : Option (Option Nat) :=
  match events[start]? with
  | some (.start .paragraph) =>
    (eventsFrom? events (start + 1)).map fun inner =>
      (textEnd? "" 0 inner).bind fun (offset, text) =>
        if trim text == tocMarker then some (start + 1 + offset) else none
  | _ => some none

/-- Going from event to event finds the same text, and its end behind as many events as have gone.
-/
theorem textEnd?_eq (text : String) (offset : Nat) (events : List Event) :
    textEnd? text offset events = (textParagraph? events).map fun (content, rest) =>
      (offset + (events.length - (rest.length + 1)), text ++ content) := by
  fun_induction textEnd? text offset events with
  | case1 text offset content rest ih =>
    rw [ih, textParagraph?, Option.map_map]
    cases htext : textParagraph? rest with
    | none => rfl
    | some found =>
      have := length_lt_of_textParagraph? htext
      simp [String.append_assoc]
      omega
  | case2 text offset rest => simp [textParagraph?]
  | case3 text offset events htext hfinish =>
    rw [textParagraph?]
    · rfl
    · exact htext
    · exact hfinish

/-- The look-ahead stays inside, and finds what starts at the position. -/
theorem markerEndAt?_eq (events : List Event) (start : Nat) :
    markerEndAt? events start =
      some ((tocParagraph? (events.drop start)).map fun rest =>
        events.length - (rest.length + 1)) := by
  have hget : events[start]? = (events.drop start).head? := by simp
  have htail : events.drop (start + 1) = (events.drop start).tail := by simp
  have hlength : (events.drop start).length = events.length - start := List.length_drop
  unfold markerEndAt?
  rw [hget, eventsFrom?, htail]
  cases hdrop : events.drop start with
  | nil => rfl
  | cons first inner =>
    rw [hdrop, List.length_cons] at hlength
    have hinside : start + 1 ≤ events.length := by omega
    simp only [List.head?_cons, List.tail_cons, hinside, if_true, Option.map_some]
    split
    · next heq =>
      cases heq
      rw [textEnd?_eq, tocParagraph?]
      cases htext : textParagraph? inner with
      | none => rfl
      | some found =>
        have := length_lt_of_textParagraph? htext
        simp only [Option.map_some, Option.bind_some, String.empty_append]
        split
        · simp
          omega
        · rfl
    · next hne =>
      rw [tocParagraph?]
      · rfl
      · rintro rest heq
        cases heq
        exact hne rfl

/-- A marker paragraph ends behind its start. -/
theorem le_of_markerEndAt? {start e : Nat} (h : markerEndAt? events start = some (some e)) :
    start ≤ e := by
  rw [markerEndAt?_eq, Option.some.injEq, Option.map_eq_some_iff] at h
  obtain ⟨rest, hrest, rfl⟩ := h
  have := length_lt_of_tocParagraph? hrest
  rw [List.length_drop] at this
  omega

/-- The end of a marker paragraph is found from where it starts, and nothing from elsewhere. -/
theorem markerEndAt?_eq_some_iff {start e : Nat} :
    markerEndAt? events start = some (some e) ↔ MarkerAt events start e := by
  rw [markerEndAt?_eq, Option.some.injEq, Option.map_eq_some_iff]
  constructor
  · rintro ⟨rest, hrest, rfl⟩
    obtain ⟨block, hmarker, hdrop⟩ := tocParagraph?_eq_some_iff.1 hrest
    have hpos := hmarker.length_pos
    have hlength := congrArg List.length hdrop
    rw [List.length_drop, List.length_append] at hlength
    refine ⟨events.take start, block, rest, ?_, hmarker, ?_, by omega⟩
    · rw [← hdrop, List.take_append_drop]
    · rw [List.length_take]
      omega
  · rintro ⟨before, block, after, rfl, hmarker, rfl, he⟩
    refine ⟨after, tocParagraph?_eq_some_iff.2 ⟨block, hmarker, by simp⟩, ?_⟩
    simp
    omega

/-- A marker paragraph makes way for the table of contents. -/
theorem placeContents_of_marker (h : tocParagraph? events = some rest) :
    placeContents toc ids events = .html toc :: placeContents toc ids rest := by
  rw [placeContents]
  split
  · next found hfound =>
    rw [h] at hfound
    cases hfound
    rfl
  · next hnone =>
    rw [h] at hnone
    cases hnone

/-- A heading takes the next id, or keeps its own. -/
theorem placeContents_heading (level : Nat) (own : Option String) (rest : List Event) :
    placeContents toc ids (.start (.heading level own) :: rest) =
      .start (.heading level (ids.head?.join.or own)) :: placeContents toc ids.tail rest := by
  rw [placeContents]
  rfl

/-- Any other event is kept. -/
theorem placeContents_other {e : Event} (h : tocParagraph? (e :: rest) = none)
    (he : ∀ level own, e ≠ .start (.heading level own)) :
    placeContents toc ids (e :: rest) = e :: placeContents toc ids rest := by
  rw [placeContents]
  split
  · next found hfound =>
    rw [h] at hfound
    cases hfound
  · cases e with
    | start tag =>
      cases tag with
      | heading level own => exact absurd rfl (he level own)
      | _ => rfl
    | _ => rfl

/-- Places the contents from a position on; nothing at all if a position behind the end is looked
at. -/
def placeAt (toc : String) (ids : List (Option String)) (events : List Event) (i : Nat) :
    Option (List Event) :=
  if i < events.length then
    match h : markerEndAt? events i with
    | none => none
    | some (some e) =>
      have := le_of_markerEndAt? h
      (placeAt toc ids events (e + 1)).map (.html toc :: ·)
    | some none =>
      match events[i]? with
      | none => none
      | some (.start (.heading level own)) =>
        (placeAt toc ids.tail events (i + 1)).map
          (.start (.heading level (ids.head?.join.or own)) :: ·)
      | some e => (placeAt toc ids events (i + 1)).map (e :: ·)
  else some []
termination_by events.length - i

/-- Going from position to position writes what is to be placed, and never looks behind the end. -/
theorem placeAt_eq (toc : String) (ids : List (Option String)) (events : List Event) (i : Nat) :
    placeAt toc ids events i = some (placeContents toc ids (events.drop i)) := by
  fun_induction placeAt toc ids events i with
  | case1 ids i hi hnone => simp [markerEndAt?_eq] at hnone
  | case2 ids i hi e hmarker _ ih =>
    rw [markerEndAt?_eq, Option.some.injEq, Option.map_eq_some_iff] at hmarker
    obtain ⟨rest, hrest, rfl⟩ := hmarker
    obtain ⟨block, -, hdrop⟩ := tocParagraph?_eq_some_iff.1 hrest
    -- The rest is an end of the events, so its length tells where it begins.
    have hsuffix : rest <:+ events := by
      have := List.drop_suffix i events
      rw [hdrop] at this
      exact (List.suffix_append block rest).trans this
    have hlength := length_lt_of_tocParagraph? hrest
    rw [List.length_drop] at hlength
    have hbehind : events.drop (events.length - (rest.length + 1) + 1) = rest := by
      have hend : events.length - (rest.length + 1) + 1 = events.length - rest.length := by omega
      rw [hend, ← List.suffix_iff_eq_drop.1 hsuffix]
    rw [ih, hbehind, placeContents_of_marker hrest]
    rfl
  | case3 ids i hi hmarker hnone => simp [hi] at hnone
  | case4 ids i hi hmarker level own hget ih =>
    have hdrop : events.drop i = .start (.heading level own) :: events.drop (i + 1) := by
      rw [List.drop_eq_getElem_cons hi]
      simp_all
    rw [hdrop, placeContents_heading, ih]
    rfl
  | case5 ids i hi hmarker e hheading hget ih =>
    have hdrop : events.drop i = e :: events.drop (i + 1) := by
      rw [List.drop_eq_getElem_cons hi]
      simp_all
    have hnone : tocParagraph? (e :: events.drop (i + 1)) = none := by
      rw [markerEndAt?_eq, hdrop] at hmarker
      simpa using hmarker
    rw [hdrop, placeContents_other hnone hheading, ih]
    rfl
  | case6 ids i hi =>
    rw [List.drop_eq_nil_of_le (Nat.le_of_not_lt hi), placeContents]
    rfl

/-! ## Exactness -/

/-- What is written of a stream is the stream with the table of contents in place of each marker
paragraph, and every other event once, in order, changed at most in the id of a heading. -/
theorem placeContents_exact (headings : List Heading) (events : List Event) :
    let toc := renderToc headings
    let ids := headings.map (·.id)
    let out := placeContents toc ids events
    (∃ pieces : List Piece,
      events = pieces.flatMap Piece.events ∧ List.Forall₂ (Piece.Becomes toc) pieces out ∧
      (∀ s e, MarkerAt events s e ↔ PieceAt pieces s e) ∧
      (hasToc events = true ↔ ∃ block, .contents block ∈ pieces)) ∧
    -- Marker paragraphs do not overlap, and there is one if there is a table of contents.
    (∀ s e s' e', MarkerAt events s e → MarkerAt events s' e' → s ≤ s' →
      s = s' ∧ e = e' ∨ e < s') ∧
    (hasToc events = true ↔ ∃ s e, MarkerAt events s e) ∧
    -- What is opened is closed as before.
    (∀ opened, openAfter opened out = openAfter opened events) ∧
    (Balanced events → Balanced out) ∧
    ((∀ s e, ¬ MarkerAt events s e) → (∀ h ∈ headings, h.id = none) → out = events) ∧
    -- From position to position nothing behind the end is looked at.
    placeAt toc ids events 0 = some out ∧
    ∀ start, ∃ end?, markerEndAt? events start = some end? ∧
      ∀ e, end? = some e ↔ MarkerAt events start e := by
  intro toc ids out
  have hplaced : Placed toc ids events out := placed_placeContents toc ids events
  obtain ⟨pieces, hcut, hout⟩ := hplaced.cut
  refine ⟨⟨pieces, hcut.flatMap_events.symm, hout, fun s e => hcut.markerAt_iff, hcut.hasToc_iff⟩,
    fun s e s' e' => MarkerAt.eq_or_lt, hasToc_iff_markerAt, hplaced.openAfter, fun h => ?_,
    fun hmarker hids => ?_, placeAt_eq toc ids events 0, fun start => ⟨_, markerEndAt?_eq .., ?_⟩⟩
  · rw [Balanced, hplaced.openAfter]
    exact h
  · refine hplaced.eq_of_none ?_ (by simpa [ids] using hids)
    rw [← Bool.not_eq_true, hasToc_iff_markerAt]
    rintro ⟨s, e, hat⟩
    exact hmarker s e hat
  · intro e
    rw [← markerEndAt?_eq_some_iff, markerEndAt?_eq, Option.some.injEq]

end DocPress.Document
