import DocPress.Proofs.Document.Contents

/-!
# DocPress.Proofs.Document.Markers

Where marker paragraphs stand in a stream. No two of them overlap (`MarkerAt.eq_or_lt`), so the
stream can be cut at them from its start to its end (`Cut`), and a cut misses none: its marker
paragraphs are those of the stream (`Cut.markerAt_iff`).
-/

namespace DocPress.Document

open DocPress.Markdown DocPress.Text

/-! ## Pieces -/

/-- What a stream is cut into: marker paragraphs, and the events that stand in none. -/
inductive Piece where
  | contents (block : List Event)
  | kept (e : Event)

/-- The events of a piece. -/
def Piece.events : Piece → List Event
  | .contents block => block
  | .kept e => [e]

/-- A stream is cut at its marker paragraphs. -/
inductive Cut : List Event → List Piece → Prop
  | done : Cut [] []
  | contents {block rest pieces} (hmarker : IsMarker block) (hrest : Cut rest pieces) :
      Cut (block ++ rest) (.contents block :: pieces)
  | kept {e rest pieces} (hmarker : ∀ block, IsMarker block → ¬ block <+: e :: rest)
      (hrest : Cut rest pieces) : Cut (e :: rest) (.kept e :: pieces)

variable {events front rest block block' after after' : List Event} {s e s' e' : Nat}
variable {pieces : List Piece}

/-! ## Positions -/

/-- The events from `s` to `e` are a marker paragraph. -/
def MarkerAt (events : List Event) (s e : Nat) : Prop :=
  ∃ before block after, events = before ++ (block ++ after) ∧ IsMarker block ∧
    s = before.length ∧ e + 1 = s + block.length

/-- A marker paragraph ends in the stream. -/
theorem MarkerAt.lt_length (h : MarkerAt events s e) : e < events.length := by
  obtain ⟨before, block, after, rfl, -, rfl, he⟩ := h
  simp
  omega

/-- A marker paragraph has events. -/
theorem IsMarker.length_pos (h : IsMarker block) : 0 < block.length := by
  obtain ⟨texts, rfl, -⟩ := h
  simp

/-- A marker paragraph begins as every paragraph does. -/
theorem IsMarker.head? (h : IsMarker block) : block.head? = some (.start .paragraph) := by
  obtain ⟨texts, rfl, -⟩ := h
  rfl

/-- A stream begins with one marker paragraph at most. -/
theorem IsMarker.append_inj (h : IsMarker block) (h' : IsMarker block')
    (heq : block ++ after = block' ++ after') : block = block' ∧ after = after' := by
  have hfound : tocParagraph? (block ++ after) = some after :=
    tocParagraph?_eq_some_iff.2 ⟨block, h, rfl⟩
  have hfound' : tocParagraph? (block' ++ after') = some after' :=
    tocParagraph?_eq_some_iff.2 ⟨block', h', rfl⟩
  rw [heq, hfound'] at hfound
  obtain rfl := Option.some.inj hfound
  exact ⟨List.append_cancel_right heq, rfl⟩

/-- Behind its start no other paragraph starts in a marker paragraph. -/
theorem IsMarker.getElem?_succ_ne (h : IsMarker block) (i : Nat) :
    block[i + 1]? ≠ some (.start .paragraph) := by
  obtain ⟨texts, rfl, -⟩ := h
  intro hget
  rw [List.getElem?_cons_succ] at hget
  have hmem := List.mem_of_getElem? hget
  simp at hmem

/-- What comes before a marker paragraph has none of it: it ends before another one begins. -/
theorem IsMarker.length_le (h : IsMarker block) (h' : IsMarker block') {before : List Event}
    (heq : block ++ rest = before ++ (block' ++ after')) (hne : before ≠ []) :
    block.length ≤ before.length := by
  refine Nat.le_of_not_lt fun hlt => ?_
  have hpos : before.length = before.length - 1 + 1 := by
    have := List.length_pos_iff.2 hne
    omega
  have hstart : (block ++ rest)[before.length]? = some (.start .paragraph) := by
    rw [heq, List.getElem?_append_right (Nat.le_refl _), Nat.sub_self, ← List.head?_eq_getElem?,
      List.head?_append, h'.head?]
    rfl
  rw [List.getElem?_append_left hlt, hpos] at hstart
  exact h.getElem?_succ_ne _ hstart

/-- Marker paragraphs do not overlap. -/
theorem MarkerAt.eq_or_lt (h : MarkerAt events s e) (h' : MarkerAt events s' e') (hle : s ≤ s') :
    s = s' ∧ e = e' ∨ e < s' := by
  obtain ⟨before, block, after, rfl, hmarker, rfl, he⟩ := h
  obtain ⟨before', block', after', heq, hmarker', rfl, he'⟩ := h'
  obtain ⟨between, rfl⟩ : before <+: before' :=
    List.prefix_of_prefix_length_le ⟨_, heq⟩ (List.prefix_append _ _) hle
  rw [List.append_assoc, List.append_cancel_left_eq] at heq
  cases between with
  | nil =>
    obtain ⟨rfl, -⟩ := hmarker.append_inj hmarker' heq
    simp at he'
    simp
    omega
  | cons first between =>
    have hlength := hmarker.length_le hmarker' heq (List.cons_ne_nil first between)
    rw [List.length_append]
    omega

/-- There is a table of contents if there is a marker paragraph at some position. -/
theorem hasToc_iff_markerAt : hasToc events = true ↔ ∃ s e, MarkerAt events s e := by
  rw [hasToc_iff]
  constructor
  · rintro ⟨block, hmarker, before, after, rfl⟩
    have := hmarker.length_pos
    exact ⟨before.length, before.length + block.length - 1, before, block, after, by simp,
      hmarker, rfl, by omega⟩
  · rintro ⟨s, e, before, block, after, rfl, hmarker, -⟩
    exact ⟨block, hmarker, before, after, by simp⟩

/-- Behind a front that it does not begin in, a marker paragraph stands in the rest. -/
theorem MarkerAt.of_append (h : MarkerAt (front ++ rest) s e) (hle : front.length ≤ s) :
    ∃ s' e', s = front.length + s' ∧ e = front.length + e' ∧ MarkerAt rest s' e' := by
  obtain ⟨before, block, after, heq, hmarker, rfl, he⟩ := h
  obtain ⟨before, rfl⟩ : front <+: before :=
    List.prefix_of_prefix_length_le ⟨_, heq⟩ (List.prefix_append _ _) hle
  rw [List.append_assoc, List.append_cancel_left_eq] at heq
  rw [List.length_append] at he ⊢
  have := hmarker.length_pos
  exact ⟨before.length, before.length + block.length - 1, rfl, by omega, before, block, after, heq,
    hmarker, rfl, by omega⟩

/-! ## Cuts -/

/-- A cut loses nothing. -/
theorem Cut.flatMap_events (h : Cut events pieces) : pieces.flatMap Piece.events = events := by
  induction h with
  | done => rfl
  | contents hmarker hrest ih => rw [List.flatMap_cons, ih, Piece.events]
  | kept hmarker hrest ih => rw [List.flatMap_cons, ih, Piece.events, List.singleton_append]

/-- What is cut out is a marker paragraph. -/
theorem Cut.isMarker (h : Cut events pieces) (hmem : .contents block ∈ pieces) :
    IsMarker block := by
  induction h with
  | done => cases hmem
  | contents hmarker hrest ih =>
    cases hmem with
    | head => exact hmarker
    | tail _ hmem => exact ih hmem
  | kept hmarker hrest ih =>
    cases hmem with
    | tail _ hmem => exact ih hmem

/-- A piece that is a marker paragraph holds the events from `s` to `e`. -/
def PieceAt (pieces : List Piece) (s e : Nat) : Prop :=
  ∃ before block after, pieces = before ++ .contents block :: after ∧
    s = (before.flatMap Piece.events).length ∧ e + 1 = s + block.length

/-- With one more piece in front, the events of a piece stand further behind. -/
theorem PieceAt.cons (h : PieceAt pieces s e) (piece : Piece) :
    PieceAt (piece :: pieces) (piece.events.length + s) (piece.events.length + e) := by
  obtain ⟨before, block, after, rfl, rfl, he⟩ := h
  exact ⟨piece :: before, block, after, rfl, by simp, by omega⟩

/-- A cut misses no marker paragraph. The induction is on the cut: one that does not begin where the
first piece does begins behind it, whether this is a marker paragraph or an event. -/
theorem Cut.pieceAt (h : Cut events pieces) (hat : MarkerAt events s e) : PieceAt pieces s e := by
  induction h generalizing s e with
  | done =>
    have := hat.lt_length
    simp at this
  | @contents first rest pieces hfirst hrest ih =>
    by_cases hle : first.length ≤ s
    · obtain ⟨s, e, rfl, rfl, hbehind⟩ := hat.of_append hle
      exact (ih hbehind).cons (.contents first)
    · have hpos := hfirst.length_pos
      have hstart : MarkerAt (first ++ rest) 0 (first.length - 1) :=
        ⟨[], first, rest, rfl, hfirst, rfl, by omega⟩
      rcases hstart.eq_or_lt hat (Nat.zero_le s) with ⟨rfl, rfl⟩ | hlt
      · exact ⟨[], first, pieces, rfl, rfl, by omega⟩
      · omega
  | @kept first rest pieces hnone hrest ih =>
    by_cases hle : 1 ≤ s
    · have hat : MarkerAt ([first] ++ rest) s e := hat
      obtain ⟨s, e, rfl, rfl, hbehind⟩ := hat.of_append hle
      exact (ih hbehind).cons (.kept first)
    · obtain ⟨before, block, after, heq, hmarker, rfl, -⟩ := hat
      obtain rfl : before = [] := List.eq_nil_of_length_eq_zero (by omega)
      exact absurd ⟨after, heq.symm⟩ (hnone block hmarker)

/-- The marker paragraphs of a cut are those of the stream. -/
theorem Cut.markerAt_iff (h : Cut events pieces) : MarkerAt events s e ↔ PieceAt pieces s e := by
  refine ⟨h.pieceAt, ?_⟩
  rintro ⟨before, block, after, rfl, hs, he⟩
  refine ⟨before.flatMap Piece.events, block, after.flatMap Piece.events, ?_, ?_, hs, he⟩
  · rw [← h.flatMap_events]
    simp [Piece.events]
  · exact h.isMarker (by simp)

/-- There is a table of contents if a piece is a marker paragraph. -/
theorem Cut.hasToc_iff (h : Cut events pieces) :
    hasToc events = true ↔ ∃ block, .contents block ∈ pieces := by
  rw [hasToc_iff_markerAt]
  simp only [h.markerAt_iff]
  constructor
  · rintro ⟨s, e, before, block, after, rfl, -⟩
    exact ⟨block, by simp⟩
  · rintro ⟨block, hmem⟩
    have hpos := (h.isMarker hmem).length_pos
    obtain ⟨before, after, rfl⟩ := List.append_of_mem hmem
    exact ⟨_, (before.flatMap Piece.events).length + block.length - 1, before, block, after, rfl,
      rfl, by omega⟩

end DocPress.Document
