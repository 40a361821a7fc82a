import Mathlib.Data.Option.Basic
import DocPress.Document.Body
import DocPress.Proofs.Document.Contents
import DocPress.Proofs.Document.Entries
import DocPress.Proofs.Document.Slug

/-!
# DocPress.Proofs.Document.Outline

The headings of a document, the ids on them and the links of its tables of contents agree. Headings
are collected at their ends and get their ids at their starts; as none is lost on the way, the `i`th
id comes to the `i`th heading.
-/

namespace DocPress.Document

open DocPress.Markdown

variable {mode : AnchorMode} {events : List Event}

/-! ## Ids -/

/-- Headings have ids: always, or where there is a table of contents to link to them. -/
def AnchorMode.On (mode : AnchorMode) (events : List Event) : Prop :=
  mode = .always ∨ mode = .auto ∧ ∃ block, IsMarker block ∧ block <:+: events

/-- The test for ids is whether headings have them. -/
theorem withIds_iff : mode.withIds (hasToc events) = true ↔ mode.On events := by
  rw [AnchorMode.On, ← hasToc_iff]
  cases mode <;> simp [AnchorMode.withIds]

theorem length_slugs (hs : List Heading) :
    (assignSlugs [] (hs.map (·.text))).length = hs.length := by
  rw [length_assignSlugs, List.length_map]

/-- Slugs make no difference to the levels. -/
theorem levels_withSlugs (hs : List Heading) :
    (withSlugs hs).map (·.level) = hs.map (·.level) := by
  calc (withSlugs hs).map (·.level)
      = ((hs.zip (assignSlugs [] (hs.map (·.text)))).map Prod.fst).map (·.level) := by
        rw [withSlugs, List.map_map, List.map_map]
        rfl
    _ = hs.map (·.level) := by rw [List.map_fst_zip (Nat.le_of_eq (length_slugs hs).symm)]

/-- The ids are the slugs, in the order of the headings. -/
theorem ids_withSlugs (hs : List Heading) :
    (withSlugs hs).map (·.id) = (assignSlugs [] (hs.map (·.text))).map some := by
  calc (withSlugs hs).map (·.id)
      = ((hs.zip (assignSlugs [] (hs.map (·.text)))).map Prod.snd).map some := by
        rw [withSlugs, List.map_map, List.map_map]
        rfl
    _ = (assignSlugs [] (hs.map (·.text))).map some := by
      rw [List.map_snd_zip (Nat.le_of_eq (length_slugs hs))]

/-- The ids of headings with ids: slugs, one for each heading, all different. -/
theorem ids_of_on (hon : mode.On events) : ∃ slugs : List String,
    (headingsOf mode events).map (·.id) = slugs.map some ∧ slugs.Nodup ∧
      ∀ slug ∈ slugs, slug ≠ "" ∧ IsSlugText slug := by
  rw [headingsOf, if_pos (withIds_iff.2 hon), ids_withSlugs]
  refine ⟨_, rfl, nodup_assignSlugs .., fun slug hslug => ?_⟩
  obtain ⟨⟨hempty, -⟩, hchars⟩ := free_of_mem_assignSlugs hslug
  exact ⟨hempty, hchars⟩

/-- Without anchors no heading has an id. -/
theorem id_of_not_on (hoff : ¬ mode.On events) : ∀ h ∈ headingsOf mode events, h.id = none := by
  rw [headingsOf, if_neg fun h => hoff (withIds_iff.1 h)]
  exact fun h => id_of_mem_collectHeadings

/-- The headings that are listed are those that start in the stream, if they are closed in time. -/
theorem levels_headingsOf (hclosed : HeadingsClosed events) :
    (headingsOf mode events).map (·.level) = (headingStarts events).map (·.1) := by
  rw [headingsOf, ← levels_collectHeadings hclosed]
  split
  · exact levels_withSlugs _
  · rfl

/-- The ids of headings are slugs. -/
theorem isSlugText_of_mem {h : Heading} {id : String} (hmem : h ∈ headingsOf mode events)
    (hid : h.id = some id) : IsSlugText id := by
  by_cases hon : mode.On events
  · obtain ⟨slugs, hids, -, hslugs⟩ := ids_of_on hon
    have hslug : some id ∈ slugs.map some := by
      rw [← hids, ← hid]
      exact List.mem_map_of_mem hmem
    obtain ⟨slug, hslug, heq⟩ := List.mem_map.1 hslug
    cases heq
    exact (hslugs _ hslug).2
  · rw [id_of_not_on hon h hmem] at hid
    cases hid

/-- Ids are given to headings only if they can stand in an attribute as they are. -/
theorem hasPlainId_of_mem {h : Heading} (hmem : h ∈ headingsOf mode events) : h.HasPlainId :=
  fun _ hid => (isSlugText_of_mem hmem hid).notMem

/-! ## Starts -/

/-- The headings that start in the stream that is written are those that were collected, with their
ids. -/
theorem headingStarts_outlined (hclosed : HeadingsClosed events)
    (hbare : ∀ start ∈ headingStarts events, start.2 = none) :
    headingStarts (outlined mode events) =
      (headingsOf mode events).map fun h => (h.level, h.id) := by
  have hlevels : (headingsOf mode events).map (·.level) = (headingStarts events).map (·.1) :=
    levels_headingsOf hclosed
  have hlength : ((headingsOf mode events).map (·.id)).length = (headingStarts events).length := by
    have h := congrArg List.length hlevels
    rwa [List.length_map, List.length_map, ← List.length_map (·.id)] at h
  rw [outlined, (placed_placeContents _ _ events).headingStarts hbare hlength, ← hlevels,
    List.zip_map']

/-! ## Outlines -/

/-- Headings, ids and tables of contents agree: the headings that are collected are those that
start in the stream; with ids on, each start has the id of its heading, and each entry of a table
links to just one of them; with ids off, there are neither ids nor links. -/
theorem outlined_headings (mode : AnchorMode) (events : List Event)
    (hclosed : HeadingsClosed events) (hbare : ∀ start ∈ headingStarts events, start.2 = none) :
    let body := Body.ofEvents mode events
    let out := outlined mode events
    let toc := renderToc body.headings
    let items := readItems toc.toList
    body.html = writeHtml out ∧
    -- The headings are those that start, before and after.
    body.headings.map (·.level) = (headingStarts events).map (·.1) ∧
    headingStarts out = body.headings.map (fun h => (h.level, h.id)) ∧
    -- The table of contents stands for each marker paragraph; it lists every heading, in order.
    Placed toc (body.headings.map (·.id)) events out ∧
    items = body.headings.map (fun h => (h.id.map ("#" ++ ·), Text.replaceAttribute h.text)) ∧
    (mode.On events →
      (∃ slugs : List String, body.headings.map (·.id) = slugs.map some ∧ "" ∉ slugs ∧
        slugs.Nodup) ∧
      ∀ item ∈ items, ∃ slug, item.1 = some ("#" ++ slug) ∧
        ((headingStarts out).map (·.2)).count (some slug) = 1) ∧
    (¬ mode.On events →
      (∀ start ∈ headingStarts out, start.2 = none) ∧ ∀ item ∈ items, item.1 = none) := by
  intro body out toc items
  have hstarts : headingStarts out = body.headings.map fun h => (h.level, h.id) :=
    headingStarts_outlined hclosed hbare
  have hitems : items = body.headings.map Heading.item :=
    readItems_renderToc fun h => hasPlainId_of_mem
  refine ⟨rfl, levels_headingsOf hclosed, hstarts, placed_placeContents .., hitems, fun hon => ?_,
    fun hoff => ⟨fun start hstart => ?_, fun item hitem => ?_⟩⟩
  · obtain ⟨slugs, hids, hnodup, hslugs⟩ := ids_of_on hon
    refine ⟨⟨slugs, hids, fun hempty => (hslugs _ hempty).1 rfl, hnodup⟩, fun item hitem => ?_⟩
    rw [hitems] at hitem
    obtain ⟨h, hmem, rfl⟩ := List.mem_map.1 hitem
    have hid : h.id ∈ slugs.map some := by
      rw [← hids]
      exact List.mem_map_of_mem hmem
    obtain ⟨slug, hslug, heq⟩ := List.mem_map.1 hid
    have hcarried : (headingStarts out).map (·.2) = slugs.map some := by
      rw [hstarts, List.map_map, ← hids]
      rfl
    refine ⟨slug, by rw [Heading.item, ← heq]; rfl, ?_⟩
    rw [hcarried]
    exact List.count_eq_one_of_mem (hnodup.map (Option.some_injective _)) (heq ▸ hid)
  · rw [hstarts] at hstart
    obtain ⟨h, hmem, rfl⟩ := List.mem_map.1 hstart
    exact id_of_not_on hoff h hmem
  · rw [hitems] at hitem
    obtain ⟨h, hmem, rfl⟩ := List.mem_map.1 hitem
    rw [Heading.item, id_of_not_on hoff h hmem]
    rfl

/-- Two headings with the same text, and the marker between them: their ids are different. -/
theorem outlined_headings_twice :
    let events := Event.span (.heading 1 none) [.text "A"] ++
      (Event.span .paragraph [.text " [TOC]"] ++ Event.span (.heading 3 none) [.code "A"])
    HeadingsClosed events ∧ (∀ start ∈ headingStarts events, start.2 = none) ∧
      AnchorMode.auto.On events ∧ ∃ first second : String, first ≠ second ∧
        headingStarts (outlined .auto events) = [(1, some first), (3, some second)] := by
  intro events
  have hclosed : HeadingsClosed events := by
    have hsection : HeadingsClosed (Event.span (.heading 3 none) [.code "A"]) :=
      ((headingsClosed_nil.cons rfl).cons rfl).cons_start ⟨[.code "A"], 3, [], rfl, rfl⟩
    have hafter : HeadingsClosed (Event.span .paragraph [.text " [TOC]"] ++
        Event.span (.heading 3 none) [.code "A"]) :=
      ((hsection.cons rfl).cons rfl).cons rfl
    exact ((hafter.cons rfl).cons rfl).cons_start ⟨[.text "A"], 1, _, rfl, rfl⟩
  have hbare : ∀ start ∈ headingStarts events, start.2 = none := by decide
  have hon : AnchorMode.auto.On events := by
    refine .inr ⟨rfl, Event.span .paragraph [.text " [TOC]"], ⟨[" [TOC]"], rfl, by decide⟩, ?_⟩
    exact ⟨_, _, List.append_assoc ..⟩
  obtain ⟨-, hlevels, hstarts, -, -, hids, -⟩ := outlined_headings .auto events hclosed hbare
  obtain ⟨⟨slugs, hslugs, -, hnodup⟩, -⟩ := hids hon
  have htwo : (headingStarts events).map (·.1) = [1, 3] := by decide
  rw [htwo] at hlevels
  obtain ⟨h, hs, hheadings, hlevel, hlevels⟩ := List.map_eq_cons_iff.1 hlevels
  obtain ⟨h', hs', rfl, hlevel', hlevels⟩ := List.map_eq_cons_iff.1 hlevels
  obtain rfl := List.map_eq_nil_iff.1 hlevels
  rw [hheadings] at hslugs hstarts
  obtain ⟨first, rest, rfl, hfirst, hrest⟩ := List.map_eq_cons_iff.1 hslugs.symm
  obtain ⟨second, rest', rfl, hsecond, -⟩ := List.map_eq_cons_iff.1 hrest
  refine ⟨hclosed, hbare, hon, first, second, ?_, ?_⟩
  · rintro rfl
    simp at hnodup
  · rw [hstarts, hfirst, hsecond, ← hlevel, ← hlevel']
    rfl

end DocPress.Document
