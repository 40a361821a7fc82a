import DocPress.Conversion.Run
import DocPress.Proofs.Document.Outline
import DocPress.Proofs.Document.Placing

/-!
# DocPress.Proofs.Document.Anchors

What the anchor mode of a document changes: the ids of headings and the links of tables of contents,
and nothing else.

1. A table of contents without its links is the table of the headings without ids
   (`unlink_renderToc`).
2. The streams that are written under two modes go together event by event: a table of contents
   stands beside a table of contents, and all other events are alike but for the id of a heading
   (`placeContents_alike`).
3. But for their ids, the headings are those that were collected (`withoutId_headingsOf`).
-/

namespace DocPress.Document

open DocPress.Markdown DocPress.Text

variable {events : List Event} {toc toc' : String} {ids ids' : List (Option String)}
variable {a b : List Char} {h : Heading} {hs : List Heading} {mode mode' : AnchorMode}

/-! ## Links -/

/-- Where a reader of HTML is with regard to a link to a place in the same document. -/
inductive LinkPart where
  | outside
  /-- In the tag that opens it, behind `#`. -/
  | target
  | inside
  deriving Repr, DecidableEq

/-- HTML without the links to places in the same document, given where the reader is. What stands in
such a link stays. -/
def unlinkFrom : LinkPart → List Char → List Char
  | .outside,
    '<' :: 'a' :: ' ' :: 'h' :: 'r' :: 'e' :: 'f' :: '=' :: '\x22' :: '#' :: rest =>
    unlinkFrom .target rest
  | .target, '\x22' :: '>' :: rest => unlinkFrom .inside rest
  | .target, _ :: rest => unlinkFrom .target rest
  | .inside, '<' :: '/' :: 'a' :: '>' :: rest => unlinkFrom .outside rest
  | part, c :: rest => c :: unlinkFrom part rest
  | _, [] => []

/-- HTML without the links to places in the same document. -/
def unlink (html : String) : String :=
  String.ofList (unlinkFrom .outside html.toList)

/-- Outside a link, a text stays as it is in front of anything. -/
def IsUnlinked (a : List Char) : Prop :=
  ∀ rest, unlinkFrom .outside (a ++ rest) = a ++ unlinkFrom .outside rest

theorem IsUnlinked.append (ha : IsUnlinked a) (hb : IsUnlinked b) : IsUnlinked (a ++ b) := by
  intro rest
  rw [List.append_assoc, ha, hb, List.append_assoc]

theorem keptByAppend_isUnlinked : KeptByAppend IsUnlinked where
  nil := fun _ => rfl
  append := IsUnlinked.append

/-- Where no tag begins, nothing is a link and no link ends. -/
theorem unlinkFrom_of_notMem {part : LinkPart} (hpart : part ≠ .target) (h : '<' ∉ a)
    (rest : List Char) : unlinkFrom part (a ++ rest) = a ++ unlinkFrom part rest := by
  induction a with
  | nil => rfl
  | cons c a ih =>
    rw [List.mem_cons, not_or] at h
    have hc : c ≠ '<' := Ne.symm h.1
    rw [List.cons_append, unlinkFrom, ih h.2, List.cons_append] <;> simp [hc, hpart]

/-- The target of a link goes up to the quote that ends it. -/
theorem unlinkFrom_target (h : '\x22' ∉ a) (rest : List Char) :
    unlinkFrom .target (a ++ '\x22' :: '>' :: rest) = unlinkFrom .inside rest := by
  induction a with
  | nil => rfl
  | cons c a ih =>
    rw [List.mem_cons, not_or] at h
    have hc : c ≠ '\x22' := Ne.symm h.1
    rw [List.cons_append, unlinkFrom, ih h.2]
    simp [hc]

/-! ## Tables of contents -/

/-- A heading without its id. -/
def Heading.withoutId (h : Heading) : Heading :=
  { h with id := none }

theorem level_withoutId (h : Heading) : h.withoutId.level = h.level :=
  rfl

/-- Without an id the entry of a heading is its text. -/
theorem tocEntry_withoutId (h : Heading) : tocEntry h.withoutId = replaceAttribute h.text :=
  rfl

/-- The text of an entry is what is left of it. -/
theorem unlinkFrom_tocEntry (hplain : h.HasPlainId) (rest : List Char) :
    unlinkFrom .outside ((tocEntry h).toList ++ rest) =
      (tocEntry h.withoutId).toList ++ unlinkFrom .outside rest := by
  have htext := notMem_replaceAttribute h.text
  rw [tocEntry_withoutId]
  unfold tocEntry
  cases hid : h.id with
  | none => exact unlinkFrom_of_notMem (by decide) htext rest
  | some id =>
    obtain ⟨hquote, -⟩ := hplain id hid
    have hentry :
        ("<a href=\"#" ++ id ++ "\">" ++ replaceAttribute h.text ++ "</a>").toList ++ rest =
        "<a href=\"#".toList ++ (id.toList ++ '\x22' :: '>' ::
          ((replaceAttribute h.text).toList ++ ("</a>".toList ++ rest))) := by
      simp [String.toList_append]
    have hstart (tail : List Char) :
        unlinkFrom .outside ("<a href=\"#".toList ++ tail) = unlinkFrom .target tail := rfl
    have hend : unlinkFrom .inside ("</a>".toList ++ rest) = unlinkFrom .outside rest := rfl
    rw [hentry, hstart, unlinkFrom_target hquote, unlinkFrom_of_notMem (by decide) htext, hend]

/-- The tags of the lists are no links. -/
theorem isUnlinked_tocStep (opened depth : Nat) : IsUnlinked (tocStep opened depth).1.toList :=
  keptByAppend_isUnlinked.tocStep (fun _ => rfl) (fun _ => rfl) (fun _ => rfl) (fun _ => rfl)
    opened depth

/-- The induction is on the entries, whatever lists are open. -/
theorem unlinkFrom_tocEntries (opened : Nat) (entries : List (Heading × Nat)) (rest : List Char)
    (hplain : ∀ entry ∈ entries, entry.1.HasPlainId) :
    unlinkFrom .outside ((tocEntries opened entries).toList ++ rest) =
      (tocEntries opened (entries.map fun entry => (entry.1.withoutId, entry.2))).toList ++
        unlinkFrom .outside rest := by
  induction entries generalizing opened with
  | nil =>
    have hclosed : IsUnlinked "</li>\n</ul>\n".toList := fun _ => rfl
    exact keptByAppend_isUnlinked.replicate hclosed opened rest
  | cons entry entries ih =>
    obtain ⟨h, depth⟩ := entry
    obtain ⟨hh, hentries⟩ := List.forall_mem_cons.1 hplain
    have hitem : IsUnlinked "<li>".toList := fun _ => rfl
    have hstep := isUnlinked_tocStep opened depth
    simp only [List.map_cons, tocEntries_cons, List.append_assoc]
    rw [hstep, hitem, unlinkFrom_tocEntry hh, ih _ hentries]

/-- Without its links, a table of contents is that of the headings without ids. -/
theorem unlink_renderToc (hplain : ∀ h ∈ hs, h.HasPlainId) :
    unlink (renderToc hs) = renderToc (hs.map Heading.withoutId) := by
  have hentries : ∀ entry ∈ hs.zip (tocDepths (hs.map (·.level))), entry.1.HasPlainId :=
    fun entry hmem => hplain entry.1 (List.of_mem_zip hmem).1
  have hstart : IsUnlinked "<div class=\"toc\">\n".toList := fun _ => rfl
  have hnone : IsUnlinked (if hs.isEmpty then "<ul></ul>\n" else "").toList := by
    split <;> exact fun _ => rfl
  have hend : unlinkFrom .outside "</div>\n".toList = "</div>\n".toList := rfl
  rw [renderToc_map level_withoutId, unlink, ← String.toList_inj, String.toList_ofList]
  unfold renderToc
  simp only [String.toList_append, List.append_assoc]
  rw [hstart, unlinkFrom_tocEntries _ _ _ hentries, hnone, hend]

/-! ## Streams -/

/-- Tables of contents that go together, or events that are alike but for the id of a heading. -/
def SameButAnchors (toc toc' : String) (e e' : Event) : Prop :=
  e = .html toc ∧ e' = .html toc' ∨ AlikeButId e e'

/-- Whatever is placed, the streams go together event by event. The induction is on the recursion of
`placeContents`: at each step, the same case applies to both. -/
theorem placeContents_alike (toc toc' : String) (ids ids' : List (Option String))
    (events : List Event) : List.Forall₂ (SameButAnchors toc toc')
      (placeContents toc ids events) (placeContents toc' ids' events) := by
  fun_induction placeContents toc ids events generalizing ids' with
  | case1 ids events rest h _ ih =>
    rw [placeContents_of_marker h]
    exact .cons (.inl ⟨rfl, rfl⟩) (ih ids')
  | case2 ids h =>
    rw [placeContents]
    exact .nil
  | case3 ids level own rest h ih =>
    rw [placeContents_heading]
    exact .cons (.inr (.inr ⟨level, _, _, rfl, rfl⟩)) (ih ids'.tail)
  | case4 ids e rest h hheading ih =>
    have hother : ∀ level own, e ≠ .start (.heading level own) := by
      rintro level own rfl
      exact hheading level own h rfl HEq.rfl
    rw [placeContents_other h hother]
    exact .cons (.inr (.inl rfl)) (ih ids')

/-- An event without the id of a heading, and without the links of a table of contents. -/
def bare : Event → Event
  | .start (.heading level _) => .start (.heading level none)
  | .html content => .html (unlink content)
  | e => e

/-- Events that go together are the same without ids and links. -/
theorem SameButAnchors.bare_eq {e e' : Event} (h : SameButAnchors toc toc' e e')
    (htoc : unlink toc = unlink toc') : bare e = bare e' := by
  rcases h with ⟨rfl, rfl⟩ | rfl | ⟨level, own, id, rfl, rfl⟩
  · simp [bare, htoc]
  · rfl
  · rfl

/-- Streams that go together are the same without ids and links. -/
theorem map_bare_eq {out out' : List Event} (h : List.Forall₂ (SameButAnchors toc toc') out out')
    (htoc : unlink toc = unlink toc') : out.map bare = out'.map bare := by
  induction h with
  | nil => rfl
  | cons he hrest ih => rw [List.map_cons, List.map_cons, he.bare_eq htoc, ih]

/-! ## Headings -/

/-- Slugs make no difference to headings but for their ids. -/
theorem withoutId_withSlugs (hs : List Heading) :
    (withSlugs hs).map Heading.withoutId = hs.map Heading.withoutId := by
  calc (withSlugs hs).map Heading.withoutId
      = ((hs.zip (assignSlugs [] (hs.map (·.text)))).map Prod.fst).map Heading.withoutId := by
        rw [withSlugs, List.map_map, List.map_map]
        rfl
    _ = hs.map Heading.withoutId := by
      rw [List.map_fst_zip (Nat.le_of_eq (length_slugs hs).symm)]

/-- But for their ids, the headings are those that were collected. -/
theorem withoutId_headingsOf (mode : AnchorMode) (events : List Event) :
    (headingsOf mode events).map Heading.withoutId = collectHeadings events := by
  have hcollected : (collectHeadings events).map Heading.withoutId = collectHeadings events := by
    have hnone (h : Heading) (hmem : h ∈ collectHeadings events) : h.withoutId = h := by
      rw [Heading.withoutId, ← id_of_mem_collectHeadings hmem]
    rw [List.map_congr_left hnone, List.map_id']
  rw [headingsOf]
  split
  · rw [withoutId_withSlugs, hcollected]
  · exact hcollected

/-- The title of a document is that of the headings that were collected. -/
theorem firstTitle?_ofEvents (mode : AnchorMode) (events : List Event) :
    (Body.ofEvents mode events).firstTitle? =
      ((collectHeadings events).find? (·.level == 1)).map (·.text) := by
  rw [Body.firstTitle?, ← withoutId_headingsOf mode events, List.find?_map, Option.map_map]
  rfl

/-- In every mode, the table of contents without its links is the one without anchors. -/
theorem unlink_toc (mode : AnchorMode) (events : List Event) :
    unlink (renderToc (headingsOf mode events)) = renderToc (headingsOf .never events) := by
  rw [unlink_renderToc fun h => hasPlainId_of_mem, withoutId_headingsOf]
  rfl

/-! ## Modes -/

/-- The anchor mode of a document changes the ids of its headings and the links of its tables of
contents, and nothing else. The headings are the same without their ids, and so is the title; the
streams that are written go together event by event, with tables of contents that are the same
without their links. And the mode that looks for a table of contents does one of the other two. -/
theorem ofEvents_alike_but_anchors (events : List Event) :
    let body (mode : AnchorMode) := Body.ofEvents mode events
    let toc (mode : AnchorMode) := renderToc (body mode).headings
    let title? := ((collectHeadings events).find? (·.level == 1)).map (·.text)
    (∀ mode, (body mode).headings.map Heading.withoutId = collectHeadings events ∧
      (body mode).firstTitle? = title? ∧ ∀ config flavor,
        Conversion.documentFor (body mode) flavor config =
          Page.wrapDocument (body mode).html flavor config.layout (config.title <|> title?)) ∧
    -- Only ids and links differ, and these in headings and tables of contents alone.
    (∀ mode, (body mode).html = writeHtml (outlined mode events) ∧
      unlink (toc mode) = toc .never) ∧
    (∀ mode mode', List.Forall₂ (SameButAnchors (toc mode) (toc mode'))
      (outlined mode events) (outlined mode' events)) ∧
    (∀ mode mode', (outlined mode events).map bare = (outlined mode' events).map bare) ∧
    ((∃ block, IsMarker block ∧ block <:+: events) → body .auto = body .always) ∧
    (¬ (∃ block, IsMarker block ∧ block <:+: events) → body .auto = body .never) := by
  intro body toc title?
  have halike (mode mode' : AnchorMode) : List.Forall₂ (SameButAnchors (toc mode) (toc mode'))
      (outlined mode events) (outlined mode' events) := placeContents_alike ..
  have hunlinked (mode : AnchorMode) : unlink (toc mode) = toc .never := unlink_toc mode events
  refine ⟨fun mode => ⟨withoutId_headingsOf mode events, firstTitle?_ofEvents mode events, ?_⟩,
    fun mode => ⟨rfl, hunlinked mode⟩, halike, fun mode mode' => ?_, fun hmarker => ?_,
    fun hmarker => ?_⟩
  · intro config flavor
    rw [Conversion.documentFor, firstTitle?_ofEvents]
  · exact map_bare_eq (halike mode mode') ((hunlinked mode).trans (hunlinked mode').symm)
  · have htoc : hasToc events = true := hasToc_iff.2 hmarker
    simp only [body, Body.ofEvents, outlined, headingsOf, AnchorMode.withIds, htoc]
  · have htoc : hasToc events = false := by
      rw [← Bool.not_eq_true]
      exact fun h => hmarker (hasToc_iff.1 h)
    simp only [body, Body.ofEvents, outlined, headingsOf, AnchorMode.withIds, htoc]

end DocPress.Document
