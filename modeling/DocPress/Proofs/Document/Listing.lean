import DocPress.Proofs.Document.Entries
import DocPress.Proofs.Document.Forest
import DocPress.Proofs.Document.Slug

/-!
# DocPress.Proofs.Document.Listing

A table of contents is the outline of its headings, written as nested lists:

1. `Forest.html` writes a forest: a list for the roots, in each item the list of those that nest
   under it.
2. The table is written heading by heading, and only a count of open lists is kept. `resumed` is
   what it writes once all items so far are closed down to a depth; from there on it writes the
   forest that follows, and is left where it was (`resumed_entries`).
3. `readNested` reads the lists back, with the elements that are open, and takes nothing that is not
   closed in turn. Off the table of contents it reads the headings and their depths
   (`readContents_renderToc`).
-/

namespace DocPress.Document

open DocPress.Text

variable {f : Forest} {hs : List Heading} {h : Heading} {depth : Nat}
variable {rest : List (Heading × Nat)}

/-! ## Forests as lists -/

namespace Forest

/-- The items of a list: each has the entry of its heading, and a list of its own for the headings
that nest under this one. -/
def items : Forest → String
  | nil => ""
  | node h children siblings =>
    "<li>" ++ tocEntry h ++
      (if children = nil then "" else "\n" ++ ("<ul>\n" ++ children.items ++ "</ul>\n")) ++
      "</li>\n" ++ siblings.items

/-- The list of the roots. -/
def html (f : Forest) : String :=
  "<ul>\n" ++ f.items ++ "</ul>\n"

/-- What stands in an item behind its entry. -/
def inner (children : Forest) : String :=
  if children = nil then "" else "\n" ++ children.html

/-- The first item has what stands in it behind its entry, and the others follow. -/
theorem items_node (h : Heading) (children siblings : Forest) :
    (node h children siblings).items =
      "<li>" ++ tocEntry h ++ children.inner ++ "</li>\n" ++ siblings.items :=
  rfl

@[simp] theorem inner_nil : nil.inner = "" :=
  rfl

@[simp] theorem inner_node (h : Heading) (children siblings : Forest) :
    (node h children siblings).inner = "\n" ++ (node h children siblings).html :=
  rfl

/-- The headings with their depths. -/
def entries (depth : Nat) (f : Forest) : List (Heading × Nat) :=
  f.headings.zip (f.depths depth)

@[simp] theorem entries_nil (depth : Nat) : nil.entries depth = [] :=
  rfl

/-- A heading comes before those that nest under it, and those before its siblings. -/
@[simp] theorem entries_node (depth : Nat) (h : Heading) (children siblings : Forest) :
    (node h children siblings).entries depth =
      (h, depth) :: (children.entries (depth + 1) ++ siblings.entries depth) := by
  simp [entries, headings, depths, List.zip_append]

end Forest

/-! ## Heading by heading -/

/-- What is written from where all items are closed down to a depth, while the lists up to this depth
are open. -/
def resumed (depth : Nat) : List (Heading × Nat) → String
  | [] => "</ul>\n" ++ String.join (List.replicate depth "</li>\n</ul>\n")
  | (h, d) :: rest =>
    String.join (List.replicate (depth - d) "</ul>\n</li>\n") ++
      ("<li>" ++ tocEntry h ++ tocEntries (d + 1) rest)

theorem item_list_end_eq : "</li>\n</ul>\n" = "</li>\n" ++ "</ul>\n" :=
  rfl

theorem list_item_end_eq : "</ul>\n</li>\n" = "</ul>\n" ++ "</li>\n" :=
  rfl

theorem inner_list_start_eq : "\n<ul>\n" = "\n" ++ "<ul>\n" :=
  rfl

/-- The next heading, if any, is no deeper. -/
def NoDeeper (depth : Nat) (rest : List (Heading × Nat)) : Prop :=
  ∀ entry ∈ rest.head?, entry.2 ≤ depth

/-- The roots of a forest are no deeper than the forest. -/
theorem NoDeeper.entries_append (h : NoDeeper depth rest) (f : Forest) :
    NoDeeper depth (f.entries depth ++ rest) := by
  cases f with
  | nil => exact h
  | node heading children siblings => simp [NoDeeper]

theorem NoDeeper.succ (h : NoDeeper depth rest) : NoDeeper (depth + 1) rest :=
  fun entry hentry => Nat.le_succ_of_le (h entry hentry)

/-- Before the first heading, the list of the roots begins. -/
theorem tocEntries_first (h : Heading) (rest : List (Heading × Nat)) :
    tocEntries 0 ((h, 0) :: rest) = "<ul>\n" ++ resumed 0 ((h, 0) :: rest) := by
  simp [-String.reduceAppend, tocEntries, tocStep, resumed, String.append_assoc]

/-- Before a heading that is no deeper, the item of the last one ends. -/
theorem tocEntries_of_noDeeper (h : NoDeeper depth rest) :
    tocEntries (depth + 1) rest = "</li>\n" ++ resumed depth rest := by
  cases rest with
  | nil =>
    simp [-String.reduceAppend, tocEntries, resumed, List.replicate_succ, String.join_cons,
      item_list_end_eq, String.append_assoc]
  | cons entry rest =>
    obtain ⟨heading, d⟩ := entry
    have hd : d ≤ depth := h (heading, d) rfl
    have hopened : ¬ depth + 1 ≤ d := by omega
    have hleft : depth + 1 - (depth + 1 - (d + 1)) = d + 1 := by omega
    have hclosed : depth + 1 - (d + 1) = depth - d := by omega
    simp only [tocEntries, tocStep, hopened, if_false, hleft, resumed, Nat.succ_ne_zero]
    simp [hclosed, String.append_assoc]

/-- Before a heading that is deeper, a list begins in the item of the last one. -/
theorem tocEntries_of_deeper (h : Heading) (depth : Nat) (rest : List (Heading × Nat)) :
    tocEntries (depth + 1) ((h, depth + 1) :: rest) =
      "\n" ++ "<ul>\n" ++ resumed (depth + 1) ((h, depth + 1) :: rest) := by
  simp [-String.reduceAppend, tocEntries, tocStep, resumed, inner_list_start_eq,
    String.append_assoc]

/-- To go on at a lower depth, a list and the item that it stands in end. -/
theorem resumed_succ (h : NoDeeper depth rest) :
    resumed (depth + 1) rest = "</ul>\n" ++ ("</li>\n" ++ resumed depth rest) := by
  cases rest with
  | nil =>
    simp [-String.reduceAppend, resumed, List.replicate_succ, String.join_cons, item_list_end_eq,
      String.append_assoc]
  | cons entry rest =>
    obtain ⟨heading, d⟩ := entry
    have hd : depth + 1 - d = (depth - d) + 1 := Nat.succ_sub (h (heading, d) rfl)
    simp [-String.reduceAppend, resumed, hd, List.replicate_succ, String.join_cons,
      list_item_end_eq, String.append_assoc]

/-- The entries of a forest are written as its items, and then all is as it was before. -/
theorem resumed_entries (f : Forest) (h : NoDeeper depth rest) :
    resumed depth (f.entries depth ++ rest) = f.items ++ resumed depth rest := by
  induction f generalizing depth rest with
  | nil => simp [Forest.items]
  | node heading children siblings ihc ihs =>
    have hafter : NoDeeper depth (siblings.entries depth ++ rest) := h.entries_append siblings
    have hchildren : tocEntries (depth + 1)
        (children.entries (depth + 1) ++ (siblings.entries depth ++ rest)) =
          children.inner ++ ("</li>\n" ++ resumed depth (siblings.entries depth ++ rest)) := by
      cases children with
      | nil => simp [tocEntries_of_noDeeper hafter]
      | node child grandchildren others =>
        have hitems := ihc hafter.succ
        rw [Forest.entries_node, List.cons_append] at hitems ⊢
        rw [tocEntries_of_deeper, hitems, resumed_succ hafter, Forest.inner_node]
        simp [-String.reduceAppend, Forest.html, String.append_assoc]
    rw [Forest.entries_node, List.cons_append, List.append_assoc, resumed, hchildren, ihs h,
      Forest.items_node]
    simp [-String.reduceAppend, String.append_assoc]

/-- The headings with the depths of the table of contents are the entries of their outline. -/
theorem IsOutline.entries (h : IsOutline hs f) :
    hs.zip (tocDepths (hs.map (·.level))) = f.entries 0 := by
  rw [← h.depths, Forest.entries, h.headings_eq]

/-- The table of contents of headings is their outline. -/
theorem renderToc_of_isOutline (houtline : IsOutline hs f) (hne : hs ≠ []) :
    renderToc hs = "<div class=\"toc\">\n" ++ f.html ++ "</div>\n" := by
  have hnone : NoDeeper 0 [] := fun entry hentry => by cases hentry
  have hlist : tocEntries 0 (f.entries 0) = f.html := by
    have hitems := resumed_entries f hnone
    cases f with
    | nil => exact absurd houtline.headings_eq.symm hne
    | node heading children siblings =>
      rw [Forest.entries_node, List.append_nil] at hitems
      rw [Forest.entries_node, tocEntries_first, hitems, Forest.html]
      simp [-String.reduceAppend, resumed, String.append_assoc]
  unfold renderToc
  simp [houtline.entries, hlist, hne]

/-! ## Reading back -/

/-- What can be open in a table of contents. -/
inductive ListElement where
  | list
  | item
  deriving Repr, DecidableEq

/-- The depths of the items and what they list, given the lists and items that are open, innermost
first. Items stand in lists, what ends is what is innermost, and nothing is left open. -/
def readNested (opened : List ListElement) :
    List Char → Option (List (Nat × Option String × String))
  | '<' :: 'u' :: 'l' :: '>' :: rest => readNested (.list :: opened) rest
  | '<' :: 'l' :: 'i' :: '>' :: rest =>
    match opened with
    | .list :: _ =>
      (readNested (.item :: opened) rest).map ((opened.count .item, readItem rest) :: ·)
    | _ => none
  | '<' :: '/' :: 'u' :: 'l' :: '>' :: rest =>
    match opened with
    | .list :: opened => readNested opened rest
    | _ => none
  | '<' :: '/' :: 'l' :: 'i' :: '>' :: rest =>
    match opened with
    | .item :: opened => readNested opened rest
    | _ => none
  | _ :: rest => readNested opened rest
  | [] => if opened.isEmpty then some [] else none

/-- The depth, the text and the id of each heading in a table of contents. -/
def readContents (toc : String) : Option (List (Nat × String × Option String)) :=
  (readNested [] toc.toList).map fun listed => listed.map fun (depth, target?, text) =>
    (depth, String.ofList (decodeEntities text.toList),
      target?.map fun target => String.ofList (target.toList.drop 1))

variable {opened : List ListElement} {a b : List Char} {c : Char}

/-- A text opens and closes nothing. -/
def OpensNothing (a : List Char) : Prop :=
  ∀ opened rest, readNested opened (a ++ rest) = readNested opened rest

theorem OpensNothing.append (ha : OpensNothing a) (hb : OpensNothing b) :
    OpensNothing (a ++ b) := by
  intro opened rest
  rw [List.append_assoc, ha, hb]

/-- Outside of tags nothing is opened or closed. -/
theorem readNested_cons_of_ne (hc : c ≠ '<') (opened : List ListElement) (rest : List Char) :
    readNested opened (c :: rest) = readNested opened rest := by
  rw [readNested] <;> simp [hc]

/-- A text without tags opens nothing. -/
theorem opensNothing_of_notMem (h : '<' ∉ a) : OpensNothing a := by
  intro opened rest
  induction a with
  | nil => rfl
  | cons c a ih =>
    rw [List.mem_cons, not_or] at h
    rw [List.cons_append, readNested_cons_of_ne (Ne.symm h.1), ih h.2]

/-- An entry opens no list and no item, neither in its id nor in its text. -/
theorem opensNothing_tocEntry (hplain : h.HasPlainId) : OpensNothing (tocEntry h).toList := by
  have htext : OpensNothing (replaceAttribute h.text).toList :=
    opensNothing_of_notMem (notMem_replaceAttribute h.text)
  unfold tocEntry
  cases hid : h.id with
  | none => exact htext
  | some id =>
    have hstart : OpensNothing "<a href=\"#".toList := fun _ _ => rfl
    have hend : OpensNothing "</a>".toList := fun _ _ => rfl
    have hid : OpensNothing id.toList := opensNothing_of_notMem (hplain id hid).2
    have hquote : OpensNothing "\">".toList := fun _ _ => rfl
    simp only [String.toList_append]
    exact (((hstart.append hid).append hquote).append htext).append hend

/-- What a forest lists. -/
def Forest.listed (depth : Nat) (f : Forest) : List (Nat × Option String × String) :=
  (f.entries depth).map fun (h, depth) => (depth, h.item)

/-- What is listed of a heading, of those that nest under it, and of its siblings. -/
theorem Forest.listed_node (depth : Nat) (h : Heading) (children siblings : Forest) :
    (Forest.node h children siblings).listed depth =
      (depth, h.item) :: (children.listed (depth + 1) ++ siblings.listed depth) := by
  simp [Forest.listed]

/-- Behind an entry its item is closed, or the list of those that nest under it begins. -/
theorem Forest.followsEntry_inner (children : Forest) (rest : List Char) :
    FollowsEntry (children.inner.toList ++ ("</li>\n".toList ++ rest)) := by
  cases children with
  | nil => exact .inl ⟨_, rfl⟩
  | node child grandchildren others =>
    refine .inr ⟨"l>\n".toList ++ (Forest.node child grandchildren others).items.toList ++
      "</ul>\n</li>\n".toList ++ rest, ?_⟩
    simp [Forest.html, String.toList_append]

/-- In an open list the items of a forest are read, and all that they open is closed again. The
induction is on the forest, whatever is open around it and follows it. -/
theorem readNested_items (f : Forest) (hplain : ∀ h ∈ f.headings, h.HasPlainId)
    (opened : List ListElement) (rest : List Char) :
    readNested (.list :: opened) (f.items.toList ++ rest) =
      (readNested (.list :: opened) rest).map (f.listed (opened.count .item) ++ ·) := by
  induction f generalizing opened rest with
  | nil => simp [Forest.items, Forest.listed]
  | node h children siblings ihc ihs =>
    obtain ⟨hh, hbelow⟩ := List.forall_mem_cons.1 hplain
    have hchildren := fun child hmem => hbelow child (List.mem_append_left _ hmem)
    have hsiblings := fun sibling hmem => hbelow sibling (List.mem_append_right _ hmem)
    -- In the item of the heading, the list of its children is opened, read and closed.
    have hinner (after : List Char) :
        readNested (.item :: .list :: opened) (children.inner.toList ++ after) =
          (readNested (.item :: .list :: opened) after).map
            (children.listed (opened.count .item + 1) ++ ·) := by
      have hitems := ihc hchildren (.item :: .list :: opened) ("</ul>\n".toList ++ after)
      have hcount : ((ListElement.item :: .list :: opened).count .item) =
          opened.count .item + 1 := by simp
      rw [hcount] at hitems
      cases children with
      | nil => simp [Forest.listed]
      | node child grandchildren others =>
        have hlist : (Forest.node child grandchildren others).inner.toList ++ after =
            "\n<ul>\n".toList ++ ((Forest.node child grandchildren others).items.toList ++
              ("</ul>\n".toList ++ after)) := by
          simp [Forest.html, String.toList_append]
        rw [hlist]
        exact hitems
    have hitem : (Forest.node h children siblings).items.toList ++ rest =
        "<li>".toList ++ ((tocEntry h).toList ++ (children.inner.toList ++
          ("</li>\n".toList ++ (siblings.items.toList ++ rest)))) := by
      rw [Forest.items_node]
      simp [String.toList_append]
    have hfollows := children.followsEntry_inner (siblings.items.toList ++ rest)
    rw [hitem]
    -- To read the entry, it is enough to know how what follows it begins.
    generalize htail : children.inner.toList ++
      ("</li>\n".toList ++ (siblings.items.toList ++ rest)) = tail at hfollows ⊢
    calc readNested (.list :: opened) ("<li>".toList ++ ((tocEntry h).toList ++ tail))
        = (readNested (.item :: .list :: opened) ((tocEntry h).toList ++ tail)).map
            (((ListElement.list :: opened).count .item, readItem ((tocEntry h).toList ++ tail))
              :: ·) := rfl
      _ = (readNested (.item :: .list :: opened) tail).map
            ((opened.count .item, h.item) :: ·) := by
        rw [readItem_tocEntry hh hfollows, opensNothing_tocEntry hh]
        simp
      _ = ((readNested (.list :: opened) (siblings.items.toList ++ rest)).map
            (children.listed (opened.count .item + 1) ++ ·)).map
              ((opened.count .item, h.item) :: ·) := by
        rw [← htail, hinner]
        rfl
      _ = (readNested (.list :: opened) rest).map
            ((Forest.node h children siblings).listed (opened.count .item) ++ ·) := by
        rw [ihs hsiblings, Forest.listed_node]
        simp [Function.comp_def]

/-- Off a table of contents the depths, texts and ids of its headings are read, whatever characters
the texts hold. -/
theorem readContents_renderToc (hne : hs ≠ []) (hplain : ∀ h ∈ hs, h.HasPlainId) :
    readContents (renderToc hs) = some ((hs.zip (tocDepths (hs.map (·.level)))).map
      fun (h, depth) => (depth, h.text, h.id)) := by
  have houtline := isOutline_ofHeadings hs
  generalize Forest.ofHeadings hs = f at houtline
  rw [← houtline.headings_eq] at hplain
  have hread : readNested [] (renderToc hs).toList = some (f.listed 0) := by
    have hitems := readNested_items f hplain [] "</ul>\n</div>\n".toList
    have htoc : (renderToc hs).toList = "<div class=\"toc\">\n<ul>\n".toList ++
        (f.items.toList ++ "</ul>\n</div>\n".toList) := by
      rw [renderToc_of_isOutline houtline hne]
      simp [Forest.html, String.toList_append]
    have hend : readNested [.list] "</ul>\n</div>\n".toList = some [] := rfl
    rw [hend] at hitems
    rw [htoc]
    exact hitems.trans (by simp)
  rw [readContents, hread, houtline.entries, Forest.listed]
  have htarget (id? : Option String) :
      (id?.map ("#" ++ ·)).map (fun target => String.ofList (target.toList.drop 1)) = id? := by
    cases id? <;> simp
  simp [-Option.map_map, -List.drop_one, Heading.item, decodeEntities_replaceAttribute, htarget]

/-- A table of contents is the outline of its headings: the list of those without a parent, and in
the item of each heading the list of those under it. With slugs as ids, it can be read back: lists
and items are closed in turn, and each heading comes once, in order, with its depth, text and id. -/
theorem renderToc_outline (hs : List Heading) (hne : hs ≠ []) :
    (∃ f, IsOutline hs f) ∧
    (∀ f, IsOutline hs f →
      renderToc hs = "<div class=\"toc\">\n" ++ f.html ++ "</div>\n") ∧
    ((∀ h ∈ hs, ∀ id, h.id = some id → IsSlugText id) →
      readContents (renderToc hs) = some ((hs.zip (tocDepths (hs.map (·.level)))).map
        fun (h, depth) => (depth, h.text, h.id))) :=
  ⟨⟨_, isOutline_ofHeadings hs⟩, fun _ houtline => renderToc_of_isOutline houtline hne,
    fun hslugs => readContents_renderToc hne fun h hmem id hid => (hslugs h hmem id hid).notMem⟩

/-- Three headings, two of which nest under the first: its text has a character that is escaped, and
the second looks like a tag and has no id. -/
theorem renderToc_outline_three :
    let hs : List Heading := [⟨1, "A & B", some "a-b"⟩, ⟨3, "</ul>", none⟩, ⟨2, "a-b", some "_1"⟩]
    let f : Forest := .node ⟨1, "A & B", some "a-b"⟩
      (.node ⟨3, "</ul>", none⟩ .nil (.node ⟨2, "a-b", some "_1"⟩ .nil .nil)) .nil
    hs ≠ [] ∧ IsOutline hs f ∧ (∀ h ∈ hs, ∀ id, h.id = some id → IsSlugText id) ∧
      renderToc hs = "<div class=\"toc\">\n" ++ f.html ++ "</div>\n" ∧
      readContents (renderToc hs) =
        some [(0, "A & B", some "a-b"), (1, "</ul>", none), (1, "a-b", some "_1")] := by
  intro hs f
  have hne : hs ≠ [] := by decide
  have houtline : IsOutline hs f := by
    have hbuilt : Forest.ofHeadings hs = f := by simp [Forest.ofHeadings, hs, f]
    rw [← hbuilt]
    exact isOutline_ofHeadings hs
  have hslugs : ∀ h ∈ hs, ∀ id, h.id = some id → IsSlugText id := by
    have hids : IsSlugText "a-b" ∧ IsSlugText "_1" := by
      simp [IsSlugText, isSlugChar]
    simpa [hs] using hids
  obtain ⟨-, htoc, hread⟩ := renderToc_outline hs hne
  exact ⟨hne, houtline, hslugs, htoc f houtline, hread hslugs⟩

end DocPress.Document
