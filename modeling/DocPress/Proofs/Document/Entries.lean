import DocPress.Proofs.Document.Depths
import DocPress.Proofs.Text.Escape

/-!
# DocPress.Proofs.Document.Entries

What a table of contents lists, read back off its HTML: one item for each heading, in order, with
the target of its link if it is one and with its text (`readItems_renderToc`). For that, no text may
look like a tag, and no id may end its attribute; both are escaped or hold no such characters.
-/

namespace DocPress.Document

open DocPress.Text

/-! ## Reading -/

/-- The text up to the next tag, but for the line end before a list that begins there. -/
def readText (html : List Char) : List Char :=
  let text := html.takeWhile (· ≠ '<')
  match html.dropWhile (· ≠ '<') with
  | '<' :: 'u' :: _ => text.dropLast
  | _ => text

/-- What stands in an item: the target if it is a link, and the text. -/
def readItem : List Char → Option String × String
  | '<' :: 'a' :: rest =>
    let target := (rest.dropWhile (· ≠ '\x22')).drop 1
    (some (String.ofList (target.takeWhile (· ≠ '\x22'))),
      String.ofList (readText ((target.dropWhile (· ≠ '\x22')).drop 2)))
  | html => (none, String.ofList (readText html))

/-- All items of a table of contents. -/
def readItems : List Char → List (Option String × String)
  | '<' :: 'l' :: 'i' :: '>' :: rest => readItem rest :: readItems rest
  | _ :: rest => readItems rest
  | [] => []

/-- What a table of contents lists of a heading. -/
def Heading.item (h : Heading) : Option String × String :=
  (h.id.map ("#" ++ ·), replaceAttribute h.text)

/-- The id of a heading can stand in an attribute as it is. -/
def Heading.HasPlainId (h : Heading) : Prop :=
  ∀ id, h.id = some id → '\x22' ∉ id.toList ∧ '<' ∉ id.toList

variable {a b : List Char} {c : Char} {h : Heading} {hs : List Heading} {opened depth : Nat}
variable {entries : List (Heading × Nat)}

/-! ## Pieces -/

/-- What can be checked piece by piece: it holds of texts in a row if it holds of each. -/
structure KeptByAppend (P : List Char → Prop) : Prop where
  nil : P []
  append : ∀ {a b}, P a → P b → P (a ++ b)

namespace KeptByAppend

variable {P : List Char → Prop}

/-- What holds of a text holds of the text repeated. -/
theorem replicate (hP : KeptByAppend P) {text : String} (h : P text.toList) (n : Nat) :
    P (String.join (List.replicate n text)).toList := by
  induction n with
  | zero => exact hP.nil
  | succ n ih =>
    rw [List.replicate_succ, String.join_cons, String.toList_append]
    exact hP.append h ih

/-- What stands between two entries is made of four pieces. -/
theorem tocStep (hP : KeptByAppend P) (hfirst : P "<ul>\n".toList) (hlist : P "\n<ul>\n".toList)
    (hitem : P "</li>\n".toList) (hend : P "</ul>\n</li>\n".toList) (opened depth : Nat) :
    P (tocStep opened depth).1.toList := by
  unfold Document.tocStep
  split
  · exact hfirst
  · split
    · exact hlist
    · rw [String.toList_append]
      exact hP.append hitem (hP.replicate hend _)

end KeptByAppend

/-- Headings may change in all but their levels without any effect on the lists. -/
theorem renderToc_map {f : Heading → Heading} (hf : ∀ h, (f h).level = h.level)
    (hs : List Heading) : renderToc (hs.map f) = "<div class=\"toc\">\n" ++
      tocEntries 0 ((hs.zip (tocDepths (hs.map (·.level)))).map fun entry =>
        (f entry.1, entry.2)) ++ (if hs.isEmpty then "<ul></ul>\n" else "") ++ "</div>\n" := by
  have hlevels : (hs.map f).map (·.level) = hs.map (·.level) := by
    rw [List.map_map]
    exact List.map_congr_left fun h _ => hf h
  have hzip : (hs.map f).zip (tocDepths (hs.map (·.level))) =
      (hs.zip (tocDepths (hs.map (·.level)))).map fun entry => (f entry.1, entry.2) := by
    rw [List.zip_map_left]
    rfl
  unfold renderToc
  simp only [hlevels, hzip, List.isEmpty_map]

/-! ## What is no item -/

/-- In front of anything, a text holds no item. -/
def NoItems (a : List Char) : Prop :=
  ∀ b, readItems (a ++ b) = readItems b

theorem NoItems.append (ha : NoItems a) (hb : NoItems b) : NoItems (a ++ b) := by
  intro rest
  rw [List.append_assoc, ha, hb]

/-- An item begins with a tag. -/
theorem readItems_cons_of_ne (hc : c ≠ '<') (rest : List Char) :
    readItems (c :: rest) = readItems rest := by
  rw [readItems]
  rintro rest' h -
  exact hc h

/-- A tag begins an item only if its name begins with that of an item. -/
theorem readItems_tag_of_ne (hc : c ≠ 'l') (rest : List Char) :
    readItems ('<' :: c :: rest) = readItems (c :: rest) := by
  rw [readItems]
  rintro rest' - h
  exact hc (List.cons.inj h).1

/-- A text without tags holds no item. -/
theorem noItems_of_notMem (h : '<' ∉ a) : NoItems a := by
  intro b
  induction a with
  | nil => rfl
  | cons c a ih =>
    rw [List.mem_cons, not_or] at h
    rw [List.cons_append, readItems_cons_of_ne (Ne.symm h.1)]
    exact ih h.2

/-- A tag that is no item. -/
theorem noItems_tag (hc : c ≠ 'l') (h : '<' ∉ c :: a) : NoItems ('<' :: c :: a) := by
  intro b
  rw [List.cons_append, List.cons_append, readItems_tag_of_ne hc]
  exact noItems_of_notMem h b

theorem keptByAppend_noItems : KeptByAppend NoItems where
  nil := fun _ => rfl
  append := NoItems.append

/-- A single tag holds none, unless it begins as that of an item. -/
theorem noItems_of_toList {text : String} (htext : text.toList = '<' :: c :: a) (hc : c ≠ 'l')
    (h : '<' ∉ c :: a) : NoItems text.toList := by
  rw [htext]
  exact noItems_tag hc h

theorem noItems_item_end : NoItems "</li>\n".toList :=
  noItems_of_toList rfl (by decide) (by decide)

theorem noItems_list_start : NoItems "<ul>\n".toList :=
  noItems_of_toList rfl (by decide) (by decide)

theorem noItems_list_end : NoItems "</ul>\n".toList :=
  noItems_of_toList rfl (by decide) (by decide)

/-- Between two entries lists are opened and closed; none of that is an item. -/
theorem noItems_tocStep (opened depth : Nat) : NoItems (tocStep opened depth).1.toList := by
  refine keptByAppend_noItems.tocStep noItems_list_start ?_ noItems_item_end ?_ opened depth
  · rw [show "\n<ul>\n".toList = "\n".toList ++ "<ul>\n".toList by decide]
    exact (noItems_of_notMem (by decide)).append noItems_list_start
  · rw [show "</ul>\n</li>\n".toList = "</ul>\n".toList ++ "</li>\n".toList by decide]
    exact noItems_list_end.append noItems_item_end

/-- In front of an entry, some list is open. -/
theorem tocStep_opened_pos (opened depth : Nat) : 0 < (tocStep opened depth).2 := by
  unfold tocStep
  split
  · exact Nat.one_pos
  · split <;> dsimp only <;> omega

/-! ## Entries -/

/-- What follows an entry: the end of its item, or a list that begins on a line of its own. -/
def FollowsEntry (rest : List Char) : Prop :=
  (∃ after, rest = '<' :: '/' :: after) ∨ ∃ after, rest = '\n' :: '<' :: 'u' :: after

/-- What follows an entry can be told by its first characters. -/
theorem FollowsEntry.append (h : FollowsEntry a) (b : List Char) : FollowsEntry (a ++ b) := by
  rcases h with ⟨after, rfl⟩ | ⟨after, rfl⟩
  · exact .inl ⟨_, rfl⟩
  · exact .inr ⟨_, rfl⟩

/-- Behind an entry its item is closed, or a list begins in it. -/
theorem followsEntry_tocStep (hopened : 0 < opened) (depth : Nat) (rest : List Char) :
    FollowsEntry ((tocStep opened depth).1.toList ++ rest) := by
  rw [tocStep, if_neg (Nat.ne_of_gt hopened)]
  split
  · dsimp only
    rw [show "\n<ul>\n".toList = '\n' :: '<' :: 'u' :: "l>\n".toList by decide]
    exact .inr ⟨_, rfl⟩
  · dsimp only
    rw [String.toList_append, show "</li>\n".toList = '<' :: '/' :: "li>\n".toList by decide]
    exact .inl ⟨_, rfl⟩

/-- The entries that are left, the first of them apart. -/
theorem tocEntries_cons (opened : Nat) (h : Heading) (depth : Nat)
    (entries : List (Heading × Nat)) : (tocEntries opened ((h, depth) :: entries)).toList =
      (tocStep opened depth).1.toList ++ ("<li>".toList ++ ((tocEntry h).toList ++
        (tocEntries (tocStep opened depth).2 entries).toList)) := by
  rw [tocEntries]
  simp only [String.toList_append, List.append_assoc]

/-- What is left of the table follows an entry. -/
theorem followsEntry_tocEntries (hopened : 0 < opened) (entries : List (Heading × Nat)) :
    FollowsEntry (tocEntries opened entries).toList := by
  cases entries with
  | nil =>
    obtain ⟨n, rfl⟩ := Nat.exists_eq_succ_of_ne_zero (Nat.ne_of_gt hopened)
    rw [tocEntries, List.replicate_succ, String.join_cons, String.toList_append,
      show "</li>\n</ul>\n".toList = '<' :: '/' :: "li>\n</ul>\n".toList by decide]
    exact .inl ⟨_, rfl⟩
  | cons entry entries =>
    rw [tocEntries_cons]
    exact followsEntry_tocStep hopened entry.2 _

/-- A text is taken up to the first character that it does not have. -/
theorem takeWhile_append_of_notMem {text : List Char} (h : c ∉ text) (rest : List Char) :
    (text ++ c :: rest).takeWhile (· ≠ c) = text := by
  rw [List.takeWhile_append_of_pos fun d hd => by simpa using ne_of_mem_of_not_mem hd h]
  simp

/-- A text is dropped up to the first character that it does not have. -/
theorem dropWhile_append_of_notMem {text : List Char} (h : c ∉ text) (rest : List Char) :
    (text ++ c :: rest).dropWhile (· ≠ c) = c :: rest := by
  rw [List.dropWhile_append_of_pos fun d hd => by simpa using ne_of_mem_of_not_mem hd h]
  simp

/-- The text of an entry is read up to what follows it. -/
theorem readText_append {text rest : List Char} (htext : '<' ∉ text) (hrest : FollowsEntry rest) :
    readText (text ++ rest) = text := by
  rcases hrest with ⟨after, rfl⟩ | ⟨after, rfl⟩
  · unfold readText
    simp only [takeWhile_append_of_notMem htext, dropWhile_append_of_notMem htext]
    rfl
  · have hline : '<' ∉ text ++ ['\n'] := by simp [htext]
    have hsplit : text ++ '\n' :: '<' :: 'u' :: after =
        (text ++ ['\n']) ++ '<' :: 'u' :: after := by simp
    unfold readText
    simp only [hsplit, takeWhile_append_of_notMem hline, dropWhile_append_of_notMem hline,
      List.dropLast_concat]

/-- An escaped text has no tags. -/
theorem notMem_replaceAttribute (text : String) : '<' ∉ (replaceAttribute text).toList :=
  fun hmem => (ne_of_mem_replaceAttribute hmem).1 rfl

/-- A text that is no link is read as such. -/
theorem readItem_text {text rest : List Char} (htext : '<' ∉ text) (hrest : FollowsEntry rest) :
    readItem (text ++ rest) = (none, String.ofList text) := by
  have hlink (after : List Char) : text ++ rest ≠ '<' :: 'a' :: after := by
    intro heq
    cases text with
    | nil =>
      rcases hrest with ⟨after', rfl⟩ | ⟨after', rfl⟩
      · cases heq
      · cases heq
    | cons d text =>
      obtain ⟨rfl, -⟩ := List.cons.inj heq
      exact htext (List.mem_cons_self ..)
  unfold readItem
  split
  · next after heq => exact absurd heq (hlink after)
  · rw [readText_append htext hrest]

/-- An entry is read as what it lists. -/
theorem readItem_tocEntry (hplain : h.HasPlainId) {rest : List Char} (hrest : FollowsEntry rest) :
    readItem ((tocEntry h).toList ++ rest) = h.item := by
  have htext := notMem_replaceAttribute h.text
  unfold tocEntry Heading.item
  cases hid : h.id with
  | none =>
    dsimp only
    rw [readItem_text htext hrest, String.ofList_toList]
    rfl
  | some id =>
    obtain ⟨hquote, -⟩ := hplain id hid
    have htarget : '\x22' ∉ '#' :: id.toList := by
      rw [List.mem_cons, not_or]
      exact ⟨by decide, hquote⟩
    have hentry :
        ("<a href=\"#" ++ id ++ "\">" ++ replaceAttribute h.text ++ "</a>").toList ++ rest =
        '<' :: 'a' :: (" href=".toList ++ '\x22' :: (('#' :: id.toList) ++ '\x22' :: '>' ::
          ((replaceAttribute h.text).toList ++ '<' :: '/' :: 'a' :: '>' :: rest))) := by
      simp [String.toList_append]
    rw [hentry, readItem, dropWhile_append_of_notMem (by decide), List.drop_succ_cons,
      List.drop_zero, takeWhile_append_of_notMem htarget, dropWhile_append_of_notMem htarget,
      List.drop_succ_cons, List.drop_succ_cons, List.drop_zero,
      readText_append htext (.inl ⟨_, rfl⟩), String.ofList_toList, String.ofList_cons,
      String.ofList_toList]
    rfl

/-- An entry holds no item, neither in its id nor in its text. -/
theorem noItems_tocEntry (hplain : h.HasPlainId) : NoItems (tocEntry h).toList := by
  have htext := notMem_replaceAttribute h.text
  unfold tocEntry
  cases hid : h.id with
  | none => exact noItems_of_notMem htext
  | some id =>
    obtain ⟨-, hless⟩ := hplain id hid
    have hstart : NoItems "<a href=\"#".toList := noItems_of_toList rfl (by decide) (by decide)
    have hend : NoItems "</a>".toList := noItems_of_toList rfl (by decide) (by decide)
    simp only [String.toList_append]
    exact (((hstart.append (noItems_of_notMem hless)).append (noItems_of_notMem (by decide))).append
      (noItems_of_notMem htext)).append hend

/-! ## Tables of contents -/

/-- The items are the entries. The induction is on the entries, whatever lists are open. -/
theorem readItems_tocEntries (opened : Nat) (entries : List (Heading × Nat)) (rest : List Char)
    (hplain : ∀ entry ∈ entries, entry.1.HasPlainId) :
    readItems ((tocEntries opened entries).toList ++ rest) =
      entries.map (·.1.item) ++ readItems rest := by
  induction entries generalizing opened with
  | nil =>
    have hend : NoItems "</li>\n</ul>\n".toList := by
      rw [show "</li>\n</ul>\n".toList = "</li>\n".toList ++ "</ul>\n".toList by decide]
      exact noItems_item_end.append noItems_list_end
    exact keptByAppend_noItems.replicate hend opened rest
  | cons entry entries ih =>
    obtain ⟨h, depth⟩ := entry
    obtain ⟨hh, hentries⟩ := List.forall_mem_cons.1 hplain
    have hbetween := noItems_tocStep opened depth
    have hopened := tocStep_opened_pos opened depth
    have hfollows := (followsEntry_tocEntries hopened entries).append rest
    rw [tocEntries_cons, List.append_assoc, hbetween]
    simp only [List.append_assoc]
    generalize htail : (tocEntries (tocStep opened depth).2 entries).toList ++ rest = tail
      at hfollows ⊢
    calc readItems ("<li>".toList ++ ((tocEntry h).toList ++ tail))
        = readItem ((tocEntry h).toList ++ tail) :: readItems ((tocEntry h).toList ++ tail) := rfl
      _ = h.item :: readItems tail := by
        rw [readItem_tocEntry hh hfollows, noItems_tocEntry hh]
      _ = h.item :: (entries.map (·.1.item) ++ readItems rest) := by rw [← htail, ih _ hentries]

/-- A table of contents lists every heading once, in order. -/
theorem readItems_renderToc (hplain : ∀ h ∈ hs, h.HasPlainId) :
    readItems (renderToc hs).toList = hs.map Heading.item := by
  have hstart : NoItems "<div class=\"toc\">\n".toList :=
    noItems_of_toList rfl (by decide) (by decide)
  have hnone : NoItems (if hs.isEmpty then "<ul></ul>\n" else "").toList := by
    split
    · rw [show "<ul></ul>\n".toList = ('<' :: 'u' :: "l>".toList) ++ "</ul>\n".toList by decide]
      exact (noItems_tag (by decide) (by decide)).append noItems_list_end
    · exact noItems_of_notMem (by decide)
  have hend : NoItems "</div>\n".toList := noItems_of_toList rfl (by decide) (by decide)
  have hitems : (hs.zip (tocDepths (hs.map (·.level)))).map (·.1.item) = hs.map Heading.item := by
    have hlength : hs.length = (tocDepths (hs.map (·.level))).length := by
      rw [length_tocDepths, List.length_map]
    calc (hs.zip (tocDepths (hs.map (·.level)))).map (·.1.item)
        = ((hs.zip (tocDepths (hs.map (·.level)))).map Prod.fst).map Heading.item := by
          rw [List.map_map]
          rfl
      _ = hs.map Heading.item := by rw [List.map_fst_zip (Nat.le_of_eq hlength)]
  have hentries : ∀ entry ∈ hs.zip (tocDepths (hs.map (·.level))), entry.1.HasPlainId :=
    fun entry hmem => hplain entry.1 (List.of_mem_zip hmem).1
  unfold renderToc
  rw [String.toList_append, String.toList_append, String.toList_append, List.append_assoc,
    List.append_assoc, hstart, readItems_tocEntries _ _ _ hentries, hnone]
  rw [← List.append_nil "</div>\n".toList, hend, readItems, List.append_nil, hitems]

end DocPress.Document
