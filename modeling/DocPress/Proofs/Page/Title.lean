import Mathlib.Data.List.Infix
import DocPress.Page.Template
import DocPress.Proofs.Text.Escape

/-!
# DocPress.Proofs.Page.Title

The title of a document, for a reader of its HTML. `splitAtFirst?` cuts a text at the first
occurrence of a mark (`splitAtFirst?_eq_some_iff`), and `titleText?` cuts the title out of a
document. Nothing in an escaped title ends it early, so the whole of it is found
(`titleText?_wrapDocument`).
-/

namespace DocPress.Page

open DocPress.Text

variable {mark text front back : List Char} {c : Char} {layout : Layout}

/-! ## Searching -/

/-- The text in front of the first occurrence of a mark, and the text behind it. -/
def splitAtFirst? (mark : List Char) : List Char → Option (List Char × List Char)
  | [] => none
  | c :: rest =>
    if mark.isPrefixOf (c :: rest) then some ([], (c :: rest).drop mark.length)
    else (splitAtFirst? mark rest).map fun (front, back) => (c :: front, back)

/-- A mark at the start of a text is its first occurrence. -/
theorem splitAtFirst?_here (h : mark <+: c :: text) :
    splitAtFirst? mark (c :: text) = some ([], (c :: text).drop mark.length) := by
  rw [splitAtFirst?, if_pos (List.isPrefixOf_iff_prefix.2 h)]

/-- Without a mark at the start, the first occurrence is that behind the first character. -/
theorem splitAtFirst?_later (h : ¬mark <+: c :: text) :
    splitAtFirst? mark (c :: text) =
      (splitAtFirst? mark text).map fun (front, back) => (c :: front, back) := by
  rw [splitAtFirst?, if_neg (mt List.isPrefixOf_iff_prefix.1 h)]

/-- The mark stands between the two parts, and nowhere further in front. -/
theorem splitAtFirst?_eq_some_iff (hmark : mark ≠ []) :
    splitAtFirst? mark text = some (front, back) ↔
      text = front ++ mark ++ back ∧
        ∀ front' back', text = front' ++ mark ++ back' → front.length ≤ front'.length := by
  induction text generalizing front with
  | nil =>
    have hne : ([] : List Char) ≠ front ++ mark ++ back := by simp [hmark]
    exact ⟨nofun, fun h => absurd h.1 hne⟩
  | cons c text ih =>
    by_cases hprefix : mark <+: c :: text
    · obtain ⟨rest, hrest⟩ := hprefix
      rw [splitAtFirst?_here ⟨rest, hrest⟩, ← hrest, List.drop_left]
      constructor
      · rintro ⟨⟩
        exact ⟨rfl, fun _ _ _ => Nat.zero_le _⟩
      · rintro ⟨hsplit, hfirst⟩
        have hfront : front = [] := List.eq_nil_of_length_eq_zero (Nat.le_zero.1 (hfirst [] rest rfl))
        subst hfront
        simpa using hsplit
    · -- The mark is not found here, so whatever stands in front of it has the first character.
      have hfronts (front' back' : List Char) (h : c :: text = front' ++ mark ++ back') :
          ∃ front'', front' = c :: front'' ∧ text = front'' ++ mark ++ back' := by
        cases front' with
        | nil => exact absurd ⟨back', h.symm⟩ hprefix
        | cons d front'' =>
          obtain ⟨rfl, htext⟩ := List.cons.inj h
          exact ⟨front'', rfl, htext⟩
      rw [splitAtFirst?_later hprefix, Option.map_eq_some_iff]
      constructor
      · rintro ⟨⟨front'', back''⟩, hsplit, heq⟩
        obtain ⟨rfl, rfl⟩ := Prod.mk.inj heq
        obtain ⟨htext, hfirst⟩ := ih.1 hsplit
        refine ⟨by rw [htext]; rfl, fun front' back' h => ?_⟩
        obtain ⟨front', rfl, htext'⟩ := hfronts front' back' h
        exact Nat.succ_le_succ (hfirst front' back' htext')
      · rintro ⟨hsplit, hfirst⟩
        obtain ⟨front, rfl, htext⟩ := hfronts front back hsplit
        refine ⟨(front, back), ih.2 ⟨htext, fun front' back' h => ?_⟩, rfl⟩
        exact Nat.le_of_succ_le_succ (hfirst (c :: front') back' (by rw [h]; rfl))

/-- What follows on a text has no part in where the mark first occurs in it. -/
theorem splitAtFirst?_append (hmark : mark ≠ []) (h : splitAtFirst? mark text = some (front, back))
    (rest : List Char) : splitAtFirst? mark (text ++ rest) = some (front, back ++ rest) := by
  obtain ⟨htext, hfirst⟩ := (splitAtFirst?_eq_some_iff hmark).1 h
  refine (splitAtFirst?_eq_some_iff hmark).2 ⟨by rw [htext, List.append_assoc], ?_⟩
  intro front' back' hsplit
  by_contra hbefore
  have hlength : (front' ++ mark).length ≤ text.length := by
    simp only [htext, List.length_append]
    omega
  obtain ⟨back'', hback⟩ : front' ++ mark <+: text :=
    List.prefix_of_prefix_length_le ⟨back', hsplit.symm⟩ (List.prefix_append text rest) hlength
  exact hbefore (hfirst front' back'' hback.symm)

/-- A mark is found behind a text that does not hold its first character. -/
theorem splitAtFirst?_of_notMem (h : c ∉ front) (back : List Char) :
    splitAtFirst? (c :: mark) (front ++ (c :: mark ++ back)) = some (front, back) := by
  refine (splitAtFirst?_eq_some_iff (List.cons_ne_nil c mark)).2
    ⟨(List.append_assoc ..).symm, fun front' back' hsplit => ?_⟩
  by_contra hbefore
  have hlength : (front' ++ [c]).length ≤ front.length := by
    simp only [List.length_append, List.length_singleton]
    omega
  have hbegins : front' ++ [c] <+: front :=
    List.prefix_of_prefix_length_le ⟨mark ++ back', by simpa using hsplit.symm⟩
      (List.prefix_append front (c :: mark ++ back)) hlength
  exact h (hbegins.subset (by simp))

/-! ## Titles -/

/-- The text between the first `<title>` of a document and the first `</title>` behind it. -/
def titleText? (html : String) : Option (List Char) := do
  let (_, behind) ← splitAtFirst? "<title>".toList html.toList
  let (raw, _) ← splitAtFirst? "</title>".toList behind
  return raw

/-- A document up to its title, in the standard encoding. -/
def titleStart : String :=
  "<!DOCTYPE html>\n<html>\n<head>\n    <meta charset=\"UTF-8\">\n    <title>"

/-- What a document has in front of its title, and what it has right behind it. -/
theorem exists_wrapDocument_eq (hencoding : layout.encoding = "UTF-8") (body : String)
    (flavor : Flavor) (title : Option String) :
    ∃ rest, wrapDocument body flavor layout title =
      titleStart ++ (replaceBody (title.getD "") ++ ("</title>" ++ rest)) := by
  have hstart : "<!DOCTYPE html>\n<html>\n<head>\n    <meta charset=\"" ++ "UTF-8" ++
      "\">\n    <title>" = titleStart := by decide
  have hend : "</title>\n    <style>\n" = "</title>" ++ "\n    <style>\n" := by decide
  refine ⟨"\n    <style>\n" ++ (pageCss flavor layout ++ documentTail body), ?_⟩
  unfold wrapDocument documentHead
  rw [hencoding, hstart, hend]
  simp only [String.append_assoc]

/-- The title of a document is found as it was escaped: no tag in front of it is the title's, and
nothing in it ends it. -/
theorem titleText?_wrapDocument (hencoding : layout.encoding = "UTF-8") (body : String)
    (flavor : Flavor) (title : Option String) :
    titleText? (wrapDocument body flavor layout title) =
      some (replaceBody (title.getD "")).toList := by
  obtain ⟨rest, hdocument⟩ := exists_wrapDocument_eq hencoding body flavor title
  have hstart : splitAtFirst? "<title>".toList titleStart.toList =
      some ("<!DOCTYPE html>\n<html>\n<head>\n    <meta charset=\"UTF-8\">\n    ".toList, []) := by
    decide
  have hraw : '<' ∉ (replaceBody (title.getD "")).toList :=
    fun hmem => (ne_of_mem_replaceBody hmem).1 rfl
  have hend : "</title>".toList = '<' :: "/title>".toList := rfl
  unfold titleText?
  rw [hdocument, String.toList_append, splitAtFirst?_append (by decide) hstart]
  simp only [String.toList_append, hend, List.nil_append, Option.bind_eq_bind, Option.bind_some,
    splitAtFirst?_of_notMem hraw]
  rfl

example : titleText? "<title>&lt;/title&gt;</title></title>" = some "&lt;/title&gt;".toList := by
  decide

end DocPress.Page
