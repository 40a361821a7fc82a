import Mathlib.Data.Finset.Card
import DocPress.Proofs.Document.Slug

/-!
# DocPress.Proofs.Document.Search

The search for a free slug ends, and no bound on its turns is needed for that:

1. `Search` is the loop without a bound: a slug that cannot be given away is bumped.
2. Each turn raises the rank of the slug, so none comes twice (`Search.nodup`).
3. All slugs but the last are empty or used, and there are no more of those than
   `length_le_of_taken` says.
4. So the bounded search gives what the loop ends with (`Search.firstFree_eq`).
-/

namespace DocPress.Document

/-- The search has come from one slug to another. `tried` are the slugs that it bumped on its way,
in order. -/
inductive Search (used : List String) : String → List String → String → Prop
  | here {slug} : Search used slug [] slug
  | next {slug tried last} (htaken : ¬ IsFree used slug)
      (hrest : Search used (bump slug) tried last) : Search used slug (slug :: tried) last

variable {used tried : List String} {start slug last : String}

/-! ## Turns -/

/-- The test of the loop is whether a slug can be given away. -/
theorem not_isFree_iff : ¬ IsFree used slug ↔ (slug.isEmpty || used.contains slug) = true := by
  simp only [IsFree, not_and_or, not_not, Bool.or_eq_true, String.isEmpty_iff,
    List.contains_iff_mem]

/-- None of the slugs before the last can be given away. -/
theorem Search.taken (h : Search used start tried last) : ∀ slug ∈ tried, ¬ IsFree used slug := by
  induction h with
  | here => simp
  | next htaken hrest ih => simpa using ⟨htaken, ih⟩

/-- The search never falls back behind its start. -/
theorem Search.rank_le (h : Search used start tried last) :
    ∀ slug ∈ tried ++ [last], rank start ≤ rank slug := by
  induction h with
  | here => simp
  | @next slug tried last htaken hrest ih =>
    have hlt := rank_lt_rank_bump slug
    intro s hs
    rw [List.cons_append, List.mem_cons] at hs
    rcases hs with rfl | hs
    · exact le_refl _
    · exact (hlt.trans_le (ih s hs)).le

/-- Each slug that is tried ranks above all before it. -/
theorem Search.pairwise (h : Search used start tried last) :
    (tried ++ [last]).Pairwise (rank · < rank ·) := by
  induction h with
  | here => simp
  | @next slug tried last htaken hrest ih =>
    have hlt := rank_lt_rank_bump slug
    rw [List.cons_append, List.pairwise_cons]
    exact ⟨fun s hs => hlt.trans_le (hrest.rank_le s hs), ih⟩

/-- No slug is tried twice. -/
theorem Search.nodup (h : Search used start tried last) : (tried ++ [last]).Nodup :=
  h.pairwise.imp fun hlt heq => by simp [heq] at hlt

/-! ## The number of turns -/

/-- There is one slug that cannot be given away for each that is used, and the empty one. -/
theorem length_le_of_taken (hnodup : tried.Nodup) (htaken : ∀ slug ∈ tried, ¬ IsFree used slug) :
    tried.length ≤ used.toFinset.card + 1 := by
  have hsubset : tried.toFinset ⊆ insert "" used.toFinset := by
    intro slug hslug
    have hnot := htaken slug (List.mem_toFinset.1 hslug)
    simp only [IsFree, not_and_or, not_not] at hnot
    simpa using hnot
  calc tried.length
      = tried.toFinset.card := (List.toFinset_card_of_nodup hnodup).symm
    _ ≤ (insert "" used.toFinset).card := Finset.card_le_card hsubset
    _ ≤ used.toFinset.card + 1 := Finset.card_insert_le _ _

/-- The loop has no more turns than there are slugs that cannot be given away. -/
theorem Search.length_le (h : Search used start tried last) :
    tried.length ≤ used.toFinset.card + 1 :=
  length_le_of_taken (List.nodup_append.1 h.nodup).1 h.taken

/-- The first turns of a loop that does not end are a search, too. -/
theorem search_of_sequence {slugs : Nat → String}
    (hslugs : ∀ i, ¬ IsFree used (slugs i) ∧ slugs (i + 1) = bump (slugs i)) (n : Nat) :
    Search used (slugs 0) ((List.range n).map slugs) (slugs n) := by
  induction n generalizing slugs with
  | zero => exact .here
  | succ n ih =>
    have hrest : Search used (slugs 1) ((List.range n).map fun i => slugs (i + 1)) (slugs (n + 1)) :=
      @ih (fun i => slugs (i + 1)) fun i => hslugs (i + 1)
    rw [(hslugs 0).2] at hrest
    rw [List.range_succ_eq_map, List.map_cons, List.map_map]
    exact .next (hslugs 0).1 hrest

/-! ## The bounded search -/

/-- What the bounded search gives is as far as the loop has come by then. -/
theorem exists_search (used : List String) (n : Nat) (start : String) :
    ∃ tried, Search used start tried (firstFree used n start) := by
  induction n generalizing start with
  | zero => exact ⟨[], .here⟩
  | succ n ih =>
    rw [firstFree]
    split
    · next htaken =>
      obtain ⟨tried, hrest⟩ := ih (bump start)
      exact ⟨start :: tried, .next (not_isFree_iff.2 htaken) hrest⟩
    · exact ⟨[], .here⟩

/-- With a bound that lets the loop end, the bounded search gives what the loop ends with. -/
theorem Search.firstFree_eq (h : Search used start tried last) (hfree : IsFree used last) {n : Nat}
    (hn : tried.length ≤ n) : firstFree used n start = last := by
  induction h generalizing n with
  | @here slug =>
    cases n with
    | zero => rfl
    | succ n => rw [firstFree, if_neg fun htaken => not_isFree_iff.2 htaken hfree]
  | @next slug tried last htaken hrest ih =>
    cases n with
    | zero => simp at hn
    | succ n =>
      rw [firstFree, if_pos (not_isFree_iff.1 htaken)]
      exact ih hfree (by simpa using hn)

/-- The search for a slug ends. However far it has come, it has tried no slug twice, and has bumped
at most once for each slug that is used and once more; it cannot go on for ever; and it ends at a
free slug, which any bound gives that lets it come so far. -/
theorem search_ends (used : List String) (text : String) :
    (∀ tried last, Search used (slugify text) tried last →
      (tried ++ [last]).Nodup ∧ tried.length ≤ used.toFinset.card + 1) ∧
    (¬ ∃ slugs : Nat → String, slugs 0 = slugify text ∧
      ∀ i, ¬ IsFree used (slugs i) ∧ slugs (i + 1) = bump (slugs i)) ∧
    ∃ tried, Search used (slugify text) tried (uniqueSlug used text) ∧
      IsFree used (uniqueSlug used text) ∧
      ∀ n, tried.length ≤ n → firstFree used n (slugify text) = uniqueSlug used text := by
  have hfree := isFree_uniqueSlug used text
  refine ⟨fun tried last h => ⟨h.nodup, h.length_le⟩, ?_, ?_⟩
  · rintro ⟨slugs, hstart, hslugs⟩
    have hlength := (search_of_sequence hslugs (used.toFinset.card + 2)).length_le
    simp at hlength
  · obtain ⟨tried, hsearch⟩ := exists_search used (used.length + 1) (slugify text)
    exact ⟨tried, hsearch, hfree, fun n => hsearch.firstFree_eq hfree⟩

end DocPress.Document
