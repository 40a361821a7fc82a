import DocPress.Document.Contents

/-!
# DocPress.Proofs.Document.Depths

A heading nests under the nearest earlier heading of a lower level, its parent:

1. `lineage` is the chain of parents above a heading, read off the levels before it.
2. `Nesting.Follows` says what the open lists have to do with it: the parents they hold are the
   lineage of the last heading. One heading keeps it so (`Nesting.Follows.next`), hence all do
   (`Nesting.Follows.after`).
3. So a depth is the length of a lineage (`getElem?_tocDepths`), which is one more than that of the
   parent (`lineage_of_parentBefore?_eq_some`).
-/

namespace DocPress.Document

variable {levels history : List Nat} {level last first parent : Nat} {n : Nesting}

/-! ## Parents -/

/-- No earlier heading has a lower level. -/
def IsTop (levels : List Nat) (i : Fin levels.length) : Prop :=
  ∀ j < i, levels[i] ≤ levels[j]

/-- The heading at `j` is the nearest one before that at `i` with a lower level. -/
structure IsParent (levels : List Nat) (i j : Fin levels.length) : Prop where
  before : j < i
  lower : levels[j] < levels[i]
  nearest : ∀ k, j < k → k < i → levels[i] ≤ levels[k]

/-- Where the nearest heading of a lower level stands among those before, latest first. -/
def parentBefore? (level : Nat) : List Nat → Option Nat
  | [] => none
  | last :: history =>
    if last < level then some history.length else parentBefore? level history

/-- The levels of the headings that one of the given level nests under, the nearest first. The
levels before it are given latest first. -/
def lineage (level : Nat) : List Nat → List Nat
  | [] => []
  | last :: history =>
    if last < level then last :: lineage last history else lineage level history

/-- A heading of a lower level is the parent, and its lineage goes on from there. -/
theorem lineage_cons_of_lt (h : last < level) (history : List Nat) :
    lineage level (last :: history) = last :: lineage last history := by
  simp [lineage, h]

/-- A heading of a level that is not lower is passed over. -/
theorem lineage_cons_of_le (h : level ≤ last) (history : List Nat) :
    lineage level (last :: history) = lineage level history := by
  simp [lineage, Nat.not_lt.2 h]

/-- A heading of no higher level than the last one nests under those of its parents that are lower
than it. -/
theorem lineage_eq_dropWhile (h : level ≤ last) (history : List Nat) :
    lineage level history = (lineage last history).dropWhile (level ≤ ·) := by
  induction history generalizing last with
  | nil => rfl
  | cons parent history ih =>
    by_cases hlast : parent < last
    · rw [lineage_cons_of_lt hlast, List.dropWhile_cons]
      by_cases hlevel : level ≤ parent
      · rw [lineage_cons_of_le hlevel, ih hlevel]
        simp [hlevel]
      · rw [lineage_cons_of_lt (by omega)]
        simp [hlevel]
    · rw [lineage_cons_of_le (by omega), lineage_cons_of_le (by omega), ih h]

/-- The next heading nests at most one deeper than the last one. -/
theorem length_lineage_cons_le (level last : Nat) (history : List Nat) :
    (lineage level (last :: history)).length ≤ (lineage last history).length + 1 := by
  by_cases h : last < level
  · simp [lineage_cons_of_lt h]
  · rw [lineage_cons_of_le (by omega), lineage_eq_dropWhile (Nat.not_lt.1 h)]
    have := (List.dropWhile_suffix (l := lineage last history) (level ≤ ·)).length_le
    omega

/-- Without a parent there is no lineage, and no earlier level is lower. -/
theorem lineage_of_parentBefore?_eq_none (h : parentBefore? level history = none) :
    lineage level history = [] ∧ ∀ l ∈ history, level ≤ l := by
  induction history with
  | nil => simp [lineage]
  | cons last history ih =>
    by_cases hlast : last < level
    · simp [parentBefore?, hlast] at h
    · simp only [parentBefore?, hlast, if_false] at h
      have := ih h
      simp_all [lineage]

/-- The lineage of a heading begins with its parent and goes on with that of the parent. -/
theorem lineage_of_parentBefore?_eq_some {j : Nat} (h : parentBefore? level history = some j) :
    ∃ parent, history.reverse[j]? = some parent ∧ parent < level ∧
      lineage level history = parent :: lineage parent (history.reverse.take j).reverse ∧
      ∀ k l, j < k → history.reverse[k]? = some l → level ≤ l := by
  induction history with
  | nil => cases h
  | cons last history ih =>
    by_cases hlast : last < level
    · simp only [parentBefore?, hlast, if_true, Option.some.injEq] at h
      subst h
      refine ⟨last, by simp, hlast, by simp [lineage, hlast], fun k l hk hl => ?_⟩
      have := (List.getElem?_eq_some_iff.1 hl).1
      simp at this
      omega
    · simp only [parentBefore?, hlast, if_false] at h
      obtain ⟨parent, hparent, hlower, hlineage, hnearest⟩ := ih h
      have hj : j < history.reverse.length := (List.getElem?_eq_some_iff.1 hparent).1
      refine ⟨parent, ?_, hlower, ?_, fun k l hk hl => ?_⟩
      · rw [List.reverse_cons, List.getElem?_append_left hj, hparent]
      · rw [lineage_cons_of_le (by omega), hlineage, List.reverse_cons,
          List.take_append_of_le_length (Nat.le_of_lt hj)]
      · rw [List.reverse_cons, List.getElem?_append] at hl
        split at hl
        · exact hnearest k l hk hl
        · have : l = last := by grind
          omega

/-! ### Positions -/

/-- A heading for which no parent is found stands at the top. -/
theorem isTop_of_parentBefore? {i : Fin levels.length}
    (h : parentBefore? levels[i] (levels.take i).reverse = none) : IsTop levels i := by
  intro j hj
  have hmem : levels[j] ∈ levels.take i := List.mem_take_iff_getElem.2 ⟨j, by omega, rfl⟩
  exact (lineage_of_parentBefore?_eq_none h).2 _ (by simpa using hmem)

/-- The parent that is found is the nearest one. -/
theorem exists_isParent_of_parentBefore? {i : Fin levels.length} {j : Nat}
    (h : parentBefore? levels[i] (levels.take i).reverse = some j) :
    ∃ hj : j < levels.length, IsParent levels i ⟨j, hj⟩ := by
  obtain ⟨parent, hparent, hlower, -, hnearest⟩ := lineage_of_parentBefore?_eq_some h
  simp only [List.reverse_reverse, List.getElem?_take] at hparent hnearest
  have hji : j < i := Nat.lt_of_not_le fun hle => by simp [Nat.not_lt.2 hle] at hparent
  rw [if_pos hji] at hparent
  obtain ⟨hj, rfl⟩ := List.getElem?_eq_some_iff.1 hparent
  refine ⟨hj, hji, hlower, fun k hjk hki => hnearest k _ hjk ?_⟩
  rw [if_pos (Fin.lt_def.1 hki)]
  exact List.getElem?_eq_getElem k.2

/-- A heading with a parent does not stand at the top. -/
theorem IsParent.not_isTop {i j : Fin levels.length} (h : IsParent levels i j) :
    ¬ IsTop levels i :=
  fun htop => Nat.not_lt.2 (htop j h.before) h.lower

/-- A heading has one parent. -/
theorem IsParent.unique {i j k : Fin levels.length} (hj : IsParent levels i j)
    (hk : IsParent levels i k) : j = k := by
  have hle (k l : Fin levels.length) (hk : IsParent levels i k) (hl : IsParent levels i l) :
      l ≤ k := by
    refine Nat.le_of_not_lt fun hlt => ?_
    have := hk.nearest l hlt hl.before
    have := hl.lower
    omega
  exact Fin.le_antisymm (hle k j hk hj) (hle j k hj hk)

/-! ## Open lists -/

/-- The open lists after a heading of level `last` and those before it: one more than there are
headings that it nests under, which own all but the outermost. -/
structure Nesting.Follows (n : Nesting) (last : Nat) (history : List Nat) : Prop where
  head : n.levels.head? = some last
  last_eq : n.last = last
  parents_eq : n.parents = lineage last history
  length_eq : n.levels.length = n.parents.length + 1

/-- To drop as many as are taken is to drop them while they are. -/
theorem drop_length_takeWhile {α : Type} (p : α → Bool) (l : List α) :
    l.drop (l.takeWhile p).length = l.dropWhile p := by
  have h : (l.takeWhile p ++ l.dropWhile p).drop (l.takeWhile p).length = l.dropWhile p :=
    List.drop_left
  rwa [List.takeWhile_append_dropWhile] at h

/-- A heading of a lower level than the innermost list closes those that its lineage leaves. -/
theorem Nesting.next_of_lt {top : Nat} (h : level < top) (levels parents : List Nat) :
    Nesting.next level ⟨top :: levels, parents, last⟩ =
      ⟨level :: levels.drop (parents.takeWhile (level ≤ ·)).length,
        parents.dropWhile (level ≤ ·), level⟩ := by
  simp [Nesting.next, Nesting.ascend, h, drop_length_takeWhile]

/-- A heading of the level of the last one opens and closes nothing. -/
theorem Nesting.next_self (level : Nat) (levels parents : List Nat) :
    Nesting.next level ⟨level :: levels, parents, last⟩ = ⟨level :: levels, parents, level⟩ := by
  simp [Nesting.next, Nesting.ascend]

/-- A heading of a higher level opens a list. -/
theorem Nesting.next_of_gt {top : Nat} (h : top < level) (levels parents : List Nat) :
    Nesting.next level ⟨top :: levels, parents, last⟩ =
      ⟨level :: top :: levels, last :: parents, level⟩ := by
  have hnot : ¬ level < top := by omega
  have hne : top ≠ level := by omega
  simp [Nesting.next, Nesting.ascend, hnot, hne]

/-- What the next heading leaves open is as its lineage has it. -/
theorem Nesting.Follows.next (h : n.Follows last history) (level : Nat) :
    (n.next level).Follows level (last :: history) := by
  obtain ⟨levels, parents, last'⟩ := n
  obtain ⟨hhead, hlast, hparents, hlength⟩ := h
  simp only at hhead hlast hparents hlength
  subst hlast hparents
  cases levels with
  | nil => cases hhead
  | cons top levels =>
    obtain rfl : top = last' := by simpa using hhead
    have hlevels : levels.length = (lineage top history).length := by simpa using hlength
    rcases Nat.lt_trichotomy level top with hlt | rfl | hgt
    · have hle : level ≤ top := Nat.le_of_lt hlt
      have hsplit := congrArg List.length
        (List.takeWhile_append_dropWhile (p := (level ≤ ·)) (l := lineage top history))
      rw [List.length_append] at hsplit
      rw [Nesting.next_of_lt hlt]
      refine ⟨rfl, rfl, ?_, ?_⟩
      · rw [lineage_cons_of_le hle, lineage_eq_dropWhile hle]
      · simp only [List.length_cons, List.length_drop]
        omega
    · rw [Nesting.next_self]
      exact ⟨rfl, rfl, (lineage_cons_of_le (Nat.le_refl _) _).symm, hlength⟩
    · rw [Nesting.next_of_gt hgt]
      exact ⟨rfl, rfl, (lineage_cons_of_lt hgt _).symm, by simp [hlevels]⟩

/-- The open lists after some more headings. -/
def Nesting.after (n : Nesting) (levels : List Nat) : Nesting :=
  levels.foldl (fun n level => n.next level) n

/-- The open lists are as the lineage of the last heading has them, however many there were. -/
theorem Nesting.Follows.after (h : n.Follows last history) (levels : List Nat) :
    ∃ last' history', levels.reverse ++ last :: history = last' :: history' ∧
      (n.after levels).Follows last' history' := by
  induction levels generalizing n last history with
  | nil => exact ⟨last, history, rfl, h⟩
  | cons level levels ih =>
    obtain ⟨last', history', hhistory, hfollows⟩ := ih (h.next level)
    exact ⟨last', history', by simpa using hhistory, hfollows⟩

/-- What is open after a first heading and those that follow it. -/
theorem Nesting.follows_first (first : Nat) (rest : List Nat) :
    ∃ last history, (first :: rest).reverse = last :: history ∧
      (Nesting.after ⟨[first], [], first⟩ rest).Follows last history := by
  have hfirst : (Nesting.mk [first] [] first).Follows first [] := ⟨rfl, rfl, rfl, rfl⟩
  simpa using hfirst.after rest

/-! ## Depths -/

theorem length_depths (n : Nesting) (levels : List Nat) :
    (n.depths levels).length = levels.length := by
  induction levels generalizing n with
  | nil => rfl
  | cons level levels ih => rw [Nesting.depths, List.length_cons, List.length_cons, ih]

theorem length_tocDepths (levels : List Nat) : (tocDepths levels).length = levels.length := by
  cases levels with
  | nil => rfl
  | cons level levels => rw [tocDepths, List.length_cons, List.length_cons, length_depths]

/-- A depth is the number of parents that own open lists once the heading is taken in. -/
theorem Nesting.getElem?_depths (n : Nesting) (before : List Nat) (level : Nat)
    (after : List Nat) : (n.depths (before ++ level :: after))[before.length]? =
      some ((n.after before).next level).parents.length := by
  induction before generalizing n with
  | nil => rfl
  | cons first before ih =>
    rw [List.cons_append, Nesting.depths, List.length_cons, List.getElem?_cons_succ, ih]
    rfl

/-- A depth is the number of parents when its heading has come, and what follows has no part in it.
-/
theorem getElem?_tocDepths_append (first : Nat) (before : List Nat) (level : Nat)
    (after : List Nat) : (tocDepths (first :: (before ++ level :: after)))[before.length + 1]? =
      some ((Nesting.after ⟨[first], [], first⟩ before).next level).parents.length := by
  rw [tocDepths, List.getElem?_cons_succ, Nesting.getElem?_depths]

/-- A depth is the number of headings that the heading nests under. -/
theorem getElem?_tocDepths (i : Fin levels.length) :
    (tocDepths levels)[i.val]? = some (lineage levels[i] (levels.take i).reverse).length := by
  obtain ⟨i, hi⟩ := i
  cases levels with
  | nil => cases hi
  | cons first rest =>
    cases i with
    | zero => rfl
    | succ i =>
      have hi' : i < rest.length := Nat.lt_of_succ_lt_succ hi
      have hrest : rest = rest.take i ++ rest[i] :: rest.drop (i + 1) := by simp
      have hlength : (rest.take i).length = i := by simp; omega
      obtain ⟨last, history, hhistory, hfollows⟩ := Nesting.follows_first first (rest.take i)
      have hdepth := getElem?_tocDepths_append first (rest.take i) rest[i] (rest.drop (i + 1))
      rw [← hrest, hlength, (hfollows.next rest[i]).parents_eq, ← hhistory] at hdepth
      exact hdepth

/-- A heading without a parent is at the top, and any other is one deeper than its parent. -/
theorem depth_cases (i : Fin levels.length) :
    IsTop levels i ∧ (tocDepths levels)[i.val]? = some 0 ∨
      ∃ j, IsParent levels i j ∧
        (tocDepths levels)[i.val]? = (tocDepths levels)[j.val]?.map (· + 1) := by
  cases hparent : parentBefore? levels[i] (levels.take i).reverse with
  | none =>
    left
    rw [getElem?_tocDepths, (lineage_of_parentBefore?_eq_none hparent).1]
    exact ⟨isTop_of_parentBefore? hparent, rfl⟩
  | some j =>
    right
    obtain ⟨hj, hisParent⟩ := exists_isParent_of_parentBefore? hparent
    obtain ⟨parent, hget, -, hlineage, -⟩ := lineage_of_parentBefore?_eq_some hparent
    have hji : j < i := hisParent.before
    have hlevel : levels[j] = parent := by
      have := (List.getElem?_eq_some_iff.1 hget).2
      simpa using this
    refine ⟨⟨j, hj⟩, hisParent, ?_⟩
    rw [getElem?_tocDepths, getElem?_tocDepths, hlineage]
    simp [hlevel, List.take_take, Nat.min_eq_left (Nat.le_of_lt hji)]

/-- No depth is more than one above that of the heading before. -/
theorem depth_succ_le {i d e : Nat} (hd : (tocDepths levels)[i]? = some d)
    (he : (tocDepths levels)[i + 1]? = some e) : e ≤ d + 1 := by
  have hi : i + 1 < levels.length := by
    rw [← length_tocDepths levels]
    exact (List.getElem?_eq_some_iff.1 he).1
  rw [getElem?_tocDepths ⟨i, by omega⟩, Option.some.injEq] at hd
  rw [getElem?_tocDepths ⟨i + 1, hi⟩, Option.some.injEq] at he
  have htake : (levels.take (i + 1)).reverse = levels[i] :: (levels.take i).reverse := by
    rw [List.take_succ_eq_append_getElem, List.reverse_concat]
  rw [← hd, ← he]
  simp only [htake]
  exact length_lineage_cons_le ..

/-- The lists and the parents that a heading of a lower level closes are there to be closed. -/
theorem Nesting.Follows.ascend {top : Nat} (h : n.Follows last history)
    (htop : n.levels.head? = some top) (hlevel : level < top) :
    let closed := (n.parents.takeWhile (level ≤ ·)).length
    (n.ascend level).parents.length + closed = n.parents.length ∧
      (n.ascend level).levels.length + closed = n.levels.length := by
  intro closed
  have hclosed : closed ≤ n.parents.length := (List.takeWhile_prefix _).length_le
  have hlength := h.length_eq
  cases hlevels : n.levels with
  | nil => simp [hlevels] at htop
  | cons top' levels =>
    obtain rfl : top' = top := by simpa [hlevels] using htop
    simp only [hlevels, List.length_cons, Nat.add_right_cancel_iff] at hlength
    simp only [Nesting.ascend, hlevels, hlevel, if_true, List.length_cons, List.length_drop]
    omega

/-- Depths are those of nesting under the nearest earlier heading of a lower level. While they are
assigned, one more list is open than there are parents, so a heading never closes the outermost
list, and as many lists as it ends parents. -/
theorem tocDepths_nesting (levels : List Nat) :
    let depths := tocDepths levels
    depths.length = levels.length ∧
    (∀ i : Fin levels.length, IsTop levels i ∧ depths[i.val]? = some 0 ∨
      ∃ j, IsParent levels i j ∧ depths[i.val]? = depths[j.val]?.map (· + 1)) ∧
    depths.head? = levels.head?.map (fun _ => 0) ∧
    (∀ i d e, depths[i]? = some d → depths[i + 1]? = some e → e ≤ d + 1) ∧
    -- The open lists before and after each heading but the first, and those that it closes.
    ∀ first before level after, levels = first :: (before ++ level :: after) →
      let n := Nesting.after ⟨[first], [], first⟩ before
      let closed := (n.parents.takeWhile (level ≤ ·)).length
      n.levels.length = n.parents.length + 1 ∧
      closed ≤ n.parents.length ∧ closed ≤ n.levels.tail.length ∧
      (∀ top, n.levels.head? = some top → level < top →
        (n.ascend level).parents.length + closed = n.parents.length ∧
        (n.ascend level).levels.length + closed = n.levels.length) ∧
      (n.next level).levels.length = (n.next level).parents.length + 1 ∧
      depths[before.length + 1]? = some (n.next level).parents.length := by
  intro depths
  refine ⟨length_tocDepths levels, depth_cases, ?_, fun i d e => depth_succ_le, ?_⟩
  · cases levels <;> rfl
  · rintro first before level after rfl n closed
    obtain ⟨last, history, -, hfollows⟩ := Nesting.follows_first first before
    have hlength : n.levels.length = n.parents.length + 1 := hfollows.length_eq
    have hclosed : closed ≤ n.parents.length := (List.takeWhile_prefix _).length_le
    have htail : closed ≤ n.levels.tail.length := by
      rw [List.length_tail]
      omega
    exact ⟨hlength, hclosed, htail, fun top htop hlevel => hfollows.ascend htop hlevel,
      (hfollows.next level).length_eq, getElem?_tocDepths_append ..⟩

end DocPress.Document
