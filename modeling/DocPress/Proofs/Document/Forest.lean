import DocPress.Proofs.Document.Depths

/-!
# DocPress.Proofs.Document.Forest

The headings of a document as a forest: each stands under its parent, the nearest earlier heading of
a lower level, and those without a parent are the roots (`IsOutline`). There is such a forest for
any headings (`isOutline_ofHeadings`), and the depths in it are those of the table of contents
(`IsOutline.depths`).
-/

namespace DocPress.Document

/-- Headings in document order, each with those that nest under it. -/
inductive Forest where
  | nil
  | node (heading : Heading) (children siblings : Forest)
  deriving Repr, DecidableEq

namespace Forest

/-- All headings, each before those that nest under it. -/
def headings : Forest → List Heading
  | nil => []
  | node h children siblings => h :: (children.headings ++ siblings.headings)

/-- The depth of each heading, in the order of the headings, where the roots have the given one. -/
def depths (depth : Nat) : Forest → List Nat
  | nil => []
  | node _ children siblings => depth :: (children.depths (depth + 1) ++ siblings.depths depth)

/-- The position of the parent of each heading, in the order of the headings, where the roots have
the given one and the first of them stands at the given position. -/
def parents (parent? : Option Nat) (position : Nat) : Forest → List (Option Nat)
  | nil => []
  | node _ children siblings =>
    parent? :: (children.parents (some position) (position + 1) ++
      siblings.parents parent? (position + 1 + children.headings.length))

variable {f : Forest} {parent? : Option Nat} {position : Nat}

@[simp] theorem length_depths (depth : Nat) (f : Forest) :
    (f.depths depth).length = f.headings.length := by
  induction f generalizing depth with
  | nil => rfl
  | node h children siblings ihc ihs => simp [depths, headings, ihc, ihs]

@[simp] theorem length_parents (parent? : Option Nat) (position : Nat) (f : Forest) :
    (f.parents parent? position).length = f.headings.length := by
  induction f generalizing parent? position with
  | nil => rfl
  | node h children siblings ihc ihs => simp [parents, headings, ihc, ihs]

/-- The roots have the depth that is given, and any other heading is one deeper than its parent. The
induction is on the forest; what is said of the children is moved on behind their parent, and what
is said of the siblings behind them. -/
theorem depth_of_parent {i : Nat} {q : Option Nat} (depth : Nat)
    (h : (f.parents parent? position)[i]? = some q) :
    q = parent? ∧ (f.depths depth)[i]? = some depth ∨
      ∃ j < i, q = some (position + j) ∧
        (f.depths depth)[i]? = (f.depths depth)[j]?.map (· + 1) := by
  induction f generalizing parent? position depth i with
  | nil => cases h
  | node heading children siblings ihc ihs =>
    cases i with
    | zero => exact .inl ⟨(Option.some.inj h).symm, rfl⟩
    | succ i =>
      simp only [parents, List.getElem?_cons_succ, List.getElem?_append, length_parents] at h
      simp only [depths, List.getElem?_cons_succ, List.getElem?_append, length_depths]
      by_cases hi : i < children.headings.length
      · simp only [hi, if_true] at h ⊢
        rcases ihc (depth + 1) h with ⟨rfl, hdepth⟩ | ⟨j, hj, rfl, hdepth⟩
        · exact .inr ⟨0, by omega, rfl, by simp [hdepth]⟩
        · have hj' : j < children.headings.length := by omega
          exact .inr ⟨j + 1, by omega, by simp; omega, by simp [hdepth, List.getElem?_append, hj']⟩
      · simp only [hi, if_false] at h ⊢
        rcases ihs depth h with ⟨rfl, hdepth⟩ | ⟨j, hj, rfl, hdepth⟩
        · exact .inl ⟨rfl, hdepth⟩
        · refine .inr ⟨j + children.headings.length + 1, by omega, by simp; omega, ?_⟩
          have hj' : ¬ j + children.headings.length < children.headings.length := by omega
          simp [hdepth, List.getElem?_append, hj']

end Forest

/-! ## Outlines -/

/-- A forest of the given headings, in order, where each heading stands under its parent and those
without a parent are roots. -/
structure IsOutline (hs : List Heading) (f : Forest) : Prop where
  headings_eq : f.headings = hs
  parents (i : Fin (hs.map (·.level)).length) :
    IsTop (hs.map (·.level)) i ∧ (f.parents none 0)[i.val]? = some none ∨
      ∃ j, IsParent (hs.map (·.level)) i j ∧ (f.parents none 0)[i.val]? = some (some j.val)

variable {hs : List Heading} {f : Forest}

/-- The depths of headings are those in their outline. -/
theorem IsOutline.depths (h : IsOutline hs f) : f.depths 0 = tocDepths (hs.map (·.level)) := by
  have hlength : (f.depths 0).length = (tocDepths (hs.map (·.level))).length := by
    rw [Forest.length_depths, length_tocDepths, List.length_map, h.headings_eq]
  have hget (i : Nat) (hi : i < (hs.map (·.level)).length) :
      (f.depths 0)[i]? = (tocDepths (hs.map (·.level)))[i]? := by
    -- The parent of a heading stands before it.
    induction i using Nat.strongRecOn with
    | ind i ih =>
      rcases h.parents ⟨i, hi⟩ with ⟨htop, hparent⟩ | ⟨j, hisParent, hparent⟩
      · rcases depth_cases ⟨i, hi⟩ with ⟨-, hdepth⟩ | ⟨k, hk, -⟩
        · rcases Forest.depth_of_parent 0 hparent with ⟨-, hzero⟩ | ⟨k, -, hk, -⟩
          · exact hzero.trans hdepth.symm
          · cases hk
        · exact absurd htop hk.not_isTop
      · rcases depth_cases ⟨i, hi⟩ with ⟨htop, -⟩ | ⟨k, hk, hdepth⟩
        · exact absurd htop hisParent.not_isTop
        · obtain rfl := hisParent.unique hk
          rcases Forest.depth_of_parent 0 hparent with ⟨hnone, -⟩ | ⟨k, -, heq, hsucc⟩
          · cases hnone
          · obtain rfl : j.val = k := by simpa using heq
            exact hsucc.trans ((congrArg _ (ih j hisParent.before j.2)).trans hdepth.symm)
  refine List.ext_getElem? fun i => ?_
  by_cases hi : i < (hs.map (·.level)).length
  · exact hget i hi
  · rw [List.getElem?_eq_none, List.getElem?_eq_none]
    · rw [length_tocDepths]
      omega
    · rw [hlength, length_tocDepths]
      omega

/-! ## Building -/

/-- The outline of headings: those that follow a heading and are of a higher level nest under it. -/
def Forest.ofHeadings : List Heading → Forest
  | [] => .nil
  | h :: rest =>
    have := (List.takeWhile_prefix (l := rest) (h.level < ·.level)).length_le
    have := (List.dropWhile_suffix (l := rest) (h.level < ·.level)).length_le
    .node h (ofHeadings (rest.takeWhile (h.level < ·.level)))
      (ofHeadings (rest.dropWhile (h.level < ·.level)))
termination_by hs => hs.length

/-- An outline has all the headings, in their order. -/
theorem headings_ofHeadings (hs : List Heading) : (Forest.ofHeadings hs).headings = hs := by
  fun_induction Forest.ofHeadings hs with
  | case1 => rfl
  | case2 h rest _ _ ihc ihs => rw [Forest.headings, ihc, ihs, List.takeWhile_append_dropWhile]

/-- Where the parents of headings stand, given the levels before them, latest first. -/
def parentsAfter (history : List Nat) : List Nat → List (Option Nat)
  | [] => []
  | level :: rest => parentBefore? level history :: parentsAfter (level :: history) rest

/-- The parents of headings in two rows, of which the first comes before the second. -/
theorem parentsAfter_append (history a b : List Nat) :
    parentsAfter history (a ++ b) =
      parentsAfter history a ++ parentsAfter (a.reverse ++ history) b := by
  induction a generalizing history with
  | nil => rfl
  | cons level a ih => simp [parentsAfter, ih]

/-- The parent of each heading is looked for among those before it. -/
theorem getElem?_parentsAfter (history levels : List Nat) (i : Nat) :
    (parentsAfter history levels)[i]? =
      levels[i]?.map fun level => parentBefore? level ((levels.take i).reverse ++ history) := by
  induction levels generalizing history i with
  | nil => rfl
  | cons level levels ih =>
    cases i with
    | zero => rfl
    | succ i => simp [parentsAfter, ih]

/-- Headings of levels that are not lower are passed over. -/
theorem parentBefore?_append {level : Nat} {a : List Nat} (h : ∀ l ∈ a, level ≤ l)
    (history : List Nat) : parentBefore? level (a ++ history) = parentBefore? level history := by
  induction a with
  | nil => rfl
  | cons l a ih =>
    obtain ⟨hl, ha⟩ := List.forall_mem_cons.1 h
    simp [parentBefore?, Nat.not_lt.2 hl, ih ha]

/-- Each heading of the outline stands under its parent. What follows a heading and is of a higher
level has it, or one that nests under it, as parent; for what comes behind, neither it nor these
count. -/
theorem parents_ofHeadings (hs : List Heading) (parent? : Option Nat) (history : List Nat)
    (hroots : ∀ first ∈ hs.head?, ∀ h ∈ hs, h.level ≤ first.level →
      parentBefore? h.level history = parent?) :
    (Forest.ofHeadings hs).parents parent? history.length =
      parentsAfter history (hs.map (·.level)) := by
  fun_induction Forest.ofHeadings hs generalizing parent? history with
  | case1 => rfl
  | case2 h rest _ _ ihc ihs =>
    have hsplit := List.takeWhile_append_dropWhile (p := (h.level < ·.level)) (l := rest)
    generalize hchildren : rest.takeWhile (h.level < ·.level) = children at *
    generalize hsiblings : rest.dropWhile (h.level < ·.level) = siblings at *
    have hdeeper : ∀ child ∈ children, h.level < child.level := by
      intro child hmem
      rw [← hchildren] at hmem
      simpa using List.all_eq_true.1 List.all_takeWhile child hmem
    have hhead : parentBefore? h.level history = parent? :=
      hroots h rfl h (List.mem_cons_self ..) (Nat.le_refl _)
    -- From a child the search ends at the heading; from a sibling it goes past all children.
    have hc := ihc (some history.length) (h.level :: history) fun first _ child hmem _ => by
      simp [parentBefore?, hdeeper child hmem]
    have hs := ihs parent? ((children.map (·.level)).reverse ++ h.level :: history)
      fun first hfirst sibling hmem hle => by
        have hlower : first.level ≤ h.level := by
          have := List.head?_dropWhile_not (h.level < ·.level) rest
          rw [hsiblings, Option.mem_def.1 hfirst] at this
          simpa using this
        rw [parentBefore?_append, parentBefore?, if_neg (by omega)]
        · exact hroots h rfl sibling (by simp [← hsplit, hmem]) (by omega)
        · intro l hl
          obtain ⟨child, hchild, rfl⟩ := List.mem_map.1 (List.mem_reverse.1 hl)
          have := hdeeper child hchild
          omega
    rw [Forest.parents, headings_ofHeadings, ← hsplit]
    simp only [List.map_cons, List.map_append, parentsAfter, parentsAfter_append, hhead]
    rw [← hc, ← hs]
    simp [Nat.add_comm, Nat.add_left_comm]

/-- Any headings have an outline. -/
theorem isOutline_ofHeadings (hs : List Heading) : IsOutline hs (Forest.ofHeadings hs) := by
  have hparents : (Forest.ofHeadings hs).parents none 0 = parentsAfter [] (hs.map (·.level)) :=
    parents_ofHeadings hs none [] fun _ _ _ _ _ => rfl
  refine ⟨headings_ofHeadings hs, fun i => ?_⟩
  rw [hparents, getElem?_parentsAfter, List.getElem?_eq_getElem i.2, Option.map_some,
    List.append_nil]
  cases hparent : parentBefore? (hs.map (·.level))[i.val] ((hs.map (·.level)).take i).reverse with
  | none => exact .inl ⟨isTop_of_parentBefore? hparent, rfl⟩
  | some j =>
    obtain ⟨hj, hisParent⟩ := exists_isParent_of_parentBefore? hparent
    exact .inr ⟨⟨j, hj⟩, hisParent, rfl⟩

end DocPress.Document
