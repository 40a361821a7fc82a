import Mathlib.Data.List.TakeWhile
import Mathlib.Data.Prod.Lex
import Mathlib.Logic.Function.Iterate
import Mathlib.Order.Monotone.Basic
import DocPress.Document.Slug
import DocPress.Proofs.Text.Counter

/-!
# DocPress.Proofs.Document.Slug

Slugs that are given to headings are all different:

1. A slug is taken apart at its counter in just one way (`splitCounter?_eq_some_iff`).
2. To bump a slug makes it longer before the counter, or counts on (`rank_lt_rank_bump`); so no slug
   comes twice (`iterate_bump_injective`).
3. The search ends at the first slug that is free (`exists_firstFree`), and there is one among those
   that are tried (`isFree_uniqueSlug`).
4. What is assigned could be given away, and holds none but the characters of slugs
   (`free_of_mem_assignSlugs`). No slug is assigned twice (`nodup_assignSlugs`).
-/

namespace DocPress.Document

open DocPress.Text

variable {slug text : String} {front : List Char} {n : Nat} {c : Char}
variable {used texts : List String}

/-! ## Letters -/

/-- The codes of the capital letters of ASCII. -/
theorem val_capital_iff : c.val ≥ 'A'.val ∧ c.val ≤ 'Z'.val ↔ 65 ≤ c.toNat ∧ c.toNat ≤ 90 := by
  simp only [ge_iff_le, UInt32.le_iff_toNat_le]
  rfl

theorem isUpper_iff : c.isUpper = true ↔ 65 ≤ c.toNat ∧ c.toNat ≤ 90 :=
  decide_eq_true_iff.trans val_capital_iff

/-- The small letters of ASCII, by their codes. -/
theorem isLower_iff : c.isLower = true ↔ 97 ≤ c.toNat ∧ c.toNat ≤ 122 := by
  have hlower : c.isLower = (decide (c.val ≥ 'a'.val) && decide (c.val ≤ 'z'.val)) := rfl
  rw [hlower, Bool.and_eq_true, decide_eq_true_iff, decide_eq_true_iff, ge_iff_le,
    UInt32.le_iff_toNat_le, UInt32.le_iff_toNat_le]
  rfl

theorem isAlpha_eq (c : Char) : c.isAlpha = (c.isUpper || c.isLower) :=
  rfl

/-- A capital letter of ASCII becomes a small one, and no other character is changed. -/
theorem toNat_toLower (c : Char) :
    c.toLower.toNat = if 65 ≤ c.toNat ∧ c.toNat ≤ 90 then c.toNat + 32 else c.toNat := by
  delta Char.toLower
  by_cases h : 65 ≤ c.toNat ∧ c.toNat ≤ 90
  · have hsum : (c.val + 32).toNat = c.toNat + 32 := by
      have hval : c.val.toNat = c.toNat := rfl
      rw [UInt32.toNat_add, hval]
      simp
      omega
    rw [dif_pos (val_capital_iff.2 h), if_pos h]
    exact hsum
  · rw [dif_neg fun hval => h (val_capital_iff.1 hval), if_neg h]

/-- No capital letter is left. -/
theorem isUpper_toLower (c : Char) : c.toLower.isUpper = false := by
  rw [Bool.eq_false_iff, ne_eq, isUpper_iff, toNat_toLower]
  split <;> omega

/-! ## Counters -/

/-- A counter stands behind the last underscore, and is a run of digits. -/
theorem splitCounter?_eq_some_iff {slug : List Char} : splitCounter? slug = some (front, n) ↔
    ∃ digits, digits ≠ [] ∧ (∀ c ∈ digits, c.isDigit = true) ∧ slug = front ++ '_' :: digits ∧
      digitsValue digits = n := by
  constructor
  · intro h
    unfold splitCounter? at h
    have hsplit := List.takeWhile_append_dropWhile (p := Char.isDigit) (l := slug.reverse)
    dsimp only at h
    split at h
    · next base hbase =>
      split at h
      · cases h
      · next hdigits =>
        cases h
        refine ⟨_, by simpa using hdigits, fun c hc => ?_, ?_, rfl⟩
        · exact List.mem_takeWhile_imp (List.mem_reverse.1 hc)
        · rw [hbase] at hsplit
          have hslug := congrArg List.reverse hsplit
          simpa using hslug.symm
    · cases h
  · rintro ⟨digits, hdigits, hall, rfl, rfl⟩
    have htake : ((front ++ '_' :: digits).reverse.takeWhile Char.isDigit) = digits.reverse := by
      rw [List.reverse_append, List.reverse_cons, List.append_assoc,
        List.takeWhile_append_of_pos fun c hc => hall c (List.mem_reverse.1 hc)]
      simp
    have hdrop : ((front ++ '_' :: digits).reverse.dropWhile Char.isDigit) =
        '_' :: front.reverse := by
      rw [List.reverse_append, List.reverse_cons, List.append_assoc,
        List.dropWhile_append_of_pos fun c hc => hall c (List.mem_reverse.1 hc)]
      rfl
    simp only [splitCounter?, htake, hdrop, List.reverse_reverse, List.isEmpty_iff, hdigits,
      if_false]

/-- A number behind an underscore is a counter. -/
theorem splitCounter?_append_toString (front : List Char) (n : Nat) :
    splitCounter? (front ++ '_' :: (toString n).toList) = some (front, n) := by
  refine splitCounter?_eq_some_iff.2 ⟨_, ?_, fun c => isDigit_of_mem_toString, rfl,
    digitsValue_toString n⟩
  rw [toList_toString]
  exact Nat.toDigits_ne_nil

/-! ## Bumping -/

/-- A counter that can count on. -/
theorem toList_bump_of_counter (h : splitCounter? slug.toList = some (front, n))
    (hn : n + 1 < counterBound) :
    (bump slug).toList = front ++ '_' :: (toString (n + 1)).toList := by
  rw [bump, h]
  simp only [hn, if_true, String.toList_append, String.toList_ofList, List.append_assoc]
  rfl

/-- A slug without a counter, or with one that cannot count on. -/
theorem toList_bump_of_none
    (h : ∀ front n, splitCounter? slug.toList = some (front, n) → counterBound ≤ n + 1) :
    (bump slug).toList = slug.toList ++ '_' :: (toString 1).toList := by
  have hbump : bump slug = slug ++ "_1" := by
    unfold bump
    split
    · next front n hsplit =>
      have hle := h front n hsplit
      rw [if_neg (by omega)]
    · rfl
  rw [hbump, String.toList_append]
  rfl

/-- How far a slug is bumped: the length of what stands before the counter, and the counter. -/
def rank (slug : String) : Nat ×ₗ Nat :=
  match splitCounter? slug.toList with
  | some (front, n) => toLex (front.length + 1, n)
  | none => toLex (0, 0)

/-- To bump a slug makes it longer before the counter, or counts on. -/
theorem rank_lt_rank_bump (slug : String) : rank slug < rank (bump slug) := by
  by_cases hcounter : ∃ front n, splitCounter? slug.toList = some (front, n) ∧
      n + 1 < counterBound
  · obtain ⟨front, n, hsplit, hn⟩ := hcounter
    rw [rank, rank, hsplit, toList_bump_of_counter hsplit hn, splitCounter?_append_toString]
    exact Prod.Lex.toLex_lt_toLex.2 (.inr ⟨rfl, Nat.lt_succ_self n⟩)
  · have hnone (front : List Char) (n : Nat)
        (hsplit : splitCounter? slug.toList = some (front, n)) : counterBound ≤ n + 1 :=
      Nat.le_of_not_lt fun hn => hcounter ⟨front, n, hsplit, hn⟩
    rw [rank, rank, toList_bump_of_none hnone, splitCounter?_append_toString]
    cases hsplit : splitCounter? slug.toList with
    | none => exact Prod.Lex.toLex_lt_toLex.2 (.inl (Nat.succ_pos _))
    | some split =>
      obtain ⟨front, n⟩ := split
      obtain ⟨digits, -, -, hslug, -⟩ := splitCounter?_eq_some_iff.1 hsplit
      refine Prod.Lex.toLex_lt_toLex.2 (.inl ?_)
      simp only [hslug, List.length_append, List.length_cons]
      omega

/-- No slug comes twice. -/
theorem iterate_bump_injective (slug : String) : (fun i => bump^[i] slug).Injective := by
  have hmono : StrictMono fun i => rank (bump^[i] slug) := by
    refine strictMono_nat_of_lt_succ fun i => ?_
    rw [Function.iterate_succ_apply']
    exact rank_lt_rank_bump _
  exact Function.Injective.of_comp (f := rank) hmono.injective

/-! ## Searching -/

/-- A slug that can be given away. -/
def IsFree (used : List String) (slug : String) : Prop :=
  slug ≠ "" ∧ slug ∉ used

/-- The search ends at the first slug that is free, or when it has bumped as often as it may. -/
theorem exists_firstFree (used : List String) (n : Nat) (slug : String) :
    ∃ i ≤ n, firstFree used n slug = bump^[i] slug ∧
      (∀ j < i, ¬ IsFree used (bump^[j] slug)) ∧ (i < n → IsFree used (bump^[i] slug)) := by
  induction n generalizing slug with
  | zero => exact ⟨0, Nat.le_refl 0, rfl, by simp, by simp⟩
  | succ n ih =>
    rw [firstFree]
    split
    · next htaken =>
      obtain ⟨i, hi, heq, hbefore, hfree⟩ := ih (bump slug)
      refine ⟨i + 1, by omega, heq, fun j hj => ?_, fun hlt => hfree (by omega)⟩
      cases j with
      | zero =>
        rintro ⟨hempty, hnot⟩
        simp only [Bool.or_eq_true, String.isEmpty_iff, List.contains_iff_mem] at htaken
        exact htaken.elim hempty hnot
      | succ j => exact hbefore j (by omega)
    · next hnot =>
      simp only [Bool.or_eq_true, String.isEmpty_iff, List.contains_iff_mem, not_or] at hnot
      exact ⟨0, Nat.zero_le _, rfl, by simp, fun _ => hnot⟩

/-- The first slug for a text that is free. The empty slug and those that are used are too few to
keep all that are tried. -/
theorem exists_uniqueSlug (used : List String) (text : String) :
    ∃ i ≤ used.length + 1, uniqueSlug used text = bump^[i] (slugify text) ∧
      (∀ j < i, ¬ IsFree used (bump^[j] (slugify text))) ∧
      IsFree used (bump^[i] (slugify text)) := by
  obtain ⟨i, hi, heq, hbefore, hfree⟩ := exists_firstFree used (used.length + 1) (slugify text)
  refine ⟨i, hi, heq, hbefore, ?_⟩
  obtain ⟨k, hk, hnot⟩ :=
    exists_notMem_of_injective (iterate_bump_injective (slugify text)) ("" :: used)
  have hkfree : IsFree used (bump^[k] (slugify text)) := by
    rwa [List.mem_cons, not_or] at hnot
  rcases Nat.lt_or_eq_of_le hi with hlt | rfl
  · exact hfree hlt
  · have hki : k = used.length + 1 := by
      rcases Nat.lt_or_eq_of_le hk with hlt | hend
      · exact absurd hkfree (hbefore k hlt)
      · exact hend
    rwa [hki] at hkfree

/-- There are more slugs to try than are used, so the one that is found is free. -/
theorem isFree_uniqueSlug (used : List String) (text : String) :
    IsFree used (uniqueSlug used text) := by
  obtain ⟨i, -, heq, -, hfree⟩ := exists_uniqueSlug used text
  rwa [heq]

/-! ## Characters -/

/-- A character that a slug may hold: a small ASCII letter, a digit, an underscore or a hyphen. -/
def isSlugChar (c : Char) : Bool :=
  c.isLower || c.isDigit || c == '_' || c == '-'

/-- A text of characters of slugs. -/
def IsSlugText (slug : String) : Prop :=
  ∀ c ∈ slug.toList, isSlugChar c = true

/-- A text of characters of slugs can stand in an attribute as it is. -/
theorem IsSlugText.notMem (h : IsSlugText slug) : '\x22' ∉ slug.toList ∧ '<' ∉ slug.toList :=
  ⟨fun hquote => absurd (h _ hquote) (by decide), fun hless => absurd (h _ hless) (by decide)⟩

/-- To trim a text adds no characters. -/
theorem mem_trimChars {text : List Char} (h : c ∈ trimChars text) : c ∈ text := by
  rw [trimChars, dropEndWhile, List.mem_reverse] at h
  have hreverse := List.dropWhile_subset _ h
  exact List.dropWhile_subset _ (List.mem_reverse.1 hreverse)

/-- Words are joined with hyphens, and nothing else is added. -/
theorem mem_joinWords {inRun : Bool} {text : List Char} (h : c ∈ joinWords inRun text) :
    c = '-' ∨ c ∈ text ∧ isSeparator c = false := by
  fun_induction joinWords inRun text with
  | case1 => cases h
  | case2 d rest hseparator ih =>
    exact (ih h).imp_right fun ⟨hmem, hnot⟩ => ⟨List.mem_cons_of_mem _ hmem, hnot⟩
  | case3 inRun d rest hseparator hrun ih =>
    rcases List.mem_cons.1 h with rfl | h
    · exact .inl rfl
    · exact (ih h).imp_right fun ⟨hmem, hnot⟩ => ⟨List.mem_cons_of_mem _ hmem, hnot⟩
  | case4 inRun d rest hseparator ih =>
    rcases List.mem_cons.1 h with rfl | h
    · exact .inr ⟨List.mem_cons_self .., by simpa using hseparator⟩
    · exact (ih h).imp_right fun ⟨hmem, hnot⟩ => ⟨List.mem_cons_of_mem _ hmem, hnot⟩

/-- No character beyond ASCII and no capital letter is left, whatever they are read as. -/
theorem isSlugChar_of_mem_slugBy {reading : Char → Option Char} {text : List Char}
    (h : c ∈ slugBy reading text) : isSlugChar c = true := by
  rcases mem_joinWords h with rfl | ⟨hmem, hseparator⟩
  · decide
  · obtain ⟨hlowered, hkept⟩ := List.mem_filter.1 (mem_trimChars hmem)
    obtain ⟨d, -, rfl⟩ := List.mem_map.1 hlowered
    have hupper := isUpper_toLower d
    simp only [isWordChar, Char.isAlphanum, isAlpha_eq, hupper, hseparator, Bool.or_false,
      Bool.false_or] at hkept
    rw [isSlugChar, hkept, Bool.true_or]

/-- The slug of a text has the characters of slugs only. -/
theorem isSlugText_slugify (text : String) : IsSlugText (slugify text) := by
  intro c hc
  rw [slugify, String.toList_ofList] at hc
  exact isSlugChar_of_mem_slugBy hc

/-- To bump a slug adds an underscore and digits. -/
theorem isSlugText_bump (h : IsSlugText slug) : IsSlugText (bump slug) := by
  have hcounter (front : List Char) (n : Nat) (hfront : ∀ c ∈ front, isSlugChar c = true) :
      ∀ c ∈ front ++ '_' :: (toString n).toList, isSlugChar c = true := by
    intro c hc
    rcases List.mem_append.1 hc with hc | hc
    · exact hfront c hc
    · rcases List.mem_cons.1 hc with rfl | hc
      · decide
      · simp [isSlugChar, isDigit_of_mem_toString hc]
  intro c hc
  by_cases hcan : ∃ front n, splitCounter? slug.toList = some (front, n) ∧ n + 1 < counterBound
  · obtain ⟨front, n, hsplit, hn⟩ := hcan
    rw [toList_bump_of_counter hsplit hn] at hc
    obtain ⟨digits, -, -, hslug, -⟩ := splitCounter?_eq_some_iff.1 hsplit
    refine hcounter front (n + 1) (fun c hc => h c ?_) c hc
    rw [hslug]
    exact List.mem_append_left _ hc
  · rw [toList_bump_of_none fun front n hsplit =>
      Nat.le_of_not_lt fun hn => hcan ⟨front, n, hsplit, hn⟩] at hc
    exact hcounter slug.toList 1 h c hc

/-- However often a slug is bumped, it stays one. -/
theorem isSlugText_firstFree (h : IsSlugText slug) (used : List String) (n : Nat) :
    IsSlugText (firstFree used n slug) := by
  induction n generalizing slug with
  | zero => exact h
  | succ n ih =>
    rw [firstFree]
    split
    · exact ih (isSlugText_bump h)
    · exact h

/-- Whatever is tried, the slug in the end has the characters of slugs only. -/
theorem isSlugText_uniqueSlug (used : List String) (text : String) :
    IsSlugText (uniqueSlug used text) :=
  isSlugText_firstFree (isSlugText_slugify text) used _

/-! ## Slugs for many texts -/

/-- There is a slug for each text. -/
theorem length_assignSlugs (used texts : List String) :
    (assignSlugs used texts).length = texts.length := by
  induction texts generalizing used with
  | nil => rfl
  | cons text texts ih => rw [assignSlugs, List.length_cons, List.length_cons, ih]

/-- All slugs that are assigned could be given away, and have the characters of slugs. -/
theorem free_of_mem_assignSlugs (h : slug ∈ assignSlugs used texts) :
    IsFree used slug ∧ IsSlugText slug := by
  induction texts generalizing used with
  | nil => cases h
  | cons text texts ih =>
    rw [assignSlugs] at h
    rcases List.mem_cons.1 h with heq | h
    · rw [heq]
      exact ⟨isFree_uniqueSlug used text, isSlugText_uniqueSlug used text⟩
    · obtain ⟨⟨hempty, hnot⟩, hchars⟩ := ih h
      exact ⟨⟨hempty, fun hmem => hnot (List.mem_cons_of_mem _ hmem)⟩, hchars⟩

/-- What is given away is used from then on. -/
theorem nodup_assignSlugs (used texts : List String) : (assignSlugs used texts).Nodup := by
  induction texts generalizing used with
  | nil => exact List.nodup_nil
  | cons text texts ih =>
    rw [assignSlugs]
    refine List.nodup_cons.2 ⟨fun hmem => ?_, ih _⟩
    exact (free_of_mem_assignSlugs hmem).1.2 (List.mem_cons_self ..)

end DocPress.Document
