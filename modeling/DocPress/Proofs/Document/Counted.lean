import Mathlib.Algebra.Group.Nat.Defs
import Mathlib.Data.Nat.Find
import Mathlib.Order.Bounds.Defs
import DocPress.Proofs.Document.Outline

/-!
# DocPress.Proofs.Document.Counted

Which slug a heading gets if its own is taken: the one with the least counter that is free. It counts
on from the counter that the slug ends with, if the next one still fits 64 bits, and from one behind
the whole slug otherwise (`uniqueSlug_counting`). So headings with the same text get the counters
`1`, `2` and so on (`getElem?_assignSlugs_replicate`).
-/

namespace DocPress.Document

open DocPress.Text

variable {slug base text : String} {n m : Nat} {used used' : List String}

/-! ## Counters -/

/-- A text with a counter behind it. -/
def counted (base : String) (m : Nat) : String :=
  base ++ "_" ++ toString m

/-- The slug ends with an underscore and a run of digits of the given value, and the base stands
before them. -/
def HasCounter (slug base : String) (n : Nat) : Prop :=
  ∃ digits : List Char, digits ≠ [] ∧ (∀ c ∈ digits, c.isDigit = true) ∧
    slug.toList = base.toList ++ '_' :: digits ∧ Nat.ofDigitChars 10 digits 0 = n

theorem toList_counted (base : String) (m : Nat) :
    (counted base m).toList = base.toList ++ '_' :: (toString m).toList := by
  simp [counted]

/-- A text with a counter has characters. -/
theorem counted_ne_empty (base : String) (m : Nat) : counted base m ≠ "" := by
  intro h
  have := congrArg String.toList h
  simp [toList_counted] at this

/-- A counter makes a text longer. -/
theorem counted_ne_self (base : String) (m : Nat) : counted base m ≠ base := by
  intro h
  have := congrArg (fun s => s.toList.length) h
  simp [toList_counted] at this

/-- Different counters give different texts: the digits read back are the counter. -/
theorem counted_injective (base : String) : (counted base).Injective := by
  intro m m' h
  have hdigits := congrArg String.toList h
  simp only [toList_counted, List.append_cancel_left_eq, List.cons.injEq, true_and] at hdigits
  have := congrArg (Nat.ofDigitChars 10 · 0) hdigits
  simpa [ofDigitChars_toString] using this

/-- A slug with a counter is taken apart there. -/
theorem splitCounter?_of_hasCounter (h : HasCounter slug base n) :
    splitCounter? slug.toList = some (base.toList, n) := by
  obtain ⟨digits, hne, hdigits, hslug, hvalue⟩ := h
  exact splitCounter?_eq_some_iff.2 ⟨digits, hne, hdigits, hslug, digitsValue_eq digits ▸ hvalue⟩

/-- Where a slug is taken apart, it has a counter. -/
theorem hasCounter_of_splitCounter? {front : List Char}
    (h : splitCounter? slug.toList = some (front, n)) : HasCounter slug (String.ofList front) n := by
  obtain ⟨digits, hne, hdigits, hslug, hvalue⟩ := splitCounter?_eq_some_iff.1 h
  exact ⟨digits, hne, hdigits, by simpa using hslug, digitsValue_eq digits ▸ hvalue⟩

/-- The digits of a number are a counter. -/
theorem hasCounter_counted (base : String) (m : Nat) : HasCounter (counted base m) base m := by
  refine ⟨(toString m).toList, ?_, fun c => isDigit_of_mem_toString, toList_counted base m,
    ofDigitChars_toString m⟩
  rw [toList_toString]
  exact Nat.toDigits_ne_nil

/-- A counter that fits counts on. -/
theorem bump_of_hasCounter (h : HasCounter slug base n) (hn : n + 1 < counterBound) :
    bump slug = counted base (n + 1) := by
  rw [← String.toList_inj, toList_bump_of_counter (splitCounter?_of_hasCounter h) hn,
    toList_counted]

/-- Without a counter that can count on, one begins behind the slug. -/
theorem bump_of_no_counter (h : ∀ base n, HasCounter slug base n → counterBound ≤ n + 1) :
    bump slug = counted slug 1 := by
  rw [← String.toList_inj, toList_counted]
  exact toList_bump_of_none fun front n hsplit => h _ n (hasCounter_of_splitCounter? hsplit)

/-- To bump counts on by one, as long as the counter fits 64 bits. -/
theorem iterate_bump_counted (base : String) (m i : Nat) (h : m + i < counterBound) :
    bump^[i] (counted base m) = counted base (m + i) := by
  induction i with
  | zero => rfl
  | succ i ih =>
    rw [Function.iterate_succ_apply', ih (by omega),
      bump_of_hasCounter (hasCounter_counted base (m + i)) (by omega), Nat.add_assoc]

/-! ## The first that is free -/

/-- The slug is the first of those that are tried that is free. -/
theorem uniqueSlug_eq_iterate {i : Nat} (hfree : IsFree used (bump^[i] (slugify text)))
    (hbefore : ∀ j < i, ¬ IsFree used (bump^[j] (slugify text))) :
    uniqueSlug used text = bump^[i] (slugify text) := by
  obtain ⟨k, -, heq, hbeforeK, hfreeK⟩ := exists_uniqueSlug used text
  have hki : k = i := by
    rcases Nat.lt_trichotomy k i with hlt | heq | hgt
    · exact absurd hfreeK (hbefore k hlt)
    · exact heq
    · exact absurd hfree (hbeforeK i hgt)
  rw [heq, hki]

/-- A slug that is free is given as it is. -/
theorem uniqueSlug_of_free (h : IsFree used (slugify text)) : uniqueSlug used text = slugify text :=
  uniqueSlug_eq_iterate (i := 0) h (by simp)

/-- What is taken matters only as a set. -/
theorem uniqueSlug_congr (h : ∀ slug, slug ∈ used' ↔ slug ∈ used) :
    uniqueSlug used' text = uniqueSlug used text := by
  obtain ⟨i, -, heq, hbefore, hfree⟩ := exists_uniqueSlug used text
  have hiff (slug : String) : IsFree used' slug ↔ IsFree used slug := by
    rw [IsFree, IsFree, h]
  rw [heq]
  exact uniqueSlug_eq_iterate ((hiff _).2 hfree) fun j hj hfree' => hbefore j hj ((hiff _).1 hfree')

/-- If the next slug to try has the counter `k`, the search goes up to the least counter from `k` on
that is free. -/
theorem uniqueSlug_counting {k : Nat} (htaken : ¬ IsFree used (slugify text))
    (hbump : bump (slugify text) = counted base k) (hm : m < counterBound) (hkm : k ≤ m)
    (hfree : counted base m ∉ used) (hbefore : ∀ l, k ≤ l → l < m → counted base l ∈ used) :
    uniqueSlug used text = counted base m := by
  have htried (i : Nat) (hi : k + i ≤ m) :
      bump^[i + 1] (slugify text) = counted base (k + i) := by
    rw [Function.iterate_succ_apply, hbump, iterate_bump_counted base k i (by omega)]
  have hlast : bump^[m - k + 1] (slugify text) = counted base m := by
    rw [htried (m - k) (by omega), Nat.add_sub_cancel' hkm]
  rw [← hlast]
  refine uniqueSlug_eq_iterate ?_ fun j hj hfreeJ => ?_
  · rw [hlast]
    exact ⟨counted_ne_empty base m, hfree⟩
  · cases j with
    | zero => exact htaken hfreeJ
    | succ j =>
      rw [htried j (by omega)] at hfreeJ
      exact hfreeJ.2 (hbefore (k + j) (by omega) (by omega))

/-- Of numbers that have a property, one is the least. -/
theorem exists_isLeast {p : Nat → Prop} (h : ∃ m, p m) : ∃ m, IsLeast {m | p m} m := by
  classical
  exact ⟨Nat.find h, Nat.find_spec h, fun m hm => Nat.find_min' h hm⟩

/-- A taken slug with a counter counts on to the least one that is free and fits. -/
theorem uniqueSlug_of_hasCounter (htaken : ¬ IsFree used (slugify text))
    (hcounter : HasCounter (slugify text) base n)
    (hm : IsLeast {m | n < m ∧ m < counterBound ∧ counted base m ∉ used} m) :
    uniqueSlug used text = counted base m := by
  obtain ⟨⟨hnm, hmax, hfree⟩, hleast⟩ := hm
  refine uniqueSlug_counting htaken (bump_of_hasCounter hcounter (by omega)) hmax hnm hfree ?_
  intro l hnl hlm
  by_contra hnot
  have := hleast ⟨hnl, by omega, hnot⟩
  omega

/-- A taken slug without a counter that can count on gets the least one that is free. -/
theorem uniqueSlug_of_no_counter (htaken : ¬ IsFree used (slugify text))
    (hcounter : ∀ base n, HasCounter (slugify text) base n → counterBound ≤ n + 1)
    (hm : IsLeast {m | 1 ≤ m ∧ counted (slugify text) m ∉ used} m) (hmax : m < counterBound) :
    uniqueSlug used text = counted (slugify text) m := by
  obtain ⟨⟨hpos, hfree⟩, hleast⟩ := hm
  refine uniqueSlug_counting htaken (bump_of_no_counter hcounter) hmax hpos hfree ?_
  intro l hl hlm
  by_contra hnot
  have := hleast ⟨hl, hnot⟩
  omega

/-! ## The same text again and again -/

/-- The slug of a text that came `i` times before. -/
def repeated (slug : String) (i : Nat) : String :=
  if i = 0 then slug else counted slug i

/-- The slugs of a repeated text are different. -/
theorem repeated_injective (slug : String) : (repeated slug).Injective := by
  intro i j h
  unfold repeated at h
  split at h <;> split at h
  · omega
  · exact absurd h.symm (counted_ne_self slug j)
  · exact absurd h (counted_ne_self slug i)
  · exact counted_injective slug h

/-- If the slugs that the text had before are taken, and no others, it gets the next one. -/
theorem uniqueSlug_repeated {k : Nat} (hempty : slugify text ≠ "")
    (hcounter : ∀ base n, ¬ HasCounter (slugify text) base n) (hk : k < counterBound)
    (hused : ∀ slug, slug ∈ used ↔ ∃ j < k, repeated (slugify text) j = slug) :
    uniqueSlug used text = repeated (slugify text) k := by
  have hfree : repeated (slugify text) k ∉ used := by
    rw [hused]
    rintro ⟨j, hj, heq⟩
    have := repeated_injective _ heq
    omega
  cases k with
  | zero => exact uniqueSlug_of_free ⟨hempty, hfree⟩
  | succ k =>
    have htaken : ¬ IsFree used (slugify text) := fun h => h.2 ((hused _).2 ⟨0, by omega, rfl⟩)
    refine uniqueSlug_counting htaken (bump_of_no_counter fun base n h => absurd h (hcounter base n))
      hk (by omega) hfree fun l hl hlk => (hused _).2 ⟨l, hlk, ?_⟩
    rw [repeated, if_neg (by omega)]

/-- Slugs for the same text again and again: the `i`th has the counter `i`. -/
theorem getElem?_assignSlugs_replicate {i k count : Nat} (hempty : slugify text ≠ "")
    (hcounter : ∀ base n, ¬ HasCounter (slugify text) base n)
    (hused : ∀ slug, slug ∈ used ↔ ∃ j < k, repeated (slugify text) j = slug)
    (hi : i < count) (hmax : k + i < counterBound) :
    (assignSlugs used (List.replicate count text))[i]? = some (repeated (slugify text) (k + i)) := by
  induction count generalizing used i k with
  | zero => omega
  | succ count ih =>
    have hslug := uniqueSlug_repeated hempty hcounter (by omega) hused
    rw [List.replicate_succ, assignSlugs]
    cases i with
    | zero => simp [hslug]
    | succ i =>
      rw [List.getElem?_cons_succ, ih (k := k + 1) _ (by omega) (by omega)]
      · simp [Nat.add_assoc, Nat.add_comm 1 i]
      · intro slug
        rw [List.mem_cons, hused, hslug]
        constructor
        · rintro (rfl | ⟨j, hj, rfl⟩)
          · exact ⟨k, by omega, rfl⟩
          · exact ⟨j, by omega, rfl⟩
        · rintro ⟨j, hj, rfl⟩
          rcases Nat.lt_or_eq_of_le (Nat.le_of_lt_succ hj) with hlt | rfl
          · exact .inr ⟨j, hlt, rfl⟩
          · exact .inl rfl

/-- The ids of headings that all have the same text. -/
theorem getElem?_ids_withSlugs {hs : List Heading} {i : Nat} (hsame : ∀ h ∈ hs, h.text = text)
    (hempty : slugify text ≠ "") (hcounter : ∀ base n, ¬ HasCounter (slugify text) base n)
    (hi : i < hs.length) (hmax : i < counterBound) :
    ((withSlugs hs).map (·.id))[i]? = some (some (repeated (slugify text) i)) := by
  have htexts : hs.map (·.text) = List.replicate hs.length text :=
    List.eq_replicate_iff.2 ⟨List.length_map _, by simpa using hsame⟩
  have hused (slug : String) : slug ∈ [] ↔ ∃ j < 0, repeated (slugify text) j = slug := by simp
  have hget := getElem?_assignSlugs_replicate hempty hcounter hused hi (by omega)
  rw [ids_withSlugs, htexts, List.getElem?_map, hget]
  simp

/-! ## The least free counter -/

/-- The slug of a text is its own if that is free, and otherwise has the least free counter: from
its own counter on, or from one on behind the whole slug if it has none that can count on. In any
case it was free and is taken from then on. So headings with the same text are counted from the
second on. -/
theorem uniqueSlug_least (used : List String) (text : String) :
    let s := slugify text
    let slug := uniqueSlug used text
    (s ≠ "" ∧ s ∉ used → slug = s) ∧
    (¬ (s ≠ "" ∧ s ∉ used) → ∀ base n, HasCounter s base n → n ≤ 2 ^ 64 - 2 →
      (∃ m, n < m ∧ m < 2 ^ 64 ∧ counted base m ∉ used) →
      ∃ m, IsLeast {m | n < m ∧ m < 2 ^ 64 ∧ counted base m ∉ used} m ∧
        slug = counted base m) ∧
    (¬ (s ≠ "" ∧ s ∉ used) → (∀ base n, HasCounter s base n → 2 ^ 64 - 1 ≤ n) →
      ∃ m, IsLeast {m | 1 ≤ m ∧ counted s m ∉ used} m ∧ (m < 2 ^ 64 → slug = counted s m)) ∧
    (slug ≠ "" ∧ slug ∉ used) ∧
    -- Only what is in the list matters, and the slug is all that is added to it.
    (∀ used', (∀ x, x ∈ used' ↔ x ∈ used) → uniqueSlug used' text = slug) ∧
    (∀ texts, assignSlugs used (text :: texts) = slug :: assignSlugs (slug :: used) texts) ∧
    -- Memory of 64 bits holds no more headings than there are counters.
    ∀ hs : List Heading, (∀ h ∈ hs, h.text = text) → s ≠ "" → (∀ base n, ¬ HasCounter s base n) →
      ∀ i < hs.length, i < 2 ^ 64 →
        ((withSlugs hs).map (·.id))[i]? = some (some (if i = 0 then s else counted s i)) := by
  intro s slug
  have hbound : counterBound = 2 ^ 64 := rfl
  refine ⟨uniqueSlug_of_free, fun htaken base n hcounter _ hsome => ?_, fun htaken hcounter => ?_,
    isFree_uniqueSlug used text, fun used' => uniqueSlug_congr, fun texts => rfl,
    fun hs hsame hempty hcounter i hi hmax => ?_⟩
  · obtain ⟨m, hm⟩ := exists_isLeast hsome
    exact ⟨m, hm, uniqueSlug_of_hasCounter htaken hcounter hm⟩
  · have hinjective : (fun m => counted s (m + 1)).Injective :=
      (counted_injective s).comp Nat.succ_injective
    obtain ⟨k, -, hk⟩ := exists_notMem_of_injective hinjective used
    obtain ⟨m, hm⟩ := exists_isLeast (p := fun m => 1 ≤ m ∧ counted s m ∉ used)
      ⟨k + 1, by omega, hk⟩
    refine ⟨m, hm, fun hmax => uniqueSlug_of_no_counter htaken (fun base n h => ?_) hm hmax⟩
    have := hcounter base n h
    omega
  · exact getElem?_ids_withSlugs hsame hempty hcounter hi hmax

-- Leading zeros of a counter are not kept.
example : uniqueSlug ["x_007"] "X_007" = "x_8" := by decide +kernel

end DocPress.Document
