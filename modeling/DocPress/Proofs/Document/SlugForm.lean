import Mathlib.Data.List.Chain
import DocPress.Proofs.Document.Outline

/-!
# DocPress.Proofs.Document.SlugForm

What slugs look like, and which texts have the same one, whatever the characters beyond ASCII are
read as:

1. No two hyphens stand side by side in a slug (`singleHyphens_joinWords`), and a text that is as
   slugs are is its own slug (`slugBy_of_form`).
2. The case of ASCII letters makes no difference (`slugBy_of_toLower`), and neither does what
   separates two words (`slugBy_between`).
3. HTML takes a slug as it is (`IsSlugText.replaceAttribute_eq`, `IsSlugText.escapeAttribute_eq`).
-/

namespace DocPress.Document

open DocPress.Text DocPress.Markdown

variable {reading : Char → Option Char} {text text' before after run : List Char}
variable {a b c : Char} {inRun : Bool} {slug : String}

/-! ## Joining words -/

/-- No two hyphens stand side by side. -/
def SingleHyphens (text : List Char) : Prop :=
  text.IsChain fun c d => ¬ (c = '-' ∧ d = '-')

/-- In such a text two hyphens stand side by side nowhere. -/
theorem SingleHyphens.not_infix (h : SingleHyphens text) : ¬ ['-', '-'] <:+: text := by
  rintro ⟨front, back, rfl⟩
  have hpair := (List.IsChain.left_of_append h).right_of_append
  simp at hpair

/-- A character that is no separator parts the words before it from those behind it. -/
theorem joinWords_append_cons (hc : isSeparator c = false) (inRun : Bool)
    (before after : List Char) : joinWords inRun (before ++ c :: after) =
      joinWords inRun before ++ c :: joinWords false after := by
  induction before generalizing inRun with
  | nil => simp [joinWords, hc]
  | cons d before ih =>
    by_cases hd : isSeparator d = true
    · cases inRun <;> simp [joinWords, hd, ih]
    · simp [joinWords, hd, ih]

/-- In a run of separators that has its hyphen, nothing is written. -/
theorem joinWords_true_run (hrun : ∀ c ∈ run, isSeparator c = true) (hc : isSeparator c = false)
    (after : List Char) :
    joinWords true (run ++ c :: after) = c :: joinWords false after := by
  induction run with
  | nil => simp [joinWords, hc]
  | cons d run ih =>
    obtain ⟨hd, hrest⟩ := List.forall_mem_cons.1 hrun
    simp [joinWords, hd, ih hrest]

/-- A run of separators becomes one hyphen, whatever it is. -/
theorem joinWords_run (hne : run ≠ []) (hrun : ∀ c ∈ run, isSeparator c = true)
    (hc : isSeparator c = false) (after : List Char) :
    joinWords false (run ++ c :: after) = '-' :: c :: joinWords false after := by
  cases run with
  | nil => exact absurd rfl hne
  | cons d run =>
    obtain ⟨hd, hrest⟩ := List.forall_mem_cons.1 hrun
    simp [joinWords, hd, joinWords_true_run hrest hc]

/-- In a run of separators no further hyphen is written. -/
theorem head?_joinWords_true (text : List Char) : (joinWords true text).head? ≠ some '-' := by
  induction text with
  | nil => simp [joinWords]
  | cons c text ih =>
    by_cases hc : isSeparator c = true
    · simpa [joinWords, hc] using ih
    · have hne : c ≠ '-' := by
        rintro rfl
        exact hc rfl
      simp [joinWords, hc, hne]

/-- A run of separators becomes one hyphen. The induction is on the text, for both values of the
flag. -/
theorem singleHyphens_joinWords (inRun : Bool) (text : List Char) :
    SingleHyphens (joinWords inRun text) := by
  fun_induction joinWords inRun text with
  | case1 => exact .nil
  | case2 c rest hc ih => exact ih
  | case3 inRun c rest hc hrun ih =>
    refine List.IsChain.cons ih fun d hd => ?_
    rintro ⟨-, rfl⟩
    exact head?_joinWords_true rest hd
  | case4 inRun c rest hc ih =>
    refine List.IsChain.cons ih fun d hd => ?_
    rintro ⟨rfl, -⟩
    exact hc rfl

/-- Where words are joined already, nothing changes. -/
theorem joinWords_of_single (hchars : ∀ c ∈ text, c = '-' ∨ isSeparator c = false)
    (hsingle : SingleHyphens text) (hrun : inRun = true → text.head? ≠ some '-') :
    joinWords inRun text = text := by
  induction text generalizing inRun with
  | nil => rfl
  | cons c text ih =>
    obtain ⟨hc, hrest⟩ := List.forall_mem_cons.1 hchars
    obtain ⟨hnext, htail⟩ := List.isChain_cons.1 hsingle
    rcases hc with rfl | hc
    · have hnot : text.head? ≠ some '-' := fun hhead => hnext '-' hhead ⟨rfl, rfl⟩
      have hout : inRun = false := by simpa using hrun
      have hjoined : joinWords true text = text := ih hrest htail fun _ => hnot
      simp [joinWords, isSeparator, hout, hjoined]
    · have hjoined : joinWords false text = text := ih hrest htail (by simp)
      simp [joinWords, hc, hjoined]

/-! ## Characters -/

/-- Characters of words have codes from that of `0` to that of `z`. -/
theorem toNat_of_isWordChar (h : isWordChar c = true) : 48 ≤ c.toNat ∧ c.toNat ≤ 122 := by
  simp only [isWordChar, Char.isAlphanum, isAlpha_eq, Char.isDigit, Bool.or_eq_true, isUpper_iff,
    isLower_iff, beq_iff_eq] at h
  rcases h with ((h | h) | h) | rfl
  · omega
  · omega
  · simp [UInt32.le_iff_toNat_le] at h
    omega
  · decide

/-- None of them is a blank. -/
theorem isBlank_of_isWordChar (h : isWordChar c = true) : isBlank c = false := by
  have hbounds := toNat_of_isWordChar h
  simp [isBlank]
  omega

/-- None of them separates words. -/
theorem isSeparator_of_isWordChar (h : isWordChar c = true) : isSeparator c = false := by
  have hbounds := toNat_of_isWordChar h
  have hne : c ≠ '-' := by
    rintro rfl
    simp at hbounds
  simp [isSeparator, isAsciiBlank, hne]
  omega

/-- Letters and digits of ASCII are characters of words. -/
theorem isWordChar_of_isAlphanum (h : c.isAlphanum = true) : isWordChar c = true := by
  simp [isWordChar, h]

/-- Only capital letters of ASCII are changed. -/
theorem toLower_of_not_isUpper (h : ¬ c.isUpper) : c.toLower = c := by
  rw [isUpper_iff] at h
  rw [← Char.toNat_inj, toNat_toLower, if_neg h]

/-- Letters stay letters. -/
theorem isAlphanum_toLower (h : c.isAlphanum = true) : c.toLower.isAlphanum = true := by
  by_cases hupper : c.isUpper
  · have hbounds := isUpper_iff.1 hupper
    have hlower : c.toLower.isLower = true := by
      rw [isLower_iff, toNat_toLower, if_pos hbounds]
      omega
    simp [Char.isAlphanum, isAlpha_eq, hlower]
  · rwa [toLower_of_not_isUpper hupper]

/-- All separators are characters of ASCII. -/
theorem toNat_of_isSeparator (h : isSeparator c = true) : c.toNat < 128 := by
  simp [isSeparator, isAsciiBlank] at h
  rcases h with rfl | h
  · decide
  · omega

/-- ASCII characters stay ASCII. -/
theorem toNat_toLower_lt (h : c.toNat < 128) : c.toLower.toNat < 128 := by
  rw [toNat_toLower]
  split <;> omega

/-- Beyond ASCII, no character has a case. -/
theorem toLower_of_not_lt (h : ¬ c.toNat < 128) : c.toLower = c := by
  apply toLower_of_not_isUpper
  rw [isUpper_iff]
  omega

/-- Separators have no case. -/
theorem toLower_of_isSeparator (h : isSeparator c = true) : c.toLower = c := by
  apply toLower_of_not_isUpper
  simp [isSeparator, isAsciiBlank] at h
  rcases h with rfl | h
  · decide
  · rw [isUpper_iff]
    omega

/-- A character of slugs is a hyphen, or stands in a word and is no capital letter. -/
theorem isSlugChar_cases (h : isSlugChar c = true) :
    c = '-' ∨ isWordChar c = true ∧ c.toLower = c := by
  simp only [isSlugChar, Bool.or_eq_true, beq_iff_eq] at h
  rcases h with ((hlower | hdigit) | rfl) | rfl
  · have hword : isWordChar c = true := by
      simp [isWordChar, Char.isAlphanum, isAlpha_eq, hlower]
    have hupper : ¬ c.isUpper := by
      rw [isLower_iff] at hlower
      rw [isUpper_iff]
      omega
    exact .inr ⟨hword, toLower_of_not_isUpper hupper⟩
  · have hupper : ¬ c.isUpper := by
      simp [Char.isDigit, UInt32.le_iff_toNat_le] at hdigit
      rw [isUpper_iff]
      omega
    have hword : isWordChar c = true := by simp [isWordChar, Char.isAlphanum, hdigit]
    exact .inr ⟨hword, toLower_of_not_isUpper hupper⟩
  · exact .inr (by decide)
  · exact .inl rfl

/-! ## What a slug is made of -/

/-- What is left of a text before its words are joined: it is folded to ASCII and to small letters,
and has lost all that neither stands in words nor separates them. -/
def slugLetters (reading : Char → Option Char) (text : List Char) : List Char :=
  ((foldAsciiBy reading text).map Char.toLower).filter fun c => isWordChar c || isSeparator c

/-- A slug is made in three passes: letters are read, the ends are trimmed, and words are joined. -/
theorem slugBy_eq (reading : Char → Option Char) (text : List Char) :
    slugBy reading text = joinWords false (trimChars (slugLetters reading text)) :=
  rfl

/-- Letters are read one by one. -/
theorem slugLetters_append (reading : Char → Option Char) (text text' : List Char) :
    slugLetters reading (text ++ text') =
      slugLetters reading text ++ slugLetters reading text' := by
  simp [slugLetters, foldAsciiBy, List.filterMap_append]

/-- A letter or digit of ASCII is read as it is, but for its case. -/
theorem slugLetters_cons_of_isAlphanum (h : c.isAlphanum = true) (text : List Char) :
    slugLetters reading (c :: text) = c.toLower :: slugLetters reading text := by
  have hbounds := toNat_of_isWordChar (isWordChar_of_isAlphanum h)
  have hascii : c.toNat < 128 := by omega
  have hkept := isWordChar_of_isAlphanum (isAlphanum_toLower h)
  simp [slugLetters, foldAsciiBy, hascii, hkept]

/-- ASCII characters of which nothing is lost. -/
theorem slugLetters_of_plain (h : ∀ c ∈ text, c.toNat < 128 ∧ c.toLower = c ∧
    (isWordChar c || isSeparator c) = true) : slugLetters reading text = text := by
  induction text with
  | nil => rfl
  | cons c text ih =>
    obtain ⟨⟨hascii, hlower, hkept⟩, hrest⟩ := List.forall_mem_cons.1 h
    have hletters := ih hrest
    simp only [slugLetters, foldAsciiBy] at hletters
    simp only [slugLetters, foldAsciiBy, List.filterMap_cons, hascii, if_true, List.map_cons,
      hlower, List.filter_cons, hkept, hletters]

/-- Separators are kept. -/
theorem slugLetters_of_separators (h : ∀ c ∈ run, isSeparator c = true) :
    slugLetters reading run = run :=
  slugLetters_of_plain fun c hc =>
    ⟨toNat_of_isSeparator (h c hc), toLower_of_isSeparator (h c hc), by simp [h c hc]⟩

/-! ## Slugs of slugs -/

/-- Without blanks there is nothing to trim. -/
theorem trimChars_of_not_blank (h : ∀ c ∈ text, isBlank c = false) : trimChars text = text := by
  have hdrop (l : List Char) (hl : ∀ c ∈ l, isBlank c = false) : l.dropWhile isBlank = l := by
    cases l with
    | nil => rfl
    | cons c l => simp [hl c (List.mem_cons_self ..)]
  have hreverse : ∀ c ∈ text.reverse, isBlank c = false := fun c hc => h c (List.mem_reverse.1 hc)
  rw [trimChars, dropEndWhile, hdrop text h, hdrop _ hreverse, List.reverse_reverse]

/-- A text that is as slugs are is its own slug. -/
theorem slugBy_of_form (hchars : ∀ c ∈ text, isSlugChar c = true) (hsingle : SingleHyphens text) :
    slugBy reading text = text := by
  have hletters : slugLetters reading text = text := by
    refine slugLetters_of_plain fun c hc => ?_
    rcases isSlugChar_cases (hchars c hc) with rfl | ⟨hword, hlower⟩
    · decide
    · have hbounds := toNat_of_isWordChar hword
      exact ⟨by omega, hlower, by simp [hword]⟩
  have hblank : ∀ c ∈ text, isBlank c = false := by
    intro c hc
    rcases isSlugChar_cases (hchars c hc) with rfl | ⟨hword, -⟩
    · decide
    · exact isBlank_of_isWordChar hword
  have hjoined : ∀ c ∈ text, c = '-' ∨ isSeparator c = false := fun c hc =>
    (isSlugChar_cases (hchars c hc)).imp_right fun hword => isSeparator_of_isWordChar hword.1
  rw [slugBy_eq, hletters, trimChars_of_not_blank hblank,
    joinWords_of_single hjoined hsingle (by simp)]

/-! ## Texts with the same slug -/

/-- Folding and lowering can change places. -/
theorem map_toLower_foldAsciiBy (reading : Char → Option Char) (text : List Char) :
    (foldAsciiBy reading text).map Char.toLower = (text.map Char.toLower).filterMap fun c =>
      if c.toNat < 128 then some c else (reading c).map Char.toLower := by
  induction text with
  | nil => rfl
  | cons c text ih =>
    simp only [foldAsciiBy] at ih
    by_cases hascii : c.toNat < 128
    · simp [foldAsciiBy, hascii, toNat_toLower_lt hascii, ih]
    · rw [List.map_cons, toLower_of_not_lt hascii]
      cases hreading : reading c <;> simp [foldAsciiBy, hascii, hreading, ih]

/-- The case of ASCII letters makes no difference. -/
theorem slugBy_of_toLower (h : text'.map Char.toLower = text.map Char.toLower) :
    slugBy reading text' = slugBy reading text := by
  simp only [slugBy, map_toLower_foldAsciiBy, h]

/-- A character that is kept ends what is dropped from the end. -/
theorem dropEndWhile_append_cons {p : Char → Bool} (hc : p c = false) (before after : List Char) :
    dropEndWhile p (before ++ c :: after) = before ++ c :: dropEndWhile p after := by
  have hafter : ((after.reverse ++ c :: before.reverse).dropWhile p) =
      after.reverse.dropWhile p ++ c :: before.reverse := by
    induction after.reverse with
    | nil => simp [hc]
    | cons d rest ih => by_cases hd : p d = true <;> simp [hd, ih]
  simp [dropEndWhile, hafter]

/-- A character that is no blank stops trimming from both sides. -/
theorem trimChars_append_cons (hc : isBlank c = false) (before after : List Char) :
    trimChars (before ++ c :: after) =
      before.dropWhile isBlank ++ c :: dropEndWhile isBlank after := by
  have hbefore : (before ++ c :: after).dropWhile isBlank =
      before.dropWhile isBlank ++ c :: after := by
    induction before with
    | nil => simp [hc]
    | cons d before ih => by_cases hd : isBlank d = true <;> simp [hd, ih]
  rw [trimChars, hbefore, dropEndWhile_append_cons hc]

/-- Between two words a hyphen is written, whatever separates them. -/
theorem slugBy_between (ha : a.isAlphanum = true) (hb : b.isAlphanum = true) (hne : run ≠ [])
    (hrun : ∀ c ∈ run, isSeparator c = true) (before after : List Char) :
    slugBy reading (before ++ a :: (run ++ b :: after)) =
      joinWords false ((slugLetters reading before).dropWhile isBlank) ++ a.toLower :: '-' ::
        b.toLower :: joinWords false (dropEndWhile isBlank (slugLetters reading after)) := by
  have hword : isWordChar a.toLower = true := isWordChar_of_isAlphanum (isAlphanum_toLower ha)
  have hword' : isWordChar b.toLower = true := isWordChar_of_isAlphanum (isAlphanum_toLower hb)
  have hletters : slugLetters reading (before ++ a :: (run ++ b :: after)) =
      slugLetters reading before ++
        a.toLower :: (run ++ b.toLower :: slugLetters reading after) := by
    rw [slugLetters_append, slugLetters_cons_of_isAlphanum ha, slugLetters_append,
      slugLetters_of_separators hrun, slugLetters_cons_of_isAlphanum hb]
  rw [slugBy_eq, hletters, trimChars_append_cons (isBlank_of_isWordChar hword),
    dropEndWhile_append_cons (isBlank_of_isWordChar hword'),
    joinWords_append_cons (isSeparator_of_isWordChar hword),
    joinWords_run hne hrun (isSeparator_of_isWordChar hword')]

/-! ## Slugs in HTML -/

/-- No character of slugs is written as an entity. -/
theorem attributeEntity_of_isSlugChar (h : isSlugChar c = true) : attributeEntity c = [c] := by
  have hamp : c ≠ '&' := by rintro rfl; exact absurd h (by decide)
  have hless : c ≠ '<' := by rintro rfl; exact absurd h (by decide)
  have hgreater : c ≠ '>' := by rintro rfl; exact absurd h (by decide)
  have hquote : c ≠ '\x22' := by rintro rfl; exact absurd h (by decide)
  simp [attributeEntity, bodyEntity, hamp, hless, hgreater, hquote]

/-- Nothing in a slug is escaped in an attribute. -/
theorem IsSlugText.escapeAttribute_eq (h : IsSlugText slug) : escapeAttribute slug = slug := by
  have hentities : slug.toList.flatMap attributeEntity = slug.toList.flatMap fun c => [c] :=
    List.flatMap_congr fun c hc => attributeEntity_of_isSlugChar (h c hc)
  rw [escapeAttribute, hentities, List.flatMap_singleton', String.ofList_toList]

/-- Nothing in a slug is replaced in an attribute. -/
theorem IsSlugText.replaceAttribute_eq (h : IsSlugText slug) : replaceAttribute slug = slug := by
  rw [Text.replaceAttribute_eq, h.escapeAttribute_eq]

/-! ## Readings -/

/-- A transcription that is one ASCII letter or digit. -/
def oneLetter? (transcription : String) : Option Char :=
  match transcription.toList with
  | [c] => if isAsciiAlphanumeric c then some c else none
  | _ => none

/-- The slug of a text, given what each character beyond ASCII is transcribed as, if at all. -/
def slugUnder (transcribe : Char → Option String) (text : String) : String :=
  String.ofList (slugBy (fun c => (transcribe c).bind oneLetter?) text.toList)

/-- The transcriptions that slugs are read off. -/
def transcribeAscii (c : Char) : Option String :=
  asciiReadingTable[c.toNat]?.map String.singleton

/-- The slug of a text is the one under the table of transcriptions. -/
theorem slugify_eq_slugUnder (text : String) : slugify text = slugUnder transcribeAscii text := by
  have hreading : asciiReading? = fun c => (transcribeAscii c).bind oneLetter? := by
    funext c
    rw [asciiReading?, transcribeAscii]
    cases asciiReadingTable[c.toNat]? with
    | none => rfl
    | some letter => simp [oneLetter?, Option.filter]
  rw [slugify, slugUnder, hreading]

/-! ## Slugs -/

/-- The characters of a slug, by the letters that the transcriptions are read as. -/
theorem toList_slugUnder (transcribe : Char → Option String) (text : String) :
    (slugUnder transcribe text).toList =
      slugBy (fun c => (transcribe c).bind oneLetter?) text.toList :=
  String.toList_ofList

/-- Slugs have the characters of slugs, whatever the transcriptions. -/
theorem isSlugText_slugUnder (transcribe : Char → Option String) (text : String) :
    IsSlugText (slugUnder transcribe text) := by
  intro c hc
  rw [toList_slugUnder] at hc
  exact isSlugChar_of_mem_slugBy hc

/-- No two hyphens stand side by side in a slug, whatever the transcriptions. -/
theorem singleHyphens_slugUnder (transcribe : Char → Option String) (text : String) :
    SingleHyphens (slugUnder transcribe text).toList := by
  rw [toList_slugUnder]
  exact singleHyphens_joinWords false _

/-- Slugs hold small letters, digits, underscores and single hyphens, whatever the characters beyond
ASCII are transcribed as, and are their own slugs. They do not see the case of ASCII letters, nor
what separates two words. So all ids are of these characters, and stand in the links of tables of
contents as they stand on the headings. -/
theorem slug_form (transcribe : Char → Option String) (text : String) :
    let slug := slugUnder transcribe text
    (IsSlugText slug ∧ ¬ ['-', '-'] <:+: slug.toList ∧ slugUnder transcribe slug = slug) ∧
    (∀ text' : String, text'.toList.map Char.toLower = text.toList.map Char.toLower →
      slugUnder transcribe text' = slug) ∧
    (∀ before a run b after, text.toList = before ++ a :: (run ++ b :: after) →
      a.isAlphanum = true → b.isAlphanum = true → run ≠ [] → (∀ c ∈ run, isSeparator c = true) →
      ∀ run', run' ≠ [] → (∀ c ∈ run', isSeparator c = true) →
        slugUnder transcribe (String.ofList (before ++ a :: (run' ++ b :: after))) = slug) ∧
    -- What is searched for from a slug is one, too, whatever is used.
    (∀ used n, IsSlugText (firstFree used n slug)) ∧
    -- The ids of headings are such slugs, and are written into HTML as they are.
    slugify = slugUnder transcribeAscii ∧
    (∀ texts, ∀ id ∈ assignSlugs [] texts,
      IsSlugText id ∧ replaceAttribute id = id ∧ escapeAttribute id = id) ∧
    ∀ mode events, ∀ h ∈ headingsOf mode events, ∀ id, h.id = some id →
      (∃ entry, tocEntry h = "<a href=\"#" ++ id ++ "\">" ++ entry) ∧
      ∀ w : HtmlWriter, w.start (.heading h.level h.id) =
        w.writeFresh ("<h" ++ toString h.level ++ " id=\"" ++ id ++ "\">") := by
  intro slug
  have hslug : IsSlugText slug := isSlugText_slugUnder transcribe text
  have hsingle : SingleHyphens slug.toList := singleHyphens_slugUnder transcribe text
  refine ⟨⟨hslug, hsingle.not_infix, ?_⟩, fun text' hcase => ?_, ?_,
    isSlugText_firstFree hslug, funext slugify_eq_slugUnder, fun texts id hid => ?_,
    fun mode events h hmem id hid => ⟨?_, fun w => ?_⟩⟩
  · rw [slugUnder, slugBy_of_form hslug hsingle, String.ofList_toList]
  · rw [slugUnder, slugBy_of_toLower hcase]
    rfl
  · intro before a run b after htext ha hb hne hrun run' hne' hrun'
    show _ = String.ofList (slugBy _ text.toList)
    rw [htext, slugUnder, String.toList_ofList, slugBy_between ha hb hne' hrun',
      slugBy_between ha hb hne hrun]
  · have hchars : IsSlugText id := (free_of_mem_assignSlugs hid).2
    exact ⟨hchars, hchars.replaceAttribute_eq, hchars.escapeAttribute_eq⟩
  · refine ⟨replaceAttribute h.text ++ "</a>", ?_⟩
    simp only [tocEntry, hid, String.append_assoc]
  · rw [hid]
    simp only [HtmlWriter.start, (isSlugText_of_mem hmem hid).escapeAttribute_eq]
    rfl

example : slugify " - A\t-b_!" = "-a-b_" := by decide +kernel

end DocPress.Document
