import DocPress.Text.Blank
import DocPress.Text.AsciiFold
import DocPress.Text.CodeRange

/-!
# DocPress.Document.Slug

Names for headings that can stand in an address.

1. A slug holds small ASCII letters, digits, `_` and `-`. Letters lose their accents, other
   characters are left out, and each run of blanks and hyphens becomes one hyphen.
2. A slug that is taken gets a counter, `_1`. A counter that is there already counts on, as long as
   it fits 64 bits.
-/

namespace DocPress.Document

open DocPress.Text

/-! ## Slugs -/

/-- An ASCII letter, a digit or an underscore. -/
def isWordChar (c : Char) : Bool :=
  c.isAlphanum || c == '_'

/-- A character that separates words. -/
def isSeparator (c : Char) : Bool :=
  c == '-' || isAsciiBlank c

/-- Writes one hyphen for each run of separators; `inRun` says that the run has its hyphen. -/
def joinWords (inRun : Bool) : List Char → List Char
  | [] => []
  | c :: rest =>
    if isSeparator c then if inRun then joinWords true rest else '-' :: joinWords true rest
    else c :: joinWords false rest

/-- The slug of a text under a given reading of the characters beyond ASCII. -/
def slugBy (reading : Char → Option Char) (text : List Char) : List Char :=
  let lowered := (foldAsciiBy reading text).map Char.toLower
  let cleaned := lowered.filter fun c => isWordChar c || isSeparator c
  joinWords false (trimChars cleaned)

/-- The slug of a text. -/
def slugify (text : String) : String :=
  String.ofList (slugBy asciiReading? text.toList)

/-! ## Counters -/

/-- Counters fit 64 bits. -/
def counterBound : Nat :=
  1 <<< 64

/-- A slug that ends with a counter: what stands before the last underscore, and the value of the
digits behind it. -/
def splitCounter? (slug : List Char) : Option (List Char × Nat) :=
  let digits := (slug.reverse.takeWhile Char.isDigit).reverse
  match (slug.reverse.dropWhile Char.isDigit) with
  | '_' :: base => if digits.isEmpty then none else some (base.reverse, digitsValue digits)
  | _ => none

/-- The next slug to try: the counter goes up by one, or begins at one if there is none or it would
not fit any more. -/
def bump (slug : String) : String :=
  match splitCounter? slug.toList with
  | some (base, n) =>
    if n + 1 < counterBound then String.ofList base ++ "_" ++ toString (n + 1) else slug ++ "_1"
  | none => slug ++ "_1"

/-- The first slug that is neither empty nor used, bumping at most so many times. -/
def firstFree (used : List String) : Nat → String → String
  | 0, slug => slug
  | n + 1, slug =>
    if slug.isEmpty || used.contains slug then firstFree used n (bump slug) else slug

/-- A slug for the text that is not used yet. No slug is tried twice, so one more try than there are
used slugs, and one for the empty slug, are enough. -/
def uniqueSlug (used : List String) (text : String) : String :=
  firstFree used (used.length + 1) (slugify text)

/-- Slugs for texts one after the other, all different. -/
def assignSlugs (used : List String) : List String → List String
  | [] => []
  | text :: rest =>
    let slug := uniqueSlug used text
    slug :: assignSlugs (slug :: used) rest

end DocPress.Document
