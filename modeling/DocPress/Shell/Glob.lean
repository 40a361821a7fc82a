import DocPress.FileSystem.Basic

/-!
# DocPress.Shell.Glob

Patterns: `*` stands for any text, `?` for any character, and brackets for one of the characters in
them. A character of a pattern that is quoted stands for itself.
-/

namespace DocPress.Shell

/-- Characters, each with whether it is quoted. -/
abbrev Marked := List (Char × Bool)

/-- The set in brackets at the start of a pattern, behind the opening one: whether it is the
complement that counts, its ranges, and the pattern behind it. -/
def bracketSet? (pattern : Marked) : Option (Bool × List (Char × Char) × Marked) :=
  let (negated, inside) := match pattern with
    | ('!', false) :: rest => (true, rest)
    | _ => (false, pattern)
  (ranges inside.length true inside).map fun (found, rest) => (negated, found, rest)
where
  /-- The ranges up to the closing bracket, which does not close as the first character. -/
  ranges : Nat → Bool → Marked → Option (List (Char × Char) × Marked)
    | 0, _, _ => none
    | _, _, [] => none
    | fuel + 1, first, (c, quoted) :: rest =>
      if c = ']' && !quoted && !first then some ([], rest)
      else
        match rest with
        | ('-', false) :: (d, _) :: behind =>
          if d = ']' then (ranges fuel false rest).map fun (found, rest) => ((c, c) :: found, rest)
          else (ranges fuel false behind).map fun (found, rest) => ((c, d) :: found, rest)
        | _ => (ranges fuel false rest).map fun (found, rest) => ((c, c) :: found, rest)

/-- The text fits the pattern; the first argument bounds the length of both together. -/
def fitsFrom : Nat → Marked → List Char → Bool
  | 0, _, _ => false
  | _, [], text => text.isEmpty
  | fuel + 1, ('*', false) :: pattern, text =>
    fitsFrom fuel pattern text ||
      match text with
      | [] => false
      | _ :: rest => fitsFrom fuel (('*', false) :: pattern) rest
  | fuel + 1, (p, quoted) :: pattern, text =>
    match text with
    | [] => false
    | c :: rest =>
      if p = '?' && !quoted then fitsFrom fuel pattern rest
      else
        match if p = '[' && !quoted then bracketSet? pattern else none with
        | some (negated, ranges, behind) =>
          (ranges.any fun (low, high) => low ≤ c && c ≤ high) != negated &&
            fitsFrom fuel behind rest
        | none => p = c && fitsFrom fuel pattern rest

/-- The text fits the pattern. -/
def fits (pattern : Marked) (text : String) : Bool :=
  fitsFrom (pattern.length + text.length + 1) pattern text.toList

/-! ## Ends of texts -/

/-- What is left of a text without an end that fits the pattern: the longest or the shortest one. -/
def cutEnd (longest : Bool) (pattern : Marked) (text : String) : String :=
  let lengths := List.range (text.length + 1)
  let kept := (if longest then lengths else lengths.reverse).find? fun n =>
    fits pattern (text.drop n).toString
  ((kept.map fun n => (text.take n).toString).getD text)

/-- What is left of a text without a start that fits the pattern. -/
def cutStart (longest : Bool) (pattern : Marked) (text : String) : String :=
  let lengths := List.range (text.length + 1)
  let cut := (if longest then lengths.reverse else lengths).find? fun n =>
    fits pattern (text.take n).toString
  ((cut.map fun n => (text.drop n).toString).getD text)

/-! ## Paths -/

open DocPress.FileSystem

/-- The pattern stands for something besides itself. -/
def isPattern (field : Marked) : Bool :=
  field.any fun (c, quoted) => !quoted && (c = '*' || c = '?' || c = '[')

/-- The segments of a pattern for paths. -/
def patternSegments (field : Marked) : List Marked :=
  field.foldr
    (fun entry segments =>
      match segments with
      | [] => if entry.1 = '/' then [[], []] else [[entry]]
      | first :: rest => if entry.1 = '/' then [] :: segments else (entry :: first) :: rest)
    [[]]

/-- The names of the entries of a directory that fit a pattern, in order. A name that begins with a
dot has to be called by its dot. -/
def fittingNames (fs : Files) (directory : Location) (pattern : Marked) : List String :=
  let names := fs.entries.filterMap fun (l, _) =>
    if l.dropLast = directory then l.getLast? else none
  let dotted := (pattern.head?.map (·.1)) == some '.'
  (names.filter fun name => fits pattern name && (dotted || !name.startsWith ".")).mergeSort
    (fun a b => decide (a ≤ b))

/-- The paths that fit the segments of a pattern, behind the start of a path. -/
def fittingPaths (fs : Files) : String → List Marked → List String
  | start, [] => [start]
  | start, segment :: rest =>
    let separator := if rest.isEmpty then "" else "/"
    if !isPattern segment then
      let path := start ++ String.ofList (segment.map (·.1))
      if path.isEmpty || fs.pathExists path || !rest.isEmpty then
        fittingPaths fs (path ++ separator) rest
      else []
    else
      match fs.resolve (if start.isEmpty then "." else start) with
      | .error _ => []
      | .ok directory =>
        (fittingNames fs directory segment).flatMap fun name =>
          if rest.isEmpty || fs.isDirectory (start ++ name) then
            fittingPaths fs (start ++ name ++ separator) rest
          else []

/-- The paths that a field stands for: those that fit it, or else its own text. -/
def pathsOf (fs : Files) (field : Marked) : List String :=
  let text := String.ofList (field.map (·.1))
  if !isPattern field then [text]
  else
    match fittingPaths fs "" (patternSegments field) with
    | [] => [text]
    | paths => paths

end DocPress.Shell
