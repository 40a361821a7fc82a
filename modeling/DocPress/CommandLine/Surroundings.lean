import DocPress.CommandLine.Run
import DocPress.Shell.Run

/-!
# DocPress.CommandLine.Surroundings

What the command has to know of the machine that it runs on: the variables that count, and the
locations at which something may stand that counts. All else is the same to it.
-/

namespace DocPress.CommandLine

open DocPress.Backend DocPress.FileSystem DocPress.Program

/-! ## Variables -/

/-- The renderers. -/
def renderers : List Renderer :=
  [.wkhtmltopdf, .weasyPrint]

/-- The names of the variables that count. -/
def relevantVariables : List String :=
  ["PATH", "HOME", "TMPDIR"] ++ renderers.map (·.variableName) ++
    optionSpecs.filterMap (·.variableName?)

/-! ## Locations -/

/-- The paths at which a renderer may be. -/
def rendererPaths (env : Environment) (r : Renderer) : List String :=
  let directories :=
    Tool.searchDirectories ((env.lookup "PATH").getD "") ++ r.fallbackDirs env
  (nonEmptyValue? env r.variableName).toList ++
    directories.map (joinPath · (Tool.executableName r.name))

/-- The paths that count for an invocation. -/
def relevantPaths (env : Environment) (i : Invocation) : List String :=
  [i.input, i.outputPath] ++ i.emitHtml.toList ++ renderers.flatMap (rendererPaths env) ++
    [temporaryDirectory env]

/-- The location that a path stands for as long as no links are on the way. -/
def lexicalLocation (current : Location) (path : String) : Location :=
  (segments path).foldl
    (fun l segment =>
      if segment = "." then l else if segment = ".." then l.dropLast else l ++ [segment])
    (if isAbsolute path then [] else current)

/-- A location and those above it, the highest one first. -/
def withParents (l : Location) : List Location :=
  (List.range l.length).map fun n => l.take (n + 1)

/-- The locations that count for an invocation, those above others first. -/
def relevantLocations (env : Environment) (current : Location) (i : Invocation) : List Location :=
  ((current :: (relevantPaths env i).map (lexicalLocation current)).flatMap withParents).eraseDups

/-! ## Files -/

/-- A file that can be run: a script or a binary. -/
def isProgramFile (content : Text.Bytes) : Bool :=
  [35, 33].isPrefixOf content || Shell.binaryMark.isPrefixOf content

/-- Files made of what has been found at locations. -/
def surroundings (current : Location) (found : List (Location × Entry)) : Files :=
  ⟨found ++ Shell.standardEntries, current⟩

/-- What has to be done on disk so that it holds the files of a later state: the locations at which
nothing stands any more, and the entries that are new or have changed. -/
def differences (before after : Files) : List Location × List (Location × Entry) :=
  ((before.entries.map (·.1)).filter (after.get? · |>.isNone),
   after.entries.filter fun (l, entry) => before.get? l != some entry)

end DocPress.CommandLine
