import DocPress.CommandLine.Arguments
import DocPress.Conversion.Format
import DocPress.Conversion.Run

/-!
# DocPress.CommandLine.Run

What the command does. It ends with 0 if there is a document, or if it was only asked whether there
could be one and the answer is yes; with 2 if its arguments are not understood, and then it prints
nothing; else with 1. Asked for JSON, it prints one JSON value in any case.

The text on how the command is used is left out. Its layout is not laid down here, and nothing else
depends on it: an outcome for `--help` stands for one that prints it.
-/

namespace DocPress.CommandLine

open DocPress.Backend DocPress.Conversion DocPress.Document DocPress.FileSystem DocPress.Page
open DocPress.Program

/-! ## Invocations -/

/-- What the command is told. -/
structure Invocation where
  input : String
  output : Option String
  choice : BackendChoice
  pageSize : PageSize
  margin : String
  anchors : AnchorMode
  title : Option String
  emitHtml : Option String
  outline : Bool
  /-- Only tell what is installed. -/
  check : Bool
  json : Bool
  quiet : Bool
  deriving Repr, DecidableEq

/-- The choice of backends under a name. -/
def choiceNamed : String → BackendChoice
  | "wkhtmltopdf" => .only .wkhtmltopdf
  | "weasyprint" => .only .weasyPrint
  | _ => .auto

/-- The paper size under a name. -/
def pageSizeNamed (name : String) : PageSize :=
  (PageSize.all.find? fun size => asciiLower size.name == name).getD .a4

/-- The anchor mode under a name. -/
def anchorsNamed (name : String) : AnchorMode :=
  (AnchorMode.all.find? fun mode => asciiLower mode.name == name).getD .auto

/-- What the command is told by its arguments and variables. -/
def Invocation.read (env : Environment) (arguments : List String) : Except Refusal Invocation := do
  let given ← readArguments env arguments
  let isSet (key : Key) : Bool := given.lookup key == some "true"
  .ok {
    input := (given.lookup .input).getD defaultInput
    output := given.lookup .output
    choice := choiceNamed ((given.lookup .backend).getD "")
    pageSize := pageSizeNamed ((given.lookup .pageSize).getD "")
    margin := (given.lookup .margin).getD defaultMargin
    anchors := anchorsNamed ((given.lookup .anchors).getD "")
    title := given.lookup .title
    emitHtml := given.lookup .emitHtml
    outline := isSet .outline
    check := isSet .check
    json := isSet .json
    quiet := isSet .quiet }

namespace Invocation

/-- Where the document goes. -/
def outputPath (i : Invocation) : String :=
  i.output.getD (defaultOutput i.input)

/-- The user is told how it goes. -/
def showsProgress (i : Invocation) : Bool :=
  !i.quiet && !i.json

/-- The settings that an invocation stands for. -/
def settings (i : Invocation) : List Config.Setting :=
  [.choice i.choice, .pageSize i.pageSize, .margin i.margin, .anchors i.anchors,
   .outline i.outline] ++
    (i.title.map Config.Setting.title).toList ++
    (i.emitHtml.map Config.Setting.emitHtml).toList ++
    (if i.showsProgress then [.observer .silent] else [])

end Invocation

/-! ## Texts -/

/-- A text in a style of the terminal. -/
def styled (code text : String) : String :=
  "\x1b[" ++ code ++ "m" ++ text ++ "\x1b[0m"

/-- The mark of what is well. -/
def goodMark : String := styled "32" "✓"

/-- The mark of what is not. -/
def badMark : String := styled "31" "✗"

/-- A text in bold. -/
def bold (text : String) : String := styled "1" text

/-- A text that is not to stand out. -/
def dim (text : String) : String := styled "2" text

/-- A text with spaces behind it, up to a width. -/
def padEnd (width : Nat) (text : String) : String :=
  text ++ String.ofList (List.replicate (width - text.length) ' ')

/-- What is missing, and how to install it. -/
def missingText (missing : List String) (guidance : String) : String :=
  badMark ++ " Missing dependencies: " ++ " or ".intercalate missing ++ "\n\n" ++ guidance

/-- An error with the error behind it. -/
def failureText (f : Failure) : String :=
  match f.cause? with
  | some cause => f.message ++ ": " ++ cause.message
  | none => f.message

/-- An error in the form that was asked for. -/
def errorText (json : Bool) (text : String) : String :=
  if json then
    String.ofList (Json.Value.object [("error", .string text)]).compact ++ "\n"
  else badMark ++ " " ++ text ++ "\n"

/-- What is printed before a conversion. -/
def startText (i : Invocation) : String :=
  if i.showsProgress then
    bold "Markdown to PDF Converter" ++ "\n" ++ String.ofList (List.replicate 50 '=') ++
      "\nInput:  " ++ i.input ++ "\nOutput: " ++ i.outputPath ++ "\n\nConverting to PDF…\n"
  else ""

/-- What is printed after a conversion that gave a document. -/
def successText (i : Invocation) (r : ConversionReport) : String :=
  if i.json then Format.report.pretty r ++ "\n"
  else if i.quiet then ""
  else
    goodMark ++ " PDF generated successfully using " ++ bold r.backend ++ "!\nLocation: " ++
      r.output ++ "\n" ++
      dim (toString r.pdfBytes ++ " bytes in " ++ toString r.durationMs ++ "ms") ++ "\n"

/-- What is printed after a conversion that gave none. -/
def failedText (i : Invocation) (f : Failure) : String :=
  match i.json, f with
  | false, .missingCapability missing guidance => missingText missing guidance
  | _, _ => errorText i.json ("Conversion failed: " ++ failureText f)

/-! ## Capabilities -/

/-- The line on one capability. A program is asked for its version. -/
def statusLine (m : Machine) (status : CapabilityStatus) : StateM Files String := do
  let detail ← match status.location, status.detail with
    | some location, _ =>
      match ← (Tool.version m location).run with
      | .ok version => pure (location ++ "  " ++ dim version)
      | .error _ => pure location
    | none, some detail => pure (dim detail)
    | none, none => pure ""
  let mark := if status.available then goodMark else badMark
  return "  " ++ mark ++ " " ++ padEnd 12 status.name ++ " " ++ detail ++ "\n"

/-- The report on capabilities for a reader. -/
def capabilitiesText (m : Machine) (r : CapabilityReport) : StateM Files String := do
  let lines ← (r.markdown :: r.backends).mapM (statusLine m)
  let verdict :=
    if r.isViable then goodMark ++ " Ready to convert.\n"
    else missingText r.missing r.installGuidance
  return bold "Capabilities" ++ "\n" ++ String.join lines ++ "\n" ++ verdict

/-! ## Running -/

/-- What the command leaves behind, besides the files that it has changed. -/
structure Outcome where
  code : Nat
  stdout : String
  deriving Repr, DecidableEq

/-- The code at the end. -/
def codeOf (good : Bool) : Nat :=
  if good then 0 else 1

/-- Tells what is installed. -/
def runCheck (m : Machine) (i : Invocation) (config : Config) : StateM Files Outcome := do
  let report := checkCapabilities m config (← get)
  let text ←
    if i.json then pure (Format.capabilities.pretty report ++ "\n")
    else capabilitiesText m report
  return ⟨codeOf report.isViable, text⟩

/-- Converts a document. -/
def runConversion (m : Machine) (i : Invocation) (config : Config) : StateM Files Outcome := do
  let (answer, progress) :=
    (convert m config i.input i.outputPath).run.run ⟨← get, [], []⟩
  set progress.files
  match answer with
  | .ok report => return ⟨codeOf true, startText i ++ successText i report⟩
  | .error failure => return ⟨codeOf false, startText i ++ failedText i failure⟩

/-- Does what an invocation asks for. -/
def runInvocation (m : Machine) (i : Invocation) : StateM Files Outcome :=
  match Config.ofSettings i.settings with
  | .error failure =>
    return ⟨codeOf false, errorText i.json ("Invalid configuration: " ++ failureText failure)⟩
  | .ok config => if i.check then runCheck m i config else runConversion m i config

/-- The version of the program. -/
def versionText : String :=
  "md2pdf 0.1.0\n"

/-- Runs the command. Asked how it is used, it ends well; the text that it prints then is left
out. -/
def runCommand (m : Machine) (arguments : List String) : StateM Files Outcome :=
  match Invocation.read m.environment arguments with
  | .error .misuse => return ⟨2, ""⟩
  | .error .version => return ⟨0, versionText⟩
  | .error .help => return ⟨0, ""⟩
  | .ok i => runInvocation m i

end DocPress.CommandLine
