import DocPress.Backend.Basic
import DocPress.Backend.Renderer
import DocPress.FileSystem.Temporary
import DocPress.Text.Utf8
import DocPress.Tool.Locate

/-!
# DocPress.Backend.Program

Backends that are programs. The document is written to a temporary file, the program is called with
the paths of that file and of the output, and the temporary file is removed whatever comes of it.
-/

namespace DocPress.Backend

open DocPress.FileSystem DocPress.Page DocPress.Program DocPress.Text DocPress.Tool

/-! ## Where a renderer is -/

/-- The directories in which a renderer is usually installed. -/
def Renderer.fallbackDirs (r : Renderer) (env : Environment) : List String :=
  let shared := ["/usr/local/bin", "/usr/bin"]
  match r, env.lookup "HOME" with
  | .weasyPrint, some home => shared ++ [joinPath (joinPath home ".local") "bin"]
  | _, _ => shared

/-- A renderer as a tool that may be installed. -/
def Renderer.tool (r : Renderer) (env : Environment) : Tool :=
  ⟨r.name, r.variableName, r.fallbackDirs env⟩

/-- A tool that renders, at a given path or wherever it is found. -/
structure PlacedTool where
  tool : Tool
  path? : Option String
  deriving Repr, DecidableEq

namespace PlacedTool

/-- Where the program is, or why it is nowhere. -/
def locate (p : PlacedTool) (env : Environment) (fs : Files) : Except String String :=
  match p.path? with
  | some path => if fs.isFile path then .ok path else .error ("'" ++ path ++ "' does not exist")
  | none => (p.tool.locate env fs).mapError (·.message)

/-- Whether the program can be used. -/
def probe (p : PlacedTool) (env : Environment) (fs : Files) : Availability :=
  match p.locate env fs with
  | .ok path => .installed (some path)
  | .error reason => .missing reason

end PlacedTool

/-- A renderer, at a given path or wherever it is found. -/
structure RendererProgram where
  renderer : Renderer
  path? : Option String
  deriving Repr, DecidableEq

namespace RendererProgram

/-- A renderer as a tool that has a place. -/
def placed (p : RendererProgram) (env : Environment) : PlacedTool :=
  ⟨p.renderer.tool env, p.path?⟩

/-- Whether the program can be used. -/
def probe (p : RendererProgram) (env : Environment) (fs : Files) : Availability :=
  (p.placed env).probe env fs

end RendererProgram

/-! ## What a renderer has to say -/

/-- The largest number of bytes that are kept of what a program has to say about its failure. -/
def stderrLimit : Nat := 2000

/-- The end of a text, as much as fits so many bytes. -/
def tail (text : String) (limit : Nat) : String :=
  if text.utf8ByteSize ≤ limit then text
  else
    let start : String.Pos.Raw := ⟨text.utf8ByteSize - limit⟩
    (text.sliceFrom (boundaryFrom text start (Nat.sub_le ..))).copy

/-- What is kept of what a program has to say about its failure. -/
def stderrExcerpt (stderr : Bytes) : String :=
  tail (trim (decodeLossy stderr)) stderrLimit

/-! ## Rendering -/

/-- The directory for temporary files. -/
def temporaryDirectory (env : Environment) : String :=
  (env.lookup "TMPDIR").getD "/tmp"

/-- Writes a document to a temporary file, and gives the path of that. -/
def stageHtml (m : Machine) (backend html : String) : Action BackendError String :=
  Action.mapError (fun e => .io backend e.message) do
    let path ← makeTemporary (temporaryDirectory m.environment) "md2pdf-" ".html"
    Action.update (Files.writeFile path (encode html))
    return path

/-- What has come of a program that was to render: it has failed unless it ended well. -/
def judge (backend program : String) : Except IoError Finished → Except BackendError Unit
  | .ok finished =>
    if finished.status.isSuccess then .ok ()
    else .error (.failed backend finished.status.message (stderrExcerpt finished.stderr))
  | .error e => .error (.spawn backend (program ++ ": " ++ e.message))

/-- Runs a program that renders. -/
def runRenderer (m : Machine) (backend program : String) (arguments : List String) :
    Action BackendError Unit :=
  ExceptT.mk do return judge backend program (← (m.spawn program arguments).run)

/-- Renders a document with a program, which is called with arguments that name the temporary file
of the document. -/
def renderWith (m : Machine) (backend program html : String) (arguments : String → List String) :
    Action BackendError Unit := do
  let input ← stageHtml m backend html
  tryFinally (runRenderer m backend program (arguments input)) (discardTemporary input)

/-- Renders a document with the program of a tool. -/
def PlacedTool.render (p : PlacedTool) (m : Machine) (html : String)
    (arguments : String → List String) : Action BackendError Unit := do
  let backend := p.tool.name
  let program ← Action.mapError (.unavailable backend) (Action.ask (p.locate m.environment))
  renderWith m backend program html arguments

/-- Renders a document into the file at a path. -/
def RendererProgram.render (p : RendererProgram) (m : Machine) (html output : String)
    (layout : Layout) : Action BackendError Unit :=
  (p.placed m.environment).render m html fun input => p.renderer.arguments layout input output

/-- A renderer as a backend. -/
def RendererProgram.backend (p : RendererProgram) (m : Machine) : Backend where
  name := p.renderer.name
  flavor := p.renderer.flavor
  installHint := p.renderer.installHint
  probe := p.probe m.environment
  render html output layout := do
    match ← (p.render m html output layout).run with
    | .ok () => return .rendered
    | .error e => return .failed e

/-! ## Choices -/

/-- Which renderers are to be tried. -/
inductive BackendChoice where
  /-- Both, each in its turn. -/
  | auto
  | only (renderer : Renderer)
  deriving Repr, DecidableEq

/-- The name of a choice. -/
def BackendChoice.name : BackendChoice → String
  | .auto => "Auto"
  | .only .wkhtmltopdf => "Wkhtmltopdf"
  | .only .weasyPrint => "WeasyPrint"

/-- All choices. -/
def BackendChoice.all : List BackendChoice :=
  [.auto, .only .wkhtmltopdf, .only .weasyPrint]

/-- The renderers of a choice, in order. -/
def BackendChoice.renderers : BackendChoice → List Renderer
  | .auto => [.wkhtmltopdf, .weasyPrint]
  | .only renderer => [renderer]

/-- The backends of a choice. -/
def Registry.ofChoice (m : Machine) (choice : BackendChoice) : Registry :=
  choice.renderers.map fun renderer => RendererProgram.backend ⟨renderer, none⟩ m

end DocPress.Backend
