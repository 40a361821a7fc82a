import DocPress.Page.Template
import DocPress.Text.Lowercase

/-!
# DocPress.Backend.Renderer

The two programs that turn HTML into PDF, and how they are called. One takes the geometry of the
page as options, the other finds it in the style sheet.
-/

namespace DocPress.Backend

open DocPress.Page DocPress.Text

/-- A program that turns HTML into PDF. -/
inductive Renderer where
  | wkhtmltopdf
  | weasyPrint
  deriving Repr, DecidableEq

namespace Renderer

/-- The name of the program. -/
def name : Renderer → String
  | .wkhtmltopdf => "wkhtmltopdf"
  | .weasyPrint => "weasyprint"

/-- The variable that may say where the program is. -/
def variableName : Renderer → String
  | .wkhtmltopdf => "WKHTMLTOPDF_PATH"
  | .weasyPrint => "WEASYPRINT_PATH"

/-- Where the program takes the geometry of the page from. -/
def flavor : Renderer → Flavor
  | .wkhtmltopdf => .options
  | .weasyPrint => .css

/-- How to install the program. -/
def installHint : Renderer → String
  | .wkhtmltopdf =>
    "wkhtmltopdf: https://wkhtmltopdf.org/downloads.html\n" ++
      "  Debian/Ubuntu: sudo apt install wkhtmltopdf\n" ++
      "  macOS:         brew install --cask wkhtmltopdf\n" ++
      "  Windows:       installer from the link above " ++
      "(adds C:\\Program Files\\wkhtmltopdf\\bin)\n" ++
      "  Or set WKHTMLTOPDF_PATH=/path/to/wkhtmltopdf"
  | .weasyPrint =>
    "pip install weasyprint\n" ++
      "  System libraries (Pango) are also required:\n" ++
      "  https://doc.courtbouillon.org/weasyprint/stable/first_steps.html\n" ++
      "  Or set WEASYPRINT_PATH=/path/to/weasyprint"

/-- The arguments with which the program is called. -/
def arguments : Renderer → Layout → String → String → List String
  | .wkhtmltopdf, layout, input, output =>
    ["--quiet", "--page-size", layout.pageSize.name,
     "--margin-top", layout.margins.top, "--margin-right", layout.margins.right,
     "--margin-bottom", layout.margins.bottom, "--margin-left", layout.margins.left,
     "--encoding", layout.encoding, if layout.outline then "--outline" else "--no-outline",
     "--enable-local-file-access", input, output]
  | .weasyPrint, layout, input, output =>
    ["--encoding", lowercase layout.encoding, input, output]

end Renderer

end DocPress.Backend
