import DocPress.Text.Escape
import DocPress.Page.Layout

/-!
# DocPress.Page.Template

The document around a body: a head with title and style sheet.

Renderers take the geometry of the page in one of two ways, and never in both: from their own
options, or from an `@page` rule of the style sheet. The documents for the two differ in that rule
alone.
-/

namespace DocPress.Page

open DocPress.Text

/-- Where a renderer takes the geometry of the page from. -/
inductive Flavor where
  | options
  | css
  deriving Repr, DecidableEq

/-- The style of the body. -/
def bodyCss : String :=
  "        body \x7b\n            font-family: Arial, sans-serif;\n            line-height: 1.6;\n" ++
  "        \x7d\n"

/-- The style of all else. -/
def sharedCss : String :=
  "        h1, h2, h3 \x7b\n            color: #333;\n        \x7d\n" ++
  "        code \x7b\n            background-color: #f4f4f4;\n            padding: 2px 4px;\n" ++
  "            border-radius: 3px;\n        \x7d\n" ++
  "        pre \x7b\n            background-color: #f4f4f4;\n            padding: 10px;\n" ++
  "            border-radius: 5px;\n            overflow-x: auto;\n        \x7d\n" ++
  "        pre code \x7b\n            padding: 0;\n            background-color: transparent;\n" ++
  "        \x7d\n" ++
  "        table \x7b\n            border-collapse: collapse;\n            width: 100%;\n" ++
  "        \x7d\n" ++
  "        th, td \x7b\n            border: 1px solid #ddd;\n            padding: 8px;\n" ++
  "            text-align: left;\n        \x7d\n" ++
  "        th \x7b\n            background-color: #f2f2f2;\n        \x7d\n" ++
  "        .toc ul \x7b\n            list-style: none;\n            padding-left: 1.2em;\n" ++
  "        \x7d\n"

/-- The rule that carries the geometry of the page. -/
def pageRule (layout : Layout) : String :=
  "        @page \x7b\n            size: " ++ layout.pageSize.name ++
    ";\n            margin: " ++ layout.margins.toCss ++ ";\n        \x7d\n"

/-- The rules of a flavor for the page. -/
def pageCss : Flavor → Layout → String
  | .options, _ => bodyCss
  | .css, layout => pageRule layout ++ bodyCss

/-- The document up to its style sheet. -/
def documentHead (encoding : String) (title : Option String) : String :=
  "<!DOCTYPE html>\n<html>\n<head>\n    <meta charset=\"" ++ encoding ++ "\">\n    <title>" ++
    replaceBody (title.getD "") ++ "</title>\n    <style>\n"

/-- The document from the style of all else on. -/
def documentTail (body : String) : String :=
  sharedCss ++ "    </style>\n</head>\n<body>\n" ++ body ++ "</body>\n</html>\n"

/-- The whole document around a body. -/
def wrapDocument (body : String) (flavor : Flavor) (layout : Layout) (title : Option String) :
    String :=
  documentHead layout.encoding title ++ pageCss flavor layout ++ documentTail body

end DocPress.Page
