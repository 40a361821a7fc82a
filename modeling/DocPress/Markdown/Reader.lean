import DocPress.Markdown.Block.Reader
import DocPress.Markdown.Inline.Reader

/-!
# DocPress.Markdown.Reader

From the text of a document to its events. The blocks are read first and all of the text inside them
second, since a definition may stand behind the link that uses it.
-/

namespace DocPress.Markdown

/-- The events of running text. -/
def Prose.events (definitions : List Definition) (p : Prose) : List Event :=
  Inline.eventsAll (p.inlines definitions)

/-- The events of a table cell. -/
def cellEvents (definitions : List Definition) (cell : Prose) : List Event :=
  Event.span .tableCell (cell.events definitions)

/-- The events of a line of an HTML block. -/
def htmlLineEvents : Nat × String → List Event
  | (0, line) => [.html line]
  | (indent, line) => [.text (String.ofList (List.replicate indent ' ')), .html line]

mutual

/-- The events of a block; `tight` says that it stands in an item of a tight list. -/
def Block.events (definitions : List Definition) (tight : Bool) : Block → List Event
  | .paragraph text =>
    if tight then text.events definitions else Event.span .paragraph (text.events definitions)
  | .heading level text => Event.span (.heading level none) (text.events definitions)
  | .quote inner => Event.span .quote (Block.eventsAll definitions false inner)
  | .list first tight items => Event.span (.list first) (Block.itemEvents definitions tight items)
  | .code info lines => Event.span (.codeBlock info) (lines.map .text)
  | .html lines => Event.span .htmlBlock (lines.flatMap htmlLineEvents)
  | .table columns head rows =>
    Event.span (.table columns)
      (Event.span .tableHead (head.flatMap (cellEvents definitions)) ++
        rows.flatMap fun row => Event.span .tableRow (row.flatMap (cellEvents definitions)))
  | .rule => [.rule]

/-- The events of blocks one below the other. -/
def Block.eventsAll (definitions : List Definition) (tight : Bool) : List Block → List Event
  | [] => []
  | block :: rest => block.events definitions tight ++ Block.eventsAll definitions tight rest

/-- The events of the items of a list. -/
def Block.itemEvents (definitions : List Definition) (tight : Bool) :
    List (List Block) → List Event
  | [] => []
  | item :: rest =>
    Event.span .item (Block.eventsAll definitions tight item) ++
      Block.itemEvents definitions tight rest

end

/-- The events of a document. -/
def readEvents (text : String) : List Event :=
  let (blocks, definitions) := readBlocks text.toList
  Block.eventsAll definitions false blocks

end DocPress.Markdown
