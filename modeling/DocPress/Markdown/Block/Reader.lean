import DocPress.Markdown.Block.Leaf

/-!
# DocPress.Markdown.Block.Reader

Reading the blocks of a document line by line, with a stack of the blocks that are still open.

1. A line closes every open block whose marker it lacks, from the outermost such block inwards.
2. Then it opens as many new quotes and items as it has markers for.
3. What is left is blank, or begins a block that holds text.
4. A list stays open after its last item, until something other than an item with the same sign
   follows. It is loose if a blank line stands between two of its items or between two blocks of one
   item.
5. An item that begins with a blank line ends if a second one follows.
-/

namespace DocPress.Markdown

open DocPress.Text

/-! ## Open blocks -/

/-- A list that is being read: its items so far, last one first. -/
structure OpenList where
  sign : ItemSign
  tight : Bool
  items : List (List Block)

/-- The list as a block. -/
def OpenList.toBlock (l : OpenList) : Block :=
  .list (if l.sign.isNumbered then some l.sign.number else none) l.tight l.items.reverse

/-- A block that is open, with the blocks in it so far, last one first. -/
inductive Frame where
  | quote (inside : List Block)
  /-- An item, with the list it belongs to. -/
  | item (list : OpenList) (indent : Nat) (inside : List Block)

/-- What the lines of an open block begin with. -/
def Frame.marker : Frame → Marker
  | .quote _ => .quote
  | .item _ indent _ => .item indent

/-- The state of reading between two lines. -/
structure Reader where
  /-- The open blocks, innermost first. -/
  frames : List Frame
  /-- A list inside them whose last item has ended. -/
  between : Option OpenList
  /-- The blocks of the document that are complete, last one first. -/
  blocks : List Block
  /-- The definitions so far, last one first. -/
  definitions : List Definition
  /-- The last line was blank. -/
  blankBefore : Bool
  /-- The innermost item has begun with a blank line. -/
  emptyItem : Bool

namespace Reader

/-- Nothing has been read. -/
def empty : Reader :=
  ⟨[], none, [], [], false, false⟩

/-- The markers of the open blocks, outermost first. -/
def markers (r : Reader) : List Marker :=
  r.frames.reverse.map Frame.marker

/-- Adds a complete block inside the innermost open one. -/
def add (b : Block) (r : Reader) : Reader :=
  match r.frames with
  | [] => { r with blocks := b :: r.blocks }
  | .quote inside :: frames => { r with frames := .quote (b :: inside) :: frames }
  | .item list indent inside :: frames =>
    { r with frames := .item list indent (b :: inside) :: frames }

/-! ## Closing -/

/-- Closes the list whose last item has ended. -/
def closeList (r : Reader) : Reader :=
  match r.between with
  | none => r
  | some l =>
    let r := { r with between := none, emptyItem := r.emptyItem && !l.tight }
    r.add l.toBlock

/-- Closes the innermost open block. The list of an item stays open. -/
def closeFrame (r : Reader) : Reader :=
  let r := r.closeList
  match r.frames with
  | [] => r
  | .quote inside :: frames => { r with frames := frames }.add (.quote inside.reverse)
  | .item list _ inside :: frames =>
    { r with frames := frames, between := some { list with items := inside.reverse :: list.items } }

/-- Closes so many of the innermost open blocks. -/
def closeFrames : Nat → Reader → Reader
  | 0, r => r
  | n + 1, r => closeFrames n r.closeFrame

/-- Closes an item that has begun with a blank line, if a second one has followed. -/
def closeEmptyItem (r : Reader) : Reader :=
  let r' := match r.between, r.frames with
    | none, .item .. :: _ => if r.emptyItem && r.blankBefore then r.closeFrame else r
    | _, _ => r
  { r' with emptyItem := false }

/-- Makes the list of the innermost item loose, if a blank line stands before this block. -/
def loosen (r : Reader) : Reader :=
  if r.blankBefore then
    match r.frames with
    | .item list indent inside :: frames =>
      { r with frames := .item { list with tight := false } indent inside :: frames,
               blankBefore := false }
    | _ => { r with blankBefore := false }
  else r

/-- Makes ready for a block that is no item: closes the list before it. -/
def finishList (r : Reader) : Reader :=
  r.closeEmptyItem.closeList.loosen

/-! ## Opening -/

/-- Opens an item. It belongs to the list before it, if that has the same sign. -/
def openItem (sign : ItemSign) (indent : Nat) (r : Reader) : Reader :=
  let r := r.closeEmptyItem
  match r.between with
  | some list =>
    if list.sign.sign == sign.sign then
      { r with frames := .item { list with tight := list.tight && !r.blankBefore } indent [] ::
                 r.frames,
               between := none, blankBefore := false }
    else beginList r.finishList
  | none => beginList r.finishList
where
  /-- Begins a list with this item. -/
  beginList (r : Reader) : Reader :=
    { r with frames := .item ⟨sign, true, []⟩ indent [] :: r.frames, blankBefore := false }

/-- Opens the quotes and items whose markers stand at the cursor. Gives the place behind them, or
the text after the line if that ended with the marker of an empty item. The first argument bounds
the number of markers. -/
def openFrames : Nat → Reader → Cursor → Reader × (Cursor ⊕ List Char)
  | 0, r, c => (r, .inl c)
  | fuel + 1, r, c =>
    let (indent, behind) := c.skipUpTo 4
    if indent == 4 then (r, .inl c)
    else
      match itemMarker? indent behind with
      | some (sign, indent, after) =>
        let r := r.openItem sign indent
        match blankLine? after.rest with
        | some rest => ({ r with emptyItem := true }, .inr rest)
        | none => openFrames fuel r after
      | none =>
        match behind.quoteSign? with
        | some after =>
          let r := r.finishList
          openFrames fuel { r with frames := .quote [] :: r.frames } after
        | none => (r, .inl c)

/-! ## Lines -/

/-- Takes note of a blank line. In an item that has begun with a blank line nothing more can stand
after it, except further items. -/
def passBlank (r : Reader) : Reader :=
  match r.between, r.frames with
  | none, .quote _ :: _ => r
  | none, .item list _ inside :: frames =>
    if r.emptyItem then { r with frames := .item list 0 inside :: frames, blankBefore := true }
    else { r with blankBefore := true }
  | _, _ => { r with blankBefore := true }

/-- Reads definitions and the paragraph after them. After a definition the paragraph goes on as it
would after a line of its text, so that its next line may lack markers. The first argument bounds
the number of definitions. -/
def readParagraph (markers : List Marker) : Nat → Reader → List Char → Reader × List Char
  | 0, r, text => (r, text)
  | fuel + 1, r, text =>
    match definition? markers text with
    | none =>
      let (block, rest) := paragraph markers text
      (r.add block, rest)
    | some (definition, rest) =>
      let r := { r with definitions := definition :: r.definitions }
      let (n, c) := passMarkers markers (.ofLine rest)
      let (columns, c) := c.skipUpTo 4
      let next := c.skipAll
      if (columns < 4 && interruptsParagraph markers (n == markers.length) c.rest) ||
          next.atLineEnd then (r, rest)
      else readParagraph markers fuel r next.rest

/-- Reads a block that holds text, and gives the text after it. -/
def readLeaf (r : Reader) (c : Cursor) : Reader × List Char :=
  let r := r.finishList
  let markers := r.markers
  let (indent, behind) := c.skipUpTo 4
  if indent == 4 then
    let (block, blank, rest) := indentedCode markers behind
    ({ r.add block with blankBefore := blank }, rest)
  else
    let text := behind.rest
    match htmlBlock? markers indent text with
    | some (block, rest) => (r.add block, rest)
    | none =>
    match thematicBreak? text with
    | some rest => (r.add .rule, rest)
    | none =>
    match headingLine? markers text with
    | some (block, rest) => (r.add block, rest)
    | none =>
    match fence? text with
    | some (sign, length, behind) =>
      let (block, rest) := fencedCode markers indent sign length behind
      (r.add block, rest)
    | none => readParagraph markers (text.length + 1) r text

/-- Reads one line, and the lines after it that belong to the same block; gives the text after
them. -/
def readBlock (r : Reader) (text : List Char) : Reader × List Char :=
  let (n, c) := passMarkers r.markers (.ofLine text)
  let r := r.closeFrames (r.frames.length - n)
  match openFrames (text.length + 1) r c with
  | (r, .inr rest) => (r, rest)
  | (r, .inl c) =>
    match blankLine? c.rest with
    | some rest => (r.passBlank, rest)
    | none => r.readLeaf c

/-- Reads all blocks of a text. The first argument bounds their number. -/
def readBlocks : Nat → Reader → List Char → Reader
  | 0, r, _ => r
  | _ + 1, r, [] => r
  | fuel + 1, r, text =>
    let (r, rest) := r.readBlock text
    readBlocks fuel r rest

end Reader

/-- The blocks of a text, and the definitions in it, first one first. -/
def readBlocks (text : List Char) : List Block × List Definition :=
  let r := Reader.readBlocks (text.length + 1) .empty text
  let r := (r.closeFrames r.frames.length).closeList
  (r.blocks.reverse, r.definitions.reverse)

end DocPress.Markdown
