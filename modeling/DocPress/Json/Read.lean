import DocPress.Json.Scan

/-!
# DocPress.Json.Read

Readers for values of a known shape. They read from left to right and stop at the first fault, so a
value of another shape may be found out before the text turns out to be no JSON, or the other way
round.

1. A value of the wrong kind is found out at its end if it holds no others, and at its first
   character if it does.
2. A record is an object. It is also the array of its fields in order; then none may be missing.
3. Unknown fields of a record are passed over. A field that stands there twice is found out at its
   name. An optional field that does not stand there is null.
4. What is read is given in one form: records as objects with all fields in order.

Every reader is told how deep it stands.
-/

namespace DocPress.Json

/-- A reader of values; it is told how many arrays and objects are open around it. -/
abbrev Reader := Nat → Scan Value

/-! ## Values of any shape -/

/-- The largest number of arrays and objects that may be open. -/
def maxDepth : Nat := 127

/-- A comma between items, or the end of the items. `first` says that no item has come yet; `close`
is the character that ends them. Gives whether an item follows. -/
def scanNext (close : Char) (first : Bool) : Scan Bool := fun text =>
  match skipGap text with
  | [] => .error .incomplete
  | c :: rest =>
    if c = close then .ok (false, c :: rest)
    else if first then .ok (true, c :: rest)
    else if c = ',' then
      match skipGap rest with
      | [] => .error .incomplete
      | d :: rest => if d = close then .error .malformed else .ok (true, d :: rest)
    else .error .malformed

/-- Reads the name of a field, and the colon behind it. -/
def scanKeyBy (scan : Scan α) : Scan α := fun text => do
  let ((), rest) ← expect '\x22' text
  scan rest

mutual

/-- Passes over a value of any shape; the first argument bounds its length. -/
def skipValueFrom : Nat → Scan Unit
  | 0, _ => .error .incomplete
  | fuel + 1, text =>
    match skipGap text with
    | [] => .error .incomplete
    | '[' :: rest => skipItemsFrom fuel true rest
    | '\x7b' :: rest => skipFieldsFrom fuel true rest
    | '\x22' :: rest => skipString rest
    | '-' :: rest => skipNumber rest
    | c :: rest =>
      if c.isDigit then skipNumber (c :: rest)
      else
        match scanScalar? c rest with
        | some answer => answer.map fun (_, rest) => ((), rest)
        | none => .error .malformed

/-- Passes over the items of an array. -/
def skipItemsFrom : Nat → Bool → Scan Unit
  | 0, _, _ => .error .incomplete
  | fuel + 1, first, text => do
    let (more, rest) ← scanNext ']' first text
    if more then
      let ((), rest) ← skipValueFrom fuel rest
      skipItemsFrom fuel false rest
    else .ok ((), rest.tail)

/-- Passes over the fields of an object. -/
def skipFieldsFrom : Nat → Bool → Scan Unit
  | 0, _, _ => .error .incomplete
  | fuel + 1, first, text => do
    let (more, rest) ← scanNext '\x7d' first text
    if more then
      let ((), rest) ← scanKeyBy skipString rest
      let ((), rest) ← expect ':' rest
      let ((), rest) ← skipValueFrom fuel rest
      skipFieldsFrom fuel false rest
    else .ok ((), rest.tail)

end

/-- Passes over a value of any shape. -/
def skipValue : Scan Unit := fun text =>
  skipValueFrom (2 * text.length + 2) text

mutual

/-- Reads a value of any shape; the first argument bounds its length. -/
def readValueFrom : Nat → Reader
  | 0, _, _ => .error .incomplete
  | fuel + 1, depth, text =>
    match skipGap text with
    | [] => .error .incomplete
    | '[' :: rest =>
      if maxDepth ≤ depth then .error .malformed else readItemsFrom fuel true (depth + 1) [] rest
    | '\x7b' :: rest =>
      if maxDepth ≤ depth then .error .malformed else readFieldsFrom fuel true (depth + 1) [] rest
    | c :: rest => (scanScalar? c rest).getD (.error .malformed)

/-- Reads the items of an array behind those that have been read, the last one first. -/
def readItemsFrom : Nat → Bool → Nat → List Value → Scan Value
  | 0, _, _, _, _ => .error .incomplete
  | fuel + 1, first, depth, read, text => do
    let (more, rest) ← scanNext ']' first text
    if more then
      let (item, rest) ← readValueFrom fuel depth rest
      readItemsFrom fuel false depth (item :: read) rest
    else .ok (.array read.reverse, rest.tail)

/-- Reads the fields of an object behind those that have been read, the last one first. -/
def readFieldsFrom : Nat → Bool → Nat → List (String × Value) → Scan Value
  | 0, _, _, _, _ => .error .incomplete
  | fuel + 1, first, depth, read, text => do
    let (more, rest) ← scanNext '\x7d' first text
    if more then
      let (key, rest) ← scanKeyBy scanString rest
      let ((), rest) ← expect ':' rest
      let (value, rest) ← readValueFrom fuel depth rest
      readFieldsFrom fuel false depth ((key, value) :: read) rest
    else .ok (.object read.reverse, rest.tail)

end

/-- Reads a value of any shape. -/
def readValue : Reader := fun depth text =>
  readValueFrom (2 * text.length + 2) depth text

/-! ## Values without others -/

/-- The fault of a value that begins with a character at which no value of the right kind begins. -/
def mismatch (c : Char) (rest : List Char) : Fault :=
  if c = '[' || c = '\x7b' then .mismatched
  else
    match scanScalar? c rest with
    | some (.ok _) => .mismatched
    | some (.error fault) => fault
    | none => .malformed

/-- Reads a value that holds no others and that is of a given kind. -/
def readScalar (isGood : Value → Bool) : Reader := fun _ text =>
  match skipGap text with
  | [] => .error .incomplete
  | c :: rest =>
    match scanScalar? c rest with
    | some (.ok (value, rest)) => if isGood value then .ok (value, rest) else .error .mismatched
    | some (.error fault) => .error fault
    | none => .error (mismatch c rest)

/-- Reads a string. -/
def readText : Reader :=
  readScalar fun
    | .string _ => true
    | _ => false

/-- Reads a truth value. -/
def readFlag : Reader :=
  readScalar fun
    | .bool _ => true
    | _ => false

/-- Reads a natural number. -/
def readNatural : Reader :=
  readScalar fun
    | .natural _ => true
    | _ => false

/-- Reads a value that may be null. -/
def readOptional (read : Reader) : Reader := fun depth text =>
  match skipGap text with
  | 'n' :: rest => (scanWord ['u', 'l', 'l'] rest).map fun (_, rest) => (.null, rest)
  | text => read depth text

/-! ## Arrays -/

/-- Reads the items of an array behind those that have been read, the last one first; the first
argument bounds their number. -/
def readListFrom (read : Reader) (depth : Nat) : Nat → Bool → List Value → Scan Value
  | 0, _, _, _ => .error .incomplete
  | fuel + 1, first, items, text => do
    let (more, rest) ← scanNext ']' first text
    if more then
      let (item, rest) ← read depth rest
      readListFrom read depth fuel false (item :: items) rest
    else .ok (.array items.reverse, rest.tail)

/-- Reads an array whose items are all of one shape. -/
def readList (read : Reader) : Reader := fun depth text =>
  match skipGap text with
  | [] => .error .incomplete
  | '[' :: rest => readListFrom read (depth + 1) (rest.length + 1) true [] rest
  | c :: rest => .error (mismatch c rest)

/-! ## Records -/

/-- A field of a record. -/
structure Field where
  name : String
  /-- The field may be missing, and is null then. -/
  optional : Bool
  read : Reader

/-- The fields of a record in order, where those that have been read are given. -/
def collectFields (found : List (String × Value)) : List Field → Except Fault (List (String × Value))
  | [] => .ok []
  | f :: rest => do
    let value ←
      match found.lookup f.name with
      | some value => .ok value
      | none => if f.optional then .ok .null else .error .mismatched
    let others ← collectFields found rest
    .ok ((f.name, value) :: others)

/-- Reads the fields of a record from an object; the first argument bounds their number, `found`
holds those that have been read. -/
def readFields (fields : List Field) (depth : Nat) : Nat → Bool → List (String × Value) → Scan Value
  | 0, _, _, _ => .error .incomplete
  | fuel + 1, first, found, text => do
    let (more, rest) ← scanNext '\x7d' first text
    if more then
      let (key, rest) ← scanKeyBy scanString rest
      match fields.find? (·.name == key) with
      | some f =>
        if (found.lookup key).isSome then .error .mismatched
        else
          let ((), rest) ← expect ':' rest
          let (value, rest) ← f.read depth rest
          readFields fields depth fuel false ((key, value) :: found) rest
      | none =>
        let ((), rest) ← expect ':' rest
        let ((), rest) ← skipValue rest
        readFields fields depth fuel false found rest
    else
      let all ← collectFields found fields
      .ok (.object all, rest.tail)

/-- Reads the fields of a record from an array. -/
def readElements (depth : Nat) : Bool → List (String × Value) → List Field → Scan Value
  | _, read, [], text => do
    let ((), rest) ← expect ']' text
    .ok (.object read.reverse, rest)
  | first, read, f :: fields, text => do
    let (more, rest) ← scanNext ']' first text
    if more then
      let (value, rest) ← f.read depth rest
      readElements depth false ((f.name, value) :: read) fields rest
    else .error .mismatched

/-- Reads a record. -/
def readRecord (fields : List Field) : Reader := fun depth text =>
  match skipGap text with
  | [] => .error .incomplete
  | '[' :: rest => readElements (depth + 1) true [] fields rest
  | '\x7b' :: rest => readFields fields (depth + 1) (rest.length + 1) true [] rest
  | c :: rest => .error (mismatch c rest)

/-! ## Choices -/

/-- Reads a string, one of several. -/
def scanNameOf (names : List String) : Scan String := fun text =>
  match skipGap text with
  | '\x22' :: rest => do
    let (name, rest) ← scanString rest
    if names.contains name then .ok (name, rest) else .error .mismatched
  | c :: rest => .error (mismatch c rest)
  | [] => .error .incomplete

/-- Reads a choice of one name among several, each with a content that is read by its own reader. It
is an object with the name and the content as its only field, or the name alone; then `bare` says
whether the content may be absent, and what stands for it. -/
def readChoiceBy (cases : List (String × Reader)) (bare : Option Value)
    (wrap : String → Value → Value) : Reader := fun depth text =>
  let names := cases.map (·.1)
  match skipGap text with
  | [] => .error .incomplete
  | '\x22' :: rest => do
    let (name, rest) ← scanNameOf names ('\x22' :: rest)
    match bare with
    | some content => .ok (wrap name content, rest)
    | none => .error .mismatched
  | '\x7b' :: rest => do
    let (name, rest) ← scanNameOf names rest
    let ((), rest) ← expect ':' rest
    match cases.lookup name with
    | none => .error .mismatched
    | some read =>
      let (content, rest) ← read (depth + 1) rest
      let ((), rest) ← expect '\x7d' rest
      .ok (wrap name content, rest)
  | _ => .error .malformed

/-- Reads a null. -/
def readNull : Reader :=
  readScalar fun
    | .null => true
    | _ => false

/-- Reads a choice of one name among several. -/
def readChoice (names : List String) : Reader :=
  readChoiceBy (names.map fun name => (name, readNull)) (some .null) fun name _ => .string name

/-- Reads a choice of one record among several. -/
def readVariant (cases : List (String × List Field)) : Reader :=
  readChoiceBy (cases.map fun (name, fields) => (name, readRecord fields)) none
    fun name content => .object [(name, content)]

/-! ## Tagged records -/

/-- Makes a value that has been read already into the form that a shape asks for. -/
abbrev Fit := Value → Option Value

/-- A field of a record whose text has been read already. -/
structure FitField where
  name : String
  optional : Bool
  fit : Fit

/-- The fields of a record in order, from the fields of an object: none of them may stand there
twice. -/
def fitFields (given : List (String × Value)) : List FitField → Option (List (String × Value))
  | [] => some []
  | f :: rest => do
    let value ←
      match (given.filter (·.1 == f.name)).map (·.2) with
      | [value] => f.fit value
      | [] => if f.optional then some .null else none
      | _ => none
    let others ← fitFields given rest
    some ((f.name, value) :: others)

/-- The fields of a record in order, from the items of an array. -/
def fitElements : List FitField → List Value → Option (List (String × Value))
  | [], [] => some []
  | f :: fields, item :: items => do
    let value ← f.fit item
    let others ← fitElements fields items
    some ((f.name, value) :: others)
  | _, _ => none

/-- Fits a record. -/
def fitRecord (fields : List FitField) : Fit
  | .object given => (fitFields given fields).map .object
  | .array items => (fitElements fields items).map .object
  | _ => none

/-- Fits a choice of one record among several. -/
def fitVariant (cases : List (String × List FitField)) : Fit
  | .object [(name, content)] => do
    let fields ← cases.lookup name
    let record ← fitRecord fields content
    some (.object [(name, record)])
  | _ => none

/-- Reads the fields of a tagged record: the tag is read at once, all else is only kept. The first
argument bounds the number of fields. -/
def readTagFields (tag : String) (names : List String) (depth : Nat) :
    Nat → Bool → Option String → List (String × Value) → Scan (String × Value)
  | 0, _, _, _, _ => .error .incomplete
  | fuel + 1, first, name?, kept, text => do
    let (more, rest) ← scanNext '\x7d' first text
    if more then
      let (key, rest) ← scanKeyBy scanString rest
      if key = tag then
        if name?.isSome then .error .mismatched
        else
          let ((), rest) ← expect ':' rest
          let (name, rest) ← scanNameOf names rest
          readTagFields tag names depth fuel false (some name) kept rest
      else
        let ((), rest) ← expect ':' rest
        let (value, rest) ← readValue depth rest
        readTagFields tag names depth fuel false name? ((key, value) :: kept) rest
    else
      match name? with
      | some name => .ok ((name, .object kept.reverse), rest.tail)
      | none => .error .mismatched

/-- Reads the items of a tagged record that is an array: the first one is the tag. -/
def readTagElements (names : List String) (depth : Nat) : Scan (String × Value) := fun text => do
  let (more, rest) ← scanNext ']' true text
  if !more then .error .mismatched
  else
    let (name, rest) ← scanNameOf names rest
    let (items, rest) ← readItemsFrom (2 * rest.length + 2) false depth [] rest
    .ok ((name, items), rest)

/-- Reads a choice of one record among several, where a field of the record tells which one. Its
other fields are looked at once the whole record has been read. -/
def readTagged (tag : String) (cases : List (String × List FitField)) : Reader :=
  fun depth text => do
    let names := cases.map (·.1)
    let ((name, content), rest) ←
      match skipGap text with
      | [] => .error .incomplete
      | '[' :: rest => readTagElements names (depth + 1) rest
      | '\x7b' :: rest => readTagFields tag names (depth + 1) (rest.length + 1) true none [] rest
      | c :: rest => .error (mismatch c rest)
    match (cases.lookup name).bind (fitRecord · content) with
    | some (.object fields) => .ok (.object ((tag, .string name) :: fields), rest)
    | _ => .error .mismatched

end DocPress.Json
