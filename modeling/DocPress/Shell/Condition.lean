import DocPress.FileSystem.Update
import DocPress.Text.Utf8

/-!
# DocPress.Shell.Condition

The conditions that `test` decides: what a file is, how texts and numbers compare, and these joined
by `!`, `-a`, `-o` and parentheses. A word that could be an operator is an operand where nothing is
left for the operator to act on.
-/

namespace DocPress.Shell

open DocPress.FileSystem DocPress.Text

/-! ## Operators -/

/-- What a word is for in a condition. -/
inductive TestWord where
  | unary
  | binary
  | negation
  | conjunction
  | disjunction
  | opening
  | closing
  | operand
  deriving Repr, DecidableEq

/-- The operators with one operand. -/
def unaryTests : List String :=
  ["-n", "-z", "-e", "-f", "-d", "-r", "-w", "-x", "-s", "-L", "-h", "-t", "-p", "-S", "-b", "-c",
   "-u", "-g", "-k", "-O", "-G"]

/-- The operators with two operands. -/
def binaryTests : List String :=
  ["=", "!=", "<", ">", "-eq", "-ne", "-lt", "-le", "-gt", "-ge", "-nt", "-ot", "-ef"]

/-- What a word is for if it is for something. -/
def testWordAlone (word : String) : TestWord :=
  if unaryTests.contains word then .unary
  else if binaryTests.contains word then .binary
  else
    match word with
    | "!" => .negation
    | "-a" => .conjunction
    | "-o" => .disjunction
    | "(" => .opening
    | ")" => .closing
    | _ => .operand

/-- What the first of several words is for. An operator with one operand is itself an operand at the
end, and in front of an operator with two. -/
def testWordAt : List String → Option TestWord
  | [] => none
  | word :: rest =>
    match testWordAlone word, rest with
    | .unary, [] => some .operand
    | .unary, next :: _ :: _ =>
      some (if testWordAlone next = .binary then .operand else .unary)
    | .opening, [] => some .operand
    | kind, _ => some kind

/-- An argument as a number. -/
def numberOf? (argument : String) : Option Int :=
  let text := argument.trimAscii.toString
  (if text.startsWith "+" then (text.drop 1).toString else text).toInt?

/-- The answer of an operator with one operand. -/
def testUnary (fs : Files) (operator operand : String) : Bool :=
  match operator with
  | "-n" => !operand.isEmpty
  | "-z" => operand.isEmpty
  | "-e" => fs.pathExists operand
  | "-f" => fs.isFile operand
  | "-d" => fs.isDirectory operand
  | "-r" | "-w" | "-O" | "-G" => fs.pathExists operand
  | "-x" => fs.isExecutable operand || fs.isDirectory operand
  | "-s" =>
    match fs.stat operand with
    | .ok (.file content _) => !content.isEmpty
    | .ok _ => true
    | .error _ => false
  | "-L" | "-h" =>
    match fs.place operand with
    | .ok ⟨directory, some name, _⟩ =>
      match fs.get? (directory ++ [name]) with
      | some (.link _) => true
      | _ => false
    | _ => false
  | _ => false

/-- The answer of an operator with two operands, or what is wrong. -/
def testBinary (left operator right : String) : Except String Bool :=
  match operator with
  | "=" => .ok (left == right)
  | "!=" => .ok (left != right)
  | "<" => .ok (left < right)
  | ">" => .ok (right < left)
  | _ => do
    let a ← number left
    let b ← number right
    .ok <| match operator with
      | "-eq" => decide (a = b)
      | "-ne" => decide (a ≠ b)
      | "-lt" => decide (a < b)
      | "-le" => decide (a ≤ b)
      | "-gt" => decide (a > b)
      | "-ge" => decide (a ≥ b)
      | _ => false
where
  number (text : String) : Except String Int :=
    match numberOf? text with
    | some n => .ok n
    | none => .error ("Illegal number: " ++ text)

/-! ## Conditions -/

/-- An operator has nothing to act on. -/
def argumentExpected (operator : String) : Except String α :=
  .error (operator ++ ": argument expected")

mutual

/-- The answer of conditions of which one has to hold, and the words behind them. -/
def anyOf (fs : Files) : Nat → List String → Except String (Bool × List String)
  | 0, _ => .error "too many arguments"
  | fuel + 1, words => do
    let (first, rest) ← allOf fs fuel words
    match testWordAt rest, rest with
    | some .disjunction, _ :: rest =>
      let (second, rest) ← anyOf fs fuel rest
      .ok (first || second, rest)
    | _, _ => .ok (first, rest)

/-- The answer of conditions that have to hold all, and the words behind them. -/
def allOf (fs : Files) : Nat → List String → Except String (Bool × List String)
  | 0, _ => .error "too many arguments"
  | fuel + 1, words => do
    let (first, rest) ← oneOf fs fuel words
    match testWordAt rest, rest with
    | some .conjunction, _ :: rest =>
      let (second, rest) ← allOf fs fuel rest
      .ok (first && second, rest)
    | _, _ => .ok (first, rest)

/-- The answer of one condition, and the words behind it. -/
def oneOf (fs : Files) : Nat → List String → Except String (Bool × List String)
  | 0, _ => .error "too many arguments"
  | fuel + 1, words =>
    match testWordAt words, words with
    | some .negation, _ :: rest => do
      let (answer, rest) ← oneOf fs fuel rest
      .ok (!answer, rest)
    | some .opening, _ :: rest => do
      let (answer, rest) ← anyOf fs fuel rest
      match rest with
      | ")" :: rest => .ok (answer, rest)
      | _ => .error "closing paren expected"
    | some .unary, operator :: rest =>
      match rest with
      | [] => argumentExpected operator
      | operand :: rest => .ok (testUnary fs operator operand, rest)
    | some _, left :: rest =>
      match testWordAt rest, rest with
      | some .binary, [operator] => argumentExpected operator
      | some .binary, operator :: right :: rest => do
        .ok (← testBinary left operator right, rest)
      | _, _ => .ok (!left.isEmpty, rest)
    | _, _ => .ok (false, [])

end

/-- The answer of a condition, or what is wrong with it. Three words with an operator in the middle
are a comparison, whatever the first one is. -/
def testWords (fs : Files) (words : List String) : Except String Bool :=
  match words with
  | [] => .ok false
  | [left, operator, right] =>
    if testWordAlone operator = .binary then testBinary left operator right else general words
  | _ => general words
where
  general (words : List String) : Except String Bool := do
    match words with
    | ["!", a, operator, b] =>
      if testWordAlone operator = .binary then return !(← testBinary a operator b)
    | _ => pure ()
    let (answer, rest) ← anyOf fs (4 * words.length + 8) words
    match rest with
    | [] => .ok answer
    | _ =>
      let last := (words.take (words.length - rest.length)).getLast?.getD ""
      .error (last ++ ": unexpected operator")

end DocPress.Shell
