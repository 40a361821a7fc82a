import DocPress.Shell.Source

/-!
# DocPress.Shell.Arithmetic

The value of an expression: numbers, variables, and the operators of whole numbers. Operators that
bind closer stand later in the table of levels; those of one level associate to the left.
-/

namespace DocPress.Shell.Arithmetic

/-! ## Tokens -/

/-- A token of an expression. -/
inductive Token where
  | number (n : Int)
  | name (text : String)
  | operator (text : String)
  deriving Repr, DecidableEq

/-- Operators of two characters. -/
def longOperators : List String :=
  ["||", "&&", "==", "!=", "<=", ">=", "<<", ">>"]

/-- The value of the digits of a number: a leading zero makes it octal, and `0x` hexadecimal. -/
def numberValue? (digits : List Char) : Option Int :=
  match digits with
  | '0' :: 'x' :: rest => valueIn 16 rest
  | '0' :: 'X' :: rest => valueIn 16 rest
  | '0' :: rest => if rest.isEmpty then some 0 else valueIn 8 rest
  | _ => valueIn 10 digits
where
  digit (c : Char) : Nat :=
    if c.isDigit then c.toNat - '0'.toNat
    else if 'a' ≤ c ∧ c ≤ 'f' then c.toNat - 'a'.toNat + 10
    else if 'A' ≤ c ∧ c ≤ 'F' then c.toNat - 'A'.toNat + 10
    else 16
  valueIn (base : Nat) (digits : List Char) : Option Int :=
    if digits.isEmpty || digits.any (base ≤ digit ·) then none
    else some (Int.ofNat (digits.foldl (fun n c => n * base + digit c) 0))

/-- The tokens of a text; the first argument bounds its length. -/
def tokens : Nat → List Char → Option (List Token)
  | 0, _ => none
  | _, [] => some []
  | fuel + 1, c :: rest =>
    if c = ' ' || c = '\t' || c = '\n' then tokens fuel rest
    else if c.isDigit then do
      let digits := (c :: rest).takeWhile Char.isAlphanum
      let n ← numberValue? digits
      let behind ← tokens fuel ((c :: rest).drop digits.length)
      some (.number n :: behind)
    else if isNameChar c then do
      let name := (c :: rest).takeWhile isNameChar
      let behind ← tokens fuel ((c :: rest).drop name.length)
      some (.name (String.ofList name) :: behind)
    else
      let long := String.ofList ((c :: rest).take 2)
      if longOperators.contains long then
        (tokens fuel (rest.drop 1)).map (.operator long :: ·)
      else (tokens fuel rest).map (.operator c.toString :: ·)

/-! ## Operators -/

/-- Why an expression has no value. -/
inductive ExpressionError where
  | malformed (reason : String)
  | divisionByZero
  deriving Repr, DecidableEq

/-- The text of an error. -/
def ExpressionError.message : ExpressionError → String
  | .malformed reason => reason
  | .divisionByZero => "division by zero"

/-- The operators with two operands, those that bind least first. -/
def levels : List (List String) :=
  [["||"], ["&&"], ["|"], ["^"], ["&"], ["==", "!="], ["<", "<=", ">", ">="], ["<<", ">>"],
   ["+", "-"], ["*", "/", "%"]]

/-- A truth value as a number. -/
def truth (b : Bool) : Int :=
  if b then 1 else 0

/-- The value of an operator with two operands. -/
def apply (operator : String) (a b : Int) : Except ExpressionError Int :=
  match operator with
  | "||" => .ok (truth (a ≠ 0 ∨ b ≠ 0))
  | "&&" => .ok (truth (a ≠ 0 ∧ b ≠ 0))
  | "==" => .ok (truth (a = b))
  | "!=" => .ok (truth (a ≠ b))
  | "<" => .ok (truth (a < b))
  | "<=" => .ok (truth (a ≤ b))
  | ">" => .ok (truth (a > b))
  | ">=" => .ok (truth (a ≥ b))
  | "+" => .ok (a + b)
  | "-" => .ok (a - b)
  | "*" => .ok (a * b)
  | "/" => if b = 0 then .error .divisionByZero else .ok (a.tdiv b)
  | "%" => if b = 0 then .error .divisionByZero else .ok (a.tmod b)
  | "<<" => .ok (a <<< b.toNat)
  | ">>" => .ok (a.shiftRight b.toNat)
  | "|" => .ok (Int.ofNat (a.toNat ||| b.toNat))
  | "^" => .ok (Int.ofNat (a.toNat ^^^ b.toNat))
  | "&" => .ok (Int.ofNat (a.toNat &&& b.toNat))
  | _ => .error (.malformed "expecting EOF")

/-! ## Values -/

/-- The value of a variable: nothing counts as zero. -/
def variableValue (lookup : String → Option String) (name : String) :
    Except ExpressionError Int :=
  match lookup name with
  | none => .ok 0
  | some text =>
    let trimmed := text.trimAscii.toString
    if trimmed.isEmpty then .ok 0
    else
      match tokens (trimmed.length + 1) trimmed.toList with
      | some [.number n] => .ok n
      | some [.operator "-", .number n] => .ok (-n)
      | _ => .error (.malformed ("Illegal number: " ++ text))

/-- The value of an operand and the tokens behind it. -/
def operandOrFault (inside : List Token → Except ExpressionError (Int × List Token))
    (lookup : String → Option String) : List Token → Except ExpressionError (Int × List Token)
  | .number n :: rest => .ok (n, rest)
  | .name name :: rest => (variableValue lookup name).map fun n => (n, rest)
  | .operator "+" :: rest => operandOrFault inside lookup rest
  | .operator "-" :: rest =>
    (operandOrFault inside lookup rest).map fun (n, rest) => (-n, rest)
  | .operator "!" :: rest =>
    (operandOrFault inside lookup rest).map fun (n, rest) => (truth (n = 0), rest)
  | .operator "~" :: rest =>
    (operandOrFault inside lookup rest).map fun (n, rest) => (-n - 1, rest)
  | .operator "(" :: rest => do
    match ← inside rest with
    | (n, .operator ")" :: rest) => .ok (n, rest)
    | _ => .error (.malformed "expecting ')'")
  | _ => .error (.malformed "expecting primary")

mutual

/-- The value of a condition, or of what stands where one may stand. -/
def conditional (lookup : String → Option String) :
    Nat → List Token → Except ExpressionError (Int × List Token)
  | 0, _ => .error (.malformed "expecting primary")
  | fuel + 1, text => do
    match ← binary lookup fuel levels text with
    | (n, .operator "?" :: rest) =>
      match ← conditional lookup fuel rest with
      | (a, .operator ":" :: rest) =>
        let (b, rest) ← conditional lookup fuel rest
        .ok (if n ≠ 0 then a else b, rest)
      | _ => .error (.malformed "expecting ':'")
    | answer => .ok answer

/-- The value of operands with operators of the given levels between them. -/
def binary (lookup : String → Option String) :
    Nat → List (List String) → List Token → Except ExpressionError (Int × List Token)
  | 0, _, _ => .error (.malformed "expecting primary")
  | fuel + 1, [], text => operandOrFault (conditional lookup fuel) lookup text
  | fuel + 1, operators :: closer, text => do
    let (first, rest) ← binary lookup fuel closer text
    operands lookup fuel operators closer first rest

/-- The value of an operand and of those that follow it on the same level. -/
def operands (lookup : String → Option String) :
    Nat → List String → List (List String) → Int → List Token →
      Except ExpressionError (Int × List Token)
  | 0, _, _, _, _ => .error (.malformed "expecting primary")
  | fuel + 1, operators, closer, first, text =>
    match text with
    | .operator operator :: rest => do
      if operators.contains operator then
        let (second, rest) ← binary lookup fuel closer rest
        let value ← apply operator first second
        operands lookup fuel operators closer value rest
      else .ok (first, text)
    | _ => .ok (first, text)

end

/-- The value of an expression. -/
def value (lookup : String → Option String) (text : String) : Except ExpressionError Int :=
  match tokens (text.length + 1) text.toList with
  | none => .error (.malformed "expecting primary")
  | some [] => .ok 0
  | some found => do
    match ← conditional lookup (16 * found.length + 32) found with
    | (n, []) => .ok n
    | _ => .error (.malformed "expecting EOF")

end DocPress.Shell.Arithmetic
