import DocPress.Program.Basic

/-!
# DocPress.CommandLine.Arguments

The arguments of the command, as given.

1. An option has a long name, perhaps a letter, and perhaps a variable that gives its value where no
   argument does. The value of an option stands behind it, or is attached: `--name=value`,
   `-xvalue`, `-x=value`. Several letters may stand together; the last one may take a value.
2. An argument that begins with a hyphen is an option, never a value; a hyphen alone is none. All
   that stands behind `--` are no options.
3. No option may be given twice, and there is at most one argument that is no option.
4. A value that an option does not accept is an error, wherever it comes from.
-/

namespace DocPress.CommandLine

open DocPress.Program

/-! ## Options -/

/-- What can be told on the command line. -/
inductive Key where
  | input
  | output
  | backend
  | pageSize
  | margin
  | anchors
  | title
  | emitHtml
  | outline
  | check
  | json
  | verbose
  | quiet
  | version
  | help
  deriving Repr, DecidableEq

/-- Which values an option accepts. -/
inductive Domain where
  /-- Any text. -/
  | text
  /-- Any text but the empty one. -/
  | path
  /-- One of several names. -/
  | names (all : List String) (ignoreCase : Bool)
  /-- There is no value: the option is given or not. -/
  | flag
  deriving Repr, DecidableEq

/-- An option. -/
structure OptionSpec where
  key : Key
  /-- The long name; none for the argument that is no option. -/
  long? : Option String
  letter? : Option Char
  variableName? : Option String
  domain : Domain
  deriving Repr, DecidableEq

/-- All options, and the argument that is none. -/
def optionSpecs : List OptionSpec :=
  [⟨.input, none, none, some "MD2PDF_INPUT", .path⟩,
   ⟨.output, some "output", some 'o', some "MD2PDF_OUTPUT", .path⟩,
   ⟨.backend, some "backend", none, some "MD2PDF_BACKEND",
     .names ["auto", "wkhtmltopdf", "weasyprint"] true⟩,
   ⟨.pageSize, some "page-size", none, some "MD2PDF_PAGE_SIZE",
     .names ["a3", "a4", "a5", "letter", "legal"] true⟩,
   ⟨.margin, some "margin", none, some "MD2PDF_MARGIN", .text⟩,
   ⟨.anchors, some "anchors", none, some "MD2PDF_ANCHORS",
     .names ["auto", "always", "never"] false⟩,
   ⟨.title, some "title", none, some "MD2PDF_TITLE", .text⟩,
   ⟨.emitHtml, some "emit-html", none, some "MD2PDF_EMIT_HTML", .path⟩,
   ⟨.outline, some "outline", none, some "MD2PDF_OUTLINE", .flag⟩,
   ⟨.check, some "check", none, none, .flag⟩,
   ⟨.json, some "json", none, some "MD2PDF_JSON", .flag⟩,
   ⟨.verbose, some "verbose", some 'v', some "MD2PDF_VERBOSE", .flag⟩,
   ⟨.quiet, some "quiet", some 'q', some "MD2PDF_QUIET", .flag⟩,
   ⟨.version, some "version", some 'V', none, .flag⟩,
   ⟨.help, some "help", some 'h', none, .flag⟩]

/-- The text in small ASCII letters. -/
def asciiLower (text : String) : String :=
  text.map Char.toLower

/-- The value as an option takes it: a name is given in its own spelling. -/
def Domain.accept? (domain : Domain) (value : String) : Option String :=
  match domain with
  | .text => some value
  | .path => if value.isEmpty then none else some value
  | .names all ignoreCase =>
    all.find? fun name => name == if ignoreCase then asciiLower value else value
  | .flag => if value = "true" || value = "false" then some value else none

/-! ## Reading -/

/-- Why arguments are not run. -/
inductive Refusal where
  /-- They are not understood. -/
  | misuse
  /-- They ask for the version of the program. -/
  | version
  /-- They ask how the program is used. -/
  | help
  deriving Repr, DecidableEq

/-- What has been read of the arguments. -/
structure Reading where
  /-- The values that have been given. -/
  given : List (Key × String)
  /-- The option whose value comes next. -/
  pending : Option OptionSpec
  /-- No options follow. -/
  trailing : Bool

namespace Reading

/-- Gives an option a value. -/
def give (r : Reading) (spec : OptionSpec) (value : String) : Except Refusal Reading :=
  if (r.given.lookup spec.key).isSome then .error .misuse
  else
    match spec.domain.accept? value with
    | some value => .ok { r with given := (spec.key, value) :: r.given, pending := none }
    | none => .error .misuse

/-- Takes an option that has no value behind it. -/
def takeFlag (r : Reading) (spec : OptionSpec) : Except Refusal Reading :=
  match spec.key with
  | .version => .error .version
  | .help => .error .help
  | _ => r.give spec "true"

/-- Takes an option under its long name, with the value that is attached to it. -/
def takeLong (r : Reading) (name : String) (attached : Option String) : Except Refusal Reading :=
  match optionSpecs.find? (·.long? == some name), attached with
  | none, _ => .error .misuse
  | some spec, some value => if spec.domain = .flag then .error .misuse else r.give spec value
  | some spec, none =>
    if spec.domain = .flag then r.takeFlag spec else .ok { r with pending := some spec }

/-- Takes options under their letters. -/
def takeLetters (r : Reading) : List Char → Except Refusal Reading
  | [] => .ok r
  | c :: rest =>
    match optionSpecs.find? (·.letter? == some c) with
    | none => .error .misuse
    | some spec =>
      if spec.domain = .flag then do (← r.takeFlag spec).takeLetters rest
      else
        match rest with
        | [] => .ok { r with pending := some spec }
        | '=' :: value => r.give spec (String.ofList value)
        | value => r.give spec (String.ofList value)

/-- Takes an argument that is no option. -/
def takeOperand (r : Reading) (argument : String) : Except Refusal Reading :=
  match optionSpecs.find? (·.long?.isNone) with
  | some spec => r.give spec argument
  | none => .error .misuse

/-- Takes one argument. -/
def take (r : Reading) (argument : String) : Except Refusal Reading :=
  match r.trailing, argument.toList with
  | true, _ => r.takeOperand argument
  | false, ['-', '-'] => if r.pending.isSome then .error .misuse else .ok { r with trailing := true }
  | false, '-' :: '-' :: name =>
    if r.pending.isSome then .error .misuse
    else
      match name.span (· != '=') with
      | (name, _ :: value) => r.takeLong (String.ofList name) (some (String.ofList value))
      | (name, []) => r.takeLong (String.ofList name) none
  | false, '-' :: c :: letters =>
    if r.pending.isSome then .error .misuse else r.takeLetters (c :: letters)
  | false, _ =>
    match r.pending with
    | some spec => r.give spec argument
    | none => r.takeOperand argument

end Reading

/-- The values that are given for the options, by arguments or else by variables. -/
def readArguments (env : Environment) (arguments : List String) :
    Except Refusal (List (Key × String)) := do
  let r ← arguments.foldlM Reading.take ⟨[], none, false⟩
  if r.pending.isSome then .error .misuse
  let r ← optionSpecs.foldlM
    (fun (r : Reading) (spec : OptionSpec) =>
      match r.given.lookup spec.key, spec.variableName?.bind (env.lookup ·) with
      | none, some value => r.give spec value
      | _, _ => .ok r) r
  .ok r.given

end DocPress.CommandLine
