/-!
# DocPress.Shell.Command

Commands of shell scripts. The renderers of a small installation are often scripts, so scripts have
to be run; what is here is the part of the language that such scripts use.
-/

namespace DocPress.Shell

/-- What a redirection does. -/
inductive RedirectionKind where
  /-- Writes to a file from its start. -/
  | write
  /-- Writes behind what a file holds. -/
  | append
  /-- Reads from a file. -/
  | read
  /-- Reads the text that stands in the script. -/
  | here
  /-- Writes to where another stream goes, or nowhere. -/
  | duplicate
  deriving Repr, DecidableEq

/-- What a word in the braces behind a parameter's name is for. -/
inductive Modifier where
  /-- It stands in for a parameter that is not set. -/
  | orElse
  /-- It becomes the value of a parameter that is not set. -/
  | assign
  /-- It says what is wrong if a parameter is not set. -/
  | require
  /-- It stands in for a parameter that is set. -/
  | instead
  /-- It is a pattern for an end of the value, which is left out: the shortest or the longest one. -/
  | cutEnd (longest : Bool)
  /-- It is a pattern for a start of the value, which is left out. -/
  | cutStart (longest : Bool)
  deriving Repr, DecidableEq

mutual

/-- A part of a word. -/
inductive Part where
  | text (chars : List Char) (quoted : Bool)
  | parameter (name : String) (quoted : Bool)
  /-- The number of characters of a parameter. -/
  | length (name : String)
  /-- A parameter together with a word; with `orEmpty`, an empty one counts as not set. -/
  | modified (name : String) (orEmpty : Bool) (modifier : Modifier) (word : List Part)
    (quoted : Bool)
  /-- The output of a command. -/
  | substitution (body : Command) (quoted : Bool)
  /-- The value of an expression. -/
  | arithmetic (word : List Part)

/-- A redirection of one stream. -/
inductive Redirection where
  | mk (stream : Nat) (kind : RedirectionKind) (target : List Part)

/-- A command, or several that have been put together. A line is the number of the line in which the
command begins. -/
inductive Command where
  | nothing
  /-- Variables that are set, and the words of a call. -/
  | simple (line : Nat) (settings : List (String × List Part)) (words : List (List Part))
    (redirections : List Redirection)
  | redirected (line : Nat) (body : Command) (redirections : List Redirection)
  | sequence (first second : Command)
  | andThen (first second : Command)
  | orElse (first second : Command)
  | negated (body : Command)
  | pipe (first second : Command)
  | subshell (body : Command)
  /-- Is not waited for. -/
  | background (body : Command)
  | conditional (condition body otherwise : Command)
  /-- Repeats the body while the condition ends as `expected`. -/
  | loop (expected : Bool) (condition body : Command)
  /-- Runs the body for each word, or for each argument. -/
  | forEach (name : String) (items : Option (List (List Part))) (body : Command)
  /-- Runs the body behind the first pattern that fits. -/
  | select (word : List Part) (arms : List (List (List Part) × Command))
  /-- Gives a command a name under which it is called. -/
  | define (name : String) (body : Command)
  /-- Cannot be read, which ends the script. -/
  | malformed (line : Nat) (reason : String)

end

/-- A word. -/
abbrev Word := List Part

end DocPress.Shell
