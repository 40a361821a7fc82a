import DocPress.Text.Blank
import DocPress.Text.Punctuation
import DocPress.Markdown.Tree

/-!
# DocPress.Markdown.Inline.Emphasis

Emphasis: runs of `*` and `_`, and how they pair up.

1. A run opens emphasis if no blank follows it, and closes emphasis if no blank precedes it.
   Punctuation on one side counts like a blank on that side unless the other side has it, too. A run
   of `_` inside a word does neither.
2. A closing run takes the nearest open run of its sign. If either can do both, opening and closing,
   the sum of their lengths must not be a multiple of three, unless the length of the closing run
   is one.
3. Runs between the two stand for themselves. Of the two runs as many signs pair up as both have:
   two by two for strong emphasis, a single one left over for plain emphasis around it.
-/

namespace DocPress.Markdown

open DocPress.Text

/-! ## Runs -/

/-- A run of emphasis signs. -/
structure Run where
  sign : Char
  length : Nat
  canOpen : Bool
  canClose : Bool
  deriving Repr

/-- A run with the character before it and the character behind it, where there are any on its
line. -/
def Run.between (sign : Char) (length : Nat) (before behind : Option Char) : Run :=
  let anywhere := sign == '*'
  { sign := sign, length := length
    canOpen := match behind, before with
      | none, _ => false
      | some b, none => !isBlank b
      | some b, some a =>
        !isBlank b && ((anywhere && !isPunctuation b) || isBlank a || isPunctuation a)
    canClose := match before, behind with
      | none, _ => false
      | some a, none => !isBlank a
      | some a, some b =>
        !isBlank a && ((anywhere && !isPunctuation a) || isBlank b || isPunctuation b) }

/-- The signs of a run as text. -/
def signText (sign : Char) (count : Nat) : Inline :=
  .text (String.ofList (List.replicate count sign))

/-- A piece of running text in which emphasis is not paired up yet. -/
inductive Piece where
  | run (r : Run)
  | inline (i : Inline)

/-! ## Pairing -/

/-- A run that is open: `count` of its signs are not paired yet. -/
structure Opener where
  sign : Char
  count : Nat
  length : Nat
  canClose : Bool
  /-- What follows it, last one first. -/
  inside : List Inline

/-- The open runs, innermost first, and what stands before them all, last one first. -/
structure Pairing where
  openers : List Opener
  before : List Inline

namespace Pairing

/-- Adds text inside the innermost open run, last one first. -/
def add (more : List Inline) (p : Pairing) : Pairing :=
  match p.openers with
  | [] => { p with before := more ++ p.before }
  | o :: openers => { p with openers := { o with inside := more ++ o.inside } :: openers }

/-- Gives up the innermost open run: its signs stand for themselves. -/
def giveUp (p : Pairing) : Pairing :=
  match p.openers with
  | [] => p
  | o :: openers => { p with openers := openers }.add (o.inside ++ [signText o.sign o.count])

/-- Gives up so many open runs. -/
def giveUpMany : Nat → Pairing → Pairing
  | 0, p => p
  | n + 1, p => giveUpMany n p.giveUp

/-- The open run and the closing run can form a pair. -/
def Matches (r : Run) (o : Opener) : Bool :=
  o.sign == r.sign &&
    ((!(r.canOpen && r.canClose) && !o.canClose) || (r.length + o.length) % 3 != 0 ||
      r.length % 3 == 0)

/-- Emphasis of so many signs. -/
def emphasize : Nat → List Inline → List Inline
  | 0, inner => inner
  | 1, inner => [.emphasis inner]
  | n + 2, inner => emphasize n [.strong inner]

/-- Pairs `count` signs of a closing run with open runs, as far as there are any; gives the signs
that are left. The first argument bounds the number of pairs. -/
def closeRun : Nat → Run → Nat → Pairing → Nat × Pairing
  | 0, _, count, p => (count, p)
  | fuel + 1, r, count, p =>
    match p.openers.findIdx? (Matches r) with
    | none => (count, p)
    | some i =>
      let p := p.giveUpMany i
      match p.openers with
      | [] => (count, p)
      | o :: openers =>
        let paired := min count o.count
        let inner := emphasize paired o.inside.reverse
        let p :=
          if o.count == paired then { p with openers := openers }.add inner.reverse
          else
            { p with openers :=
                { o with count := o.count - paired, inside := inner.reverse } :: openers }
        if count == paired then (0, p) else closeRun fuel r (count - paired) p

/-- Takes in the next piece. -/
def read (p : Pairing) : Piece → Pairing
  | .inline i => p.add [i]
  | .run r =>
    let (count, p) := if r.canClose then closeRun r.length r r.length p else (r.length, p)
    if count == 0 then p
    else if r.canOpen then
      { p with openers := ⟨r.sign, count, r.length, r.canClose, []⟩ :: p.openers }
    else p.add [signText r.sign count]

/-- All of the text, with the runs that are still open given up. -/
def toInlines (p : Pairing) : List Inline :=
  (p.giveUpMany p.openers.length).before.reverse

end Pairing

/-- Pairs up the emphasis of a text. -/
def resolveEmphasis (pieces : List Piece) : List Inline :=
  (pieces.foldl Pairing.read ⟨[], []⟩).toInlines

end DocPress.Markdown
