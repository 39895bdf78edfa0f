import CallDiagram.Hierarchy.Item
import CallDiagram.Text.Blank
import CallDiagram.Text.Split

/-! # Source documents

A text with its lines. Offsets count characters from the start of the text, positions count lines
and characters within a line; both can be turned into each other. The class around a declaration
is found by indentation alone, so the text need not be a correct program.
-/

namespace CallDiagram

open Text

/-- A source text, cut at its line feeds. -/
structure Document where
  text : List Char
  lines : List (List Char)
  lines_eq : lines = splitOnChar '\n' text

inductive DocumentError where
  /-- The line is negative or not below the number of lines. -/
  | noLine (line : Int) (count : Nat)
  /-- The line has no start, also if negative lines are counted from the end. -/
  | noLineStart
  deriving Repr, DecidableEq

namespace DocumentError

def message : DocumentError → String
  | noLine line count => s!"Line {line} is out of range (0..{(count : Int) - 1})"
  | noLineStart => "list index out of range"

end DocumentError

namespace Document

def ofString (s : String) : Document :=
  ⟨s.toList, splitOnChar '\n' s.toList, rfl⟩

def lineCount (d : Document) : Nat :=
  d.lines.length

def lineAt (d : Document) (line : Int) : Except DocumentError (List Char) :=
  match line with
  | .ofNat n =>
    match d.lines[n]? with
    | some cs => .ok cs
    | none => .error (.noLine line d.lineCount)
  | .negSucc _ => .error (.noLine line d.lineCount)

/-- How many characters lines take up, their line feeds included. -/
def lengthWithFeeds : (lines : List (List Char)) → Nat
  | [] => 0
  | cs :: lines => cs.length + 1 + lengthWithFeeds lines

def lineStart (d : Document) (line : Nat) : Nat :=
  lengthWithFeeds (d.lines.take line)

/-- The offset of a position; a character beside its line counts as the nearest one. -/
def offsetAt (d : Document) (p : Position) : Except DocumentError Nat :=
  (d.lineAt p.line).map fun cs =>
    d.lineStart p.line.toNat + min p.character.toNat cs.length

def lineEnd (d : Document) (line : Int) : Except DocumentError Nat :=
  if line < -d.lineCount ∨ d.lineCount ≤ line then .error .noLineStart
  else (d.lineAt line).map fun cs => d.lineStart line.toNat + cs.length

def locate : (lines : List (List Char)) → (offset : Nat) → Nat × Nat
  | cs :: next :: lines, offset =>
    if offset ≤ cs.length then (0, offset)
    else
      let (line, character) := locate (next :: lines) (offset - (cs.length + 1))
      (line + 1, character)
  | _, offset => (0, offset)

/-- The position of an offset; an offset beside the text counts as the nearest one. -/
def positionAt (d : Document) (offset : Int) : Position :=
  let (line, character) := locate d.lines (min offset.toNat d.text.length)
  ⟨line, character⟩

def lastPosition (d : Document) : Position :=
  d.positionAt d.text.length

def slice (d : Document) (start stop : Nat) : List Char :=
  (d.text.take stop).drop start

def textOf (d : Document) (r : Range) : Except DocumentError (List Char) := do
  return d.slice (← d.offsetAt r.start) (← d.offsetAt r.stop)

/-! ## The class around a declaration -/

/-- How far a line is indented; a line of white space counts with its full length. -/
def indentation (line : List Char) : Nat :=
  (line.takeWhile isBlank).length

def startsClass (line : List Char) : Bool :=
  "class ".toList.isPrefixOf (strip line)

/-- Whether a line holds neither code nor text: it is blank or a comment. -/
def isRemark (line : List Char) : Bool :=
  (strip line).isEmpty || (strip line).head? = some '#'

/-- The first of the lines, read upwards, that starts a class and is indented less than the given
depth and than all code that was passed on the way. -/
def classLineAbove? (depth : Nat) : (above : List (List Char)) → Option (List Char)
  | [] => none
  | line :: above =>
    if indentation line < depth then
      if startsClass line then some line
      else classLineAbove? (if isRemark line then depth else indentation line) above
    else classLineAbove? depth above

/-- The class name that a class line declares: what follows the word and white space, up to a
parenthesis or colon. Where nothing follows, surplus white space gives the empty name. -/
def declaredClass? (line : List Char) : Option (List Char) :=
  let behind := (strip line).drop "class".length
  let name := (behind.dropWhile isBlank).takeWhile fun c => c ≠ '(' && c ≠ ':'
  if !name.isEmpty then some (strip name)
  else if 1 < (behind.takeWhile isBlank).length then some []
  else none

/-- The class that encloses the declaration at a position, as the indentation shows it. -/
def enclosingClass? (d : Document) (p : Position) : Option String :=
  match d.lineAt p.line with
  | .error _ => none
  | .ok cs => do
    let line ← classLineAbove? (indentation cs) (d.lines.take (p.line.toNat + 1)).reverse
    return String.ofList (← declaredClass? line)

end Document

end CallDiagram
