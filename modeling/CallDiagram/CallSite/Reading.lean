import CallDiagram.Document

/-! # Reading a call site

What the text around a name tells: whether the name is called, on what, and with which arguments.
Only characters are read, so the text need not be a correct program.
-/

namespace CallDiagram

open Text

inductive Qualifier where
  | sameObject
  /-- The object of a dotted name; the empty name stands for none. -/
  | named (name : String)
  deriving Repr, DecidableEq, Inhabited

namespace Qualifier

/-- A text for a qualifier. That of the same object is no name of a program. -/
def text : Qualifier → String
  | sameObject => "<self>"
  | named name => name

/-- The qualifier that a dotted name spells: a token for the instance itself is the same object,
and in front of a further name it is left out. The first token that fits counts. -/
def normalize : (tokens : List String) → (qualifier : List Char) → Qualifier
  | [], qualifier => .named (String.ofList qualifier)
  | token :: tokens, qualifier =>
    if qualifier = token.toList then .sameObject
    else match afterPrefix? (token.toList ++ ['.']) qualifier with
      | some rest => .named (String.ofList rest)
      | none => normalize tokens qualifier

end Qualifier

/-- What the text tells about a call site. -/
structure SiteReading where
  isCall : Bool := false
  qualifier : Qualifier := .named ""
  arguments : String := ""
  /-- From the opening parenthesis of the arguments to behind the closing one. -/
  argumentRange : Option Range := none
  deriving Repr, DecidableEq, Inhabited

inductive ReadingWarning where
  | call (range : Range) (cause : DocumentError)
  | signature (range : Range) (cause : DocumentError)
  deriving Repr, DecidableEq

namespace ReadingWarning

def message : ReadingWarning → String
  | call range cause => s!"⚠️ Cannot inspect call at {range}: {cause.message}"
  | signature range cause => s!"⚠️ Cannot read signature at {range}: {cause.message}"

end ReadingWarning

namespace Document

/-- Whether the name of a range is followed by an opening parenthesis, on its last line or the
next one, with only white space between. -/
def isCall (d : Document) (name : Range) : Except DocumentError Bool := do
  let stop ← d.offsetAt name.stop
  let lookahead ← d.lineEnd (min (name.stop.line + 1) (d.lineCount - 1))
  let directly := (d.text.drop stop).head? = some '('
  return directly || (stripStart (d.slice stop lookahead)).head? = some '('

def isQualifierChar (c : Char) : Bool :=
  c == '_' || c == '.' || c.isAlphanum

/-- What the name of a range is called on: the longest dotted name before the dot before it. -/
def qualifier (d : Document) (tokens : List String) (name : Range) :
    Except DocumentError Qualifier := do
  match (d.text.take (← d.offsetAt name.start)).reverse with
  | '.' :: before =>
    return Qualifier.normalize tokens (before.takeWhile isQualifierChar).reverse
  | _ => return .named ""

/-- Where the last of a number of open parentheses is closed. -/
def closing? : (depth : Nat) → List Char → Option Nat
  | _, [] => none
  | depth, c :: cs =>
    if c = '(' then (closing? (depth + 1) cs).map (· + 1)
    else if c = ')' then
      if depth ≤ 1 then some 0 else (closing? (depth - 1) cs).map (· + 1)
    else (closing? depth cs).map (· + 1)

/-- The text between the first opening parenthesis from the last character of a name on and the
parenthesis that closes it, and the range of both; all that follows if nothing closes it. -/
def arguments (d : Document) (name : Range) : Except DocumentError (String × Option Range) := do
  let start := (← d.offsetAt name.stop) - 1
  let rest := d.text.drop start
  let opened := start + (rest.takeWhile (· ≠ '(')).length
  match rest.dropWhile (· ≠ '(') with
  | [] => return ("", none)
  | _ :: inside =>
    match closing? 1 inside with
    | some length =>
      let range := ⟨d.positionAt opened, d.positionAt (opened + length + 2)⟩
      return (String.ofList (inside.take length), some range)
    | none => return (String.ofList inside, some ⟨d.positionAt opened, d.lastPosition⟩)

/-- What the text tells about the call at a range, as far as it can be read. -/
def readCall (d : Document) (tokens : List String) (name : Range) :
    SiteReading × List ReadingWarning :=
  match d.isCall name with
  | .error e => ({}, [.call name e])
  | .ok false => ({}, [])
  | .ok true =>
    match d.qualifier tokens name with
    | .error e => ({ isCall := true }, [.call name e])
    | .ok qualifier =>
      match d.arguments name with
      | .error e => ({ isCall := true, qualifier }, [.call name e])
      | .ok (arguments, argumentRange) =>
        ({ isCall := true, qualifier, arguments, argumentRange }, [])

/-- `readCall` with the parameters of a declaration in place of the arguments of a call that was
read without a warning. -/
def readSite (d : Document) (tokens : List String) (name : Range)
    (signature : Option (Document × Range)) : SiteReading × List ReadingWarning :=
  let (reading, warnings) := d.readCall tokens name
  match signature with
  | none => (reading, warnings)
  | some (declaration, range) =>
    if !reading.isCall || !warnings.isEmpty then (reading, warnings)
    else match declaration.arguments range with
      | .ok (parameters, _) => ({ reading with arguments := parameters }, [])
      | .error e => (reading, [.signature range e])

end Document

end CallDiagram
