import CallDiagram.Source.Grammar.Expression

/-! # Grammar of patterns

A pattern is kept as the expressions it holds, in the order in which a reader of the tree meets
them: literals, dotted names and the classes of class patterns. Names that a pattern binds are no
expressions.
-/

namespace CallDiagram.Source.Pattern

open CallDiagram.Source.Parser

/-- The expressions of a pattern. -/
abbrev Parts := List Expr

abbrev Nested := Parser Parts

/-- Not before what would prolong a bound name to a dotted name, a class or a named argument. -/
def boundary : Parser Unit := do
  if (← sees (.operator ".")) || (← sees (.operator "(")) || (← sees (.operator "=")) then fail

/-- A name that a pattern binds; the underscore binds nothing. -/
def capture : Parser Unit := do
  if (← name) = "_" then fail
  boundary

def signedNumber : Parser Bool := do
  let _ ← accept (.operator "-")
  match (← next).lexeme with
  | .number imaginary => return imaginary
  | _ => fail

def number : Parser Parts := do
  let imaginary ← signedNumber
  if ← acceptAny ["+", "-"] then
    match (← next).lexeme with
    | .number true => if imaginary then fail else return [.compound .number []]
    | _ => fail
  return [.compound .number []]

def dotted : Parser (Expr × Bool) := do
  let (id, span) ← identifier
  let attributes ← whileAccepted (accept (.operator ".")) identifier
  let e := attributes.foldl (fun e (attr, span) => .attribute e attr span.stop) (.name id span)
  return (e, !attributes.isEmpty)

/-- A literal that may also be the key of a mapping pattern. -/
def constant (r : Rules) : Parser Parts := do
  match ← peek with
  | .literal _ => return [← r.strings]
  | .word text =>
    if text = "None" || text = "True" || text = "False" then
      let _ ← next
      return [.compound .constant []]
    else fail
  | _ => number

/-- A pattern, or a starred name; and whether it is starred. -/
def maybeStarred (nested : Nested) : Parser (Parts × Bool) := do
  if ← accept (.operator "*") then
    let text ← name
    if text ≠ "_" then boundary
    return ([], true)
  return (← nested, false)

/-- The patterns of a sequence, and whether they make one: by a comma, or by a star. -/
def sequence (nested : Nested) : Parser (Parts × Bool × Bool) := do
  let (items, comma) ← commaList (maybeStarred nested)
  return (items.flatMap (·.1), comma || 1 < items.length, items.any (·.2))

def openSequence (nested : Nested) : Parser Parts := do
  let (parts, several, starred) ← sequence nested
  if starred && !several then fail
  return parts

def keyValue (r : Rules) (nested : Nested) : Parser (Parts × Parts) := do
  let key ← orElse (constant r) do
    let (e, isDotted) ← dotted
    if isDotted then return [e] else fail
  op ":"
  return (key, ← nested)

def unpacked : Parser Unit := do
  op "**"
  capture

def mapping (r : Rules) (nested : Nested) : Parser Parts := do
  if ← accept (.operator "\x7d") then return []
  if ← sees (.operator "**") then
    unpacked
    let _ ← accept (.operator ",")
    op "\x7d"
    return []
  let first ← keyValue r nested
  let others ← many (do op ","; keyValue r nested)
  if ← accept (.operator ",") then
    if ← sees (.operator "**") then
      unpacked
      let _ ← accept (.operator ",")
  op "\x7d"
  let entries := first :: others
  return entries.flatMap (·.1) ++ entries.flatMap (·.2)

/-- The arguments of a class pattern from the next one on; `named` says that only named ones may
follow. -/
def argumentsFrom (nested : Nested) (named : Bool) : (rounds : Nat) → Parser Parts
  | 0 => fail
  | rounds + 1 => do
    if ← accept (.operator ")") then return []
    let isNamed := (← peekSecond) = .operator "="
    if named && !isNamed then fail
    if isNamed then
      let _ ← name
      let _ ← next
    let parts ← nested
    if !(← accept (.operator ",")) && !(← sees (.operator ")")) then fail
    return parts ++ (← argumentsFrom nested isNamed rounds)

def closed (r : Rules) (nested : Nested) : Parser Parts := do
  match ← peek with
  | .operator "(" =>
    let _ ← next
    if ← accept (.operator ")") then return []
    let parts ← openSequence nested
    op ")"
    return parts
  | .operator "[" =>
    let _ ← next
    if ← accept (.operator "]") then return []
    let (parts, _, _) ← sequence nested
    op "]"
    return parts
  | .operator "\x7b" =>
    let _ ← next
    mapping r nested
  | .word text =>
    if text = "None" || text = "True" || text = "False" then constant r
    else if text = "_" then
      let _ ← next
      return []
    else
      let (e, isDotted) ← dotted
      if ← accept (.operator "(") then
        if ← accept (.operator ")") then return [e]
        let rounds ← remaining
        return e :: (← argumentsFrom nested false rounds)
      boundary
      return if isDotted then [e] else []
  | _ => constant r

def pattern (r : Rules) (nested : Nested) : Parser Parts := do
  let first ← closed r nested
  let others ← whileAccepted (accept (.operator "|")) (closed r nested)
  if ← accept (.word "as") then capture
  return (first :: others).flatten

def patternAt (r : Rules) : (depth : Nat) → Parser Parts
  | 0 => failWith .tooDeep
  | depth + 1 => pattern r (fun c => patternAt r depth c)

def topPattern (r : Rules) (depth : Nat) : Parser Parts :=
  openSequence (patternAt r depth)

end CallDiagram.Source.Pattern
