import CallDiagram.Source.Grammar.Pattern
import CallDiagram.Text.Utf8

/-! # Grammar of statements

The rules for statements are written in terms of the rules for the blocks inside them. Main entry:
`parseModule`, which reads a whole text or says why it is no module.
-/

namespace CallDiagram.Source

open CallDiagram.Source.Parser

/-- How the bodies of statements are read, and how deep patterns may be nested. -/
structure BlockRules where
  rules : Rules
  depth : Nat
  block : Parser (List Stmt)

/-! ## Simple statements -/

def dottedText : Parser String := do
  let first ← name
  let others ← whileAccepted (accept (.operator ".")) name
  return ".".intercalate (first :: others)

def importAlias (p : Parser String) : Parser Alias := do
  let text ← p
  if ← accept (.word "as") then return ⟨text, some (← name)⟩
  return ⟨text, none⟩

def importModules : Parser Stmt := do
  word "import"
  let (names, comma) ← commaList (importAlias dottedText)
  if comma then fail
  return .importModules names

def importLevel : Parser Nat := do
  let dots ← many do
    if ← accept (.operator ".") then return 1
    op "..."
    return 3
  return dots.foldl (fun level dot => level + dot) 0

def importNames : Parser Stmt := do
  word "from"
  let level ← importLevel
  let source ← if level ≠ 0 && (← sees (.word "import")) then pure none
    else some <$> dottedText
  word "import"
  if ← accept (.operator "*") then return .importNames level source [⟨"*", none⟩]
  if ← accept (.operator "(") then
    let (names, _) ← commaList (importAlias name)
    op ")"
    return .importNames level source names
  let (names, comma) ← commaList (importAlias name)
  if comma then fail
  return .importNames level source names

def augmentedOperators : List String :=
  ["+=", "-=", "*=", "@=", "/=", "%=", "&=", "|=", "^=", "<<=", ">>=", "**=", "//="]

def assignment (r : Rules) : Parser Stmt := do
  let first ← r.yieldOrExpressions
  match ← peek with
  | .operator ":" =>
    if !first.isPlace then fail
    let _ ← next
    let annotation ← r.expression
    let value ← if ← accept (.operator "=") then some <$> r.yieldOrExpressions else pure none
    return .annotate first annotation value
  | .operator "=" =>
    let values ← whileAccepted (accept (.operator "=")) r.yieldOrExpressions
    let all := first :: values
    let targets := all.dropLast
    if !targets.all (·.isStarTarget) then fail
    return .assign targets (all.getLastD first)
  | .operator text =>
    if augmentedOperators.contains text then
      if !first.isPlace then fail
      let _ ← next
      return .simple [first, ← r.yieldOrExpressions]
    return .simple [first]
  | _ => return .simple [first]

def deletion (r : Rules) : Parser Stmt := do
  word "del"
  let (targets, _) ← commaList r.primary
  if !Expr.areDeletable targets then fail
  return .simple targets

def raising (r : Rules) : Parser Stmt := do
  word "raise"
  match ← attempt r.expression with
  | none => return .simple []
  | some e =>
    if ← accept (.word "from") then return .simple [e, ← r.expression]
    return .simple [e]

def assertion (r : Rules) : Parser Stmt := do
  word "assert"
  let e ← r.expression
  if ← accept (.operator ",") then return .simple [e, ← r.expression]
  return .simple [e]

def sharedNames : Parser Stmt := do
  let _ ← next
  let (_, comma) ← commaList name
  if comma then fail
  return .simple []

def simpleStatement (r : Rules) : Parser Stmt := do
  match ← peek with
  | .word "pass" | .word "break" | .word "continue" =>
    let _ ← next
    return .simple []
  | .word "return" =>
    let _ ← next
    return .simple (← attempt r.starExpressions).toList
  | .word "raise" => raising r
  | .word "global" | .word "nonlocal" => sharedNames
  | .word "del" => deletion r
  | .word "assert" => assertion r
  | .word "import" => importModules
  | .word "from" => importNames
  | _ => assignment r

def simpleStatements (r : Rules) : Parser (List Stmt) := do
  let first ← simpleStatement r
  let others ← many (do op ";"; simpleStatement r)
  let _ ← accept (.operator ";")
  expect .newline
  return first :: others

/-! ## Statements with bodies -/

/-- A colon and the body behind it. -/
def body (b : BlockRules) : Parser (List Stmt) := do
  op ":"
  b.block

def elseClause (b : BlockRules) : Parser (List Clause) := do
  if ← accept (.word "else") then return [.mk [] (← body b)] else return []

def guarded (b : BlockRules) : Parser Clause := do
  let condition ← b.rules.namedExpression
  return .mk [condition] (← body b)

def conditional (b : BlockRules) : Parser Stmt := do
  word "if"
  let first ← guarded b
  let others ← whileAccepted (accept (.word "elif")) (guarded b)
  return .compound (first :: others ++ (← elseClause b))

def whileLoop (b : BlockRules) : Parser Stmt := do
  word "while"
  let first ← guarded b
  return .compound (first :: (← elseClause b))

def forLoop (b : BlockRules) : Parser Stmt := do
  word "for"
  let target ← b.rules.starTargets
  word "in"
  let source ← b.rules.starExpressions
  let first ← body b
  return .compound (.mk [target, source] first :: (← elseClause b))

def withItem (r : Rules) : Parser (List Expr) := do
  let context ← r.expression
  if ← accept (.word "as") then return [context, ← r.starTarget] else return [context]

/-- The contexts of a `with`, up to the colon. They may stand in brackets. -/
def withItems (r : Rules) : Parser (List (List Expr)) :=
  orElse
    (do
      op "("
      let (items, _) ← commaList (withItem r)
      op ")"
      op ":"
      return items)
    (do
      let (items, comma) ← commaList (withItem r)
      if comma then fail
      op ":"
      return items)

def withBlock (b : BlockRules) : Parser Stmt := do
  word "with"
  let items ← withItems b.rules
  return .compound [.mk items.flatten (← b.block)]

/-- An `except` clause behind its word; a group clause needs a type. -/
def handler (b : BlockRules) (group : Bool) : Parser Clause := do
  if group then op "*"
  if !group then
    if ← accept (.operator ":") then return .mk [] (← b.block)
  let type ← b.rules.expression
  if ← accept (.word "as") then
    let _ ← name
  return .mk [type] (← body b)

def tryBlock (b : BlockRules) : Parser Stmt := do
  word "try"
  let first := Clause.mk [] (← body b)
  let group := (← peekSecond) = .operator "*"
  let handlers ← whileAccepted (accept (.word "except")) (handler b group)
  let alternative ← if handlers.isEmpty then pure [] else elseClause b
  let final ← if ← accept (.word "finally") then pure [Clause.mk [] (← body b)] else pure []
  if handlers.isEmpty && final.isEmpty then fail
  return .compound (first :: handlers ++ alternative ++ final)

def caseClause (b : BlockRules) : Parser Clause := do
  word "case"
  let parts ← Pattern.topPattern b.rules b.depth
  let guard ← if ← accept (.word "if") then pure [← b.rules.namedExpression] else pure []
  return .mk (parts ++ guard) (← body b)

def matchBlock (b : BlockRules) : Parser Stmt := do
  word "match"
  let starred ← sees (.operator "*")
  let first ← b.rules.starredOr b.rules.namedExpression
  let (subjects, comma) ← b.rules.furtherElements first
  if starred && !comma then fail
  op ":"
  expect .newline
  expect .indent
  let cases ← many (caseClause b)
  if cases.isEmpty then fail
  expect .dedent
  return .compound (.mk subjects [] :: cases)

def here : Parser Mark := look fun c => (c.rest.head?.map (·.span.start)).getD c.last

/-- Where the last token that is more than layout ended. -/
def lastEnd : Parser Mark := look (·.last)

def functionDef (b : BlockRules) (decorators : List Expr) : Parser Stmt := do
  let start ← here
  let _ ← accept (.word "async")
  word "def"
  let (⟨name, spelled⟩, nameSpan) ← identifier
  op "("
  let parameters ← b.rules.parameters true ")"
  op ")"
  let returns ← if ← accept (.operator "->") then some <$> b.rules.expression else pure none
  let statements ← body b
  let heading := { name, nameSpan, span := ⟨start, ← lastEnd⟩, spelled }
  return .function heading decorators parameters.expressions returns statements

def classDef (b : BlockRules) (decorators : List Expr) : Parser Stmt := do
  let start ← here
  word "class"
  let (⟨name, spelled⟩, nameSpan) ← identifier
  let arguments ← if ← accept (.operator "(") then b.rules.arguments false
    else pure ⟨[], []⟩
  let statements ← body b
  let heading := { name, nameSpan, span := ⟨start, ← lastEnd⟩, spelled }
  return .classDef heading arguments.positional arguments.named statements decorators

def decorator (r : Rules) : Parser Expr := do
  let e ← r.namedExpression
  expect .newline
  return e

def decorated (b : BlockRules) : Parser Stmt := do
  let decorators ← whileAccepted (accept (.operator "@")) (decorator b.rules)
  if ← sees (.word "class") then classDef b decorators else functionDef b decorators

/-- What may follow `async`. -/
def asynchronous (b : BlockRules) : Parser Stmt := do
  match ← peekSecond with
  | .word "def" => functionDef b []
  | .word "with" =>
    let _ ← next
    withBlock b
  | .word "for" =>
    let _ ← next
    forLoop b
  | _ => fail

/-- A statement with its line ends; one line may hold several. -/
def statement (b : BlockRules) : Parser (List Stmt) := do
  match ← peek with
  | .word "if" => single (conditional b)
  | .word "while" => single (whileLoop b)
  | .word "for" => single (forLoop b)
  | .word "with" => single (withBlock b)
  | .word "try" => single (tryBlock b)
  | .word "def" => single (functionDef b [])
  | .word "class" => single (classDef b [])
  | .word "async" => single (asynchronous b)
  | .operator "@" => single (decorated b)
  | .word "match" => orElse (single (matchBlock b)) (simpleStatements b.rules)
  | _ => simpleStatements b.rules
where
  single (p : Parser Stmt) : Parser (List Stmt) := List.singleton <$> p

/-- A body: an indented run of statements, or the rest of the line. -/
def blockOf (b : BlockRules) : Parser (List Stmt) := do
  if ← accept .newline then
    expect .indent
    let statements ← many (statement b)
    expect .dedent
    if statements.isEmpty then fail
    return statements.flatten
  simpleStatements b.rules

def blockAt (r : Rules) : (depth : Nat) → Parser (List Stmt)
  | 0 => failWith .tooDeep
  | depth + 1 => fun c => blockOf ⟨r, depth, blockAt r depth⟩ c

def moduleOf (b : BlockRules) : Parser Module := do
  let statements ← many (statement b)
  expect .finish
  return statements.flatten

/-- The text with its line ends in one form, and with one at its end. Behind a final pair of a
carriage return and a line feed another line end is put. -/
def sourceLines (cs : List Char) : List Char :=
  let pair := match cs.reverse with
    | '\n' :: '\r' :: _ => true
    | _ => false
  let text := Text.unifyLineEnds cs
  if pair || text.getLast? ≠ some '\n' then text ++ ['\n'] else text

def parseModule (text : String) : Except SourceError Module := do
  let cs := sourceLines text.toList
  let ts ← tokens ⟨1, 0⟩ cs
  let depth := cs.length + 1
  let r := rulesAt depth
  let ⟨(statements, _), _⟩ ← moduleOf ⟨r, depth, blockAt r depth⟩ ⟨ts, ⟨1, 0⟩⟩
  return statements

end CallDiagram.Source
