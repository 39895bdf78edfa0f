import CallDiagram.Source.Lexer
import CallDiagram.Source.Literal
import CallDiagram.Source.Parser

/-! # Grammar of expressions

The rules for one depth of nesting are written in terms of `Rules`, the rules for what stands
inside brackets, behind prefix words and in placeholders, one level deeper. Operators of one kind
form a flat chain: their precedence decides neither what is accepted nor the order of the parts.
-/

namespace CallDiagram.Source

open CallDiagram.Source.Parser

/-- The rules of expressions that nested text is read by. -/
structure Rules where
  /-- An atom with its attributes, subscripts and calls. -/
  primary : Parser Expr
  /-- A primary with its signs and power. -/
  factor : Parser Expr
  /-- Factors joined by arithmetic and bitwise operators. -/
  operands : Parser Expr
  /-- Comparisons joined by `and`, `or` and `not`. -/
  disjunction : Parser Expr
  /-- Any expression but a binding, a starred one or an unparenthesised tuple. -/
  expression : Parser Expr

def Form.join (form : Form) : List Expr → Expr
  | [e] => e
  | parts => .compound form parts

/-- The only part, or a tuple of the parts if a comma was written. -/
def tupleOf : List Expr × Bool → Expr
  | ([e], false) => e
  | (parts, _) => .compound .tuple parts

mutual

def Expr.isTarget : Expr → Bool
  | .name .. | .attribute .. | .subscript .. => true
  | .compound .tuple parts | .compound .list parts => Expr.areTargets parts
  | _ => false

def Expr.areTargets : List Expr → Bool
  | [] => true
  | .starred e :: rest => e.isTarget && Expr.areTargets rest
  | e :: rest => e.isTarget && Expr.areTargets rest

end

/-- Whether the expression may stand before an equals sign. -/
def Expr.isStarTarget (e : Expr) : Bool :=
  Expr.areTargets [e]

/-- Whether the expression is a single place: a name, an attribute or a subscript. -/
def Expr.isPlace : Expr → Bool
  | .name .. | .attribute .. | .subscript .. => true
  | _ => false

mutual

def Expr.isDeletable : Expr → Bool
  | .name .. | .attribute .. | .subscript .. => true
  | .compound .tuple parts | .compound .list parts => Expr.areDeletable parts
  | _ => false

def Expr.areDeletable : List Expr → Bool
  | [] => true
  | e :: rest => e.isDeletable && Expr.areDeletable rest

end

namespace Rules

variable (r : Rules)

def namedExpression : Parser Expr := do
  match ← peek, ← peekSecond with
  | .word _, .operator ":=" =>
    let (id, span) ← identifier
    op ":="
    return .compound .binding [.name id span, ← r.expression]
  | _, _ => r.expression

/-- A starred chain of operands, or what `p` reads. -/
def starredOr (p : Parser Expr) : Parser Expr := do
  if ← accept (.operator "*") then return .starred (← r.operands) else p

def starExpressions : Parser Expr :=
  tupleOf <$> commaList (r.starredOr r.expression)

def yielded : Parser Expr := do
  word "yield"
  if ← accept (.word "from") then return .compound .yield [← r.expression]
  return .compound .yield (← attempt r.starExpressions).toList

def yieldOrExpressions : Parser Expr := do
  if ← sees (.word "yield") then r.yielded else r.starExpressions

def starTarget : Parser Expr := do
  let starred ← accept (.operator "*")
  let e ← r.primary
  if !e.isTarget then fail
  return if starred then .starred e else e

def starTargets : Parser Expr :=
  tupleOf <$> commaList r.starTarget

/-- The `for` clauses behind an element: target, source and conditions of each. -/
def forClauses : Parser (List Expr) := do
  let clauses ← whileAccepted loop do
    let target ← r.starTargets
    word "in"
    let source ← r.disjunction
    let conditions ← whileAccepted (accept (.word "if")) r.disjunction
    return target :: source :: conditions
  if clauses.isEmpty then fail
  return clauses.flatten
where
  loop : Parser Bool := do
    if ← accept (.word "async") then
      word "for"
      return true
    accept (.word "for")

def seesFor : Parser Bool :=
  return (← sees (.word "for")) || (← sees (.word "async"))

/-- Takes the operator if it is next, unless it may not stand here. -/
def acceptUnless (barred : Bool) (text : String) : Parser Bool :=
  if barred then return false else accept (.operator text)

/-- The elements of a display behind its first one, and whether there was a comma. -/
def furtherElements (first : Expr) : Parser (List Expr × Bool) := do
  if ← accept (.operator ",") then
    match ← attempt (commaList (r.starredOr r.namedExpression)) with
    | some (others, _) => return (first :: others, true)
    | none => return ([first], true)
  return ([first], false)

/-- What stands in round brackets, the opening one taken: a tuple, a generator or an expression. -/
def parenthesised : Parser Expr := do
  if ← accept (.operator ")") then return .compound .tuple []
  if ← sees (.word "yield") then
    let e ← r.yielded
    op ")"
    return e
  let starred ← sees (.operator "*")
  let first ← r.starredOr r.namedExpression
  if !starred && (← seesFor) then
    let clauses ← r.forClauses
    op ")"
    return .compound .comprehension (first :: clauses)
  let (elements, comma) ← r.furtherElements first
  op ")"
  if starred && !comma then fail
  return tupleOf (elements, comma)

def bracketed : Parser Expr := do
  if ← accept (.operator "]") then return .compound .list []
  let starred ← sees (.operator "*")
  let first ← r.starredOr r.namedExpression
  if !starred && (← seesFor) then
    let clauses ← r.forClauses
    op "]"
    return .compound .comprehension (first :: clauses)
  let (elements, _) ← r.furtherElements first
  op "]"
  return .compound .list elements

/-- An entry of a dictionary: a key and a value, or a dictionary that is unpacked. -/
def entry : Parser (Option Expr × Expr) := do
  if ← accept (.operator "**") then return (none, ← r.operands)
  let key ← r.expression
  op ":"
  return (some key, ← r.expression)

def furtherEntries (first : Option Expr × Expr) : Parser Expr := do
  let others ← many (do op ","; r.entry)
  let _ ← accept (.operator ",")
  op "\x7d"
  let entries := first :: others
  return .compound .dictionary (entries.filterMap (·.1) ++ entries.map (·.2))

def furtherMembers (first : Expr) : Parser Expr := do
  let (elements, _) ← r.furtherElements first
  op "\x7d"
  return .compound .set elements

def braced : Parser Expr := do
  if ← accept (.operator "\x7d") then return .compound .dictionary []
  match ← peek, ← peekSecond with
  | .operator "**", _ => do
    let first ← r.entry
    r.furtherEntries first
  | .operator "*", _ => do
    let first ← r.starredOr r.namedExpression
    r.furtherMembers first
  | _, second => do
    let first ← r.namedExpression
    if ← acceptUnless (second = .operator ":=") ":" then
      let value ← r.expression
      if ← seesFor then
        let clauses ← r.forClauses
        op "\x7d"
        return .compound .comprehension (first :: value :: clauses)
      r.furtherEntries (some first, value)
    else if ← seesFor then
      let clauses ← r.forClauses
      op "\x7d"
      return .compound .comprehension (first :: clauses)
    else r.furtherMembers first

def bound : Parser (List Expr) := do
  if (← sees (.operator ":")) || (← sees (.operator "]")) || (← sees (.operator ",")) then
    return []
  return [← r.expression]

def sliceFrom (lower : List Expr) : Parser Expr := do
  let upper ← r.bound
  let step ← if ← accept (.operator ":") then r.bound else pure []
  return .compound .slice (lower ++ upper ++ step)

def slice : Parser Expr := do
  if ← accept (.operator "*") then return .starred (← r.expression)
  if ← accept (.operator ":") then return (← r.sliceFrom [])
  let binding := (← peekSecond) = .operator ":="
  let e ← r.namedExpression
  if ← acceptUnless binding ":" then r.sliceFrom [e] else return e

def slices : Parser Expr := do
  match ← commaList r.slice with
  | ([.starred e], _) => return .compound .tuple [.starred e]
  | items => return tupleOf items

structure Arguments where
  positional : List Expr
  named : List Expr

/-- How far a list of arguments has come: named arguments end the positional ones, unpacked
dictionaries end the unpacked sequences. -/
inductive Stage where
  | positional
  | named
  | unpacked
  deriving DecidableEq

/-- One argument, and the stage after it. -/
def argument (stage : Stage) : Parser (Arguments × Stage) := do
  match ← peek, ← peekSecond with
  | .operator "*", _ =>
    let _ ← next
    if stage = .unpacked then fail
    return (⟨[.starred (← r.expression)], []⟩, stage)
  | .operator "**", _ =>
    let _ ← next
    return (⟨[], [← r.expression]⟩, .unpacked)
  | .word _, .operator "=" =>
    let _ ← name
    let _ ← next
    return (⟨[], [← r.expression]⟩, if stage = .positional then .named else stage)
  | _, _ =>
    if stage ≠ .positional then fail
    return (⟨[← r.namedExpression], []⟩, stage)

/-- The arguments from the next one on; `rounds` bounds their number. -/
def argumentsFrom (stage : Stage) : (rounds : Nat) → Parser Arguments
  | 0 => fail
  | rounds + 1 => do
    let (a, stage) ← r.argument stage
    if (← accept (.operator ",")) && !(← sees (.operator ")")) then
      let others ← argumentsFrom stage rounds
      return ⟨a.positional ++ others.positional, a.named ++ others.named⟩
    return a

/-- The arguments of a call, the opening bracket taken. A generator alone needs no brackets of its
own in a call. -/
def arguments (generator : Bool) : Parser Arguments := do
  if ← accept (.operator ")") then return ⟨[], []⟩
  let rounds ← remaining
  let unpacks := (← sees (.operator "*")) || (← sees (.operator "**"))
  let (first, stage) ← r.argument .positional
  if generator && !unpacks && stage = .positional && (← seesFor) then
    let clauses ← r.forClauses
    op ")"
    return ⟨[.compound .comprehension (first.positional ++ clauses)], []⟩
  let others ← if (← accept (.operator ",")) && !(← sees (.operator ")")) then
      r.argumentsFrom stage rounds
    else pure ⟨[], []⟩
  op ")"
  return ⟨first.positional ++ others.positional, first.named ++ others.named⟩

end Rules

/-- The expression of a placeholder, read as if it stood in brackets. -/
def Rules.placeholder (r : Rules) (p : Placeholder) : Except SourceError Expr := do
  let ts ← tokens p.mark ('(' :: p.text ++ [')', '\n'])
  let ⟨(e, _), _⟩ ← r.starExpressions ⟨ts, p.mark⟩
  return e

/-- Adjoining string literals: one text, one run of bytes, or one formatted string. -/
def Rules.strings (r : Rules) : Parser Expr := do
  let t ← next
  let .literal first := t.lexeme | fail
  let others ← many literal
  let all := first :: others
  if all.any (·.bytes) then
    if all.all (fun l => l.bytes && bytesAllowed l.raw l.body) then
      return .compound .bytes []
    failWith .mixedLiterals
  if all.any (·.formatted) then
    let parts ← all.mapM fun l =>
      if l.formatted then do (← l.placeholders).mapM (liftM <| r.placeholder ·)
      else do
        let _ ← l.text
        return []
    return .compound .formatted parts.flatten
  let parts ← all.mapM (liftM ·.text)
  return .text (String.ofList parts.flatten)
where
  literal : Parser Literal := do
    let t ← next
    match t.lexeme with
    | .literal l => return l
    | _ => fail

/-- The parameters of a function, sorted as a reader of the tree meets their expressions. -/
structure Parameters where
  annotations : List Expr := []
  restAnnotation : List Expr := []
  namedAnnotations : List Expr := []
  namedDefaults : List Expr := []
  unpackedAnnotation : List Expr := []
  defaults : List Expr := []

def Parameters.expressions (p : Parameters) : List Expr :=
  p.annotations ++ p.restAnnotation ++ p.namedAnnotations ++ p.namedDefaults
    ++ p.unpackedAnnotation ++ p.defaults

/-- What a list of parameters has shown so far. -/
structure ParameterState where
  /-- A parameter stands before. -/
  some : Bool := false
  /-- A positional parameter has a default. -/
  default : Bool := false
  slash : Bool := false
  star : Bool := false
  /-- A bare star still needs a parameter. -/
  bare : Bool := false

namespace Rules

variable (r : Rules)

/-- What `p` reads behind a colon, if there is one and it opens an annotation. -/
def annotation (annotated : Bool) (p : Rules → Parser Expr) : Parser (List Expr) := do
  if annotated then
    if ← accept (.operator ":") then return [← p r]
  return []

def defaultValue : Parser (List Expr) := do
  if ← accept (.operator "=") then return [← r.expression] else return []

/-- The parameters from the next one on, up to the token that closes the list. -/
def parametersFrom (annotated : Bool) (closing : String) (found : Parameters)
    (state : ParameterState) : (rounds : Nat) → Parser Parameters
  | 0 => fail
  | rounds + 1 => do
    if ← sees (.operator closing) then
      if state.bare then fail
      return found
    if ← accept (.operator "/") then
      if !state.some || state.slash || state.star then fail
      comma
      parametersFrom annotated closing found { state with slash := true } rounds
    else if ← accept (.operator "**") then
      if state.bare then fail
      let _ ← name
      let annotation ← r.annotation annotated Rules.expression
      let _ ← accept (.operator ",")
      if !(← sees (.operator closing)) then fail
      return { found with unpackedAnnotation := annotation }
    else if ← accept (.operator "*") then
      if state.star then fail
      let state := { state with some := true, star := true }
      if ← accept (.operator ",") then
        parametersFrom annotated closing found { state with bare := true } rounds
      else
        let _ ← name
        let annotation ← r.annotation annotated fun r => r.starredOr r.expression
        comma
        parametersFrom annotated closing { found with restAnnotation := annotation } state rounds
    else
      let _ ← name
      let annotation ← r.annotation annotated Rules.expression
      let value ← r.defaultValue
      comma
      if state.star then
        let found := { found with
          namedAnnotations := found.namedAnnotations ++ annotation
          namedDefaults := found.namedDefaults ++ value }
        parametersFrom annotated closing found { state with bare := false } rounds
      else
        if state.default && value.isEmpty then fail
        let found := { found with
          annotations := found.annotations ++ annotation
          defaults := found.defaults ++ value }
        parametersFrom annotated closing found
          { state with some := true, default := !value.isEmpty } rounds
where
  comma : Parser Unit := do
    if !(← accept (.operator ",")) && !(← sees (.operator closing)) then fail

def parameters (annotated : Bool) (closing : String) : Parser Parameters := do
  let rounds ← remaining
  r.parametersFrom annotated closing {} {} (rounds + 1)

end Rules

def atom (r : Rules) : Parser Expr := do
  match ← peek with
  | .word text =>
    if text = "None" || text = "True" || text = "False" then
      let _ ← next
      return .compound .constant []
    let (id, span) ← identifier
    return .name id span
  | .number _ =>
    let _ ← next
    return .compound .number []
  | .literal _ => r.strings
  | .operator text =>
    let _ ← next
    match text with
    | "(" => r.parenthesised
    | "[" => r.bracketed
    | "\x7b" => r.braced
    | "..." => return .compound .constant []
    | _ => fail
  | _ => fail

/-- An attribute, a call or a subscript behind an expression. -/
inductive Trailer where
  | attribute (attr : String) (stop : Mark)
  | call (arguments : Rules.Arguments)
  | subscript (index : Expr)

def Trailer.apply (e : Expr) : Trailer → Expr
  | .attribute attr stop => .attribute e attr stop
  | .call arguments => .call e arguments.positional arguments.named
  | .subscript index => .subscript e index

def trailer (r : Rules) : Parser Trailer := do
  if ← accept (.operator ".") then
    let (attr, span) ← identifier
    return .attribute attr span.stop
  else if ← accept (.operator "(") then
    return .call (← r.arguments true)
  else
    op "["
    let index ← r.slices
    op "]"
    return .subscript index

def plainPrimary (r : Rules) : Parser Expr := do
  let e ← atom r
  let trailers ← many (trailer r)
  return trailers.foldl Trailer.apply e

def primary (r : Rules) : Parser Expr := do
  if ← accept (.word "await") then return .await (← plainPrimary r) else plainPrimary r

def acceptAny (texts : List String) : Parser Bool := do
  match ← peek with
  | .operator text =>
    if texts.contains text then
      let _ ← next
      return true
    else return false
  | _ => return false

def factor (r : Rules) : Parser Expr := do
  let signs ← whileAccepted (acceptAny ["+", "-", "~"]) (pure ())
  let base ← primary r
  let e ← if ← accept (.operator "**") then
      pure (Expr.compound .binary [base, ← r.factor])
    else pure base
  return if signs.isEmpty then e else .compound .unary [e]

def operands (r : Rules) : Parser Expr := do
  let first ← factor r
  let others ← whileAccepted
    (acceptAny ["*", "/", "//", "%", "@", "+", "-", "<<", ">>", "&", "^", "|"]) (factor r)
  return Form.binary.join (first :: others)

def acceptComparison : Parser Bool := do
  match ← peek, ← peekSecond with
  | .word "in", _ =>
    let _ ← next
    return true
  | .word "not", .word "in" =>
    let _ ← next
    let _ ← next
    return true
  | .word "is", second =>
    let _ ← next
    if second = .word "not" then
      let _ ← next
    return true
  | _, _ => acceptAny ["==", "!=", "<=", "<", ">=", ">"]

def comparison (r : Rules) : Parser Expr := do
  let negations ← whileAccepted (accept (.word "not")) (pure ())
  let first ← operands r
  let others ← whileAccepted acceptComparison (operands r)
  let e := Form.comparison.join (first :: others)
  return if negations.isEmpty then e else .compound .unary [e]

def disjunction (r : Rules) : Parser Expr := do
  let first ← comparison r
  let others ← whileAccepted joined (comparison r)
  return Form.boolean.join (first :: others)
where
  joined : Parser Bool := do
    if ← accept (.word "and") then return true else accept (.word "or")

def expression (r : Rules) : Parser Expr := do
  if ← accept (.word "lambda") then
    let parameters ← r.parameters false ":"
    op ":"
    return .compound .lambda (parameters.expressions ++ [← r.expression])
  let e ← disjunction r
  if ← accept (.word "if") then
    let condition ← disjunction r
    word "else"
    return .compound .conditional [condition, e, ← r.expression]
  return e

/-- The rules for text that is nested at most so deep. -/
def rulesAt : (depth : Nat) → Rules
  | 0 => ⟨tooDeep, tooDeep, tooDeep, tooDeep, tooDeep⟩
  | depth + 1 =>
    { primary := fun c => plainPrimary (rulesAt depth) c
      factor := fun c => Source.factor (rulesAt depth) c
      operands := fun c => Source.operands (rulesAt depth) c
      disjunction := fun c => Source.disjunction (rulesAt depth) c
      expression := fun c => Source.expression (rulesAt depth) c }
where
  /-- No text is nested deeper than it is long. -/
  tooDeep : Parser Expr := failWith .tooDeep

end CallDiagram.Source
