import CallDiagram.Source.Numeral

/-! # Syntax of analysed sources

The statements and expressions of a Python module, as far as an index of calls looks at them.
Names, attributes, calls, subscripts, awaited expressions, plain strings and starred expressions
have constructors of their own. Every other form keeps its parts, in the order in which a reader
of the tree meets them.
-/

namespace CallDiagram.Source

/-- A place in a source text: the line, counted from 1, and the column, counted in the bytes of
the line's UTF-8 form from 0. -/
structure Mark where
  line : Nat
  column : Nat
  deriving Repr, DecidableEq, Inhabited

/-- A stretch of a source text; `stop` is the first place behind it. -/
structure Span where
  start : Mark
  stop : Mark
  deriving Repr, DecidableEq, Inhabited

/-- Forms of expressions that are known by their parts alone. -/
inductive Form where
  | tuple
  | list
  | set
  /-- The keys of a dictionary display, then its values. -/
  | dictionary
  | number
  | bytes
  /-- `None`, `True`, `False` and the ellipsis. -/
  | constant
  /-- The placeholders of a formatted string, each with those of its format. -/
  | formatted
  | unary
  | binary
  | boolean
  | comparison
  /-- The condition, then the two choices. -/
  | conditional
  /-- The parameters' defaults, then the body. -/
  | lambda
  /-- The element, then target, source and conditions of each `for`. -/
  | comprehension
  /-- A name bound within an expression, and its value. -/
  | binding
  | slice
  | yield
  deriving Repr, DecidableEq

inductive Expr where
  | name (id : String) (span : Span)
  /-- `value.attr`; `stop` is where the attribute's name ends. -/
  | attribute (value : Expr) (attr : String) (stop : Mark)
  /-- A call with its positional arguments, then the values of its named ones. -/
  | call (func : Expr) (arguments named : List Expr)
  | subscript (value index : Expr)
  | await (value : Expr)
  | text (value : String)
  | starred (value : Expr)
  | compound (form : Form) (parts : List Expr)
  deriving Repr, Inhabited

/-- Every character prolongs a word, as in all names. -/
def IsWord (text : String) : Prop :=
  text.toList.all prolongsWord = true

instance : DecidablePred IsWord := fun text =>
  inferInstanceAs (Decidable (text.toList.all prolongsWord = true))

structure Heading where
  name : String
  nameSpan : Span
  /-- From the defining keyword to the end of the body. -/
  span : Span
  spelled : IsWord name
  deriving Repr

/-- A name that an import binds, and the name it is known by afterwards if another one. -/
structure Alias where
  name : String
  rename : Option String
  deriving Repr, DecidableEq

mutual

inductive Stmt where
  /-- A statement without a body, known by its expressions. -/
  | simple (parts : List Expr)
  | assign (targets : List Expr) (value : Expr)
  | annotate (target annotation : Expr) (value : Option Expr)
  | importModules (names : List Alias)
  /-- `level` counts the leading dots; the name `*` stands for everything. -/
  | importNames (level : Nat) (source : Option String) (names : List Alias)
  /-- `parameters` holds their annotations and defaults. -/
  | function (heading : Heading) (decorators parameters : List Expr) (returns : Option Expr)
      (body : List Stmt)
  | classDef (heading : Heading) (bases named : List Expr) (body : List Stmt)
      (decorators : List Expr)
  | compound (clauses : List Clause)

/-- A body and the expressions in front of it. -/
inductive Clause where
  | mk (heads : List Expr) (body : List Stmt)

end

abbrev Module := List Stmt

/-- `a.b.c` for a chain of attributes that starts at a name. -/
def Expr.dottedName? : Expr → Option String
  | .name id _ => some id
  | .attribute value attr _ => value.dottedName?.map (· ++ "." ++ attr)
  | _ => none

end CallDiagram.Source
