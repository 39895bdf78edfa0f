/-! # Items of a call hierarchy

Places and ranges in source texts, the functions that call each other, and the calls of one
function grouped by what they call. Lines and characters count from 0; a range ends before its
second place.
-/

namespace CallDiagram

structure Position where
  line : Int
  character : Int
  deriving Repr, DecidableEq, Inhabited

namespace Position

/-- Earlier in the text: an earlier line, or the same line and an earlier character. -/
protected def lt (p q : Position) : Bool :=
  p.line < q.line || (p.line = q.line && p.character < q.character)

/-- Not later in the text. -/
protected def le (p q : Position) : Bool :=
  p.line < q.line || (p.line = q.line && p.character ≤ q.character)

/-- `line:character`. -/
protected def toString (p : Position) : String :=
  s!"{p.line}:{p.character}"

instance : ToString Position := ⟨Position.toString⟩

end Position

structure Range where
  start : Position
  stop : Position
  deriving Repr, DecidableEq, Inhabited

namespace Range

/-- Whether the other range lies completely inside. -/
def contains (r other : Range) : Bool :=
  r.start.le other.start && other.stop.le r.stop

protected def toString (r : Range) : String :=
  s!"{r.start}-{r.stop}"

instance : ToString Range := ⟨Range.toString⟩

end Range

inductive SymbolKind where
  | file
  | module
  | classType
  | method
  | property
  | function
  | variable
  deriving Repr, DecidableEq, Inhabited

namespace SymbolKind

def all : List SymbolKind :=
  [.file, .module, .classType, .method, .property, .function, .variable]

def text : SymbolKind → String
  | .file => "file"
  | .module => "module"
  | .classType => "class"
  | .method => "method"
  | .property => "property"
  | .function => "function"
  | .variable => "variable"

def ofText? (s : String) : Option SymbolKind :=
  all.find? (·.text = s)

def isCallable : SymbolKind → Bool
  | .method | .function | .property => true
  | _ => false

end SymbolKind

/-- A symbol like a function: its name, its kind and where it is declared. -/
structure Item where
  name : String
  kind : SymbolKind
  uri : String
  range : Range
  /-- Where the name stands. -/
  selection : Range
  /-- The name with those of what encloses it; may be empty. -/
  detail : String
  deriving Repr, DecidableEq, Inhabited

namespace Item

/-- The name with those of what encloses it, or the bare name. -/
def qualifiedName (i : Item) : String :=
  if i.detail = "" then i.name else i.detail

/-- What tells items apart: file, name and where the declaration starts. -/
def identity (i : Item) : String :=
  s!"{i.uri}#{i.name}@{i.range.start}"

/-- Whether the lines of the declaration include the line of a place. -/
def spansLine (i : Item) (p : Position) : Bool :=
  i.range.start.line ≤ p.line && p.line ≤ i.range.stop.line

end Item

/-- All call sites of one callee within a function. -/
structure OutgoingCall where
  target : Item
  ranges : List Range
  deriving Repr, DecidableEq, Inhabited

end CallDiagram
