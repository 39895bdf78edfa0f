import CallDiagram.Hierarchy.Provider
import CallDiagram.Path

/-! # Entry functions

The function that a diagram starts from is chosen by its name or by a line of its file.
-/

namespace CallDiagram

/-- What a user says about an entry function. Lines and columns count from 1. -/
structure EntryRequest where
  path : String
  function : Option String := none
  line : Option Int := none
  column : Option Int := none
  deriving Repr, DecidableEq, Inhabited

inductive EntryError where
  | noFunction (function path : String)
  | nothingGiven
  | nothingAt (path : String) (line : Int)
  deriving Repr, DecidableEq

def EntryError.message : EntryError → String
  | .noFunction function path => s!"No function '{function}' found in {path}"
  | .nothingGiven => "Either a function name or a line number is required"
  | .nothingAt path line => s!"No function found at {path}:{line}"

/-- The position of a line and a column; without a column, or with column zero, the line's start. -/
def EntryRequest.position (line : Int) (column : Option Int) : Position :=
  let column := match column with
    | none | some 0 => 1
    | some n => n
  ⟨max (line - 1) 0, max (column - 1) 0⟩

namespace Provider

/-- The function that a request names, or the innermost one at its position. -/
def resolveEntry (p : Provider) (r : EntryRequest) : Except EntryError Item :=
  let function := r.function.getD ""
  if function ≠ "" then
    match p.findFunction? r.path function with
    | some item => .ok item
    | none => .error (.noFunction function r.path)
  else match r.line with
    | none => .error .nothingGiven
    | some line =>
      match p.prepare r.path (EntryRequest.position line r.column) with
      | item :: _ => .ok item
      | [] => .error (.nothingAt r.path line)

/-- The functions that are worth a diagram, of one file if a path is given. -/
def entryPointsIn (p : Provider) (here : Path) (path : Option String) : List Item :=
  match path with
  | none => p.entryPoints
  | some path =>
    let wanted := Path.resolve here (Path.ofString path)
    p.entryPoints.filter fun i => Path.resolve here (Path.ofString i.uri) = wanted

end Provider

end CallDiagram
