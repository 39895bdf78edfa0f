import CallDiagram.Index.Collect
import CallDiagram.Path
import CallDiagram.Source.Grammar.Statement

/-! # The call graph of a project

The indexed modules by path and by name, and all definitions by identity. A file that is entered
again replaces its module; definitions that it no longer has stay known, with the module that they
were read in.
-/

namespace CallDiagram.Index

structure Indexed where
  definition : Definition
  module : Module
  deriving Repr, DecidableEq

structure ProjectGraph where
  root : Path
  selfTokens : List String
  /-- By path. -/
  modules : Table String Module := []
  /-- By dotted name. -/
  modulesByName : Table String Module := []
  /-- By identity of the item. -/
  definitions : Table String Indexed := []
  /-- The names of the files that are no modules, in the order in which they were read. -/
  failed : List String := []

namespace ProjectGraph

/-- The dotted name of the module in a file: the names below the root without the file's ending;
a file that makes its folder a package has the folder's name. -/
def moduleName (g : ProjectGraph) (file : Path) : String :=
  match file.relativeTo? g.root with
  | none => file.stem
  | some parts =>
    let parts := ((⟨.relative, parts⟩ : Path).withEnding "").parts
    ".".intercalate (if parts.getLast? = some "__init__" then parts.dropLast else parts)

def readModule (g : ProjectGraph) (file : Path) (code : String) :
    Except Source.SourceError Module := do
  let statements ← Source.parseModule code
  let setting : Setting :=
    { path := file.toString
      moduleName := g.moduleName file
      isPackage := file.name = "__init__.py"
      lines := Text.splitOnChar '\n' code.toList
      selfTokens := g.selfTokens }
  return moduleIndex setting statements

def insert (g : ProjectGraph) (m : Module) : ProjectGraph :=
  { g with
    modules := g.modules.set m.path m
    modulesByName := g.modulesByName.set m.name m
    definitions := m.definitions.foldl (fun known d =>
      Table.set known d.item.identity ⟨d, m⟩) g.definitions }

def add (g : ProjectGraph) (file : Path) (code : String) : ProjectGraph :=
  match g.readModule file code with
  | .ok m => g.insert m
  | .error _ => { g with failed := g.failed ++ [file.name] }

def module? (g : ProjectGraph) (file : Path) : Option Module :=
  g.modules.get? file.toString

def definitionOf? (g : ProjectGraph) (item : Item) : Option Indexed :=
  g.definitions.get? item.identity

/-- The first of the elements whose key is greatest. -/
def greatest? {α : Type} (key : α → Position) : List α → Option α
  | [] => none
  | a :: rest =>
    match greatest? key rest with
    | none => some a
    | some b => if (key a).lt (key b) then some b else some a

/-- The definition whose lines include the place; of several the one that starts last. -/
def definitionAt? (g : ProjectGraph) (file : Path) (p : Position) : Option Definition := do
  let m ← g.module? file
  greatest? (·.item.range.start) (m.definitions.filter (·.item.spansLine p))

/-- The definition of a qualified name, else of a bare name. -/
def findFunction? (g : ProjectGraph) (file : Path) (name : String) : Option Definition := do
  let m ← g.module? file
  (m.definitions.find? (·.item.detail = name)) <|> (m.definitions.find? (·.item.name = name))

/-- More calls come first, then files and qualified names in order. -/
def entryOrder (a b : Definition) : Bool :=
  if a.calls.length ≠ b.calls.length then b.calls.length < a.calls.length
  else if a.item.uri ≠ b.item.uri then a.item.uri < b.item.uri
  else a.item.detail ≤ b.item.detail

/-- The definitions that make calls and whose name does not start with an underscore, those with
most calls first. -/
def entryPoints (g : ProjectGraph) : List Definition :=
  let candidates := (g.definitions.values.map (·.definition)).filter fun d =>
    !d.calls.isEmpty && d.item.name.toList.head? ≠ some '_'
  candidates.mergeSort entryOrder

end ProjectGraph

end CallDiagram.Index
