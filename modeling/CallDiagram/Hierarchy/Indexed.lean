import CallDiagram.Hierarchy.Provider
import CallDiagram.Index.Build

/-! # Hierarchies of indexed projects

The call hierarchy of the source files below a folder.
-/

namespace CallDiagram

open Index

/-- A project: its files, where paths without root start, and the index of its files. -/
structure IndexedProject where
  files : FileTree
  here : Path
  graph : ProjectGraph

namespace IndexedProject

/-- The path of a file as the index knows it. -/
def resolve (h : IndexedProject) (path : String) : Path :=
  Path.resolve h.here (Path.ofString path)

def sourceText (h : IndexedProject) (uri : String) : Except ProviderError String :=
  match h.files.readTextAt h.here (Path.ofString uri) with
  | .ok text => .ok text
  | .error cause => .error (.unreadable uri cause)

/-- The class around a declaration: that of the definition whose name starts at the position, else
the one that the text shows. -/
def containerName (h : IndexedProject) (uri : String) (p : Position) :
    Except ProviderError (Option String) :=
  match h.graph.definitionAt? (h.resolve uri) p with
  | some d =>
    if d.item.selection.start = p then .ok d.className
    else enclosingClassIn h.sourceText uri p
  | none => enclosingClassIn h.sourceText uri p

def provider (h : IndexedProject) : Provider where
  prepare path p := ((h.graph.definitionAt? (h.resolve path) p).map (·.item)).toList
  findFunction? path name := (h.graph.findFunction? (h.resolve path) name).map (·.item)
  outgoingCalls item := .ok (h.graph.outgoingCalls item)
  sourceText := h.sourceText
  workspaceRoots := .ok [h.graph.root.toString]
  containerName := h.containerName
  entryPoints := h.graph.entryPoints.map (·.item)

end IndexedProject

end CallDiagram
