import CallDiagram.Path
import CallDiagram.FileTree
import CallDiagram.Text.CommonPrefix

/-! # Workspaces

The folders that make up a workspace, what they have in common, and how files are named within
them.
-/

namespace CallDiagram

/-- The deepest folder that all roots lie in, as a text; empty if there is no root, or if some start
at the file system's root and others do not. -/
def commonRoot (roots : List String) : String :=
  let paths := (roots.filter (· ≠ "")).map Path.ofString
  match paths with
  | [] => ""
  | p :: ps =>
    if ps.all fun q => q.isAbsolute = p.isAbsolute then
      let shared := ps.foldl (fun shared q => Text.agreeing shared q.parts) p.parts
      (if p.isAbsolute then "/" else "") ++ Path.joinParts shared
    else ""

/-- How a file is named: by its path below the workspace, or by its own path if it lies outside or
there is no workspace. -/
def relativeNamespace (uri root : String) : String :=
  let path := Path.ofString uri
  if root = "" then path.toString
  else match path.relativeTo? (Path.ofString root) with
    | some parts => (⟨.relative, parts⟩ : Path).toString
    | none => path.toString

def projectMarkers : List String :=
  [".git", "pyproject.toml", "setup.py", "requirements.txt"]

def isMarked (files : FileTree) (folder : Place) : Bool :=
  projectMarkers.any fun marker => files.isTaken (folder ++ [marker])

/-- A place and the folders above it, the nearest first. -/
def upwards (p : Place) : List Place :=
  (List.range (p.length + 1)).reverse.map p.take

/-- The nearest folder at or above a path that is marked as a project's, else the folder that the
reader stands in. -/
def findProjectRoot (files : FileTree) (here start : Path) : Path :=
  let place := (Path.resolve here start).parts
  let folder := if files.isFile place then place.dropLast else place
  match (upwards folder).find? (isMarked files) with
  | some place => ⟨.root, place⟩
  | none => here

end CallDiagram
