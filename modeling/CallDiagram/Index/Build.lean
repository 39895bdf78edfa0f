import CallDiagram.FileTree
import CallDiagram.Index.Resolve

/-! # Indexing the files of a project

All source files below the root are read, in the order of their paths. Hidden folders and folders
of installed or built code are left out.
-/

namespace CallDiagram.Index

/-- Folders whose files are not the project's own. -/
def ignoredFolders : List String :=
  ["__pycache__", "node_modules", "venv", "env", "build", "dist", "site-packages"]

def isIgnored (folder : String) : Bool :=
  folder.startsWith "." || ignoredFolders.contains folder

def sourcePlaces (t : FileTree) (root : Place) : List Place :=
  let below := t.places.filter fun p =>
    root.isPrefixOf p && root.length < p.length && (p.getLastD "").endsWith ".py"
      && !(p.drop root.length).dropLast.any isIgnored
  below.mergeSort FileTree.placeOrder

/-- Reads a file into the graph, or notes that it cannot be read. -/
def ProjectGraph.addFile (g : ProjectGraph) (t : FileTree) (p : Place) : ProjectGraph :=
  let file : Path := ⟨.root, p⟩
  match t.readText p with
  | .ok code => g.add file code
  | .error _ => { g with failed := g.failed ++ [file.name] }

def ProjectGraph.ofFiles (t : FileTree) (root : Path) (selfTokens : List String) : ProjectGraph :=
  (sourcePlaces t root.parts).foldl (fun g p => g.addFile t p)
    { root := root, selfTokens := selfTokens }

end CallDiagram.Index
