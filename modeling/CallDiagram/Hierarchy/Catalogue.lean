import CallDiagram.Hierarchy.Indexed
import CallDiagram.Hierarchy.Recorded
import CallDiagram.Settings.Basic
import CallDiagram.Text.Case

/-! # The catalogue of providers

Providers are made by name. The catalogue can be extended; names are kept in lower case.
-/

namespace CallDiagram

open Index

inductive ProviderKind where
  /-- Over the source files of a project. -/
  | indexed
  | recorded
  deriving Repr, DecidableEq, Inhabited

inductive Hierarchy where
  | indexed (h : IndexedProject)
  | recorded (h : RecordedHierarchy)

def Hierarchy.provider : Hierarchy → Provider
  | .indexed h => h.provider
  | .recorded h => h.provider

inductive ProviderArgument where
  | root (path : String)
  | selfTokens (tokens : List String)
  | roots (paths : List String)
  | other
  deriving Repr, DecidableEq

inductive CatalogueError where
  | unknown (name : String) (known : List String)
  | badArguments (name : String)
  | noFolder (name root : String)
  deriving Repr, DecidableEq

def CatalogueError.message : CatalogueError → String
  | .unknown name known =>
    s!"Unknown provider: '{name}'. Available providers: " ++ ", ".intercalate known
  | .badArguments name => s!"Cannot create provider '{name}'"
  | .noFolder name root =>
    s!"Cannot create provider '{name}': Project root is not a directory: {root}"

/-- The index of a project in a folder, if there is such a folder. -/
def IndexedProject.ofFolder? (files : FileTree) (here : Path) (root : String)
    (selfTokens : List String) : Option IndexedProject :=
  let folder := Path.resolve here (Path.ofString root)
  if files.isFolder folder.parts then
    some ⟨files, here, ProjectGraph.ofFiles files folder selfTokens.eraseDups⟩
  else none

abbrev Catalogue := Table String ProviderKind

namespace Catalogue

def standard : Catalogue :=
  [("python-ast", .indexed), ("memory", .recorded)]

def register (c : Catalogue) (name : String) (kind : ProviderKind) : Catalogue :=
  c.set (Text.lower name) kind

/-- The provider of a name in any case, made with some arguments. -/
def create (c : Catalogue) (files : FileTree) (here : Path) (name : String)
    (arguments : List ProviderArgument) : Except CatalogueError Hierarchy :=
  let name := Text.lower name
  match c.get? name with
  | none => .error (.unknown name c.keys)
  | some .recorded =>
    match arguments with
    | [] => .ok (.recorded {})
    | [.roots roots] => .ok (.recorded { roots })
    | _ => .error (.badArguments name)
  | some .indexed =>
    let make (root : String) (selfTokens : List String) : Except CatalogueError Hierarchy :=
      match IndexedProject.ofFolder? files here root selfTokens with
      | some project => .ok (.indexed project)
      | none => .error (.noFolder name root)
    match arguments with
    | [.root root] => make root ["self", "cls"]
    | [.root root, .selfTokens tokens] | [.selfTokens tokens, .root root] => make root tokens
    | _ => .error (.badArguments name)

end Catalogue

/-- The tokens for the own object in a project: those of the settings and the one for classes. -/
def Settings.projectTokens (s : Settings) : List String :=
  (s.selfTokens ++ ["cls"]).eraseDups

def openProject (files : FileTree) (here : Path) (root : String) (s : Settings) :
    Except CatalogueError Provider :=
  (Catalogue.standard.create files here "python-ast"
    [.root root, .selfTokens s.projectTokens]).map (·.provider)

end CallDiagram
