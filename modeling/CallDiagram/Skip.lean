import CallDiagram.Hierarchy.Item
import CallDiagram.Path
import CallDiagram.Settings.Basic
import CallDiagram.Text.Glob

/-! # Skipping calls

Which calls are left out of a diagram. The rules look at the kind of the callee and at the path of
its file only, and the first rule that applies gives the reason.
-/

namespace CallDiagram

structure SkipConfiguration where
  ignoreGlobs : List String := []
  restrictToWorkspace : Bool := false
  workspaceRoots : List String := []
  ignoreThirdParty : Bool := false
  thirdPartyPaths : List String := [".venv", ".conda"]
  deriving Repr, DecidableEq, Inhabited

/-- The rules that the settings ask for. The roots of the settings come before those given. -/
def SkipConfiguration.ofSettings (s : Settings) (roots : List String) : SkipConfiguration where
  ignoreGlobs := s.ignoreOnGenerate
  restrictToWorkspace := s.ignoreNonWorkspaceFiles
  workspaceRoots := if s.workspaceRoots.isEmpty then roots else s.workspaceRoots
  ignoreThirdParty := s.ignoreThirdPartyPackages
  thirdPartyPaths := s.thirdPartyPaths

inductive SkipReason where
  | noFunction
  | ignored
  | outsideWorkspace
  | thirdParty
  deriving Repr, DecidableEq, Inhabited

def SkipReason.text : SkipReason → String
  | .noFunction => "is not a function call"
  | .ignored => "involves ignored globals"
  | .outsideWorkspace => "goes out of workspace"
  | .thirdParty => "goes to external module"

/-- Whether a list occurs in another without gaps. -/
def occursIn (run : List String) : List String → Bool
  | [] => run.isEmpty
  | part :: parts => run.isPrefixOf (part :: parts) || occursIn run parts

/-- The environment that a folder stands for: for an interpreter in a folder of programs, the
folder two levels up. -/
def environmentOf (folder : Path) : Path :=
  if folder.name.startsWith "python" && ["bin", "Scripts"].contains folder.parent.name then
    folder.parent.parent
  else folder

/-- Whether a path lies in a folder. A folder without root can be anywhere along the path. -/
def isUnder (path : Path) (folder : String) : Bool :=
  let folder := Path.ofString folder
  if folder.isAbsolute then (path.relativeTo? (environmentOf folder)).isSome
  else !folder.parts.isEmpty && occursIn folder.parts path.parts

def skipReason? (kind : SymbolKind) (uri : String) (c : SkipConfiguration) : Option SkipReason :=
  let path := Path.ofString uri
  if !kind.isCallable then some .noFunction
  else if c.ignoreGlobs.any fun glob => Text.globMatches glob uri then some .ignored
  else if c.restrictToWorkspace
      && !c.workspaceRoots.any fun root => (path.relativeTo? (Path.ofString root)).isSome then
    some .outsideWorkspace
  else if c.ignoreThirdParty && c.thirdPartyPaths.any (isUnder path) then some .thirdParty
  else none

end CallDiagram
