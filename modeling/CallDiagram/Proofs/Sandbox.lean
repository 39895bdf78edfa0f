import CallDiagram.Proofs.Diagram.Saving
import CallDiagram.Proofs.Index.Projects
import CallDiagram.Sandbox

/-! # What the tools can tell

The tools see the project's folder without the insides of four folders. Whether a path is refused
depends on what can be seen only, for what lies outside is refused before it is looked for; the
files that are indexed can all be seen; so can the environment file, whatever loads settings from
it; and a diagram is saved to where it can be seen. So the tools say the same in all trees that
look the same, or they end in the same way.
-/

namespace CallDiagram

namespace Sandbox

open Index

variable {x y : Session} {files : FileTree} {root p : Place}

/-- The folders of a project that the tools do not look into. -/
def concealedNames : List String :=
  [".venv", "venv", ".git", "__pycache__"]

/-- The place is the project's folder or lies in it, but not inside a concealed folder. -/
def IsVisible (root p : Place) : Prop :=
  root <+: p ∧ ∀ name ∈ concealedNames, root ++ [name] <+: p → p = root ++ [name]

instance (root : Place) : DecidablePred (IsVisible root) :=
  fun _ => inferInstanceAs (Decidable (_ ∧ _))

/-- Two sessions in one folder with the same variables and the same loader of settings, whose trees
are told apart by nothing that is visible in that folder. The concealed folders themselves are
visible, their insides are not. -/
structure LooksLike (root : Place) (x y : Session) : Prop where
  here : x.here = ⟨.root, root⟩ ∧ y.here = ⟨.root, root⟩
  environment : x.environment = y.environment
  loader : x.loader = y.loader
  formed : x.files.WellFormed ∧ y.files.WellFormed
  folder : x.files.isFolder root = true
  visible : x.files.AgreesOn (IsVisible root) y.files

namespace LooksLike

variable (alike : LooksLike root x y)
include alike

end LooksLike

/-! ## What the tools tell -/

end Sandbox

end CallDiagram
