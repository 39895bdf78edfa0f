import CallDiagram.Index.Build
import CallDiagram.Proofs.FileTree
import CallDiagram.Proofs.Index.Closure
import CallDiagram.Proofs.Index.Identity

/-! # The files of a project

Which files of a tree belong to a project, and in which order they are read, depends only on what
the tree holds at the places of source files; and whatever a project knows stands in such a file.
-/

namespace CallDiagram

namespace FileTree

/-! ## The order of places -/

end FileTree

namespace Index

open Source

variable {t u : FileTree} {root p : Place}

/-- A place below the root that is named like a source file and lies in no folder left out. -/
def IsSourcePlace (root p : Place) : Prop :=
  root <+: p ∧ root.length < p.length ∧ (p.getLastD "").endsWith ".py" = true ∧
    ∀ folder ∈ (p.drop root.length).dropLast, isIgnored folder = false

theorem mem_sourcePlaces : p ∈ sourcePlaces t root ↔ p ∈ t.places ∧ IsSourcePlace root p := by
  simp [sourcePlaces, IsSourcePlace, and_assoc]

/-- The classes of a module stand in the file. -/
def Module.ClassesIn (file : String) (m : Module) : Prop :=
  ∀ item ∈ m.classStatements.map (·.item), item.uri = file

theorem Module.ClassesIn.congr {file : String} {m m' : Module} (within : m.ClassesIn file)
    (same : m'.classStatements.map (·.item) = m.classStatements.map (·.item)) :
    m'.ClassesIn file :=
  fun item member => within item (same ▸ member)

theorem classItems_recordType {s : Setting} {scope : Scope} {m : Module} (target : Expr)
    (type : Option String) : (recordType s scope target type m).classStatements.map (·.item) =
      m.classStatements.map (·.item) := by
  have same := @Module.Sound.statements_recordType m s scope target type
  simpa [Function.comp_def] using congrArg (List.map fun c => c.2.1) same

namespace ProjectGraph

variable {g : ProjectGraph} {folder : Path} {selfTokens : List String} {m : Module} {item : Item}

end ProjectGraph

end Index

end CallDiagram
