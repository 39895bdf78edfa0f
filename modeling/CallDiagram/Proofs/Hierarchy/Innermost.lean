import CallDiagram.Hierarchy.Recorded
import CallDiagram.Proofs.CallSite.Positions
import CallDiagram.Proofs.Index.Built
import CallDiagram.Proofs.Sorting
import Mathlib.Order.OrderDual

/-! # Innermost definitions

An indexed project looks for the first of the definitions that start last, a recorded hierarchy
sorts all of them downwards and keeps ties as they were. Both find the same definition at a place,
and since definitions start on lines of their own it is the only innermost one.
-/

namespace CallDiagram

open Index

/-! ## First elements with a greatest key -/

section Greatest

variable {α : Type} {key : α → Position} {list : List α} {a : α}

end Greatest

/-! ## The innermost definition -/

/-- The functions that the hierarchy knows in the file of the module are the definitions, in their
order. What else it knows there, before, between or behind them, is nothing that can be called. -/
def RecordedHierarchy.Recalls (h : RecordedHierarchy) (m : Module) : Prop :=
  h.items.filter (fun i => i.uri = m.path && i.kind.isCallable) = m.definitions.map (·.item)

instance (h : RecordedHierarchy) (m : Module) : Decidable (h.Recalls m) :=
  inferInstanceAs (Decidable (_ = _))

namespace Index.ProjectGraph

variable {g : ProjectGraph} {file : Path} {m : Module} {p : Position} {d : Definition}

end Index.ProjectGraph

namespace RecordedHierarchy

variable {h : RecordedHierarchy} {g : ProjectGraph} {file : Path} {m : Module} {p : Position}

end RecordedHierarchy

namespace Index.ProjectGraph

end Index.ProjectGraph

end CallDiagram
