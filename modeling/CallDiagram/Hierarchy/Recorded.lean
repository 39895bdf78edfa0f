import CallDiagram.Hierarchy.Provider
import CallDiagram.Table

/-! # Recorded hierarchies

A call hierarchy that is known beforehand, for instance from the session of an editor.
-/

namespace CallDiagram

structure RecordedHierarchy where
  /-- The texts of files by uri. -/
  sources : Table String String := []
  calls : Table Item (List OutgoingCall) := []
  roots : List String := []

namespace RecordedHierarchy

/-- The first of the elements that are equal. -/
def distinct (items : List Item) : List Item :=
  items.foldl (fun known item => if known.contains item then known else known ++ [item]) []

/-- All functions: each caller, followed by its callees, in the order of their first mention. -/
def items (h : RecordedHierarchy) : List Item :=
  distinct (h.calls.flatMap fun (caller, calls) => caller :: calls.map (·.target))

def callsOf (h : RecordedHierarchy) (item : Item) : List OutgoingCall :=
  (h.calls.get? item).getD []

/-- The functions of a file whose lines include a position, those that start last first. -/
def functionsAt (h : RecordedHierarchy) (path : String) (p : Position) : List Item :=
  (h.items.filter fun i => i.uri = path && i.kind.isCallable && i.spansLine p).mergeSort
    fun a b => !a.range.start.lt b.range.start

/-- The first symbol of a file with that qualified or bare name. -/
def find? (h : RecordedHierarchy) (path name : String) : Option Item :=
  h.items.find? fun i => i.uri = path && (i.detail = name || i.name = name)

def sourceText (h : RecordedHierarchy) (uri : String) : Except ProviderError String :=
  match h.sources.get? uri with
  | some text => .ok text
  | none => .error (.noSource uri)

def provider (h : RecordedHierarchy) : Provider where
  prepare := h.functionsAt
  findFunction? := h.find?
  outgoingCalls item := .ok (h.callsOf item)
  sourceText := h.sourceText
  workspaceRoots := .ok h.roots
  containerName := enclosingClassIn h.sourceText
  entryPoints := h.items.filter fun i => !(h.callsOf i).isEmpty

end RecordedHierarchy

end CallDiagram
