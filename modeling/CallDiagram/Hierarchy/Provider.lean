import CallDiagram.Document
import CallDiagram.FileTree
import CallDiagram.Hierarchy.Item
import CallDiagram.Text.Quoted

/-! # Providers of call hierarchies

A provider answers what functions there are, where they are, and what they call. All it knows may
come from recorded data or from the source files of a project; a diagram only sees the answers.
-/

namespace CallDiagram

inductive ProviderError where
  | noSource (uri : String)
  | unreadable (uri : String) (cause : FileError)
  | failed (reason : String)
  deriving Repr, DecidableEq

namespace ProviderError

def message : ProviderError → String
  | noSource uri => s!"No source text for {uri}"
  | unreadable uri cause => s!"{cause.message}: {Text.quoted uri}"
  | failed reason => reason

end ProviderError

/-- The answers about a call hierarchy. -/
structure Provider where
  /-- The functions at a position of a file, the innermost first. -/
  prepare : (path : String) → Position → List Item
  /-- The function of a qualified name in a file. -/
  findFunction? : (path : String) → (name : String) → Option Item
  /-- The calls of a function, grouped by callee. -/
  outgoingCalls : Item → Except ProviderError (List OutgoingCall)
  sourceText : (uri : String) → Except ProviderError String
  workspaceRoots : Except ProviderError (List String)
  /-- The class around the declaration at a position, if there is one. -/
  containerName : (uri : String) → Position → Except ProviderError (Option String)
  /-- Functions that are worth a diagram. -/
  entryPoints : List Item

/-- The class around a declaration, as the text of its file shows it. -/
def enclosingClassIn (sourceText : String → Except ProviderError String) (uri : String)
    (p : Position) : Except ProviderError (Option String) :=
  (sourceText uri).map fun text => (Document.ofString text).enclosingClass? p

end CallDiagram
