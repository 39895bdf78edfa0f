import CallDiagram.CallSite.Order
import CallDiagram.Hierarchy.Provider
import CallDiagram.Settings.Basic

/-! # The call sites of a function

What a provider knows of a function's calls, read in the text of its file and put into the order in
which the calls are carried out. Only the caller's own data can make this fail; whatever else cannot
be read gives a warning.
-/

namespace CallDiagram

structure ListingError where
  function : String
  cause : ProviderError
  deriving Repr, DecidableEq

def ListingError.message (e : ListingError) : String :=
  s!"Cannot analyze {e.function}: {e.cause.message}"

/-- Something beside the caller's own data could not be read. -/
inductive SiteWarning where
  | noSignature (function : String) (cause : ProviderError)
  | reading (warning : ReadingWarning)
  deriving Repr, DecidableEq

def SiteWarning.message : SiteWarning → String
  | .noSignature function cause => s!"⚠️ No signature for {function}: {cause.message}"
  | .reading warning => warning.message

namespace Provider

/-- The declaration of a callee, if the settings ask for signatures. -/
def signature (p : Provider) (s : Settings) (target : Item) :
    Option (Document × Range) × List SiteWarning :=
  if s.showSignatures then
    match p.sourceText target.uri with
    | .ok text => (some (Document.ofString text, target.selection), [])
    | .error cause => (none, [.noSignature target.name cause])
  else (none, [])

def callSite (p : Provider) (s : Settings) (caller : Document) (target : Item) (range : Range) :
    CallSite × List SiteWarning :=
  let (signature, missing) := p.signature s target
  let (reading, warnings) := caller.readSite s.selfTokens range signature
  (⟨target, range, reading⟩, missing ++ warnings.map .reading)

/-- The call sites of a function in the order in which they are carried out, and what could not be
read. -/
def callSites (p : Provider) (s : Settings) (function : Item) :
    Except ListingError (List CallSite × List SiteWarning) :=
  match p.outgoingCalls function, p.sourceText function.uri with
  | .error cause, _ => .error ⟨function.name, cause⟩
  | .ok _, .error cause => .error ⟨function.name, cause⟩
  | .ok calls, .ok text =>
    let caller := Document.ofString text
    let read := (flattenCalls calls).map fun (target, range) => p.callSite s caller target range
    .ok (CallSite.inOrder (read.map (·.1)), read.flatMap (·.2))

end Provider

end CallDiagram
