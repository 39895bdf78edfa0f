import CallDiagram.Diagram.Markup
import CallDiagram.Diagram.Saving
import CallDiagram.Entry
import CallDiagram.Hierarchy.Catalogue
import CallDiagram.Settings.Basic
import CallDiagram.Traversal

/-! # Sessions

What the front ends have in common: the files and variables that they see, what loads their settings
and renders their previews, and the way from a request to the text of a diagram.
-/

namespace CallDiagram

structure Session where
  files : FileTree
  here : Path
  environment : Table String String := []
  loader : SettingsLoader
  renderer : Renderer := fun _ => .error ""

inductive RequestError where
  | entry (e : EntryError)
  | catalogue (e : CatalogueError)
  | save (e : SaveError)
  | preview (e : PreviewError)
  | cancelled (e : Cancelled)
  deriving Repr, DecidableEq

def RequestError.message : RequestError → String
  | entry e => e.message
  | catalogue e => e.message
  | save e => e.message
  | preview e => e.message
  | cancelled e => e.message

/-- Whether a front end answers with the message of an error. A request that was cancelled ends it,
and so does a name that no file can have. -/
def RequestError.isReported : RequestError → Bool
  | cancelled _ | save .nullInFolder | save .nullInName | preview (.noName _) => false
  | _ => true

/-- What ends a front end without an answer. -/
inductive Abort where
  | nullInPath
  | settings (failure : SettingsFailure)
  | request (e : RequestError)
  deriving Repr, DecidableEq

def Abort.message : Abort → String
  | nullInPath => "embedded null byte"
  | settings failure => failure.message
  | request e => e.message

namespace Session

/-- The full path that a user means. A text with a null character means none. -/
def resolve (session : Session) (path : String) : Except Abort Path :=
  if Diagram.holdsNull path then .error .nullInPath
  else .ok (Path.resolve session.here (Path.ofString path))

/-- The settings that some given values lead to. The environment file is the one in the folder of
the session. -/
def settings (session : Session) (given : List (String × Value)) :
    Except SettingsFailure Settings :=
  session.loader given session.environment
    (session.files.files.get? (session.here.parts ++ [".env"]))

def project (session : Session) (root : Path) (s : Settings) : Except RequestError Provider :=
  (openProject session.files session.here root.toString s).mapError .catalogue

def diagram (session : Session) (root : Path) (s : Settings) (r : EntryRequest) :
    Except RequestError Diagram := do
  let provider ← session.project root s
  let entry ← (provider.resolveEntry r).mapError .entry
  (provider.diagram s entry).1.mapError .cancelled

end Session

end CallDiagram
