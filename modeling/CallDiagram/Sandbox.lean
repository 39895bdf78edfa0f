import CallDiagram.Session
import CallDiagram.Text.JsonText

/-! # The sandboxed tools

Two tools for assistants: one draws a diagram, one lists the functions that are worth one. They
look at nothing outside the project's folder and at none of its protected folders.
-/

namespace CallDiagram.Sandbox

open Text

inductive Purpose where
  /-- One source file is read. -/
  | read
  /-- The functions in a file or folder are listed. -/
  | list
  deriving Repr, DecidableEq, Inhabited

inductive Refusal where
  | outside (path : String)
  | protectedName (name : String)
  | missing (path : String)
  | folder (path : String)
  | noSource (path : String)
  deriving Repr, DecidableEq

def Refusal.message : Refusal → String
  | .outside path => s!"❌ Access Denied: Path '{path}' is outside project directory"
  | .protectedName name => s!"❌ Access Denied: Cannot access '{name}' (protected directory)"
  | .missing path => s!"❌ Path not found: '{path}'"
  | .folder path => s!"❌ '{path}' is a directory, expected a Python file"
  | .noSource path => s!"❌ '{path}' is not a Python file"

def protectedNames : List String :=
  [".venv", "venv", ".git", ".env", "__pycache__"]

/-- Whether a place below the project's folder is protected: it is one of the protected ones, or it
lies in one that is there. -/
def isProtected (files : FileTree) (root p : Place) : Bool :=
  protectedNames.any fun name =>
    p = root ++ [name] || (files.isTaken (root ++ [name]) && (root ++ [name]).isPrefixOf p)

/-- Why a path is refused, if it is; `wanted` is that path in full. -/
def refusal? (session : Session) (path : String) (purpose : Purpose) (wanted : Path) :
    Option Refusal :=
  let files := session.files
  if (wanted.relativeTo? session.here).isNone then some (.outside path)
  else if isProtected files session.here.parts wanted.parts then some (.protectedName wanted.name)
  else if !files.isTaken wanted.parts then some (.missing path)
  else match purpose with
    | .list => none
    | .read =>
      if files.isFolder wanted.parts then some (.folder path)
      else if wanted.ending ≠ ".py" then some (.noSource path)
      else none

/-- The path that a user means, and why it is refused, if it is. -/
def checkPath (session : Session) (path : String) (purpose : Purpose) :
    Except Abort (Path × Option Refusal) := do
  let wanted ← session.resolve path
  return (wanted, refusal? session path purpose wanted)

/-! ## Drawing -/

structure DiagramRequest where
  path : String
  function : Option String := none
  line : Option Int := none
  column : Option Int := none
  format : Option Value := none
  maxDepth : Option Value := none
  save : Bool := false

/-- Whether a value counts as given: nothing, no, zero and what is empty do not. -/
def isGiven : Value → Bool
  | .null | .bool false | .integer 0 | .text "" | .list [] => false
  | _ => true

def DiagramRequest.given (r : DiagramRequest) : List (String × Value) :=
  ((r.format.filter isGiven).map ("diagram_format", ·)).toList
    ++ (r.maxDepth.map ("max_call_depth", ·)).toList

structure Reply where
  text : String
  files : FileTree

def commentMark : Format → String
  | .mermaid => "%%"
  | .plantUml => "'"

def draw (session : Session) (s : Settings) (r : DiagramRequest) (path : Path) :
    Except RequestError Reply := do
  let request : EntryRequest :=
    { path := path.toString, function := r.function, line := r.line, column := r.column }
  let d ← session.diagram session.here s request
  let text := d.render s
  if r.save || s.saveAutomatically then
    let (target, files) ←
      (d.save s text session.files session.here (some session.here.toString)).mapError .save
    let saved := relativeNamespace target.toString session.here.toString
    return ⟨text ++ commentMark s.diagramFormat ++ " saved to " ++ saved ++ "\n", files⟩
  else return ⟨text, session.files⟩

/-- What is said of an error in place of a diagram, if anything is. -/
def complaint? : RequestError → Option String
  | .entry e => some ("❌ " ++ e.message)
  | e => if e.isReported then some ("❌ Error: " ++ e.message) else none

def generateDiagram (session : Session) (r : DiagramRequest) : Except Abort Reply := do
  let say (text : String) : Reply := ⟨text, session.files⟩
  match ← checkPath session r.path .read with
  | (_, some refusal) => return say refusal.message
  | (path, none) =>
    match session.settings r.given with
    | .error (.invalid report) => return say ("❌ Invalid parameters: " ++ report)
    | .error failure => throw (.settings failure)
    | .ok s =>
      match draw session s r path with
      | .ok reply => return reply
      | .error e =>
        match complaint? e with
        | some text => return say text
        | none => throw (.request e)

/-! ## Listing -/

/-- How many functions are listed at most. -/
def listLimit : Nat := 50

def errorJson (message : String) : String :=
  "\x7b\"error\": " ++ jsonText message ++ "\x7d"

def entryJson (root : Path) (i : Item) : String :=
  let file := relativeNamespace i.uri root.toString
  "    \x7b\n      \"function\": " ++ jsonText i.qualifiedName
    ++ ",\n      \"file\": " ++ jsonText file
    ++ ",\n      \"line\": " ++ toString (i.selection.start.line + 1) ++ "\n    \x7d"

def listJson (root : Path) (items : List Item) : String :=
  let entries := (items.take listLimit).map (entryJson root)
  let list := if entries.isEmpty then "[]" else "[\n" ++ ",\n".intercalate entries ++ "\n  ]"
  "\x7b\n  \"total_entry_points\": " ++ toString items.length
    ++ ",\n  \"entry_points\": " ++ list ++ "\n\x7d"

def entryPointsAt (session : Session) (provider : Provider) (path : Path) : List Item :=
  if session.files.isFile path.parts then
    provider.entryPointsIn session.here (some path.toString)
  else provider.entryPoints.filter fun i => ((Path.ofString i.uri).relativeTo? path).isSome

def listEntryPoints (session : Session) (path : String) : Except Abort Reply := do
  let say (text : String) : Reply := ⟨text, session.files⟩
  match ← checkPath session path .list with
  | (_, some refusal) => return say (errorJson refusal.message)
  | (path, none) =>
    let s ← (session.settings []).mapError .settings
    match session.project session.here s with
    | .error e => return say (errorJson e.message)
    | .ok provider => return say (listJson session.here (entryPointsAt session provider path))

end CallDiagram.Sandbox
