import CallDiagram.CommandLine.Arguments
import CallDiagram.Session

/-! # Running a command line

A command line gives a diagram of one function, written to the output or to a file.
-/

namespace CallDiagram.CommandLine

def programName : String := "pysequence-reverse"

structure Outcome where
  exitCode : Nat
  output : String := ""
  errors : String := ""
  files : FileTree

def Arguments.given (a : Arguments) : List (String × Value) :=
  let whenSet (isSet : Bool) (name : String) (v : Value) := if isSet then [(name, v)] else []
  (a.format.map fun f => ("diagram_format", Value.text f)).toList
    ++ (a.maxDepth.map fun n => ("max_call_depth", Value.integer n)).toList
    ++ whenSet a.omitDetails "omit_message_details" (.bool true)
    ++ whenSet a.omitNumbers "omit_sequence_numbers" (.bool true)
    ++ whenSet a.signatures "show_signatures_instead_parameters" (.bool true)
    ++ whenSet a.verbose "log_level" (.text "DEBUG")

/-- The folder of the project: the given one, else the one that the source file lies in. -/
def projectRoot (session : Session) (a : Arguments) (source : Path) : Except Abort Path :=
  match a.root with
  | some root => session.resolve root
  | none => return findProjectRoot session.files session.here source

def Arguments.saves (a : Arguments) (s : Settings) : Bool :=
  a.output.isSome || a.save || s.saveAutomatically

def Arguments.previews (a : Arguments) (s : Settings) : Bool :=
  a.preview || (s.openAutomatically && s.diagramFormat = .plantUml)

/-- A step that fails leaves what was done before. -/
def failed (before : Outcome) (e : RequestError) : Except Abort Outcome :=
  let code := match e with
    | .entry _ => 2
    | _ => 1
  if e.isReported then
    .ok { before with exitCode := code, errors := before.errors ++ "❌ " ++ e.message ++ "\n" }
  else .error (.request e)

def preview (session : Session) (s : Settings) (text : String) (target : Path)
    (before : Outcome) : Except Abort Outcome :=
  match renderPreview s session.renderer text target before.files session.here with
  | .ok (image, files) =>
    .ok { before with output := before.output ++ s!"✓ Preview rendered: {image}\n", files }
  | .error e => failed before (.preview e)

def runWith (session : Session) (a : Arguments) (s : Settings) : Except Abort Outcome := do
  let start : Outcome := { exitCode := 0, files := session.files }
  let source ← session.resolve a.path
  let root ← projectRoot session a source
  let request : EntryRequest :=
    { path := source.toString, function := a.function, line := a.line, column := a.column }
  match session.diagram root s request with
  | .error e => failed start e
  | .ok d =>
    let text := d.render s
    if !a.saves s then return { start with output := text }
    else
      let path := a.output.map fun p => (Path.ofString p).toString
      match d.save s text session.files session.here (some root.toString) path with
      | .error e => failed start (.save e)
      | .ok (target, files) =>
        let saved := { start with output := s!"✓ Diagram saved: {target}\n", files }
        if a.previews s then preview session s text target saved else return saved

def run (session : Session) (words : List String) : Except Abort Outcome :=
  let start : Outcome := { exitCode := 0, files := session.files }
  match parse words with
  | .error .help => .ok start
  | .error (.usage e) =>
    .ok { start with exitCode := 2, errors := s!"{programName}: error: {e.message}\n" }
  | .ok a =>
    match session.settings a.given with
    | .ok s => runWith session a s
    | .error (.invalid report) =>
      .ok { start with exitCode := 1, errors := s!"❌ Invalid configuration: {report}\n" }
    | .error failure => .error (.settings failure)

end CallDiagram.CommandLine
