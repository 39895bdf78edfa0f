import CallDiagram.Diagram.Participant
import CallDiagram.Hierarchy.Item
import CallDiagram.Settings.Basic
import CallDiagram.Workspace

/-! # Sequence diagrams

A diagram is a list of messages between participants, together with the function that it starts
from. It can be written in several languages and has a file name of its own.
-/

namespace CallDiagram

open Text

inductive MessageKind where
  | call
  | return
  | note
  deriving Repr, DecidableEq, Inhabited

structure Message where
  sender : Participant
  receiver : Participant
  label : String
  number : String
  kind : MessageKind
  deriving Repr, DecidableEq, Inhabited

def truncationNote : String :=
  "further calls omitted - max depth reached"

/-- The label of a message as the settings want it, with line breaks as a language writes them. -/
def Message.shownLabel (m : Message) (s : Settings) (lineBreak : String) : String :=
  let label := match m.kind with
    | .call => m.label
    | .return => s.returnMessageLabel
    | .note => if m.label = "" then truncationNote else m.label
  let label := String.ofList (replace ['\n'] (by simp) lineBreak.toList label.toList)
  if s.omitSequenceNumbers then label else m.number ++ ". " ++ label

structure Diagram where
  entry : Item
  registry : Registry
  messages : List Message := []
  /-- The class of the entry function; empty if it has none. -/
  entryClass : String := ""
  /-- The folder that paths are shown from; may be empty. -/
  workspaceRoot : String := ""
  deriving Repr, DecidableEq, Inhabited

namespace Diagram

def entryPath (d : Diagram) : String :=
  relativeNamespace d.entry.uri d.workspaceRoot

def entryName (d : Diagram) : String :=
  if d.entryClass = "" then d.entry.name else d.entryClass ++ "." ++ d.entry.name

def title (d : Diagram) : String :=
  s!"Sequence diagram of {d.entryName}() of {d.entryPath}"

def calls (d : Diagram) : List Message :=
  d.messages.filter (·.kind = .call)

/-! ## File names -/

def isSlash (c : Char) : Bool :=
  c == '/' || c == '\\'

/-- A text with one underscore for each run of slashes. -/
def flattenSlashes : List Char → List Char
  | [] => []
  | c :: rest =>
    if isSlash c then
      if rest.head?.any isSlash then flattenSlashes rest else '_' :: flattenSlashes rest
    else c :: flattenSlashes rest

def isForbidden (c : Char) : Bool :=
  "<>:\"|?*".toList.contains c || c.toNat < 0x20

/-- A text as the name of a file, without its ending. -/
def fileStem (cs : List Char) : List Char :=
  dropEnds (fun c => c = ' ' || c = '.') ((flattenSlashes cs).filter (!isForbidden ·))

def fileName (d : Diagram) (ending : String) : String :=
  let stem := String.ofList (fileStem (d.entryPath ++ "-" ++ d.entryName).toList)
  let ending := String.ofList (ending.toList.dropWhile (· = '.'))
  (if stem = "" then "sequence-diagram" else stem) ++ "." ++ ending

def defaultFileName (d : Diagram) (s : Settings) : String :=
  d.fileName s.diagramFormat.ending

end Diagram

end CallDiagram
