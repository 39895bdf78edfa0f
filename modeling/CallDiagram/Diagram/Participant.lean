import CallDiagram.Text.Blank
import CallDiagram.Text.CommonPrefix

/-! # Participants

Whoever takes part in an interaction is a file, a class of it and a name for the object. A register
hands out numbers in the order of entry, and finalizing it shortens the shown paths by the folders
that all of them share.
-/

namespace CallDiagram

open Text

/-- What makes two participants the same. -/
structure ParticipantKey where
  path : String
  className : String
  objectName : String
  deriving Repr, DecidableEq, Inhabited

/-- A participant with its number; the first one has number 1. -/
structure Participant where
  key : ParticipantKey
  number : Nat
  deriving Repr, DecidableEq, Inhabited

def Participant.id (p : Participant) : String :=
  s!"p{p.number}"

structure Lifeline extends Participant where
  shownPath : String
  deriving Repr, DecidableEq, Inhabited

namespace Lifeline

def title (l : Lifeline) : String :=
  if l.shownPath = "" then l.key.className else l.shownPath ++ "/" ++ l.key.className

/-- The title and, on a line of its own, the name of the object. -/
def caption (l : Lifeline) (lineBreak : String) : String :=
  if l.key.objectName = "" then l.title else l.title ++ lineBreak ++ ":" ++ l.key.objectName

end Lifeline

structure Registry where
  lifelines : List Lifeline := []
  isFinal : Bool := false
  deriving Repr, DecidableEq, Inhabited

namespace Registry

def get? (r : Registry) (key : ParticipantKey) : Option Lifeline :=
  r.lifelines.find? (·.key = key)

def size (r : Registry) : Nat :=
  r.lifelines.length

/-- The participant of a key, entered under the next number if it is new. -/
def register (r : Registry) (key : ParticipantKey) : Lifeline × Registry :=
  match r.get? key with
  | some known => (known, r)
  | none =>
    let entered : Lifeline := ⟨⟨key, r.size + 1⟩, key.path⟩
    (entered, ⟨r.lifelines ++ [entered], false⟩)

/-- The folders that all paths begin with, up to the last slash. -/
def sharedFolders (r : Registry) : List Char :=
  dropEnd (· ≠ '/') (commonPrefix (r.lifelines.map (·.key.path))).toList

/-- Shows every path without the folders that all of them share. -/
def finalize (r : Registry) : Registry :=
  if r.isFinal then r
  else
    let shared := r.sharedFolders
    let shortened := r.lifelines.map fun l =>
      { l with shownPath := String.ofList (withoutPrefix shared l.key.path.toList) }
    ⟨shortened, true⟩

end Registry

end CallDiagram
