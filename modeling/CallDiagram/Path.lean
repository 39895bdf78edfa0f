import CallDiagram.Text.Split

/-! # Paths

A path is a list of names below the root, below the alternative root of two slashes, or below
wherever its reader stands. Reading drops empty names and single dots; two dots are kept until a
path is resolved.
-/

namespace CallDiagram

open Text

inductive Anchor where
  | relative
  | root
  /-- The root that is written with exactly two slashes. -/
  | doubleRoot
  deriving Repr, DecidableEq, Inhabited

structure Path where
  anchor : Anchor
  parts : List String
  deriving Repr, DecidableEq, Inhabited

namespace Path

def Anchor.text : Anchor → String
  | .relative => ""
  | .root => "/"
  | .doubleRoot => "//"

def anchorOf : List Char → Anchor
  | '/' :: '/' :: '/' :: _ => .root
  | '/' :: '/' :: _ => .doubleRoot
  | '/' :: _ => .root
  | _ => .relative

def partsOf (cs : List Char) : List String :=
  ((splitOnChar '/' cs).map String.ofList).filter fun part => part ≠ "" && part ≠ "."

def ofString (s : String) : Path :=
  ⟨anchorOf s.toList, partsOf s.toList⟩

def joinParts (parts : List String) : String :=
  "/".intercalate parts

/-- How a path is written; a path without anchor and names is a dot. -/
def toString (p : Path) : String :=
  if p.anchor = .relative ∧ p.parts = [] then "." else Anchor.text p.anchor ++ joinParts p.parts

instance : ToString Path := ⟨toString⟩

def isAbsolute (p : Path) : Bool :=
  p.anchor ≠ .relative

/-- A path below another one; a path with an anchor of its own stands alone. -/
def join (p q : Path) : Path :=
  if q.isAbsolute then q else ⟨p.anchor, p.parts ++ q.parts⟩

def child (p : Path) (name : String) : Path :=
  ⟨p.anchor, p.parts ++ [name]⟩

/-- The folder of a path; the folder of a root is itself. -/
def parent (p : Path) : Path :=
  ⟨p.anchor, p.parts.dropLast⟩

def name (p : Path) : String :=
  p.parts.getLastD ""

/-- The names behind those of a folder that the path lies in. -/
def relativeTo? (p folder : Path) : Option (List String) :=
  if p.anchor = folder.anchor ∧ folder.parts.isPrefixOf p.parts then
    some (p.parts.drop folder.parts.length)
  else none

/-- Where the ending of a name starts: at its last dot, unless that is the first character or the
last one. -/
def splitName (name : String) : String × String :=
  let (before, ending) := partitionLast '.' name.toList
  if name.toList.contains '.' && !before.isEmpty && !ending.isEmpty then
    (String.ofList before, String.ofList ('.' :: ending))
  else (name, "")

def stem (p : Path) : String :=
  (splitName p.name).1

def ending (p : Path) : String :=
  (splitName p.name).2

def withEnding (p : Path) (ending : String) : Path :=
  ⟨p.anchor, p.parts.dropLast ++ [p.stem ++ ending]⟩

/-- The names without the dots that climb; climbing stops at the root. -/
def climb (parts : List String) : List String :=
  parts.foldl (fun above part => if part = ".." then above.dropLast else above ++ [part]) []

/-- The path as seen from a folder, without climbing dots. -/
def resolve (folder p : Path) : Path :=
  ⟨.root, climb (folder.join p).parts⟩

end Path

end CallDiagram
