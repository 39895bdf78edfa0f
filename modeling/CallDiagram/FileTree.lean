import CallDiagram.Path
import CallDiagram.Table
import CallDiagram.Text.Utf8

/-! # File trees

The folders and files below the root, each by the names that lead to it. The root is a folder. A
tree is a value: writing gives another tree. Names and files may be of any length, and nothing is
kept from being read or written.
-/

namespace CallDiagram

/-- The names that lead from the root to a place. -/
abbrev Place := List String

structure FileTree where
  folders : List Place
  files : Table Place ByteArray
  deriving Inhabited

inductive FileError where
  | missing
  | notAFolder
  | isAFolder
  deriving Repr, DecidableEq

def FileError.message : FileError → String
  | .missing => "[Errno 2] No such file or directory"
  | .notAFolder => "[Errno 20] Not a directory"
  | .isAFolder => "[Errno 21] Is a directory"

namespace FileTree

def empty : FileTree := ⟨[], []⟩

def isFolder (t : FileTree) (p : Place) : Bool :=
  p = [] || t.folders.contains p

def isFile (t : FileTree) (p : Place) : Bool :=
  t.files.holds p

def isTaken (t : FileTree) (p : Place) : Bool :=
  t.isFolder p || t.isFile p

def read (t : FileTree) (p : Place) : Except FileError ByteArray :=
  match t.files.get? p with
  | some bytes => .ok bytes
  | none => .error (if t.isFolder p then .isAFolder else .missing)

/-- The text of a file, with line ends in one form. -/
def readText (t : FileTree) (p : Place) : Except FileError String :=
  (t.read p).map fun bytes =>
    String.ofList (Text.unifyLineEnds (Text.decodeUtf8 bytes).toList)

/-- The place that names lead to from a folder; two dots lead to the folder above. -/
def walk (t : FileTree) (folder : Place) : (names : List String) → Except FileError Place
  | [] => .ok folder
  | name :: names => do
    if t.isFile folder then throw .notAFolder
    if !t.isFolder folder then throw .missing
    walk t (if name = ".." then folder.dropLast else folder ++ [name]) names

def readTextAt (t : FileTree) (here p : Path) : Except FileError String := do
  t.readText (← t.walk (if p.isAbsolute then [] else here.parts) p.parts)

/-- Makes a folder in a folder, unless it is there. -/
def makeFolder (t : FileTree) (p : Place) : Except FileError FileTree :=
  if t.isFolder p then .ok t
  else if t.isFile p then .error .notAFolder
  else .ok { t with folders := t.folders ++ [p] }

/-- Makes the folders that names lead through from a folder, one after the other, and gives the
place that they lead to; two dots lead to the folder above. Folders that were made before one that
cannot be made are left behind. -/
def makeFoldersFrom (t : FileTree) (folder : Place) : (names : List String) →
    FileTree × Except FileError Place
  | [] => (t, .ok folder)
  | name :: names =>
    if name = ".." then makeFoldersFrom t folder.dropLast names
    else match t.makeFolder (folder ++ [name]) with
      | .ok t => makeFoldersFrom t (folder ++ [name]) names
      | .error e => (t, .error e)

def makeFolders (t : FileTree) (p : Place) : Except FileError FileTree :=
  let (t, made) := t.makeFoldersFrom [] p
  made.map fun _ => t

def write (t : FileTree) (p : Place) (bytes : ByteArray) : Except FileError FileTree :=
  if t.isFolder p then .error .isAFolder
  else if !t.isFolder p.dropLast then
    .error (if t.isFile p.dropLast then .notAFolder else .missing)
  else .ok { t with files := t.files.set p bytes }

def places (t : FileTree) : List Place :=
  t.folders ++ t.files.keys

/-- Names in order, by their code points; a place comes before those below it. -/
def placeOrder : Place → Place → Bool
  | [], _ => true
  | _ :: _, [] => false
  | a :: as, b :: bs => if a = b then placeOrder as bs else a < b

end FileTree

end CallDiagram
