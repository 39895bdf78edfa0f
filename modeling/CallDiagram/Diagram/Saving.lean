import CallDiagram.Diagram.Basic
import CallDiagram.Text.Quoted

/-! # Saving diagrams

A diagram is written into one file, whose folders are made as needed, one after the other and before
the file. A preview is an image beside the diagram's file.
-/

namespace CallDiagram

inductive SaveError where
  | unwritable (target : Path) (cause : FileError)
  | nullInFolder
  | nullInName
  deriving Repr, DecidableEq

def SaveError.message : SaveError → String
  | .unwritable target cause =>
    s!"Cannot save diagram to {target}: {cause.message}: {Text.quoted target.toString}"
  | .nullInFolder | .nullInName => "embedded null byte"

namespace FileTree

def startOf (here p : Path) : Place :=
  if p.isAbsolute then [] else here.parts

/-- The place that the last name of a path leads to from the folder of the others. -/
def placeIn (folder : Place) (p : Path) : Place :=
  match p.parts.getLast? with
  | none => folder
  | some name => if name = ".." then folder.dropLast else folder ++ [name]

def writeAt (t : FileTree) (here p : Path) (bytes : ByteArray) : Except FileError FileTree := do
  t.write (placeIn (← t.walk (startOf here p) p.parent.parts) p) bytes

end FileTree

namespace Diagram

/-- Where a diagram is saved: at a path, or under its own name in a folder. -/
def saveTarget (d : Diagram) (s : Settings) (folder path : Option String) : Path :=
  let path := path.getD ""
  if path ≠ "" then Path.ofString path
  else (Path.ofString (folder.getD "")).child (d.defaultFileName s)

def holdsNull (name : String) : Bool :=
  name.toList.contains '\x00'

/-- Saves a diagram: the tree that is left behind, also by a failure, and the path of the file. -/
def saving (d : Diagram) (s : Settings) (text : String) (files : FileTree) (here : Path)
    (folder path : Option String := none) : FileTree × Except SaveError Path :=
  let target := d.saveTarget s folder path
  if target.parent.parts.any holdsNull then (files, .error .nullInFolder)
  else match files.makeFoldersFrom (FileTree.startOf here target) target.parent.parts with
    | (files, .error cause) => (files, .error (.unwritable target cause))
    | (files, .ok place) =>
      if holdsNull target.name then (files, .error .nullInName)
      else match files.write (FileTree.placeIn place target) text.toUTF8 with
        | .error cause => (files, .error (.unwritable target cause))
        | .ok files => (files, .ok target)

/-- The path under which a diagram is saved and the tree with its file, if it can be saved. -/
def save (d : Diagram) (s : Settings) (text : String) (files : FileTree) (here : Path)
    (folder path : Option String := none) : Except SaveError (Path × FileTree) :=
  let (files, saved) := d.saving s text files here folder path
  saved.map fun target => (target, files)

end Diagram

/-! ## Previews -/

inductive PreviewError where
  | wrongFormat
  /-- The path of the diagram has no last name that an image could be named by. -/
  | noName (target : Path)
  | refused (target : Path) (reason : String)
  | unwritable (target : Path) (cause : FileError)
  deriving Repr, DecidableEq

def PreviewError.message : PreviewError → String
  | .wrongFormat => "Previews can only be rendered for PlantUML diagrams"
  | .noName target => s!"PosixPath({Text.quoted target.toString}) has an empty name"
  | .refused target reason => s!"Cannot render preview of {target}: {reason}"
  | .unwritable target cause => s!"Cannot render preview of {target}: {cause.message}"

/-- What turns the text of a diagram into an image, or says why there is none: the text is refused,
or what comes back for it is no image. -/
abbrev Renderer := String → Except String ByteArray

/-- Renders an image beside the file of a diagram, in the format that can be rendered. -/
def renderPreview (s : Settings) (renderer : Renderer) (text : String) (target : Path)
    (files : FileTree) (here : Path) : Except PreviewError (Path × FileTree) := do
  if s.diagramFormat ≠ .plantUml then throw .wrongFormat
  if target.parts.isEmpty then throw (.noName target)
  let image := target.withEnding ".png"
  let bytes ← (renderer text).mapError (.refused target)
  match files.writeAt here image bytes with
  | .ok files => return (image, files)
  | .error cause => throw (.unwritable target cause)

end CallDiagram
