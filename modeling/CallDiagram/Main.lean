import CallDiagram.CommandLine.Run
import CallDiagram.Settings.Load

/-! # The program

Reads the source files and settings below the current folder, runs the command line, and writes what
it leaves behind.
-/

namespace CallDiagram.Main

def placeOf (path : String) : Place :=
  (Path.ofString path).parts

/-- Whether the content of a file matters, and not only that it is there. -/
def isRead (name : String) : Bool :=
  name.endsWith ".py" || name = ".env"

/-- The tree with a folder and all that is below it. -/
partial def readFolder (t : FileTree) (folder : IO.FS.DirEntry) : IO FileTree := do
  let mut t := (t.makeFolders (placeOf folder.path.toString)).toOption.getD t
  for entry in ← folder.path.readDir do
    if ← entry.path.isDir then t ← readFolder t entry
    else
      let bytes ← if isRead entry.fileName then IO.FS.readBinFile entry.path else pure .empty
      t := (t.write (placeOf entry.path.toString) bytes).toOption.getD t
  return t

def readEnvironment : IO (Table String String) :=
  SettingName.all.filterMapM fun name => do
    let name := String.ofList (name.variableName.toList.map Char.toUpper)
    return (← IO.getEnv name).map (name, ·)

def writeChanges (before after : FileTree) : IO Unit := do
  for (place, bytes) in after.files do
    if !(before.files.get? place).any fun old => old.data = bytes.data then
      IO.FS.createDirAll (⟨.root, place.dropLast⟩ : Path).toString
      IO.FS.writeBinFile (⟨.root, place⟩ : Path).toString bytes

end CallDiagram.Main

open CallDiagram in
def main (words : List String) : IO UInt32 := do
  let here ← IO.currentDir
  let files ← Main.readFolder .empty ⟨here, "."⟩
  let session : Session :=
    { files, here := ⟨.root, Main.placeOf here.toString⟩, environment := ← Main.readEnvironment
      loader := SettingSources.loader }
  match CommandLine.run session words with
  | .error e =>
    IO.eprintln e.message
    return 1
  | .ok outcome =>
    Main.writeChanges files outcome.files
    IO.print outcome.output
    IO.eprint outcome.errors
    return outcome.exitCode.toUInt32
