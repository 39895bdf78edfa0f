import CallDiagram.Diagram.Format
import CallDiagram.Table
import CallDiagram.Text.Blank
import CallDiagram.Text.Split

/-! # Settings

What a user decides about diagrams. Numbers carry their bounds in their types.
-/

namespace CallDiagram

open Text

/-- How deep calls are followed. -/
abbrev Depth := { n : Nat // 1 ≤ n ∧ n ≤ 32 }

abbrev Measure := { n : Nat // 0 < n }

structure Settings where
  /-- Globs for the files whose functions are left out. -/
  ignoreOnGenerate : List String := []
  ignoreNonWorkspaceFiles : Bool := true
  ignoreThirdPartyPackages : Bool := true
  /-- An interpreter; it stands for the environment that it belongs to. -/
  interpreterPath : String := ""
  venvFolders : List String := []
  /-- More such folders, between commas or semicolons. -/
  venvPath : String := ""
  /-- The folders of the workspace; those of the hierarchy if there are none. -/
  workspaceRoots : List String := []
  maxCallDepth : Depth := ⟨5, by decide⟩
  omitMessageDetails : Bool := false
  omitSequenceNumbers : Bool := false
  /-- Whether calls show the parameters of the callee in place of the arguments. -/
  showSignatures : Bool := false
  returnMessageLabel : String := "return value"
  wrapWidth : Measure := ⟨30, by decide⟩
  softWrapLimit : Measure := ⟨10, by decide⟩
  /-- The names that methods give to their own object. -/
  selfTokens : List String := ["self"]
  diagramFormat : Format := .mermaid
  diagramTheme : String := "forest"
  saveAutomatically : Bool := false
  openAutomatically : Bool := true
  plantUmlServer : String := "http://www.plantuml.com/plantuml/img/"
  logLevel : String := "INFO"
  deriving Repr, DecidableEq, Inhabited

namespace Settings

/-- The settings where nothing is set. -/
def usual : Settings := {}

def pathItems (s : String) : List String :=
  let cs := s.toList.map fun c => if c = ';' then ',' else c
  ((splitOnChar ',' cs).map fun item => String.ofList (strip item)).filter (· ≠ "")

/-- The folders whose files count as foreign packages. -/
def thirdPartyPaths (s : Settings) : List String :=
  [".venv", ".conda"] ++ [s.interpreterPath].filter (· ≠ "") ++ s.venvFolders.filter (· ≠ "")
    ++ pathItems s.venvPath

end Settings

/-! ## Loading

Where settings come from is not the concern of what is drawn with them. Whatever loads them looks at
the values that a front end sets, the variables of the environment, and the bytes of the environment
file, if there is one, and at nothing else.
-/

/-- A value before its type is checked. -/
inductive Value where
  | null
  | bool (b : Bool)
  | integer (i : Int)
  /-- A number that is not whole. -/
  | fraction
  | text (s : String)
  | list (items : List Value)
  | record
  deriving Repr, Inhabited

/-- Why there are no settings. -/
inductive SettingsFailure where
  /-- Values do not fit; the report says which and why. -/
  | invalid (report : String)
  /-- The values cannot be read at all. -/
  | stopped (reason : String)
  deriving Repr, DecidableEq

def SettingsFailure.message : SettingsFailure → String
  | invalid report => report
  | stopped reason => reason

abbrev SettingsLoader :=
  (given : List (String × Value)) → (environment : Table String String) →
    (envFile : Option ByteArray) → Except SettingsFailure Settings

end CallDiagram
