import CallDiagram.Settings.Basic
import CallDiagram.Settings.EnvFile
import CallDiagram.Settings.Value
import CallDiagram.Text.Utf8

/-! # The loader of the program

Each setting is taken from the values given for it, else from the environment, else from the
environment file, else it has its default. Values of a near type are converted; all values that
cannot be converted are found together, and the report says how many they are. An environment file
that is no UTF-8 cannot be read.
-/

namespace CallDiagram

open Text

/-- The settings by name, in the order in which they are reported. -/
inductive SettingName where
  | ignoreOnGenerate
  | ignoreNonWorkspaceFiles
  | ignoreThirdPartyPackages
  | interpreterPath
  | venvFolders
  | venvPath
  | workspaceRoots
  | maxCallDepth
  | omitMessageDetails
  | omitSequenceNumbers
  | showSignatures
  | returnMessageLabel
  | wrapWidth
  | softWrapLimit
  | selfTokens
  | diagramFormat
  | diagramTheme
  | saveAutomatically
  | openAutomatically
  | plantUmlServer
  | logLevel
  deriving Repr, DecidableEq, Inhabited

namespace SettingName

def all : List SettingName :=
  [.ignoreOnGenerate, .ignoreNonWorkspaceFiles, .ignoreThirdPartyPackages, .interpreterPath,
    .venvFolders, .venvPath, .workspaceRoots, .maxCallDepth, .omitMessageDetails,
    .omitSequenceNumbers, .showSignatures, .returnMessageLabel, .wrapWidth, .softWrapLimit,
    .selfTokens, .diagramFormat, .diagramTheme, .saveAutomatically, .openAutomatically,
    .plantUmlServer, .logLevel]

def text : SettingName → String
  | .ignoreOnGenerate => "ignore_on_generate"
  | .ignoreNonWorkspaceFiles => "ignore_non_workspace_files"
  | .ignoreThirdPartyPackages => "ignore_third_party_packages"
  | .interpreterPath => "python_path"
  | .venvFolders => "venv_folders"
  | .venvPath => "venv_path"
  | .workspaceRoots => "workspace_roots"
  | .maxCallDepth => "max_call_depth"
  | .omitMessageDetails => "omit_message_details"
  | .omitSequenceNumbers => "omit_sequence_numbers"
  | .showSignatures => "show_signatures_instead_parameters"
  | .returnMessageLabel => "return_message_label"
  | .wrapWidth => "wrap_width"
  | .softWrapLimit => "soft_wrap_limit"
  | .selfTokens => "self_tokens"
  | .diagramFormat => "diagram_format"
  | .diagramTheme => "diagram_theme"
  | .saveAutomatically => "save_automatically"
  | .openAutomatically => "open_automatically"
  | .plantUmlServer => "plantuml_server_url"
  | .logLevel => "log_level"

/-- Whether the setting is a list; in an environment lists are written in JSON. -/
def isList : SettingName → Bool
  | .ignoreOnGenerate | .venvFolders | .workspaceRoots | .selfTokens => true
  | _ => false

def variableName (n : SettingName) : String :=
  "pyseq_" ++ n.text

end SettingName

inductive Misfit where
  | belowMinimum
  | aboveMaximum
  | integerText
  | longIntegerText
  | fraction
  | noInteger
  | boolText
  | noBool
  | noText
  | noList
  | noChoice
  | noToken
  deriving Repr, DecidableEq

/-- A value that does not fit, with its index if it is an item of a list. -/
structure Fault where
  setting : SettingName
  item : Option Nat
  misfit : Misfit
  deriving Repr, DecidableEq

inductive SettingsError where
  | undecodable (e : Utf8Error)
  | unreadable (setting : SettingName)
  | invalid (faults : List Fault)
  deriving Repr, DecidableEq

namespace SettingsError

def count (faults : List Fault) : String :=
  let n := faults.length
  s!"{n} validation error" ++ (if n = 1 then "" else "s") ++ " for Settings"

def failure : SettingsError → SettingsFailure
  | undecodable e => .stopped e.message
  | unreadable setting => .stopped s!"error parsing value for field \"{setting.text}\""
  | invalid faults => .invalid (count faults)

end SettingsError

/-! ## Converting values -/

namespace Value

/-- An integer's text without leading zeros; nothing if it does not start as an integer. Of a text
of zeros and underscores the last character stays. -/
def dropZeros? (cs : List Char) : Option (List Char) :=
  match cs with
  | '0' :: rest =>
    match rest.dropWhile fun c => c = '0' || c = '_' with
    | [] => some [cs.getLastD '0']
    | '.' :: _ => some (cs.drop ((rest.takeWhile fun c => c = '0' || c = '_').length))
    | c :: behind => if '1' ≤ c ∧ c ≤ '9' then some (c :: behind) else none
  | c :: _ => if ('1' ≤ c ∧ c ≤ '9') ∨ c = '-' then some cs else none
  | [] => none

/-- A text without a point that only zeros follow. -/
def dropPointZeros (cs : List Char) : List Char :=
  match cs.dropWhile (· ≠ '.') with
  | '.' :: rest => if rest.all (· = '0') then cs.takeWhile (· ≠ '.') else cs
  | _ => cs

/-- A text without its underscores, if they stand singly inside it. -/
def dropUnderscores (cs : List Char) : List Char :=
  if cs.head? = some '_' || cs.getLast? = some '_' || (cutAt? ['_', '_'] cs).isSome then cs
  else cs.filter (· ≠ '_')

def plainInteger? (cs : List Char) : Option Int :=
  let (negative, digits) := match cs with
    | '-' :: rest => (true, rest)
    | '+' :: rest => (false, rest)
    | _ => (false, cs)
  if digits.isEmpty || !digits.all Char.isDigit then none
  else
    let value : Int := ofDigits (digits.map fun d => d.toNat - '0'.toNat)
    some (if negative then -value else value)

/-- The integer that a setting's text spells: white space around, one plus sign, leading zeros,
single underscores and a point with zeros are allowed. -/
def integerOfText? (s : String) : Option Int := do
  let cs := dropEnds isNumberBlank s.toList
  let cs ← match cs with
    | '+' :: '-' :: _ => none
    | '+' :: rest => some rest
    | _ => some cs
  plainInteger? (dropUnderscores (dropPointZeros (← dropZeros? cs)))

def toInteger : Value → Except Misfit Int
  | .integer i => .ok i
  | .bool b => .ok (if b then 1 else 0)
  | .fraction => .error .fraction
  | .text s =>
    if digitLimit < s.utf8ByteSize then .error .longIntegerText
    else match integerOfText? s with
      | some i => .ok i
      | none => .error .integerText
  | _ => .error .noInteger

def toDepth (v : Value) : Except Misfit Depth := do
  let i ← v.toInteger
  if low : i < 1 then throw .belowMinimum
  else if high : 32 < i then throw .aboveMaximum
  else return ⟨i.toNat, by omega⟩

def toMeasure (v : Value) : Except Misfit Measure := do
  let i ← v.toInteger
  if low : i < 1 then throw .belowMinimum
  else return ⟨i.toNat, by omega⟩

def boolWords : List (String × Bool) :=
  [("0", false), ("off", false), ("f", false), ("false", false), ("n", false), ("no", false),
    ("1", true), ("on", true), ("t", true), ("true", true), ("y", true), ("yes", true)]

def toBool : Value → Except Misfit Bool
  | .bool b => .ok b
  | .integer 0 => .ok false
  | .integer 1 => .ok true
  | .integer _ => .error .boolText
  | .text s =>
    match boolWords.find? (·.1 = String.ofList (s.toList.map Char.toLower)) with
    | some (_, b) => .ok b
    | none => .error .boolText
  | _ => .error .noBool

def toText : Value → Except Misfit String
  | .text s => .ok s
  | _ => .error .noText

def toFormat : Value → Except Misfit Format
  | .text s =>
    match Format.ofName? s with
    | some f => .ok f
    | none => .error .noChoice
  | _ => .error .noChoice

end Value

/-- A value that was looked for, or all the faults that were found on the way. -/
abbrev Checked (α : Type) := Except (List Fault) α

namespace Checked

variable {α β : Type}

/-- Goes on with one more value; the faults of both sides are kept. -/
def and (f : Checked (α → β)) (a : Checked α) : Checked β :=
  match f, a with
  | .ok f, .ok a => .ok (f a)
  | .error faults, .ok _ => .error faults
  | .ok _, .error faults => .error faults
  | .error first, .error second => .error (first ++ second)

end Checked

abbrev Given := SettingName → Option Value

namespace Given

variable {α : Type}

def one (given : Given) (name : SettingName) (default : α) (convert : Value → Except Misfit α) :
    Checked α :=
  match given name with
  | none => .ok default
  | some v => (convert v).mapError fun misfit => [⟨name, none, misfit⟩]

/-- The texts of a list of values, or the faults of those that are none. -/
def texts (name : SettingName) : (index : Nat) → List Value → Checked (List String)
  | _, [] => .ok []
  | index, v :: vs =>
    (Checked.and (.ok (· :: ·)) (v.toText.mapError fun misfit => [⟨name, some index, misfit⟩])).and
      (texts name (index + 1) vs)

def many (given : Given) (name : SettingName) (default : List String) : Checked (List String) :=
  match given name with
  | none => .ok default
  | some (.list items) => texts name 0 items
  | some _ => .error [⟨name, none, .noList⟩]

/-- The tokens without blanks around them; empty ones do not count, but one has to be there. -/
def tokens (given : Given) (default : List String) : Checked (List String) :=
  match given .selfTokens with
  | none => .ok default
  | some _ => do
    let all ← given.many .selfTokens default
    let tokens := (all.map stripped).filter (· ≠ "")
    if tokens.isEmpty then .error [⟨.selfTokens, none, .noToken⟩] else .ok tokens

/-- A label for return messages; an empty one becomes a space, because some diagram languages
refuse messages without text. -/
def label (given : Given) (default : String) : Checked String :=
  (given.one .returnMessageLabel default Value.toText).map fun s => if s = "" then " " else s

def settings (given : Given) : Checked Settings :=
  let d := Settings.usual
  let start : Checked _ := .ok Settings.mk
  start
    |>.and (given.many .ignoreOnGenerate d.ignoreOnGenerate)
    |>.and (given.one .ignoreNonWorkspaceFiles d.ignoreNonWorkspaceFiles Value.toBool)
    |>.and (given.one .ignoreThirdPartyPackages d.ignoreThirdPartyPackages Value.toBool)
    |>.and (given.one .interpreterPath d.interpreterPath Value.toText)
    |>.and (given.many .venvFolders d.venvFolders)
    |>.and (given.one .venvPath d.venvPath Value.toText)
    |>.and (given.many .workspaceRoots d.workspaceRoots)
    |>.and (given.one .maxCallDepth d.maxCallDepth Value.toDepth)
    |>.and (given.one .omitMessageDetails d.omitMessageDetails Value.toBool)
    |>.and (given.one .omitSequenceNumbers d.omitSequenceNumbers Value.toBool)
    |>.and (given.one .showSignatures d.showSignatures Value.toBool)
    |>.and (given.label d.returnMessageLabel)
    |>.and (given.one .wrapWidth d.wrapWidth Value.toMeasure)
    |>.and (given.one .softWrapLimit d.softWrapLimit Value.toMeasure)
    |>.and (given.tokens d.selfTokens)
    |>.and (given.one .diagramFormat d.diagramFormat Value.toFormat)
    |>.and (given.one .diagramTheme d.diagramTheme Value.toText)
    |>.and (given.one .saveAutomatically d.saveAutomatically Value.toBool)
    |>.and (given.one .openAutomatically d.openAutomatically Value.toBool)
    |>.and (given.one .plantUmlServer d.plantUmlServer Value.toText)
    |>.and (given.one .logLevel d.logLevel Value.toText)

end Given

/-! ## Sources of values -/

/-- Where settings come from. -/
structure SettingSources where
  given : List (String × Value) := []
  environment : Table String String := []
  envFile : Option ByteArray := none

namespace SettingSources

/-- The last value of a name in any case. -/
def lastOf? {α : Type} (entries : List (String × α)) (name : String) : Option α :=
  (entries.reverse.find? fun e => lower e.1 = name).map (·.2)

/-- The values of variables; a list that is not JSON cannot be read, and the word for nothing
stands for no value. -/
def readVariables (entries : List (String × Option String)) :
    Except SettingsError (Table SettingName Value) :=
  SettingName.all.foldlM (fun (found : Table SettingName Value) name =>
    match (lastOf? entries name.variableName).join with
    | none => return found
    | some s =>
      if name.isList then
        match Value.ofJson? s with
        | none => throw (.unreadable name)
        | some .null => return found
        | some v => return found.set name v
      else return found.set name (.text s)) []

/-- The text of the environment file, with line ends in one form. -/
def envText (sources : SettingSources) : Except SettingsError String :=
  match sources.envFile with
  | none => .ok ""
  | some bytes => do
    let text ← (readUtf8 bytes).mapError .undecodable
    return String.ofList (unifyLineEnds text.toList)

def load (sources : SettingSources) : Except SettingsError Settings := do
  let text ← sources.envText
  let environment ← readVariables (sources.environment.map fun (k, v) => (k, some v))
  let file ← readVariables (EnvFile.assignments sources.environment text)
  let given : Given := fun name =>
    lastOf? sources.given name.text <|> environment.get? name <|> file.get? name
  (Given.settings given).mapError .invalid

def loader : SettingsLoader := fun given environment envFile =>
  ({ given, environment, envFile : SettingSources }.load).mapError SettingsError.failure

end SettingSources

end CallDiagram
