import CallDiagram.Table
import CallDiagram.Text.Blank
import CallDiagram.Text.Split

/-! # Environment files

A file of lines `NAME=value`. Values may be quoted; values in quotes may span lines and hold escapes,
all others end at a comment. A value may refer to variables as `$\x7bNAME\x7d`. Lines that cannot be
read are passed over.
-/

namespace CallDiagram.EnvFile

open Text

/-- A name and its value; a name alone has none. -/
abbrev Binding := List Char × Option (List Char)

def isInlineBlank (c : Char) : Bool :=
  isBlank c && c != '\n'

def dropInline (cs : List Char) : List Char :=
  cs.dropWhile isInlineBlank

def dropLine (cs : List Char) : List Char :=
  (cs.dropWhile (· ≠ '\n')).drop 1

def dropExport (cs : List Char) : List Char :=
  match afterPrefix? "export".toList cs with
  | some rest => if rest.head?.any isInlineBlank then dropInline rest else cs
  | none => cs

/-- The text up to the closing quote, and what follows it. A quote behind a backslash does not
close, unless it is the last one. -/
def closeQuote? (quote : Char) : List Char → Option (List Char × List Char)
  | [] => none
  | '\\' :: c :: rest =>
    if c = quote then
      match closeQuote? quote rest with
      | some (inside, behind) => some ('\\' :: c :: inside, behind)
      | none => some (['\\'], rest)
    else (closeQuote? quote (c :: rest)).map fun (inside, behind) => ('\\' :: inside, behind)
  | c :: rest =>
    if c = quote then some ([], rest)
    else (closeQuote? quote rest).map fun (inside, behind) => (c :: inside, behind)

def doubleEscapes : Table Char Char :=
  [('\\', '\\'), ('\'', '\''), ('"', '"'), ('a', '\x07'), ('b', '\x08'), ('f', '\x0c'),
    ('n', '\n'), ('r', '\r'), ('t', '\t'), ('v', '\x0b')]

def singleEscapes : Table Char Char :=
  [('\\', '\\'), ('\'', '\'')]

/-- A text with its escapes replaced; a backslash before any other character is plain. -/
def unescape (escapes : Table Char Char) : List Char → List Char
  | '\\' :: c :: rest =>
    match escapes.get? c with
    | some d => d :: unescape escapes rest
    | none => '\\' :: unescape escapes (c :: rest)
  | c :: rest => c :: unescape escapes rest
  | [] => []

def beforeComment : List Char → List Char
  | [] => []
  | c :: rest =>
    if isBlank c && ((c :: rest).dropWhile isBlank).head? = some '#' then []
    else c :: beforeComment rest

def dropComment (cs : List Char) : List Char :=
  match dropInline cs with
  | '#' :: rest => rest.dropWhile (· ≠ '\n')
  | _ => cs

def endLine? (cs : List Char) : Option (List Char) :=
  match dropInline cs with
  | [] => some []
  | '\n' :: rest => some rest
  | _ => none

def readName (cs : List Char) : Option (Option (List Char) × List Char) :=
  match cs with
  | '#' :: _ => some (none, cs)
  | '\'' :: rest =>
    match rest.dropWhile (· ≠ '\'') with
    | '\'' :: behind =>
      let name := rest.takeWhile (· ≠ '\'')
      if name.isEmpty then none else some (some name, behind)
    | _ => none
  | _ =>
    let isNameChar (c : Char) := c ≠ '=' && c ≠ '#' && !isBlank c
    let name := cs.takeWhile isNameChar
    if name.isEmpty then none else some (some name, cs.dropWhile isNameChar)

def readValue (cs : List Char) : Option (List Char × List Char) :=
  match cs with
  | '\'' :: rest => (closeQuote? '\'' rest).map fun (inside, behind) =>
    (unescape singleEscapes inside, behind)
  | '"' :: rest => (closeQuote? '"' rest).map fun (inside, behind) =>
    (unescape doubleEscapes inside, behind)
  | _ => some (stripEnd (beforeComment (cs.takeWhile (· ≠ '\n'))), cs.dropWhile (· ≠ '\n'))

/-- What a name's line goes on with: the value, if there is one, and what follows. Where that
cannot be read, what is left when reading stops. -/
def readRest (cs : List Char) : Except (List Char) (Option (List Char) × List Char) := do
  let (value, rest) ← match dropInline cs with
    | '=' :: rest =>
      match readValue (dropInline rest) with
      | some (value, rest) => pure (some value, rest)
      | none => throw (dropInline rest)
    | rest => pure (none, rest)
  let rest := dropComment rest
  match endLine? rest with
  | some rest => return (value, rest)
  | none => throw rest

/-- The first binding of a file, if its line holds one, and what follows that line. -/
def readBinding (cs : List Char) : Option Binding × List Char :=
  let cs := dropExport (cs.dropWhile isBlank)
  match readName cs with
  | none => (none, dropLine cs)
  | some (name, rest) =>
    match readRest rest with
    | .error rest => (none, dropLine rest)
    | .ok (value, rest) => (name.map (·, value), rest)

def bindings (cs : List Char) : List Binding :=
  let (binding, rest) := readBinding cs
  let found := binding.toList
  if _h : rest.length < cs.length then found ++ bindings rest else found
termination_by cs.length

/-- The first reference to a variable at the start of a text: its name, its default, and what
follows. -/
def reference? (cs : List Char) : Option (String × String × List Char) := do
  let '$' :: '\x7b' :: rest := cs | none
  let isNameChar (c : Char) := c ≠ '\x7d' && c ≠ ':'
  let name := String.ofList (rest.takeWhile isNameChar)
  match rest.dropWhile isNameChar with
  | '\x7d' :: behind => return (name, "", behind)
  | ':' :: '-' :: rest =>
    let '\x7d' :: behind := rest.dropWhile (· ≠ '\x7d') | none
    return (name, String.ofList (rest.takeWhile (· ≠ '\x7d')), behind)
  | _ => none

/-- A text with the references to variables replaced; a variable without value has its default. -/
def expand (valueOf : String → Option String) (cs : List Char) : List Char :=
  match cs with
  | [] => []
  | c :: rest =>
    match reference? (c :: rest) with
    | some (name, default, behind) =>
      if _h : behind.length < (c :: rest).length then
        ((valueOf name).getD default).toList ++ expand valueOf behind
      else c :: expand valueOf rest
    | none => c :: expand valueOf rest
termination_by cs.length
decreasing_by
  · exact _h
  · exact Nat.lt_succ_self _
  · exact Nat.lt_succ_self _

/-- The variables of a file. References look first at the variables before them, then at the
environment; a name without value counts as empty there. -/
def assignments (environment : Table String String) (text : String) :
    Table String (Option String) :=
  (bindings text.toList).foldl (fun (known : Table String (Option String)) (name, value) =>
    let valueOf (name : String) : Option String :=
      match known.get? name with
      | some value => some (value.getD "")
      | none => environment.get? name
    known.set (String.ofList name)
      (value.map fun cs => String.ofList (expand valueOf cs))) []

end CallDiagram.EnvFile
