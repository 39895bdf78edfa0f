import CallDiagram.CommandLine.Option
import CallDiagram.Diagram.Format
import CallDiagram.Text.Digit
import CallDiagram.Text.Quoted
import CallDiagram.Text.Split

/-! # Command line arguments

The words of a command line are read from left to right. Options may be shortened as long as only
one option fits; values follow as words of their own or behind an equals sign, and options of one
letter may be joined. Behind a word of two dashes all words are values.
-/

namespace CallDiagram.CommandLine

open Text

structure Arguments where
  path : String := ""
  function : Option String := none
  line : Option Int := none
  column : Option Int := none
  root : Option String := none
  format : Option String := none
  maxDepth : Option Int := none
  output : Option String := none
  save : Bool := false
  preview : Bool := false
  omitDetails : Bool := false
  omitNumbers : Bool := false
  signatures : Bool := false
  verbose : Bool := false
  deriving Repr, DecidableEq, Inhabited

inductive UsageError where
  | ambiguous (word : String) (matching : List String)
  | noValue (option : Switch)
  | noInteger (option : Switch) (value : String)
  | noChoice (option : Switch) (value : String)
  | surplusValue (option : Switch) (value : String)
  | notTogether (option other : Switch)
  | noPath
  | noEntry
  | unknown (words : List String)
  | columnWithoutLine
  deriving Repr, DecidableEq

def aboutOption (option : Switch) (text : String) : String :=
  s!"argument {option.title}: " ++ text

def UsageError.message : UsageError → String
  | ambiguous word matching =>
    s!"ambiguous option: {word} could match " ++ ", ".intercalate matching
  | noValue option => aboutOption option "expected one argument"
  | noInteger option value => aboutOption option s!"invalid int value: {quoted value}"
  | noChoice option value =>
    aboutOption option (s!"invalid choice: {quoted value} (choose from "
      ++ ", ".intercalate (Format.all.map fun f => quoted f.name) ++ ")")
  | surplusValue option value => aboutOption option s!"ignored explicit argument {quoted value}"
  | notTogether option other => aboutOption option s!"not allowed with argument {other.title}"
  | noPath => "the following arguments are required: path"
  | noEntry =>
    s!"one of the arguments {Switch.function.title} {Switch.line.title} is required"
  | unknown words => "unrecognized arguments: " ++ " ".intercalate words
  | columnWithoutLine => "--column requires --line"

/-! ## Words -/

inductive Word where
  | value (text : String)
  /-- Two dashes: all that follows is values. -/
  | dashes
  /-- An option, how it was written, and the value in the same word. -/
  | switch (option : Switch) (spelling : String) (attached : Option String)
  /-- It looks like an option but is none. -/
  | unknown (text : String)
  deriving Repr, DecidableEq

/-- Whether a word is a negative number, which is a value although it starts with a dash. -/
def isNegativeNumber (cs : List Char) : Bool :=
  match cs with
  | '-' :: rest =>
    let rest := if rest.getLast? = some '\n' then rest.dropLast else rest
    let isDigit (c : Char) := (digitValue? c).isSome
    match rest.dropWhile isDigit with
    | [] => !rest.isEmpty
    | '.' :: places => !places.isEmpty && places.all isDigit
    | _ => false
  | _ => false

/-- The options that a word may be short for, with their spellings and the value in the word. -/
def candidates (word : String) : List Word :=
  let cs := word.toList
  if cs[1]? = some '-' then
    let (start, behind) := partition '=' cs
    let attached := if cs.contains '=' then some (String.ofList behind) else none
    Switch.table.filterMap fun (spelling, option) =>
      if start.isPrefixOf spelling.toList then some (.switch option spelling attached) else none
  else
    Switch.table.filterMap fun (spelling, option) =>
      if spelling.toList = cs.take 2 then
        some (.switch option spelling (some (String.ofList (cs.drop 2))))
      else if cs.isPrefixOf spelling.toList then some (.switch option spelling none)
      else none

def fullOption? (word : String) : Option Word :=
  match Switch.ofSpelling? word with
  | some option => some (.switch option word none)
  | none =>
    let (start, behind) := partition '=' word.toList
    if word.toList.contains '=' then
      (Switch.ofSpelling? (String.ofList start)).map fun option =>
        .switch option (String.ofList start) (some (String.ofList behind))
    else none

def classify (word : String) : Except UsageError Word :=
  if word.toList.head? ≠ some '-' ∨ word = "-" then .ok (.value word)
  else match fullOption? word with
    | some w => .ok w
    | none =>
      match candidates word with
      | [w] => .ok w
      | [] =>
        if isNegativeNumber word.toList || word.toList.contains ' ' then .ok (.value word)
        else .ok (.unknown word)
      | several => .error (.ambiguous word (several.filterMap fun
          | .switch _ spelling _ => some spelling
          | _ => none))

def classifyAll : List String → Except UsageError (List Word)
  | [] => .ok []
  | word :: words =>
    if word = "--" then .ok (.dashes :: words.map .value)
    else do return (← classify word) :: (← classifyAll words)

/-! ## Reading -/

structure Reading where
  arguments : Arguments := {}
  hasPath : Bool := false
  surplus : List String := []
  deriving Repr, DecidableEq, Inhabited

inductive Stop where
  | usage (e : UsageError)
  | help
  deriving Repr, DecidableEq

def integerOf (option : Switch) (value : String) : Except Stop Int :=
  (readInteger value).mapError fun _ => .usage (.noInteger option value)

def formatOf (value : String) : Except Stop String :=
  if (Format.ofName? value).isSome then .ok value
  else .error (.usage (.noChoice .format value))

def Reading.take (r : Reading) (option : Switch) (value : String) : Except Stop Reading := do
  let a := r.arguments
  let a ← match option with
    | .help => throw .help
    | .function =>
      if a.line.isSome then throw (.usage (.notTogether .function .line))
      pure { a with function := some value }
    | .line =>
      let n ← integerOf .line value
      if a.function.isSome then throw (.usage (.notTogether .line .function))
      pure { a with line := some n }
    | .column => pure { a with column := some (← integerOf .column value) }
    | .root => pure { a with root := some value }
    | .format => pure { a with format := some (← formatOf value) }
    | .maxDepth => pure { a with maxDepth := some (← integerOf .maxDepth value) }
    | .output => pure { a with output := some value }
    | .save => pure { a with save := true }
    | .preview => pure { a with preview := true }
    | .omitDetails => pure { a with omitDetails := true }
    | .omitNumbers => pure { a with omitNumbers := true }
    | .signatures => pure { a with signatures := true }
    | .verbose => pure { a with verbose := true }
  return { r with arguments := a }

/-- The options that are joined in one word, with their values; the last one may lack its value.
`attached` is what the word goes on with. -/
def joined (option : Switch) (isLong : Bool) : (attached : List Char) →
    Except Stop (List (Switch × Option String))
  | [] =>
    if option.takesValue then .ok [(option, some "")]
    else .error (.usage (.surplusValue option ""))
  | c :: rest =>
    if option.takesValue then .ok [(option, some (String.ofList (c :: rest)))]
    else
      let surplus : Stop := .usage (.surplusValue option (String.ofList (c :: rest)))
      if isLong then .error surplus
      else match Switch.ofSpelling? (String.ofList ['-', c]) with
        | none => .error surplus
        | some next =>
          if rest.isEmpty then .ok [(option, some ""), (next, none)]
          else (joined next false rest).map ((option, some "") :: ·)

def Reading.takeAll (r : Reading) : List (Switch × String) → Except Stop Reading
  | [] => .ok r
  | (option, value) :: options => do (← r.take option value).takeAll options

/-- The options of a word with their values, and whether the last value is the next word. -/
def withValues (options : List (Switch × Option String)) (next : Option Word) :
    Except Stop (List (Switch × String) × Bool) :=
  match options with
  | [] => .ok ([], false)
  | (option, some value) :: options =>
    (withValues options next).map fun (rest, usesNext) => ((option, value) :: rest, usesNext)
  | (option, none) :: _ =>
    if option.takesValue then
      match next with
      | some (.value text) => .ok ([(option, text)], true)
      | _ => .error (.usage (.noValue option))
    else .ok ([(option, "")], false)

def dropTaken (isTaken : Bool) (words : List Word) : List Word :=
  if isTaken then words.drop 1 else words

theorem length_dropTaken_le (isTaken : Bool) (words : List Word) :
    (dropTaken isTaken words).length ≤ words.length := by
  cases isTaken <;> simp [dropTaken]

def Reading.withPath (r : Reading) (path : String) : Reading :=
  { r with arguments := { r.arguments with path }, hasPath := true }

def Reading.withSurplus (r : Reading) (word : String) : Reading :=
  { r with surplus := r.surplus ++ [word] }

/-- Reads words. The first value is the path; the dashes around it belong to it. -/
def Reading.read (r : Reading) (words : List Word) : Except Stop Reading :=
  match words with
  | [] => .ok r
  | .switch option spelling attached :: rest => do
    let options ← match attached with
      | none => pure [(option, none)]
      | some text => joined option (spelling.toList[1]? = some '-') text.toList
    let (options, usesNext) ← withValues options rest.head?
    (← r.takeAll options).read (dropTaken usesNext rest)
  | .unknown text :: rest => (r.withSurplus text).read rest
  | .value text :: rest =>
    if r.hasPath then (r.withSurplus text).read rest
    else (r.withPath text).read (dropTaken (rest.head? = some .dashes) rest)
  | .dashes :: .value text :: rest =>
    if r.hasPath then (r.withSurplus "--").read (.value text :: rest)
    else (r.withPath text).read rest
  | .dashes :: rest => (r.withSurplus "--").read rest
termination_by words.length
decreasing_by
  · exact Nat.lt_succ_of_le (length_dropTaken_le ..)
  · exact Nat.lt_succ_self _
  · exact Nat.lt_succ_self _
  · exact Nat.lt_succ_of_le (length_dropTaken_le ..)
  · exact Nat.lt_succ_self _
  · exact Nat.lt_succ_of_lt (Nat.lt_succ_self _)
  · exact Nat.lt_succ_self _

def Reading.finish (r : Reading) : Except UsageError Arguments :=
  let a := r.arguments
  if !r.hasPath then .error .noPath
  else if a.function.isNone && a.line.isNone then .error .noEntry
  else if !r.surplus.isEmpty then .error (.unknown r.surplus)
  else if a.column.isSome && a.line.isNone then .error .columnWithoutLine
  else .ok a

def parse (words : List String) : Except Stop Arguments := do
  let words ← (classifyAll words).mapError .usage
  let r ← ({} : Reading).read words
  r.finish.mapError .usage

end CallDiagram.CommandLine
