/-! # Command line options

The options of the program, how they are written, and which of them take a value.
-/

namespace CallDiagram.CommandLine

inductive Switch where
  | help
  | function
  | line
  | column
  | root
  | format
  | maxDepth
  | output
  | save
  | preview
  | omitDetails
  | omitNumbers
  | signatures
  | verbose
  deriving Repr, DecidableEq, Inhabited

namespace Switch

/-- All options in the order in which they are searched. -/
def all : List Switch :=
  [.help, .function, .line, .column, .root, .format, .maxDepth, .output, .save, .preview,
    .omitDetails, .omitNumbers, .signatures, .verbose]

def spellings : Switch → List String
  | .help => ["-h", "--help"]
  | .function => ["-f", "--function"]
  | .line => ["-l", "--line"]
  | .column => ["-c", "--column"]
  | .root => ["--root"]
  | .format => ["--format"]
  | .maxDepth => ["--max-depth"]
  | .output => ["-o", "--output"]
  | .save => ["--save"]
  | .preview => ["--preview"]
  | .omitDetails => ["--omit-details"]
  | .omitNumbers => ["--omit-numbers"]
  | .signatures => ["--signatures"]
  | .verbose => ["-v", "--verbose"]

def takesValue : Switch → Bool
  | .function | .line | .column | .root | .format | .maxDepth | .output => true
  | _ => false

def title (o : Switch) : String :=
  "/".intercalate o.spellings

def table : List (String × Switch) :=
  all.flatMap fun o => o.spellings.map (·, o)

def ofSpelling? (s : String) : Option Switch :=
  (table.find? (·.1 = s)).map (·.2)

end Switch

end CallDiagram.CommandLine
