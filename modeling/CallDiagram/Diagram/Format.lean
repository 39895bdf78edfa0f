import CallDiagram.Text.Case

/-! # Diagram formats

The languages in which sequence diagrams are written.
-/

namespace CallDiagram

inductive Format where
  | mermaid
  | plantUml
  deriving Repr, DecidableEq, Inhabited

namespace Format

def all : List Format :=
  [.mermaid, .plantUml]

def name : Format → String
  | .mermaid => "mermaid"
  | .plantUml => "plantuml"

def ending : Format → String
  | .mermaid => "mmd"
  | .plantUml => "puml"

def lineBreak : Format → String
  | .mermaid => "<br>"
  | .plantUml => "\\n"

def ofName? (name : String) : Option Format :=
  all.find? (·.name = name)

/-- The format of a name in any case. -/
def find? (name : String) : Option Format :=
  ofName? (Text.lower name)

def unknownMessage (name : String) : String :=
  s!"Unknown diagram format: '{name}'. Available formats: " ++ ", ".intercalate (all.map Format.name)

end Format

end CallDiagram
