import CallDiagram.Diagram.Mermaid
import CallDiagram.Diagram.PlantUml

/-! # Diagrams as text -/

namespace CallDiagram

def Format.lines (f : Format) (s : Settings) (d : Diagram) : List String :=
  match f with
  | .mermaid => Mermaid.lines s d
  | .plantUml => PlantUml.lines s d

/-- A diagram in a format; every line ends in a line feed. -/
def Diagram.markup (d : Diagram) (f : Format) (s : Settings) : String :=
  "\n".intercalate (f.lines s d) ++ "\n"

def Diagram.render (d : Diagram) (s : Settings) : String :=
  d.markup s.diagramFormat s

end CallDiagram
