import CallDiagram.Diagram.Basic

/-! # Diagrams in PlantUML -/

namespace CallDiagram.PlantUml

abbrev lineBreak : String := Format.plantUml.lineBreak

def participantLine (l : Lifeline) : String :=
  "participant \"" ++ l.caption lineBreak ++ "\" as " ++ l.id

/-- The lines of a message. Calls activate their receiver, returns deactivate their sender. -/
def messageLines (s : Settings) (m : Message) : List String :=
  let label := m.shownLabel s lineBreak
  match m.kind with
  | .call =>
    [s!"{m.sender.id} -> {m.receiver.id} : " ++ label, "activate " ++ m.receiver.id]
  | .return =>
    [s!"{m.sender.id} --> {m.receiver.id} : " ++ label, "deactivate " ++ m.sender.id]
  | .note => [s!"note over {m.receiver.id} : " ++ label]

def lines (s : Settings) (d : Diagram) : List String :=
  ["@startuml", "title " ++ d.title, "", "' -- Styling --", "skinparam sequenceArrowThickness 2",
    "skinparam participantPadding 20", "", "' -- Participants --"]
  ++ d.registry.lifelines.map participantLine ++ ["", "' -- Sequence --"]
  ++ d.messages.flatMap (messageLines s) ++ ["", "@enduml"]

end CallDiagram.PlantUml
