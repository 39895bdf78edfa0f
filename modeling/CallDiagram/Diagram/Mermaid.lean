import CallDiagram.Diagram.Basic

/-! # Diagrams in Mermaid -/

namespace CallDiagram.Mermaid

abbrev lineBreak : String := Format.mermaid.lineBreak

def participantLine (l : Lifeline) : String :=
  s!"    participant {l.id} as " ++ l.caption lineBreak

/-- The line of a message. Calls activate their receiver, returns deactivate their sender. -/
def messageLine (s : Settings) (m : Message) : String :=
  let label := m.shownLabel s lineBreak
  match m.kind with
  | .call => s!"    {m.sender.id} ->>+ {m.receiver.id}: " ++ label
  | .return => s!"    {m.sender.id} -->>- {m.receiver.id}: " ++ label
  | .note => s!"    Note over {m.receiver.id}: " ++ label

def lines (s : Settings) (d : Diagram) : List String :=
  ["%%\x7binit: \x7b'theme':'" ++ s.diagramTheme ++ "'\x7d\x7d%%", "sequenceDiagram",
    "    title " ++ d.title, ""]
  ++ d.registry.lifelines.map participantLine ++ [""]
  ++ d.messages.map (messageLine s)

end CallDiagram.Mermaid
