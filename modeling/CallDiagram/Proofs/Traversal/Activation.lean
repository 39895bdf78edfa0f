import CallDiagram.Hierarchy.Recorded
import CallDiagram.Proofs.Diagram.Reading
import CallDiagram.Proofs.Traversal.Nesting

/-! # Activations

A reader who notes on a stack who is active while he follows the arrows of a finished diagram finds
every arrow at the participant that was activated last, and nobody active in the end. The forest of
messages carries this: between a call and its return stands a block of the participant called. Line
feeds in a title or a name can only add lines to the text that no message stands for.
-/

namespace CallDiagram

open Text

/-- Who is active after a step, the last one on top, if the step fits: arrows start at the top, and
only the top is deactivated. While nobody is active, the first participant calls. -/
def Step.follow (first : String) (active : List String) : Step → Option (List String)
  | .call sender _ => if active.headD first = sender then some active else none
  | .return sender _ => if active.head? = some sender then some active else none
  | .activate participant => some (participant :: active)
  | .deactivate participant => if active.head? = some participant then some active.tail else none

def follow (first : String) (active : List String) (steps : List Step) : Option (List String) :=
  steps.foldlM (Step.follow first) active

theorem follow_append (first : String) (active : List String) (steps others : List Step) :
    follow first active (steps ++ others) =
      (follow first active steps).bind (follow first · others) :=
  List.foldlM_append

/-- Between a call and its return, its receiver is on top. -/
theorem follow_call {first sender : String} (receiver : String) {active : List String}
    {inside : List Step}
    (top : active.headD first = sender)
    (balanced : follow first (receiver :: active) inside = some (receiver :: active)) :
    follow first active ([.call sender receiver, .activate receiver] ++ inside
      ++ [.return receiver sender, .deactivate receiver]) = some active := by
  have opened : follow first active [.call sender receiver, .activate receiver] =
      some (receiver :: active) := by
    subst top
    simp [follow, Step.follow]
  have closed : follow first (receiver :: active)
      [.return receiver sender, .deactivate receiver] = some active := by
    simp [follow, Step.follow]
  rw [follow_append, follow_append, opened, Option.bind_some, balanced, Option.bind_some, closed]

/-- A block leaves active who was active before. -/
theorem Block.follow {depth index : Nat} {sender : Participant} {number first : String}
    {ms : List Message} (block : Block depth sender number index ms) {active : List String}
    (top : active.headD first = sender.id) :
    follow first active (ms.flatMap Message.steps) = some active := by
  induction block generalizing active with
  | done => rfl
  | @nested sender receiver number label answer index body rest _ _ inner later =>
      have through := follow_call receiver.id top (@inner (receiver.id :: active) rfl)
      have steps : (⟨sender, receiver, label, numberBelow number index, .call⟩ :: body
            ++ ⟨receiver, sender, answer, numberBelow number index, .return⟩ :: rest).flatMap
              Message.steps =
          ([.call sender.id receiver.id, .activate receiver.id] ++ body.flatMap Message.steps
            ++ [.return receiver.id sender.id, .deactivate receiver.id])
            ++ rest.flatMap Message.steps := by
        simp [Message.steps]
      rw [steps, follow_append, through, Option.bind_some, later top]
  | @noted sender receiver number label remark answer index rest _ _ later =>
      have nobody : CallDiagram.follow first (receiver.id :: active) [] =
          some (receiver.id :: active) := rfl
      have through := follow_call receiver.id top nobody
      have steps : (⟨sender, receiver, label, numberBelow number index, .call⟩
            :: ⟨receiver, receiver, remark, numberBelow number index, .note⟩
            :: ⟨receiver, sender, answer, numberBelow number index, .return⟩ :: rest).flatMap
              Message.steps =
          ([.call sender.id receiver.id, .activate receiver.id] ++ []
            ++ [.return receiver.id sender.id, .deactivate receiver.id])
            ++ rest.flatMap Message.steps := by
        simp [Message.steps]
      rw [steps, follow_append, through, Option.bind_some, later top]

/-! ## Lines of the text -/

/-- What a diagram names its entry and its participants by stands on one line. -/
structure Diagram.SingleLine (d : Diagram) : Prop where
  title : '\n' ∉ d.title.toList
  names : ∀ l ∈ d.registry.lifelines, '\n' ∉ l.title.toList ∧ '\n' ∉ l.key.objectName.toList

instance (d : Diagram) : Decidable d.SingleLine :=
  decidable_of_iff ('\n' ∉ d.title.toList ∧
      ∀ l ∈ d.registry.lifelines, '\n' ∉ l.title.toList ∧ '\n' ∉ l.key.objectName.toList)
    ⟨fun single => ⟨single.1, single.2⟩, fun single => ⟨single.title, single.names⟩⟩

theorem Block.feed_notMem_number {depth index : Nat} {sender : Participant} {number : String}
    {ms : List Message} (block : Block depth sender number index ms)
    (above : '\n' ∉ number.toList) : ∀ m ∈ ms, '\n' ∉ m.number.toList := by
  induction block with
  | done => exact fun _ member => absurd member List.not_mem_nil
  | nested _ _ inner later =>
      have here := notMem_numberBelow (c := '\n') (by decide) (by decide) above
      simp only [List.forall_mem_append, List.forall_mem_cons]
      exact ⟨⟨here _, inner (here _)⟩, here _, later above⟩
  | noted _ _ later =>
      have here := notMem_numberBelow (c := '\n') (by decide) (by decide) above
      simp only [List.forall_mem_cons]
      exact ⟨here _, here _, here _, later above⟩

theorem feed_notMem_shownLabel {m : Message} (number : '\n' ∉ m.number.toList) (s : Settings)
    (lineBreak : String) (visible : '\n' ∉ lineBreak.toList) :
    '\n' ∉ (m.shownLabel s lineBreak).toList := by
  obtain ⟨text, shown⟩ : ∃ text, m.shownLabel s lineBreak =
      if s.omitSequenceNumbers then
        String.ofList (replace ['\n'] (List.cons_ne_nil _ _) lineBreak.toList text)
      else m.number ++ ". " ++
        String.ofList (replace ['\n'] (List.cons_ne_nil _ _) lineBreak.toList text) := ⟨_, rfl⟩
  have label := notMem_replace visible text
  rw [shown]
  split
  · rwa [String.toList_ofList]
  · simp only [String.toList_append, String.toList_ofList, List.mem_append, not_or]
    exact ⟨⟨number, by decide⟩, label⟩

theorem feed_notMem_caption {l : Lifeline}
    (names : '\n' ∉ l.title.toList ∧ '\n' ∉ l.key.objectName.toList) (lineBreak : String)
    (visible : '\n' ∉ lineBreak.toList) : '\n' ∉ (l.caption lineBreak).toList := by
  unfold Lifeline.caption
  split
  · exact names.1
  · simp only [String.toList_append, List.mem_append, not_or]
    exact ⟨⟨⟨names.1, visible⟩, by decide⟩, names.2⟩

theorem feed_notMem_id (p : Participant) : '\n' ∉ p.id.toList :=
  notMem_id (by decide) (by decide) p

theorem PlantUml.feed_notMem_messageLines {m : Message} (number : '\n' ∉ m.number.toList)
    (s : Settings) : ∀ line ∈ messageLines s m, '\n' ∉ line.toList := by
  have label := feed_notMem_shownLabel number s lineBreak (by decide)
  unfold messageLines
  cases m.kind <;> simp [toString, label, feed_notMem_id]

theorem PlantUml.feed_notMem_lines {s : Settings} {d : Diagram} (single : d.SingleLine)
    (numbers : ∀ m ∈ d.messages, '\n' ∉ m.number.toList) :
    ∀ line ∈ PlantUml.lines s d, '\n' ∉ line.toList := by
  have participants : ∀ line ∈ d.registry.lifelines.map participantLine, '\n' ∉ line.toList := by
    rw [List.forall_mem_map]
    intro l member
    have caption := feed_notMem_caption (single.names l member) lineBreak (by decide)
    simp [participantLine, caption, feed_notMem_id]
  have messages : ∀ line ∈ d.messages.flatMap (messageLines s), '\n' ∉ line.toList := by
    intro line member
    obtain ⟨m, sent, written⟩ := List.mem_flatMap.mp member
    exact feed_notMem_messageLines (numbers m sent) s line written
  intro line member
  simp only [lines, List.mem_append] at member
  rcases member with (((header | listed) | gap) | sent) | last
  · simp only [List.mem_cons, List.not_mem_nil, or_false] at header
    rcases header with rfl | rfl | rfl | rfl | rfl | rfl | rfl | rfl <;> simp [single.title]
  · exact participants line listed
  · revert line
    decide
  · exact messages line sent
  · revert line
    decide

theorem Mermaid.feed_notMem_messageLine {m : Message} (number : '\n' ∉ m.number.toList)
    (s : Settings) : '\n' ∉ (messageLine s m).toList := by
  have label := feed_notMem_shownLabel number s lineBreak (by decide)
  unfold messageLine
  cases m.kind <;> simp [toString, label, feed_notMem_id]

theorem Mermaid.feed_notMem_lines {s : Settings} {d : Diagram} (single : d.SingleLine)
    (theme : '\n' ∉ s.diagramTheme.toList)
    (numbers : ∀ m ∈ d.messages, '\n' ∉ m.number.toList) :
    ∀ line ∈ Mermaid.lines s d, '\n' ∉ line.toList := by
  have participants : ∀ line ∈ d.registry.lifelines.map participantLine, '\n' ∉ line.toList := by
    rw [List.forall_mem_map]
    intro l member
    have caption := feed_notMem_caption (single.names l member) lineBreak (by decide)
    change '\n' ∉ ("    participant " ++ l.id ++ " as " ++ l.caption lineBreak).toList
    simp [caption, feed_notMem_id]
  have messages : ∀ line ∈ d.messages.map (messageLine s), '\n' ∉ line.toList := by
    rw [List.forall_mem_map]
    exact fun m sent => feed_notMem_messageLine (numbers m sent) s
  intro line member
  simp only [lines, List.mem_append] at member
  rcases member with ((header | listed) | gap) | sent
  · simp only [List.mem_cons, List.not_mem_nil, or_false] at header
    rcases header with rfl | rfl | rfl | rfl <;> simp [single.title, theme]
  · exact participants line listed
  · rw [List.mem_singleton.mp gap]
    decide
  · exact messages line sent

/-! ## Both languages -/

def PlantUml.read (text : String) : List Step :=
  (textLines text).flatMap PlantUml.readLine

def Mermaid.read (text : String) : List Step :=
  (textLines text).flatMap Mermaid.readLine

theorem read_joined (readLine : String → List Step) {parts : List String} (some : parts ≠ [])
    (last : readLine "" = []) :
    (textLines ("\n".intercalate parts ++ "\n")).flatMap readLine =
      parts.flatMap fun part => (textLines part).flatMap readLine := by
  rw [textLines_joined parts some, List.flatMap_append, List.flatMap_assoc, List.flatMap_singleton,
    last, List.append_nil]

theorem flatMap_textLines (readLine : String → List Step) {lines : List String}
    (single : ∀ line ∈ lines, '\n' ∉ line.toList) :
    lines.flatMap (fun line => (textLines line).flatMap readLine) = lines.flatMap readLine := by
  induction lines with
  | nil => rfl
  | cons line rest ih =>
      obtain ⟨here, later⟩ := List.forall_mem_cons.mp single
      rw [List.flatMap_cons, List.flatMap_cons, ih later, textLines_of_notMem here,
        List.flatMap_singleton]

theorem PlantUml.read_markup (s : Settings) (d : Diagram) :
    PlantUml.read (d.markup .plantUml s) =
      (PlantUml.lines s d).flatMap fun line => (textLines line).flatMap readLine :=
  read_joined readLine (by simp [Format.lines, PlantUml.lines]) (by decide)

theorem Mermaid.read_markup (s : Settings) (d : Diagram) :
    Mermaid.read (d.markup .mermaid s) =
      (Mermaid.lines s d).flatMap fun line => (textLines line).flatMap readLine :=
  read_joined readLine (by simp [Format.lines, Mermaid.lines]) (by decide)

/-- What a reader of the text of a diagram finds who keeps track of activations. -/
structure Diagram.Activates (d : Diagram) (s : Settings) (entry : Item) (steps : List Step) :
    Prop where
  /-- Arrow by arrow, the text tells of the messages. -/
  said : steps = d.messages.flatMap Message.steps
  plantUml : d.SingleLine → PlantUml.read (d.markup .plantUml s) = steps
  mermaid : d.SingleLine → '\n' ∉ s.diagramTheme.toList →
    Mermaid.read (d.markup .mermaid s) = steps
  /-- Whatever the names, each line that is written says the same in both languages. -/
  lines : (PlantUml.lines s d).flatMap PlantUml.readLine = steps ∧
    (Mermaid.lines s d).flatMap Mermaid.readLine = steps
  nested : ∃ first ∈ d.registry.participants,
    first.key = entry.participantKey d.workspaceRoot d.entryClass entry.name ∧
      follow first.id [] steps = some []

/-- Activations are well nested, and in both languages the same. -/
theorem Provider.diagram_activates (p : Provider) (s : Settings) (entry : Item)
    (cancelAt : Option Nat) (d : Diagram) (built : (p.diagram s entry cancelAt).1 = .ok d) :
    ∃ steps, d.Activates s entry steps := by
  obtain ⟨τ, finished⟩ := finished_diagram built
  have numbers := finished.block.feed_notMem_number (by decide)
  have plantUml := PlantUml.flatMap_readLine_lines s d
  have mermaid := Mermaid.flatMap_readLine_lines s d
  refine ⟨d.messages.flatMap Message.steps, rfl, fun single => ?_, fun single theme => ?_,
    ⟨plantUml, mermaid⟩, ?_⟩
  · rw [PlantUml.read_markup, flatMap_textLines _ (PlantUml.feed_notMem_lines single numbers),
      plantUml]
  · rw [Mermaid.read_markup, flatMap_textLines _ (Mermaid.feed_notMem_lines single theme numbers),
      mermaid]
  · exact ⟨_, Registry.mem_participants_of_numberOf? finished.numberOf?_first, rfl,
      finished.block.follow rfl⟩

theorem Provider.countdown_activates :
    let s : Settings := { maxCallDepth := ⟨2, by decide⟩ }
    ∃ d steps, (countdown.diagram s .countdown).1 = .ok d ∧ d.SingleLine ∧
      d.Activates s .countdown steps ∧
      steps = [.call "p1" "p2", .activate "p2", .call "p2" "p2", .activate "p2",
        .return "p2" "p2", .deactivate "p2", .return "p2" "p1", .deactivate "p2"] := by
  intro s
  obtain ⟨d, built⟩ := countdown.diagram_built s .countdown
  obtain ⟨steps, activates⟩ := countdown.diagram_activates s .countdown none d built
  have single : (countdown.diagram s .countdown).1.toOption.any (·.SingleLine) = true := by
    decide +kernel
  have said : (countdown.diagram s .countdown).1.toOption.map (·.messages.flatMap Message.steps) =
      some [.call "p1" "p2", .activate "p2", .call "p2" "p2", .activate "p2",
        .return "p2" "p2", .deactivate "p2", .return "p2" "p1", .deactivate "p2"] := by
    decide +kernel
  rw [built] at single said
  exact ⟨d, steps, built, of_decide_eq_true single, activates,
    activates.said.trans (Option.some.inj said)⟩

/-! ## Names with line feeds -/

/-- A function in a file whose name goes over three lines. -/
def Item.torn : Item :=
  ⟨"main", .function, "/w/a\ndeactivate b\nb -->>- b:.py", ⟨⟨0, 0⟩, ⟨1, 8⟩⟩, ⟨⟨0, 4⟩, ⟨0, 8⟩⟩, ""⟩

/-- A function that calls nothing. -/
def RecordedHierarchy.leaf (item : Item) : RecordedHierarchy where
  sources := [(item.uri, "def main():\n    pass\n")]
  calls := [(item, [])]
  roots := ["/w"]

theorem follow_deactivate_nil (first participant : String) (rest : List Step) :
    follow first [] (.deactivate participant :: rest) = none := rfl

theorem follow_return_nil (first sender receiver : String) (rest : List Step) :
    follow first [] (.return sender receiver :: rest) = none := rfl

/-- Names and themes with line feeds end activations that nobody began. -/
theorem Provider.torn_not_activated :
    (∃ d, ((RecordedHierarchy.leaf .torn).provider.diagram {} .torn).1 = .ok d ∧
      ∀ first, follow first [] (PlantUml.read (d.markup .plantUml {})) ≠ some [] ∧
        follow first [] (Mermaid.read (d.markup .mermaid {})) ≠ some []) ∧
    let s : Settings := { diagramTheme := "forest\np1 -->>- p1: x" }
    ∃ d, ((RecordedHierarchy.leaf .countdown).provider.diagram s .countdown).1 = .ok d ∧
      ∀ first, follow first [] (Mermaid.read (d.markup .mermaid s)) ≠ some [] := by
  constructor
  · obtain ⟨d, built⟩ := (RecordedHierarchy.leaf .torn).provider.diagram_built {} .torn
    have titles : ((RecordedHierarchy.leaf .torn).provider.diagram {} .torn).1.toOption.map
        (fun d => ((textLines ("title " ++ d.title)).flatMap PlantUml.readLine,
          (textLines ("    title " ++ d.title)).flatMap Mermaid.readLine)) =
          some ([.deactivate "b"], [.return "b" "b", .deactivate "b"]) := by
      decide +kernel
    rw [built] at titles
    obtain ⟨plantUml, mermaid⟩ := Prod.mk.inj (Option.some.inj titles)
    -- What stands above the title says nothing, so the first step is one of the file's name.
    have start : (textLines "@startuml").flatMap PlantUml.readLine = [] := by decide +kernel
    have theme : (textLines ("%%\x7binit: \x7b'theme':'" ++ ({} : Settings).diagramTheme
        ++ "'\x7d\x7d%%")).flatMap Mermaid.readLine = [] := by decide +kernel
    have heading : (textLines "sequenceDiagram").flatMap Mermaid.readLine = [] := by decide +kernel
    refine ⟨d, built, fun first => ⟨?_, ?_⟩⟩
    · rw [PlantUml.read_markup, PlantUml.lines]
      simp only [List.cons_append, List.flatMap_cons, start, plantUml, List.nil_append]
      simp [follow_deactivate_nil]
    · rw [Mermaid.read_markup, Mermaid.lines]
      simp only [List.cons_append, List.flatMap_cons, theme, heading, mermaid, List.nil_append]
      simp [follow_return_nil]
  · intro s
    obtain ⟨d, built⟩ := (RecordedHierarchy.leaf .countdown).provider.diagram_built s .countdown
    have theme : (textLines ("%%\x7binit: \x7b'theme':'" ++ s.diagramTheme
        ++ "'\x7d\x7d%%")).flatMap Mermaid.readLine =
          [.return "p1" "p1", .deactivate "p1"] := by decide +kernel
    refine ⟨d, built, fun first => ?_⟩
    rw [Mermaid.read_markup, Mermaid.lines]
    simp only [List.cons_append, List.flatMap_cons, theme]
    simp [follow_return_nil]

end CallDiagram
