import CallDiagram.Proofs.Traversal.Activation

/-! # Recovering a diagram from its text

In either language a message stands on one line, whatever its label holds, and nothing that follows
the first words of that line can be taken for them. So the participants and the messages of a diagram
can be read from its text, and both languages tell the same messages up to how they write line
breaks.
-/

namespace CallDiagram

open Text

/-- What a message says. Nobody sends a note. -/
structure Said where
  kind : MessageKind
  sender : Option String
  receiver : String
  number : String
  label : String
  deriving Repr, DecidableEq

theorem newline_ne_nil : ['\n'] ≠ [] :=
  List.cons_ne_nil _ _

/-- A text with its line breaks as a language writes them. -/
def withBreaks (lineBreak text : String) : String :=
  String.ofList (replace ['\n'] newline_ne_nil lineBreak.toList text.toList)

def Said.broken (lineBreak : String) (said : Said) : Said :=
  { said with label := withBreaks lineBreak said.label }

/-- What a message is labelled with before line breaks are written out. -/
def Message.saidLabel (m : Message) (s : Settings) : String :=
  match m.kind with
  | .call => m.label
  | .return => s.returnMessageLabel
  | .note => if m.label = "" then truncationNote else m.label

def Message.said (s : Settings) (m : Message) : Said where
  kind := m.kind
  sender := if m.kind = .note then none else some m.sender.id
  receiver := m.receiver.id
  number := m.number
  label := m.saidLabel s

theorem Message.shownLabel_eq {s : Settings} (numbered : s.omitSequenceNumbers = false) (m : Message)
    (lineBreak : String) :
    m.shownLabel s lineBreak =
      (m.number ++ ".") ++ " " ++ withBreaks lineBreak (m.saidLabel s) := by
  have shown : m.shownLabel s lineBreak =
      if s.omitSequenceNumbers then withBreaks lineBreak (m.saidLabel s)
      else m.number ++ ". " ++ withBreaks lineBreak (m.saidLabel s) := by
    obtain ⟨sender, receiver, label, number, kind⟩ := m
    cases kind <;> rfl
  have stop : ". " = "." ++ " " := rfl
  rw [shown, numbered, if_neg Bool.false_ne_true, stop]
  simp only [String.append_assoc]

/-! ## Words and what they come from -/

def unwords (words : List String) : String :=
  String.ofList (joinWith [' '] (words.map String.toList))

theorem unwords_words (line : String) : unwords (words line) = line := by
  have pieces : (words line).map String.toList = splitOnChar ' ' line.toList := by
    rw [words, List.map_map]
    exact List.map_id'' (fun cs => String.toList_ofList) _
  rw [unwords, pieces, joinWith_splitOnChar, String.ofList_toList]

/-- A text without its last character, the dot behind a number. -/
def undotted (word : String) : String :=
  String.ofList word.toList.dropLast

theorem undotted_append (number : String) : undotted (number ++ ".") = number := by
  have dot : ".".toList = ['.'] := rfl
  rw [undotted, String.toList_append, dot, List.dropLast_concat, String.ofList_toList]

/-- The words of a label behind its number. -/
theorem words_label {number : String} (solid : ' ' ∉ number.toList) (label : String) :
    words ((number ++ ".") ++ " " ++ label) = (number ++ ".") :: words label := by
  have dotted : ' ' ∉ (number ++ ".").toList := by
    rw [String.toList_append, List.mem_append]
    exact not_or.mpr ⟨solid, by decide⟩
  exact words_cons _ dotted label

theorem ne_id_of_notMem {word : String} (p : Participant) (noId : 'p' ∉ word.toList) :
    p.id ≠ word := by
  rintro rfl
  rw [toList_id] at noId
  exact noId List.mem_cons_self

theorem id_ne_participant (p : Participant) : p.id ≠ "participant" := by
  intro same
  have letter := notMem_id (c := 'a') (by decide) (by decide) p
  rw [same] at letter
  exact letter (by decide)

/-! ## Mermaid -/

namespace Mermaid

/-- The words of a line behind its indentation. -/
def solidWords (line : String) : List String :=
  (words line).dropWhile (· = "")

def readParticipant? (line : String) : Option (String × String) :=
  match solidWords line with
  | "participant" :: id :: "as" :: caption => some (id, unwords caption)
  | _ => none

def readMessage? (line : String) : Option Said :=
  match solidWords line with
  | "Note" :: "over" :: receiver :: number :: label =>
    some ⟨.note, none, labelled receiver, undotted number, unwords label⟩
  | sender :: "->>+" :: receiver :: number :: label =>
    some ⟨.call, some sender, labelled receiver, undotted number, unwords label⟩
  | sender :: "-->>-" :: receiver :: number :: label =>
    some ⟨.return, some sender, labelled receiver, undotted number, unwords label⟩
  | _ => none

theorem readMessage?_other {line first second : String} {rest : List String}
    (read : solidWords line = first :: second :: rest)
    (other : second ∉ ["over", "->>+", "-->>-"]) : readMessage? line = none := by
  simp only [readMessage?, read]
  split <;> simp_all

theorem readParticipant?_other {line first : String} {rest : List String}
    (read : solidWords line = first :: rest) (other : first ≠ "participant") :
    readParticipant? line = none := by
  simp only [readParticipant?, read]
  split <;> simp_all

theorem solidWords_indented {line first : String} {rest : List String}
    (read : words line = first :: rest) (solid : first ≠ "") :
    solidWords ("    " ++ line) = first :: rest := by
  rw [solidWords, words_indented, read]
  simp [solid]

theorem words_receiver (sender arrow : String) (ends : ' ' ∉ sender.toList ∧ ' ' ∉ arrow.toList)
    (q : Participant) (rest : String) :
    words (sender ++ " " ++ arrow ++ " " ++ (q.id ++ ":") ++ " " ++ rest) =
      sender :: arrow :: (q.id ++ ":") :: words rest := by
  have receiver : ' ' ∉ (q.id ++ ":").toList := by
    rw [String.toList_append, List.mem_append]
    exact not_or.mpr ⟨blank_notMem_id q, by decide⟩
  exact words_arrow arrow rest ⟨ends.1, receiver⟩ ends.2

theorem solidWords_call (p q : Participant) (rest : String) :
    solidWords (s!"    {p.id} ->>+ {q.id}: " ++ rest) =
      p.id :: "->>+" :: (q.id ++ ":") :: words rest := by
  have line (a b : String) : s!"    {a} ->>+ {b}: " ++ rest =
      "    " ++ (a ++ " " ++ "->>+" ++ " " ++ (b ++ ":") ++ " " ++ rest) := by
    change "    " ++ a ++ " ->>+ " ++ b ++ ": " ++ rest = _
    simp [← String.toList_inj]
  rw [line]
  exact solidWords_indented (words_receiver _ _ ⟨blank_notMem_id p, by decide⟩ q rest)
    (ne_id_of_notMem p (by decide))

theorem solidWords_return (p q : Participant) (rest : String) :
    solidWords (s!"    {p.id} -->>- {q.id}: " ++ rest) =
      p.id :: "-->>-" :: (q.id ++ ":") :: words rest := by
  have line (a b : String) : s!"    {a} -->>- {b}: " ++ rest =
      "    " ++ (a ++ " " ++ "-->>-" ++ " " ++ (b ++ ":") ++ " " ++ rest) := by
    change "    " ++ a ++ " -->>- " ++ b ++ ": " ++ rest = _
    simp [← String.toList_inj]
  rw [line]
  exact solidWords_indented (words_receiver _ _ ⟨blank_notMem_id p, by decide⟩ q rest)
    (ne_id_of_notMem p (by decide))

theorem solidWords_note (q : Participant) (rest : String) :
    solidWords (s!"    Note over {q.id}: " ++ rest) =
      "Note" :: "over" :: (q.id ++ ":") :: words rest := by
  have line (a : String) : s!"    Note over {a}: " ++ rest =
      "    " ++ ("Note" ++ " " ++ "over" ++ " " ++ (a ++ ":") ++ " " ++ rest) := by
    change "    Note over " ++ a ++ ": " ++ rest = _
    simp [← String.toList_inj]
  rw [line]
  exact solidWords_indented (words_receiver _ _ ⟨by decide, by decide⟩ q rest) (by decide)

theorem solidWords_participantLine (l : Lifeline) :
    solidWords (participantLine l) = "participant" :: l.id :: "as" :: words (l.caption lineBreak) := by
  have line (a caption : String) : s!"    participant {a} as " ++ caption =
      "    " ++ ("participant" ++ " " ++ a ++ " " ++ "as" ++ " " ++ caption) := by
    change "    participant " ++ a ++ " as " ++ caption = _
    simp [← String.toList_inj]
  have whole : participantLine l = _ := line l.id (l.caption lineBreak)
  have read (caption : String) :
      words ("participant" ++ " " ++ l.id ++ " " ++ "as" ++ " " ++ caption) = _ :=
    words_arrow l.id caption ⟨by decide, by decide⟩ (blank_notMem_id l.toParticipant)
  rw [whole]
  exact solidWords_indented (read _) (by decide)

theorem solidWords_title (d : Diagram) :
    ∃ rest, solidWords ("    title " ++ d.title) = "title" :: "Sequence" :: rest := by
  obtain ⟨rest, title⟩ := title_eq d
  have line : "    title " ++ d.title =
      "    " ++ ("title" ++ " " ++ "Sequence" ++ " " ++ "diagram" ++ " " ++ rest) := by
    simp [title, ← String.toList_inj]
  rw [line]
  exact ⟨_, solidWords_indented (words_arrow "Sequence" rest ⟨by decide, by decide⟩ (by decide))
    (by decide)⟩

theorem solidWords_theme (theme : String) :
    ∃ word rest, solidWords ("%%\x7binit: \x7b'theme':'" ++ theme ++ "'\x7d\x7d%%") =
      "%%\x7binit:" :: word :: rest ∧ word.toList.head? = some '\x7b' := by
  have line : "%%\x7binit: \x7b'theme':'" ++ theme ++ "'\x7d\x7d%%" =
      "%%\x7binit:" ++ " " ++ ("\x7b'theme':'" ++ theme ++ "'\x7d\x7d%%") := by
    simp [← String.toList_inj]
  obtain ⟨word, others, braced, head⟩ := words_of_head (c := '\x7b')
    ("\x7b'theme':'" ++ theme ++ "'\x7d\x7d%%") (by simp) (by decide)
  refine ⟨word, others, ?_, head⟩
  rw [line, solidWords, words_cons _ (by decide), braced]
  rfl

theorem readMessage?_messageLine {s : Settings} (numbered : s.omitSequenceNumbers = false)
    {m : Message} (solid : ' ' ∉ m.number.toList) :
    readMessage? (messageLine s m) = some ((m.said s).broken lineBreak) := by
  have label := words_label solid (withBreaks lineBreak (m.saidLabel s))
  rw [← m.shownLabel_eq numbered lineBreak] at label
  obtain ⟨sender, receiver, text, number, kind⟩ := m
  cases kind
  case call =>
    simp only [readMessage?, messageLine, solidWords_call, label, labelled_id, undotted_append,
      unwords_words]
    rfl
  case «return» =>
    simp only [readMessage?, messageLine, solidWords_return, label, labelled_id, undotted_append,
      unwords_words]
    rfl
  case note =>
    simp only [readMessage?, messageLine, solidWords_note, label, labelled_id, undotted_append,
      unwords_words]
    rfl

theorem readParticipant?_messageLine (s : Settings) (m : Message) :
    readParticipant? (messageLine s m) = none := by
  obtain ⟨sender, receiver, text, number, kind⟩ := m
  cases kind
  case call => exact readParticipant?_other (solidWords_call ..) (id_ne_participant sender)
  case «return» => exact readParticipant?_other (solidWords_return ..) (id_ne_participant sender)
  case note => exact readParticipant?_other (solidWords_note ..) (by decide)

theorem readParticipant?_participantLine (l : Lifeline) :
    readParticipant? (participantLine l) = some (l.id, l.caption lineBreak) := by
  simp only [readParticipant?, solidWords_participantLine, unwords_words]

theorem readMessage?_participantLine (l : Lifeline) : readMessage? (participantLine l) = none := by
  refine readMessage?_other (solidWords_participantLine l) ?_
  simp [ne_id_of_notMem]

theorem read_header (s : Settings) (d : Diagram) :
    ∀ line ∈ ["%%\x7binit: \x7b'theme':'" ++ s.diagramTheme ++ "'\x7d\x7d%%", "sequenceDiagram",
      "    title " ++ d.title, ""], readMessage? line = none ∧ readParticipant? line = none := by
  obtain ⟨rest, title⟩ := solidWords_title d
  obtain ⟨word, others, theme, head⟩ := solidWords_theme s.diagramTheme
  have noArrow : word ∉ ["over", "->>+", "-->>-"] := by
    intro arrow
    simp only [List.mem_cons, List.not_mem_nil, or_false] at arrow
    rcases arrow with rfl | rfl | rfl <;> cases head
  simp only [List.forall_mem_cons, List.not_mem_nil, false_implies, implies_true, and_true]
  refine ⟨⟨readMessage?_other theme noArrow, readParticipant?_other theme (by decide)⟩, by decide,
    ⟨readMessage?_other title (by decide), readParticipant?_other title (by decide)⟩, by decide⟩

theorem filterMap_readMessage?_lines {s : Settings} (numbered : s.omitSequenceNumbers = false)
    {d : Diagram} (solid : ∀ m ∈ d.messages, ' ' ∉ m.number.toList) :
    (lines s d).filterMap readMessage? =
      d.messages.map fun m => (m.said s).broken lineBreak := by
  have header := List.filterMap_eq_nil_iff.mpr fun line member => (read_header s d line member).1
  have participants : (d.registry.lifelines.map participantLine).filterMap readMessage? = [] := by
    simp [List.filterMap_map, readMessage?_participantLine]
  have messages : (d.messages.map (messageLine s)).filterMap readMessage? =
      d.messages.map fun m => (m.said s).broken lineBreak := by
    rw [List.filterMap_map, ← List.filterMap_eq_map]
    exact List.filterMap_congr fun m member => readMessage?_messageLine numbered (solid m member)
  have gap : [""].filterMap readMessage? = [] := by decide
  simp only [lines, List.filterMap_append, header, participants, messages, gap, List.nil_append]

theorem filterMap_readParticipant?_lines (s : Settings) (d : Diagram) :
    (lines s d).filterMap readParticipant? =
      d.registry.lifelines.map fun l => (l.id, l.caption lineBreak) := by
  have header := List.filterMap_eq_nil_iff.mpr fun line member => (read_header s d line member).2
  have participants : (d.registry.lifelines.map participantLine).filterMap readParticipant? =
      d.registry.lifelines.map fun l => (l.id, l.caption lineBreak) := by
    rw [List.filterMap_map, ← List.filterMap_eq_map]
    exact List.filterMap_congr fun l _ => readParticipant?_participantLine l
  have messages : (d.messages.map (messageLine s)).filterMap readParticipant? = [] := by
    simp [List.filterMap_map, readParticipant?_messageLine]
  have gap : [""].filterMap readParticipant? = [] := by decide
  simp only [lines, List.filterMap_append, header, participants, messages, gap, List.nil_append,
    List.append_nil]

end Mermaid

/-! ## PlantUML -/

namespace PlantUml

/-- The id is the last word; the caption stands between quotation marks, whatever it holds. -/
def readParticipant? (line : String) : Option (String × String) :=
  match words line with
  | "participant" :: rest =>
    match rest.reverse with
    | id :: "as" :: quoted => some (id, String.ofList (unwords quoted.reverse).toList.tail.dropLast)
    | _ => none
  | _ => none

def readMessage? (line : String) : Option Said :=
  match words line with
  | "note" :: "over" :: receiver :: ":" :: number :: label =>
    some ⟨.note, none, receiver, undotted number, unwords label⟩
  | sender :: "->" :: receiver :: ":" :: number :: label =>
    some ⟨.call, some sender, receiver, undotted number, unwords label⟩
  | sender :: "-->" :: receiver :: ":" :: number :: label =>
    some ⟨.return, some sender, receiver, undotted number, unwords label⟩
  | _ => none

theorem readMessage?_other {line first second : String} {rest : List String}
    (read : words line = first :: second :: rest) (other : second ∉ ["over", "->", "-->"]) :
    readMessage? line = none := by
  simp only [readMessage?, read]
  split <;> simp_all

theorem readParticipant?_other {line first : String} {rest : List String}
    (read : words line = first :: rest) (other : first ≠ "participant") :
    readParticipant? line = none := by
  simp only [readParticipant?, read]
  split <;> simp_all

theorem words_call (p q : Participant) (rest : String) :
    words (s!"{p.id} -> {q.id} : " ++ rest) = p.id :: "->" :: q.id :: ":" :: words rest := by
  have line (a b : String) : s!"{a} -> {b} : " ++ rest =
      a ++ " " ++ "->" ++ " " ++ b ++ " " ++ (":" ++ " " ++ rest) := by
    change a ++ " -> " ++ b ++ " : " ++ rest = _
    simp [← String.toList_inj]
  rw [line, words_arrow _ _ ⟨blank_notMem_id p, blank_notMem_id q⟩ (by decide),
    words_cons ":" (by decide)]

theorem words_return (p q : Participant) (rest : String) :
    words (s!"{p.id} --> {q.id} : " ++ rest) = p.id :: "-->" :: q.id :: ":" :: words rest := by
  have line (a b : String) : s!"{a} --> {b} : " ++ rest =
      a ++ " " ++ "-->" ++ " " ++ b ++ " " ++ (":" ++ " " ++ rest) := by
    change a ++ " --> " ++ b ++ " : " ++ rest = _
    simp [← String.toList_inj]
  rw [line, words_arrow _ _ ⟨blank_notMem_id p, blank_notMem_id q⟩ (by decide),
    words_cons ":" (by decide)]

theorem words_note (q : Participant) (rest : String) :
    words (s!"note over {q.id} : " ++ rest) = "note" :: "over" :: q.id :: ":" :: words rest := by
  have line (a : String) : s!"note over {a} : " ++ rest =
      "note" ++ " " ++ "over" ++ " " ++ a ++ " " ++ (":" ++ " " ++ rest) := by
    change "note over " ++ a ++ " : " ++ rest = _
    simp [← String.toList_inj]
  rw [line, words_arrow _ _ ⟨by decide, blank_notMem_id q⟩ (by decide), words_cons ":" (by decide)]

theorem words_activation (word : String) (single : ' ' ∉ word.toList) (p : Participant) :
    words (word ++ " " ++ p.id) = [word, p.id] := by
  rw [words_cons word single, words_of_notMem (blank_notMem_id p)]

theorem words_participantLine (l : Lifeline) :
    words (participantLine l) =
      "participant" :: (words ("\"" ++ l.caption lineBreak ++ "\"") ++ ["as", l.id]) := by
  have line : participantLine l = "participant" ++ " " ++
      (("\"" ++ l.caption lineBreak ++ "\"") ++ " " ++ ("as" ++ " " ++ l.id)) := by
    simp [participantLine, ← String.toList_inj]
  rw [line, words_cons _ (by decide), words_append,
    words_activation "as" (by decide) l.toParticipant]

theorem readMessage?_activation (word : String) (single : ' ' ∉ word.toList) (p : Participant) :
    readMessage? (word ++ " " ++ p.id) = none := by
  refine readMessage?_other (words_activation word single p) ?_
  simp [ne_id_of_notMem]

/-- A message is told by its first line, and none by the line of an activation. -/
theorem filterMap_readMessage?_messageLines {s : Settings}
    (numbered : s.omitSequenceNumbers = false) {m : Message} (solid : ' ' ∉ m.number.toList) :
    (messageLines s m).filterMap readMessage? = [(m.said s).broken lineBreak] := by
  have activates (p : Participant) : readMessage? ("activate " ++ p.id) = none :=
    readMessage?_activation "activate" (by decide) p
  have deactivates (p : Participant) : readMessage? ("deactivate " ++ p.id) = none :=
    readMessage?_activation "deactivate" (by decide) p
  have label := words_label solid (withBreaks lineBreak (m.saidLabel s))
  rw [← m.shownLabel_eq numbered lineBreak] at label
  have calls (p q : Participant) :
      readMessage? (s!"{p.id} -> {q.id} : " ++ m.shownLabel s lineBreak) =
        some ⟨.call, some p.id, q.id, m.number, withBreaks lineBreak (m.saidLabel s)⟩ := by
    simp only [readMessage?, words_call, label, undotted_append, unwords_words]
  have returns (p q : Participant) :
      readMessage? (s!"{p.id} --> {q.id} : " ++ m.shownLabel s lineBreak) =
        some ⟨.return, some p.id, q.id, m.number, withBreaks lineBreak (m.saidLabel s)⟩ := by
    simp only [readMessage?, words_return, label, undotted_append, unwords_words]
  have notes (q : Participant) :
      readMessage? (s!"note over {q.id} : " ++ m.shownLabel s lineBreak) =
        some ⟨.note, none, q.id, m.number, withBreaks lineBreak (m.saidLabel s)⟩ := by
    simp only [readMessage?, words_note, label, undotted_append, unwords_words]
  unfold messageLines
  cases kind : m.kind <;>
    simp [calls, returns, notes, activates, deactivates, Message.said, kind, Said.broken]

theorem filterMap_readParticipant?_messageLines (s : Settings) (m : Message) :
    (messageLines s m).filterMap readParticipant? = [] := by
  have activates (p : Participant) : readParticipant? ("activate " ++ p.id) = none :=
    readParticipant?_other (words_activation "activate" (by decide) p) (by decide)
  have deactivates (p : Participant) : readParticipant? ("deactivate " ++ p.id) = none :=
    readParticipant?_other (words_activation "deactivate" (by decide) p) (by decide)
  have calls (p q : Participant) (rest : String) :
      readParticipant? (s!"{p.id} -> {q.id} : " ++ rest) = none :=
    readParticipant?_other (words_call p q rest) (id_ne_participant p)
  have returns (p q : Participant) (rest : String) :
      readParticipant? (s!"{p.id} --> {q.id} : " ++ rest) = none :=
    readParticipant?_other (words_return p q rest) (id_ne_participant p)
  have notes (q : Participant) (rest : String) :
      readParticipant? (s!"note over {q.id} : " ++ rest) = none :=
    readParticipant?_other (words_note q rest) (by decide)
  unfold messageLines
  cases m.kind <;> simp only [List.filterMap_cons, List.filterMap_nil, calls, returns, notes,
    activates, deactivates]

theorem readMessage?_participantLine (l : Lifeline) : readMessage? (participantLine l) = none := by
  obtain ⟨word, others, quoted, head⟩ := words_of_head (c := '"')
    ("\"" ++ l.caption lineBreak ++ "\"") (by simp) (by decide)
  have read := words_participantLine l
  rw [quoted] at read
  refine readMessage?_other read fun arrow => ?_
  simp only [List.mem_cons, List.not_mem_nil, or_false] at arrow
  rcases arrow with rfl | rfl | rfl <;> cases head

theorem readParticipant?_participantLine (l : Lifeline) :
    readParticipant? (participantLine l) = some (l.id, l.caption lineBreak) := by
  simp [readParticipant?, words_participantLine, unwords_words]

theorem read_header (d : Diagram) :
    ∀ line ∈ ["@startuml", "title " ++ d.title, "", "' -- Styling --",
      "skinparam sequenceArrowThickness 2", "skinparam participantPadding 20", "",
      "' -- Participants --"], readMessage? line = none ∧ readParticipant? line = none := by
  obtain ⟨rest, title⟩ := title_eq d
  have line : "title " ++ d.title =
      "title" ++ " " ++ "Sequence" ++ " " ++ "diagram" ++ " " ++ rest := by
    simp [title, ← String.toList_inj]
  have read : words ("title" ++ " " ++ "Sequence" ++ " " ++ "diagram" ++ " " ++ rest) = _ :=
    words_arrow "Sequence" rest ⟨by decide, by decide⟩ (by decide)
  rw [← line] at read
  simp only [List.forall_mem_cons, List.not_mem_nil, false_implies, implies_true, and_true]
  exact ⟨by decide, ⟨readMessage?_other read (by decide), readParticipant?_other read (by decide)⟩,
    by decide, by decide, by decide, by decide, by decide, by decide⟩

theorem filterMap_readMessage?_lines {s : Settings} (numbered : s.omitSequenceNumbers = false)
    {d : Diagram} (solid : ∀ m ∈ d.messages, ' ' ∉ m.number.toList) :
    (lines s d).filterMap readMessage? = d.messages.map fun m => (m.said s).broken lineBreak := by
  have header := List.filterMap_eq_nil_iff.mpr fun line member => (read_header d line member).1
  have participants : (d.registry.lifelines.map participantLine).filterMap readMessage? = [] := by
    simp [List.filterMap_map, readMessage?_participantLine]
  have messages : (d.messages.flatMap (messageLines s)).filterMap readMessage? =
      d.messages.map fun m => (m.said s).broken lineBreak := by
    rw [List.filterMap_flatMap, List.map_eq_flatMap]
    exact List.flatMap_congr fun m member =>
      filterMap_readMessage?_messageLines numbered (solid m member)
  have middle : ["", "' -- Sequence --"].filterMap readMessage? = [] := by decide
  have bottom : ["", "@enduml"].filterMap readMessage? = [] := by decide
  simp only [lines, List.filterMap_append, header, participants, messages, middle, bottom,
    List.nil_append, List.append_nil]

theorem filterMap_readParticipant?_lines (s : Settings) (d : Diagram) :
    (lines s d).filterMap readParticipant? =
      d.registry.lifelines.map fun l => (l.id, l.caption lineBreak) := by
  have header := List.filterMap_eq_nil_iff.mpr fun line member => (read_header d line member).2
  have participants : (d.registry.lifelines.map participantLine).filterMap readParticipant? =
      d.registry.lifelines.map fun l => (l.id, l.caption lineBreak) := by
    rw [List.filterMap_map, ← List.filterMap_eq_map]
    exact List.filterMap_congr fun l _ => readParticipant?_participantLine l
  have messages : (d.messages.flatMap (messageLines s)).filterMap readParticipant? = [] := by
    simp [List.filterMap_flatMap, filterMap_readParticipant?_messageLines]
  have middle : ["", "' -- Sequence --"].filterMap readParticipant? = [] := by decide
  have bottom : ["", "@enduml"].filterMap readParticipant? = [] := by decide
  simp only [lines, List.filterMap_append, header, participants, messages, middle, bottom,
    List.nil_append, List.append_nil]

end PlantUml

/-! ## Both languages -/

namespace Format

def readParticipant? : Format → String → Option (String × String)
  | .mermaid => Mermaid.readParticipant?
  | .plantUml => PlantUml.readParticipant?

def readMessage? : Format → String → Option Said
  | .mermaid => Mermaid.readMessage?
  | .plantUml => PlantUml.readMessage?

/-- The ids of the participants that a text tells of, with their captions. -/
def readParticipants (f : Format) (text : String) : List (String × String) :=
  (textLines text).filterMap f.readParticipant?

def readMessages (f : Format) (text : String) : List Said :=
  (textLines text).filterMap f.readMessage?

theorem textLines_markup {s : Settings} {d : Diagram} (single : d.SingleLine)
    (theme : '\n' ∉ s.diagramTheme.toList) (numbers : ∀ m ∈ d.messages, '\n' ∉ m.number.toList)
    (f : Format) : textLines (d.markup f s) = f.lines s d ++ [""] := by
  have whole : ∀ line ∈ f.lines s d, textLines line = [line] := by
    intro line member
    refine textLines_of_notMem ?_
    cases f with
    | mermaid => exact Mermaid.feed_notMem_lines single theme numbers line member
    | plantUml => exact PlantUml.feed_notMem_lines single numbers line member
  have some : f.lines s d ≠ [] := by
    cases f <;> simp [lines, Mermaid.lines, PlantUml.lines]
  rw [Diagram.markup, textLines_joined _ some, List.flatMap_congr whole, List.flatMap_singleton']

end Format

/-- Whatever the labels hold, a text has the lines that were written, and its participants and
messages can be read from it. In both languages the messages are the same but for line breaks. -/
theorem Diagram.markup_tells (d : Diagram) (s : Settings) (single : d.SingleLine)
    (numbers : ∀ m ∈ d.messages, '\n' ∉ m.number.toList ∧ ' ' ∉ m.number.toList)
    (numbered : s.omitSequenceNumbers = false) (theme : '\n' ∉ s.diagramTheme.toList) :
    ∃ said : List Said, said = d.messages.map (Message.said s) ∧ ∀ f : Format,
      textLines (d.markup f s) = f.lines s d ++ [""] ∧
      f.readParticipants (d.markup f s) =
        d.registry.lifelines.map (fun l => (l.id, l.caption f.lineBreak)) ∧
      f.readMessages (d.markup f s) = said.map (Said.broken f.lineBreak) := by
  have feeds := fun m member => (numbers m member).1
  have blanks := fun m member => (numbers m member).2
  refine ⟨_, rfl, fun f => ?_⟩
  have written := Format.textLines_markup single theme feeds f
  refine ⟨written, ?_, ?_⟩
  · rw [Format.readParticipants, written, List.filterMap_append]
    cases f with
    | mermaid => exact (List.append_nil _).trans (Mermaid.filterMap_readParticipant?_lines s d)
    | plantUml => exact (List.append_nil _).trans (PlantUml.filterMap_readParticipant?_lines s d)
  · rw [Format.readMessages, written, List.filterMap_append, List.map_map]
    cases f with
    | mermaid => exact (List.append_nil _).trans (Mermaid.filterMap_readMessage?_lines numbered blanks)
    | plantUml =>
        exact (List.append_nil _).trans (PlantUml.filterMap_readMessage?_lines numbered blanks)

/-! ## Labels that are hard to read -/

/-- A call whose label looks like another message, with a remark below it. -/
def Diagram.exchange (remark : String) : Diagram :=
  let first : Participant := ⟨⟨"a.py", "a", "count"⟩, 1⟩
  let second : Participant := ⟨⟨"a.py", "b", "repo"⟩, 2⟩
  { entry := .countdown
    registry := ⟨[⟨first, "a.py"⟩, ⟨second, "a.py"⟩], true⟩
    messages := [⟨first, second, "f(x: int,\n    p2 -->>- p1: 2. g())", "1", .call⟩,
      ⟨second, second, remark, "1", .note⟩, ⟨second, first, "", "1", .return⟩] }

theorem Diagram.exchange_tells :
    let s : Settings := {}
    let d := exchange "wait\nlonger"
    d.SingleLine ∧ (∀ m ∈ d.messages, '\n' ∉ m.number.toList ∧ ' ' ∉ m.number.toList) ∧
      s.omitSequenceNumbers = false ∧ '\n' ∉ s.diagramTheme.toList ∧
      Format.mermaid.readParticipants (d.markup .mermaid s) =
        [("p1", "a.py/a<br>:count"), ("p2", "a.py/b<br>:repo")] ∧
      Format.mermaid.readMessages (d.markup .mermaid s) =
        [⟨.call, some "p1", "p2", "1", "f(x: int,<br>    p2 -->>- p1: 2. g())"⟩,
          ⟨.note, none, "p2", "1", "wait<br>longer"⟩,
          ⟨.return, some "p2", "p1", "1", "return value"⟩] := by
  intro s d
  have single : d.SingleLine := by decide +kernel
  have numbers : ∀ m ∈ d.messages, '\n' ∉ m.number.toList ∧ ' ' ∉ m.number.toList := by decide
  have theme : '\n' ∉ s.diagramTheme.toList := by decide
  obtain ⟨_, rfl, read⟩ := d.markup_tells s single numbers rfl theme
  obtain ⟨-, participants, messages⟩ := read .mermaid
  refine ⟨single, numbers, rfl, theme, participants.trans (by decide +kernel), ?_⟩
  exact messages.trans (by decide +kernel)

/-- The labels of messages as a language writes their line breaks, returns labelled as configured. -/
def Diagram.writtenLabels (d : Diagram) (s : Settings) (f : Format) : List String :=
  d.messages.map fun m =>
    withBreaks f.lineBreak (if m.kind = .return then s.returnMessageLabel else m.label)

/-- A note without a label cannot be told from one with the label that stands in for it. -/
theorem Diagram.exchange_untold :
    (∀ remark ∈ ["", truncationNote], (exchange remark).SingleLine ∧
      ∀ m ∈ (exchange remark).messages, m.number = "1") ∧
    ∀ f : Format, ¬ ∃ recover : String → List String, ∀ remark ∈ ["", truncationNote],
      recover ((exchange remark).markup f {}) = (exchange remark).writtenLabels {} f := by
  refine ⟨by decide +kernel, fun f => ?_⟩
  rintro ⟨recover, right⟩
  have unlabelled := right "" (by simp)
  have labelled := right truncationNote (by simp)
  have same : (exchange "").markup f {} = (exchange truncationNote).markup f {} := by
    cases f <;> rfl
  rw [same, labelled] at unlabelled
  revert unlabelled
  cases f <;> decide +kernel

end CallDiagram
