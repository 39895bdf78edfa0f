import CallDiagram.Diagram.Markup
import CallDiagram.Proofs.Diagram.Numbering

/-! # Reading diagrams

A reader who goes through the text of a diagram line by line and looks at the first words of each
can tell its arrows and activations from everything else. Either language tells him the same: what
the messages say, in their order.
-/

namespace CallDiagram

open Text

/-- What a reader takes from a diagram; participants are known by their ids. -/
inductive Step where
  | call (sender receiver : String)
  | return (sender receiver : String)
  | activate (participant : String)
  | deactivate (participant : String)
  deriving Repr, DecidableEq

/-- What a message says: a call activates its receiver, a return deactivates its sender. -/
def Message.steps (m : Message) : List Step :=
  match m.kind with
  | .call => [.call m.sender.id m.receiver.id, .activate m.receiver.id]
  | .return => [.return m.sender.id m.receiver.id, .deactivate m.sender.id]
  | .note => []

/-! ## Words -/

def words (line : String) : List String :=
  (splitOnChar ' ' line.toList).map String.ofList

theorem words_append (before after : String) :
    words (before ++ " " ++ after) = words before ++ words after := by
  have blank : " ".toList = [' '] := rfl
  rw [words, String.toList_append, String.toList_append, blank, List.append_assoc,
    List.singleton_append, splitOnChar_append, List.map_append]
  rfl

theorem words_of_notMem {word : String} (single : ' ' ∉ word.toList) : words word = [word] := by
  rw [words, splitOnChar_eq_singleton single, List.map_singleton, String.ofList_toList]

/-- The words of an arrow between two participants. -/
theorem words_arrow {sender receiver : String} (arrow behind : String)
    (ends : ' ' ∉ sender.toList ∧ ' ' ∉ receiver.toList) (middle : ' ' ∉ arrow.toList) :
    words (sender ++ " " ++ arrow ++ " " ++ receiver ++ " " ++ behind) =
      sender :: arrow :: receiver :: words behind := by
  rw [words_append, words_append, words_append, words_of_notMem ends.1, words_of_notMem middle,
    words_of_notMem ends.2]
  rfl

theorem words_cons (word : String) (single : ' ' ∉ word.toList) (rest : String) :
    words (word ++ " " ++ rest) = word :: words rest := by
  rw [words_append, words_of_notMem single, List.singleton_append]

/-- What begins with a character that is no blank has a first word that begins with it. -/
theorem words_of_head {c : Char} (line : String) (head : line.toList.head? = some c)
    (solid : c ≠ ' ') :
    ∃ word others, words line = word :: others ∧ word.toList.head? = some c := by
  obtain ⟨rest, whole⟩ := List.head?_eq_some_iff.mp head
  cases pieces : splitOnChar ' ' rest with
  | nil => exact absurd pieces (splitOnChar_ne_nil ' ' rest)
  | cons piece others =>
      refine ⟨String.ofList (c :: piece), others.map String.ofList, ?_, ?_⟩
      · rw [words, whole, splitOnChar, if_neg solid, pieces, List.map_cons]
      · rw [String.toList_ofList, List.head?_cons]

theorem words_indented (line : String) :
    words ("    " ++ line) = "" :: "" :: "" :: "" :: words line := by
  simp [words, splitOnChar]

theorem toList_id (p : Participant) : p.id.toList = 'p' :: p.number.repr.toList :=
  String.toList_append

theorem notMem_id {c : Char} (other : c ≠ 'p') (noDigit : c.isDigit = false) (p : Participant) :
    c ∉ p.id.toList := by
  rw [toList_id]
  intro member
  rcases List.mem_cons.mp member with rfl | member
  · exact other rfl
  · exact notMem_repr noDigit p.number member

theorem blank_notMem_id (p : Participant) : ' ' ∉ p.id.toList :=
  notMem_id (by decide) (by decide) p

theorem title_eq (d : Diagram) :
    ∃ rest, d.title = "Sequence" ++ " " ++ ("diagram" ++ " " ++ rest) := by
  refine ⟨"of " ++ d.entryName ++ "() of " ++ d.entryPath, ?_⟩
  change "Sequence diagram of " ++ d.entryName ++ "() of " ++ d.entryPath = _
  simp [← String.toList_inj]

/-! ## Lines -/

def textLines (text : String) : List String :=
  (splitOnChar '\n' text.toList).map String.ofList

theorem textLines_append (before after : String) :
    textLines (before ++ "\n" ++ after) = textLines before ++ textLines after := by
  have feed : "\n".toList = ['\n'] := rfl
  rw [textLines, String.toList_append, String.toList_append, feed, List.append_assoc,
    List.singleton_append, splitOnChar_append, List.map_append]
  rfl

theorem textLines_of_notMem {line : String} (single : '\n' ∉ line.toList) :
    textLines line = [line] := by
  rw [textLines, splitOnChar_eq_singleton single, List.map_singleton, String.ofList_toList]

/-- A text has the lines of its parts, and an empty one behind the last. -/
theorem textLines_joined (parts : List String) (some : parts ≠ []) :
    textLines ("\n".intercalate parts ++ "\n") = parts.flatMap textLines ++ [""] := by
  have empty : textLines "" = [""] := textLines_of_notMem (by decide)
  have ended (text : String) : textLines (text ++ "\n") = textLines text ++ [""] := by
    rw [← empty, ← textLines_append, String.append_empty]
  rw [ended]
  congr 1
  induction parts with
  | nil => exact absurd rfl some
  | cons part rest ih =>
      cases rest with
      | nil => rw [String.intercalate_singleton, List.flatMap_singleton]
      | cons next others =>
          rw [String.intercalate_cons_cons, textLines_append, ih (List.cons_ne_nil _ _),
            List.flatMap_cons (x := part)]

theorem notMem_splitOn {c : Char} {cs piece : List Char}
    (member : piece ∈ splitOn [c] (List.cons_ne_nil _ _) cs) : c ∉ piece := by
  intro inside
  obtain ⟨before, behind, rfl⟩ := List.append_of_mem inside
  exact not_infix_of_mem_splitOn _ member ⟨before, behind, by simp⟩

/-- A character that is replaced is gone, unless it is put in again. -/
theorem notMem_replace {c : Char} {new : List Char} (absent : c ∉ new) (cs : List Char) :
    c ∉ replace [c] (List.cons_ne_nil _ _) new cs := by
  have joined : ∀ pieces : List (List Char), (∀ piece ∈ pieces, c ∉ piece) →
      c ∉ joinWith new pieces := by
    intro pieces free
    induction pieces with
    | nil => exact List.not_mem_nil
    | cons piece others ih =>
        have first := free piece List.mem_cons_self
        have later := ih fun piece member => free piece (List.mem_cons_of_mem _ member)
        cases others with
        | nil => exact first
        | cons next rest => simp [joinWith, first, absent, later]
  exact joined _ fun piece => notMem_splitOn

/-! ## PlantUML -/

namespace PlantUml

/-- Activations have a line of their own. -/
def readLine (line : String) : List Step :=
  match words line with
  | ["activate", participant] => [.activate participant]
  | ["deactivate", participant] => [.deactivate participant]
  | sender :: "->" :: receiver :: _ => [.call sender receiver]
  | sender :: "-->" :: receiver :: _ => [.return sender receiver]
  | _ => []

theorem readLine_other {line first second : String} {rest : List String}
    (read : words line = first :: second :: rest)
    (keyword : first ∉ ["activate", "deactivate"]) (arrow : second ∉ ["->", "-->"]) :
    readLine line = [] := by
  simp only [readLine, read]
  split <;> simp_all

theorem readLine_title (d : Diagram) : readLine ("title " ++ d.title) = [] := by
  obtain ⟨rest, title⟩ := title_eq d
  have line : "title " ++ d.title =
      "title" ++ " " ++ ("Sequence" ++ " " ++ ("diagram" ++ " " ++ rest)) := by
    simp [title]
  have read : words ("title " ++ d.title) = "title" :: "Sequence" :: "diagram" :: words rest := by
    rw [line, words_cons _ (by decide), words_cons _ (by decide), words_cons _ (by decide)]
  exact readLine_other read (by decide) (by decide)

theorem readLine_participantLine (l : Lifeline) : readLine (participantLine l) = [] := by
  have line : participantLine l =
      "participant" ++ " " ++ ("\"" ++ l.caption lineBreak ++ "\" as " ++ l.id) := by
    simp [participantLine, ← String.toList_inj]
  obtain ⟨word, others, quoted, head⟩ := words_of_head (c := '"')
    ("\"" ++ l.caption lineBreak ++ "\" as " ++ l.id) (by simp) (by decide)
  have read : words (participantLine l) = "participant" :: word :: others := by
    rw [line, words_cons _ (by decide), quoted]
  refine readLine_other read (by decide) fun arrow => ?_
  simp only [List.mem_cons, List.not_mem_nil, or_false] at arrow
  rcases arrow with rfl | rfl <;> cases head

theorem readLine_call (p q : Participant) (label : String) :
    readLine (s!"{p.id} -> {q.id} : " ++ label) = [.call p.id q.id] := by
  have line (a b : String) : s!"{a} -> {b} : " ++ label =
      a ++ " " ++ "->" ++ " " ++ b ++ " " ++ (": " ++ label) := by
    change a ++ " -> " ++ b ++ " : " ++ label = _
    simp [← String.toList_inj]
  have read := words_arrow "->" (": " ++ label)
    ⟨blank_notMem_id p, blank_notMem_id q⟩ (by decide)
  simp only [line, readLine, read]

theorem readLine_return (p q : Participant) (label : String) :
    readLine (s!"{p.id} --> {q.id} : " ++ label) = [.return p.id q.id] := by
  have line (a b : String) : s!"{a} --> {b} : " ++ label =
      a ++ " " ++ "-->" ++ " " ++ b ++ " " ++ (": " ++ label) := by
    change a ++ " --> " ++ b ++ " : " ++ label = _
    simp [← String.toList_inj]
  have read := words_arrow "-->" (": " ++ label)
    ⟨blank_notMem_id p, blank_notMem_id q⟩ (by decide)
  simp only [line, readLine, read]

theorem readLine_note (p : Participant) (label : String) :
    readLine (s!"note over {p.id} : " ++ label) = [] := by
  have line (a : String) : s!"note over {a} : " ++ label =
      "note" ++ " " ++ "over" ++ " " ++ a ++ " " ++ (": " ++ label) := by
    change "note over " ++ a ++ " : " ++ label = _
    simp [← String.toList_inj]
  have read : words ("note" ++ " " ++ "over" ++ " " ++ p.id ++ " " ++ (": " ++ label)) = _ :=
    words_arrow "over" (": " ++ label) ⟨by decide, blank_notMem_id p⟩ (by decide)
  rw [line]
  exact readLine_other read (by decide) (by decide)

theorem readLine_activate (p : Participant) :
    readLine ("activate " ++ p.id) = [.activate p.id] := by
  have line : "activate " ++ p.id = "activate" ++ " " ++ p.id := by simp
  simp only [line, readLine, words_cons "activate" (by decide),
    words_of_notMem (blank_notMem_id p)]

theorem readLine_deactivate (p : Participant) :
    readLine ("deactivate " ++ p.id) = [.deactivate p.id] := by
  have line : "deactivate " ++ p.id = "deactivate" ++ " " ++ p.id := by simp
  simp only [line, readLine, words_cons "deactivate" (by decide),
    words_of_notMem (blank_notMem_id p)]

theorem flatMap_readLine_messageLines (s : Settings) (m : Message) :
    (messageLines s m).flatMap readLine = m.steps := by
  obtain ⟨sender, receiver, label, number, kind⟩ := m
  cases kind <;>
    simp [messageLines, Message.steps, readLine_call, readLine_return, readLine_note,
      readLine_activate, readLine_deactivate]

theorem flatMap_readLine_lines (s : Settings) (d : Diagram) :
    (lines s d).flatMap readLine = d.messages.flatMap Message.steps := by
  have participants : (d.registry.lifelines.map participantLine).flatMap readLine = [] := by
    simp [List.flatMap_map, readLine_participantLine]
  have messages : (d.messages.flatMap (messageLines s)).flatMap readLine =
      d.messages.flatMap Message.steps := by
    simp only [List.flatMap_assoc, flatMap_readLine_messageLines]
  have top : ["@startuml", "title " ++ d.title, "", "' -- Styling --",
      "skinparam sequenceArrowThickness 2", "skinparam participantPadding 20", "",
      "' -- Participants --"].flatMap readLine = [] := by
    have first : readLine "@startuml" = [] := by decide
    simp only [List.flatMap_cons, readLine_title, first, List.nil_append]
    decide
  have middle : ["", "' -- Sequence --"].flatMap readLine = [] := by decide
  have bottom : ["", "@enduml"].flatMap readLine = [] := by decide
  simp only [lines, List.flatMap_append, participants, messages, top, middle, bottom,
    List.nil_append, List.append_nil]

end PlantUml

/-! ## Mermaid -/

namespace Mermaid

/-- The id in front of a label. -/
def labelled (word : String) : String :=
  String.ofList (word.toList.takeWhile (· ≠ ':'))

/-- Activations are signs behind the arrows. -/
def readLine (line : String) : List Step :=
  match (words line).dropWhile (· = "") with
  | sender :: "->>+" :: receiver :: _ =>
    [.call sender (labelled receiver), .activate (labelled receiver)]
  | sender :: "-->>-" :: receiver :: _ =>
    [.return sender (labelled receiver), .deactivate sender]
  | _ => []

theorem labelled_id (p : Participant) : labelled (p.id ++ ":") = p.id := by
  have plain : ∀ c ∈ p.id.toList, decide (c ≠ ':') = true := by
    intro c member
    refine decide_eq_true fun same => ?_
    subst same
    exact notMem_id (by decide) (by decide) p member
  have behind : ":".toList.takeWhile (· ≠ ':') = [] := by decide
  rw [labelled, String.toList_append, List.takeWhile_append_of_pos plain, behind, List.append_nil,
    String.ofList_toList]

theorem readLine_indented (line : String) : readLine ("    " ++ line) = readLine line := by
  have blank : ((words ("    " ++ line)).dropWhile (· = "")) = (words line).dropWhile (· = "") := by
    rw [words_indented]
    rfl
  rw [readLine, readLine, blank]

theorem readLine_other {line first second : String} {rest : List String}
    (read : words line = first :: second :: rest) (solid : first ≠ "")
    (arrow : second ∉ ["->>+", "-->>-"]) : readLine line = [] := by
  simp only [readLine, read, List.dropWhile_cons_of_neg (p := (· = "")) (by simpa using solid)]
  split <;> simp_all

theorem readLine_title (d : Diagram) : readLine ("    title " ++ d.title) = [] := by
  obtain ⟨rest, title⟩ := title_eq d
  have line : "    title " ++ d.title =
      "    " ++ ("title" ++ " " ++ "Sequence" ++ " " ++ "diagram" ++ " " ++ rest) := by
    simp [title, ← String.toList_inj]
  have read : words ("title" ++ " " ++ "Sequence" ++ " " ++ "diagram" ++ " " ++ rest) = _ :=
    words_arrow "Sequence" rest ⟨by decide, by decide⟩ (by decide)
  rw [line, readLine_indented]
  exact readLine_other read (by decide) (by decide)

theorem readLine_theme (theme : String) :
    readLine ("%%\x7binit: \x7b'theme':'" ++ theme ++ "'\x7d\x7d%%") = [] := by
  have line : "%%\x7binit: \x7b'theme':'" ++ theme ++ "'\x7d\x7d%%" =
      "%%\x7binit:" ++ " " ++ ("\x7b'theme':'" ++ theme ++ "'\x7d\x7d%%") := by
    simp [← String.toList_inj]
  obtain ⟨word, others, braced, head⟩ := words_of_head (c := '\x7b')
    ("\x7b'theme':'" ++ theme ++ "'\x7d\x7d%%") (by simp) (by decide)
  rw [line]
  refine readLine_other (words_cons _ (by decide) _ |>.trans (by rw [braced])) (by decide)
    fun arrow => ?_
  simp only [List.mem_cons, List.not_mem_nil, or_false] at arrow
  rcases arrow with rfl | rfl <;> cases head

theorem readLine_participantLine (l : Lifeline) : readLine (participantLine l) = [] := by
  have line (a caption : String) : s!"    participant {a} as " ++ caption =
      "    " ++ ("participant" ++ " " ++ a ++ " " ++ "as" ++ " " ++ caption) := by
    change "    participant " ++ a ++ " as " ++ caption = _
    simp [← String.toList_inj]
  have whole : participantLine l = _ := line l.id (l.caption lineBreak)
  have read (caption : String) :
      words ("participant" ++ " " ++ l.id ++ " " ++ "as" ++ " " ++ caption) = _ :=
    words_arrow l.id caption ⟨by decide, by decide⟩ (blank_notMem_id l.toParticipant)
  have head : l.id.toList.head? = some 'p' := by rw [toList_id, List.head?_cons]
  have noArrow : l.id ∉ ["->>+", "-->>-"] := by
    intro arrow
    simp only [List.mem_cons, List.not_mem_nil, or_false] at arrow
    rcases arrow with same | same <;> (rw [same] at head; exact absurd head (by decide))
  rw [whole]
  exact (readLine_indented _).trans (readLine_other (read _) (by decide) noArrow)

/-- The first words of a message between two participants. -/
theorem dropWhile_words_arrow (arrow : String) (middle : ' ' ∉ arrow.toList) (p q : Participant)
    (label : String) :
    (words (p.id ++ " " ++ arrow ++ " " ++ (q.id ++ ":") ++ " " ++ label)).dropWhile (· = "") =
      p.id :: arrow :: (q.id ++ ":") :: words label := by
  have receiver : ' ' ∉ (q.id ++ ":").toList := by
    rw [String.toList_append, List.mem_append]
    exact not_or.mpr ⟨blank_notMem_id q, by decide⟩
  have solid : p.id ≠ "" := by
    intro empty
    have none := toList_id p
    rw [empty] at none
    cases none
  rw [words_arrow arrow label ⟨blank_notMem_id p, receiver⟩ middle, List.dropWhile_cons, if_neg]
  exact fun empty => solid (of_decide_eq_true empty)

theorem readLine_call (p q : Participant) (label : String) :
    readLine (s!"    {p.id} ->>+ {q.id}: " ++ label) = [.call p.id q.id, .activate q.id] := by
  have line (a b : String) : s!"    {a} ->>+ {b}: " ++ label =
      "    " ++ (a ++ " " ++ "->>+" ++ " " ++ (b ++ ":") ++ " " ++ label) := by
    change "    " ++ a ++ " ->>+ " ++ b ++ ": " ++ label = _
    simp [← String.toList_inj]
  rw [line, readLine_indented]
  simp only [readLine, dropWhile_words_arrow "->>+" (by decide), labelled_id]

theorem readLine_return (p q : Participant) (label : String) :
    readLine (s!"    {p.id} -->>- {q.id}: " ++ label) = [.return p.id q.id, .deactivate p.id] := by
  have line (a b : String) : s!"    {a} -->>- {b}: " ++ label =
      "    " ++ (a ++ " " ++ "-->>-" ++ " " ++ (b ++ ":") ++ " " ++ label) := by
    change "    " ++ a ++ " -->>- " ++ b ++ ": " ++ label = _
    simp [← String.toList_inj]
  rw [line, readLine_indented]
  simp only [readLine, dropWhile_words_arrow "-->>-" (by decide), labelled_id]

theorem readLine_note (p : Participant) (label : String) :
    readLine (s!"    Note over {p.id}: " ++ label) = [] := by
  have line (a : String) : s!"    Note over {a}: " ++ label =
      "    " ++ ("Note" ++ " " ++ "over" ++ " " ++ (a ++ ": " ++ label)) := by
    change "    Note over " ++ a ++ ": " ++ label = _
    simp [← String.toList_inj]
  have read (rest : String) : words ("Note" ++ " " ++ "over" ++ " " ++ rest) =
      "Note" :: "over" :: words rest := by
    rw [words_append, words_cons _ (by decide), words_of_notMem (by decide)]
    rfl
  rw [line, readLine_indented]
  exact readLine_other (read _) (by decide) (by decide)

theorem readLine_messageLine (s : Settings) (m : Message) :
    readLine (messageLine s m) = m.steps := by
  obtain ⟨sender, receiver, label, number, kind⟩ := m
  cases kind
  case call => exact readLine_call sender receiver _
  case «return» => exact readLine_return sender receiver _
  case note => exact readLine_note receiver _

theorem flatMap_readLine_lines (s : Settings) (d : Diagram) :
    (lines s d).flatMap readLine = d.messages.flatMap Message.steps := by
  have participants : (d.registry.lifelines.map participantLine).flatMap readLine = [] := by
    simp [List.flatMap_map, readLine_participantLine]
  have messages : (d.messages.map (messageLine s)).flatMap readLine =
      d.messages.flatMap Message.steps := by
    simp only [List.flatMap_map, readLine_messageLine]
  have heading : readLine "sequenceDiagram" = [] := by decide
  have empty : readLine "" = [] := by decide
  simp only [lines, List.flatMap_append, List.flatMap_cons, List.flatMap_nil, participants,
    messages, readLine_theme, readLine_title, heading, empty, List.nil_append]

end Mermaid

end CallDiagram
