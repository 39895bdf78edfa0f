import CallDiagram.Proofs.Traversal.Enrolment
import CallDiagram.Proofs.Traversal.Protocol

/-! # The names of objects

A call on the same object goes to the object of the caller, any other call to the object that the
text names. What stands for the same object is no dotted name, so no name that is read can be taken
for it, whichever tokens are left out. Thus all objects but that of the entry have names that a text
can hold in front of a dot.
-/

namespace CallDiagram

/-! ## Qualifiers -/

/-- A name of ASCII letters, digits, underscores and dots. -/
def IsDottedName (name : String) : Prop :=
  ∀ c ∈ name.toList, c.isAlphanum = true ∨ c = '_' ∨ c = '.'

theorem isDottedName_empty : IsDottedName "" := by
  simp [IsDottedName]

theorem IsDottedName.of_qualifierChars {cs : List Char}
    (all : ∀ c ∈ cs, Document.isQualifierChar c = true) : IsDottedName (String.ofList cs) := by
  intro c member
  rw [String.toList_ofList] at member
  have allowed := all c member
  simp only [Document.isQualifierChar, Bool.or_eq_true, beq_iff_eq] at allowed
  tauto

theorem IsDottedName.ne_sameObject {name : String} (dotted : IsDottedName name) :
    name ≠ Qualifier.sameObject.text := by
  rintro rfl
  have bracket := dotted '<' (by decide)
  revert bracket
  decide

/-- A qualifier that is a name only names an object, and no text can name the same object. -/
def Qualifier.IsLiteral : Qualifier → Prop
  | .sameObject => True
  | .named name => IsDottedName name

/-- Leaving out a token leaves characters of the text. -/
theorem Qualifier.isLiteral_normalize (tokens : List String) {qualifier : List Char}
    (all : ∀ c ∈ qualifier, Document.isQualifierChar c = true) :
    (normalize tokens qualifier).IsLiteral := by
  induction tokens with
  | nil => exact .of_qualifierChars all
  | cons token tokens ih =>
      rw [normalize]
      split
      · trivial
      · split
        · next rest cut =>
          rw [Text.afterPrefix?_eq_some_iff] at cut
          refine .of_qualifierChars fun c member => all c ?_
          rw [cut]
          exact List.mem_append_right _ member
        · exact ih

namespace Document

variable {d : Document} {tokens : List String} {name : Range}

theorem isLiteral_qualifier {qualifier : Qualifier}
    (read : d.qualifier tokens name = .ok qualifier) : qualifier.IsLiteral := by
  unfold Document.qualifier at read
  cases start : d.offsetAt name.start with
  | error e => simp [start, bind, Except.bind] at read
  | ok offset =>
      simp only [start, bind, Except.bind] at read
      split at read
      · obtain rfl := Except.ok.inj read
        refine Qualifier.isLiteral_normalize tokens fun c member => ?_
        exact List.mem_takeWhile_imp (List.mem_reverse.mp member)
      · obtain rfl := Except.ok.inj read
        exact isDottedName_empty

theorem isLiteral_readCall : (d.readCall tokens name).1.qualifier.IsLiteral := by
  unfold readCall
  split
  · exact isDottedName_empty
  · exact isDottedName_empty
  · split
    · exact isDottedName_empty
    · next read =>
      split <;> exact isLiteral_qualifier read

theorem isLiteral_readSite {signature : Option (Document × Range)} :
    (d.readSite tokens name signature).1.qualifier.IsLiteral := by
  have same := congrArg SiteReading.qualifier (d.readSite_withoutArguments tokens name signature)
  change (d.readSite tokens name signature).1.qualifier = (d.readCall tokens name).1.qualifier at same
  rw [same]
  exact isLiteral_readCall

end Document

theorem Provider.isLiteral_of_shownCalls {p : Provider} {s : Settings} {function : Item}
    {site : CallSite} (shown : site ∈ p.shownCalls s function) : site.reading.qualifier.IsLiteral := by
  rw [shownCalls, Traversal.keptSites_eq] at shown
  split at shown
  · have unsorted := (List.mergeSort_perm _ _).mem_iff.mp (List.mem_filter.mp shown).1
    obtain ⟨⟨target, range⟩, -, rfl⟩ := List.mem_map.mp unsorted
    exact Document.isLiteral_readSite
  · exact absurd shown List.not_mem_nil

/-! ## Objects along the calls -/

namespace Provider

variable {p : Provider} {s : Settings} {entry : Item}

/-- On the way down, the name of an object is passed on or read anew. -/
theorem Targets.objectName {number name : String} {target : Item}
    (leads : p.Targets s entry number target name) : name = entry.name ∨ IsDottedName name := by
  induction leads with
  | entry => exact .inl rfl
  | @call number name node site index above listed ih =>
      have literal := isLiteral_of_shownCalls (List.fst_mem_of_mem_zipIdx listed)
      cases read : site.reading.qualifier with
      | sameObject => exact ih
      | named given =>
          rw [read] at literal
          exact .inr literal

theorem Shows.isLiteral {c : NotedCall} (shows : p.Shows s entry c) :
    c.site.reading.qualifier.IsLiteral := by
  obtain ⟨above, index, -, listed, -⟩ := shows.site
  exact isLiteral_of_shownCalls (List.fst_mem_of_mem_zipIdx listed)

theorem Shows.objectName {c : NotedCall} (shows : p.Shows s entry c) :
    c.message.receiver.key.objectName =
      if c.site.reading.qualifier.text = "<self>" then c.message.sender.key.objectName
      else c.site.reading.qualifier.text := by
  have literal := shows.isLiteral
  rw [shows.receiver]
  cases read : c.site.reading.qualifier with
  | sameObject => exact (if_pos rfl).symm
  | named given =>
      rw [read] at literal
      exact (if_neg literal.ne_sameObject).symm

theorem Shows.receiver_objectName {c : NotedCall} (shows : p.Shows s entry c) :
    c.message.receiver.key.objectName = entry.name ∨
      IsDottedName c.message.receiver.key.objectName := by
  obtain ⟨above, index, leads, listed, -⟩ := shows.site
  rw [shows.receiver]
  exact (leads.call listed).objectName

/-- Every call goes to the object that its text names, that of the caller where it names the same
object; and no object has a name that stands for the same object. -/
theorem diagram_objectNames (p : Provider) (s : Settings) (entry : Item)
    (named : entry.name ≠ "<self>") (cancelAt : Option Nat) (d : Diagram)
    (built : (p.diagram s entry cancelAt).1 = .ok d) :
    (∃ calls : List NotedCall, calls.map (·.message) = d.calls ∧
      ∀ c ∈ calls, p.Shows s entry c ∧ c.message.receiver.key.objectName =
        if c.site.reading.qualifier.text = "<self>" then c.message.sender.key.objectName
        else c.site.reading.qualifier.text) ∧
      ∀ q ∈ d.registry.participants, q.key.objectName ≠ "<self>" ∧
        (q.key.objectName = entry.name ∨
          ∀ c ∈ q.key.objectName.toList, c.isAlphanum = true ∨ c = '_' ∨ c = '.') := by
  have engine : (Engine.build { provider := p, settings := s } entry cancelAt).1.1 = .ok d := built
  obtain ⟨calls, rfl, protocol⟩ := Engine.protocol_of_built engine
  refine ⟨⟨calls, protocol.all, fun c member => ?_⟩, fun q member => ?_⟩
  · have shows := protocol.shows c member
    exact ⟨shows, shows.objectName⟩
  · have objectName : q.key.objectName = d.entry.name ∨ IsDottedName q.key.objectName := by
      have appears := List.mem_map_of_mem (f := (·.key)) member
      rw [(diagram_enrols p s d.entry cancelAt d built).order, List.mem_eraseDups] at appears
      rcases List.mem_cons.mp appears with first | called
      · rw [first]
        exact .inl rfl
      · obtain ⟨m, call, same⟩ := List.mem_map.mp called
        have noted : m ∈ calls.map (·.message) := protocol.all ▸ call
        obtain ⟨c, known, rfl⟩ := List.mem_map.mp noted
        rw [← same]
        exact (protocol.shows c known).receiver_objectName
    refine ⟨?_, objectName⟩
    rcases objectName with entered | dotted
    · rw [entered]
      exact named
    · exact dotted.ne_sameObject

end Provider

/-! ## A chain of calls on one object -/

def Item.opening : Item :=
  ⟨"main", .function, "/w/a.py", ⟨⟨0, 0⟩, ⟨1, 15⟩⟩, ⟨⟨0, 4⟩, ⟨0, 8⟩⟩, "main"⟩

def Item.middle : Item :=
  ⟨"step", .function, "/w/a.py", ⟨⟨2, 0⟩, ⟨3, 20⟩⟩, ⟨⟨2, 4⟩, ⟨2, 8⟩⟩, "step"⟩

def Item.closing : Item :=
  ⟨"save", .function, "/w/a.py", ⟨⟨4, 0⟩, ⟨5, 8⟩⟩, ⟨⟨4, 4⟩, ⟨4, 8⟩⟩, "save"⟩

/-- The first function calls the second on itself, the second calls the third on another object. -/
def Provider.delegating : Provider where
  prepare := fun _ _ => [.opening]
  findFunction? := fun _ _ => some .opening
  outgoingCalls := fun item =>
    if item = .opening then .ok [⟨.middle, [⟨⟨1, 9⟩, ⟨1, 13⟩⟩]⟩]
    else if item = .middle then .ok [⟨.closing, [⟨⟨3, 14⟩, ⟨3, 18⟩⟩]⟩]
    else .ok []
  sourceText := fun _ => .ok
    ("def main(self):\n    self.step()\n" ++ "def step(self):\n    self.repo.save()\n"
      ++ "def save():\n    pass\n")
  workspaceRoots := .ok ["/w"]
  containerName := fun _ _ => .ok none
  entryPoints := [.opening]

theorem Provider.delegating_objectNames :
    Item.opening.name ≠ "<self>" ∧ ∃ d, (delegating.diagram {} .opening).1 = .ok d ∧
      (∃ calls : List NotedCall, calls.map (·.message) = d.calls ∧
        ∀ c ∈ calls, c.message.receiver.key.objectName =
          if c.site.reading.qualifier.text = "<self>" then c.message.sender.key.objectName
          else c.site.reading.qualifier.text) ∧
      (∀ q ∈ d.registry.participants, q.key.objectName ≠ "<self>") ∧
      d.calls.map (fun m => (m.sender.key.objectName, m.receiver.key.objectName)) =
        [("main", "main"), ("main", "repo")] := by
  have named : Item.opening.name ≠ "<self>" := by decide
  obtain ⟨d, built⟩ := delegating.diagram_built {} .opening
  obtain ⟨⟨calls, all, objects⟩, names⟩ :=
    delegating.diagram_objectNames {} .opening named none d built
  have shown : (delegating.diagram {} .opening).1.toOption.map
      (·.calls.map fun m => (m.sender.key.objectName, m.receiver.key.objectName)) =
        some [("main", "main"), ("main", "repo")] := by
    decide +kernel
  rw [built] at shown
  exact ⟨named, d, built, ⟨calls, all, fun c member => (objects c member).2⟩,
    fun q member => (names q member).1, Option.some.inj shown⟩

end CallDiagram
