import CallDiagram.Proofs.Diagram.Numbering
import CallDiagram.Proofs.Index.Sound

/-! # Identities and files

Behind the file, an identity holds the name and where the declaration starts, and neither holds
a `#`. So the identity of a definition tells its file, and files with different paths enter their
definitions under different identities.
-/

namespace CallDiagram

open Source

theorem Text.ne_of_mem_reverse {sep : Char} {cs : List Char} (absent : sep ∉ cs) :
    ∀ c ∈ cs.reverse, decide (c ≠ sep) = true := by
  intro c member
  have different : c ≠ sep := fun same => absent (same ▸ List.mem_reverse.mp member)
  exact decide_eq_true different

theorem Text.partitionLast_append {sep : Char} (before : List Char) {after : List Char}
    (absent : sep ∉ after) : partitionLast sep (before ++ sep :: after) = (before, after) := by
  have skipped := ne_of_mem_reverse absent
  have turned : (before ++ sep :: after).reverse = after.reverse ++ sep :: before.reverse := by simp
  dsimp only [partitionLast]
  rw [turned, List.dropWhile_append_of_pos skipped, List.takeWhile_append_of_pos skipped]
  simp

theorem Source.IsWord.notMem {text : String} (word : IsWord text) {c : Char}
    (stop : prolongsWord c = false) : c ∉ text.toList := by
  intro member
  rw [List.all_eq_true.mp word c member] at stop
  cases stop

theorem Position.notMem_toString {c : Char} (noDigit : c.isDigit = false) (noSign : c ≠ '-')
    (noColon : c ≠ ':') (p : Position) : c ∉ (toString p).toList := by
  have written : toString p = p.line.repr ++ ":" ++ p.character.repr := rfl
  rw [written, String.toList_append, String.toList_append]
  simp [notMem_repr_int noDigit noSign, noColon]

/-- The file, as far as the last `#` of the identity. -/
theorem Item.partitionLast_identity (i : Item) (word : IsWord i.name) :
    (Text.partitionLast '#' i.identity.toList).1 = i.uri.toList := by
  have written : i.identity = i.uri ++ "#" ++ i.name ++ "@" ++ toString i.range.start := rfl
  have split : i.identity.toList =
      i.uri.toList ++ '#' :: (i.name.toList ++ '@' :: (toString i.range.start).toList) := by
    simp [written]
  have absent : '#' ∉ i.name.toList ++ '@' :: (toString i.range.start).toList := by
    simp [word.notMem (c := '#') (by decide), Position.notMem_toString]
  rw [split, Text.partitionLast_append _ absent]

theorem Item.uri_eq_of_identity_eq {i j : Item} (word : IsWord i.name) (word' : IsWord j.name)
    (same : i.identity = j.identity) : i.uri = j.uri := by
  rw [← String.toList_inj, ← i.partitionLast_identity word, same, j.partitionLast_identity word']

namespace Index

/-- A module is entered under a path and a name, and its definitions stand in the file of that
path under words for names. -/
structure Module.Placed (file title : String) (m : Module) : Prop where
  path : m.path = file
  name : m.name = title
  items : ∀ item ∈ Node.items m, item.uri = file ∧ IsWord item.name

namespace Module.Placed

variable {file title : String} {s : Setting} {scope : Scope} {m m' : Module}

theorem congr (placed : m.Placed file title) (path : m'.path = m.path)
    (name : m'.name = m.name) (items : Node.items m' = Node.items m) :
    m'.Placed file title where
  path := path.trans placed.path
  name := name.trans placed.name
  items := items ▸ placed.items

theorem recordCalls (placed : m.Placed file title) (calls : List CallReference) :
    (Index.recordCalls scope calls m).Placed file title := by
  refine placed.congr ?_ ?_ Node.items_recordCalls <;>
  · unfold Index.recordCalls
    split <;> rfl

theorem recordType (placed : m.Placed file title) (target : Expr) (type : Option String) :
    (Index.recordType s scope target type m).Placed file title := by
  refine placed.congr ?_ ?_ (Node.agrees_recordType target type).items <;>
  · unfold Index.recordType
    repeat' split
    all_goals rfl

theorem addFunction (placed : m.Placed s.path title) (heading : Heading)
    (decorators : List Expr) :
    (Index.addFunction scope (functionItem s scope heading decorators) m).Placed s.path title where
  path := by
    rw [← placed.path]
    unfold Index.addFunction
    repeat' split
    all_goals rfl
  name := by
    rw [← placed.name]
    unfold Index.addFunction
    repeat' split
    all_goals rfl
  items item member := by
    rw [Module.Sound.items_addFunction] at member
    rcases List.mem_append.mp member with old | new
    · exact placed.items item old
    · rw [List.mem_singleton.mp new]
      exact ⟨rfl, heading.spelled⟩

/-- Definitions with one identity stand in one file. -/
theorem file_eq {file' title' : String} (placed : m.Placed file title)
    (placed' : m'.Placed file' title') {d d' : Definition} (listed : d ∈ m.definitions)
    (listed' : d' ∈ m'.definitions) (same : d.item.identity = d'.item.identity) :
    file = file' := by
  obtain ⟨uri, word⟩ := placed.items d.item (List.mem_map_of_mem listed)
  obtain ⟨uri', word'⟩ := placed'.items d'.item (List.mem_map_of_mem listed')
  rw [← uri, ← uri', Item.uri_eq_of_identity_eq word word' same]

end Module.Placed

theorem keeps_placed (s : Setting) : Keeps s (Module.Placed s.path s.moduleName) where
  calls _ calls placed := placed.recordCalls calls
  type _ target type placed := placed.recordType target type
  imports _ placed := ⟨placed.path, placed.name, placed.items⟩
  function _ heading decorators placed := placed.addFunction heading decorators
  classDef _ _ _ placed := ⟨placed.path, placed.name, placed.items⟩

theorem placed_moduleIndex (s : Setting) (statements : List Stmt) :
    (moduleIndex s statements).Placed s.path s.moduleName :=
  (keeps_placed s).moduleIndex statements ⟨rfl, rfl, fun _ none => absurd none List.not_mem_nil⟩

end Index

end CallDiagram
