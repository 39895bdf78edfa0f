import CallDiagram.Proofs.Index.Collected
import CallDiagram.Proofs.Index.Steps
import CallDiagram.Proofs.Table

/-! # What a module names

The tables of a module are entered together with its list of definitions and its list of class
statements: whatever function or method a name stands for is in the one, whatever class in the
other, and each has the name that it is entered under.
-/

namespace CallDiagram.Index

open Source

/-- Every name of a module stands for something of that name that the module lists. -/
structure Module.Sound (m : Module) : Prop where
  functions : ∀ e ∈ m.functions, e.2.name = e.1 ∧ e.2 ∈ Node.items m
  methods : ∀ c ∈ m.classStatements, ∀ e ∈ c.methods, e.2.name = e.1 ∧ e.2 ∈ Node.items m
  classes : ∀ c ∈ m.classStatements, c.item.kind = .classType ∧ c.item.name = c.name
  places : ∀ e ∈ m.classPlaces, (m.classStatements.map (·.name))[e.2]? = some e.1

theorem mem_modify {α : Type} {u : α → α} {l : List α} {i : Nat} {b : α}
    (h : b ∈ l.modify i u) : b ∈ l ∨ ∃ a ∈ l, b = u a := by
  obtain ⟨j, hj⟩ := List.mem_iff_getElem?.mp h
  rw [List.getElem?_modify] at hj
  obtain ⟨a, ha, rfl⟩ := Option.map_eq_some_iff.mp hj
  have member := List.mem_of_getElem? ha
  by_cases here : i = j
  · exact .inr ⟨a, member, by simp [here]⟩
  · exact .inl (by simpa [here] using member)

namespace Module.Sound

variable {m : Module} {s : Setting} {scope : Scope}

theorem empty (path name : String) (isPackage : Bool) :
    Module.Sound ⟨path, name, isPackage, [], [], [], [], []⟩ where
  functions := by simp
  methods := by simp
  classes := by simp
  places := by simp

/-- The bodies of definitions, the attributes of instances and the imports do not matter. -/
theorem congr {m' : Module} (sound : m.Sound) (functions : m'.functions = m.functions)
    (items : Node.items m' = Node.items m)
    (statements : m'.classStatements.map (fun c => (c.name, c.item, c.methods)) =
      m.classStatements.map fun c => (c.name, c.item, c.methods))
    (places : m'.classPlaces = m.classPlaces) : m'.Sound := by
  have known : ∀ c' ∈ m'.classStatements, ∃ c ∈ m.classStatements,
      c.name = c'.name ∧ c.item = c'.item ∧ c.methods = c'.methods := by
    intro c' member
    have listed : (c'.name, c'.item, c'.methods) ∈
        m.classStatements.map fun c => (c.name, c.item, c.methods) := by
      rw [← statements]
      exact List.mem_map_of_mem member
    simpa using listed
  have titles := congrArg (List.map Prod.fst) statements
  rw [List.map_map, List.map_map] at titles
  constructor
  · rw [functions, items]
    exact sound.functions
  · intro c' member
    obtain ⟨c, listed, -, -, same⟩ := known c' member
    rw [items, ← same]
    exact sound.methods c listed
  · intro c' member
    obtain ⟨c, listed, name, item, -⟩ := known c' member
    rw [← name, ← item]
    exact sound.classes c listed
  · intro e member
    rw [places] at member
    exact (congrArg (·[e.2]?) titles).trans (sound.places e member)

theorem recordCalls (sound : m.Sound) (calls : List CallReference) :
    (Index.recordCalls scope calls m).Sound := by
  refine sound.congr ?_ Node.items_recordCalls ?_ Node.classPlaces_recordCalls
  · rw [Index.recordCalls]
    split <;> rfl
  · rw [Node.classStatements_recordCalls]

theorem statements_recordType (target : Expr) (type : Option String) :
    (Index.recordType s scope target type m).classStatements.map
        (fun c => (c.name, c.item, c.methods)) =
      m.classStatements.map fun c => (c.name, c.item, c.methods) := by
  unfold Index.recordType
  split
  · split
    · rfl
    · split
      · split
        · refine Node.map_modify_of_eq ?_ ..
          intro
          rfl
        · rfl
      · rfl
    · rfl
  · rfl

theorem recordType (sound : m.Sound) (target : Expr) (type : Option String) :
    (Index.recordType s scope target type m).Sound := by
  have same : Node.Agrees m (Index.recordType s scope target type m) :=
    Node.agrees_recordType target type
  refine sound.congr ?_ same.items (statements_recordType target type) same.places
  unfold Index.recordType
  repeat' split
  all_goals rfl

theorem items_addFunction (item : Item) :
    Node.items (Index.addFunction scope item m) = Node.items m ++ [item] := by
  simp [Node.items, Node.definitions_addFunction]

theorem functions_addFunction {item : Item} {e : String × Item}
    (h : e ∈ (Index.addFunction scope item m).functions) :
    e = (item.name, item) ∨ e ∈ m.functions := by
  unfold Index.addFunction at h
  split at h
  · split at h <;> exact .inr h
  · split at h
    · exact Table.mem_set h
    · exact .inr h

theorem statements_addFunction {item : Item} {c : ClassInfo}
    (h : c ∈ (Index.addFunction scope item m).classStatements) :
    c ∈ m.classStatements ∨ ∃ old ∈ m.classStatements,
      c = { old with methods := old.methods.setDefault item.name item } := by
  rw [Node.classStatements_addFunction] at h
  split at h
  · exact mem_modify h
  · exact .inl h

/-- A function is entered under its name, as a method or as a function of the module. -/
theorem addFunction (sound : m.Sound) (item : Item) :
    (Index.addFunction scope item m).Sound where
  functions e member := by
    rw [items_addFunction]
    rcases functions_addFunction member with rfl | old
    · exact ⟨rfl, List.mem_append_right _ (List.mem_singleton_self _)⟩
    · exact (sound.functions e old).imp_right (List.mem_append_left _)
  methods c member e method := by
    rw [items_addFunction]
    rcases statements_addFunction member with old | ⟨old, listed, rfl⟩
    · exact (sound.methods c old e method).imp_right (List.mem_append_left _)
    · rcases Table.mem_setDefault method with rfl | known
      · exact ⟨rfl, List.mem_append_right _ (List.mem_singleton_self _)⟩
      · exact (sound.methods old listed e known).imp_right (List.mem_append_left _)
  classes c member := by
    rcases statements_addFunction member with old | ⟨old, listed, rfl⟩
    · exact sound.classes c old
    · exact sound.classes old listed
  places e member := by
    rw [Node.classPlaces_addFunction] at member
    rw [← sound.places e member, Node.classStatements_addFunction]
    split
    · refine congrArg (·[e.2]?) (Node.map_modify_of_eq ?_ ..)
      intro
      rfl
    · rfl

theorem addClass (sound : m.Sound) {item : Item} (kind : item.kind = .classType)
    (bases : List Expr) : (Index.addClass scope item bases m).Sound where
  functions := sound.functions
  methods c member := by
    rcases List.mem_append.mp member with old | new
    · exact sound.methods c old
    · rw [List.mem_singleton.mp new]
      exact fun e none => absurd none List.not_mem_nil
  classes c member := by
    rcases List.mem_append.mp member with old | new
    · exact sound.classes c old
    · rw [List.mem_singleton.mp new]
      exact ⟨kind, rfl⟩
  places e member := by
    have titles : (Index.addClass scope item bases m).classStatements.map (·.name) =
        m.classStatements.map (·.name) ++ [item.name] := List.map_append
    rw [titles]
    have listed : e ∈ m.classPlaces → (m.classStatements.map (·.name) ++ [item.name])[e.2]? =
        some e.1 := fun old => Node.getElem?_append_of_some (sound.places e old)
    unfold Index.addClass at member
    dsimp only at member
    split at member
    · rcases Table.mem_set member with rfl | old
      · simp
      · exact listed old
    · exact listed member

end Module.Sound

theorem keeps_sound (s : Setting) : Keeps s Module.Sound where
  calls _ calls sound := sound.recordCalls calls
  type _ target type sound := sound.recordType target type
  imports _ sound := ⟨sound.functions, sound.methods, sound.classes, sound.places⟩
  function _ _ _ sound := sound.addFunction _
  classDef _ _ bases sound := sound.addClass rfl bases

theorem sound_moduleIndex (s : Setting) (statements : List Stmt) :
    (moduleIndex s statements).Sound :=
  (keeps_sound s).moduleIndex statements (.empty ..)

/-! ## Look-ups -/

namespace Module

variable {m : Module} {name : String} {c : ClassInfo} {item : Item}

theorem mem_classStatements_of_mem_classes (h : c ∈ m.classes) : c ∈ m.classStatements := by
  obtain ⟨place, -, found⟩ := List.mem_filterMap.mp h
  exact List.mem_of_getElem? found

theorem mem_classes_of_class? (h : m.class? name = some c) : c ∈ m.classes := by
  obtain ⟨place, entered, found⟩ := Option.bind_eq_some_iff.mp h
  exact List.mem_filterMap.mpr ⟨place, Table.mem_values_of_get? entered, found⟩

theorem Sound.name_of_class? (sound : m.Sound) (h : m.class? name = some c) : c.name = name := by
  obtain ⟨place, entered, found⟩ := Option.bind_eq_some_iff.mp h
  have title := sound.places _ (Table.mem_of_get? entered)
  rw [List.getElem?_map, found] at title
  exact Option.some.inj title

theorem Sound.method (sound : m.Sound) (listed : c ∈ m.classStatements)
    (h : c.methods.get? name = some item) : item.name = name ∧ item ∈ Node.items m :=
  sound.methods c listed _ (Table.mem_of_get? h)

theorem Sound.function (sound : m.Sound) (h : m.functions.get? name = some item) :
    item.name = name ∧ item ∈ Node.items m :=
  sound.functions _ (Table.mem_of_get? h)

/-- What a name stands for in a module is a function or a class of that name. -/
theorem Sound.member (sound : m.Sound) (h : m.member? name = some item) :
    item.name = name ∧ (item ∈ Node.items m ∨ ∃ c ∈ m.classes, c.item = item) := by
  unfold member? at h
  split at h
  · next found =>
    cases h
    exact (sound.function found).imp_right .inl
  · obtain ⟨c, found, rfl⟩ := Option.map_eq_some_iff.mp h
    have listed := mem_classes_of_class? found
    have named := (sound.classes c (mem_classStatements_of_mem_classes listed)).2
    exact ⟨named.trans (sound.name_of_class? found), .inr ⟨c, listed, rfl⟩⟩

end Module

end CallDiagram.Index
