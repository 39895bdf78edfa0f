import CallDiagram.Index.Build
import CallDiagram.Proofs.Index.Sound

/-! # Graphs that grow file by file

Whatever files a graph has read, in whatever order and how often, its modules are sound, and every
definition that a module of the graph lists is entered under its identity.
-/

namespace CallDiagram.Index.ProjectGraph

open Source

/-- A graph of modules that were read one after the other. -/
inductive Grown : ProjectGraph → Prop where
  | empty (root : Path) (selfTokens : List String) : Grown { root, selfTokens }
  | insert {g : ProjectGraph} (s : Setting) (statements : List Stmt) :
      Grown g → Grown (g.insert (moduleIndex s statements))
  | fail {g : ProjectGraph} (name : String) :
      Grown g → Grown { g with failed := g.failed ++ [name] }

variable {g : ProjectGraph} {m : Module}

theorem exists_of_readModule {file : Path} {code : String} (h : g.readModule file code = .ok m) :
    ∃ s statements, s.path = file.toString ∧ s.moduleName = g.moduleName file ∧
      m = moduleIndex s statements := by
  unfold readModule at h
  cases parsed : Source.parseModule code with
  | error e => rw [parsed] at h; cases h
  | ok statements =>
      rw [parsed] at h
      cases h
      exact ⟨_, statements, rfl, rfl, rfl⟩

theorem Grown.add (grown : g.Grown) (file : Path) (code : String) : (g.add file code).Grown := by
  unfold ProjectGraph.add
  split
  · next m read =>
    obtain ⟨s, statements, -, -, rfl⟩ := exists_of_readModule read
    exact grown.insert s statements
  · exact grown.fail file.name

/-- The graph after some more files have been read. -/
def addAll (g : ProjectGraph) (files : List (Path × String)) : ProjectGraph :=
  files.foldl (fun g file => g.add file.1 file.2) g

/-- A module that is imported, and the one that calls a function of it. -/
def importing : List (Path × String) :=
  [(⟨.root, ["p", "b.py"]⟩, "def run():\n    pass\n"),
    (⟨.root, ["p", "a.py"]⟩, "import b\n\ndef f():\n    b.run()\n")]

theorem Grown.addAll (grown : g.Grown) (files : List (Path × String)) : (g.addAll files).Grown := by
  induction files generalizing g with
  | nil => exact grown
  | cons file files ih => exact ih (grown.add file.1 file.2)

theorem Grown.addFile (grown : g.Grown) (t : FileTree) (p : Place) : (g.addFile t p).Grown := by
  unfold ProjectGraph.addFile
  split
  · exact grown.add _ _
  · exact grown.fail _

/-- The module is known by its path, by its name or through one of its definitions. -/
def Holds (g : ProjectGraph) (m : Module) : Prop :=
  m ∈ g.modules.values ∨ m ∈ g.modulesByName.values ∨ ∃ d ∈ g.definitions.values, d.module = m

theorem holds_iff : g.Holds m ↔
    m ∈ g.modules.values ++ g.modulesByName.values ++ g.definitions.values.map (·.module) := by
  simp [Holds]

/-- Of the definitions with an identity, the last of the module counts, else what was known. -/
theorem get?_definitions_insert (g : ProjectGraph) (m : Module) (identity : String) :
    (g.insert m).definitions.get? identity =
      ((m.definitions.reverse.find? (·.item.identity = identity)).map (⟨·, m⟩)).or
        (g.definitions.get? identity) := by
  have entered : ∀ (ds : List Definition) (known : Table String Indexed),
      (ds.foldl (fun known d => Table.set known d.item.identity ⟨d, m⟩) known).get? identity =
        ((ds.reverse.find? (·.item.identity = identity)).map (⟨·, m⟩)).or
          (known.get? identity) := by
    intro ds
    induction ds with
    | nil => exact fun _ => rfl
    | cons d ds ih =>
        intro known
        rw [List.foldl_cons, ih, List.reverse_cons, List.find?_append, Table.get?_set]
        cases ds.reverse.find? (·.item.identity = identity) with
        | some last => simp
        | none => by_cases same : d.item.identity = identity <;> simp [same]
  exact entered _ _

theorem mem_definitions_insert {e : String × Indexed} (h : e ∈ (g.insert m).definitions) :
    e ∈ g.definitions ∨ ∃ d ∈ m.definitions, e = (d.item.identity, ⟨d, m⟩) := by
  have entered : ∀ (ds : List Definition) (known : Table String Indexed),
      e ∈ ds.foldl (fun known d => Table.set known d.item.identity ⟨d, m⟩) known →
        e ∈ known ∨ ∃ d ∈ ds, e = (d.item.identity, ⟨d, m⟩) := by
    intro ds
    induction ds with
    | nil => exact fun _ h => .inl h
    | cons d ds ih =>
        intro known h
        rcases ih _ h with set | ⟨d', listed, same⟩
        · rcases Table.mem_set set with same | old
          · exact .inr ⟨d, List.mem_cons_self, same⟩
          · exact .inl old
        · exact .inr ⟨d', List.mem_cons_of_mem _ listed, same⟩
  exact entered _ _ h

theorem holds_insert {m' : Module} (h : (g.insert m).Holds m') : m' = m ∨ g.Holds m' := by
  rcases h with byPath | byName | ⟨d, listed, rfl⟩
  · exact (Table.mem_values_set byPath).imp_right .inl
  · exact (Table.mem_values_set byName).imp_right (.inr ∘ .inl)
  · obtain ⟨e, member, rfl⟩ := List.mem_map.mp listed
    rcases mem_definitions_insert member with old | ⟨d, -, rfl⟩
    · exact .inr (.inr (.inr ⟨e.2, List.mem_map_of_mem old, rfl⟩))
    · exact .inl rfl

theorem isSome_definitions_insert {d : Definition} (h : d ∈ m.definitions) :
    ((g.insert m).definitions.get? d.item.identity).isSome := by
  have found : (m.definitions.reverse.find? (·.item.identity = d.item.identity)).isSome :=
    List.find?_isSome.mpr ⟨d, List.mem_reverse.mpr h, by simp⟩
  rw [get?_definitions_insert, Option.isSome_or, Option.isSome_map, found, Bool.true_or]

/-- Modules are sound, and definitions are entered under their identities. -/
structure Consistent (g : ProjectGraph) : Prop where
  sound : ∀ m, g.Holds m → m.Sound
  listed : ∀ e ∈ g.definitions,
    e.1 = e.2.definition.item.identity ∧ e.2.definition ∈ e.2.module.definitions
  entered : ∀ m, g.Holds m → ∀ d ∈ m.definitions, (g.definitions.get? d.item.identity).isSome

theorem consistent_insert (before : g.Consistent) (sound : m.Sound) : (g.insert m).Consistent where
  sound m' held := by
    rcases holds_insert held with rfl | old
    · exact sound
    · exact before.sound m' old
  listed e member := by
    rcases mem_definitions_insert member with old | ⟨d, listed, rfl⟩
    · exact before.listed e old
    · exact ⟨rfl, listed⟩
  entered m' held d listed := by
    rcases holds_insert held with rfl | old
    · exact isSome_definitions_insert listed
    · rw [get?_definitions_insert, Option.isSome_or, before.entered m' old d listed, Bool.or_true]

theorem Grown.consistent (grown : g.Grown) : g.Consistent := by
  induction grown with
  | empty root selfTokens =>
      have nothing : ∀ m, ¬ Holds { root, selfTokens } m := by
        simp [Holds, Table.values]
      refine ⟨fun m held => absurd held (nothing m), ?_, fun m held => absurd held (nothing m)⟩
      intro e member
      exact absurd member List.not_mem_nil
  | insert s statements _ ih => exact consistent_insert ih (sound_moduleIndex s statements)
  | fail name _ ih => exact ⟨ih.sound, ih.listed, ih.entered⟩

end CallDiagram.Index.ProjectGraph
