import CallDiagram.Proofs.Index.Declared
import CallDiagram.Proofs.Index.Order

/-! # Graphs that are built from files

A file that is read again replaces its module under its path, under its name and under the
identities of its definitions. So all that a look-up meets are the modules that the paths stand
for now, and a class statement or a definition among them is known by its identity.
-/

namespace CallDiagram.Index

open Source

/-- The module lists what its file declares. -/
structure Module.Fills (m : Module) (file : String) : Prop where
  path : m.path = file
  classes : ∀ item ∈ m.classItems, IsNamedIn file item
  definitions : ∀ item ∈ Node.items m, IsNamedIn file item
  distinct : m.Distinct

theorem fills_moduleIndex (s : Setting) {text : String} {statements : List Stmt}
    (parsed : parseModule text = .ok statements) : (moduleIndex s statements).Fills s.path where
  path := (placed_moduleIndex s statements).path
  classes _ listed := isNamedIn_of_mem (declares_moduleIndex s statements).classes listed
  definitions _ listed := isNamedIn_of_mem (declares_moduleIndex s statements).definitions listed
  distinct := distinct_moduleIndex parsed

namespace Module.Fills

variable {m m' : Module} {file file' : String}

theorem definition_eq (fills : m.Fills file) {d d' : Definition} (listed : d ∈ m.definitions)
    (listed' : d' ∈ m.definitions) (same : d.item.identity = d'.item.identity) : d = d' := by
  have distinct := fills.distinct.definitions
  rw [Node.items, List.map_map] at distinct
  exact List.inj_on_of_nodup_map distinct listed listed' same

theorem class_eq (fills : m.Fills file) {c c' : ClassInfo} (listed : c ∈ m.classStatements)
    (listed' : c' ∈ m.classStatements) (same : c.item.identity = c'.item.identity) : c = c' := by
  have distinct := fills.distinct.classes
  rw [classItems, List.map_map] at distinct
  exact List.inj_on_of_nodup_map distinct listed listed' same

end Module.Fills

theorem IsNamedIn.file_eq {file file' : String} {i j : Item} (named : IsNamedIn file i)
    (named' : IsNamedIn file' j) (same : i.identity = j.identity) : file = file' := by
  rw [← named.1, ← named'.1, Item.uri_eq_of_identity_eq named.2 named'.2 same]

namespace ProjectGraph

variable {g : ProjectGraph} {m m' : Module}

theorem fills_of_readModule {file : Path} {code : String} (h : g.readModule file code = .ok m) :
    m.Fills file.toString ∧ m.name = g.moduleName file := by
  unfold readModule at h
  obtain ⟨statements, parsed, made⟩ := bind_eq_ok.mp h
  cases made
  exact ⟨fills_moduleIndex _ parsed, (placed_moduleIndex ..).name⟩

/-- A graph of files that were read one after the other under paths that can be read back. -/
inductive Built : ProjectGraph → Prop where
  | empty (root : Path) (selfTokens : List String) : Built { root, selfTokens }
  | add {g : ProjectGraph} {file : Path} (code : String) :
      Path.ofString file.toString = file → Built g → Built (g.add file code)
  | fail {g : ProjectGraph} (name : String) :
      Built g → Built { g with failed := g.failed ++ [name] }

theorem Built.grown (built : g.Built) : g.Grown := by
  induction built with
  | empty root selfTokens => exact .empty root selfTokens
  | add code _ _ ih => exact ih.add _ code
  | fail name _ ih => exact ih.fail name

theorem Built.addAll (built : g.Built) (files : List (Path × String))
    (proper : ∀ file ∈ files, Path.ofString file.1.toString = file.1) : (g.addAll files).Built := by
  induction files generalizing g with
  | nil => exact built
  | cons file files ih =>
      obtain ⟨first, others⟩ := List.forall_mem_cons.mp proper
      exact ih (built.add file.2 first) others

/-- Whatever a name or an identity stands for is the module of a path, or is in one. -/
structure Current (g : ProjectGraph) : Prop where
  modules : ∀ {path m}, g.modules.get? path = some m →
    m.Fills path ∧ m.name = g.moduleName (.ofString path)
  names : ∀ {name m}, g.modulesByName.get? name = some m →
    m.name = name ∧ g.modules.get? m.path = some m
  definitions : ∀ {path m}, g.modules.get? path = some m → ∀ d ∈ m.definitions,
    g.definitionOf? d.item = some ⟨d, m⟩

/-- A definition is entered with the module that stands for its file now: those of the module that
is read replace what had their identities, and the files of other modules enter others. -/
theorem Current.definitionOf?_insert (before : g.Current) {file path : String}
    (fills : m.Fills file) (found : (g.insert m).modules.get? path = some m') {d : Definition}
    (listed : d ∈ m'.definitions) : (g.insert m).definitionOf? d.item = some ⟨d, m'⟩ := by
  have found := (Table.get?_set ..).symm.trans found
  rw [definitionOf?, get?_definitions_insert]
  cases entered : m.definitions.reverse.find? (·.item.identity = d.item.identity) with
  | some d' =>
      have listed' := List.mem_reverse.mp (List.mem_of_find?_eq_some entered)
      have same : d'.item.identity = d.item.identity := by
        simpa using List.find?_some entered
      split at found
      · cases found
        rw [fills.definition_eq listed' listed same]
        rfl
      · next other =>
        have named := fills.definitions d'.item (List.mem_map_of_mem listed')
        have named' := (before.modules found).1.definitions d.item (List.mem_map_of_mem listed)
        exact (other (fills.path.trans (named.file_eq named' same))).elim
  | none =>
      split at found
      · cases found
        have absent := List.find?_eq_none.mp entered d (List.mem_reverse.mpr listed)
        exact (absent (by simp)).elim
      · exact before.definitions found d listed

theorem Current.insert (before : g.Current) {file : String} (fills : m.Fills file)
    (name : m.name = g.moduleName (.ofString file)) : (g.insert m).Current where
  modules {path m'} found := by
    have found := (Table.get?_set ..).symm.trans found
    split at found
    · next here =>
      cases found
      rw [← here, fills.path]
      exact ⟨fills, name⟩
    · exact before.modules found
  names {title m'} found := by
    have found := (Table.get?_set ..).symm.trans found
    have entered := Table.get?_set g.modules m.path m'.path m
    split at found
    · next here =>
      cases found
      exact ⟨here, entered.trans (if_pos rfl)⟩
    · next other =>
      obtain ⟨named, current⟩ := before.names found
      refine ⟨named, entered.trans ?_⟩
      split
      · next here =>
        have same := (before.modules current).2
        rw [← here, fills.path, ← name, named] at same
        exact (other same.symm).elim
      · exact current
  definitions found _ listed := before.definitionOf?_insert fills found listed

theorem Built.current (built : g.Built) : g.Current := by
  induction built with
  | empty root selfTokens => exact ⟨nofun, nofun, nofun⟩
  | @add g file code proper _ ih =>
      unfold ProjectGraph.add
      split
      · next m read =>
        obtain ⟨fills, name⟩ := fills_of_readModule read
        exact ih.insert fills (by rw [proper, name])
      · exact ⟨ih.modules, ih.names, ih.definitions⟩
  | fail name _ ih => exact ⟨ih.modules, ih.names, ih.definitions⟩

theorem built_ofFiles {t : FileTree} (formed : t.WellFormed) (root : Path)
    (selfTokens : List String) : (ofFiles t root selfTokens).Built := by
  have read : ∀ (places : List Place) (g : ProjectGraph), (∀ p ∈ places, p ∈ t.places) → g.Built →
      (places.foldl (fun g p => g.addFile t p) g).Built := by
    intro places
    induction places with
    | nil => exact fun _ _ built => built
    | cons p places ih =>
        intro g known built
        obtain ⟨here, later⟩ := List.forall_mem_cons.mp known
        refine ih _ later ?_
        have names := formed.isFileName (FileTree.isTaken_iff.mpr (.inr here))
        unfold addFile
        dsimp only
        split
        · exact built.add _ (Path.ofString_toString names)
        · exact built.fail _
  exact read _ _ (fun p listed => (mem_sourcePlaces.mp listed).1) (.empty root selfTokens)

/-! ## Class statements -/

/-- The class statement stands in the module of a path. -/
def ListsClass (g : ProjectGraph) (c : ClassInfo) : Prop :=
  ∃ path m, g.modules.get? path = some m ∧ c ∈ m.classStatements

variable {c c' base : ClassInfo} {name : String}

theorem Built.class_eq (built : g.Built) (listed : g.ListsClass c)
    (listed' : g.ListsClass c') (same : c.item.identity = c'.item.identity) : c = c' := by
  obtain ⟨path, m, home, member⟩ := listed
  obtain ⟨path', m', home', member'⟩ := listed'
  have current := built.current
  have fills := (current.modules home).1
  have named := fills.classes c.item (List.mem_map_of_mem member)
  have named' := (current.modules home').1.classes c'.item (List.mem_map_of_mem member')
  cases named.file_eq named' same
  cases home.symm.trans home'
  exact fills.class_eq member member' same

theorem listsClass_of_class? {path : String} (home : g.modules.get? path = some m)
    (h : m.class? name = some c) : g.ListsClass c :=
  ⟨path, m, home, Module.mem_classStatements_of_mem_classes (Module.mem_classes_of_class? h)⟩

theorem Built.listsClass_of_classByDotted? (built : g.Built)
    (h : g.classByDotted? name = some c) : g.ListsClass c := by
  obtain ⟨m, home, found⟩ := Option.bind_eq_some_iff.mp h
  exact listsClass_of_class? (built.current.names home).2 found

theorem Built.listsClass_of_classByName? (built : g.Built) {allowUnique : Bool} {path : String}
    (home : g.modules.get? path = some m)
    (h : g.classByName? m name allowUnique = some c) : g.ListsClass c := by
  unfold classByName? at h
  split at h
  · next own =>
    cases h
    exact listsClass_of_class? home own
  · split at h
    · next imported =>
      cases h
      obtain ⟨dotted, -, found⟩ := Option.bind_eq_some_iff.mp imported
      exact built.listsClass_of_classByDotted? found
    · split at h
      · obtain ⟨m', listed, found⟩ := List.mem_filterMap.mp (mem_of_only? h)
        obtain ⟨⟨path', _⟩, entry, rfl⟩ := List.mem_map.mp listed
        have home' := Table.get?_of_mem built.grown.distinct.1 entry
        exact listsClass_of_class? home' found
      · cases h

theorem mem_classIdentities (listed : g.ListsClass c) : c.item.identity ∈ g.classIdentities := by
  obtain ⟨path, m, home, member⟩ := listed
  have known := List.mem_append_left g.modulesByName.values (Table.mem_values_of_get? home)
  exact List.mem_flatMap.mpr ⟨m, known, List.mem_map_of_mem member⟩

end ProjectGraph

end CallDiagram.Index
